import QueryString.Text.Quoted
import QueryString.Uri.Host

/-!
# Addresses of requests

A URI is cut into scheme, authority, path, query and fragment. A request keeps the path and the
query, both as they stand; the authority is only looked at for what is wrong with it.
-/

namespace QueryString

/-- The two parts of a URI that a request keeps, with their escapes. -/
structure Uri where
  path : Text
  /-- The query, without its question mark. -/
  query : Text
deriving DecidableEq, Repr

namespace Uri

/-- What is wrong with the authority of a URI. -/
inductive Fault where
  /-- There is one kind of bracket without the other. -/
  | unpairedBracket
  /-- Something stands before the brackets, or something without a colon stands after them. -/
  | textBesideBrackets
  /-- The host begins as an address of a later version and is none. -/
  | badFutureAddress
  /-- The host in brackets is an IPv4 address. -/
  | bracketedIPv4
  /-- The host in brackets is no address. -/
  | notAnAddress (host : Text)
  /-- A character of the authority is a delimiter in compatibility form. -/
  | hiddenDelimiter (authority : Text)
deriving DecidableEq, Repr

/-- The fault in words. -/
def Fault.message : Fault → Text
  | unpairedBracket => "Invalid IPv6 URL".toList
  | textBesideBrackets => "Invalid IPv6 URL".toList
  | badFutureAddress => "IPvFuture address is invalid".toList
  | bracketedIPv4 => "An IPv4 address cannot be in brackets".toList
  | notAnAddress host =>
    Text.quoted host ++ " does not appear to be an IPv4 or IPv6 address".toList
  | hiddenDelimiter authority =>
    "netloc '".toList ++ authority
      ++ "' contains invalid characters under NFKC normalization".toList

/-! ## Cutting -/

/-- The text without the controls and spaces before it, and without tabs and line breaks. -/
def clean (t : Text) : Text :=
  (t.dropWhile (·.toNat ≤ 0x20)).filter fun c => c != '\t' && c != '\r' && c != '\n'

/-- Tells whether a character is an ASCII letter. -/
def isLetter (c : Char) : Bool := ('a' ≤ c && c ≤ 'z') || ('A' ≤ c && c ≤ 'Z')

theorem isLetter_iff {c : Char} :
    isLetter c ↔ (0x61 ≤ c.toNat ∧ c.toNat ≤ 0x7A) ∨ (0x41 ≤ c.toNat ∧ c.toNat ≤ 0x5A) := by
  simp only [isLetter, Bool.or_eq_true, Bool.and_eq_true, decide_eq_true_eq, Char.le_def,
    UInt32.le_iff_toNat_le]
  exact Iff.rfl

/-- Tells whether a text is a letter and then letters, digits, plus signs, hyphens and dots. -/
def isScheme (t : Text) : Bool :=
  t.head?.any isLetter
    && t.all fun c => isLetter c || Decimal.isDigit c || c == '+' || c == '-' || c == '.'

/-- What follows the scheme and its colon; everything, if there is no scheme. -/
def dropScheme (t : Text) : Text :=
  if t.contains ':' && isScheme (Text.cut ':' t).1 then (Text.cut ':' t).2 else t

/-- Tells whether a character ends an authority. -/
def endsAuthority (c : Char) : Bool := c == '/' || c == '?' || c == '#'

/-- The authority, which two slashes introduce, and what follows it. -/
def cutAuthority : Text → Text × Text
  | '/' :: '/' :: rest => (rest.takeWhile (!endsAuthority ·), rest.dropWhile (!endsAuthority ·))
  | t => ([], t)

/-- The path and the query of what follows the authority. -/
def ofRest (t : Text) : Uri :=
  let (path, query) := Text.cut '?' (Text.cut '#' t).1
  ⟨path, query⟩

/-! ## Checking the authority -/

/-- What is wrong with a host in brackets. -/
def hostFault? (host : Text) : Option Fault :=
  if host.head? = some 'v' then
    if Host.isFuture host then none else some .badFutureAddress
  else if Host.isIPv4 host then some .bracketedIPv4
  else if Host.isIPv6 host then none
  else some (.notAnAddress host)

/-- What is wrong with the brackets of an authority. The host is sought after the user name. -/
def bracketFault? (authority : Text) : Option Fault :=
  if authority.contains '[' != authority.contains ']' then some .unpairedBracket
  else if !authority.contains '[' then none
  else
    let server := Text.afterLast '@' authority
    if server.contains '[' then
      let (before, bracketed) := Text.cut '[' server
      let (host, after) := Text.cut ']' bracketed
      if !before.isEmpty || !(after.isEmpty || after.head? == some ':') then
        some .textBesideBrackets
      else hostFault? host
    else
      -- Both brackets stand in the user name, so the host is what comes before the colon.
      hostFault? (Text.cut ':' server).1

/-- The characters that compatibility normalization turns into a slash, a question mark, a number
sign, an at sign or a colon, alone or among others. -/
def hiddenDelimiters : Text :=
  ['\u2047', '\u2048', '\u2049', '\u2100', '\u2101', '\u2105', '\u2106', '\u2A74', '\uFE13',
    '\uFE16', '\uFE55', '\uFE56', '\uFE5F', '\uFE6B', '\uFF03', '\uFF0F', '\uFF1A', '\uFF1F',
    '\uFF20']

/-- What is wrong with an authority; the brackets are looked at first. -/
def authorityFault? (authority : Text) : Option Fault :=
  match bracketFault? authority with
  | some fault => some fault
  | none =>
    if authority.any hiddenDelimiters.contains then some (.hiddenDelimiter authority) else none

/-! ## Reading -/

/-- The path and the query of a URI, or what is wrong with its authority. -/
def parse (t : Text) : Except Fault Uri :=
  let (authority, rest) := cutAuthority (dropScheme (clean t))
  match authorityFault? authority with
  | some fault => .error fault
  | none => .ok (ofRest rest)

end Uri

end QueryString
