import QueryString.Text.Hex
import QueryString.Text.Decimal

/-!
# Hosts in brackets

What may stand between the brackets of a host: an IPv6 address, or an address of a later version,
which a letter v introduces. An IPv6 address is eight groups of up to four hexadecimal digits, where
one double colon may stand for the missing ones, and the last two groups may be written as an IPv4
address. A zone may follow after a percent sign.
-/

namespace QueryString.Uri.Host

/-- Tells whether a text is a number from 0 to 255 in one to three digits without a leading zero. -/
def isOctet (t : Text) : Bool :=
  !t.isEmpty && t.length ≤ 3 && t.all Decimal.isDigit && (t == ['0'] || t.head? != some '0')
    && Decimal.value t ≤ 255

/-- Tells whether a text is an IPv4 address: four octets with dots between them. -/
def isIPv4 (t : Text) : Bool :=
  let octets := Text.split '.' t
  octets.length == 4 && octets.all isOctet

/-- Tells whether a text is one to four hexadecimal digits. -/
def isGroup (t : Text) : Bool := !t.isEmpty && t.length ≤ 4 && t.all Hex.isDigit

/-- The texts between the colons; an empty text has none. -/
def groups (t : Text) : List Text := if t.isEmpty then [] else Text.split ':' t

/-- How many groups the texts are, if each of them is one. -/
def groupCount? (parts : List Text) : Option Nat :=
  if parts.all isGroup then some parts.length else none

/-- How many groups the texts are, where the last one may be an IPv4 address, which counts as
two. -/
def tailCount? (parts : List Text) : Option Nat :=
  if parts.getLast?.any isIPv4 then (groupCount? parts.dropLast).map (· + 2)
  else groupCount? parts

/-- What stands before the first double colon and what stands after it. -/
def cutDouble? : Text → Option (Text × Text)
  | [] => none
  | c :: rest =>
    if c = ':' ∧ rest.head? = some ':' then some ([], rest.tail)
    else (cutDouble? rest).map fun parts => (c :: parts.1, parts.2)

/-- Tells whether a text without a zone is an IPv6 address. A double colon stands for at least one
group. -/
def isAddress (t : Text) : Bool :=
  match cutDouble? t with
  | none => tailCount? (groups t) == some 8
  | some (before, after) =>
    match groupCount? (groups before), tailCount? (groups after) with
    | some m, some n => m + n < 8
    | _, _ => false

/-- Tells whether a text is an IPv6 address, with or without a zone. A zone is not empty and has no
second percent sign. -/
def isIPv6 (t : Text) : Bool :=
  let (address, zone) := Text.cut '%' t
  isAddress address && (!t.contains '%' || (!zone.isEmpty && !zone.contains '%'))

/-- Tells whether a text is a version in hexadecimal digits after the letter v, a dot, and an
address that is not empty. -/
def isFuture (t : Text) : Bool :=
  match t with
  | 'v' :: rest =>
    let version := rest.takeWhile Hex.isDigit
    match rest.drop version.length with
    | '.' :: address => !version.isEmpty && !address.isEmpty
    | _ => false
  | _ => false

example : isIPv6 "fe80::1%eth0".toList = true := by decide

example : isIPv6 "::ffff:1.2.3.4".toList = true := by decide

example : isIPv6 "1:2:3:4:5:6:7::8".toList = false := by decide

end QueryString.Uri.Host
