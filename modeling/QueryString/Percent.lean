import QueryString.Charset.Utf8.Basic
import QueryString.Text.Hex

/-!
# Percent escapes

An escape is a percent sign and the two hexadecimal digits of an octet. Reading a text with escapes
goes through three forms: the text; its symbols, where an escape or an ASCII character is an octet
and any other character is itself; and its pieces, where neighbouring octets are together. Each
piece of octets is then read on its own, so a character beyond ASCII never completes what octets
before it began.

`read` leaves it to a function what octets stand for. `repair` is strict about nothing: it takes a
percent sign without digits as it stands and puts a replacement character for octets that are no
UTF-8.
-/

namespace QueryString.Percent

/-! ## Escapes that are none -/

/-- Tells whether a text begins with two hexadecimal digits. -/
def startsWithPair : Text → Bool
  | high :: low :: _ => Hex.isDigit high && Hex.isDigit low
  | _ => false

/-- The position of the first percent sign that two hexadecimal digits do not follow. -/
def badEscape? : Text → Option Nat
  | [] => none
  | c :: rest =>
    if c = '%' ∧ !startsWithPair rest then some 0 else (badEscape? rest).map (· + 1)

/-- A text without a percent sign has no escape, and none that is bad. -/
theorem badEscape?_of_not_mem {t : Text} (h : '%' ∉ t) : badEscape? t = none := by
  induction t with
  | nil => rfl
  | cons c rest ih =>
    simp only [List.mem_cons, not_or] at h
    simp [badEscape?, Ne.symm h.1, ih h.2]

/-! ## Symbols -/

/-- What an escape or a character stands for. -/
inductive Symbol where
  /-- An octet, written as an escape or as an ASCII character. -/
  | octet (b : UInt8)
  /-- A character beyond ASCII, written as itself. -/
  | literal (c : Char)
deriving DecidableEq, Repr

/-- The symbol of a character that belongs to no escape. -/
def Symbol.ofChar (c : Char) : Symbol :=
  if Text.isAscii c then octet (UInt8.ofNat c.toNat) else literal c

/-- The symbols of a text in order. A percent sign that begins no escape is a character like any
other. -/
def symbols : Text → List Symbol
  | [] => []
  | '%' :: high :: low :: rest =>
    match Hex.byte? high low with
    | some b => .octet b :: symbols rest
    -- The two characters may begin an escape themselves.
    | none => .ofChar '%' :: symbols (high :: low :: rest)
  | c :: rest => .ofChar c :: symbols rest
termination_by structural t => t

/-! ## Pieces -/

/-- A stretch of octets, or a character between two. -/
inductive Piece where
  | octets (bs : Bytes)
  /-- A character beyond ASCII. -/
  | literal (c : Char)
deriving DecidableEq, Repr

/-- The pieces of a list of symbols: no two pieces of octets are neighbours. -/
def pieces : List Symbol → List Piece
  | [] => []
  | .literal c :: rest => .literal c :: pieces rest
  | .octet b :: rest =>
    match pieces rest with
    | .octets bs :: others => .octets (b :: bs) :: others
    | others => .octets [b] :: others

/-- The text of a piece, where octets are read by a function. -/
def Piece.read {ε : Type} (readOctets : Bytes → Except ε Text) : Piece → Except ε Text
  | octets bs => readOctets bs
  | literal c => .ok [c]

/-- The text of a piece, with replacement characters for what is no UTF-8. -/
def Piece.repair : Piece → Text
  | octets bs => Utf8.repair bs
  | literal c => [c]

/-! ## Reading -/

/-- The text that symbols stand for, or the first failure to read their octets. -/
def readSymbols {ε : Type} (readOctets : Bytes → Except ε Text) (symbols : List Symbol) :
    Except ε Text :=
  ((pieces symbols).mapM (Piece.read readOctets)).map List.flatten

/-- The text that a text with escapes stands for, or the first failure to read its octets. -/
def read {ε : Type} (readOctets : Bytes → Except ε Text) (t : Text) : Except ε Text :=
  readSymbols readOctets (symbols t)

/-- The text that a text with escapes stands for in UTF-8, whatever its faults. -/
def repair (t : Text) : Text := (pieces (symbols t)).flatMap Piece.repair

/-! ## Writing -/

/-- Tells whether an octet is a letter, a digit or one of the four marks that never need an
escape. -/
def isUnreserved (b : UInt8) : Bool :=
  (0x41 ≤ b && b ≤ 0x5A) || (0x61 ≤ b && b ≤ 0x7A) || (0x30 ≤ b && b ≤ 0x39)
    || b == 0x5F || b == 0x2E || b == 0x2D || b == 0x7E

/-- The escape of an octet, in upper-case digits. -/
def escape (b : UInt8) : Text := '%' :: Hex.pair b

/-- An octet as its character if that may be kept, and as its escape otherwise. -/
def escapeUnless (keep : UInt8 → Bool) (b : UInt8) : Text :=
  if keep b then [Text.ofByte b] else escape b

/-- An escape reads back as its octet, whatever follows it. -/
theorem symbols_escape_append (b : UInt8) (rest : Text) :
    symbols (escape b ++ rest) = .octet b :: symbols rest := by
  simp [escape, Hex.pair, symbols, Hex.byte?_pair]

/-- A character other than the percent sign is a symbol of its own. -/
theorem symbols_cons_of_ne {c : Char} (h : c ≠ '%') (rest : Text) :
    symbols (c :: rest) = .ofChar c :: symbols rest := by
  rw [symbols]
  simp_all

end QueryString.Percent
