import QueryString.Charset.Basic

/-!
# UTF-8

Characters as one to four octets. The reader is a machine that takes one octet at a time: between
characters, or inside one, where it knows the range in which the next octet must lie. The ranges
rule out overlong forms, surrogates and numbers beyond the last code point, so an octet is refused
as soon as no character can come of it.

Two readers run the machine. `decode` stops at the first refusal and says what it was; `repair`
goes on, with one replacement character for each stretch of octets that began no character.
-/

namespace QueryString.Utf8

/-! ## Writing -/

/-- The octets of a character: the fewest that have room for its code. -/
def encodeChar (c : Char) : Bytes :=
  let n := c.toNat
  if n < 0x80 then [UInt8.ofNat n]
  else if n < 0x800 then [UInt8.ofNat (0xC0 + n / 0x40), UInt8.ofNat (0x80 + n % 0x40)]
  else if n < 0x10000 then
    [UInt8.ofNat (0xE0 + n / 0x1000), UInt8.ofNat (0x80 + n / 0x40 % 0x40),
      UInt8.ofNat (0x80 + n % 0x40)]
  else
    [UInt8.ofNat (0xF0 + n / 0x40000), UInt8.ofNat (0x80 + n / 0x1000 % 0x40),
      UInt8.ofNat (0x80 + n / 0x40 % 0x40), UInt8.ofNat (0x80 + n % 0x40)]

/-- The octets of a text. -/
def encode (t : Text) : Bytes := t.flatMap encodeChar

/-! ## The machine -/

/-- A character of which some octets have been read. -/
structure Begun where
  /-- The number that the octets so far contribute. -/
  value : Nat
  /-- How many octets are still owed after the next one. -/
  owed : Nat
  /-- The least octet that can come next. -/
  low : Nat
  /-- The greatest octet that can come next. -/
  high : Nat
deriving DecidableEq, Repr

/-- What comes of an octet. -/
inductive Outcome where
  /-- The octet completes a character. -/
  | complete (c : Char)
  /-- The character goes on. -/
  | more (begun : Begun)
  /-- No character goes on with the octet. -/
  | refused
deriving DecidableEq, Repr

/-- The octet as the first of a character. -/
def start (b : UInt8) : Outcome :=
  let n := b.toNat
  if n < 0x80 then .complete (Char.ofNat n)
  else if n < 0xC2 then .refused
  else if n < 0xE0 then .more ⟨n - 0xC0, 0, 0x80, 0xBF⟩
  else if n < 0xF0 then
    .more ⟨n - 0xE0, 1, if n = 0xE0 then 0xA0 else 0x80, if n = 0xED then 0x9F else 0xBF⟩
  else if n < 0xF5 then
    .more ⟨n - 0xF0, 2, if n = 0xF0 then 0x90 else 0x80, if n = 0xF4 then 0x8F else 0xBF⟩
  else .refused

/-- The octet as the next one of a character that has begun. -/
def Begun.next (p : Begun) (b : UInt8) : Outcome :=
  if p.low ≤ b.toNat ∧ b.toNat ≤ p.high then
    let value := p.value * 0x40 + (b.toNat - 0x80)
    match p.owed with
    | 0 => .complete (Char.ofNat value)
    | owed + 1 => .more ⟨value, owed, 0x80, 0xBF⟩
  else .refused

/-! ## Reading -/

/-- Reads on from inside a character, or from between two. -/
def decodeFrom : Option Begun → Bytes → Except ByteFault Text
  | none, [] => .ok []
  | some _, [] => .error .unexpectedEnd
  | none, b :: rest =>
    match start b with
    | .complete c => (decodeFrom none rest).map (c :: ·)
    | .more p => decodeFrom (some p) rest
    | .refused => .error .invalidStart
  | some p, b :: rest =>
    match p.next b with
    | .complete c => (decodeFrom none rest).map (c :: ·)
    | .more p => decodeFrom (some p) rest
    | .refused => .error .invalidContinuation

/-- The text that the octets write, or the first fault in them. -/
def decode (bs : Bytes) : Except ByteFault Text := decodeFrom none bs

/-- The character that stands for octets that are no text. -/
def replacement : Char := '\uFFFD'

/-- The text that an octet between characters completes, and the character that it begins. -/
def repairStart (b : UInt8) : Text × Option Begun :=
  match start b with
  | .complete c => ([c], none)
  | .more p => ([], some p)
  | .refused => ([replacement], none)

/-- The text that an octet completes, and the character that is then begun. An octet that breaks
off a character is read again as a first one. -/
def repairStep : Option Begun → UInt8 → Text × Option Begun
  | none, b => repairStart b
  | some p, b =>
    match p.next b with
    | .complete c => ([c], none)
    | .more p => ([], some p)
    -- One replacement for all octets of the character that breaks off, whatever the next one is.
    | .refused => (replacement :: (repairStart b).1, (repairStart b).2)

/-- Reads on past every fault. -/
def repairFrom : Option Begun → Bytes → Text
  | none, [] => []
  | some _, [] => [replacement]
  | p, b :: rest => (repairStep p b).1 ++ repairFrom (repairStep p b).2 rest

/-- The text that the octets write, with a replacement character for each stretch of octets that
breaks off. -/
def repair (bs : Bytes) : Text := repairFrom none bs

example : decode [0xE2, 0x82, 0xAC] = .ok ['€'] := by rfl

example : decode [0xE0, 0x80] = .error .invalidContinuation := by rfl

example : repair [0xF0, 0x9F, 0x41] = [replacement, 'A'] := by decide

end QueryString.Utf8
