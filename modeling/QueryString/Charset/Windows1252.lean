import QueryString.Charset.Basic

/-!
# Windows-1252

An octet is the code point of the same number, except from hexadecimal 80 to 9F: there a table has
the characters, and five octets mean nothing.
-/

namespace QueryString.Windows1252

/-- The octets from 80 to 9F that have a meaning, with their characters. -/
def table : List (UInt8 × Char) :=
  [(0x80, '\u20AC'), (0x82, '\u201A'), (0x83, '\u0192'), (0x84, '\u201E'), (0x85, '\u2026'),
    (0x86, '\u2020'), (0x87, '\u2021'), (0x88, '\u02C6'), (0x89, '\u2030'), (0x8A, '\u0160'),
    (0x8B, '\u2039'), (0x8C, '\u0152'), (0x8E, '\u017D'), (0x91, '\u2018'), (0x92, '\u2019'),
    (0x93, '\u201C'), (0x94, '\u201D'), (0x95, '\u2022'), (0x96, '\u2013'), (0x97, '\u2014'),
    (0x98, '\u02DC'), (0x99, '\u2122'), (0x9A, '\u0161'), (0x9B, '\u203A'), (0x9C, '\u0153'),
    (0x9E, '\u017E'), (0x9F, '\u0178')]

/-- Tells whether a number is left to the table. -/
def inTable (n : Nat) : Bool := 0x80 ≤ n && n ≤ 0x9F

/-- The character of an octet. -/
def decodeByte? (b : UInt8) : Option Char :=
  if inTable b.toNat then table.lookup b else some (Text.ofByte b)

/-- The octet of a character. -/
def encodeChar? (c : Char) : Option UInt8 :=
  if c.toNat < 0x100 ∧ !inTable c.toNat then some (UInt8.ofNat c.toNat)
  else (table.find? (·.2 == c)).map (·.1)

/-- An octet that has a character is the octet of that character. -/
theorem encodeChar?_of_decodeByte? {b : UInt8} {c : Char} (h : decodeByte? b = some c) :
    encodeChar? c = some b := by
  unfold decodeByte? at h
  split at h
  · -- The table has each of its characters once, and none below 100.
    have hall : ∀ row ∈ table, encodeChar? row.2 = some row.1 := by decide
    obtain ⟨before, after, hrow, _⟩ := List.lookup_eq_some_iff.1 h
    exact hall (b, c) (hrow ▸ by simp)
  · rename_i hb
    have hlt := b.toNat_lt
    obtain rfl := Option.some.inj h
    simp [encodeChar?, hlt, hb]

end QueryString.Windows1252
