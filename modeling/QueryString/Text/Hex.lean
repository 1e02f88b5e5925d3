import QueryString.Text.Basic

/-!
# Hexadecimal digits

One alphabet for writing in lower case, one in upper case, and one reader that takes either.
Reading undoes writing (`value?_digit`, `value?_upperDigit`, `byte?_pair`).
-/

namespace QueryString.Hex

/-- The lower-case digit of a number below sixteen. -/
def digit (n : Nat) : Char := if n < 10 then Char.ofNat (0x30 + n) else Char.ofNat (0x57 + n)

/-- The upper-case digit of a number below sixteen. -/
def upperDigit (n : Nat) : Char := if n < 10 then Char.ofNat (0x30 + n) else Char.ofNat (0x37 + n)

/-- The value of a digit of either case. -/
def value? (c : Char) : Option Nat :=
  if 0x30 ≤ c.toNat ∧ c.toNat ≤ 0x39 then some (c.toNat - 0x30)
  else if 0x41 ≤ c.toNat ∧ c.toNat ≤ 0x46 then some (c.toNat - 0x37)
  else if 0x61 ≤ c.toNat ∧ c.toNat ≤ 0x66 then some (c.toNat - 0x57)
  else none

/-- Tells whether a character is a hexadecimal digit of either case. -/
def isDigit (c : Char) : Bool := (value? c).isSome

/-- The lowest `width` digits of a number in lower case, the highest first. -/
def padded : Nat → Nat → Text
  | 0, _ => []
  | width + 1, n => padded width (n / 16) ++ [digit (n % 16)]

/-- The two upper-case digits of an octet. -/
def pair (b : UInt8) : Text := [upperDigit (b.toNat / 16), upperDigit (b.toNat % 16)]

/-- The octet that two digits of either case write. -/
def byte? (high low : Char) : Option UInt8 :=
  match value? high, value? low with
  | some h, some l => some (UInt8.ofNat (16 * h + l))
  | _, _ => none

theorem value?_digit {n : Nat} (h : n < 16) : value? (digit n) = some n := by
  have hall : ∀ m ∈ List.range 16, value? (digit m) = some m := by decide
  exact hall n (List.mem_range.2 h)

theorem value?_upperDigit {n : Nat} (h : n < 16) : value? (upperDigit n) = some n := by
  have hall : ∀ m ∈ List.range 16, value? (upperDigit m) = some m := by decide
  exact hall n (List.mem_range.2 h)

/-- The two digits of an octet read back as the octet. -/
theorem byte?_pair (b : UInt8) :
    byte? (upperDigit (b.toNat / 16)) (upperDigit (b.toNat % 16)) = some b := by
  have hb := b.toNat_lt
  rw [byte?, value?_upperDigit (by omega), value?_upperDigit (by omega)]
  simp [show 16 * (b.toNat / 16) + b.toNat % 16 = b.toNat by omega]

/-- A number is read if and only if both characters are digits. -/
theorem byte?_eq_none_iff {high low : Char} :
    byte? high low = none ↔ ¬(isDigit high ∧ isDigit low) := by
  unfold byte? isDigit
  cases value? high <;> cases value? low <;> simp

@[simp] theorem length_padded (width n : Nat) : (padded width n).length = width := by
  induction width generalizing n with
  | zero => rfl
  | succ width ih => simp [padded, ih]

end QueryString.Hex
