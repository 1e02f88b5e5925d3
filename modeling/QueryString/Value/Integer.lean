import QueryString.Text.Decimal

/-!
# Integers

An integer is written as an optional sign and one or more of the ten digits, and nothing else.
Numbers of more than `digitLimit` digits are well written and still not read.
-/

namespace QueryString.Integer

/-- The digits of a text after its sign, if it has one. -/
def digits : Text → Text
  | '+' :: rest => rest
  | '-' :: rest => rest
  | t => t

/-- Tells whether a text is written as an integer. -/
def isWritten (t : Text) : Bool := !(digits t).isEmpty && (digits t).all Decimal.isDigit

/-- The integer that a text writes, for a text that is written as one. -/
def value (t : Text) : Int :=
  if t.head? = some '-' then -(Decimal.value (digits t) : Int) else Decimal.value (digits t)

/-- The most digits that a number may have to be read; zeros in front count. -/
def digitLimit : Nat := 4300

/-- A number that has more digits than are read. -/
structure TooLong where
  /-- How many digits it has. -/
  count : Nat
deriving DecidableEq, Repr

/-- The failure in words. -/
def TooLong.message (f : TooLong) : Text :=
  "Exceeds the limit (".toList ++ Decimal.ofNat digitLimit
    ++ " digits) for integer string conversion: value has ".toList ++ Decimal.ofNat f.count
    ++ " digits; use sys.set_int_max_str_digits() to increase the limit".toList

/-- The integer of a text; none, if the text is not written as one. -/
def read (t : Text) : Except TooLong (Option Int) :=
  if !isWritten t then .ok none
  else if (digits t).length ≤ digitLimit then .ok (some (value t))
  else .error ⟨(digits t).length⟩

example : value "-0012".toList = -12 := by decide

end QueryString.Integer
