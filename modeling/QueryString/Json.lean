import QueryString.Charset.Utf16
import QueryString.Text.Decimal
import QueryString.Text.Hex

/-!
# JSON

JSON values and their written form. The form is ASCII throughout: a character outside the range
from the space to the tilde is an escape, and one beyond the basic plane is two, the halves of its
surrogate pair. A comma or a colon is followed by one space.
-/

namespace QueryString

/-- A JSON value whose numbers are integers. -/
inductive Json where
  | null
  | bool (b : Bool)
  | number (n : Int)
  | string (t : Text)
  /-- Values in order. -/
  | array (values : List Json)
  /-- Named values in order. -/
  | object (members : List (Text × Json))
deriving Inhabited

namespace Json

/-- Tells whether a value counts as a yes: all do except null, false, zero and what is empty. -/
def isTrue : Json → Bool
  | null => false
  | bool b => b
  | number n => n != 0
  | string t => !t.isEmpty
  | array values => !values.isEmpty
  | object members => !members.isEmpty

/-! ## Writing -/

/-- The escape of a 16-bit unit. -/
def escapeUnit (n : Nat) : Text := '\\' :: 'u' :: Hex.padded 4 n

/-- A character as it stands between quotation marks. -/
def escapeChar (c : Char) : Text :=
  if c = '"' ∨ c = '\\' then ['\\', c]
  else if c = '\n' then ['\\', 'n']
  else if c = '\r' then ['\\', 'r']
  else if c = '\t' then ['\\', 't']
  else if c = '\x08' then ['\\', 'b']
  else if c = '\x0C' then ['\\', 'f']
  else if 0x20 ≤ c.toNat ∧ c.toNat ≤ 0x7E then [c]
  else (Utf16.units c).flatMap escapeUnit

/-- A text between quotation marks. -/
def writeText (t : Text) : Text := '"' :: (t.flatMap escapeChar ++ ['"'])

mutual

/-- The written form of a value. -/
def write : Json → Text
  | null => "null".toList
  | bool b => if b then "true".toList else "false".toList
  | number n => Decimal.ofInt n
  | string t => writeText t
  | array values => '[' :: (writeValues values ++ [']'])
  | object members => '\x7b' :: (writeMembers members ++ ['\x7d'])

/-- The values of an array with a comma between neighbours. -/
def writeValues : List Json → Text
  | [] => []
  | [value] => write value
  | value :: next :: rest => write value ++ ',' :: ' ' :: writeValues (next :: rest)

/-- The members of an object with a comma between neighbours. -/
def writeMembers : List (Text × Json) → Text
  | [] => []
  | [(name, value)] => writeText name ++ ':' :: ' ' :: write value
  | (name, value) :: next :: rest =>
    writeText name ++ ':' :: ' ' :: (write value ++ ',' :: ' ' :: writeMembers (next :: rest))

end

example : write (.array [.string "é".toList, .number (-7), .bool true]) =
    "[\"\\u00e9\", -7, true]".toList := by decide

end Json

end QueryString
