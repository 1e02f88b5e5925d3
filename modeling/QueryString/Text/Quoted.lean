import QueryString.Text.Hex
import QueryString.Text.Printable

/-!
# Quoted texts

A text in quotation marks, on one line and in printable characters only. Single quotes enclose it,
unless it holds a single quote and no double quote. A backslash introduces the enclosing quote, the
backslash itself, the three short escapes, and the code of every character that is not printable.
-/

namespace QueryString.Text

/-- A character as a backslash, a letter for the width and its code in lower-case digits: two
digits after x, four after u, eight after U, whichever is the first to suffice. -/
def escapeCode (c : Char) : Text :=
  if c.toNat < 0x100 then '\\' :: 'x' :: Hex.padded 2 c.toNat
  else if c.toNat < 0x10000 then '\\' :: 'u' :: Hex.padded 4 c.toNat
  else '\\' :: 'U' :: Hex.padded 8 c.toNat

/-- The quotation mark that encloses a text. -/
def quoteMark (t : Text) : Char := if '\'' ∈ t ∧ '"' ∉ t then '"' else '\''

/-- A character as it stands between two quotation marks. -/
def quoteChar (mark c : Char) : Text :=
  if c = mark ∨ c = '\\' then ['\\', c]
  else if c = '\n' then ['\\', 'n']
  else if c = '\r' then ['\\', 'r']
  else if c = '\t' then ['\\', 't']
  else if isPrintable c then [c]
  else escapeCode c

/-- A text in quotation marks. -/
def quoted (t : Text) : Text :=
  quoteMark t :: (t.flatMap (quoteChar (quoteMark t)) ++ [quoteMark t])

theorem quoteMark_eq_or (t : Text) : quoteMark t = '\'' ∨ quoteMark t = '"' := by
  unfold quoteMark
  split <;> simp

example : quoted "it's".toList = "\"it's\"".toList := by decide

example : quoted "a\\\n\x7f".toList = "'a\\\\\\n\\x7f'".toList := by decide

end QueryString.Text
