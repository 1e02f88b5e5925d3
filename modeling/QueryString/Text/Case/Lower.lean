import QueryString.Text.Case.Table

/-!
# Lower case

The full lower-case mapping of Unicode 14. Two characters need more than the table: the capital I
with a dot above becomes two characters, and a capital sigma that ends a word takes the final form.
-/

namespace QueryString.Text

/-- The lower-case form of a character where that form is one character. -/
def lowerChar (c : Char) : Char :=
  match Case.lowerRuns.find? (·.contains c.toNat) with
  | some r => Char.ofNat (c.toNat + r.shift).toNat
  | none => c

/-- Tells whether the first character that is not case-ignorable is cased. -/
def meetsCased (t : Text) : Bool :=
  match t.dropWhile fun c => CodeRange.anyContains Case.ignorableRanges c.toNat with
  | [] => false
  | c :: _ => CodeRange.anyContains Case.casedRanges c.toNat

/-- The lower-case form of a character between what stands before it, nearest first, and what
stands after it. A sigma is final if letters precede it in its word and none follows. -/
def lowerBetween (before : Text) (c : Char) (after : Text) : Text :=
  if c = '\u0130' then ['i', '\u0307']
  else if c = '\u03A3' then
    [if meetsCased before && !meetsCased after then '\u03C2' else '\u03C3']
  else [lowerChar c]

/-- The lower-case form of what is left of a text, given what was read before, nearest first. -/
def lowerFrom (before : Text) : Text → Text
  | [] => []
  | c :: rest => lowerBetween before c rest ++ lowerFrom (c :: before) rest

/-- The lower-case form of a text. -/
def lower (t : Text) : Text := lowerFrom [] t

end QueryString.Text
