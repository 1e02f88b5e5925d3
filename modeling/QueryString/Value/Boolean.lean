import QueryString.Text.Case.Lower

/-!
# Truth values

Four words for true and four for false, in whatever letter case.
-/

namespace QueryString.Boolean

/-- The words for true, in alphabetical order. -/
def trueWords : List Text := ["1".toList, "on".toList, "true".toList, "yes".toList]

/-- The words for false, in alphabetical order. -/
def falseWords : List Text := ["0".toList, "false".toList, "no".toList, "off".toList]

/-- The truth value of a text; none, if its lower-case form is not one of the words. -/
def read? (t : Text) : Option Bool :=
  if Text.lower t ∈ trueWords then some true
  else if Text.lower t ∈ falseWords then some false
  else none

end QueryString.Boolean
