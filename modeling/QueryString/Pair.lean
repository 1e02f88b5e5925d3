import QueryString.Coding

/-!
# Pairs of a name and a value

A pair is written with an equals sign between name and value. The first equals sign divides, so a
value may hold more of them, and a segment without one is a name with an empty value.
-/

namespace QueryString

/-- A name and its value. -/
structure Pair where
  name : Text
  value : Text
deriving DecidableEq, Repr

namespace Pair

/-- The character between name and value. -/
def separator : Char := '='

/-- The pair of a segment as it stands. -/
def ofSegment (segment : Text) : Pair :=
  ⟨(Text.cut separator segment).1, (Text.cut separator segment).2⟩

/-- The segment of a pair as it stands. -/
def toSegment (p : Pair) : Text := p.name ++ separator :: p.value

/-- A segment reads back as its pair, provided that the name does not hold the separator. -/
theorem ofSegment_toSegment {p : Pair} (h : separator ∉ p.name) : ofSegment p.toSegment = p := by
  simp [ofSegment, toSegment, Text.cut_append h]

/-- A name as it is read from a segment does not hold the separator. -/
theorem separator_not_mem_name_ofSegment (segment : Text) :
    separator ∉ (ofSegment segment).name :=
  Text.not_mem_cut_fst separator segment

end Pair

namespace Coding

/-- The error of a pair: a fault of a name or a value becomes a fault of the pair. -/
def inPair (p : Pair) : Error → Error
  | .malformed (.component fault) => .malformed (.parameter p.name p.value fault)
  | e => e

variable [Codecs]

/-- The decoded pair. The name is decoded first. -/
def decodePair (coding : Coding) (p : Pair) : Except Error Pair :=
  match coding.decode p.name with
  | .error e => .error (inPair p e)
  | .ok name =>
    match coding.decode p.value with
    | .error e => .error (inPair p e)
    | .ok value => .ok ⟨name, value⟩

/-- The coded pair. The name is encoded first. -/
def encodePair (coding : Coding) (p : Pair) : Except Error Pair :=
  match coding.encode p.name with
  | .error e => .error e
  | .ok name =>
    match coding.encode p.value with
    | .error e => .error e
    | .ok value => .ok ⟨name, value⟩

end Coding

end QueryString
