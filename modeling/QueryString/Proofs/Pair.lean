import QueryString.Pair

/-!
# Pairs read and written

A pair is decoded if its name and its value are, and encoded likewise. What it is refused for is its
name, or else its value (`decodePair_eq_error_iff`).
-/

namespace QueryString

/-- Names and values are found apart from each other. -/
theorem Pair.exists_iff {P Q : Text → Prop} :
    (∃ q : Pair, P q.name ∧ Q q.value) ↔ (∃ name, P name) ∧ ∃ value, Q value := by
  constructor
  · rintro ⟨q, hn, hv⟩
    exact ⟨⟨q.name, hn⟩, q.value, hv⟩
  · rintro ⟨⟨name, hn⟩, value, hv⟩
    exact ⟨⟨name, value⟩, hn, hv⟩

namespace Coding

variable [Codecs]

theorem encodePair_eq_ok_iff {coding : Coding} {p q : Pair} :
    coding.encodePair p = .ok q ↔
      coding.encode p.name = .ok q.name ∧ coding.encode p.value = .ok q.value := by
  obtain ⟨_, _⟩ := q
  unfold encodePair
  cases coding.encode p.name with
  | error e => simp
  | ok name =>
    cases coding.encode p.value with
    | error e => simp
    | ok value => simp

theorem decodePair_eq_ok_iff {coding : Coding} {p q : Pair} :
    coding.decodePair p = .ok q ↔
      coding.decode p.name = .ok q.name ∧ coding.decode p.value = .ok q.value := by
  obtain ⟨_, _⟩ := q
  unfold decodePair
  cases coding.decode p.name with
  | error e => simp
  | ok name =>
    cases coding.decode p.value with
    | error e => simp
    | ok value => simp

/-- The token can be decoded. -/
def Decodes (coding : Coding) (raw : Text) : Prop := ∃ t, coding.decode raw = .ok t

theorem exists_decodePair_iff {coding : Coding} {p : Pair} :
    (∃ q, coding.decodePair p = .ok q) ↔ coding.Decodes p.name ∧ coding.Decodes p.value := by
  rw [Decodes, Decodes, ← Pair.exists_iff]
  simp only [decodePair_eq_ok_iff]

/-- A pair is refused for its name, or for its value if the name is decoded. -/
theorem decodePair_eq_error_iff {coding : Coding} {p : Pair} {e : Error} :
    coding.decodePair p = .error e ↔
      (∃ e', coding.decode p.name = .error e' ∧ e = inPair p e') ∨
        (∃ name, coding.decode p.name = .ok name) ∧
          ∃ e', coding.decode p.value = .error e' ∧ e = inPair p e' := by
  unfold decodePair
  cases coding.decode p.name with
  | error e' => simp [eq_comm]
  | ok name =>
    cases coding.decode p.value with
    | error e' => simp [eq_comm]
    | ok value => simp

end Coding

end QueryString
