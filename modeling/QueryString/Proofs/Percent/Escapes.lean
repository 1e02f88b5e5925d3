import Mathlib.Order.Bounds.Defs
import Mathlib.Tactic.ByContra
import QueryString.Percent

/-!
# Which percent signs begin an escape

`badEscape?` finds the first percent sign that two hexadecimal digits do not follow
(`badEscape?_eq_some_iff`). It finds none in a text of escapes and other characters
(`badEscape?_of_wellEscaped`), and in no other text (`wellEscaped_of_badEscape?`); so what is read
after the check can be followed escape by escape.
-/

namespace QueryString

namespace Hex

theorem isDigit_of_byte? {high low : Char} {b : UInt8} (h : byte? high low = some b) :
    isDigit high ∧ isDigit low := by
  by_contra hn
  rw [byte?_eq_none_iff.2 hn] at h
  cases h

theorem ne_of_isDigit {c d : Char} (h : isDigit c) (hd : isDigit d = false) : c ≠ d := by
  rintro rfl
  rw [h] at hd
  cases hd

theorem isAscii_of_isDigit {c : Char} (h : isDigit c) : Text.isAscii c := by
  rw [isDigit, value?] at h
  simp only [Text.isAscii, decide_eq_true_eq]
  split at h
  · omega
  split at h
  · omega
  split at h
  · omega
  · cases h

end Hex

namespace Percent

/-! ## Bad escapes -/

/-- At the position stands a percent sign that two hexadecimal digits do not follow. -/
def BadEscapeAt (t : Text) (i : Nat) : Prop :=
  t[i]? = some '%' ∧ ¬ ∃ high low, t[i + 1]? = some high ∧ t[i + 2]? = some low ∧
    Hex.isDigit high ∧ Hex.isDigit low

/-- A text in which every percent sign begins an escape. -/
inductive WellEscaped : Text → Prop where
  | nil : WellEscaped []
  | escape {high low : Char} {b : UInt8} {rest : Text} (hb : Hex.byte? high low = some b)
      (h : WellEscaped rest) : WellEscaped ('%' :: high :: low :: rest)
  | other {c : Char} {rest : Text} (hc : c ≠ '%') (h : WellEscaped rest) : WellEscaped (c :: rest)

theorem startsWithPair_iff {t : Text} :
    startsWithPair t ↔ ∃ high low, t[0]? = some high ∧ t[1]? = some low ∧
      Hex.isDigit high ∧ Hex.isDigit low := by
  match t with
  | [] => simp [startsWithPair]
  | [_] => simp [startsWithPair]
  | high :: low :: rest => simp [startsWithPair]

theorem badEscapeAt_cons_zero {c : Char} {rest : Text} :
    BadEscapeAt (c :: rest) 0 ↔ c = '%' ∧ !startsWithPair rest := by
  rw [Bool.not_eq_true', ← Bool.not_eq_true, startsWithPair_iff]
  simp [BadEscapeAt]

theorem badEscapeAt_cons_succ {c : Char} {rest : Text} {i : Nat} :
    BadEscapeAt (c :: rest) (i + 1) ↔ BadEscapeAt rest i := by
  simp [BadEscapeAt]

/-- Where a bad escape is found, there is one, and there is none before it. -/
theorem isLeast_of_badEscape? {t : Text} {i : Nat} (h : badEscape? t = some i) :
    IsLeast {j | BadEscapeAt t j} i := by
  induction t generalizing i with
  | nil => cases h
  | cons c rest ih =>
    rw [badEscape?] at h
    split at h
    · next hc =>
      obtain rfl := Option.some.inj h
      exact ⟨badEscapeAt_cons_zero.2 hc, fun j _ => Nat.zero_le j⟩
    · next hc =>
      obtain ⟨k, hk, rfl⟩ := Option.map_eq_some_iff.1 h
      refine ⟨badEscapeAt_cons_succ.2 (ih hk).1, ?_⟩
      intro j hj
      cases j with
      | zero => exact absurd (badEscapeAt_cons_zero.1 hj) hc
      | succ j => exact Nat.succ_le_succ ((ih hk).2 (badEscapeAt_cons_succ.1 hj))

/-- Where no bad escape is found, there is none. -/
theorem badEscape?_eq_none_iff {t : Text} : badEscape? t = none ↔ ∀ i, ¬ BadEscapeAt t i := by
  constructor
  · intro h
    induction t with
    | nil => simp [BadEscapeAt]
    | cons c rest ih =>
      rw [badEscape?] at h
      split at h
      · cases h
      · next hc =>
        intro i hi
        cases i with
        | zero => exact hc (badEscapeAt_cons_zero.1 hi)
        | succ i => exact ih (Option.map_eq_none_iff.1 h) i (badEscapeAt_cons_succ.1 hi)
  · intro h
    cases hi : badEscape? t with
    | none => rfl
    | some i => exact absurd (isLeast_of_badEscape? hi).1 (h i)

/-- The position that is found is the least one of a bad escape. -/
theorem badEscape?_eq_some_iff {t : Text} {i : Nat} :
    badEscape? t = some i ↔ IsLeast {j | BadEscapeAt t j} i := by
  refine ⟨isLeast_of_badEscape?, fun h => ?_⟩
  cases hj : badEscape? t with
  | none => exact absurd h.1 (badEscape?_eq_none_iff.1 hj i)
  | some j =>
    have hl := isLeast_of_badEscape? hj
    rw [Nat.le_antisymm (hl.2 h.1) (h.2 hl.1)]

theorem badEscape?_cons_of_ne {c : Char} (h : c ≠ '%') (rest : Text) :
    badEscape? (c :: rest) = (badEscape? rest).map (· + 1) := by
  rw [badEscape?, if_neg fun hc => h hc.1]

theorem badEscape?_escape {high low : Char} {b : UInt8} (h : Hex.byte? high low = some b)
    (rest : Text) : badEscape? ('%' :: high :: low :: rest) = (badEscape? rest).map (· + 3) := by
  obtain ⟨hh, hl⟩ := Hex.isDigit_of_byte? h
  rw [badEscape?, if_neg (by simp [startsWithPair, hh, hl]),
    badEscape?_cons_of_ne (Hex.ne_of_isDigit hh (by decide)),
    badEscape?_cons_of_ne (Hex.ne_of_isDigit hl (by decide))]
  cases badEscape? rest <;> rfl

theorem badEscape?_of_wellEscaped {t : Text} (h : WellEscaped t) : badEscape? t = none := by
  induction h with
  | nil => rfl
  | escape hb _ ih => rw [badEscape?_escape hb, ih]; rfl
  | other hc _ ih => rw [badEscape?_cons_of_ne hc, ih]; rfl

theorem exists_byte?_of_startsWithPair {t : Text} (h : startsWithPair t) :
    ∃ high low b rest, t = high :: low :: rest ∧ Hex.byte? high low = some b := by
  rcases t with _ | ⟨high, _ | ⟨low, rest⟩⟩
  · cases h
  · cases h
  · have hb : Hex.byte? high low ≠ none := by
      intro hn
      exact Hex.byte?_eq_none_iff.1 hn (by simpa [startsWithPair] using h)
    obtain ⟨b, hb⟩ := Option.ne_none_iff_exists'.1 hb
    exact ⟨high, low, b, rest, rfl, hb⟩

theorem wellEscaped_of_badEscape? : ∀ {t : Text}, badEscape? t = none → WellEscaped t
  | [], _ => .nil
  | c :: rest, h => by
    by_cases hc : c = '%'
    · subst hc
      have hpair : startsWithPair rest := by
        by_contra hn
        rw [badEscape?, if_pos ⟨rfl, by simpa using hn⟩] at h
        cases h
      obtain ⟨high, low, b, rest, rfl, hb⟩ := exists_byte?_of_startsWithPair hpair
      -- Neither digit is a percent sign, so the search goes on behind both.
      rw [badEscape?_escape hb] at h
      exact .escape hb (wellEscaped_of_badEscape? (Option.map_eq_none_iff.1 h))
    · rw [badEscape?_cons_of_ne hc] at h
      exact .other hc (wellEscaped_of_badEscape? (Option.map_eq_none_iff.1 h))
termination_by t => t.length

end Percent

end QueryString
