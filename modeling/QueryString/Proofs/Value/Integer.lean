import QueryString.Value.Integer

/-!
# Texts that write integers

`Writes` says which integer a text writes, and with which digits. Such a text is read unless it has
too many digits, and then reading fails although there is nothing wrong with the text
(`read_eq_error_iff`). A text that writes no integer is no failure.
-/

namespace QueryString.Integer

/-- Nothing but digits, and one at least. -/
def AreDigits (ds : Text) : Prop := ds ≠ [] ∧ ∀ c ∈ ds, Decimal.isDigit c

/-- The text writes the integer with these digits, which may have a sign in front. -/
inductive Writes : Text → Text → Int → Prop where
  | unsigned {ds : Text} (h : AreDigits ds) : Writes ds ds (Decimal.value ds)
  | plus {ds : Text} (h : AreDigits ds) : Writes ('+' :: ds) ds (Decimal.value ds)
  | minus {ds : Text} (h : AreDigits ds) : Writes ('-' :: ds) ds (-(Decimal.value ds : Int))

/-- A text has a sign in front, or it is taken for digits as a whole. -/
theorem sign_or_digits_eq (t : Text) :
    (∃ ds, t = '+' :: ds) ∨ (∃ ds, t = '-' :: ds) ∨ digits t = t ∧ t.head? ≠ some '-' := by
  unfold digits
  split
  · exact Or.inl ⟨_, rfl⟩
  · exact Or.inr (Or.inl ⟨_, rfl⟩)
  · next hplus hminus =>
    refine Or.inr (Or.inr ⟨rfl, fun h => ?_⟩)
    obtain ⟨rest, rfl⟩ := List.head?_eq_some_iff.1 h
    exact hminus rest rfl

theorem AreDigits.head_isDigit {c : Char} {ds : Text} (h : AreDigits (c :: ds)) :
    Decimal.isDigit c := h.2 c List.mem_cons_self

theorem isWritten_iff {t : Text} : isWritten t ↔ AreDigits (digits t) := by
  simp [isWritten, AreDigits]

/-- A text writes an integer if and only if it is written as one, and then its digits and its value
are those that are found. -/
theorem writes_iff {t ds : Text} {n : Int} :
    Writes t ds n ↔ isWritten t ∧ digits t = ds ∧ value t = n := by
  rw [isWritten_iff]
  constructor
  · intro h
    cases h with
    | unsigned h =>
      -- A digit is no sign.
      rcases sign_or_digits_eq t with ⟨rest, rfl⟩ | ⟨rest, rfl⟩ | ⟨hdigits, hhead⟩
      · exact absurd h.head_isDigit (by decide)
      · exact absurd h.head_isDigit (by decide)
      · rw [value, if_neg hhead, hdigits]
        exact ⟨h, rfl, rfl⟩
    | plus h => exact ⟨h, rfl, rfl⟩
    | minus h => exact ⟨h, rfl, rfl⟩
  · rintro ⟨h, rfl, rfl⟩
    rcases sign_or_digits_eq t with ⟨rest, rfl⟩ | ⟨rest, rfl⟩ | ⟨hdigits, hhead⟩
    · exact .plus h
    · exact .minus h
    · rw [value, if_neg hhead]
      rw [hdigits] at h ⊢
      exact .unsigned h

/-- Reading fails for a text that writes an integer with too many digits, and for no other. -/
theorem read_eq_error_iff {t : Text} {f : TooLong} :
    read t = .error f ↔ ∃ ds n, Writes t ds n ∧ digitLimit < ds.length ∧ f = ⟨ds.length⟩ := by
  simp only [writes_iff]
  unfold read
  split
  · next hno =>
    rw [Bool.not_eq_true'] at hno
    simp [hno]
  · next hw =>
    rw [Bool.not_eq_true', Bool.not_eq_false] at hw
    split
    · next hle => simp [Nat.not_lt.2 hle]
    · next hgt => simp [hw, Nat.lt_of_not_le hgt, eq_comm]

/-- The integer that the text writes, if it writes one, has no more digits than are read. -/
def WithinLimit (t : Text) : Prop := ∀ ds n, Writes t ds n → ds.length ≤ digitLimit

theorem exists_read_ok_iff {t : Text} : (∃ o, read t = .ok o) ↔ WithinLimit t := by
  constructor
  · rintro ⟨o, ho⟩ ds n hw
    refine Nat.le_of_not_lt fun hlt => ?_
    rw [read_eq_error_iff.2 ⟨ds, n, hw, hlt, rfl⟩] at ho
    cases ho
  · intro h
    cases hr : read t with
    | ok o => exact ⟨o, rfl⟩
    | error f =>
      obtain ⟨ds, n, hw, hlt, _⟩ := read_eq_error_iff.1 hr
      exact absurd (h ds n hw) (Nat.not_le.2 hlt)

end QueryString.Integer
