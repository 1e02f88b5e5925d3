import Mathlib.Algebra.Group.Nat.Defs
import QueryString.Proofs.Results
import QueryString.Proofs.Value.Integer

/-!
# Integers by their places

`Denotes` says which integer a text is in base ten from the places of its digits, without a word on
how it is read: an optional sign, and digits that each count for a power of ten. What is read within
the limit is what is denoted (`read_of_denotes`, `read_of_not_conforms`), and from a list of texts
come the integers of those that denote one, in order (`exists_filterMap_mapM_read`).

The base-ten form of an integer denotes it (`denotes_ofInt`), and keeps to the limit if the integer
does (`withinLimit_ofInt`).
-/

namespace QueryString

namespace Decimal

/-- The number that digits write by their places: each digit counts as often as the power of ten
says that has a zero for every digit behind it. -/
def placeValue : Text → Nat
  | [] => 0
  | c :: rest => (c.toNat - '0'.toNat) * 10 ^ rest.length + placeValue rest

/-- Reading digit by digit from the front comes to the same as counting by places. -/
theorem value_eq_placeValue (ds : Text) : value ds = placeValue ds := by
  induction ds with
  | nil => rfl
  | cons c rest ih =>
    unfold value at ih ⊢
    rw [Nat.ofDigitChars_cons, Nat.ofDigitChars_eq_ofDigitChars_zero, ih, placeValue,
      Nat.mul_zero, Nat.zero_add, Nat.mul_comm]

end Decimal

namespace Integer

/-- The text is the integer in base ten: digits that have it as the value of their places, with a
sign in front or without one. Zeros in front do not matter. -/
inductive Denotes : Text → Int → Prop where
  | unsigned {ds : Text} (h : AreDigits ds) : Denotes ds (Decimal.placeValue ds)
  | plus {ds : Text} (h : AreDigits ds) : Denotes ('+' :: ds) (Decimal.placeValue ds)
  | minus {ds : Text} (h : AreDigits ds) : Denotes ('-' :: ds) (-(Decimal.placeValue ds : Int))

/-- The text is some integer in base ten. -/
def Conforms (t : Text) : Prop := ∃ n, Denotes t n

theorem denotes_iff_writes {t : Text} {n : Int} : Denotes t n ↔ ∃ ds, Writes t ds n := by
  constructor
  · intro h
    cases h with
    | unsigned h =>
      rw [← Decimal.value_eq_placeValue]
      exact ⟨_, .unsigned h⟩
    | plus h =>
      rw [← Decimal.value_eq_placeValue]
      exact ⟨_, .plus h⟩
    | minus h =>
      rw [← Decimal.value_eq_placeValue]
      exact ⟨_, .minus h⟩
  · rintro ⟨ds, h⟩
    cases h with
    | unsigned h =>
      rw [Decimal.value_eq_placeValue]
      exact .unsigned h
    | plus h =>
      rw [Decimal.value_eq_placeValue]
      exact .plus h
    | minus h =>
      rw [Decimal.value_eq_placeValue]
      exact .minus h

theorem denotes_iff {t : Text} {n : Int} : Denotes t n ↔ isWritten t ∧ value t = n := by
  simp only [denotes_iff_writes, writes_iff]
  constructor
  · rintro ⟨_, hw, _, hn⟩
    exact ⟨hw, hn⟩
  · rintro ⟨hw, hn⟩
    exact ⟨_, hw, rfl, hn⟩

/-- A text is one integer at most. -/
theorem Denotes.unique {t : Text} {n m : Int} (hn : Denotes t n) (hm : Denotes t m) : n = m := by
  rw [denotes_iff] at hn hm
  exact hn.2.symm.trans hm.2

theorem conforms_iff {t : Text} : Conforms t ↔ isWritten t := by
  unfold Conforms
  simp only [denotes_iff, exists_and_left, exists_eq', and_true]

instance : DecidablePred Conforms := fun _ => decidable_of_iff _ conforms_iff.symm

example : Conforms "-0012".toList ∧ ¬ Conforms "1_000".toList ∧ ¬ Conforms " 7".toList := by decide

/-! ## Reading within the limit -/

theorem read_of_not_conforms {t : Text} (h : ¬ Conforms t) : read t = .ok none := by
  rw [conforms_iff] at h
  rw [read, if_pos (by simpa using h)]

theorem read_of_denotes {t : Text} {n : Int} (hlimit : WithinLimit t) (h : Denotes t n) :
    read t = .ok (some n) := by
  obtain ⟨ds, hw⟩ := denotes_iff_writes.1 h
  have hle := hlimit ds n hw
  obtain ⟨hwritten, rfl, rfl⟩ := writes_iff.1 hw
  rw [read, if_neg (by simpa using hwritten), if_pos hle]

/-- From texts within the limit come the integers of those that denote one, in order. -/
theorem exists_filterMap_mapM_read {ts : List Text} (h : ∀ t ∈ ts, WithinLimit t) :
    ∃ ns, (ts.mapM read).map (·.filterMap id) = .ok ns ∧
      List.Forall₂ Denotes (ts.filter Conforms) ns := by
  induction ts with
  | nil => exact ⟨[], rfl, .nil⟩
  | cons t ts ih =>
    obtain ⟨ht, hts⟩ := List.forall_mem_cons.1 h
    obtain ⟨ns, hns, hall⟩ := ih hts
    obtain ⟨os, hos, rfl⟩ := map_eq_ok_iff.1 hns
    by_cases hc : Conforms t
    · obtain ⟨n, hn⟩ := hc
      refine ⟨n :: os.filterMap id, ?_, ?_⟩
      · rw [mapM_cons_of_ok (read_of_denotes ht hn), hos]
        rfl
      · rw [List.filter_cons_of_pos (by simpa using ⟨n, hn⟩)]
        exact .cons hn hall
    · refine ⟨os.filterMap id, ?_, ?_⟩
      · rw [mapM_cons_of_ok (read_of_not_conforms hc), hos]
        rfl
      · rwa [List.filter_cons_of_neg (by simpa using hc)]

/-! ## The base-ten form of an integer -/

theorem areDigits_ofNat (n : Nat) : AreDigits (Decimal.ofNat n) :=
  ⟨Nat.toDigits_ne_nil, fun _ hc => Decimal.isDigit_of_mem_ofNat hc⟩

/-- The form of an integer writes it, with the digits of the number without the sign. -/
theorem writes_ofInt (n : Int) : Writes (Decimal.ofInt n) (Decimal.ofNat n.natAbs) n := by
  cases n with
  | ofNat k =>
    have h := Writes.unsigned (areDigits_ofNat k)
    rwa [Decimal.value_ofNat] at h
  | negSucc k =>
    have h := Writes.minus (areDigits_ofNat (k + 1))
    rwa [Decimal.value_ofNat] at h

theorem denotes_ofInt (n : Int) : Denotes (Decimal.ofInt n) n :=
  denotes_iff_writes.2 ⟨_, writes_ofInt n⟩

/-- An integer keeps to the limit if it is less than the first power of ten that does not. -/
theorem withinLimit_ofInt {n : Int} (h : n.natAbs < 10 ^ digitLimit) :
    WithinLimit (Decimal.ofInt n) := by
  intro ds m hw
  have hds : ds = Decimal.ofNat n.natAbs :=
    (writes_iff.1 hw).2.1.symm.trans (writes_iff.1 (writes_ofInt n)).2.1
  rw [hds]
  exact (Nat.length_toDigits_le_iff (by decide) (by decide)).2 h

/-- The form of an integer is made of ASCII characters. -/
theorem isAscii_of_mem_ofInt {n : Int} {c : Char} (h : c ∈ Decimal.ofInt n) : Text.isAscii c := by
  have hdigit : ∀ k, c ∈ Decimal.ofNat k → Text.isAscii c := by
    intro k hk
    have hc := Decimal.isDigit_iff.1 (Decimal.isDigit_of_mem_ofNat hk)
    simp only [Text.isAscii, decide_eq_true_eq]
    omega
  cases n with
  | ofNat k => exact hdigit k h
  | negSucc k =>
    rcases List.mem_cons.1 h with rfl | h
    · rfl
    · exact hdigit (k + 1) h

end Integer

end QueryString
