import Mathlib.Data.List.Perm.Subperm
import QueryString.Proofs.Store.Groups

/-!
# Stores with the same values

Two stores are compared name by name, in whatever order the names are. For well-formed stores this
comes to one thing: every name has the same values in both (`WellFormed.same_iff`). A name that is
there has a value, so a name that only one store has is seen by its values as well
(`WellFormed.mem_names_iff`).

For stores of pairs it is the pairs of each name that count, and not where the names stand
(`same_ofPairs_iff`).
-/

namespace QueryString.Store

theorem size_eq_length_names (s : Store) : s.size = s.names.length := by
  unfold size names
  rw [List.length_map]

theorem isEmpty_eq_false_iff {s : Store} : s.isEmpty = false ↔ 0 < s.size := by
  unfold isEmpty size
  cases s.entries <;> simp

/-- The names are those that have a value. -/
theorem WellFormed.mem_names_iff {s : Store} (h : s.WellFormed) {name : Text} :
    name ∈ s.names ↔ s.values name ≠ [] := by
  constructor
  · exact h.values_ne_nil_of_mem
  · intro hne
    by_contra hno
    exact hne (values_of_not_mem hno)

/-- A name is found with some values if and only if these are its values and there are any. -/
theorem WellFormed.lookup_eq_some_iff {s : Store} (h : s.WellFormed) {name : Text}
    {values : List Text} :
    s.entries.lookup name = some values ↔ s.values name = values ∧ values ≠ [] := by
  constructor
  · intro hl
    have hv : s.values name = values := by
      unfold Store.values
      rw [hl]
      rfl
    have hmem : name ∈ s.names := by
      rw [← mem_iff_mem_names]
      show (s.entries.lookup name).isSome = true
      rw [hl]
      rfl
    rw [← hv]
    exact ⟨rfl, h.values_ne_nil_of_mem hmem⟩
  · rintro ⟨rfl, hne⟩
    unfold Store.values at hne ⊢
    cases hl : s.entries.lookup name with
    | none =>
      rw [hl] at hne
      exact absurd rfl hne
    | some values => rfl

/-- Stores in which every name has the same values have the same names. -/
theorem WellFormed.names_perm {s t : Store} (hs : s.WellFormed) (ht : t.WellFormed)
    (h : ∀ name, s.values name = t.values name) : s.names.Perm t.names := by
  rw [List.perm_ext_iff_of_nodup hs.nodup ht.nodup]
  intro name
  rw [hs.mem_names_iff, ht.mem_names_iff, h]

theorem same_iff_lookup {s t : Store} :
    s.same t ↔ s.names.length = t.names.length ∧
      ∀ entry ∈ s.entries, t.entries.lookup entry.1 = some entry.2 := by
  unfold same
  simp only [Bool.and_eq_true, beq_iff_eq, List.all_eq_true, size_eq_length_names]

/-- Well-formed stores are the same if and only if every name has the same values in both. -/
theorem WellFormed.same_iff {s t : Store} (hs : s.WellFormed) (ht : t.WellFormed) :
    s.same t ↔ ∀ name, s.values name = t.values name := by
  rw [same_iff_lookup]
  constructor
  · rintro ⟨hlen, hall⟩ name
    have hvalues : ∀ other ∈ s.names, t.values other = s.values other ∧ other ∈ t.names := by
      intro other ho
      obtain ⟨entry, he, rfl⟩ := List.mem_map.1 ho
      have hl := ht.lookup_eq_some_iff.1 (hall entry he)
      have hl' := hs.lookup_eq_some_iff.1 (lookup_of_mem hs.nodup he)
      refine ⟨hl.1.trans hl'.1.symm, ht.mem_names_iff.2 ?_⟩
      rw [hl.1]
      exact hl.2
    -- The names of the first store are among those of the second, and there are as many.
    have hsub : s.names.Subperm t.names :=
      List.subperm_of_subset hs.nodup fun other ho => (hvalues other ho).2
    have hperm := hsub.perm_of_length_le (Nat.le_of_eq hlen.symm)
    by_cases hn : name ∈ s.names
    · exact (hvalues name hn).1.symm
    · rw [values_of_not_mem hn, values_of_not_mem fun ht => hn (hperm.mem_iff.2 ht)]
  · intro h
    refine ⟨(hs.names_perm ht h).length_eq, fun entry he => ?_⟩
    have hl := hs.lookup_eq_some_iff.1 (lookup_of_mem hs.nodup he)
    rw [h] at hl
    exact ht.lookup_eq_some_iff.2 hl

/-- The stores of two lists of pairs are the same if and only if the lists give each name the same
values. -/
theorem same_ofPairs_iff {ps qs : List Pair} :
    (ofPairs ps).same (ofPairs qs) ↔ ∀ name, valuesOf ps name = valuesOf qs name := by
  rw [(wellFormed_ofPairs ps).same_iff (wellFormed_ofPairs qs)]
  simp only [values_ofPairs]

/-- The names `a` and `b` have changed places, and the values of `a` have not. -/
example : (ofPairs [⟨['a'], ['1']⟩, ⟨['b'], []⟩, ⟨['a'], ['2']⟩]).same
    (ofPairs [⟨['b'], []⟩, ⟨['a'], ['1']⟩, ⟨['a'], ['2']⟩]) := by decide

end QueryString.Store
