import QueryString.Proofs.Store.WellFormed

/-!
# Pairs grouped by name

`grouping` says what a store of pairs is to hold: each name where it first appears, with its values
in their order. Adding the pairs one by one comes to the same (`ofPairs_eq_grouping`): the names
(`names_ofPairs`) and the values of a name (`values_ofPairs`) are what the pairs give, and a
well-formed store is known by them (`WellFormed.entries_eq`).
-/

namespace QueryString.Store

/-- The values that pairs give to a name, in order. -/
def valuesOf (pairs : List Pair) (name : Text) : List Text :=
  (pairs.filter (·.name = name)).map (·.value)

/-- The names of pairs in the order of their first appearance, each with all its values in order. -/
def grouping (pairs : List Pair) : Store :=
  ⟨(pairs.map (·.name)).eraseDups.map fun name => (name, valuesOf pairs name)⟩

theorem valuesOf_concat (pairs : List Pair) (p : Pair) (name : Text) :
    valuesOf (pairs ++ [p]) name =
      if name = p.name then valuesOf pairs name ++ [p.value] else valuesOf pairs name := by
  unfold valuesOf
  rw [List.filter_append, List.map_append]
  by_cases h : name = p.name
  · rw [if_pos h, List.filter_cons_of_pos (by simp [h])]
    rfl
  · rw [if_neg h, List.filter_cons_of_neg (by simpa using Ne.symm h)]
    exact List.append_nil _

/-- A pair whose name is not new adds no name. -/
theorem eraseDups_concat (names : List Text) (name : Text) :
    (names ++ [name]).eraseDups =
      if name ∈ names then names.eraseDups else names.eraseDups ++ [name] := by
  rw [List.eraseDups_append]
  by_cases h : name ∈ names
  · simp [h, List.removeAll]
  · simp [h, List.removeAll, List.eraseDups_cons]

/-! ## Adding the pairs one by one -/

theorem names_ofPairs (pairs : List Pair) :
    (ofPairs pairs).names = (pairs.map (·.name)).eraseDups := by
  induction pairs using List.reverseRecOn with
  | nil => rfl
  | append_singleton pairs p ih =>
    rw [ofPairs_concat, names_insert, ih, List.map_append, List.map_singleton, eraseDups_concat]
    simp only [List.mem_eraseDups]

theorem values_ofPairs (pairs : List Pair) (name : Text) :
    (ofPairs pairs).values name = valuesOf pairs name := by
  induction pairs using List.reverseRecOn with
  | nil => rfl
  | append_singleton pairs p ih =>
    rw [ofPairs_concat, valuesOf_concat]
    by_cases h : name = p.name
    · rw [if_pos h, h, values_insert_self, ← h, ih]
    · rw [if_neg h, values_insert_of_ne h, ih]

/-- A well-formed store is known by its names and by the values of each. -/
theorem WellFormed.entries_eq {s : Store} (h : s.WellFormed) :
    s.entries = s.names.map fun name => (name, s.values name) := by
  rw [names, List.map_map]
  refine (List.map_id s.entries).symm.trans (List.map_congr_left fun entry he => ?_)
  show entry = (entry.1, s.values entry.1)
  rw [values, lookup_of_mem h.nodup he]
  rfl

/-- The store of pairs has each name where it first appears, with its values in order. -/
theorem ofPairs_eq_grouping (pairs : List Pair) : ofPairs pairs = grouping pairs := by
  have h := (wellFormed_ofPairs pairs).entries_eq
  rw [names_ofPairs] at h
  simp only [values_ofPairs] at h
  exact congrArg Store.mk h

end QueryString.Store
