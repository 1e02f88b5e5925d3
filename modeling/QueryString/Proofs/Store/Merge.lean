import QueryString.Proofs.Store.Grouping

/-!
# Two stores as one

`merge` puts a second store behind a first one. Adding a pair to the second store and merging come
to the same in either order (`merge_insert`), so pairs that are added to a store are merged into it
(`foldl_insert_eq_merge`), and the store of two lists of pairs is the merge of their stores
(`ofPairs_append`).

Two well-formed stores are equal as soon as they have the same names in the same order and the same
values for each (`WellFormed.ext`), so all of this is about names and values only.
-/

namespace QueryString.Store

/-- The names of the first store in order and then those that only the second one has, each with its
values in the first store followed by its values in the second. -/
def merge (s t : Store) : Store :=
  ⟨(s.names ++ t.names.filter (· ∉ s)).map fun name => (name, s.values name ++ t.values name)⟩

/-! ## Names and values -/

theorem mem_iff_mem_names {s : Store} {name : Text} : name ∈ s ↔ name ∈ s.names := by
  show (s.entries.lookup name).isSome = true ↔ name ∈ s.names
  rw [List.lookup_isSome_iff, names, List.mem_map]
  constructor
  · rintro ⟨entry, he, hn⟩
    exact ⟨entry, he, (eq_of_beq hn).symm⟩
  · rintro ⟨entry, he, rfl⟩
    exact ⟨entry, he, beq_self_eq_true _⟩

theorem values_of_not_mem {s : Store} {name : Text} (h : name ∉ s.names) : s.values name = [] := by
  have hl : s.entries.lookup name = none := by
    rw [← mem_iff_mem_names] at h
    exact Option.not_isSome_iff_eq_none.1 h
  rw [values, hl]
  rfl

theorem WellFormed.values_ne_nil_of_mem {s : Store} (h : s.WellFormed) {name : Text}
    (hn : name ∈ s.names) : s.values name ≠ [] := by
  obtain ⟨entry, he, rfl⟩ := List.mem_map.1 hn
  have hl := lookup_of_mem h.nodup he
  rw [values, hl]
  exact h.values_ne_nil entry he

/-- Well-formed stores with the same names in the same order and the same values are equal. -/
theorem WellFormed.ext {s t : Store} (hs : s.WellFormed) (ht : t.WellFormed)
    (hnames : s.names = t.names) (hvalues : ∀ name, s.values name = t.values name) : s = t := by
  have h : s.entries = t.entries := by
    rw [hs.entries_eq, ht.entries_eq, hnames]
    exact List.map_congr_left fun name _ => by rw [hvalues name]
  exact congrArg Store.mk h

theorem names_merge (s t : Store) :
    (s.merge t).names = s.names ++ t.names.filter (· ∉ s) := by
  rw [merge, names, List.map_map]
  exact List.map_id _

theorem nodup_names_merge {s t : Store} (hs : s.WellFormed) (ht : t.WellFormed) :
    (s.merge t).names.Nodup := by
  rw [names_merge]
  refine List.Nodup.append hs.nodup (ht.nodup.filter _) ?_
  intro name hmem hfilter
  have hnot := (List.mem_filter.1 hfilter).2
  exact (of_decide_eq_true hnot) (mem_iff_mem_names.2 hmem)

theorem mem_names_merge {s t : Store} {name : Text} :
    name ∈ (s.merge t).names ↔ name ∈ s.names ∨ name ∈ t.names := by
  rw [names_merge, List.mem_append, List.mem_filter, ← mem_iff_mem_names]
  by_cases h : name ∈ s <;> simp [h]

theorem values_merge {s t : Store} (hs : s.WellFormed) (ht : t.WellFormed) (name : Text) :
    (s.merge t).values name = s.values name ++ t.values name := by
  by_cases h : name ∈ (s.merge t).names
  · have he : (name, s.values name ++ t.values name) ∈ (s.merge t).entries := by
      rw [names_merge] at h
      exact List.mem_map_of_mem h
    have hl := lookup_of_mem (nodup_names_merge hs ht) he
    rw [values, hl]
    rfl
  · -- A name that the merge does not have is in neither store.
    rw [values_of_not_mem h]
    rw [mem_names_merge, not_or] at h
    rw [values_of_not_mem h.1, values_of_not_mem h.2]
    rfl

theorem WellFormed.merge {s t : Store} (hs : s.WellFormed) (ht : t.WellFormed) :
    (s.merge t).WellFormed where
  nodup := nodup_names_merge hs ht
  values_ne_nil := by
    intro entry he hnil
    obtain ⟨name, hn, rfl⟩ := List.mem_map.1 he
    obtain ⟨hsnil, htnil⟩ := List.append_eq_nil_iff.1 hnil
    rw [← names_merge, mem_names_merge] at hn
    rcases hn with hn | hn
    · exact hs.values_ne_nil_of_mem hn hsnil
    · exact ht.values_ne_nil_of_mem hn htnil

/-! ## Merging and adding -/

theorem names_merge_insert (s t : Store) (p : Pair) :
    (s.merge (t.insert p)).names = ((s.merge t).insert p).names := by
  rw [names_insert, names_merge, names_insert]
  by_cases ht : p.name ∈ t.names
  · rw [if_pos ht, if_pos (mem_names_merge.2 (Or.inr ht)), names_merge]
  · rw [if_neg ht, List.filter_append, ← List.append_assoc, ← names_merge]
    by_cases hs : p.name ∈ s
    · rw [if_pos (mem_names_merge.2 (Or.inl (mem_iff_mem_names.1 hs))),
        List.filter_cons_of_neg (by simpa using hs)]
      exact List.append_nil _
    · have hnot : p.name ∉ (s.merge t).names := by
        rw [mem_names_merge, not_or, ← mem_iff_mem_names]
        exact ⟨hs, ht⟩
      rw [if_neg hnot, List.filter_cons_of_pos (by simpa using hs)]
      rfl

/-- A pair that is added to the second store is added to the merge. -/
theorem merge_insert {s t : Store} (hs : s.WellFormed) (ht : t.WellFormed) (p : Pair) :
    s.merge (t.insert p) = (s.merge t).insert p := by
  have hm := hs.merge ht
  refine (hs.merge (ht.insert p)).ext (hm.insert p) (names_merge_insert s t p) ?_
  intro name
  rw [values_merge hs (ht.insert p)]
  by_cases h : name = p.name
  · subst h
    rw [values_insert_self, values_insert_self, values_merge hs ht, List.append_assoc]
  · rw [values_insert_of_ne h, values_insert_of_ne h, values_merge hs ht]

theorem merge_empty {s : Store} (h : s.WellFormed) : s.merge ∅ = s := by
  have hempty : (∅ : Store).WellFormed := wellFormed_ofPairs []
  refine (h.merge hempty).ext h ?_ ?_
  · rw [names_merge]
    exact List.append_nil _
  · intro name
    rw [values_merge h hempty]
    exact List.append_nil _

/-- Pairs that are added to a store are merged into it. -/
theorem foldl_insert_eq_merge {s : Store} (h : s.WellFormed) (pairs : List Pair) :
    pairs.foldl insert s = s.merge (ofPairs pairs) := by
  induction pairs using List.reverseRecOn with
  | nil => exact (merge_empty h).symm
  | append_singleton pairs p ih =>
    rw [List.foldl_append, ih, ofPairs_concat, merge_insert h (wellFormed_ofPairs pairs)]
    rfl

/-- The store of two lists of pairs is the merge of their stores. -/
theorem ofPairs_append (pairs more : List Pair) :
    ofPairs (pairs ++ more) = (ofPairs pairs).merge (ofPairs more) := by
  rw [← foldl_insert_eq_merge (wellFormed_ofPairs pairs), ofPairs, List.foldl_append]
  rfl

end QueryString.Store
