import QueryString.Proofs.Store.Merge

/-!
# What the store of a list of pairs holds

`Groups` is the invariant of the loop that adds pair after pair: it holds of the empty store and no
pairs, one step keeps it for one more pair (`Groups.insert`), and so the store of a list holds what
the list gives (`groups_ofPairs`), each value once and in its place. No other store does
(`Groups.eq_ofPairs`), since no two lists of names have the same members in the same order.
-/

namespace QueryString.Store

/-- The store groups the pairs by their names: each name once, and with all its values. -/
structure Groups (s : Store) (pairs : List Pair) : Prop extends WellFormed s where
  mem_iff : ∀ name, name ∈ s ↔ ∃ p ∈ pairs, p.name = name
  /-- A name that comes first among the names comes first among the pairs. -/
  order : s.names.Pairwise fun a b =>
    (pairs.map (·.name)).idxOf a < (pairs.map (·.name)).idxOf b
  /-- The values of a name are those of its pairs, in order. -/
  values_eq : ∀ name, s.values name = (pairs.filter (·.name = name)).map (·.value)
  /-- There are as many values as pairs. -/
  count : (s.entries.flatMap (·.2)).length = pairs.length

theorem length_items (s : Store) : s.items.length = (s.entries.flatMap (·.2)).length := by
  rw [items, List.length_flatMap, List.length_flatMap]
  simp only [List.length_map]

theorem groups_empty : (∅ : Store).Groups [] where
  toWellFormed := wellFormed_ofPairs []
  mem_iff name := by simp [mem_iff_mem_names, names, EmptyCollection.emptyCollection]
  order := List.Pairwise.nil
  values_eq _ := rfl
  count := rfl

/-- One more pair moves no name that was there, and a name that was not comes after all others. -/
theorem Groups.order_insert {s : Store} {pairs : List Pair} (h : s.Groups pairs) (p : Pair) :
    (s.insert p).names.Pairwise fun a b =>
      ((pairs ++ [p]).map (·.name)).idxOf a < ((pairs ++ [p]).map (·.name)).idxOf b := by
  have hmem : ∀ name ∈ s.names, name ∈ pairs.map (·.name) := by
    intro name hn
    obtain ⟨q, hq, rfl⟩ := (h.mem_iff name).1 (mem_iff_mem_names.2 hn)
    exact List.mem_map_of_mem hq
  have hold : s.names.Pairwise fun a b =>
      ((pairs ++ [p]).map (·.name)).idxOf a < ((pairs ++ [p]).map (·.name)).idxOf b := by
    refine h.order.imp_of_mem fun {a b} ha hb hab => ?_
    rw [List.map_append, List.idxOf_append_of_mem (hmem a ha), List.idxOf_append_of_mem (hmem b hb)]
    exact hab
  rw [names_insert]
  split
  · exact hold
  · next hp =>
    refine List.pairwise_append.2 ⟨hold, List.pairwise_singleton _ _, ?_⟩
    intro a ha b hb
    obtain rfl := List.mem_singleton.1 hb
    have hnew : p.name ∉ pairs.map (·.name) := by
      intro hm
      obtain ⟨q, hq, hqp⟩ := List.mem_map.1 hm
      exact hp (mem_iff_mem_names.1 ((h.mem_iff p.name).2 ⟨q, hq, hqp⟩))
    have hlt := List.idxOf_lt_length_of_mem (hmem a ha)
    rw [List.map_append, List.idxOf_append_of_mem (hmem a ha), List.idxOf_append_of_notMem hnew]
    omega

/-- Adding a pair to a store that groups some pairs groups one more. -/
theorem Groups.insert {s : Store} {pairs : List Pair} (h : s.Groups pairs) (p : Pair) :
    (s.insert p).Groups (pairs ++ [p]) where
  toWellFormed := h.toWellFormed.insert p
  mem_iff name := by
    rw [mem_insert, h.mem_iff]
    simp only [List.mem_append, List.mem_singleton, or_and_right, exists_or, exists_eq_left]
    rw [or_comm, eq_comm]
  order := h.order_insert p
  values_eq name := by
    have hconcat := valuesOf_concat pairs p name
    rw [valuesOf, valuesOf, ← h.values_eq] at hconcat
    rw [hconcat]
    split
    · next hn => rw [hn, values_insert_self]
    · next hn => rw [values_insert_of_ne hn]
  count := by
    rw [← length_items, (items_insert_perm s p).length_eq, List.length_cons, length_items, h.count,
      List.length_append, List.length_singleton]

/-- The store of a list of pairs groups the pairs. -/
theorem groups_ofPairs (pairs : List Pair) : (ofPairs pairs).Groups pairs := by
  induction pairs using List.reverseRecOn with
  | nil => exact groups_empty
  | append_singleton pairs p ih =>
    rw [ofPairs_concat]
    exact ih.insert p

theorem Groups.isEmpty_iff {s : Store} {pairs : List Pair} (h : s.Groups pairs) :
    s.isEmpty ↔ pairs = [] := by
  rw [isEmpty, List.isEmpty_iff]
  constructor
  · intro hs
    have hcount := h.count
    rw [hs] at hcount
    exact List.length_eq_zero_iff.1 hcount.symm
  · rintro rfl
    rw [List.eq_nil_iff_forall_not_mem]
    intro entry he
    obtain ⟨p, hp, _⟩ := (h.mem_iff entry.1).1 (mem_iff_mem_names.2 (List.mem_map_of_mem he))
    exact absurd hp List.not_mem_nil

/-- There is one store that groups the pairs. -/
theorem Groups.eq_ofPairs {s : Store} {pairs : List Pair} (h : s.Groups pairs) :
    s = ofPairs pairs := by
  have ht := groups_ofPairs pairs
  have hperm : s.names.Perm (ofPairs pairs).names := by
    rw [List.perm_ext_iff_of_nodup h.nodup ht.nodup]
    intro name
    rw [← mem_iff_mem_names, ← mem_iff_mem_names, h.mem_iff, ht.mem_iff]
  have hnames : s.names = (ofPairs pairs).names := by
    refine hperm.eq_of_pairwise ?_ h.order ht.order
    intro a b _ _ hab hba
    exact absurd hab (Nat.lt_asymm hba)
  refine h.toWellFormed.ext ht.toWellFormed hnames fun name => ?_
  rw [h.values_eq, ht.values_eq]

end QueryString.Store
