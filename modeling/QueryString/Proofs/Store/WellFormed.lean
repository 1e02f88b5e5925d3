import Mathlib.Data.List.Induction
import Mathlib.Data.List.Nodup
import QueryString.Store

/-!
# Stores that come of pairs

Adding pairs to the empty store gives each name once and no name without a value; `WellFormed` says
so, `WellFormed.insert` keeps it for one pair and `wellFormed_ofPairs` has it for all.

* A well-formed store is the store of its own items (`ofPairs_items`), so nothing is lost when it is
  written down pair by pair.
* The items of a store are the pairs that it was made of, in another order
  (`items_ofPairs_perm`).
-/

namespace QueryString.Store

/-- The names that entries have. -/
abbrev keys (entries : List (Text × List Text)) : List Text := entries.map (·.1)

theorem keys_cons (entry : Text × List Text) (entries : List (Text × List Text)) :
    keys (entry :: entries) = entry.1 :: keys entries := rfl

/-- Where no name stands twice, the name of an entry does not stand before it. -/
theorem not_mem_keys_of_nodup {before after : List (Text × List Text)}
    {entry : Text × List Text} (h : (keys (before ++ entry :: after)).Nodup) :
    entry.1 ∉ keys before := by
  rw [keys, List.map_append] at h
  exact fun hm => (List.nodup_append.1 h).2.2 entry.1 hm entry.1 List.mem_cons_self rfl

/-- Every name stands once and has a value. -/
structure WellFormed (s : Store) : Prop where
  nodup : s.names.Nodup
  values_ne_nil : ∀ entry ∈ s.entries, entry.2 ≠ []

/-! ## One pair -/

/-- A name is looked for from the front. -/
theorem insertEntry_append_of_not_mem {name : Text} (value : Text)
    {before : List (Text × List Text)} (h : name ∉ keys before)
    (after : List (Text × List Text)) :
    insertEntry name value (before ++ after) = before ++ insertEntry name value after := by
  induction before with
  | nil => rfl
  | cons entry before ih =>
    rw [keys_cons, List.mem_cons, not_or] at h
    rw [List.cons_append, insertEntry, if_neg h.1, ih h.2]
    rfl

/-- A new name comes last. -/
theorem keys_insertEntry (name value : Text) (entries : List (Text × List Text)) :
    keys (insertEntry name value entries) =
      if name ∈ keys entries then keys entries else keys entries ++ [name] := by
  induction entries with
  | nil => rfl
  | cons entry entries ih =>
    rw [insertEntry]
    by_cases h : name = entry.1
    · rw [if_pos h, if_pos (by simp [h])]
      rfl
    · rw [if_neg h, keys_cons, keys_cons, ih]
      by_cases hm : name ∈ keys entries
      · rw [if_pos hm, if_pos (List.mem_cons_of_mem _ hm)]
      · rw [if_neg hm, if_neg (by simpa [h] using hm)]
        rfl

theorem names_insert (s : Store) (p : Pair) :
    (s.insert p).names = if p.name ∈ s.names then s.names else s.names ++ [p.name] :=
  keys_insertEntry p.name p.value s.entries

theorem ne_nil_of_mem_insertEntry {name value : Text} {entries : List (Text × List Text)}
    (h : ∀ entry ∈ entries, entry.2 ≠ []) :
    ∀ entry ∈ insertEntry name value entries, entry.2 ≠ [] := by
  induction entries with
  | nil => simp [insertEntry]
  | cons entry entries ih =>
    rw [List.forall_mem_cons] at h
    rw [insertEntry]
    split
    · rw [List.forall_mem_cons]
      exact ⟨by simp, h.2⟩
    · rw [List.forall_mem_cons]
      exact ⟨h.1, ih h.2⟩

/-- A pair keeps a store well-formed. -/
theorem WellFormed.insert {s : Store} (h : s.WellFormed) (p : Pair) : (s.insert p).WellFormed where
  nodup := by
    rw [names_insert]
    split
    · exact h.nodup
    · next hn => exact List.Nodup.append h.nodup (List.nodup_singleton _) (by simpa using hn)
  values_ne_nil := ne_nil_of_mem_insertEntry h.values_ne_nil

/-- Among the items, a new pair is one more. -/
theorem items_insert_perm (s : Store) (p : Pair) : (s.insert p).items.Perm (p :: s.items) := by
  obtain ⟨entries⟩ := s
  obtain ⟨name, value⟩ := p
  simp only [items, insert]
  induction entries with
  | nil => exact List.Perm.refl _
  | cons entry entries ih =>
    rw [insertEntry]
    split
    · next h =>
      subst h
      rw [List.flatMap_cons, List.flatMap_cons, List.map_append, List.append_assoc]
      exact List.perm_middle
    · rw [List.flatMap_cons, List.flatMap_cons]
      exact (ih.append_left _).trans List.perm_middle

/-! ## All pairs -/

theorem ofPairs_concat (pairs : List Pair) (p : Pair) :
    ofPairs (pairs ++ [p]) = (ofPairs pairs).insert p := by
  rw [ofPairs, List.foldl_append]
  rfl

/-- The store of a list of pairs is well-formed. -/
theorem wellFormed_ofPairs (pairs : List Pair) : (ofPairs pairs).WellFormed := by
  induction pairs using List.reverseRecOn with
  | nil => exact ⟨List.nodup_nil, fun entry h => absurd h List.not_mem_nil⟩
  | append_singleton pairs p ih =>
    rw [ofPairs_concat]
    exact ih.insert p

/-- The items of a store are the pairs that it was made of. -/
theorem items_ofPairs_perm (pairs : List Pair) : (ofPairs pairs).items.Perm pairs := by
  induction pairs using List.reverseRecOn with
  | nil => exact List.Perm.refl _
  | append_singleton pairs p ih =>
    rw [ofPairs_concat]
    have hcons := (items_insert_perm (ofPairs pairs) p).trans (ih.cons p)
    exact hcons.trans (List.perm_append_singleton p pairs).symm

theorem mem_items_ofPairs {pairs : List Pair} {p : Pair} :
    p ∈ (ofPairs pairs).items ↔ p ∈ pairs :=
  (items_ofPairs_perm pairs).mem_iff

/-! ## From items back to the store -/

/-- More values of the name that came last go to the end of its entry. -/
theorem foldl_insert_values {before : List (Text × List Text)} {name : Text}
    (h : name ∉ keys before) (values more : List Text) :
    (more.map (⟨name, ·⟩)).foldl insert ⟨before ++ [(name, values)]⟩ =
      (⟨before ++ [(name, values ++ more)]⟩ : Store) := by
  induction more generalizing values with
  | nil => simp
  | cons value more ih =>
    have hi : insert ⟨before ++ [(name, values)]⟩ ⟨name, value⟩ =
        (⟨before ++ [(name, values ++ [value])]⟩ : Store) := by
      rw [insert, insertEntry_append_of_not_mem value h, insertEntry, if_pos rfl]
    rw [List.map_cons, List.foldl_cons, hi, ih, List.append_assoc]
    rfl

/-- Entry after entry is built up again. -/
theorem foldl_insert_items {before after : List (Text × List Text)}
    (hnodup : (keys (before ++ after)).Nodup) (hne : ∀ entry ∈ after, entry.2 ≠ []) :
    (items ⟨after⟩).foldl insert ⟨before⟩ = (⟨before ++ after⟩ : Store) := by
  induction after generalizing before with
  | nil => simp [items]
  | cons entry after ih =>
    -- The first value of the entry opens a new one at the end, the others join it.
    obtain ⟨name, values⟩ := entry
    rw [List.forall_mem_cons] at hne
    have hbefore : name ∉ keys before := not_mem_keys_of_nodup hnodup
    cases values with
    | nil => exact absurd rfl hne.1
    | cons value more =>
      have hnew : insert ⟨before⟩ ⟨name, value⟩ = (⟨before ++ [(name, [value])]⟩ : Store) := by
        have hi := insertEntry_append_of_not_mem value hbefore []
        rw [List.append_nil] at hi
        rw [insert, hi]
        rfl
      rw [List.append_cons] at hnodup ⊢
      rw [items, List.flatMap_cons, List.foldl_append, List.map_cons, List.foldl_cons, hnew,
        foldl_insert_values hbefore]
      exact ih hnodup hne.2

/-- A well-formed store is the store of its own items. -/
theorem WellFormed.ofPairs_items {s : Store} (h : s.WellFormed) : ofPairs s.items = s :=
  @foldl_insert_items [] s.entries h.nodup h.values_ne_nil

/-! ## Comparing -/

/-- The values of a name are found where they stand. -/
theorem lookup_of_mem {entries : List (Text × List Text)} (hnodup : (keys entries).Nodup)
    {entry : Text × List Text} (h : entry ∈ entries) :
    entries.lookup entry.1 = some entry.2 := by
  obtain ⟨before, after, rfl⟩ := List.append_of_mem h
  rw [List.lookup_eq_some_iff]
  refine ⟨before, after, rfl, fun other ho => ?_⟩
  have hne : entry.1 ≠ other.1 := by
    intro he
    refine not_mem_keys_of_nodup hnodup ?_
    rw [he]
    exact List.mem_map_of_mem ho
  simpa using hne

theorem WellFormed.same_self {s : Store} (h : s.WellFormed) : s.same s := by
  simp only [same, beq_self_eq_true, Bool.true_and, List.all_eq_true, beq_iff_eq]
  exact fun entry he => lookup_of_mem h.nodup he

end QueryString.Store
