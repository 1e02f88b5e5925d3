import Mathlib.Data.List.Nodup

/-!
# Lists woven from parts

A list that is sorted out by a key falls into parts, one for each key, and each part keeps the order
of the list. Going back, the list is an interleaving of its parts (`interleaving_filter`): from its
front on, each element is the next one of the part of its key.
-/

namespace QueryString

variable {α β κ : Type}

/-- The list is made of the elements of all parts, and those of one part come in the order of the
part. -/
inductive Interleaving : List (List α) → List α → Prop where
  | nil {parts : List (List α)} (h : ∀ part ∈ parts, part = []) : Interleaving parts []
  /-- The next element is the first one that is left of some part. -/
  | cons {before after : List (List α)} {a : α} {part rest : List α}
    (h : Interleaving (before ++ part :: after) rest) :
    Interleaving (before ++ (a :: part) :: after) (a :: rest)

/-- What is done to every element leaves an interleaving one. -/
theorem Interleaving.map (f : α → β) {parts : List (List α)} {l : List α}
    (h : Interleaving parts l) : Interleaving (parts.map (List.map f)) (l.map f) := by
  induction h with
  | nil h =>
    refine .nil fun part hpart => ?_
    obtain ⟨part', hpart', rfl⟩ := List.mem_map.1 hpart
    rw [h part' hpart', List.map_nil]
  | cons _ ih =>
    rw [List.map_append, List.map_cons] at ih ⊢
    exact .cons ih

variable [DecidableEq κ]

/-- The parts of other keys are the same without the first element. -/
theorem map_filter_cons_of_not_mem (key : α → κ) {a : α} {keys : List κ} (h : key a ∉ keys)
    (l : List α) :
    (keys.map fun k => (a :: l).filter (key · = k)) = keys.map fun k => l.filter (key · = k) := by
  refine List.map_congr_left fun k hk => ?_
  have hne : key a ≠ k := by
    rintro rfl
    exact h hk
  exact List.filter_cons_of_neg (by simpa using hne)

/-- A list is an interleaving of its parts, one for each key. -/
theorem interleaving_filter (key : α → κ) {keys : List κ} (hnodup : keys.Nodup) {l : List α}
    (h : ∀ a ∈ l, key a ∈ keys) :
    Interleaving (keys.map fun k => l.filter (key · = k)) l := by
  induction l with
  | nil =>
    refine .nil fun part hpart => ?_
    obtain ⟨k, _, rfl⟩ := List.mem_map.1 hpart
    rfl
  | cons a l ih =>
    have hrest := ih fun b hb => h b (List.mem_cons_of_mem _ hb)
    obtain ⟨before, after, hkeys⟩ := List.append_of_mem (h a List.mem_cons_self)
    -- The key of the first element stands once, so one part loses its head and no other changes.
    rw [hkeys] at hnodup
    obtain ⟨_, hafter, hdisjoint⟩ := List.nodup_append.1 hnodup
    have hnotBefore : key a ∉ before := fun hm => hdisjoint _ hm _ List.mem_cons_self rfl
    have hnotAfter : key a ∉ after := (List.nodup_cons.1 hafter).1
    rw [hkeys, List.map_append, List.map_cons] at hrest ⊢
    rw [map_filter_cons_of_not_mem key hnotBefore, map_filter_cons_of_not_mem key hnotAfter,
      List.filter_cons_of_pos (by simp)]
    exact .cons hrest

end QueryString
