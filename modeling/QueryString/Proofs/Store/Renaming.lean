import Mathlib.Data.List.Perm.Subperm
import QueryString.Proofs.Interleaving
import QueryString.Proofs.Store.Groups

/-!
# Stores under another reading

What becomes of a store when its names and values are read in another way, each text on its own?

* As long as different names stay different, the store keeps its shape: its entries are what the
  entries were, each read in its place (`ofPairs_map`). One pair is added in the same place under
  both readings (`insert_map`), and the run follows.
* Names that are read alike share an entry. The values of that entry are the values of these names,
  woven together in the order of the pairs (`interleaving_values_ofPairs_map`).
* Nothing changes at all only if every name and every value is read as itself: no two changes can
  make up for each other (`WellFormed.ofPairs_map_items_eq_iff`).
-/

namespace QueryString

/-- The pair of what its name and its value are read as. -/
def Pair.map (f : Text → Text) (p : Pair) : Pair := ⟨f p.name, f p.value⟩

namespace Store

/-- The store of what names and values are read as, each in its place. -/
def map (f : Text → Text) (s : Store) : Store :=
  ⟨s.entries.map fun entry => (f entry.1, entry.2.map f)⟩

/-! ## What is in the store of a list of pairs -/

theorem mem_names_ofPairs {pairs : List Pair} {name : Text} :
    name ∈ (ofPairs pairs).names ↔ ∃ p ∈ pairs, p.name = name := by
  rw [← mem_iff_mem_names]
  exact (groups_ofPairs pairs).mem_iff name

theorem mem_values_ofPairs {pairs : List Pair} {name value : Text} :
    value ∈ (ofPairs pairs).values name ↔ ⟨name, value⟩ ∈ pairs := by
  rw [(groups_ofPairs pairs).values_eq, List.mem_map]
  simp only [List.mem_filter, decide_eq_true_eq]
  constructor
  · rintro ⟨p, ⟨hp, rfl⟩, rfl⟩
    exact hp
  · intro h
    exact ⟨_, ⟨h, rfl⟩, rfl⟩

/-- What holds of the names and the values of all pairs holds of those in the store, and only
then. -/
theorem forall_mem_ofPairs_iff {P Q : Text → Prop} {pairs : List Pair} :
    (∀ p ∈ pairs, P p.name ∧ Q p.value) ↔
      ∀ name ∈ (ofPairs pairs).names, P name ∧ ∀ value ∈ (ofPairs pairs).values name, Q value := by
  simp only [mem_names_ofPairs, mem_values_ofPairs]
  constructor
  · rintro h name ⟨p, hp, rfl⟩
    exact ⟨(h p hp).1, fun value hv => (h _ hv).2⟩
  · intro h p hp
    obtain ⟨hname, hvalues⟩ := h p.name ⟨p, hp, rfl⟩
    exact ⟨hname, hvalues p.value hp⟩

/-! ## Names that stay different -/

/-- One pair is added to the entry of its name, whichever way the names are read. -/
theorem insertEntry_map {f : Text → Text} {name : Text} (value : Text)
    {entries : List (Text × List Text)}
    (h : ∀ other ∈ keys entries, f name = f other → name = other) :
    insertEntry (f name) (f value) (entries.map fun entry => (f entry.1, entry.2.map f)) =
      (insertEntry name value entries).map fun entry => (f entry.1, entry.2.map f) := by
  induction entries with
  | nil => rfl
  | cons entry entries ih =>
    rw [keys_cons, List.forall_mem_cons] at h
    rw [List.map_cons, insertEntry, insertEntry]
    by_cases he : name = entry.1
    · rw [if_pos he, if_pos (congrArg f he), List.map_cons, List.map_append]
      rfl
    · rw [if_neg he, if_neg fun hf => he (h.1 hf), List.map_cons, ih h.2]

theorem insert_map {f : Text → Text} {s : Store} {p : Pair}
    (h : ∀ name ∈ s.names, f p.name = f name → p.name = name) :
    (s.map f).insert (p.map f) = (s.insert p).map f :=
  congrArg Store.mk (insertEntry_map p.value h)

/-- If no two names are read alike, the store of the pairs as they are read is the store of the
pairs, read in its place. -/
theorem ofPairs_map {f : Text → Text} {pairs : List Pair}
    (h : ∀ p ∈ pairs, ∀ q ∈ pairs, f p.name = f q.name → p.name = q.name) :
    ofPairs (pairs.map (Pair.map f)) = (ofPairs pairs).map f := by
  induction pairs using List.reverseRecOn with
  | nil => rfl
  | append_singleton pairs p ih =>
    have hpairs : ∀ q ∈ pairs, ∀ q' ∈ pairs, f q.name = f q'.name → q.name = q'.name :=
      fun q hq q' hq' => h q (List.mem_append_left _ hq) q' (List.mem_append_left _ hq')
    have hname : ∀ name ∈ (ofPairs pairs).names, f p.name = f name → p.name = name := by
      intro name hn
      obtain ⟨q, hq, rfl⟩ := mem_names_ofPairs.1 hn
      exact h p (by simp) q (List.mem_append_left _ hq)
    rw [List.map_append, List.map_singleton, ofPairs_concat, ih hpairs, ofPairs_concat,
      insert_map hname]

/-! ## Names that are read alike -/

/-- Among the pairs whose names are read as one, each of these names has all its pairs. -/
theorem filter_name_of_read {f : Text → Text} {name other : Text} (h : f other = name)
    (pairs : List Pair) :
    (pairs.filter (f ·.name = name)).filter (·.name = other) = pairs.filter (·.name = other) := by
  rw [List.filter_filter]
  refine List.filter_congr fun p _ => ?_
  by_cases hp : p.name = other
  · simp [hp, h]
  · simp [hp]

/-- The values of a name are the values of all names that are read as it, woven together. -/
theorem interleaving_values_ofPairs_map (f : Text → Text) (pairs : List Pair) (name : Text) :
    Interleaving
      (((ofPairs pairs).names.filter (f · = name)).map fun other =>
        ((ofPairs pairs).values other).map f)
      ((ofPairs (pairs.map (Pair.map f))).values name) := by
  have hnodup := (wellFormed_ofPairs pairs).nodup.filter (f · = name)
  have hkeys : ∀ p ∈ pairs.filter (f ·.name = name),
      p.name ∈ (ofPairs pairs).names.filter (f · = name) := by
    intro p hp
    obtain ⟨hp, hname⟩ := List.mem_filter.1 hp
    exact List.mem_filter.2 ⟨mem_names_ofPairs.2 ⟨p, hp, rfl⟩, hname⟩
  have hwoven := (interleaving_filter Pair.name hnodup hkeys).map fun p => f p.value
  rw [List.map_map] at hwoven
  have hvalues : (ofPairs (pairs.map (Pair.map f))).values name =
      (pairs.filter (f ·.name = name)).map fun p => f p.value := by
    rw [(groups_ofPairs _).values_eq, List.filter_map, List.map_map]
    rfl
  have hparts : ∀ other ∈ (ofPairs pairs).names.filter (f · = name),
      ((pairs.filter (f ·.name = name)).filter (·.name = other)).map (fun p => f p.value) =
        ((ofPairs pairs).values other).map f := by
    intro other ho
    have hother : f other = name := by simpa using (List.mem_filter.1 ho).2
    rw [filter_name_of_read hother, (groups_ofPairs pairs).values_eq, List.map_map]
    rfl
  rw [hvalues, ← List.map_congr_left hparts]
  exact hwoven

/-! ## Names and values that are read as themselves -/

theorem WellFormed.mem_names_iff_exists_items {s : Store} (h : s.WellFormed) {name : Text} :
    name ∈ s.names ↔ ∃ p ∈ s.items, p.name = name := by
  conv_lhs => rw [← h.ofPairs_items]
  exact mem_names_ofPairs

/-- If no name is lost, no two names are read alike: there would be too few of them. -/
theorem WellFormed.eq_of_subset_map {s : Store} (h : s.WellFormed) {f : Text → Text}
    (hsub : s.names ⊆ s.names.map f) :
    ∀ p ∈ s.items, ∀ q ∈ s.items, f p.name = f q.name → p.name = q.name := by
  have hperm : s.names.Perm (s.names.map f) :=
    (h.nodup.subperm hsub).perm_of_length_le (Nat.le_of_eq (List.length_map f))
  intro p hp q hq heq
  exact List.inj_on_of_nodup_map (hperm.nodup h.nodup)
    (h.mem_names_iff_exists_items.2 ⟨p, hp, rfl⟩) (h.mem_names_iff_exists_items.2 ⟨q, hq, rfl⟩) heq

theorem map_eq_self_iff {f : Text → Text} {s : Store} :
    s.map f = s ↔
      ∀ entry ∈ s.entries, f entry.1 = entry.1 ∧ ∀ value ∈ entry.2, f value = value := by
  have hlist : ∀ {α : Type} (g : α → α) (as : List α), as.map g = as ↔ ∀ a ∈ as, g a = a := by
    intro α g as
    conv_lhs => rw [← List.map_id as, List.map_map]
    exact List.map_inj_left
  rw [map, Store.mk.injEq, hlist]
  simp only [Prod.ext_iff, hlist]

theorem forall_mem_items_iff {P : Text → Text → Prop} {s : Store} :
    (∀ p ∈ s.items, P p.name p.value) ↔
      ∀ entry ∈ s.entries, ∀ value ∈ entry.2, P entry.1 value := by
  simp only [items, List.forall_mem_flatMap, List.forall_mem_map]

/-- The items of a store make the same store in another reading only if the reading keeps each name
and each value. -/
theorem WellFormed.ofPairs_map_items_eq_iff {s : Store} (h : s.WellFormed) {f : Text → Text} :
    ofPairs (s.items.map (Pair.map f)) = s ↔
      ∀ p ∈ s.items, f p.name = p.name ∧ f p.value = p.value := by
  constructor
  · intro heq
    have hsub : s.names ⊆ s.names.map f := by
      intro name hname
      rw [← heq, mem_names_ofPairs] at hname
      obtain ⟨_, hq, rfl⟩ := hname
      obtain ⟨p, hp, rfl⟩ := List.mem_map.1 hq
      exact List.mem_map_of_mem (h.mem_names_iff_exists_items.2 ⟨p, hp, rfl⟩)
    rw [ofPairs_map (h.eq_of_subset_map hsub), h.ofPairs_items, map_eq_self_iff] at heq
    rw [forall_mem_items_iff (P := fun name value => f name = name ∧ f value = value)]
    exact fun entry he value hv => ⟨(heq entry he).1, (heq entry he).2 value hv⟩
  · intro hfix
    have hid : ∀ p ∈ s.items, Pair.map f p = p := by
      rintro ⟨name, value⟩ hp
      obtain ⟨hname, hvalue⟩ := hfix _ hp
      rw [Pair.map, hname, hvalue]
    rw [List.map_congr_left hid, List.map_id', h.ofPairs_items]

end Store

end QueryString
