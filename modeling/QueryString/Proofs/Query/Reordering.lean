import QueryString.Proofs.Request.Parameters
import QueryString.Proofs.Store.Same

/-!
# Segments in another order

A query that can be read is its segments, each with the pair that it is read as (`HasReadings`,
`exists_hasReadings`). Whatever order the segments are put in, and however many empty ones stand
between them, each is read as before (`HasReadings.of_perm`). So two orders are told apart by
nothing but the values that they give to each name (`same_ofPairs_entries_iff`).
-/

namespace QueryString

/-- The segment is read as the pair, as it stands or decoded. -/
def Reading.ReadsSegment [Codecs] (reading : Reading) (segment : Text) (p : Pair) : Prop :=
  ∃ raw, Pair.StandsIn raw segment ∧ reading.Reads raw p

theorem Reading.readsSegment_iff [Codecs] {reading : Reading} {segment : Text} {p : Pair} :
    reading.ReadsSegment segment p ↔ reading.Reads (Pair.ofSegment segment) p := by
  unfold Reading.ReadsSegment
  simp only [Pair.standsIn_iff, exists_eq_left]

namespace Query

/-- The query is made of the segments, in order: they are the pieces between its ampersands that are
not empty. -/
def HasSegments (query : Text) (segments : List Text) : Prop :=
  ∃ pieces : List Text, pieces ≠ [] ∧ (∀ piece ∈ pieces, separator ∉ piece) ∧
    Text.join separator pieces = query ∧ pieces.filter (· ≠ []) = segments

theorem hasSegments_iff {query : Text} {texts : List Text} :
    HasSegments query texts ↔ texts = segments query := by
  constructor
  · rintro ⟨pieces, hne, hsep, rfl, rfl⟩
    rw [segments_eq_filter, Text.split_join hne hsep]
  · rintro rfl
    refine ⟨Text.split separator query, Text.split_ne_nil _ _, ?_, Text.join_split _ _, ?_⟩
    · intro piece hpiece
      exact Text.not_mem_of_mem_split hpiece
    · rw [segments_eq_filter]

/-- The query is made of segments, each of which is read as the pair beside it. -/
structure HasReadings [Codecs] (reading : Reading) (query : Text) (entries : List (Text × Pair)) :
    Prop where
  segments : HasSegments query (entries.map (·.1))
  reads : ∀ entry ∈ entries, reading.ReadsSegment entry.1 entry.2

variable {reading : Reading} {query : Text} {entries : List (Text × Pair)}

/-! ## One order -/

/-- The segments of a query and the pairs that it is read as stand side by side. -/
theorem hasReadings_iff [Codecs] :
    HasReadings reading query entries ↔
      entries.map (·.1) = segments query ∧ pairs reading query = .ok (entries.map (·.2)) := by
  have hpairs : entries.map (·.1) = segments query →
      (pairs reading query = .ok (entries.map (·.2)) ↔
        ∀ entry ∈ entries, reading.ReadsSegment entry.1 entry.2) := by
    intro hsegments
    rw [pairs_eq_ok_iff, rawPairs, ← hsegments, List.map_map, List.forall₂_map_left_iff,
      List.forall₂_map_right_iff, List.forall₂_same]
    simp only [Reading.readsSegment_iff]
    rfl
  constructor
  · rintro ⟨hsegments, hreads⟩
    rw [hasSegments_iff] at hsegments
    exact ⟨hsegments, (hpairs hsegments).2 hreads⟩
  · rintro ⟨hsegments, hp⟩
    exact ⟨hasSegments_iff.2 hsegments, (hpairs hsegments).1 hp⟩

theorem HasReadings.read_eq [Codecs] (h : HasReadings reading query entries) :
    read reading query = .ok (Store.ofPairs (entries.map (·.2))) := by
  rw [read, (hasReadings_iff.1 h).2]
  rfl

/-- Each segment of a query that can be read is read as some pair. -/
theorem exists_hasReadings [Codecs] {store : Store} (h : read reading query = .ok store) :
    ∃ entries, HasReadings reading query entries := by
  obtain ⟨ps, hps, _⟩ := map_eq_ok_iff.1 h
  have hlen : (segments query).length = ps.length := by
    have hforall := (pairs_eq_ok_iff.1 hps).length_eq
    rwa [rawPairs, List.length_map] at hforall
  refine ⟨(segments query).zip ps, hasReadings_iff.2 ⟨?_, ?_⟩⟩
  · exact List.map_fst_zip (Nat.le_of_eq hlen)
  · rw [List.map_snd_zip (Nat.le_of_eq hlen.symm)]
    exact hps

/-! ## Two orders -/

/-- In another order, among empty segments or none, every segment is read as before. -/
theorem HasReadings.of_perm [Codecs] (h : HasReadings reading query entries) {query' : Text}
    {entries' : List (Text × Pair)} (hperm : entries'.Perm entries)
    (hsegments : HasSegments query' (entries'.map (·.1))) :
    HasReadings reading query' entries' where
  segments := hsegments
  reads := fun entry he => h.reads entry (hperm.mem_iff.1 he)

/-- The values that the entries of a name have, in order. -/
theorem valuesOf_entries (entries : List (Text × Pair)) (name : Text) :
    Store.valuesOf (entries.map (·.2)) name =
      (entries.filter (·.2.name = name)).map (·.2.value) := by
  unfold Store.valuesOf
  rw [List.filter_map, List.map_map]
  rfl

/-- Two orders give the same store if and only if the segments of each name have the same values in
the same order. -/
theorem same_ofPairs_entries_iff (entries' entries : List (Text × Pair)) :
    (Store.ofPairs (entries'.map (·.2))).same (Store.ofPairs (entries.map (·.2))) ↔
      ∀ name, (entries'.filter (·.2.name = name)).map (·.2.value) =
        (entries.filter (·.2.name = name)).map (·.2.value) := by
  rw [Store.same_ofPairs_iff]
  simp only [valuesOf_entries]

end Query

end QueryString
