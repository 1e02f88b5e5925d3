import QueryString.Proofs.Text
import QueryString.Query

/-!
# Pairs as they stand

Joining pairs with equals signs and ampersands and reading them again are inverse, as far as that
is possible: a name must hold neither sign and a value no ampersand (`rawPairs_ofRawPairs`). The
pairs of a query are always such pairs (`undivided_of_mem_rawPairs`), so they can be joined again.
-/

namespace QueryString

/-- No separator stands in a pair where it would divide the pair. -/
structure Pair.Undivided (p : Pair) : Prop where
  /-- The name does not end early. -/
  equals_not_mem_name : Pair.separator ∉ p.name
  /-- The segment does not end in the name. -/
  ampersand_not_mem_name : Query.separator ∉ p.name
  /-- The segment does not end in the value. -/
  ampersand_not_mem_value : Query.separator ∉ p.value

namespace Query

/-- Texts that are not empty and hold no ampersand are the segments of the query they are joined
to. -/
theorem segments_join {texts : List Text} (hne : ∀ t ∈ texts, t ≠ [])
    (h : ∀ t ∈ texts, separator ∉ t) : segments (Text.join separator texts) = texts := by
  cases texts with
  | nil => rfl
  | cons t texts =>
    rw [segments, Text.split_join (by simp) h, List.filter_eq_self]
    intro x hx
    simpa using hne x hx

theorem separator_not_mem_toSegment {p : Pair} (h : p.Undivided) : separator ∉ p.toSegment := by
  simp only [Pair.toSegment, List.mem_append, List.mem_cons, not_or]
  exact ⟨h.ampersand_not_mem_name, by decide, h.ampersand_not_mem_value⟩

/-- Pairs that are joined are read again. -/
theorem rawPairs_ofRawPairs {pairs : List Pair} (h : ∀ p ∈ pairs, p.Undivided) :
    rawPairs (ofRawPairs pairs) = pairs := by
  have hseg : segments (ofRawPairs pairs) = pairs.map Pair.toSegment := by
    refine segments_join ?_ ?_
    · intro t ht
      obtain ⟨p, _, rfl⟩ := List.mem_map.1 ht
      simp [Pair.toSegment]
    · intro t ht
      obtain ⟨p, hp, rfl⟩ := List.mem_map.1 ht
      exact separator_not_mem_toSegment (h p hp)
  rw [rawPairs, hseg, List.map_map]
  refine (List.map_congr_left fun p hp => ?_).trans (List.map_id pairs)
  exact Pair.ofSegment_toSegment (h p hp).equals_not_mem_name

theorem separator_not_mem_of_mem_segments {query segment : Text}
    (h : segment ∈ segments query) : separator ∉ segment :=
  Text.not_mem_of_mem_split (List.mem_filter.1 h).1

/-- A pair of a query can be joined again. -/
theorem undivided_of_mem_rawPairs {query : Text} {p : Pair} (h : p ∈ rawPairs query) :
    p.Undivided := by
  obtain ⟨segment, hs, rfl⟩ := List.mem_map.1 h
  have hsep := separator_not_mem_of_mem_segments hs
  exact ⟨Pair.separator_not_mem_name_ofSegment segment,
    fun hn => hsep (Text.mem_of_mem_cut_fst hn), fun hv => hsep (Text.mem_of_mem_cut_snd hv)⟩

end Query

end QueryString
