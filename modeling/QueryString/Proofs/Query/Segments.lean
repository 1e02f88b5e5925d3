import QueryString.Proofs.Query.RoundTrip

/-!
# The pairs that stand in a query

`HasPairs` says of which pairs a query is made without a word on how they are found: the query is
pieces with ampersands between them, and each piece that is not empty is a name and a value around
its first equals sign, or a name alone. There is one such list of pairs, the one that `rawPairs`
finds (`hasPairs_iff`).
-/

namespace QueryString

/-- The pair stands in the segment: around its first equals sign, or as a name without a value. -/
inductive Pair.StandsIn : Pair → Text → Prop where
  | divided {name : Text} (value : Text) (h : separator ∉ name) :
    StandsIn ⟨name, value⟩ (name ++ separator :: value)
  | bare {name : Text} (h : separator ∉ name) : StandsIn ⟨name, []⟩ name

theorem Pair.standsIn_iff {p : Pair} {segment : Text} :
    p.StandsIn segment ↔ p = ofSegment segment := by
  constructor
  · intro h
    cases h with
    | divided value h => rw [ofSegment, Text.cut_append h]
    | bare h => rw [ofSegment, Text.cut_of_not_mem h]
  · rintro rfl
    have hname := separator_not_mem_name_ofSegment segment
    rcases Text.eq_append_cut_or separator segment with hs | ⟨hs, hvalue⟩
    · have h : StandsIn (ofSegment segment)
          ((Text.cut separator segment).1 ++ separator :: (Text.cut separator segment).2) :=
        .divided _ hname
      rwa [← hs] at h
    · have hp : ofSegment segment = ⟨(ofSegment segment).name, []⟩ := by
        rw [ofSegment, hvalue]
      have h : StandsIn ⟨(ofSegment segment).name, []⟩ (Text.cut separator segment).1 :=
        .bare hname
      rwa [← hs, ← hp] at h

namespace Query

/-- The pairs are those of the query, in order. -/
def HasPairs (query : Text) (pairs : List Pair) : Prop :=
  ∃ pieces : List Text, pieces ≠ [] ∧ (∀ piece ∈ pieces, separator ∉ piece) ∧
    Text.join separator pieces = query ∧
    List.Forall₂ (fun segment p => Pair.StandsIn p segment) (pieces.filter (· ≠ [])) pairs

theorem forall₂_standsIn_iff {segments : List Text} {pairs : List Pair} :
    List.Forall₂ (fun segment p => Pair.StandsIn p segment) segments pairs ↔
      pairs = segments.map Pair.ofSegment := by
  simp only [Pair.standsIn_iff]
  induction segments generalizing pairs with
  | nil => rw [List.forall₂_nil_left_iff, List.map_nil]
  | cons segment segments ih =>
    rw [List.forall₂_cons_left_iff, List.map_cons]
    constructor
    · rintro ⟨p, ps, rfl, hps, rfl⟩
      rw [ih.1 hps]
    · rintro rfl
      exact ⟨_, _, rfl, ih.2 rfl, rfl⟩

theorem segments_eq_filter (query : Text) :
    segments query = (Text.split separator query).filter (· ≠ []) := by
  refine List.filter_congr fun piece _ => ?_
  cases piece <;> rfl

/-- A query is made of the pairs that are found in it, and of no others. -/
theorem hasPairs_iff {query : Text} {pairs : List Pair} :
    HasPairs query pairs ↔ pairs = rawPairs query := by
  constructor
  · rintro ⟨pieces, hne, hsep, rfl, hpairs⟩
    rw [rawPairs, segments_eq_filter, Text.split_join hne hsep]
    exact forall₂_standsIn_iff.1 hpairs
  · rintro rfl
    refine ⟨Text.split separator query, Text.split_ne_nil _ _, ?_, Text.join_split _ _, ?_⟩
    · intro piece hpiece
      exact Text.not_mem_of_mem_split hpiece
    · rw [← segments_eq_filter]
      exact forall₂_standsIn_iff.2 rfl

theorem hasPairs_rawPairs (query : Text) : HasPairs query (rawPairs query) := hasPairs_iff.2 rfl

theorem HasPairs.pairs_eq_mapM [Codecs] {query : Text} {raw : List Pair} (h : HasPairs query raw)
    (coding : Coding) : pairs (.decoded coding) query = raw.mapM coding.decodePair := by
  rw [hasPairs_iff] at h
  subst h
  rfl

/-- A query without pairs is nothing but ampersands. -/
theorem HasPairs.eq_nil_iff {query : Text} {pairs : List Pair} (h : HasPairs query pairs) :
    pairs = [] ↔ ∀ c ∈ query, c = separator := by
  obtain ⟨pieces, _, hsep, rfl, hpairs⟩ := h
  rw [forall₂_standsIn_iff.1 hpairs, List.map_eq_nil_iff, List.filter_eq_nil_iff,
    Text.forall_mem_join (P := (· = separator)) rfl]
  refine forall₂_congr fun piece hpiece => ?_
  have hnot := hsep piece hpiece
  cases piece with
  | nil => simp
  | cons c rest =>
    -- A piece with a character in it has one that is no ampersand.
    refine iff_of_false (by simp) fun hall => ?_
    rw [← hall c List.mem_cons_self] at hnot
    exact hnot List.mem_cons_self

end Query

end QueryString
