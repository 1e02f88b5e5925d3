import QueryString.Proofs.Query.Segments
import QueryString.Proofs.Request.Built
import QueryString.Proofs.Store.Groups
import QueryString.Request.Access

/-!
# The parameters that a query gives

What comes of a query is said from the pairs that stand in it (`Query.HasPairs`), from what each of
them is read as (`Reading.Reads`), and from what a store of pairs holds (`Store.Groups`): there is a
store if and only if every pair is read, and it groups what the pairs are read as. `parse_groups`
puts this together with what is written down, and with whether a request has parameters at all.
-/

namespace QueryString

/-- The pair of a query is read as the second one: as it stands, or name and value decoded. -/
def Reading.Reads [Codecs] : Reading → Pair → Pair → Prop
  | .raw, p, q => p = q
  | .decoded coding, p, q => coding.decode p.name = .ok q.name ∧ coding.decode p.value = .ok q.value

namespace Query

theorem pairs_eq_ok_iff [Codecs] {reading : Reading} {query : Text} {ps : List Pair} :
    pairs reading query = .ok ps ↔ List.Forall₂ reading.Reads (rawPairs query) ps := by
  cases reading with
  | raw =>
    show Except.ok (rawPairs query) = .ok ps ↔ List.Forall₂ (fun p q => p = q) (rawPairs query) ps
    rw [List.forall₂_eq_eq_eq, Except.ok.injEq]
  | decoded coding =>
    rw [pairs, mapM_eq_ok_iff]
    simp only [Coding.decodePair_eq_ok_iff]
    rfl

/-- The pairs of a query are read if they are not decoded, or if every name and every value is. -/
theorem exists_reads_iff [Codecs] {reading : Reading} {raw : List Pair} :
    (∃ ps, List.Forall₂ reading.Reads raw ps) ↔
      reading = .raw ∨ ∃ coding, reading = .decoded coding ∧ ∀ p ∈ raw,
        (∃ name, coding.decode p.name = .ok name) ∧ ∃ value, coding.decode p.value = .ok value := by
  rw [exists_forall₂_iff]
  cases reading with
  | raw => exact iff_of_true (fun p _ => ⟨p, rfl⟩) (Or.inl rfl)
  | decoded coding =>
    simp only [Reading.Reads, ← Pair.exists_iff, reduceCtorEq, false_or,
      Reading.decoded.injEq, exists_eq_left']

theorem HasPairs.read_eq_ok_iff [Codecs] {query : Text} {raw : List Pair} (h : HasPairs query raw)
    {reading : Reading} {store : Store} :
    read reading query = .ok store ↔
      ∃ ps, List.Forall₂ reading.Reads raw ps ∧ store.Groups ps := by
  rw [hasPairs_iff] at h
  subst h
  rw [read, map_eq_ok_iff]
  simp only [pairs_eq_ok_iff]
  constructor
  · rintro ⟨ps, hps, rfl⟩
    exact ⟨ps, hps, Store.groups_ofPairs ps⟩
  · rintro ⟨ps, hps, hgroups⟩
    exact ⟨ps, hps, hgroups.eq_ofPairs.symm⟩

/-- What is written down when a query was read. -/
theorem parse_log_of_ok [Codecs] {reading : Reading} {query : Option Text} {store : Store}
    (h : (parse reading query).result = .ok store) :
    (parse reading query).log =
      if query.getD [] = [] then [] else [.parsed store.names.length reading.isDecoded] := by
  rw [parse_result] at h
  have hlog : (parse reading query).log = record reading (query.getD []) store := by rw [parse, h]
  have hsize : store.size = store.names.length := (List.length_map _).symm
  rw [hlog, record, hsize]
  cases query.getD [] <;> rfl

theorem parse_log_of_error [Codecs] {reading : Reading} {query : Option Text} {e : Error}
    (h : (parse reading query).result = .error e) : (parse reading query).log = [] := by
  rw [parse_result] at h
  rw [parse, h]

/-- A request has parameters if and only if its query has a character that is no ampersand. -/
theorem HasPairs.hasParameters_iff [Codecs] {query : Option Text} {raw : List Pair}
    (h : HasPairs (query.getD []) raw) {reading : Reading} {path : Text} {r : Request}
    (hr : Request.ofTarget reading ⟨path, query⟩ = .ok r) :
    r.hasParameters ↔ ∃ c ∈ query.getD [], c ≠ separator := by
  obtain ⟨store, hread, rfl⟩ := Request.ofTarget_eq_ok_iff.1 hr
  obtain ⟨ps, hps, hgroups⟩ := h.read_eq_ok_iff.1 hread
  have hnil : ps = [] ↔ raw = [] := by
    rw [← List.length_eq_zero_iff, ← List.length_eq_zero_iff, hps.length_eq]
  rw [Request.hasParameters, Bool.not_eq_true', ← Bool.not_eq_true, hgroups.isEmpty_iff, hnil,
    h.eq_nil_iff, not_forall]
  simp only [Classical.not_imp, ne_eq]

/-- A query gives a store if and only if it is not decoded or all its names and values are decoded.
The store groups what its pairs are read as, and no other store does. One record is written down
for a query that has given a store, unless it is empty, and none for a failure. There are
parameters if and only if some character of the query is no ampersand. -/
theorem parse_groups [Codecs] (reading : Reading) (query : Option Text) (raw : List Pair)
    (h : HasPairs (query.getD []) raw) :
    ((∃ store, (parse reading query).result = .ok store) ↔
      reading = .raw ∨ ∃ coding, reading = .decoded coding ∧ ∀ p ∈ raw,
        (∃ name, coding.decode p.name = .ok name) ∧ ∃ value, coding.decode p.value = .ok value) ∧
    (∀ store, (parse reading query).result = .ok store ↔
      ∃ ps, List.Forall₂ reading.Reads raw ps ∧ store.Groups ps) ∧
    (∀ store, (parse reading query).result = .ok store → (parse reading query).log =
      if query.getD [] = [] then [] else [.parsed store.names.length reading.isDecoded]) ∧
    (∀ e, (parse reading query).result = .error e → (parse reading query).log = []) ∧
    ∀ path r, Request.ofTarget reading ⟨path, query⟩ = .ok r →
      (r.hasParameters ↔ ∃ c ∈ query.getD [], c ≠ separator) := by
  have hstore : ∀ store, (parse reading query).result = .ok store ↔
      ∃ ps, List.Forall₂ reading.Reads raw ps ∧ store.Groups ps := by
    intro store
    rw [parse_result, h.read_eq_ok_iff]
  refine ⟨?_, hstore, fun store => parse_log_of_ok, fun e => parse_log_of_error,
    fun path r hr => h.hasParameters_iff hr⟩
  rw [← exists_reads_iff]
  simp only [hstore]
  constructor
  · rintro ⟨store, ps, hps, _⟩
    exact ⟨ps, hps⟩
  · rintro ⟨ps, hps⟩
    exact ⟨Store.ofPairs ps, ps, hps, Store.groups_ofPairs ps⟩

/-- Empty segments, a name in two spellings, a name alone, and a value with an equals sign. -/
theorem parse_groups_utf8 :
    HasPairs "&a=1&&b&%61==".toList [⟨['a'], ['1']⟩, ⟨['b'], []⟩, ⟨"%61".toList, ['=']⟩] ∧
      (parse (.decoded ⟨"utf-8".toList, true⟩) (some "&a=1&&b&%61==".toList)).log =
        [.parsed 2 true] := by
  have hpairs : HasPairs "&a=1&&b&%61==".toList
      [⟨['a'], ['1']⟩, ⟨['b'], []⟩, ⟨"%61".toList, ['=']⟩] :=
    hasPairs_iff.2 (by decide)
  have h := parse_groups (.decoded ⟨"utf-8".toList, true⟩) (some "&a=1&&b&%61==".toList) _ hpairs
  exact ⟨hpairs, h.2.2.1 ⟨[(['a'], [['1'], ['=']]), (['b'], [[]])]⟩ (by decide +kernel)⟩

end Query

end QueryString
