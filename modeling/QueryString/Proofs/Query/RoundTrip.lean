import QueryString.Proofs.Coding.RoundTrip
import QueryString.Proofs.Query.Raw
import QueryString.Proofs.Results
import QueryString.Proofs.Store.Renaming

/-!
# What is written is read again

A query that was encoded from pairs holds the coded forms of exactly these pairs
(`rawPairs_of_encode`), whatever characters they are made of: what separates is always escaped. So
reading it groups the pairs by name (`parse_encode_eq_grouping`), as it does in a charset that is
known; in another one each name and each value has to read back.

Without decoding, the same holds of pairs that nothing divides. `read_of_write` is the statement for
both ways to read. For the pairs of a store it has a converse: the store comes back only if each of
its texts does (`comeBack_of_read_items`).
-/

namespace QueryString.Query

section Codecs

variable [Codecs]

theorem encode_eq_ok_iff {coding : Coding} {pairs : List Pair} {query : Text} :
    encode coding pairs = .ok query ↔
      ∃ coded, List.Forall₂ (fun p q => coding.encodePair p = .ok q) pairs coded ∧
        ofRawPairs coded = query := by
  rw [encode, map_eq_ok_iff]
  simp only [mapM_eq_ok_iff]

/-- Pairs are written if and only if each name and each value is. -/
theorem exists_encode_ok_iff {coding : Coding} {pairs : List Pair} :
    (∃ query, encode coding pairs = .ok query) ↔
      ∀ p ∈ pairs, (∃ name, coding.encode p.name = .ok name) ∧
        ∃ value, coding.encode p.value = .ok value := by
  simp only [encode]
  rw [exists_map_eq_ok_iff, exists_mapM_ok_iff]
  simp only [← Pair.exists_iff, ← Coding.encodePair_eq_ok_iff]

/-- No separator divides a pair that was encoded. -/
theorem undivided_of_encodePair {coding : Coding} {p q : Pair}
    (h : coding.encodePair p = .ok q) : q.Undivided := by
  obtain ⟨hn, hv⟩ := Coding.encodePair_eq_ok_iff.1 h
  exact ⟨Coding.separator_not_mem_of_encode hn (by decide),
    Coding.separator_not_mem_of_encode hn (by decide),
    Coding.separator_not_mem_of_encode hv (by decide)⟩

/-- The pairs of a query that was encoded, as they stand, are the coded pairs. -/
theorem rawPairs_of_encode {coding : Coding} {pairs : List Pair} {query : Text}
    (h : encode coding pairs = .ok query) :
    List.Forall₂ (fun p q => coding.encodePair p = .ok q) pairs (rawPairs query) := by
  obtain ⟨coded, hcoded, rfl⟩ := encode_eq_ok_iff.1 h
  have hund : ∀ q ∈ coded, q.Undivided := by
    intro q hq
    obtain ⟨p, _, hp⟩ := exists_mem_of_forall₂ hcoded hq
    exact undivided_of_encodePair hp
  rwa [rawPairs_ofRawPairs hund]

/-- The store of a query that was encoded is the store of the pairs, if their texts read back. -/
theorem read_of_encode {coding : Coding} {pairs : List Pair} {query : Text}
    (h : encode coding pairs = .ok query) (hback : ∀ p ∈ pairs, coding.ReadsPairBack p) :
    read (.decoded coding) query = .ok (Store.ofPairs pairs) := by
  have hpairs : Query.pairs (.decoded coding) query = .ok pairs := by
    rw [Query.pairs, mapM_eq_ok_iff]
    refine List.Forall₂.flip (List.forall₂_iff_zip.2 ⟨(rawPairs_of_encode h).length_eq, ?_⟩)
    intro p q hpq
    have hcoded := (List.forall₂_iff_zip.1 (rawPairs_of_encode h)).2 hpq
    exact (Coding.readsPairBack_iff hcoded).1 (hback p (List.of_mem_zip hpq).1)
  rw [read, hpairs]
  rfl

theorem read_of_encode_of_ofName? {coding : Coding} {cs : Charset}
    (hcs : Charset.ofName? coding.charset = some cs) {pairs : List Pair} {query : Text}
    (h : encode coding pairs = .ok query) :
    read (.decoded coding) query = .ok (Store.ofPairs pairs) :=
  read_of_encode h fun p _ => Coding.readsPairBack_of_ofName? hcs p

/-! ## Raw and coded queries -/

/-- Writes pairs in the way in which they are to be read. -/
def write (reading : Reading) (pairs : List Pair) : Except Error Text :=
  match reading with
  | .raw => .ok (ofRawPairs pairs)
  | .decoded coding => encode coding pairs

/-- The pairs come back when they are written and read again: nothing divides them, if they are not
decoded, and otherwise all their texts read back. -/
def ComeBack : Reading → List Pair → Prop
  | .raw, pairs => ∀ p ∈ pairs, p.Undivided
  | .decoded coding, pairs => ∀ p ∈ pairs, coding.ReadsPairBack p

/-- What is written is read again, as it stands or decoded. -/
theorem read_of_write {reading : Reading} {pairs : List Pair} {query : Text}
    (hback : ComeBack reading pairs) (h : write reading pairs = .ok query) :
    read reading query = .ok (Store.ofPairs pairs) := by
  cases reading with
  | raw =>
    obtain rfl := Except.ok.inj h
    rw [read_raw, rawPairs_ofRawPairs hback]
  | decoded coding => exact read_of_encode h hback

/-- The items of what was read as it stands come back. -/
theorem comeBack_raw_items {query : Text} {store : Store} (h : read .raw query = .ok store) :
    ComeBack .raw store.items := by
  intro p hp
  rw [read_raw] at h
  obtain rfl := Except.ok.inj h
  exact undivided_of_mem_rawPairs (Store.mem_items_ofPairs.1 hp)

/-- There is one function that reads all texts that are written and read again. -/
theorem exists_reread (coding : Coding) :
    ∃ f : Text → Text, ∀ t u t', coding.encode t = .ok u → coding.decode u = .ok t' → f t = t' := by
  refine ⟨fun t => ((coding.encode t >>= coding.decode).toOption).getD [], fun t u t' hu ht => ?_⟩
  show ((coding.encode t >>= coding.decode).toOption).getD [] = t'
  rw [bind_eq_ok_iff.2 ⟨u, hu, ht⟩]
  rfl

/-- Of a store that is written decoded, the items come back if the store does. Each text is read as
something, and no two changes can make up for each other. -/
theorem comeBack_of_read_items {coding : Coding} {store : Store} (hwf : store.WellFormed)
    {query : Text} (h : encode coding store.items = .ok query)
    (hread : read (.decoded coding) query = .ok store) :
    ComeBack (.decoded coding) store.items := by
  obtain ⟨f, hf⟩ := exists_reread coding
  obtain ⟨pairs, hpairs, hstore⟩ := map_eq_ok_iff.1 hread
  have htwice := forall₂_trans (rawPairs_of_encode h) (mapM_eq_ok_iff.1 hpairs)
  have hmap : ∀ p q p', coding.encodePair p = .ok q → coding.decodePair q = .ok p' →
      Pair.map f p = p' := by
    intro p q p' hq hp'
    obtain ⟨hn, hv⟩ := Coding.encodePair_eq_ok_iff.1 hq
    obtain ⟨hn', hv'⟩ := Coding.decodePair_eq_ok_iff.1 hp'
    rw [Pair.map, hf _ _ _ hn hn', hf _ _ _ hv hv']
  have hpairs' : store.items.map (Pair.map f) = pairs := by
    rw [← List.forall₂_eq_eq_eq, List.forall₂_map_left_iff]
    refine htwice.imp fun p p' hstep => ?_
    obtain ⟨q, hq, hp'⟩ := hstep
    exact hmap p q p' hq hp'
  have hfix : ∀ p ∈ store.items, Pair.map f p = p := by
    rw [← hpairs', hwf.ofPairs_map_items_eq_iff] at hstore
    rintro ⟨name, value⟩ hp
    obtain ⟨hname, hvalue⟩ := hstore _ hp
    rw [Pair.map, hname, hvalue]
  intro p hp
  obtain ⟨p', q, hq, hp'⟩ := exists_forall₂_iff.1 ⟨pairs, htwice⟩ p hp
  rw [Coding.readsPairBack_iff hq, hp', ← hmap p q p' hq hp', hfix p hp]

theorem wellFormed_of_read {reading : Reading} {query : Text} {store : Store}
    (h : read reading query = .ok store) : store.WellFormed := by
  obtain ⟨pairs, _, rfl⟩ := map_eq_ok_iff.1 h
  exact Store.wellFormed_ofPairs pairs

theorem parse_result (reading : Reading) (query : Option Text) :
    (parse reading query).result = read reading (query.getD []) := by
  unfold parse
  cases read reading (query.getD []) <;> rfl

/-! ## Grouping -/

/-- In a charset that is known, pairs are written if and only if it has every character of them,
and the query that is written reads as the pairs grouped by name. -/
theorem parse_encode_eq_grouping (coding : Coding) (cs : Charset)
    (hcs : Charset.ofName? coding.charset = some cs) (pairs : List Pair) :
    ((∃ query, encode coding pairs = .ok query) ↔
      ∀ p ∈ pairs, (∀ c ∈ p.name, cs.has c) ∧ ∀ c ∈ p.value, cs.has c) ∧
    ∀ query, encode coding pairs = .ok query →
      (parse (.decoded coding) (some query)).result = .ok (Store.grouping pairs) := by
  constructor
  · simp only [exists_encode_ok_iff, Coding.exists_encode_ok_iff hcs]
  · intro query h
    have hread := read_of_encode_of_ofName? hcs h
    rw [Store.ofPairs_eq_grouping] at hread
    rw [parse, Option.getD_some, hread]

end Codecs

/-- A repeated name, both separators, a space, and a pair of two empty texts. -/
theorem parse_encode_eq_grouping_latin1 :
    Charset.ofName? "latin-1".toList = some .latin1 ∧
      encode ⟨"latin-1".toList, true⟩
        [⟨['é'], ['a', ' ', '&']⟩, ⟨[], []⟩, ⟨['é'], ['=', '+']⟩] =
          .ok "%E9=a+%26&=&%E9=%3D%2B".toList ∧
      (parse (.decoded ⟨"latin-1".toList, true⟩) (some "%E9=a+%26&=&%E9=%3D%2B".toList)).result =
        .ok ⟨[(['é'], [['a', ' ', '&'], ['=', '+']]), ([], [[]])]⟩ := by
  have henc : encode ⟨"latin-1".toList, true⟩
      [⟨['é'], ['a', ' ', '&']⟩, ⟨[], []⟩, ⟨['é'], ['=', '+']⟩] =
        .ok "%E9=a+%26&=&%E9=%3D%2B".toList := by decide +kernel
  exact ⟨by decide, henc,
    (parse_encode_eq_grouping ⟨"latin-1".toList, true⟩ .latin1 (by decide) _).2 _ henc⟩

end QueryString.Query
