import QueryString.Proofs.Request.Parameters
import QueryString.Proofs.Store.Renaming

/-!
# The two readings of a query

Reading a query as it stands never fails, and what is read decoded can be told from it. The decoded
reading fails if and only if a name or a value in the raw store cannot be decoded. Otherwise there
is one function that decodes them all (`exists_map_of_read`), and the decoded store is the store of
the pairs under that function. So the values of a name are woven from the values of all raw names
that stand for it, and if no two raw names stand for the same one, the decoded store is the raw
store decoded in its place (`decoded_of_raw`).
-/

namespace QueryString

/-- Each name and each value of the first store decodes to what stands in its place in the second
one. -/
def Store.DecodesTo [Codecs] (coding : Coding) (s t : Store) : Prop :=
  List.Forall₂ (fun old new => coding.decode old.1 = .ok new.1 ∧
    List.Forall₂ (fun v w => coding.decode v = .ok w) old.2 new.2) s.entries t.entries

/-- The function decodes the text. -/
def Coding.DecodesBy [Codecs] (coding : Coding) (f : Text → Text) (raw : Text) : Prop :=
  coding.decode raw = .ok (f raw)

/-- The function decodes every name and every value of the store. -/
def Store.DecodesBy [Codecs] (coding : Coding) (f : Text → Text) (s : Store) : Prop :=
  ∀ name ∈ s.names, coding.DecodesBy f name ∧ ∀ value ∈ s.values name, coding.DecodesBy f value

namespace Query

variable {coding : Coding} {f : Text → Text}

/-! ## One function for all texts -/

theorem exists_decodesBy [Codecs] (coding : Coding) :
    ∃ f : Text → Text, ∀ raw t, coding.decode raw = .ok t → f raw = t := by
  refine ⟨fun raw => (coding.decode raw).toOption.getD [], fun raw t h => ?_⟩
  show (coding.decode raw).toOption.getD [] = t
  rw [h]
  rfl

/-- A query all of whose pairs are decoded by a function gives the store of what the function makes
of them. -/
theorem read_of_decodesBy [Codecs] {query : Text}
    (h : ∀ p ∈ rawPairs query, coding.DecodesBy f p.name ∧ coding.DecodesBy f p.value) :
    read (.decoded coding) query = .ok (Store.ofPairs ((rawPairs query).map (Pair.map f))) := by
  have hpairs : pairs (.decoded coding) query = .ok ((rawPairs query).map (Pair.map f)) := by
    rw [pairs_eq_ok_iff, List.forall₂_map_right_iff, List.forall₂_same]
    exact h
  rw [read, hpairs]
  rfl

/-- What a query gives decoded comes of its pairs by one function. -/
theorem exists_map_of_read [Codecs] {query : Text} {store : Store}
    (h : read (.decoded coding) query = .ok store) :
    ∃ f : Text → Text,
      (∀ p ∈ rawPairs query, coding.DecodesBy f p.name ∧ coding.DecodesBy f p.value) ∧
        store = Store.ofPairs ((rawPairs query).map (Pair.map f)) := by
  obtain ⟨f, hf⟩ := exists_decodesBy coding
  obtain ⟨ps, hps, rfl⟩ := map_eq_ok_iff.1 h
  rw [pairs_eq_ok_iff] at hps
  have hall : ∀ p ∈ rawPairs query, ∃ q, Reading.Reads (.decoded coding) p q :=
    exists_forall₂_iff.1 ⟨ps, hps⟩
  have hby : ∀ p ∈ rawPairs query, coding.DecodesBy f p.name ∧ coding.DecodesBy f p.value := by
    intro p hp
    obtain ⟨q, hname, hvalue⟩ := hall p hp
    rw [Coding.DecodesBy, Coding.DecodesBy, hf _ _ hname, hf _ _ hvalue]
    exact ⟨hname, hvalue⟩
  refine ⟨f, hby, ?_⟩
  rw [read_of_decodesBy hby] at h
  exact (Except.ok.inj h).symm

/-! ## From the raw store -/

/-- A query cannot be decoded if and only if some text of the raw store cannot. -/
theorem exists_error_iff [Codecs] {query : Text} :
    (∃ e, read (.decoded coding) query = .error e) ↔
      ∃ name ∈ (Store.ofPairs (rawPairs query)).names, ¬ coding.Decodes name ∨
        ∃ value ∈ (Store.ofPairs (rawPairs query)).values name, ¬ coding.Decodes value := by
  have hok : (∃ store, read (.decoded coding) query = .ok store) ↔
      ∀ name ∈ (Store.ofPairs (rawPairs query)).names, coding.Decodes name ∧
        ∀ value ∈ (Store.ofPairs (rawPairs query)).values name, coding.Decodes value := by
    rw [← Store.forall_mem_ofPairs_iff, read, exists_map_eq_ok_iff, pairs, exists_mapM_ok_iff]
    simp only [Coding.exists_decodePair_iff]
  have hnot : (∃ e, read (.decoded coding) query = .error e) ↔
      ¬ ∃ store, read (.decoded coding) query = .ok store := by
    cases read (.decoded coding) query <;> simp
  rw [hnot, hok]
  simp only [not_forall, not_and_or, exists_prop]

/-- The values of a name are woven from those of the raw names that are decoded to it. -/
theorem exists_interleaving [Codecs] {raw : List Pair}
    (h : (Store.ofPairs raw).DecodesBy coding f) (name : Text) :
    ∃ parts,
      List.Forall₂ (fun old part =>
          List.Forall₂ (fun v w => coding.decode v = .ok w) ((Store.ofPairs raw).values old) part)
        ((Store.ofPairs raw).names.filter (coding.decode · = .ok name)) parts ∧
      Interleaving parts ((Store.ofPairs (raw.map (Pair.map f))).values name) := by
  refine ⟨_, ?_, Store.interleaving_values_ofPairs_map f raw name⟩
  have hnames : (Store.ofPairs raw).names.filter (coding.decode · = .ok name) =
      (Store.ofPairs raw).names.filter (f · = name) := by
    refine List.filter_congr fun old ho => ?_
    rw [(h old ho).1]
    simp
  rw [hnames, List.forall₂_map_right_iff, List.forall₂_same]
  intro old ho
  rw [List.forall₂_map_right_iff, List.forall₂_same]
  exact (h old (List.mem_filter.1 ho).1).2

/-- A store that is read in its place by the function that decodes its texts is decoded in its
place. -/
theorem decodesTo_map [Codecs] {raw : Store} (hwf : raw.WellFormed) (h : raw.DecodesBy coding f) :
    raw.DecodesTo coding (raw.map f) := by
  rw [Store.DecodesTo, Store.map, List.forall₂_map_right_iff, List.forall₂_same]
  intro entry he
  have hname : entry.1 ∈ raw.names := List.mem_map_of_mem he
  have hvalues : raw.values entry.1 = entry.2 := by
    rw [Store.values, Store.lookup_of_mem hwf.nodup he]
    rfl
  obtain ⟨hby, hall⟩ := h entry.1 hname
  refine ⟨hby, ?_⟩
  rw [hvalues] at hall
  rw [List.forall₂_map_right_iff, List.forall₂_same]
  exact hall

/-- Written as it stands, the raw store gives the decoded store as well, provided that different
names are decoded differently: the pairs of a name are put together, and nothing else is moved. -/
theorem read_ofRawPairs_items [Codecs] {query : Text}
    (hby : ∀ p ∈ rawPairs query, coding.DecodesBy f p.name ∧ coding.DecodesBy f p.value)
    (hinj : ∀ p ∈ rawPairs query, ∀ q ∈ rawPairs query, f p.name = f q.name → p.name = q.name) :
    read (.decoded coding) (ofRawPairs (Store.ofPairs (rawPairs query)).items) =
      .ok (Store.ofPairs ((rawPairs query).map (Pair.map f))) := by
  have hmem : ∀ p ∈ (Store.ofPairs (rawPairs query)).items, p ∈ rawPairs query :=
    fun p hp => Store.mem_items_ofPairs.1 hp
  have hitems : rawPairs (ofRawPairs (Store.ofPairs (rawPairs query)).items) =
      (Store.ofPairs (rawPairs query)).items :=
    rawPairs_ofRawPairs fun p hp => undivided_of_mem_rawPairs (hmem p hp)
  have hread : read (.decoded coding) (ofRawPairs (Store.ofPairs (rawPairs query)).items) =
      .ok (Store.ofPairs ((rawPairs (ofRawPairs (Store.ofPairs (rawPairs query)).items)).map
        (Pair.map f))) := by
    refine read_of_decodesBy ?_
    rw [hitems]
    exact fun p hp => hby p (hmem p hp)
  rw [hread, hitems, Store.ofPairs_map hinj,
    Store.ofPairs_map fun p hp q hq => hinj p (hmem p hp) q (hmem q hq),
    (Store.wellFormed_ofPairs _).ofPairs_items]

/-- A query is always read as it stands, and what it gives decoded follows from what it gives raw.
It cannot be decoded if and only if a raw name or a raw value cannot be. Otherwise the values of
each name are woven, in their order, from the decoded values of the raw names that are decoded to
it; and if no two raw names are decoded alike, every text is decoded in its place, and the raw store
can as well be written as a query and then decoded. -/
theorem decoded_of_raw [Codecs] (coding : Coding) (query : Option Text) :
    ∃ raw, (parse .raw query).result = .ok raw ∧
      ((∃ e, (parse (.decoded coding) query).result = .error e) ↔
        ∃ name ∈ raw.names, ¬ coding.Decodes name ∨
          ∃ value ∈ raw.values name, ¬ coding.Decodes value) ∧
      ∀ store, (parse (.decoded coding) query).result = .ok store →
        (∀ name, ∃ parts,
          List.Forall₂ (fun old part =>
              List.Forall₂ (fun v w => coding.decode v = .ok w) (raw.values old) part)
            (raw.names.filter (coding.decode · = .ok name)) parts ∧
          Interleaving parts (store.values name)) ∧
        ((∀ a ∈ raw.names, ∀ b ∈ raw.names, ∀ t,
            coding.decode a = .ok t → coding.decode b = .ok t → a = b) →
          raw.DecodesTo coding store ∧
          ∀ path, ∃ r, Request.ofTarget .raw ⟨path, query⟩ = .ok r ∧ ∀ settings overrides,
            ∃ text, r.toQueryString settings overrides = .ok text ∧
              (parse (.decoded coding) (some text)).result = .ok store) := by
  refine ⟨Store.ofPairs (rawPairs (query.getD [])), parse_result _ _, ?_, fun store hstore => ?_⟩
  · rw [parse_result]
    exact exists_error_iff
  rw [parse_result] at hstore
  obtain ⟨f, hby, rfl⟩ := exists_map_of_read hstore
  have htexts : (Store.ofPairs (rawPairs (query.getD []))).DecodesBy coding f :=
    Store.forall_mem_ofPairs_iff.1 hby
  refine ⟨exists_interleaving htexts, fun hdistinct => ?_⟩
  have hinj : ∀ p ∈ rawPairs (query.getD []), ∀ q ∈ rawPairs (query.getD []),
      f p.name = f q.name → p.name = q.name := by
    intro p hp q hq hpq
    have hname := (hby p hp).1
    rw [Coding.DecodesBy, hpq] at hname
    exact hdistinct _ (Store.mem_names_ofPairs.2 ⟨p, hp, rfl⟩) _
      (Store.mem_names_ofPairs.2 ⟨q, hq, rfl⟩) _ hname (hby q hq).1
  constructor
  · rw [Store.ofPairs_map hinj]
    exact decodesTo_map (Store.wellFormed_ofPairs _) htexts
  · intro path
    refine ⟨_, Request.ofTarget_eq_ok_iff.2 ⟨_, read_raw _, rfl⟩, fun settings overrides => ?_⟩
    refine ⟨_, rfl, ?_⟩
    rw [parse_result]
    exact read_ofRawPairs_items hby hinj

/-- Two raw names that are one name decoded: its values are woven from those of both. -/
theorem decoded_of_raw_utf8 :
    ∃ parts, List.Forall₂ (fun old part => List.Forall₂
        (fun v w => (⟨"utf-8".toList, true⟩ : Coding).decode v = .ok w)
        ((⟨[(['a'], [['1'], ['3']]), ("%61".toList, [['+']])]⟩ : Store).values old) part)
      [['a'], "%61".toList] parts ∧ Interleaving parts [['1'], [' '], ['3']] := by
  obtain ⟨raw, hraw, -, hdecoded⟩ :=
    decoded_of_raw ⟨"utf-8".toList, true⟩ (some "a=1&%61=+&a=3".toList)
  have hparse : (parse .raw (some "a=1&%61=+&a=3".toList)).result =
      .ok ⟨[(['a'], [['1'], ['3']]), ("%61".toList, [['+']])]⟩ := by decide
  rw [hparse] at hraw
  obtain rfl := Except.ok.inj hraw
  exact (hdecoded ⟨[(['a'], [['1'], [' '], ['3']])]⟩ (by decide +kernel)).1 ['a']

end Query

end QueryString
