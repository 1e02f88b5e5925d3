import QueryString.Proofs.Query.Rewritable
import QueryString.Proofs.Request.Built

/-!
# Requests written and built again

A request is written for a reading: its own, unless the caller overrides an option of it
(`WrittenFor`). The query that it is written as reads to its parameters under that reading, provided
that the octets of each name and each value restore it (`Built.toQueryString_reads_back`). In the
four charsets, and wherever else the codec is transparent, they always do. In UTF-16 they need not
(`written_but_read_otherwise`), since a form without an escape is taken for ASCII when it is read.

A raw request can always be written. A decoded one can be if and only if its query is rewritable
(`recreated_iff_rewritable`): a character beyond the charset and a charset that is not known pass
unnoticed when the query is read, and stand in the way when it is written.
-/

namespace QueryString

/-- The option that an override leaves in force: one's own if nothing is said, that of the settings
if the option is left to them, and otherwise what is given. -/
inductive Override.Means {α : Type} (own default : α) : Override α → α → Prop where
  | own : Means own default .own own
  | default : Means own default .default default
  | given (a : α) : Means own default (.given a) a

theorem Override.Means.resolve_eq {α : Type} {own default a : α} {override : Override α}
    (h : override.Means own default a) : override.resolve own default = a := by
  cases h <;> rfl

theorem Override.means_resolve {α : Type} (override : Override α) (own default : α) :
    override.Means own default (override.resolve own default) := by
  cases override with
  | own => exact .own
  | default => exact .default
  | given a => exact .given a

namespace Reading

variable [Codecs]

/-- Each name and each value of the store is restored by its octets. Where nothing is decoded,
nothing is needed. -/
def Restores (reading : Reading) (store : Store) : Prop :=
  ∀ coding, reading = .decoded coding →
    ∀ p ∈ store.items, coding.Restores p.name ∧ coding.Restores p.value

/-- The codec of the reading, if there is one, is transparent. -/
def Transparent (reading : Reading) : Prop :=
  ∀ coding, reading = .decoded coding → (Codecs.find coding.charset).Transparent

theorem Transparent.restores {reading : Reading} (h : reading.Transparent) (store : Store) :
    reading.Restores store :=
  fun coding hc p _ => ⟨(h coding hc).restores p.name, (h coding hc).restores p.value⟩

/-- Each of the four charsets has a transparent codec. -/
theorem transparent_of_ofName? {coding : Coding} {cs : Charset}
    (hcs : Charset.ofName? coding.charset = some cs) : (decoded coding).Transparent := by
  rintro _ ⟨⟩
  exact Codecs.transparent_of_ofName? hcs

/-- No text is harmed where there is no codec. -/
theorem transparent_of_unknown {coding : Coding}
    (hno : Codecs.find coding.charset = .unknown coding.charset) :
    (decoded coding).Transparent := by
  rintro _ ⟨⟩
  rw [hno]
  exact Codec.transparent_unknown coding.charset

/-- A store that was read comes back from what it is written as if and only if its texts are
restored. -/
theorem comeBack_iff_restores {reading : Reading} {store : Store}
    (hraw : reading = .raw → ∃ query, Query.read .raw query = .ok store) :
    Query.ComeBack reading store.items ↔ reading.Restores store := by
  cases reading with
  | raw =>
    obtain ⟨query, hread⟩ := hraw rfl
    exact iff_of_true (Query.comeBack_raw_items hread) nofun
  | decoded coding =>
    simp only [Query.ComeBack, Restores, Reading.decoded.injEq, forall_eq',
      Coding.readsPairBack_iff_restores]

end Reading

namespace Request

/-! ## The reading for which a request is written -/

/-- The reading for which a request is written. Where it was not decoded, no option matters; where
it was, each option is the request's own, that of the settings or a given one, as the override has
it. -/
inductive WrittenFor (r : Request) (settings : Settings) (overrides : Overrides) :
    Reading → Prop where
  | raw (h : r.reading = .raw) : WrittenFor r settings overrides .raw
  | decoded {own coding : Coding} (h : r.reading = .decoded own)
    (hcharset : overrides.charset.Means own.charset settings.charset coding.charset)
    (hplus : overrides.plusAsSpace.Means own.plusAsSpace settings.plusAsSpace coding.plusAsSpace) :
    WrittenFor r settings overrides (.decoded coding)

/-- There is one such reading, whatever the overrides are. -/
theorem existsUnique_writtenFor (r : Request) (settings : Settings) (overrides : Overrides) :
    ∃! reading, r.WrittenFor settings overrides reading := by
  cases hr : r.reading with
  | raw =>
    refine ⟨.raw, .raw hr, fun reading hw => ?_⟩
    cases hw with
    | raw _ => rfl
    | decoded hd _ _ => cases hr.symm.trans hd
  | decoded own =>
    have hw : r.WrittenFor settings overrides (.decoded (overrides.resolve own settings)) :=
      .decoded hr (Override.means_resolve _ _ _) (Override.means_resolve _ _ _)
    refine ⟨_, hw, fun reading hw => ?_⟩
    cases hw with
    | raw hraw => cases hr.symm.trans hraw
    | decoded hd hcharset hplus =>
      obtain rfl := Reading.decoded.inj (hr.symm.trans hd)
      rw [Overrides.resolve, hcharset.resolve_eq, hplus.resolve_eq]

/-- Without overrides it is the request's own. -/
theorem writtenFor_own (r : Request) (settings : Settings) :
    r.WrittenFor settings {} r.reading := by
  cases hr : r.reading with
  | raw => exact .raw hr
  | decoded own => exact .decoded hr .own .own

section Codecs

variable [Codecs]

theorem WrittenFor.toQueryString_eq {r : Request} {settings : Settings} {overrides : Overrides}
    {reading : Reading} (hw : r.WrittenFor settings overrides reading) :
    r.toQueryString settings overrides = Query.write reading r.parameters.items := by
  cases hw with
  | raw hr =>
    rw [toQueryString, hr]
    rfl
  | @decoded own coding hr hcharset hplus =>
    have hcoding : overrides.resolve own settings = coding := by
      rw [Overrides.resolve, hcharset.resolve_eq, hplus.resolve_eq]
    rw [toQueryString, hr]
    simp only [hcoding]
    rfl

/-! ## The query, read again -/

/-- The query that a request is written as reads to its parameters if and only if these are
restored by their octets. -/
theorem Built.read_iff_restores {r : Request} (h : r.Built) {settings : Settings}
    {overrides : Overrides} {reading : Reading} (hw : r.WrittenFor settings overrides reading)
    {query : Text} (hq : r.toQueryString settings overrides = .ok query) :
    Query.read reading query = .ok r.parameters ↔ reading.Restores r.parameters := by
  rw [hw.toQueryString_eq] at hq
  have hraw : reading = .raw → ∃ query, Query.read .raw query = .ok r.parameters := by
    rintro rfl
    cases hw with
    | raw hr => exact ⟨r.queryString, hr ▸ h.read_queryString⟩
  rw [← Reading.comeBack_iff_restores hraw]
  constructor
  · intro hread
    cases reading with
    | raw => exact Query.comeBack_raw_items (hraw rfl).choose_spec
    | decoded coding => exact Query.comeBack_of_read_items h.wellFormed hq hread
  · intro hback
    rw [Query.read_of_write hback hq, h.wellFormed.ofPairs_items]

/-- A request is written as a query that reads to the same store under the same options if and only
if the octets of its texts restore them. Then a request that is built from the query is written as
that query again. A transparent codec restores every text, and without decoding, where none has a
part, writing never fails either. -/
theorem Built.toQueryString_reads_back {r : Request} (h : r.Built) (settings : Settings)
    (overrides : Overrides) {reading : Reading} (hw : r.WrittenFor settings overrides reading) :
    (∀ query, r.toQueryString settings overrides = .ok query →
      ((Query.parse reading (some query)).result = .ok r.parameters ↔
        reading.Restores r.parameters) ∧
      (reading.Restores r.parameters → ∀ path, ∃ r',
        ofTarget reading ⟨path, some query⟩ = .ok r' ∧
          ∀ settings', r'.toQueryString settings' {} = .ok query)) ∧
    (reading.Transparent → reading.Restores r.parameters) ∧
    (r.reading = .raw →
      reading.Transparent ∧ ∃ query, r.toQueryString settings overrides = .ok query) := by
  refine ⟨fun query hq => ⟨?_, fun hrestores path => ?_⟩, fun ht => ht.restores _, fun hraw => ?_⟩
  · rw [Query.parse_result]
    exact h.read_iff_restores hw hq
  · have hread := (h.read_iff_restores hw hq).2 hrestores
    refine ⟨_, ofTarget_eq_ok_iff.2 ⟨r.parameters, hread, rfl⟩, fun settings' => ?_⟩
    rw [(writtenFor_own _ settings').toQueryString_eq, ← hq, hw.toQueryString_eq]
  · cases hw with
    | raw _ => exact ⟨nofun, _, WrittenFor.toQueryString_eq (.raw hraw)⟩
    | decoded hr _ _ => cases hraw.symm.trans hr

end Codecs

/-- A request that was read in UTF-8 and is written in Latin-1, with plus signs as the settings have
them. -/
theorem Built.toQueryString_reads_back_latin1 :
    (⟨['/'], "a=%C3%A9&a=+".toList, ⟨[(['a'], [['é'], [' ']])]⟩, .decoded ⟨"utf-8".toList, true⟩⟩ :
      Request).Built ∧
    toQueryString ⟨['/'], "a=%C3%A9&a=+".toList, ⟨[(['a'], [['é'], [' ']])]⟩,
        .decoded ⟨"utf-8".toList, true⟩⟩
      ⟨"ascii".toList, false, 400⟩ ⟨.given "latin-1".toList, .default⟩ =
        .ok "a=%E9&a=%20".toList ∧
    (Query.parse (.decoded ⟨"latin-1".toList, false⟩) (some "a=%E9&a=%20".toList)).result =
      .ok ⟨[(['a'], [['é'], [' ']])]⟩ := by
  have hbuilt : (⟨['/'], "a=%C3%A9&a=+".toList, ⟨[(['a'], [['é'], [' ']])]⟩,
      .decoded ⟨"utf-8".toList, true⟩⟩ : Request).Built :=
    .direct {} {} ['/'] (some "a=%C3%A9&a=+".toList) (by decide +kernel)
  have hwritten : toQueryString ⟨['/'], "a=%C3%A9&a=+".toList, ⟨[(['a'], [['é'], [' ']])]⟩,
      .decoded ⟨"utf-8".toList, true⟩⟩ ⟨"ascii".toList, false, 400⟩
      ⟨.given "latin-1".toList, .default⟩ = .ok "a=%E9&a=%20".toList := by decide +kernel
  have hfor : WrittenFor ⟨['/'], "a=%C3%A9&a=+".toList, ⟨[(['a'], [['é'], [' ']])]⟩,
      .decoded ⟨"utf-8".toList, true⟩⟩ ⟨"ascii".toList, false, 400⟩
      ⟨.given "latin-1".toList, .default⟩ (.decoded ⟨"latin-1".toList, false⟩) :=
    .decoded rfl (.given _) .default
  have hcs : Charset.ofName? "latin-1".toList = some .latin1 := by decide
  have hback := hbuilt.toQueryString_reads_back _ _ hfor
  exact ⟨hbuilt, hwritten,
    (hback.1 _ hwritten).1.2 (hback.2.1 (Reading.transparent_of_ofName? hcs))⟩

/-- In UTF-16 an ideograph is two octets that are letters of ASCII. It is written as these letters
and read as them, although UTF-16 reads every text that it writes. -/
theorem written_but_read_otherwise :
    (∃ r, ofTarget (Options.reading ⟨true, ⟨some "utf-16-be".toList, none⟩⟩ {})
        ⟨['/'], some ['n', '=', '慡']⟩ = .ok r ∧
      r.parameters = ⟨[(['n'], [['慡']])]⟩ ∧
      r.toQueryString {} {} = .ok "%00n=aa".toList ∧
      (Query.parse r.reading (some "%00n=aa".toList)).result = .ok ⟨[(['n'], [['a', 'a']])]⟩) ∧
    Utf16.decode (Utf16.encode ['慡']) = .ok ['慡'] :=
  ⟨⟨⟨['/'], ['n', '=', '慡'], ⟨[(['n'], [['慡']])]⟩, .decoded ⟨"utf-16-be".toList, true⟩⟩,
      by decide +kernel, rfl, by decide +kernel, by decide +kernel⟩,
    Utf16.decode_encode ['慡']⟩

/-! ## The request built again -/

section Codecs

variable [Codecs]

/-- A request can be written if and only if its query is rewritable. -/
theorem exists_toQueryString_iff_rewritable {r : Request}
    (hread : Query.read r.reading r.queryString = .ok r.parameters) (settings : Settings) :
    (∃ query, r.toQueryString settings {} = .ok query) ↔
      Query.Rewritable r.reading r.queryString := by
  rw [(r.writtenFor_own settings).toQueryString_eq]
  cases hr : r.reading with
  | raw => exact iff_of_true ⟨_, rfl⟩ trivial
  | decoded coding =>
    rw [hr] at hread
    obtain ⟨pairs, hpairs, hstore⟩ := map_eq_ok_iff.1 hread
    rw [Query.write, Query.exists_encode_ok_iff, ← Query.written_iff_rewritable hpairs, ← hstore]
    simp only [Store.mem_items_ofPairs, Query.Written]

/-- The request that is built from the query of another one is the same, with its parameters in the
same order, if and only if the octets of the texts restore them. -/
theorem Built.recreated_iff_restores {r : Request} (h : r.Built) {settings : Settings} {path : Text}
    (hpath : r.path = Percent.repair path) {text : Text}
    (ht : r.toQueryString settings {} = .ok text) :
    (∃ r', ofTarget r.reading ⟨path, some text⟩ = .ok r' ∧
      r'.parameters = r.parameters ∧ r'.same r) ↔ r.reading.Restores r.parameters := by
  rw [← h.read_iff_restores (r.writtenFor_own settings) ht]
  constructor
  · rintro ⟨r', hr', hparameters, _⟩
    obtain ⟨store, hread, rfl⟩ := ofTarget_eq_ok_iff.1 hr'
    obtain rfl := hparameters
    exact hread
  · intro hread
    refine ⟨_, ofTarget_eq_ok_iff.2 ⟨r.parameters, hread, rfl⟩, rfl, ?_⟩
    simp only [same, hpath, beq_self_eq_true, Bool.true_and]
    exact h.wellFormed.same_self

/-- A request from a path and a query can be written if and only if its query is rewritable, which
without a codec is to say that it has no text. From what is written the same path and options build
the same request, if and only if the octets of the texts restore them, and a transparent codec sees
to that. -/
theorem recreated_iff_rewritable (options : Options) (settings : Settings) (path : Text)
    (query : Option Text) (r : Request)
    (h : ofTarget (options.reading settings) ⟨path, query⟩ = .ok r) (settings' : Settings) :
    ((∃ text, r.toQueryString settings' {} = .ok text) ↔
      Query.Rewritable (options.reading settings) (query.getD [])) ∧
    (∀ coding, options.reading settings = .decoded coding →
      Codecs.find coding.charset = .unknown coding.charset →
        (options.reading settings).Transparent ∧
        (Query.Rewritable (options.reading settings) (query.getD []) ↔
          ∀ segment ∈ Query.segments (query.getD []), segment = ['='])) ∧
    (∀ text, r.toQueryString settings' {} = .ok text →
      ((∃ r', ofTarget (options.reading settings) ⟨path, some text⟩ = .ok r' ∧
          r'.parameters = r.parameters ∧ r'.same r) ↔
        (options.reading settings).Restores r.parameters)) ∧
    ((options.reading settings).Transparent →
      (options.reading settings).Restores r.parameters) := by
  have hbuilt : r.Built := .direct options settings path query h
  obtain ⟨store, hread, rfl⟩ := ofTarget_eq_ok_iff.1 h
  refine ⟨exists_toQueryString_iff_rewritable hread settings', fun coding hcoding hno => ?_,
    fun text => hbuilt.recreated_iff_restores rfl, fun ht => ht.restores store⟩
  rw [hcoding] at hread ⊢
  obtain ⟨pairs, hpairs, _⟩ := map_eq_ok_iff.1 hread
  rw [← Query.written_iff_rewritable hpairs]
  exact ⟨Reading.transparent_of_unknown hno, Query.written_iff_forall_eq_separator hno hpairs⟩

end Codecs

/-- In Latin-1 a character beyond ASCII is written as its escape, and the request is the same. -/
theorem recreated_iff_rewritable_latin1 :
    ofTarget (Options.reading ⟨true, ⟨some "latin-1".toList, none⟩⟩ {})
      ⟨['/'], some ['a', '=', 'é']⟩ = .ok ⟨['/'], ['a', '=', 'é'], ⟨[(['a'], [['é']])]⟩,
        .decoded ⟨"latin-1".toList, true⟩⟩ ∧
    ∃ r', ofTarget (Options.reading ⟨true, ⟨some "latin-1".toList, none⟩⟩ {})
        ⟨['/'], some "a=%E9".toList⟩ = .ok r' ∧ r'.parameters = ⟨[(['a'], [['é']])]⟩ ∧
      r'.same ⟨['/'], ['a', '=', 'é'], ⟨[(['a'], [['é']])]⟩,
        .decoded ⟨"latin-1".toList, true⟩⟩ := by
  have hr : ofTarget (Options.reading ⟨true, ⟨some "latin-1".toList, none⟩⟩ {})
      ⟨['/'], some ['a', '=', 'é']⟩ = .ok ⟨['/'], ['a', '=', 'é'], ⟨[(['a'], [['é']])]⟩,
        .decoded ⟨"latin-1".toList, true⟩⟩ := by
    decide +kernel
  have hcs : Charset.ofName? "latin-1".toList = some .latin1 := by decide
  have hsame := (recreated_iff_rewritable _ _ _ _ _ hr {}).2.2
  exact ⟨hr,
    (hsame.1 _ (by decide +kernel)).2 (hsame.2 (Reading.transparent_of_ofName? hcs))⟩

/-- In ASCII the same query is read as well, but the request cannot be written; and a charset that
is not known is no obstacle to reading a query without escapes, but one to writing it. -/
theorem read_but_not_written :
    (∃ r, ofTarget (Options.reading ⟨true, ⟨some "ascii".toList, none⟩⟩ {})
        ⟨['/'], some ['a', '=', 'é']⟩ = .ok r ∧
      r.toQueryString {} {} = .error (.unencodable ⟨.ascii, 0, 'é', 0⟩)) ∧
    ∃ r, ofTarget (Options.reading ⟨true, ⟨some "none".toList, none⟩⟩ {})
        ⟨['/'], some ['a', '=', 'b']⟩ = .ok r ∧
      r.toQueryString {} {} = .error (.codec (.unknown "none".toList)) :=
  ⟨⟨⟨['/'], ['a', '=', 'é'], ⟨[(['a'], [['é']])]⟩, .decoded ⟨"ascii".toList, true⟩⟩,
      by decide +kernel, by decide +kernel⟩,
    ⟨['/'], ['a', '=', 'b'], ⟨[(['a'], [['b']])]⟩, .decoded ⟨"none".toList, true⟩⟩,
      by decide +kernel, by decide +kernel⟩

end Request

end QueryString
