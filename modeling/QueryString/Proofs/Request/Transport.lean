import QueryString.Proofs.Query.Form
import QueryString.Proofs.Request.Sources

/-!
# Queries that are sent

A query that was encoded is sent in a URI or as octets. In a URI it ends at the number sign, and
tabs and line breaks are left out; octets of a query have to be ASCII. The form of the query has
none but such characters (`HasForm.isQuery`, `HasForm.isAscii`), so it arrives as it is, and the
request has the pairs that it was encoded from (`encode_arrives`).
-/

namespace QueryString

namespace Query.HasForm

variable [Codecs] {coding : Coding} {pairs : List Pair} {query : Text}

theorem isQuery (h : HasForm coding pairs query) : Uri.IsQuery query := by
  have hnone : ∀ d ∈ ['#', '\t', '\r', '\n'], ¬ (Uri.isLetter d ∨ Decimal.isDigit d ∨
      d ∈ ['_', '.', '-', '~', '%', '+', '&', '=']) := Text.forall_mem_of_all rfl
  exact fun c hc hd => hnone c hd (h.spelled c hc)

theorem isAscii (h : HasForm coding pairs query) : ∀ c ∈ query, Text.isAscii c := by
  have hmarks : ∀ d ∈ ['_', '.', '-', '~', '%', '+', '&', '='], Text.isAscii d :=
    Text.forall_mem_of_all rfl
  intro c hc
  rcases h.spelled c hc with hl | hd | hm
  · rw [Uri.isLetter_iff] at hl
    simp only [Text.isAscii, decide_eq_true_eq]
    omega
  · rw [Decimal.isDigit_iff] at hd
    simp only [Text.isAscii, decide_eq_true_eq]
    omega
  · exact hmarks c hm

end Query.HasForm

namespace Request

theorem isPath_slash : Uri.IsPath ['/'] :=
  ⟨⟨[], rfl, by decide⟩, Text.forall_mem_of_all rfl⟩

section Codecs

variable [Codecs] {coding : Coding} {cs : Charset} {pairs : List Pair} {query : Text}

theorem ofTarget_of_encode (hcs : Charset.ofName? coding.charset = some cs)
    (h : Query.encode coding pairs = .ok query) (path : Text) :
    ofTarget (.decoded coding) ⟨path, some query⟩ =
      .ok ⟨Percent.repair path, query, Store.grouping pairs, .decoded coding⟩ := by
  have hread := Query.read_of_encode_of_ofName? hcs h
  rw [Store.ofPairs_eq_grouping] at hread
  exact ofTarget_eq_ok_iff.2 ⟨_, hread, rfl⟩

theorem ofUri_of_encode (hcs : Charset.ofName? coding.charset = some cs)
    (h : Query.encode coding pairs = .ok query) (hq : Uri.IsQuery query) (fragment : Text) :
    ofUri (.decoded coding) ("/?".toList ++ query ++ '#' :: fragment) =
      .ok ⟨['/'], query, Store.grouping pairs, .decoded coding⟩ := by
  have htarget := Target.ofUri_relative isPath_slash hq fragment
  have hslash : Percent.repair ['/'] = ['/'] := by decide
  refine bind_eq_ok_iff.2 ⟨_, htarget, ?_⟩
  rw [ofTarget_of_encode hcs h, hslash]

theorem ofScope_of_encode (hcs : Charset.ofName? coding.charset = some cs)
    (h : Query.encode coding pairs = .ok query) (hascii : ∀ c ∈ query, Text.isAscii c)
    {scope : Scope} (hscope : scope.query = some (Utf8.encode query)) :
    ofScope (.decoded coding) scope =
      .ok ⟨Percent.repair scope.escapedPath, query, Store.grouping pairs, .decoded coding⟩ := by
  have hoctets : scope.queryOctets = Utf8.encode query := by
    rw [Scope.queryOctets, hscope]
    rfl
  have hquery : scope.queryText = .ok query := by
    rw [Scope.queryText_eq_ok_iff, hoctets]
    exact ⟨Utf8.toNat_lt_of_mem_encode hascii, Text.map_ofByte_encode hascii⟩
  exact ofScope_eq_ok_iff.2 ⟨query, hquery, ofTarget_of_encode hcs h _⟩

end Codecs

/-- In a charset that is known and has all characters of the pairs, they are written as a query that
has their form. Behind a slash, with any fragment after it, and as the octets of a scope it arrives
as it is, and the request has the pairs grouped by name. -/
theorem encode_arrives [Codecs] (coding : Coding) (cs : Charset)
    (hcs : Charset.ofName? coding.charset = some cs) (pairs : List Pair)
    (hpairs : ∀ p ∈ pairs, (∀ c ∈ p.name, cs.has c) ∧ ∀ c ∈ p.value, cs.has c) :
    ∃ query, Query.encode coding pairs = .ok query ∧ Query.HasForm coding pairs query ∧
      (∀ fragment, ofUri (.decoded coding) ("/?".toList ++ query ++ '#' :: fragment) =
        .ok ⟨['/'], query, Store.grouping pairs, .decoded coding⟩) ∧
      ∀ scope : Scope, scope.query = some (Utf8.encode query) →
        ofScope (.decoded coding) scope =
          .ok ⟨Percent.repair scope.escapedPath, query, Store.grouping pairs, .decoded coding⟩ := by
  obtain ⟨query, hquery⟩ : ∃ query, Query.encode coding pairs = .ok query := by
    simp only [Query.exists_encode_ok_iff, Coding.exists_encode_ok_iff hcs]
    exact hpairs
  have hform := Query.hasForm_of_encode hcs hquery
  exact ⟨query, hquery, hform, ofUri_of_encode hcs hquery hform.isQuery,
    fun _ => ofScope_of_encode hcs hquery hform.isAscii⟩

/-- A space, a character beyond ASCII, both separators and a plus sign. In the URI, the fragment has
a line break, and in the scope there is no path. -/
theorem encode_arrives_latin1 :
    Charset.ofName? "latin-1".toList = some .latin1 ∧
      Query.HasForm ⟨"latin-1".toList, true⟩ [⟨['é'], "a &".toList⟩, ⟨[], "=+".toList⟩]
        "%E9=a+%26&=%3D%2B".toList ∧
      ofUri (.decoded ⟨"latin-1".toList, true⟩) "/?%E9=a+%26&=%3D%2B#?\n&".toList =
        .ok ⟨['/'], "%E9=a+%26&=%3D%2B".toList,
          ⟨[(['é'], ["a &".toList]), ([], ["=+".toList])]⟩,
          .decoded ⟨"latin-1".toList, true⟩⟩ ∧
      ofScope (.decoded ⟨"latin-1".toList, true⟩)
          ⟨none, none, some (Utf8.encode "%E9=a+%26&=%3D%2B".toList)⟩ =
        .ok ⟨['/'], "%E9=a+%26&=%3D%2B".toList,
          ⟨[(['é'], ["a &".toList]), ([], ["=+".toList])]⟩,
          .decoded ⟨"latin-1".toList, true⟩⟩ := by
  have hpairs : ∀ p ∈ [⟨['é'], "a &".toList⟩, (⟨[], "=+".toList⟩ : Pair)],
      (∀ c ∈ p.name, Charset.latin1.has c) ∧ ∀ c ∈ p.value, Charset.latin1.has c :=
    List.forall_mem_cons.2 ⟨⟨Text.forall_mem_of_all rfl, Text.forall_mem_of_all rfl⟩,
      List.forall_mem_singleton.2 ⟨Text.forall_mem_of_all rfl, Text.forall_mem_of_all rfl⟩⟩
  obtain ⟨query, hquery, hform, huri, hscope⟩ :=
    encode_arrives ⟨"latin-1".toList, true⟩ .latin1 (by decide) _ hpairs
  obtain rfl : "%E9=a+%26&=%3D%2B".toList = query := by
    refine Except.ok.inj (Eq.trans ?_ hquery)
    decide +kernel
  exact ⟨by decide, hform, huri "?\n&".toList, hscope _ rfl⟩

end Request

end QueryString
