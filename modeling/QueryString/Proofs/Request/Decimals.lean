import QueryString.Proofs.Query.RoundTrip
import QueryString.Proofs.Request.Built
import QueryString.Proofs.Store.Merge
import QueryString.Proofs.Value.Decimal
import QueryString.Request.Access

/-!
# Integers in the parameters of a request

A request gives the integers that its values are in base ten (`integers_by_places`): the first value
counts where one is asked for, and where all are, the values that are no integers are left out.
Going the other way, integers that are written under one name are all given again
(`integers_of_encode_ofInt`): none of their characters is lost on the way, in any charset.
-/

namespace QueryString.Request

open Integer (Conforms Denotes WithinLimit digitLimit)

/-! ## Reading -/

theorem texts_of_not_isSet {r : Request} {name : Text} (h : r.isSet name = false) :
    r.texts name = [] := by
  refine Store.values_of_not_mem ?_
  rw [← Store.mem_iff_mem_names]
  exact Bool.eq_false_iff.1 h

theorem integerOr_of_texts_nil {r : Request} {name : Text} (h : r.texts name = [])
    (default : Int) : r.integerOr name default = .ok default := by
  unfold integerOr text?
  rw [h]
  rfl

theorem integerOr_of_read {r : Request} {name first : Text} {later : List Text} {o : Option Int}
    (h : r.texts name = first :: later) (hread : Integer.read first = .ok o) (default : Int) :
    r.integerOr name default = .ok (o.getD default) := by
  unfold integerOr text?
  rw [h, List.head?_cons]
  simp only [hread]
  rfl

theorem exists_integers_of_withinLimit {r : Request} {name : Text}
    (h : ∀ v ∈ r.texts name, WithinLimit v) :
    ∃ ns, r.integers name = .ok ns ∧ List.Forall₂ Denotes ((r.texts name).filter Conforms) ns := by
  obtain ⟨ns, hns, hall⟩ := Integer.exists_filterMap_mapM_read h
  exact ⟨ns, mapError_eq_ok_iff.2 hns, hall⟩

/-! ## Writing and reading -/

/-- The pairs that write integers under a name. -/
def integerPairs (name : Text) (ns : List Int) : List Pair :=
  ns.map fun n => ⟨name, Decimal.ofInt n⟩

theorem valuesOf_integerPairs (name : Text) (ns : List Int) :
    Store.valuesOf (integerPairs name ns) name = ns.map Decimal.ofInt := by
  unfold Store.valuesOf integerPairs
  rw [List.filter_eq_self.2 (by simp), List.map_map]
  rfl

/-- Integers can be written under every name that can be written. -/
theorem exists_encode_integerPairs [Codecs] {coding : Coding} {cs : Charset}
    (hcs : Charset.ofName? coding.charset = some cs) {name : Text} (hname : ∀ c ∈ name, cs.has c)
    (ns : List Int) : ∃ query, Query.encode coding (integerPairs name ns) = .ok query := by
  rw [Query.exists_encode_ok_iff]
  intro p hp
  obtain ⟨n, _, rfl⟩ := List.mem_map.1 hp
  rw [Coding.exists_encode_ok_iff hcs, Coding.exists_encode_ok_iff hcs]
  exact ⟨hname, fun c hc => cs.has_of_isAscii (Integer.isAscii_of_mem_ofInt hc)⟩

/-- The base-ten forms of integers are those integers again, and no others. -/
theorem eq_of_denotes_ofInt {ns ms : List Int}
    (h : List.Forall₂ Denotes ((ns.map Decimal.ofInt).filter Conforms) ms) : ms = ns := by
  have hall : ∀ t ∈ ns.map Decimal.ofInt, Conforms t := by
    rw [List.forall_mem_map]
    exact fun n _ => ⟨n, Integer.denotes_ofInt n⟩
  rw [List.filter_eq_self.2 (by simpa using hall), List.forall₂_map_left_iff] at h
  clear hall
  induction h with
  | nil => rfl
  | cons hn _ ih => rw [hn.unique (Integer.denotes_ofInt _), ih]

/-- A request from the query that integers are written as has these integers under the name. -/
theorem integers_of_encode_ofInt [Codecs] {coding : Coding} {cs : Charset}
    (hcs : Charset.ofName? coding.charset = some cs) {name : Text} {ns : List Int} {query : Text}
    (hlimit : ∀ n ∈ ns, n.natAbs < 10 ^ digitLimit)
    (h : Query.encode coding (integerPairs name ns) = .ok query) (path : Text) :
    ∃ r, ofTarget (.decoded coding) ⟨path, some query⟩ = .ok r ∧ r.integers name = .ok ns ∧
      r.texts name = ns.map Decimal.ofInt := by
  refine ⟨_, ofTarget_eq_ok_iff.2 ⟨_, Query.read_of_encode_of_ofName? hcs h, rfl⟩, ?_⟩
  have htexts : texts ⟨Percent.repair path, query, Store.ofPairs (integerPairs name ns),
      .decoded coding⟩ name = ns.map Decimal.ofInt := by
    unfold texts
    rw [Store.values_ofPairs, valuesOf_integerPairs]
  have hwithin : ∀ v ∈ ns.map Decimal.ofInt, WithinLimit v := by
    rw [List.forall_mem_map]
    exact fun n hn => Integer.withinLimit_ofInt (hlimit n hn)
  rw [← htexts] at hwithin
  obtain ⟨ms, hms, hall⟩ := exists_integers_of_withinLimit hwithin
  rw [htexts] at hall
  rw [eq_of_denotes_ofInt hall] at hms
  exact ⟨hms, htexts⟩

/-! ## Both ways -/

/-- Within the limit on digits, a parameter is read as the integer that its first value is in base
ten, whatever comes later, and the default holds if it is not there or its first value is no
integer; all its values are read as the integers that they are, in order, and those that are none
are left out. Integers that are written under a name are read again as they were: all of them, and
the first of them. -/
theorem integers_by_places [Codecs] :
    (∀ (r : Request) (name : Text) (default : Int),
      (r.isSet name = false → r.integerOr name default = .ok default) ∧
      ∀ first later, r.texts name = first :: later → WithinLimit first →
        (¬ Conforms first → r.integerOr name default = .ok default) ∧
        ∀ n, Denotes first n → r.integerOr name default = .ok n) ∧
    (∀ (r : Request) (name : Text), (∀ v ∈ r.texts name, WithinLimit v) →
      ∃ ns, r.integers name = .ok ns ∧
        List.Forall₂ Denotes ((r.texts name).filter Conforms) ns) ∧
    ∀ (coding : Coding) (cs : Charset), Charset.ofName? coding.charset = some cs →
      ∀ name : Text, (∀ c ∈ name, cs.has c) →
        ∀ ns : List Int, (∀ n ∈ ns, n.natAbs < 10 ^ digitLimit) →
          ∃ query, Query.encode coding (integerPairs name ns) = .ok query ∧
            ∀ path, ∃ r, ofTarget (.decoded coding) ⟨path, some query⟩ = .ok r ∧
              r.integers name = .ok ns ∧
              ∀ n later, ns = n :: later → ∀ default, r.integerOr name default = .ok n := by
  refine ⟨?_, ?_, ?_⟩
  · intro r name default
    constructor
    · intro h
      exact integerOr_of_texts_nil (texts_of_not_isSet h) default
    · intro first later htexts hlimit
      constructor
      · intro hno
        exact integerOr_of_read htexts (Integer.read_of_not_conforms hno) default
      · intro n hn
        exact integerOr_of_read htexts (Integer.read_of_denotes hlimit hn) default
  · intro r name h
    exact exists_integers_of_withinLimit h
  · intro coding cs hcs name hname ns hlimit
    obtain ⟨query, hquery⟩ := exists_encode_integerPairs hcs hname ns
    refine ⟨query, hquery, fun path => ?_⟩
    obtain ⟨r, hr, hints, htexts⟩ := integers_of_encode_ofInt hcs hlimit hquery path
    refine ⟨r, hr, hints, ?_⟩
    rintro n later rfl default
    have hread := Integer.read_of_denotes
      (Integer.withinLimit_ofInt (hlimit n List.mem_cons_self)) (Integer.denotes_ofInt n)
    exact integerOr_of_read htexts hread default

/-- A sign and zeros in front, a space that makes a value no integer, and integers that are written
under a name beyond ASCII. -/
theorem integers_by_places_latin1 :
    (∃ r, ofTarget .raw ⟨['/'], some "n=+007&n= 7&n=-3".toList⟩ = .ok r ∧
      r.integerOr ['n'] 5 = .ok 7 ∧ ∃ ns, r.integers ['n'] = .ok ns ∧
        List.Forall₂ Denotes ["+007".toList, "-3".toList] ns) ∧
    ∃ query, Query.encode ⟨"latin-1".toList, true⟩ (integerPairs ['é'] [-7, 12]) = .ok query ∧
      ∀ path, ∃ r, ofTarget (.decoded ⟨"latin-1".toList, true⟩) ⟨path, some query⟩ = .ok r ∧
        r.integers ['é'] = .ok [-7, 12] ∧ ∀ default, r.integerOr ['é'] default = .ok (-7) := by
  obtain ⟨hfirst, hall, hback⟩ := integers_by_places
  constructor
  · have hwithin : ∀ v ∈ ["+007".toList, " 7".toList, "-3".toList], WithinLimit v := by
      intro v hv
      rw [← Integer.exists_read_ok_iff]
      simp only [List.mem_cons, List.not_mem_nil, or_false] at hv
      rcases hv with rfl | rfl | rfl
      · exact ⟨some 7, by decide⟩
      · exact ⟨none, by decide⟩
      · exact ⟨some (-3), by decide⟩
    refine ⟨⟨['/'], "n=+007&n= 7&n=-3".toList,
      ⟨[(['n'], ["+007".toList, " 7".toList, "-3".toList])]⟩, .raw⟩, by decide, ?_, ?_⟩
    · refine ((hfirst _ ['n'] 5).2 _ _ rfl (hwithin _ List.mem_cons_self)).2 7 ?_
      exact Integer.denotes_iff.2 ⟨by decide, by decide⟩
    · exact hall _ ['n'] hwithin
  · have hlimit : ∀ n ∈ [(-7 : Int), 12], n.natAbs < 10 ^ digitLimit := by
      have hpow : 10 ^ 2 ≤ 10 ^ digitLimit := Nat.pow_le_pow_right (by decide) (by decide)
      intro n hn
      simp only [List.mem_cons, List.not_mem_nil, or_false] at hn
      rcases hn with rfl | rfl
      · exact Nat.lt_of_lt_of_le (by decide) hpow
      · exact Nat.lt_of_lt_of_le (by decide) hpow
    obtain ⟨query, hquery, hread⟩ := hback ⟨"latin-1".toList, true⟩ .latin1 (by decide) ['é']
      (Text.forall_mem_of_all rfl) [-7, 12] hlimit
    refine ⟨query, hquery, fun path => ?_⟩
    obtain ⟨r, hr, hints, hhead⟩ := hread path
    exact ⟨r, hr, hints, hhead _ _ rfl⟩

end QueryString.Request
