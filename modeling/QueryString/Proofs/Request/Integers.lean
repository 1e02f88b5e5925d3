import QueryString.Proofs.Request.Built
import QueryString.Proofs.Value.Integer
import QueryString.Request.Access

/-!
# Parameters read as integers

A value that writes no integer is no failure: it counts as no value. A value that writes one with
too many digits is a failure, for the first value as for all of them, and there is no other
(`integers_fail_iff`). Such values come from outside: any long enough run of digits makes one
(`exists_request_of_digits`).
-/

namespace QueryString.Request

open Integer (AreDigits WithinLimit Writes digitLimit)

theorem integerOr_eq_error_iff {r : Request} {name : Text} {default : Int} {e : Error} :
    r.integerOr name default = .error e ↔ ∃ v ds n, r.text? name = some v ∧ Writes v ds n ∧
      digitLimit < ds.length ∧ e = .tooLong ⟨ds.length⟩ := by
  unfold integerOr
  cases r.text? name with
  | none => simp
  | some v =>
    simp only [mapError_eq_error_iff, map_eq_error_iff, Integer.read_eq_error_iff,
      Option.some.injEq]
    constructor
    · rintro ⟨f, ⟨ds, n, hw, hlt, rfl⟩, rfl⟩
      exact ⟨v, ds, n, rfl, hw, hlt, rfl⟩
    · rintro ⟨_, ds, n, rfl, hw, hlt, rfl⟩
      exact ⟨_, ⟨ds, n, hw, hlt, rfl⟩, rfl⟩

theorem exists_integerOr_ok_iff {r : Request} {name : Text} {default : Int} :
    (∃ n, r.integerOr name default = .ok n) ↔ ∀ v, r.text? name = some v → WithinLimit v := by
  unfold integerOr
  cases r.text? name with
  | none => simp
  | some v =>
    simp only [mapError_eq_ok_iff, Option.some.injEq, forall_eq']
    rw [exists_map_eq_ok_iff, Integer.exists_read_ok_iff]

theorem integers_eq_error_iff {r : Request} {name : Text} {e : Error} :
    r.integers name = .error e ↔ ∃ before v after ds n, r.texts name = before ++ v :: after ∧
      (∀ u ∈ before, WithinLimit u) ∧ Writes v ds n ∧ digitLimit < ds.length ∧
        e = .tooLong ⟨ds.length⟩ := by
  rw [integers, mapError_eq_error_iff]
  simp only [map_eq_error_iff, mapM_eq_error_iff, Integer.read_eq_error_iff,
    Integer.exists_read_ok_iff]
  constructor
  · rintro ⟨f, ⟨before, v, after, hs, hbefore, ds, n, hw, hlt, rfl⟩, rfl⟩
    exact ⟨before, v, after, ds, n, hs, hbefore, hw, hlt, rfl⟩
  · rintro ⟨before, v, after, ds, n, hs, hbefore, hw, hlt, rfl⟩
    exact ⟨_, ⟨before, v, after, hs, hbefore, ds, n, hw, hlt, rfl⟩, rfl⟩

theorem exists_integers_ok_iff {r : Request} {name : Text} :
    (∃ ns, r.integers name = .ok ns) ↔ ∀ v ∈ r.texts name, WithinLimit v := by
  simp only [integers, mapError_eq_ok_iff]
  rw [exists_map_eq_ok_iff, exists_mapM_ok_iff]
  simp only [Integer.exists_read_ok_iff]

/-- The first value, or all values, of a parameter are read as integers if and only if none of them
is an integer of too many digits. The failure is that of the first one that is. -/
theorem integers_fail_iff (r : Request) (name : Text) :
    (∀ default, (∃ n, r.integerOr name default = .ok n) ↔
      ∀ v, r.text? name = some v → WithinLimit v) ∧
    (∀ default e, r.integerOr name default = .error e ↔
      ∃ v ds n, r.text? name = some v ∧ Writes v ds n ∧ digitLimit < ds.length ∧
        e = .tooLong ⟨ds.length⟩) ∧
    ((∃ ns, r.integers name = .ok ns) ↔ ∀ v ∈ r.texts name, WithinLimit v) ∧
    ∀ e, r.integers name = .error e ↔
      ∃ before v after ds n, r.texts name = before ++ v :: after ∧
        (∀ u ∈ before, WithinLimit u) ∧ Writes v ds n ∧ digitLimit < ds.length ∧
          e = .tooLong ⟨ds.length⟩ :=
  ⟨fun _ => exists_integerOr_ok_iff, fun _ _ => integerOr_eq_error_iff, exists_integers_ok_iff,
    fun _ => integers_eq_error_iff⟩

/-! ## Numbers that are not read -/

theorem not_mem_of_areDigits {ds : Text} (h : AreDigits ds) {c : Char}
    (hc : Decimal.isDigit c = false) : c ∉ ds := by
  intro hmem
  rw [h.2 c hmem] at hc
  cases hc

/-- Digits reach the request as they stand, under every reading and however many they are. -/
theorem exists_request_of_digits [Codecs] (reading : Reading) (path : Text) {ds : Text}
    (h : AreDigits ds) : ∃ r, ofTarget reading ⟨path, some ("n=".toList ++ ds)⟩ = .ok r ∧
      r.texts ['n'] = [ds] := by
  have hund : Pair.Undivided ⟨['n'], ds⟩ :=
    { equals_not_mem_name := show '=' ∉ ['n'] by decide
      ampersand_not_mem_name := show '&' ∉ ['n'] by decide
      ampersand_not_mem_value := not_mem_of_areDigits h (by decide) }
  have hraw : Query.rawPairs ("n=".toList ++ ds) = [⟨['n'], ds⟩] :=
    Query.rawPairs_ofRawPairs (List.forall_mem_singleton.2 hund)
  have hpairs : Query.pairs reading ("n=".toList ++ ds) = .ok [⟨['n'], ds⟩] := by
    cases reading with
    | raw => rw [Query.pairs, hraw]
    | decoded coding =>
      have hvalue : coding.decode ds = .ok ds := coding.decode_of_not_mem
        (not_mem_of_areDigits h (by decide)) (not_mem_of_areDigits h (by decide))
      have hname : coding.decode ['n'] = .ok ['n'] :=
        coding.decode_of_not_mem (by decide) (by decide)
      rw [Query.pairs, hraw, mapM_eq_ok_iff]
      exact .cons (Coding.decodePair_eq_ok_iff.2 ⟨hname, hvalue⟩) .nil
  have hread : Query.read reading ("n=".toList ++ ds) = .ok (Store.ofPairs [⟨['n'], ds⟩]) := by
    rw [Query.read, hpairs]
    rfl
  exact ⟨_, ofTarget_eq_ok_iff.2 ⟨_, hread, rfl⟩, rfl⟩

/-- There is a query whose only value is not read as an integer, with a default or without one. -/
theorem integers_of_long_value :
    ∃ r, ofTarget (Options.reading {} {}) ⟨['/'], some ("n=".toList ++ List.replicate 4301 '1')⟩ =
        .ok r ∧
      r.integerOr ['n'] 7 = .error (.tooLong ⟨4301⟩) ∧
      r.integers ['n'] = .error (.tooLong ⟨4301⟩) := by
  have hds : AreDigits (List.replicate 4301 '1') := by
    refine ⟨List.cons_ne_nil _ _, fun c hc => ?_⟩
    rw [List.eq_of_mem_replicate hc]
    rfl
  have hlt : digitLimit < (List.replicate 4301 '1').length := by
    rw [List.length_replicate]
    decide
  obtain ⟨r, hr, htexts⟩ := exists_request_of_digits (Options.reading {} {}) ['/'] hds
  have hfirst : r.text? ['n'] = some (List.replicate 4301 '1') := by
    rw [text?, htexts]
    rfl
  refine ⟨r, hr, ?_, ?_⟩
  · refine integerOr_eq_error_iff.2 ⟨_, _, _, hfirst, .unsigned hds, hlt, ?_⟩
    rw [List.length_replicate]
  · refine integers_eq_error_iff.2 ⟨[], _, [], _, _, htexts, ?_, .unsigned hds, hlt, ?_⟩
    · exact fun u hu => absurd hu List.not_mem_nil
    · rw [List.length_replicate]

end QueryString.Request
