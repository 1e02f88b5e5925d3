import QueryString.Proofs.Query.Segments

/-!
# What the error of a query points at

A query is refused at its first pair that cannot be decoded, and such a pair in its name or else in
its value (`FailsIn`). The error has the pair as it stands, and the position of the first bad escape
in the part that failed; it has no position if only the octets of the part are at fault
(`error_blames_first_fault`).

The token of the error is the part that failed as it stands only where the part has a bad escape or
no plus sign that means a space. Otherwise the plus signs were replaced before the octets were found
to be no text, and the token is what came of that (`token_eq_iff_shownRaw`).
-/

namespace QueryString

namespace Coding

/-! ## One token -/

theorem fault_of_unescape [Codecs] {coding : Coding} {token : Text} {e : DecodeError}
    (h : coding.unescape token = .error (.malformed e)) :
    ∃ fault, e = .component (.badOctets token coding.charset fault) := by
  unfold unescape at h
  split at h
  · split at h
    · cases h
    · next fault _ =>
      cases h
      exact ⟨fault, rfl⟩
    · cases h
  · cases h

/-- A token is refused at its first bad escape or else, after its plus signs were replaced, for its
octets. -/
theorem fault_of_decode [Codecs] {coding : Coding} {raw : Text} {e : DecodeError}
    (h : coding.decode raw = .error (.malformed e)) :
    (∃ i, Percent.badEscape? raw = some i ∧ e = .component (.badEscape raw i)) ∨
      Percent.badEscape? raw = none ∧
        ∃ fault, e = .component (.badOctets (coding.unplus raw) coding.charset fault) := by
  unfold decode at h
  split at h
  · next i hi =>
    cases h
    exact Or.inl ⟨i, hi, rfl⟩
  · next hnone => exact Or.inr ⟨hnone, fault_of_unescape h⟩

theorem position_of_decode [Codecs] {coding : Coding} {raw : Text} {e : DecodeError}
    (h : coding.decode raw = .error (.malformed e)) : e.position? = Percent.badEscape? raw := by
  rcases fault_of_decode h with ⟨i, hi, rfl⟩ | ⟨hnone, fault, rfl⟩
  · rw [hi]
    rfl
  · rw [hnone]
    rfl

/-- The error of the token shows it as it stands: it has a bad escape, or no plus sign that means a
space. -/
def ShownRaw (coding : Coding) (raw : Text) : Prop :=
  (∃ i, Percent.BadEscapeAt raw i) ∨ ¬ (coding.plusAsSpace ∧ '+' ∈ raw)

theorem unplus_eq_self_iff {coding : Coding} {raw : Text} :
    coding.unplus raw = raw ↔ ¬ (coding.plusAsSpace ∧ '+' ∈ raw) := by
  rw [unplus]
  split
  · next hp =>
    constructor
    · rintro h ⟨_, hmem⟩
      -- No plus sign is left, so one that was there is not there any more.
      rw [← h, Text.replace, List.mem_map] at hmem
      obtain ⟨c, _, hc⟩ := hmem
      split at hc
      · exact absurd hc (by decide)
      · next hne => exact hne hc
    · intro h
      exact Text.replace_of_not_mem (fun hmem => h ⟨hp, hmem⟩) ' '
  · next hp => exact iff_of_true rfl fun h => hp h.1

/-- The bad escapes come first and the plus signs after them, so only octets that are no text can be
reported with spaces in the place of plus signs. -/
theorem token_of_decode [Codecs] {coding : Coding} {raw : Text} {e : DecodeError}
    (h : coding.decode raw = .error (.malformed e)) :
    (e.token = raw ↔ coding.ShownRaw raw) ∧
      (¬ coding.ShownRaw raw → e.token = Text.replace '+' ' ' raw) := by
  rcases fault_of_decode h with ⟨i, hi, rfl⟩ | ⟨hnone, fault, rfl⟩
  · have hshown : coding.ShownRaw raw := Or.inl ⟨i, (Percent.badEscape?_eq_some_iff.1 hi).1⟩
    exact ⟨iff_of_true rfl hshown, fun hno => absurd hshown hno⟩
  · have hno : ¬ ∃ i, Percent.BadEscapeAt raw i := by
      rintro ⟨i, hi⟩
      exact Percent.badEscape?_eq_none_iff.1 hnone i hi
    have hshown : coding.ShownRaw raw ↔ ¬ (coding.plusAsSpace ∧ '+' ∈ raw) := or_iff_right hno
    rw [hshown, not_not]
    refine ⟨unplus_eq_self_iff, fun hp => ?_⟩
    exact if_pos hp.1

/-- An error has a position if and only if the token has a bad escape. It is that of the first one,
and it counts in the token as it stands. -/
theorem points_of_decode [Codecs] {coding : Coding} {raw : Text} {e : DecodeError}
    (h : coding.decode raw = .error (.malformed e)) :
    (e.position? = none ↔ ∀ i, ¬ Percent.BadEscapeAt raw i) ∧
      ∀ i, (e.position? = some i ↔ IsLeast {j | Percent.BadEscapeAt raw j} i) ∧
        (e.position? = some i → e.token = raw) := by
  rw [position_of_decode h]
  refine ⟨Percent.badEscape?_eq_none_iff, fun i => ⟨Percent.badEscape?_eq_some_iff, fun hi => ?_⟩⟩
  exact (token_of_decode h).1.2 (Or.inl ⟨i, (Percent.badEscape?_eq_some_iff.1 hi).1⟩)

/-! ## One pair -/

/-- The part in which the pair cannot be decoded: its name or, if that can be, its value. -/
inductive FailsIn [Codecs] (coding : Coding) (p : Pair) : Text → Prop where
  | name (h : ¬ coding.Decodes p.name) : FailsIn coding p p.name
  | value (hname : coding.Decodes p.name) (h : ¬ coding.Decodes p.value) : FailsIn coding p p.value

theorem not_decodes_of_error [Codecs] {coding : Coding} {raw : Text} {e : Error}
    (h : coding.decode raw = .error e) : ¬ coding.Decodes raw := by
  rintro ⟨t, ht⟩
  rw [h] at ht
  cases ht

/-- A fault of a part becomes a fault of the pair. -/
theorem exists_component_of_inPair [Codecs] {coding : Coding} {p : Pair} {raw : Text} {e' : Error}
    {e : DecodeError} (h : coding.decode raw = .error e') (he : .malformed e = inPair p e') :
    ∃ fault, e' = .malformed (.component fault) ∧ e = .parameter p.name p.value fault := by
  cases e' with
  | malformed d =>
    rcases fault_of_decode h with ⟨i, _, rfl⟩ | ⟨_, fault, rfl⟩
    · exact ⟨_, rfl, Error.malformed.inj he⟩
    · exact ⟨_, rfl, Error.malformed.inj he⟩
  | unencodable | codec | badUri | tooLong | unimplemented => cases he

theorem decodePair_eq_malformed_iff [Codecs] {coding : Coding} {p : Pair} {e : DecodeError} :
    coding.decodePair p = .error (.malformed e) ↔
      ∃ part fault, FailsIn coding p part ∧
        coding.decode part = .error (.malformed (.component fault)) ∧
          e = .parameter p.name p.value fault := by
  rw [decodePair_eq_error_iff]
  constructor
  · rintro (⟨e', hname, he⟩ | ⟨hname, e', hvalue, he⟩)
    · obtain ⟨fault, rfl, rfl⟩ := exists_component_of_inPair hname he
      exact ⟨_, fault, .name (not_decodes_of_error hname), hname, rfl⟩
    · obtain ⟨fault, rfl, rfl⟩ := exists_component_of_inPair hvalue he
      exact ⟨_, fault, .value hname (not_decodes_of_error hvalue), hvalue, rfl⟩
  · rintro ⟨part, fault, hfails, hpart, rfl⟩
    cases hfails with
    | name _ => exact Or.inl ⟨_, hpart, rfl⟩
    | value hname _ => exact Or.inr ⟨hname, _, hpart, rfl⟩

/-- In a charset that is known, a pair that cannot be decoded is malformed. -/
theorem exists_malformed_of_decodePair [Codecs] {coding : Coding} {cs : Charset}
    (hcs : Charset.ofName? coding.charset = some cs) {p : Pair} {e : Error}
    (h : coding.decodePair p = .error e) : ∃ e', e = .malformed e' := by
  have hfault : ∀ {raw : Text} {e' : Error}, coding.decode raw = .error e' →
      ∃ fault, e' = .malformed (.component fault) := by
    intro raw e' he'
    rcases decode_ok_or_fault hcs raw with ⟨t, ht⟩ | ⟨fault, hf, _⟩
    · rw [he'] at ht
      cases ht
    · exact ⟨fault, Except.error.inj (he'.symm.trans hf)⟩
  rcases decodePair_eq_error_iff.1 h with ⟨e', hname, rfl⟩ | ⟨_, e', hvalue, rfl⟩
  · obtain ⟨fault, rfl⟩ := hfault hname
    exact ⟨_, rfl⟩
  · obtain ⟨fault, rfl⟩ := hfault hvalue
    exact ⟨_, rfl⟩

end Coding

/-! ## The whole query -/

namespace Query

open Coding (FailsIn)

/-- A query is malformed as its first pair that cannot be decoded. -/
theorem HasPairs.parse_eq_malformed_iff [Codecs] {query : Option Text} {raw : List Pair}
    (h : HasPairs (query.getD []) raw) {coding : Coding} {e : DecodeError} :
    (parse (.decoded coding) query).result = .error (.malformed e) ↔
      ∃ before p after part fault, raw = before ++ p :: after ∧
        (∀ q ∈ before, coding.Decodes q.name ∧ coding.Decodes q.value) ∧
        FailsIn coding p part ∧ coding.decode part = .error (.malformed (.component fault)) ∧
          e = .parameter p.name p.value fault := by
  rw [parse_result, read, h.pairs_eq_mapM, map_eq_error_iff, mapM_eq_error_iff]
  simp only [Coding.exists_decodePair_iff, Coding.decodePair_eq_malformed_iff]
  constructor
  · rintro ⟨before, p, after, hraw, hbefore, part, fault, hpart⟩
    exact ⟨before, p, after, part, fault, hraw, hbefore, hpart⟩
  · rintro ⟨before, p, after, part, fault, hraw, hbefore, hpart⟩
    exact ⟨before, p, after, hraw, hbefore, part, fault, hpart⟩

/-- In a charset that is known, a query is malformed if and only if some pair of it cannot be
decoded. -/
theorem HasPairs.exists_malformed_iff [Codecs] {query : Option Text} {raw : List Pair}
    (h : HasPairs (query.getD []) raw) {coding : Coding} {cs : Charset}
    (hcs : Charset.ofName? coding.charset = some cs) :
    (∃ e, (parse (.decoded coding) query).result = .error (.malformed e)) ↔
      ∃ p ∈ raw, ¬ (coding.Decodes p.name ∧ coding.Decodes p.value) := by
  simp only [← Coding.exists_decodePair_iff]
  rw [parse_result, read, h.pairs_eq_mapM]
  constructor
  · rintro ⟨e, he⟩
    obtain ⟨before, p, after, rfl, _, hp⟩ := mapM_eq_error_iff.1 (map_eq_error_iff.1 he)
    refine ⟨p, by simp, ?_⟩
    rintro ⟨q, hq⟩
    rw [hp] at hq
    cases hq
  · rintro ⟨p, hmem, hp⟩
    cases hr : raw.mapM coding.decodePair with
    | ok qs => exact absurd (exists_mapM_ok_iff.1 ⟨qs, hr⟩ p hmem) hp
    | error e =>
      obtain ⟨_, p', _, _, _, hp'⟩ := mapM_eq_error_iff.1 hr
      obtain ⟨e', rfl⟩ := Coding.exists_malformed_of_decodePair hcs hp'
      exact ⟨e', rfl⟩

/-- A query is malformed if and only if some pair of it cannot be decoded. The error names the first
such pair as it stands and is about its name or, where the name can be decoded, about its value. It
has the position of the first bad escape in this part and shows the part; without a position, no
escape in it is bad. -/
theorem error_blames_first_fault [Codecs] (coding : Coding) (cs : Charset)
    (hcs : Charset.ofName? coding.charset = some cs) (query : Option Text) (raw : List Pair)
    (h : HasPairs (query.getD []) raw) :
    ((∃ e, (parse (.decoded coding) query).result = .error (.malformed e)) ↔
      ∃ p ∈ raw, ¬ (coding.Decodes p.name ∧ coding.Decodes p.value)) ∧
    ∀ e, (parse (.decoded coding) query).result = .error (.malformed e) →
      ∃ before p after part, raw = before ++ p :: after ∧
        (∀ q ∈ before, coding.Decodes q.name ∧ coding.Decodes q.value) ∧
        FailsIn coding p part ∧ e.name? = some p.name ∧ e.value? = some p.value ∧
        (e.position? = none ↔ ∀ i, ¬ Percent.BadEscapeAt part i) ∧
        ∀ i, (e.position? = some i ↔ IsLeast {j | Percent.BadEscapeAt part j} i) ∧
          (e.position? = some i → e.token = part) := by
  refine ⟨h.exists_malformed_iff hcs, fun e he => ?_⟩
  obtain ⟨before, p, after, part, fault, hraw, hbefore, hfails, hpart, rfl⟩ :=
    h.parse_eq_malformed_iff.1 he
  have hpoints := Coding.points_of_decode hpart
  exact ⟨before, p, after, part, hraw, hbefore, hfails, rfl, rfl, hpoints⟩

/-- A bad escape in the name hides the bad octets of the value, and the pair hides the next one. -/
theorem error_blames_first_fault_utf8 :
    (parse (.decoded ⟨"utf-8".toList, true⟩) (some "a=1&+%ZZ=%FF&%=".toList)).result =
        .error (.malformed (.parameter "+%ZZ".toList "%FF".toList (.badEscape "+%ZZ".toList 1))) ∧
      FailsIn ⟨"utf-8".toList, true⟩ ⟨"+%ZZ".toList, "%FF".toList⟩ "+%ZZ".toList ∧
      IsLeast {j | Percent.BadEscapeAt "+%ZZ".toList j} 1 := by
  have hparse : (parse (.decoded ⟨"utf-8".toList, true⟩) (some "a=1&+%ZZ=%FF&%=".toList)).result =
      .error (.malformed (.parameter "+%ZZ".toList "%FF".toList (.badEscape "+%ZZ".toList 1))) := by
    decide
  have hpairs : HasPairs "a=1&+%ZZ=%FF&%=".toList
      [⟨['a'], ['1']⟩, ⟨"+%ZZ".toList, "%FF".toList⟩, ⟨['%'], []⟩] := hasPairs_iff.2 (by decide)
  obtain ⟨_, ⟨name, value⟩, _, part, _, _, hfails, hname, hvalue, _, hpoints⟩ :=
    (error_blames_first_fault ⟨"utf-8".toList, true⟩ .utf8 (by decide) (some _) _ hpairs).2 _ hparse
  obtain rfl := Option.some.inj hname
  obtain rfl := Option.some.inj hvalue
  obtain rfl := (hpoints 1).2 rfl
  exact ⟨hparse, hfails, (hpoints 1).1.1 rfl⟩

/-- An error shows the token that it is about as it stands if and only if the token has a bad escape
or no plus sign that means a space; otherwise it shows the token with spaces for the plus signs. The
error of a query shows in this way the part in which its first bad pair fails. So it is the name or
the value of the pair that is shown, unless plus signs were replaced in it. -/
theorem token_eq_iff_shownRaw [Codecs] (coding : Coding) :
    (∀ raw e, coding.decode raw = .error (.malformed e) →
      (e.token = raw ↔ coding.ShownRaw raw) ∧
        (¬ coding.ShownRaw raw → e.token = Text.replace '+' ' ' raw)) ∧
    ∀ query e, (parse (.decoded coding) query).result = .error (.malformed e) →
      ∃ p part, e.name? = some p.name ∧ e.value? = some p.value ∧ FailsIn coding p part ∧
        (e.token = part ↔ coding.ShownRaw part) ∧
        (¬ coding.ShownRaw part → e.token = Text.replace '+' ' ' part) ∧
        (coding.ShownRaw part → e.name? = some e.token ∨ e.value? = some e.token) := by
  refine ⟨fun raw e h => Coding.token_of_decode h, fun query e h => ?_⟩
  obtain ⟨_, p, _, part, fault, _, _, hfails, hpart, rfl⟩ :=
    (hasPairs_rawPairs (query.getD [])).parse_eq_malformed_iff.1 h
  obtain ⟨htoken, hplus⟩ := Coding.token_of_decode hpart
  refine ⟨p, part, rfl, rfl, hfails, htoken, hplus, fun hshown => ?_⟩
  have hpart : fault.token = part := htoken.2 hshown
  cases hfails with
  | name _ => exact Or.inl (congrArg some hpart.symm)
  | value _ _ => exact Or.inr (congrArg some hpart.symm)

/-- Octets that are no text, after a plus sign: neither the error of the token nor that of a query
shows the plus sign. -/
theorem token_without_plus :
    (∃ e, (⟨"utf-8".toList, true⟩ : Coding).decode "+%FF".toList = .error (.malformed e) ∧
      e.token ≠ "+%FF".toList) ∧
    ∃ e, (parse (.decoded ⟨"utf-8".toList, true⟩) (some "a=+%FF".toList)).result =
        .error (.malformed e) ∧
      e.name? ≠ some e.token ∧ e.value? ≠ some e.token := by
  constructor
  · exact ⟨.component (.badOctets " %FF".toList "utf-8".toList .invalidStart), by decide, by decide⟩
  · exact ⟨.parameter ['a'] "+%FF".toList (.badOctets " %FF".toList "utf-8".toList .invalidStart),
      by decide, by decide, by decide⟩

end Query

end QueryString
