import QueryString.Proofs.Query.RoundTrip

/-!
# Which queries can be written again

Reading takes every character that is no escape as it stands, and looks a codec up only for escapes.
Writing puts every character through the codec. So a query can be read and still not be written
again: it may hold a character that the charset does not have, or there may be no codec at all
(`written_iff_forall_eq_separator`). `Rewritable` is the exact condition (`written_iff_rewritable`).

In a charset that is known escapes are never in the way, since what is read from octets of a charset
the charset has. The argument goes down to the units of the grammar (`SpellsChar.has_iff`) and up
again through names and values, pairs and segments to the text of the query.
-/

namespace QueryString

/-! ## Names and values -/

namespace Coding

/-- Escapes are written in ASCII. -/
theorem isAscii_of_isEscapeOf {b : UInt8} {u : Text} (h : IsEscapeOf b u) :
    ∀ c ∈ u, Text.isAscii c := by
  obtain ⟨high, low, rfl, hb⟩ := h
  obtain ⟨hh, hl⟩ := Hex.isDigit_of_byte? hb
  intro c hc
  simp only [List.mem_cons, List.not_mem_nil, or_false] at hc
  rcases hc with rfl | rfl | rfl
  · rfl
  · exact Hex.isAscii_of_isDigit hh
  · exact Hex.isAscii_of_isDigit hl

/-- A charset has a character if and only if it has the characters of its unit. -/
theorem SpellsChar.has_iff {plusAsSpace : Bool} {cs : Charset} {u : Text} {c : Char}
    (h : SpellsChar plusAsSpace cs u c) : cs.has c ↔ ∀ d ∈ u, cs.has d := by
  cases h with
  | literal _ _ => simp
  | plus _ =>
    simp only [List.mem_singleton, forall_eq]
    exact iff_of_true (cs.has_of_isAscii rfl) (cs.has_of_isAscii rfl)
  | escapes hc hu =>
    refine iff_of_true (by rw [Charset.has, hc]; rfl) fun d hd => ?_
    obtain ⟨unit, hunit, hd⟩ := List.mem_flatten.1 hd
    obtain ⟨b, _, hb⟩ := exists_mem_of_forall₂ hu hunit
    exact cs.has_of_isAscii (isAscii_of_isEscapeOf hb d hd)

/-- A charset has the characters of a text if and only if it has those of the token. -/
theorem Spells.has_iff {plusAsSpace : Bool} {cs : Charset} {raw t : Text}
    (h : Spells plusAsSpace cs raw t) : (∀ c ∈ t, cs.has c) ↔ ∀ c ∈ raw, cs.has c := by
  induction h with
  | nil => exact Iff.rfl
  | cons hu _ ih => rw [List.forall_mem_cons, List.forall_mem_append, hu.has_iff, ih]

/-- Where there is no codec, what is read stands as it is. -/
theorem eq_unplus_of_decode [Codecs] {coding : Coding}
    (hno : Codecs.find coding.charset = .unknown coding.charset) {raw t : Text}
    (h : coding.decode raw = .ok t) : t = coding.unplus raw := by
  have hfails : ∀ bs u, (Codecs.find coding.charset).decode bs ≠ .ok u := by
    rw [hno]
    nofun
  unfold decode at h
  split at h
  · cases h
  unfold unescape at h
  split at h
  · next hpercent =>
    split at h
    · next hread => exact absurd hread (Percent.read_ne_ok _ hfails hpercent _)
    · cases h
    · cases h
  · exact (Except.ok.inj h).symm

end Coding

/-! ## Segments and queries -/

namespace Query

/-- What holds of the equals sign holds of a segment if it holds of its name and its value, and
only then. -/
theorem forall_mem_segment {P : Char → Prop} (hsep : P Pair.separator) (segment : Text) :
    (∀ c ∈ segment, P c) ↔ (∀ c ∈ (Pair.ofSegment segment).name, P c) ∧
      ∀ c ∈ (Pair.ofSegment segment).value, P c := by
  constructor
  · intro h
    exact ⟨fun c hc => h c (Text.mem_of_mem_cut_fst hc),
      fun c hc => h c (Text.mem_of_mem_cut_snd hc)⟩
  · rintro ⟨hn, hv⟩
    rcases Text.eq_append_cut_or Pair.separator segment with hs | ⟨hs, _⟩
    · rw [hs, List.forall_mem_append, List.forall_mem_cons]
      exact ⟨hn, hsep, hv⟩
    · rw [hs]
      exact hn

/-- What holds of the separators holds of a query if it holds of its names and its values, and only
then. -/
theorem forall_mem_query {P : Char → Prop} (hamp : P separator) (heq : P Pair.separator)
    (query : Text) :
    (∀ c ∈ query, P c) ↔ ∀ p ∈ rawPairs query, (∀ c ∈ p.name, P c) ∧ ∀ c ∈ p.value, P c := by
  conv_lhs => rw [← Text.join_split separator query]
  rw [Text.forall_mem_join hamp, rawPairs, List.forall_mem_map]
  simp only [← forall_mem_segment heq]
  constructor
  · intro h segment hs
    exact h segment (List.mem_filter.1 hs).1
  · -- A piece that is no segment is empty and holds nothing.
    intro h piece hp c hc
    refine h piece (List.mem_filter.2 ⟨hp, ?_⟩) c hc
    cases piece with
    | nil => exact absurd hc List.not_mem_nil
    | cons _ _ => rfl

/-- A segment of an empty name and an empty value is an equals sign. -/
theorem eq_separator_iff {query segment : Text} (h : segment ∈ segments query) :
    segment = [Pair.separator] ↔
      (Pair.ofSegment segment).name = [] ∧ (Pair.ofSegment segment).value = [] := by
  constructor
  · rintro rfl
    exact ⟨rfl, rfl⟩
  · rintro ⟨hn, hv⟩
    have hne : segment ≠ [] := by simpa using (List.mem_filter.1 h).2
    change (Text.cut Pair.separator segment).1 = [] at hn
    change (Text.cut Pair.separator segment).2 = [] at hv
    rcases Text.eq_append_cut_or Pair.separator segment with hs | ⟨hs, _⟩
    · rw [hs, hn, hv]
      rfl
    · exact absurd (hs.trans hn) hne

/-! ## Writing again -/

section Writing

variable [Codecs] {coding : Coding} {query : Text} {ps : List Pair}

/-- Tells whether a text is written: it is empty, or its codec has octets for it. -/
def Writes (charset t : Text) : Prop := t = [] ∨ ∃ bs, (Codecs.other charset).encode t = .ok bs

/-- Tells what a query must be for its parameters to be written again as they were read. In a
charset that is known, all its characters must be in the charset, escapes aside. For another codec
the texts that were read count, since escapes can stand for anything there. -/
def Rewritable (reading : Reading) (query : Text) : Prop :=
  match reading with
  | .raw => True
  | .decoded coding =>
    match Charset.ofName? coding.charset with
    | some cs => ∀ c ∈ query, cs.has c
    | none => ∀ ps, pairs (.decoded coding) query = .ok ps →
      ∀ p ∈ ps, Writes coding.charset p.name ∧ Writes coding.charset p.value

/-- Tells whether the pairs can be written. -/
def Written (coding : Coding) (ps : List Pair) : Prop :=
  ∀ p ∈ ps, (∃ name, coding.encode p.name = .ok name) ∧ ∃ value, coding.encode p.value = .ok value

/-- The pairs of a query can be written in a charset that is known if and only if the charset has
all characters of the query. -/
theorem written_iff_forall_has {cs : Charset} (hcs : Charset.ofName? coding.charset = some cs)
    (h : pairs (.decoded coding) query = .ok ps) :
    Written coding ps ↔ ∀ c ∈ query, cs.has c := by
  rw [forall_mem_query (P := fun c => cs.has c) (cs.has_of_isAscii rfl) (cs.has_of_isAscii rfl)]
  simp only [Written, Coding.exists_encode_ok_iff hcs]
  refine (forall_mem_iff_of_forall₂ (mapM_eq_ok_iff.1 h) fun p q hpq => ?_).symm
  obtain ⟨hn, hv⟩ := Coding.decodePair_eq_ok_iff.1 hpq
  rw [((Coding.decode_eq_ok_iff hcs).1 hn).has_iff, ((Coding.decode_eq_ok_iff hcs).1 hv).has_iff]

/-- Where there is no codec, the pairs of a query can be written if and only if they are pairs of
empty texts. -/
theorem written_iff_forall_eq_separator
    (hno : Codecs.find coding.charset = .unknown coding.charset)
    (h : pairs (.decoded coding) query = .ok ps) :
    Written coding ps ↔ ∀ segment ∈ segments query, segment = [Pair.separator] := by
  -- Nothing is decoded there, so an empty text was empty in the query as well.
  have hempty : ∀ {raw t : Text}, coding.decode raw = .ok t →
      ((∃ u, coding.encode t = .ok u) ↔ raw = []) := by
    intro raw t ht
    rw [Coding.exists_encode_ok_iff_of_unknown hno, Coding.eq_unplus_of_decode hno ht,
      Coding.unplus_eq_map, List.map_eq_nil_iff]
  have hraw : (∀ p ∈ rawPairs query, p.name = [] ∧ p.value = []) ↔
      ∀ segment ∈ segments query, segment = [Pair.separator] := by
    rw [rawPairs, List.forall_mem_map]
    exact forall₂_congr fun segment hs => (eq_separator_iff hs).symm
  rw [← hraw]
  refine (forall_mem_iff_of_forall₂ (mapM_eq_ok_iff.1 h) fun p q hpq => ?_).symm
  obtain ⟨hn, hv⟩ := Coding.decodePair_eq_ok_iff.1 hpq
  rw [hempty hn, hempty hv]

/-- The pairs of a query can be written again if and only if the query is rewritable. -/
theorem written_iff_rewritable (h : pairs (.decoded coding) query = .ok ps) :
    Written coding ps ↔ Rewritable (.decoded coding) query := by
  cases hcs : Charset.ofName? coding.charset with
  | some cs => simpa only [Rewritable, hcs] using written_iff_forall_has hcs h
  | none =>
    simp only [Rewritable, hcs, h, Except.ok.injEq, forall_eq', Written, Writes,
      Coding.exists_encode_ok_iff_octets, Codecs.find_of_none hcs]

end Writing

end Query

end QueryString
