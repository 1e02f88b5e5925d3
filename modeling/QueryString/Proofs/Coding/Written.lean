import QueryString.Coding
import QueryString.Proofs.Charset.Codec
import QueryString.Proofs.Results

/-!
# What is written

A text is written octet by octet: an octet is kept as its character, escaped, or written as a plus
sign (`mem_writeOctet`). Which texts are written, and as which octets, is a matter of the codec
(`encode_eq_ok_iff_octets`); in a charset it is a matter of the characters
(`encode_eq_ok_iff`), and where there is no codec nothing is written but the empty text
(`exists_encode_ok_iff_of_unknown`).

Whatever the codec, the coded form holds neither an ampersand nor an equals sign
(`separator_not_mem_of_encode`), which is what lets pairs be put together.
-/

namespace QueryString

namespace Percent

theorem isUnreserved_iff {b : UInt8} : isUnreserved b ↔
    (0x41 ≤ b.toNat ∧ b.toNat ≤ 0x5A) ∨ (0x61 ≤ b.toNat ∧ b.toNat ≤ 0x7A) ∨
      (0x30 ≤ b.toNat ∧ b.toNat ≤ 0x39) ∨ b.toNat = 0x5F ∨ b.toNat = 0x2E ∨ b.toNat = 0x2D ∨
      b.toNat = 0x7E := by
  simp [isUnreserved, UInt8.le_iff_toNat_le, ← UInt8.toNat_inj, or_assoc]

/-- The characters that may be kept. -/
theorem ofByte_of_isUnreserved {b : UInt8} (h : isUnreserved b) :
    Uri.isLetter (Text.ofByte b) ∨ Decimal.isDigit (Text.ofByte b) ∨
      Text.ofByte b ∈ ['_', '.', '-', '~'] := by
  have hmark : Text.ofByte b ∈ ['_', '.', '-', '~'] ↔ b.toNat = 0x5F ∨ b.toNat = 0x2E ∨
      b.toNat = 0x2D ∨ b.toNat = 0x7E := by
    simp [← Char.toNat_inj]
  rw [isUnreserved_iff] at h
  rw [Uri.isLetter_iff, Decimal.isDigit_iff, Text.toNat_ofByte, hmark]
  omega

/-- An octet that may be kept has a character that is no mark of the syntax. -/
theorem ofByte_ne_of_isUnreserved {b : UInt8} (h : isUnreserved b) {c : Char}
    (hc : c ∈ ['%', '+', '&', '=']) : Text.ofByte b ≠ c := by
  have hb := isUnreserved_iff.1 h
  rintro rfl
  have hn : b.toNat ∈ ['%', '+', '&', '='].map Char.toNat := by
    rw [← Text.toNat_ofByte b]
    exact List.mem_map_of_mem hc
  simp only [List.map_cons, List.map_nil, List.mem_cons, List.not_mem_nil, or_false,
    show '%'.toNat = 0x25 from rfl, show '+'.toNat = 0x2B from rfl,
    show '&'.toNat = 0x26 from rfl, show '='.toNat = 0x3D from rfl] at hn
  omega

/-- The upper-case digits are among the characters that are kept. -/
theorem exists_isUnreserved_of_upperDigit {n : Nat} (h : n < 16) :
    ∃ b, isUnreserved b ∧ Hex.upperDigit n = Text.ofByte b := by
  have hall : ∀ m ∈ List.range 16, isUnreserved (UInt8.ofNat (Hex.upperDigit m).toNat) ∧
      (Hex.upperDigit m).toNat < 256 := by decide
  obtain ⟨hu, hlt⟩ := hall n (List.mem_range.2 h)
  exact ⟨_, hu, (Text.ofByte_ofNat hlt).symm⟩

end Percent

namespace Coding

/-! ## The form of one octet -/

/-- What octets are written as: characters that may be kept, escapes, and plus signs. -/
theorem mem_writeOctet {coding : Coding} {b : UInt8} {c : Char} (h : c ∈ coding.writeOctet b) :
    c = '%' ∨ (coding.plusAsSpace ∧ c = '+') ∨
      ∃ b', Percent.isUnreserved b' ∧ c = Text.ofByte b' := by
  unfold writeOctet at h
  split at h
  · next hp => exact Or.inr (Or.inl ⟨hp.1, List.mem_singleton.1 h⟩)
  · unfold Percent.escapeUnless at h
    split at h
    · next hu => exact Or.inr (Or.inr ⟨b, hu, List.mem_singleton.1 h⟩)
    · have hb := b.toNat_lt
      simp only [Percent.escape, Hex.pair, List.mem_cons, List.not_mem_nil, or_false] at h
      rcases h with rfl | rfl | rfl
      · exact Or.inl rfl
      · exact Or.inr (Or.inr (Percent.exists_isUnreserved_of_upperDigit (by omega)))
      · exact Or.inr (Or.inr (Percent.exists_isUnreserved_of_upperDigit (by omega)))

/-! ## The form of a text -/

/-- In a charset the octet of the space is written for spaces only, so it does not matter whether a
text without one has plus signs for spaces. -/
theorem flatMap_writeOctet_spacing (coding : Coding) (cs : Charset) (t : Text) :
    (t.flatMap fun c => (cs.encodeChar? c).getD []).flatMap (coding.spacing t).writeOctet =
      (t.flatMap fun c => (cs.encodeChar? c).getD []).flatMap coding.writeOctet := by
  refine List.flatMap_congr fun b hb => ?_
  by_cases hsp : ' ' ∈ t
  · have hspacing : coding.spacing t = coding := by simp [spacing, hsp]
    rw [hspacing]
  · obtain ⟨c, hc, hb⟩ := List.mem_flatMap.1 hb
    have hne : b ≠ 0x20 := by
      rintro rfl
      cases ho : cs.encodeChar? c with
      | none =>
        rw [ho] at hb
        exact absurd hb List.not_mem_nil
      | some octets =>
        rw [ho] at hb
        have hspace : c = ' ' := Charset.eq_ofByte_of_mem ho hb (by decide)
        exact hsp (hspace ▸ hc)
    rw [writeOctet, writeOctet, if_neg fun h => hne h.2, if_neg fun h => hne h.2]

variable [Codecs]

@[simp] theorem encode_nil (coding : Coding) : coding.encode [] = .ok [] := rfl

/-- A text that is not empty is written as its octets are, which are a matter of the codec. -/
theorem encode_eq_ok_iff_octets {coding : Coding} {t u : Text} (ht : t ≠ []) :
    coding.encode t = .ok u ↔ ∃ bs, (Codecs.find coding.charset).encode t = .ok bs ∧
      u = bs.flatMap (coding.spacing t).writeOctet := by
  rw [encode, if_neg (by simpa using ht)]
  cases (Codecs.find coding.charset).encode t with
  | ok bs => simp [eq_comm]
  | error e => cases e <;> simp

/-- What is written in a charset that is known. -/
theorem encode_eq_ok_iff {coding : Coding} {cs : Charset}
    (hcs : Charset.ofName? coding.charset = some cs) {t u : Text} :
    coding.encode t = .ok u ↔ (∀ c ∈ t, cs.has c) ∧
      u = (t.flatMap fun c => (cs.encodeChar? c).getD []).flatMap coding.writeOctet := by
  cases t with
  | nil =>
    rw [encode_nil, Except.ok.injEq]
    exact ⟨fun h => ⟨fun c hc => absurd hc List.not_mem_nil, h.symm⟩, fun h => h.2.symm⟩
  | cons c t =>
    rw [encode_eq_ok_iff_octets (List.cons_ne_nil c t), Codecs.find_of_ofName? hcs, Charset.codec]
    simp only [mapError_eq_ok_iff, Charset.encode_eq_ok_iff_flatMap]
    constructor
    · rintro ⟨_, ⟨h, rfl⟩, rfl⟩
      exact ⟨h, flatMap_writeOctet_spacing coding cs (c :: t)⟩
    · rintro ⟨h, rfl⟩
      exact ⟨_, ⟨h, rfl⟩, (flatMap_writeOctet_spacing coding cs (c :: t)).symm⟩

/-- A text is written if and only if it is empty or its codec writes it. -/
theorem exists_encode_ok_iff_octets {coding : Coding} {t : Text} :
    (∃ u, coding.encode t = .ok u) ↔
      t = [] ∨ ∃ bs, (Codecs.find coding.charset).encode t = .ok bs := by
  by_cases ht : t = []
  · subst ht
    exact iff_of_true ⟨[], rfl⟩ (Or.inl rfl)
  · simp only [encode_eq_ok_iff_octets ht, ht, false_or]
    exact ⟨fun ⟨_, bs, hbs, _⟩ => ⟨bs, hbs⟩, fun ⟨bs, hbs⟩ => ⟨_, bs, hbs, rfl⟩⟩

/-- A text is written if and only if the charset has all its characters. -/
theorem exists_encode_ok_iff {coding : Coding} {cs : Charset}
    (hcs : Charset.ofName? coding.charset = some cs) {t : Text} :
    (∃ u, coding.encode t = .ok u) ↔ ∀ c ∈ t, cs.has c :=
  ⟨fun ⟨_, h⟩ => ((encode_eq_ok_iff hcs).1 h).1, fun h => ⟨_, (encode_eq_ok_iff hcs).2 ⟨h, rfl⟩⟩⟩

/-- Where there is no codec, nothing is written but the empty text. -/
theorem exists_encode_ok_iff_of_unknown {coding : Coding}
    (hno : Codecs.find coding.charset = .unknown coding.charset) {t : Text} :
    (∃ u, coding.encode t = .ok u) ↔ t = [] := by
  rw [exists_encode_ok_iff_octets, hno]
  simp [Codec.unknown]

/-- Every character of a coded form comes from an octet. -/
theorem exists_writeOctet_of_encode {coding : Coding} {t u : Text} (h : coding.encode t = .ok u)
    {c : Char} (hc : c ∈ u) : ∃ b, c ∈ (coding.spacing t).writeOctet b := by
  by_cases ht : t = []
  · subst ht
    obtain rfl := Except.ok.inj h
    exact absurd hc List.not_mem_nil
  · obtain ⟨bs, _, rfl⟩ := (encode_eq_ok_iff_octets ht).1 h
    obtain ⟨b, _, hb⟩ := List.mem_flatMap.1 hc
    exact ⟨b, hb⟩

/-- No coded form holds a character that separates. -/
theorem separator_not_mem_of_encode {coding : Coding} {t u : Text} (h : coding.encode t = .ok u)
    {sep : Char} (hsep : sep ∈ ['&', '=']) : sep ∉ u := by
  intro hmem
  obtain ⟨b, hb⟩ := exists_writeOctet_of_encode h hmem
  -- A separator is neither of the signs that the coding writes, and no octet of one is kept.
  rcases mem_writeOctet hb with rfl | ⟨_, rfl⟩ | ⟨b', hu, he⟩
  · exact absurd hsep (by decide)
  · exact absurd hsep (by decide)
  · exact Percent.ofByte_ne_of_isUnreserved hu
      (List.mem_cons_of_mem _ (List.mem_cons_of_mem _ hsep)) he.symm

end Coding

end QueryString
