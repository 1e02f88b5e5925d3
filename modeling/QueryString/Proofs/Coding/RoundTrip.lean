import QueryString.Proofs.Charset.Utf16
import QueryString.Proofs.Coding.Octets
import QueryString.Proofs.Coding.Written

/-!
# What is encoded decodes

A text is written as its octets, and what is written stands for them
(`standsFor_flatMap_writeOctet`). Reading asks the codec only where there is an escape; a form
without one is taken for itself. So the octets of a text must give it back in one of two ways, by
what the codec reads in them or as ASCII characters, and it depends on the octets in which
(`readsBack_iff_restores`).

With a transparent codec every text reads back. The codecs of the four charsets are transparent
(`Charset.transparent_codec`), and so is one that writes nothing (`Codec.transparent_unknown`).
UTF-16 is not, although it reads whatever it writes: the octets of an ideograph can be those of two
letters, which need no escape (`Codec.not_transparent_utf16`).
-/

namespace QueryString

namespace Coding

/-! ## The octets of what is written -/

/-- Tells whether an octet of a text is written as a character and not as an escape. -/
def keeps (coding : Coding) (t : Text) (b : UInt8) : Bool :=
  Percent.isUnreserved b || (coding.plusAsSpace && t.contains ' ' && b == 0x20)

/-- The form of an octet stands for it, whatever follows. -/
theorem standsFor_writeOctet_append (coding : Coding) (t : Text) (b : UInt8) {rest : Text}
    {bs : Bytes} (h : StandsFor coding.plusAsSpace rest bs) :
    StandsFor coding.plusAsSpace ((coding.spacing t).writeOctet b ++ rest) (b :: bs) := by
  unfold writeOctet
  split
  · next hp =>
    obtain ⟨hplus, rfl⟩ := hp
    exact .plus (Bool.and_eq_true_iff.1 hplus).1 h
  · unfold Percent.escapeUnless
    split
    · next hu =>
      have hb := Percent.isUnreserved_iff.1 hu
      have hother : StandsFor coding.plusAsSpace (Text.ofByte b :: rest)
          (UInt8.ofNat (Text.ofByte b).toNat :: bs) :=
        .other (by simp [Text.isAscii]; omega)
          (Percent.ofByte_ne_of_isUnreserved hu (by decide))
          (fun hp => Percent.ofByte_ne_of_isUnreserved hu (by decide) hp.2) h
      rwa [Text.toNat_ofByte, UInt8.ofNat_toNat] at hother
    · exact .escape (Hex.byte?_pair b) h

theorem standsFor_flatMap_writeOctet (coding : Coding) (t : Text) (bs : Bytes) :
    StandsFor coding.plusAsSpace (bs.flatMap (coding.spacing t).writeOctet) bs := by
  induction bs with
  | nil => exact .nil
  | cons b bs ih => exact standsFor_writeOctet_append coding t b ih

/-- There is no escape in what is written if and only if all octets are kept. -/
theorem percent_not_mem_flatMap_writeOctet_iff (coding : Coding) (t : Text) (bs : Bytes) :
    '%' ∉ bs.flatMap (coding.spacing t).writeOctet ↔ bs.all (coding.keeps t) := by
  have hone : ∀ b, '%' ∉ (coding.spacing t).writeOctet b ↔ coding.keeps t b := by
    intro b
    unfold writeOctet keeps spacing
    split
    · next hp => simp_all
    · next hp =>
      unfold Percent.escapeUnless
      split
      · next hu =>
        have hne := Percent.ofByte_ne_of_isUnreserved hu (c := '%') (by decide)
        simp [hu, hne.symm]
      · next hu => simp_all [Percent.escape]
  simp only [List.mem_flatMap, not_exists, not_and, List.all_eq_true, hone]

/-! ## What the octets are read as -/

/-- A token without an escape stands as it is for the octets of its characters. -/
theorem StandsFor.unplus_eq {coding : Coding} {raw : Text} {bs : Bytes}
    (h : StandsFor coding.plusAsSpace raw bs) (hraw : '%' ∉ raw) :
    coding.unplus raw = bs.map Text.ofByte := by
  rw [unplus_eq_map]
  induction h with
  | nil => rfl
  | escape _ _ _ => exact absurd List.mem_cons_self hraw
  | plus hp _ ih =>
    rw [List.map_cons, List.map_cons, ih (List.not_mem_of_not_mem_cons hraw), plain,
      if_pos ⟨hp, rfl⟩]
    rfl
  | @other c _ _ ha _ hp _ ih =>
    have hc : c.toNat < 0x80 := by simpa [Text.isAscii] using ha
    rw [List.map_cons, List.map_cons, ih (List.not_mem_of_not_mem_cons hraw), plain, if_neg hp,
      Text.ofByte_ofNat (by omega)]

variable [Codecs]

/-- A token is read as its octets are: by the codec if it has an escape, and as ASCII if not. -/
theorem StandsFor.decode_eq_ok_iff {coding : Coding} {raw : Text} {bs : Bytes}
    (h : StandsFor coding.plusAsSpace raw bs) {t : Text} :
    coding.decode raw = .ok t ↔
      if '%' ∉ raw then bs.map Text.ofByte = t
      else (Codecs.find coding.charset).decode bs = .ok t := by
  have hmem : '%' ∈ coding.unplus raw ↔ '%' ∈ raw := by
    simp [unplus_eq_map, plain_eq_percent_iff]
  rw [decode, Percent.badEscape?_of_wellEscaped h.wellEscaped]
  simp only [unescape, hmem]
  by_cases hp : '%' ∈ raw
  · obtain ⟨b, hb⟩ := Percent.exists_octet_mem_symbols (hmem.2 hp)
    rw [if_pos hp, if_neg (not_not.2 hp), Percent.read]
    rw [h.symbols_eq] at hb ⊢
    cases bs with
    | nil => exact absurd hb List.not_mem_nil
    | cons b bs =>
      rw [Percent.readSymbols_octets_cons]
      cases (Codecs.find coding.charset).decode (b :: bs) with
      | ok u => simp
      | error e => cases e <;> simp
  · rw [if_neg hp, if_pos hp, h.unplus_eq hp, Except.ok.injEq]

/-! ## Texts that are restored -/

/-- Whatever the text is written as is read as the text. -/
def ReadsBack (coding : Coding) (t : Text) : Prop :=
  ∀ u, coding.encode t = .ok u → coding.decode u = .ok t

theorem readsBack_nil (coding : Coding) : coding.ReadsBack [] := by
  intro u h
  obtain rfl := Except.ok.inj h
  exact decode_of_not_mem coding List.not_mem_nil List.not_mem_nil

/-- Tells whether the octets of a text give the text back. Where one of them is escaped, the codec
reads them; where all of them are kept, no codec is asked and they are taken for ASCII. -/
def Restores (coding : Coding) (t : Text) : Prop :=
  t ≠ [] → ∀ bs, (Codecs.find coding.charset).encode t = .ok bs →
    if bs.all (coding.keeps t) then bs.map Text.ofByte = t
    else (Codecs.find coding.charset).decode bs = .ok t

/-- What a text is written as reads back if and only if the octets of the text restore it. -/
theorem readsBack_iff_restores {coding : Coding} {t : Text} :
    coding.ReadsBack t ↔ coding.Restores t := by
  by_cases ht : t = []
  · subst ht
    exact iff_of_true (readsBack_nil coding) fun hne => absurd rfl hne
  simp only [ReadsBack, Restores, encode_eq_ok_iff_octets ht, ne_eq, ht, not_false_eq_true,
    forall_const]
  constructor
  · intro h bs hbs
    have hread := h _ ⟨bs, hbs, rfl⟩
    rw [(standsFor_flatMap_writeOctet coding t bs).decode_eq_ok_iff] at hread
    simpa only [percent_not_mem_flatMap_writeOctet_iff] using hread
  · rintro h u ⟨bs, hbs, rfl⟩
    rw [(standsFor_flatMap_writeOctet coding t bs).decode_eq_ok_iff]
    simpa only [percent_not_mem_flatMap_writeOctet_iff] using h bs hbs

end Coding

/-! ## Transparent codecs -/

/-- The codec reads what it writes, and nothing but ASCII characters has octets that are ASCII. -/
structure Codec.Transparent (codec : Codec) : Prop where
  decode_encode : ∀ {t : Text} {bs : Bytes}, codec.encode t = .ok bs → codec.decode bs = .ok t
  map_ofByte : ∀ {t : Text} {bs : Bytes}, codec.encode t = .ok bs → (∀ b ∈ bs, b.toNat < 0x80) →
    bs.map Text.ofByte = t

/-- A transparent codec restores every text. -/
theorem Codec.Transparent.restores [Codecs] {coding : Coding}
    (h : (Codecs.find coding.charset).Transparent) (t : Text) : coding.Restores t := by
  intro _ bs hbs
  split
  · next hall =>
    refine h.map_ofByte hbs fun b hb => ?_
    have hkeeps := List.all_eq_true.1 hall b hb
    simp only [Coding.keeps, Bool.or_eq_true, Bool.and_eq_true, beq_iff_eq] at hkeeps
    rcases hkeeps with hu | ⟨_, rfl⟩
    · have := Percent.isUnreserved_iff.1 hu
      omega
    · decide
  · exact h.decode_encode hbs

theorem Charset.transparent_codec (cs : Charset) : cs.codec.Transparent where
  decode_encode h :=
    mapError_eq_ok_iff.2 (Charset.decode_eq_ok_iff.2 (mapError_eq_ok_iff.1 h))
  map_ofByte {t bs} h hascii := by
    have hdecode := Charset.decode_eq_ok_iff.2 (mapError_eq_ok_iff.1 h)
    rw [Charset.decode_of_lt cs hascii] at hdecode
    exact Except.ok.inj hdecode

theorem Codecs.transparent_of_ofName? [Codecs] {name : Text} {cs : Charset}
    (h : Charset.ofName? name = some cs) : (find name).Transparent := by
  rw [find_of_ofName? h]
  exact cs.transparent_codec

/-- Where nothing is written, nothing is harmed. -/
theorem Codec.transparent_unknown (name : Text) : (Codec.unknown name).Transparent where
  decode_encode h := nomatch h
  map_ofByte h := nomatch h

theorem Codec.not_transparent_utf16 : ¬ Codec.utf16.Transparent := by
  intro h
  have hencode : Codec.utf16.encode ['慡'] = .ok [0x61, 0x61] := by decide
  have hletters : ([0x61, 0x61] : Bytes).map Text.ofByte = ['慡'] := h.map_ofByte hencode (by simp)
  exact absurd hletters (by decide)

/-! ## Pairs -/

namespace Coding

variable [Codecs]

/-- The name and the value of the pair read back. -/
def ReadsPairBack (coding : Coding) (p : Pair) : Prop :=
  coding.ReadsBack p.name ∧ coding.ReadsBack p.value

theorem readsPairBack_iff {coding : Coding} {p q : Pair} (h : coding.encodePair p = .ok q) :
    coding.ReadsPairBack p ↔ coding.decodePair q = .ok p := by
  obtain ⟨hn, hv⟩ := encodePair_eq_ok_iff.1 h
  rw [decodePair_eq_ok_iff, ReadsPairBack, ReadsBack, ReadsBack, hn, hv]
  simp only [Except.ok.injEq, forall_eq']

theorem readsPairBack_iff_restores {coding : Coding} {p : Pair} :
    coding.ReadsPairBack p ↔ coding.Restores p.name ∧ coding.Restores p.value :=
  and_congr readsBack_iff_restores readsBack_iff_restores

/-- In a charset that is known, both texts of a pair read back. -/
theorem readsPairBack_of_ofName? {coding : Coding} {cs : Charset}
    (hcs : Charset.ofName? coding.charset = some cs) (p : Pair) : coding.ReadsPairBack p := by
  have hclear := Codecs.transparent_of_ofName? hcs
  exact readsPairBack_iff_restores.2 ⟨hclear.restores p.name, hclear.restores p.value⟩

end Coding

end QueryString
