import QueryString.Charset.Codec
import QueryString.Proofs.Charset.Utf8

/-!
# Reading undoes writing in every charset

A charset gives each of its characters some octets. Two lemmas say that reading is cut along them,
and they are all that the layers above need of a charset:

* `decode_append`: the octets of a character are read as that character, whatever follows.
* `exists_of_decode_cons`: octets that are read begin with the octets of a character.

A third one is about ASCII, where all charsets agree: `encodeChar?_of_isAscii` and
`le_of_encodeChar?` keep the octets of ASCII characters and those of all others apart.
-/

namespace QueryString

namespace Windows1252

/-- The character that an octet was written for is the one that it is read as. -/
theorem decodeByte?_of_encodeChar? {b : UInt8} {c : Char} (h : encodeChar? c = some b) :
    decodeByte? b = some c := by
  unfold encodeChar? at h
  split at h
  · rename_i hc
    obtain rfl := Option.some.inj h
    have hn : (UInt8.ofNat c.toNat).toNat = c.toNat := Utf8.toNat_ofNat_of_lt hc.1
    have hchar : Text.ofByte (UInt8.ofNat c.toNat) = c := by
      rw [Text.ofByte, hn, Char.ofNat_toNat]
    have ht : inTable c.toNat = false := by simpa using hc.2
    simp [decodeByte?, hn, ht, hchar]
  · have hall : ∀ row ∈ table, decodeByte? row.1 = some row.2 := by decide
    obtain ⟨row, hrow, rfl⟩ := Option.map_eq_some_iff.1 h
    have hc : row.2 = c := by simpa using List.find?_some hrow
    rw [hall row (List.mem_of_find?_eq_some hrow), hc]

/-- A character that is not ASCII has an octet that is not. -/
theorem le_of_encodeChar? {b : UInt8} {c : Char} (h : encodeChar? c = some b)
    (hc : 0x80 ≤ c.toNat) : 0x80 ≤ b.toNat := by
  unfold encodeChar? at h
  split at h
  · rename_i hlt
    obtain rfl := Option.some.inj h
    rwa [Utf8.toNat_ofNat_of_lt hlt.1]
  · have hall : ∀ row ∈ table, 0x80 ≤ row.1.toNat := by decide
    obtain ⟨row, hrow, rfl⟩ := Option.map_eq_some_iff.1 h
    exact hall row (List.mem_of_find?_eq_some hrow)

end Windows1252

/-! ## Octets of ASCII characters -/

namespace Utf8

/-- A character that is not ASCII has only octets that are not. -/
theorem le_of_mem_encodeChar {b : UInt8} {c : Char} (hc : 0x80 ≤ c.toNat)
    (hb : b ∈ encodeChar c) : 0x80 ≤ b.toNat := by
  have hvalid := isValid_toNat c
  unfold encodeChar at hb
  generalize c.toNat = n at hc hvalid hb
  simp only [show ¬ n < 0x80 by omega, if_false] at hb
  split at hb
  · simp only [List.mem_cons, List.not_mem_nil, or_false] at hb
    rcases hb with rfl | rfl <;> rw [toNat_ofNat_of_lt (by omega)] <;> omega
  split at hb
  · simp only [List.mem_cons, List.not_mem_nil, or_false] at hb
    rcases hb with rfl | rfl | rfl <;> rw [toNat_ofNat_of_lt (by omega)] <;> omega
  · simp only [List.mem_cons, List.not_mem_nil, or_false] at hb
    rcases hb with rfl | rfl | rfl | rfl <;> rw [toNat_ofNat_of_lt (by omega)] <;> omega

end Utf8

theorem Text.ofByte_ofNat {c : Char} (h : c.toNat < 256) : ofByte (UInt8.ofNat c.toNat) = c := by
  rw [ofByte, Utf8.toNat_ofNat_of_lt h, Char.ofNat_toNat]

namespace Charset

/-- Every charset has the ASCII characters, each with the octet of its number. -/
theorem encodeChar?_of_isAscii (cs : Charset) {c : Char} (h : Text.isAscii c) :
    cs.encodeChar? c = some [UInt8.ofNat c.toNat] := by
  have hc : c.toNat < 0x80 := by simpa [Text.isAscii] using h
  cases cs with
  | utf8 => simp [encodeChar?, Utf8.encodeChar, hc]
  | latin1 => simp [encodeChar?, show c.toNat < 0x100 by omega]
  | ascii => simp [encodeChar?, hc]
  | windows1252 =>
    have ht : Windows1252.inTable c.toNat = false := by
      simp only [Windows1252.inTable, Bool.and_eq_false_iff, decide_eq_false_iff_not]
      omega
    simp [encodeChar?, Windows1252.encodeChar?, show c.toNat < 0x100 by omega, ht]

theorem has_of_isAscii (cs : Charset) {c : Char} (h : Text.isAscii c) : cs.has c := by
  rw [has, cs.encodeChar?_of_isAscii h]
  rfl

/-- No octet of any other character is the octet of an ASCII character. -/
theorem le_of_encodeChar? {cs : Charset} {c : Char} {octets : Bytes}
    (h : cs.encodeChar? c = some octets) (hc : ¬ Text.isAscii c) :
    ∀ b ∈ octets, 0x80 ≤ b.toNat := by
  have hle : 0x80 ≤ c.toNat := by simpa [Text.isAscii] using hc
  intro b hb
  cases cs with
  | utf8 =>
    obtain rfl := Option.some.inj h
    exact Utf8.le_of_mem_encodeChar hle hb
  | latin1 =>
    simp only [encodeChar?] at h
    split at h
    · next hlt =>
      obtain rfl := Option.some.inj h
      rw [List.mem_singleton.1 hb, Utf8.toNat_ofNat_of_lt hlt]
      exact hle
    · cases h
  | ascii =>
    simp only [encodeChar?] at h
    rw [if_neg (by omega)] at h
    cases h
  | windows1252 =>
    obtain ⟨b', hb', rfl⟩ := Option.map_eq_some_iff.1 h
    rw [List.mem_singleton.1 hb]
    exact Windows1252.le_of_encodeChar? hb' hle

/-- An octet of ASCII is written for its own character only, whatever the charset. -/
theorem eq_ofByte_of_mem {cs : Charset} {c : Char} {octets : Bytes}
    (h : cs.encodeChar? c = some octets) {b : UInt8} (hb : b ∈ octets) (hlt : b.toNat < 0x80) :
    c = Text.ofByte b := by
  by_cases ha : Text.isAscii c
  · rw [cs.encodeChar?_of_isAscii ha] at h
    obtain rfl := Option.some.inj h
    have hc : c.toNat < 0x80 := by simpa [Text.isAscii] using ha
    rw [List.mem_singleton.1 hb, Text.ofByte_ofNat (by omega)]
  · have hle := Charset.le_of_encodeChar? h ha b hb
    omega

/-! ## One character in front of a rest -/

@[simp] theorem decode_nil (cs : Charset) : cs.decode [] = .ok [] := by
  cases cs <;> rfl

/-- Where a charset reads octet by octet, its reader is given by what it makes of one octet. -/
theorem mapM_singleByte_cons {fault : ByteFault} {char? : UInt8 → Option Char} {b : UInt8}
    {c : Char} (h : char? b = some c) (bs : Bytes) :
    (b :: bs).mapM (singleByte fault char?) = (bs.mapM (singleByte fault char?)).map (c :: ·) :=
  mapM_cons_of_ok (by rw [singleByte, h]) bs

/-- The octets of a character are read as that character, whatever follows. -/
theorem decode_append {cs : Charset} {c : Char} {octets : Bytes}
    (h : cs.encodeChar? c = some octets) (rest : Bytes) :
    cs.decode (octets ++ rest) = (cs.decode rest).map (c :: ·) := by
  cases cs with
  | utf8 =>
    obtain rfl := Option.some.inj h
    exact Utf8.decodeFrom_encodeChar_append c rest
  | latin1 =>
    simp only [encodeChar?] at h
    split at h
    · next hc =>
      obtain rfl := Option.some.inj h
      simp [decode, Except.map, Text.ofByte_ofNat hc]
    · cases h
  | ascii =>
    simp only [encodeChar?] at h
    split at h
    · next hc =>
      obtain rfl := Option.some.inj h
      refine mapM_singleByte_cons ?_ rest
      rw [Utf8.toNat_ofNat_of_lt (by omega), if_pos hc, Text.ofByte_ofNat (by omega)]
    · cases h
  | windows1252 =>
    obtain ⟨b, hb, rfl⟩ := Option.map_eq_some_iff.1 h
    exact mapM_singleByte_cons (Windows1252.decodeByte?_of_encodeChar? hb) rest

theorem exists_of_mapM_singleByte_cons {fault : ByteFault} {char? : UInt8 → Option Char}
    {b : UInt8} {bs : Bytes} {t : Text}
    (h : (b :: bs).mapM (singleByte fault char?) = .ok t) :
    ∃ c t', char? b = some c ∧ t = c :: t' ∧ bs.mapM (singleByte fault char?) = .ok t' := by
  cases hb : char? b with
  | none =>
    rw [mapM_cons_of_error (e := fault) (by rw [singleByte, hb])] at h
    cases h
  | some c =>
    rw [mapM_singleByte_cons hb] at h
    obtain ⟨t', ht', rfl⟩ := map_eq_ok_iff.1 h
    exact ⟨c, t', rfl, rfl, ht'⟩

/-- Octets that are read begin with the octets of the first character that is read. -/
theorem exists_of_decode_cons {cs : Charset} {b : UInt8} {bs : Bytes} {t : Text}
    (h : cs.decode (b :: bs) = .ok t) :
    ∃ c octets rest t', cs.encodeChar? c = some octets ∧ b :: bs = octets ++ rest ∧
      t = c :: t' ∧ cs.decode rest = .ok t' := by
  cases cs with
  | utf8 =>
    obtain ⟨c, rest, t', hbs, rfl, hr⟩ := Utf8.exists_encodeChar_of_decodeFrom h
    exact ⟨c, Utf8.encodeChar c, rest, t', rfl, hbs, rfl, hr⟩
  | latin1 =>
    obtain rfl := Except.ok.inj h
    refine ⟨Text.ofByte b, [b], bs, bs.map Text.ofByte, ?_, rfl, rfl, rfl⟩
    have hlt := b.toNat_lt
    simp [encodeChar?, hlt]
  | ascii =>
    obtain ⟨c, t', hc, rfl, hr⟩ := exists_of_mapM_singleByte_cons h
    refine ⟨c, [b], bs, t', ?_, rfl, rfl, hr⟩
    split at hc
    · next hb =>
      obtain rfl := Option.some.inj hc
      simp [encodeChar?, hb]
    · cases hc
  | windows1252 =>
    obtain ⟨c, t', hc, rfl, hr⟩ := exists_of_mapM_singleByte_cons h
    refine ⟨c, [b], bs, t', ?_, rfl, rfl, hr⟩
    rw [encodeChar?, Windows1252.encodeChar?_of_decodeByte? hc]
    rfl

/-! ## A text -/

/-- A text is written character by character, if the charset has all its characters. -/
theorem encode_eq_ok_iff_flatMap {cs : Charset} {t : Text} {octets : Bytes} :
    cs.encode t = .ok octets ↔
      (∀ c ∈ t, cs.has c) ∧ octets = t.flatMap fun c => (cs.encodeChar? c).getD [] := by
  have heq : ∀ bs, cs.encode t = .ok bs → bs = t.flatMap fun c => (cs.encodeChar? c).getD [] := by
    intro bs h
    unfold encode at h
    split at h
    · exact (Except.ok.inj h).symm
    · cases h
  constructor
  · intro h
    exact ⟨(cs.encode_eq_ok_iff t).1 ⟨octets, h⟩, heq octets h⟩
  · rintro ⟨h, rfl⟩
    obtain ⟨bs, hbs⟩ := (cs.encode_eq_ok_iff t).2 h
    rw [hbs, heq bs hbs]

/-- In every charset octets of ASCII are read as ASCII. -/
theorem decode_of_lt (cs : Charset) {bs : Bytes} (h : ∀ b ∈ bs, b.toNat < 0x80) :
    cs.decode bs = .ok (bs.map Text.ofByte) := by
  induction bs with
  | nil => exact cs.decode_nil
  | cons b bs ih =>
    rw [List.forall_mem_cons] at h
    have hone : cs.encodeChar? (Text.ofByte b) = some [b] := by
      have hascii := cs.encodeChar?_of_isAscii (c := Text.ofByte b) (by simp [Text.isAscii, h.1])
      rwa [Text.toNat_ofByte, UInt8.ofNat_toNat] at hascii
    have hcons := decode_append hone bs
    rw [ih h.2] at hcons
    exact hcons

/-- Octets are read as a text if and only if the text is written as them. -/
theorem decode_eq_ok_iff {cs : Charset} {bs : Bytes} {t : Text} :
    cs.decode bs = .ok t ↔ cs.encode t = .ok bs := by
  rw [encode_eq_ok_iff_flatMap]
  constructor
  · intro h
    induction t generalizing bs with
    | nil =>
      cases bs with
      | nil => exact ⟨fun c hc => absurd hc List.not_mem_nil, rfl⟩
      | cons b bs =>
        obtain ⟨_, _, _, _, _, _, ht, _⟩ := exists_of_decode_cons h
        cases ht
    | cons c t ih =>
      cases bs with
      | nil =>
        rw [decode_nil] at h
        cases h
      | cons b bs =>
        obtain ⟨c', octets, rest, t', hc, hbs, ht, hrest⟩ := exists_of_decode_cons h
        obtain ⟨rfl, rfl⟩ := List.cons.inj ht
        obtain ⟨hall, hrest⟩ := ih hrest
        rw [List.forall_mem_cons, List.flatMap_cons, hbs, hc, ← hrest]
        exact ⟨⟨by rw [has, hc]; rfl, hall⟩, rfl⟩
  · rintro ⟨hall, rfl⟩
    induction t with
    | nil => exact cs.decode_nil
    | cons c t ih =>
      obtain ⟨hc, hall⟩ := List.forall_mem_cons.1 hall
      obtain ⟨octets, hc⟩ := Option.isSome_iff_exists.1 hc
      rw [List.flatMap_cons, hc, Option.getD_some, decode_append hc, ih hall]
      rfl

end Charset

end QueryString
