import QueryString.Charset.Utf8.RoundTrip
import QueryString.Proofs.Results

/-!
# UTF-8 has one form for each character

`decode_encode` says that what is written reads back. The other half is here for one character:
whatever octets are read as a text begin with those of its first character
(`exists_encodeChar_of_decodeFrom`). No overlong form, no surrogate and no number beyond the last
code point is read.

The machine is followed through one character. What it knows on the way is the number so far and
the range of the next octet, and from these the octets of the finished character are computed back.
-/

namespace QueryString.Utf8

/-- A number that is a code point is the code of its character. -/
theorem toNat_ofNat_of_isValid {n : Nat} (h : n < 0xD800 ∨ 0xDFFF < n ∧ n < 0x110000) :
    (Char.ofNat n).toNat = n := by
  have hvalid : n.isValidChar := h
  have hc : Char.ofNat n = Char.ofNatAux n hvalid := dif_pos hvalid
  rw [hc]
  rfl

theorem ofNat_eq_of_toNat {b : UInt8} {n : Nat} (h : n = b.toNat) : UInt8.ofNat n = b := by
  rw [h, UInt8.ofNat_toNat]

/-! ## The octets of a number -/

theorem encodeChar_ofNat_one {a : UInt8} (ha : a.toNat < 0x80) :
    encodeChar (Char.ofNat a.toNat) = [a] := by
  rw [encodeChar, toNat_ofNat_of_isValid (by omega), if_pos ha, UInt8.ofNat_toNat]

/-- The two octets from which a number was read. -/
theorem encodeChar_ofNat_two {a b : UInt8} (ha : 0xC2 ≤ a.toNat) (ha' : a.toNat < 0xE0)
    (hb : 0x80 ≤ b.toNat) (hb' : b.toNat ≤ 0xBF) :
    encodeChar (Char.ofNat ((a.toNat - 0xC0) * 0x40 + (b.toNat - 0x80))) = [a, b] := by
  rw [encodeChar, toNat_ofNat_of_isValid (by omega), if_neg (by omega), if_pos (by omega),
    ofNat_eq_of_toNat (b := a) (by omega), ofNat_eq_of_toNat (b := b) (by omega)]

/-- The three octets from which a number was read. The second one is out of range where the number
would be overlong or a surrogate. -/
theorem encodeChar_ofNat_three {a b c : UInt8} (ha : 0xE0 ≤ a.toNat) (ha' : a.toNat < 0xF0)
    (hb : 0x80 ≤ b.toNat) (hb' : b.toNat ≤ 0xBF) (hlow : a.toNat = 0xE0 → 0xA0 ≤ b.toNat)
    (hhigh : a.toNat = 0xED → b.toNat ≤ 0x9F) (hc : 0x80 ≤ c.toNat) (hc' : c.toNat ≤ 0xBF) :
    encodeChar (Char.ofNat
      (((a.toNat - 0xE0) * 0x40 + (b.toNat - 0x80)) * 0x40 + (c.toNat - 0x80))) = [a, b, c] := by
  rw [encodeChar, toNat_ofNat_of_isValid (by omega), if_neg (by omega), if_neg (by omega),
    if_pos (by omega), ofNat_eq_of_toNat (b := a) (by omega),
    ofNat_eq_of_toNat (b := b) (by omega), ofNat_eq_of_toNat (b := c) (by omega)]

/-- The four octets from which a number was read. The second one is out of range where the number
would be overlong or beyond the last code point. -/
theorem encodeChar_ofNat_four {a b c d : UInt8} (ha : 0xF0 ≤ a.toNat) (ha' : a.toNat < 0xF5)
    (hb : 0x80 ≤ b.toNat) (hb' : b.toNat ≤ 0xBF) (hlow : a.toNat = 0xF0 → 0x90 ≤ b.toNat)
    (hhigh : a.toNat = 0xF4 → b.toNat ≤ 0x8F) (hc : 0x80 ≤ c.toNat) (hc' : c.toNat ≤ 0xBF)
    (hd : 0x80 ≤ d.toNat) (hd' : d.toNat ≤ 0xBF) :
    encodeChar (Char.ofNat ((((a.toNat - 0xF0) * 0x40 + (b.toNat - 0x80)) * 0x40
      + (c.toNat - 0x80)) * 0x40 + (d.toNat - 0x80))) = [a, b, c, d] := by
  rw [encodeChar, toNat_ofNat_of_isValid (by omega), if_neg (by omega), if_neg (by omega),
    if_neg (by omega), ofNat_eq_of_toNat (b := a) (by omega),
    ofNat_eq_of_toNat (b := b) (by omega), ofNat_eq_of_toNat (b := c) (by omega),
    ofNat_eq_of_toNat (b := d) (by omega)]

/-! ## The rest of a character -/

/-- Where the machine owes one octet, that octet completes the character. -/
theorem exists_last_of_decodeFrom {v low high : Nat} {bs : Bytes} {t : Text}
    (h : decodeFrom (some ⟨v, 0, low, high⟩) bs = .ok t) :
    ∃ b rest t', bs = b :: rest ∧ low ≤ b.toNat ∧ b.toNat ≤ high ∧
      t = Char.ofNat (v * 0x40 + (b.toNat - 0x80)) :: t' ∧ decodeFrom none rest = .ok t' := by
  cases bs with
  | nil => cases h
  | cons b rest =>
    by_cases hb : low ≤ b.toNat ∧ b.toNat ≤ high
    · simp only [decodeFrom, Begun.next, if_pos hb] at h
      obtain ⟨t', hr, rfl⟩ := map_eq_ok_iff.1 h
      exact ⟨b, rest, t', rfl, hb.1, hb.2, rfl, hr⟩
    · simp only [decodeFrom, Begun.next, if_neg hb] at h
      cases h

/-- Where the machine owes more, an octet leads to a state that owes one less. -/
theorem exists_next_of_decodeFrom {v owed low high : Nat} {bs : Bytes} {t : Text}
    (h : decodeFrom (some ⟨v, owed + 1, low, high⟩) bs = .ok t) :
    ∃ b rest, bs = b :: rest ∧ low ≤ b.toNat ∧ b.toNat ≤ high ∧
      decodeFrom (some ⟨v * 0x40 + (b.toNat - 0x80), owed, 0x80, 0xBF⟩) rest = .ok t := by
  cases bs with
  | nil => cases h
  | cons b rest =>
    by_cases hb : low ≤ b.toNat ∧ b.toNat ≤ high
    · simp only [decodeFrom, Begun.next, if_pos hb] at h
      exact ⟨b, rest, rfl, hb.1, hb.2, h⟩
    · simp only [decodeFrom, Begun.next, if_neg hb] at h
      cases h

/-! ## One character -/

/-- A text that is read from octets begins with a character whose octets come first. -/
theorem exists_encodeChar_of_decodeFrom {a : UInt8} {bs : Bytes} {t : Text}
    (h : decodeFrom none (a :: bs) = .ok t) :
    ∃ c rest t', a :: bs = encodeChar c ++ rest ∧ t = c :: t' ∧ decodeFrom none rest = .ok t' := by
  simp only [decodeFrom, start] at h
  -- The ranges of a first octet, in the order in which the machine tries them.
  by_cases h1 : a.toNat < 0x80
  · rw [if_pos h1] at h
    obtain ⟨t', hr, rfl⟩ := map_eq_ok_iff.1 h
    exact ⟨_, bs, t', by rw [encodeChar_ofNat_one h1]; rfl, rfl, hr⟩
  by_cases h2 : a.toNat < 0xC2
  · rw [if_neg h1, if_pos h2] at h
    cases h
  by_cases h3 : a.toNat < 0xE0
  · rw [if_neg h1, if_neg h2, if_pos h3] at h
    obtain ⟨b, rest, t', rfl, hb, hb', rfl, hr⟩ := exists_last_of_decodeFrom h
    have henc := encodeChar_ofNat_two (show 0xC2 ≤ a.toNat by omega) h3 hb hb'
    exact ⟨_, rest, t', by rw [henc]; rfl, rfl, hr⟩
  by_cases h4 : a.toNat < 0xF0
  · rw [if_neg h1, if_neg h2, if_neg h3, if_pos h4] at h
    obtain ⟨b, bs, rfl, hb, hb', h⟩ := exists_next_of_decodeFrom h
    obtain ⟨c, rest, t', rfl, hc, hc', rfl, hr⟩ := exists_last_of_decodeFrom h
    have henc := encodeChar_ofNat_three (show 0xE0 ≤ a.toNat by omega) h4
      (b := b) (c := c) (by split at hb <;> omega) (by split at hb' <;> omega)
      (fun he => by rwa [if_pos he] at hb) (fun he => by rwa [if_pos he] at hb') hc hc'
    exact ⟨_, rest, t', by rw [henc]; rfl, rfl, hr⟩
  by_cases h5 : a.toNat < 0xF5
  · rw [if_neg h1, if_neg h2, if_neg h3, if_neg h4, if_pos h5] at h
    obtain ⟨b, bs, rfl, hb, hb', h⟩ := exists_next_of_decodeFrom h
    obtain ⟨c, bs, rfl, hc, hc', h⟩ := exists_next_of_decodeFrom h
    obtain ⟨d, rest, t', rfl, hd, hd', rfl, hr⟩ := exists_last_of_decodeFrom h
    have henc := encodeChar_ofNat_four (show 0xF0 ≤ a.toNat by omega) h5
      (b := b) (c := c) (d := d) (by split at hb <;> omega) (by split at hb' <;> omega)
      (fun he => by rwa [if_pos he] at hb) (fun he => by rwa [if_pos he] at hb') hc hc' hd hd'
    exact ⟨_, rest, t', by rw [henc]; rfl, rfl, hr⟩
  · rw [if_neg h1, if_neg h2, if_neg h3, if_neg h4, if_neg h5] at h
    cases h

example : decode [0xC0, 0xAF] = .error .invalidStart := by rfl

end QueryString.Utf8
