import QueryString.Charset.Utf8.Basic

/-!
# UTF-8 reads back

What `encode` writes, `decode` reads. The main statement is `decode_encode`; it follows from
`decodeFrom_encodeChar_append`, which reads one character in front of anything else, so that the
machine is back between characters for the rest.

The one fact about code points that the proof needs is that there are none from D800 to DFFF and
none from 110000 on: it keeps the second octet inside the narrowed ranges after ED and F4.
-/

namespace QueryString.Utf8

theorem toNat_ofNat_of_lt {n : Nat} (h : n < 256) : (UInt8.ofNat n).toNat = n := by
  simp [Nat.mod_eq_of_lt h]

/-- A code point is neither a surrogate nor beyond the last plane. -/
theorem isValid_toNat (c : Char) :
    c.toNat < 0xD800 ∨ 0xDFFF < c.toNat ∧ c.toNat < 0x110000 := c.valid

/-! ## One octet -/

theorem start_of_lt {n : Nat} (h : n < 0x80) :
    start (UInt8.ofNat n) = .complete (Char.ofNat n) := by
  simp [start, toNat_ofNat_of_lt (show n < 256 by omega), h]

/-- The first of two octets. -/
theorem start_two {n : Nat} (hl : 0x80 ≤ n) (hh : n < 0x800) :
    start (UInt8.ofNat (0xC0 + n / 0x40)) = .more ⟨n / 0x40, 0, 0x80, 0xBF⟩ := by
  simp only [start, toNat_ofNat_of_lt (show 0xC0 + n / 0x40 < 256 by omega)]
  rw [if_neg (by omega), if_neg (by omega), if_pos (by omega),
    show 0xC0 + n / 0x40 - 0xC0 = n / 0x40 by omega]

/-- The first of three octets. After E0 and ED the range of the next one is narrower. -/
theorem start_three {n : Nat} (hh : n < 0x10000) :
    start (UInt8.ofNat (0xE0 + n / 0x1000)) =
      .more ⟨n / 0x1000, 1, if n / 0x1000 = 0 then 0xA0 else 0x80,
        if n / 0x1000 = 0xD then 0x9F else 0xBF⟩ := by
  simp only [start, toNat_ofNat_of_lt (show 0xE0 + n / 0x1000 < 256 by omega)]
  rw [if_neg (by omega), if_neg (by omega), if_neg (by omega), if_pos (by omega)]
  simp [show 0xE0 + n / 0x1000 - 0xE0 = n / 0x1000 by omega,
    show 0xE0 + n / 0x1000 = 0xED ↔ n / 0x1000 = 0xD by omega]

/-- The first of four octets. After F0 and F4 the range of the next one is narrower. -/
theorem start_four {n : Nat} (hh : n < 0x110000) :
    start (UInt8.ofNat (0xF0 + n / 0x40000)) =
      .more ⟨n / 0x40000, 2, if n / 0x40000 = 0 then 0x90 else 0x80,
        if n / 0x40000 = 4 then 0x8F else 0xBF⟩ := by
  simp only [start, toNat_ofNat_of_lt (show 0xF0 + n / 0x40000 < 256 by omega)]
  rw [if_neg (by omega), if_neg (by omega), if_neg (by omega), if_neg (by omega),
    if_pos (by omega)]
  simp [show 0xF0 + n / 0x40000 - 0xF0 = n / 0x40000 by omega,
    show 0xF0 + n / 0x40000 = 0xF4 ↔ n / 0x40000 = 4 by omega]

/-- The last octet of a character completes it, if it lies in the range. -/
theorem Begun.next_eq_complete {p : Begun} {n : Nat} (hn : n < 256) (hl : p.low ≤ n)
    (hh : n ≤ p.high) (ho : p.owed = 0) :
    p.next (UInt8.ofNat n) = .complete (Char.ofNat (p.value * 0x40 + (n - 0x80))) := by
  simp [Begun.next, toNat_ofNat_of_lt hn, hl, hh, ho]

/-- Any other octet adds its six bits, and one octet less is owed. -/
theorem Begun.next_eq_more {p : Begun} {n owed : Nat} (hn : n < 256) (hl : p.low ≤ n)
    (hh : n ≤ p.high) (ho : p.owed = owed + 1) :
    p.next (UInt8.ofNat n) = .more ⟨p.value * 0x40 + (n - 0x80), owed, 0x80, 0xBF⟩ := by
  simp [Begun.next, toNat_ofNat_of_lt hn, hl, hh, ho]

/-! ## One character -/

theorem decodeFrom_cons_of_start {b : UInt8} {p : Begun} (h : start b = .more p) (rest : Bytes) :
    decodeFrom none (b :: rest) = decodeFrom (some p) rest := by
  rw [decodeFrom, h]

/-- The octets of a character are read as that character, whatever follows. -/
theorem decodeFrom_encodeChar_append (c : Char) (rest : Bytes) :
    decodeFrom none (encodeChar c ++ rest) = (decodeFrom none rest).map (c :: ·) := by
  have hvalid := isValid_toNat c
  have hc := Char.ofNat_toNat c
  unfold encodeChar
  generalize c.toNat = n at hvalid hc
  simp only []
  split
  · rename_i h
    rw [List.singleton_append, decodeFrom, start_of_lt h, hc]
  split
  · rw [List.cons_append, decodeFrom_cons_of_start (start_two (by omega) (by omega)),
      List.singleton_append, decodeFrom,
      Begun.next_eq_complete (by omega) (by simp) (by simp; omega) rfl]
    simp [show n / 0x40 * 0x40 + n % 0x40 = n by omega, hc]
  split
  · rw [List.cons_append, decodeFrom_cons_of_start (start_three (by omega)), List.cons_append,
      List.singleton_append, decodeFrom,
      Begun.next_eq_more (by omega) (by simp only; split <;> omega)
        (by simp only; split <;> omega) rfl]
    simp only [decodeFrom]
    rw [Begun.next_eq_complete (by omega) (by simp) (by simp; omega) rfl]
    simp [show (n / 0x1000 * 0x40 + n / 0x40 % 0x40) * 0x40 + n % 0x40 = n by omega, hc]
  · rw [List.cons_append, decodeFrom_cons_of_start (start_four (by omega)), List.cons_append,
      List.cons_append, List.singleton_append, decodeFrom,
      Begun.next_eq_more (by omega) (by simp only; split <;> omega)
        (by simp only; split <;> omega) rfl]
    simp only [decodeFrom]
    rw [Begun.next_eq_more (by omega) (by simp only; omega) (by simp only; omega) rfl]
    simp only
    rw [Begun.next_eq_complete (by omega) (by simp) (by simp; omega) rfl]
    simp [show ((n / 0x40000 * 0x40 + n / 0x1000 % 0x40) * 0x40 + n / 0x40 % 0x40) * 0x40
      + n % 0x40 = n by omega, hc]

/-! ## A text -/

theorem encode_cons (c : Char) (t : Text) : encode (c :: t) = encodeChar c ++ encode t := by
  simp [encode]

/-- The octets of a text are read as that text. -/
theorem decode_encode (t : Text) : decode (encode t) = .ok t := by
  induction t with
  | nil => rfl
  | cons c rest ih =>
    rw [decode] at ih ⊢
    rw [encode_cons, decodeFrom_encodeChar_append, ih]
    rfl

end QueryString.Utf8
