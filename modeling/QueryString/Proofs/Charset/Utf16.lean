import QueryString.Charset.Utf16
import QueryString.Charset.Utf8.RoundTrip

/-!
# UTF-16 there and back

The units of a text are octets two by two, and reading takes the octets two by two again, so what is
written is read back (`decode_encode`). One character goes in front of any other octets
(`decode_units_append`).
-/

namespace QueryString.Utf16

theorem lt_of_mem_units {c : Char} {n : Nat} (h : n ∈ units c) : n < 0x10000 := by
  have hvalid := Utf8.isValid_toNat c
  unfold units at h
  split at h <;> simp only [List.mem_cons, List.not_mem_nil, or_false] at h <;> omega

/-- The octets of a unit are read as the unit. -/
theorem unit_ofUnit {n : Nat} (h : n < 0x10000) :
    unit (UInt8.ofNat (n / 0x100)) (UInt8.ofNat (n % 0x100)) = n := by
  rw [unit, UInt8.toNat_ofNat', UInt8.toNat_ofNat']
  omega

/-- A unit that is no half of a pair is read as its character. -/
theorem decode_of_not_half {high low : UInt8} (hlow : ¬ isLowHalf (unit high low))
    (hhigh : ¬ isHighHalf (unit high low)) (rest : Bytes) :
    decode (high :: low :: rest) = (decode rest).map (Char.ofNat (unit high low) :: ·) := by
  match rest with
  | [] | [_] | _ :: _ :: _ => simp [decode, hlow, hhigh]

/-- Two halves of a pair are read as one character. -/
theorem decode_of_halves {high low high' low' : UInt8} (hhigh : isHighHalf (unit high low))
    (hlow : isLowHalf (unit high' low')) (rest : Bytes) :
    decode (high :: low :: high' :: low' :: rest) = (decode rest).map
      (Char.ofNat (0x10000 + (unit high low - 0xD800) * 0x400 + (unit high' low' - 0xDC00)) :: ·)
    := by
  have hnot : ¬ isLowHalf (unit high low) := by
    simp only [isHighHalf, isLowHalf, Bool.and_eq_true, decide_eq_true_eq] at hhigh ⊢
    omega
  rw [decode, if_neg hnot, if_pos hhigh, if_pos hlow]

/-- A character is read in front of whatever follows it. -/
theorem decode_units_append (c : Char) (rest : Bytes) :
    decode ((units c).flatMap ofUnit ++ rest) = (decode rest).map (c :: ·) := by
  have hvalid := Utf8.isValid_toNat c
  unfold units
  split
  · next h =>
    have hunit := unit_ofUnit h
    refine (decode_of_not_half ?_ ?_ rest).trans ?_
    · simp [hunit, isLowHalf]; omega
    · simp [hunit, isHighHalf]; omega
    · rw [hunit, Char.ofNat_toNat]
  · next h =>
    have hfirst := unit_ofUnit (n := 0xD800 + (c.toNat - 0x10000) / 0x400) (by omega)
    have hsecond := unit_ofUnit (n := 0xDC00 + (c.toNat - 0x10000) % 0x400) (by omega)
    refine (decode_of_halves ?_ ?_ rest).trans ?_
    · simp [hfirst, isHighHalf]; omega
    · simp [hsecond, isLowHalf]; omega
    · rw [hfirst, hsecond, show 0x10000 + (0xD800 + (c.toNat - 0x10000) / 0x400 - 0xD800) * 0x400
        + (0xDC00 + (c.toNat - 0x10000) % 0x400 - 0xDC00) = c.toNat by omega, Char.ofNat_toNat]

/-- Every text is read back. -/
theorem decode_encode (t : Text) : decode (encode t) = .ok t := by
  induction t with
  | nil => rfl
  | cons c t ih =>
    rw [encode] at ih ⊢
    rw [List.flatMap_cons, List.flatMap_append, decode_units_append, ih]
    rfl

end QueryString.Utf16
