import QueryString.Proofs.Coding.Written
import QueryString.Proofs.Text
import QueryString.Proofs.Uri.Parts

/-!
# The form of what is encoded

A text that was encoded is letters, digits and six marks of ASCII, whatever characters it is the
form of (`spelled_of_encode`). Of the marks two have a meaning:

* two upper-case digits follow every percent sign (`isEscaped_of_encode`);
* a plus sign stands where the text has a space, and what is on either side of it is the form of
  what is on either side of the space (`space_of_encode`).
-/

namespace QueryString

namespace Hex

/-- The digits in upper case. -/
def upperDigits : List Char := "0123456789ABCDEF".toList

theorem upperDigit_mem {n : Nat} (h : n < 16) : upperDigit n ∈ upperDigits := by
  have hall : ∀ m ∈ List.range 16, upperDigit m ∈ upperDigits := by decide
  exact hall n (List.mem_range.2 h)

theorem mem_upperDigits_of_mem_pair {b : UInt8} {c : Char} (h : c ∈ pair b) : c ∈ upperDigits := by
  have hb := b.toNat_lt
  simp only [pair, List.mem_cons, List.not_mem_nil, or_false] at h
  rcases h with rfl | rfl
  · exact upperDigit_mem (by omega)
  · exact upperDigit_mem (by omega)

end Hex

namespace Percent

/-! ## Escapes -/

/-- Two upper-case digits follow every percent sign. -/
def IsEscaped (t : Text) : Prop :=
  ∀ before after, t = before ++ '%' :: after →
    ∃ high low rest, after = high :: low :: rest ∧ high ∈ Hex.upperDigits ∧ low ∈ Hex.upperDigits

theorem isEscaped_of_not_mem {t : Text} (h : '%' ∉ t) : IsEscaped t := by
  rintro before after rfl
  exact absurd (List.mem_append_right _ List.mem_cons_self) h

theorem IsEscaped.append {a b : Text} (ha : IsEscaped a) (hb : IsEscaped b) :
    IsEscaped (a ++ b) := by
  intro before after h
  rcases Text.append_eq_append_cons h with ⟨rest, hrest, rfl⟩ | ⟨rest, -, hrest⟩
  · obtain ⟨high, low, tail, rfl, hdigits⟩ := ha before rest hrest
    exact ⟨high, low, tail ++ b, rfl, hdigits⟩
  · exact hb rest after hrest

theorem isEscaped_escape (b : UInt8) : IsEscaped (escape b) := by
  have hpercent : '%' ∉ Hex.pair b := fun h =>
    absurd (Hex.mem_upperDigits_of_mem_pair h) (by decide)
  intro before after h
  -- There is no other percent sign in the escape than the one that begins it.
  rcases List.cons_eq_append_iff.1 h with ⟨-, h⟩ | ⟨before, -, h⟩
  · obtain ⟨-, rfl⟩ := List.cons.inj h
    exact ⟨_, _, [], rfl, Hex.mem_upperDigits_of_mem_pair List.mem_cons_self,
      Hex.mem_upperDigits_of_mem_pair (List.mem_cons_of_mem _ List.mem_cons_self)⟩
  · exact absurd (h ▸ List.mem_append_right _ List.mem_cons_self) hpercent

end Percent

namespace Coding

/-! ## Octets and characters -/

/-- What the octets of a character are written as. -/
def form (coding : Coding) (cs : Charset) (c : Char) : Text :=
  ((cs.encodeChar? c).getD []).flatMap coding.writeOctet

theorem isEscaped_writeOctet (coding : Coding) (b : UInt8) :
    Percent.IsEscaped (coding.writeOctet b) := by
  unfold writeOctet
  split
  · exact Percent.isEscaped_of_not_mem (by decide)
  unfold Percent.escapeUnless
  split
  · next hu =>
    have hpercent := Percent.ofByte_ne_of_isUnreserved hu (c := '%') (by decide)
    exact Percent.isEscaped_of_not_mem fun h => hpercent (List.mem_singleton.1 h).symm
  · exact Percent.isEscaped_escape b

theorem isEscaped_flatMap_writeOctet (coding : Coding) (octets : Bytes) :
    Percent.IsEscaped (octets.flatMap coding.writeOctet) := by
  induction octets with
  | nil => exact Percent.isEscaped_of_not_mem List.not_mem_nil
  | cons b octets ih =>
    rw [List.flatMap_cons]
    exact (isEscaped_writeOctet coding b).append ih

/-- A plus sign is written for the octet of the space, and for no other. -/
theorem eq_space_of_plus_mem_writeOctet {coding : Coding} {b : UInt8}
    (h : '+' ∈ coding.writeOctet b) : coding.plusAsSpace ∧ b = 0x20 := by
  unfold writeOctet at h
  split at h
  · next hp => exact hp
  exfalso
  unfold Percent.escapeUnless at h
  split at h
  · next hu =>
    exact Percent.ofByte_ne_of_isUnreserved hu (by decide) (List.mem_singleton.1 h).symm
  · rcases List.mem_cons.1 h with h | h
    · exact absurd h (by decide)
    · exact absurd (Hex.mem_upperDigits_of_mem_pair h) (by decide)

/-- The form of a character holds a plus sign if it is the form of the space, and is nothing else
then. -/
theorem eq_space_of_plus_mem_form {coding : Coding} {cs : Charset} {c : Char}
    (h : '+' ∈ coding.form cs c) : coding.plusAsSpace ∧ c = ' ' ∧ coding.form cs c = ['+'] := by
  obtain ⟨b, hb, hplus⟩ := List.mem_flatMap.1 h
  obtain ⟨hcoding, rfl⟩ := eq_space_of_plus_mem_writeOctet hplus
  cases hc : cs.encodeChar? c with
  | none =>
    rw [hc] at hb
    exact absurd hb List.not_mem_nil
  | some octets =>
    rw [hc] at hb
    have hspace : c = ' ' := Charset.eq_ofByte_of_mem hc hb (by decide)
    refine ⟨hcoding, hspace, ?_⟩
    rw [form, hspace, cs.encodeChar?_of_isAscii (by decide), Option.getD_some,
      List.flatMap_singleton, writeOctet]
    exact if_pos ⟨hcoding, rfl⟩

/-! ## Texts -/

/-- A character in the forms of some characters stands in one of them. -/
theorem exists_of_flatMap_eq {α : Type} {form : α → Text} {as : List α} {x : Char}
    {before after : Text} (h : as.flatMap form = before ++ x :: after) :
    ∃ as₁ a as₂ w₁ w₂, as = as₁ ++ a :: as₂ ∧ form a = w₁ ++ x :: w₂ ∧
      before = as₁.flatMap form ++ w₁ ∧ after = w₂ ++ as₂.flatMap form := by
  induction as generalizing before with
  | nil => exact absurd h.symm (List.append_ne_nil_of_right_ne_nil _ (List.cons_ne_nil _ _))
  | cons a as ih =>
    rw [List.flatMap_cons] at h
    rcases Text.append_eq_append_cons h with ⟨rest, hform, rfl⟩ | ⟨rest, rfl, hrest⟩
    · exact ⟨[], a, as, before, rest, rfl, hform, rfl, rfl⟩
    · obtain ⟨as₁, a', as₂, w₁, w₂, rfl, hform, rfl, rfl⟩ := ih hrest
      refine ⟨a :: as₁, a', as₂, w₁, w₂, rfl, hform, ?_, rfl⟩
      rw [List.flatMap_cons, List.append_assoc]

variable [Codecs] {coding : Coding} {cs : Charset} {t u : Text}

theorem encode_eq_ok_iff_form (hcs : Charset.ofName? coding.charset = some cs) :
    coding.encode t = .ok u ↔ (∀ c ∈ t, cs.has c) ∧ u = t.flatMap (coding.form cs) := by
  rw [encode_eq_ok_iff hcs, List.flatMap_assoc]
  rfl

/-- Of all characters, few are written. -/
theorem spelled_of_encode (h : coding.encode t = .ok u) :
    Uri.Spelled ['_', '.', '-', '~', '%', '+'] u := by
  intro c hc
  obtain ⟨b, hb⟩ := exists_writeOctet_of_encode h hc
  rcases mem_writeOctet hb with rfl | ⟨-, rfl⟩ | ⟨b', hu, rfl⟩
  · exact Or.inr (Or.inr (by decide))
  · exact Or.inr (Or.inr (by decide))
  · rcases Percent.ofByte_of_isUnreserved hu with hl | hd | hm
    · exact Or.inl hl
    · exact Or.inr (Or.inl hd)
    · exact Or.inr (Or.inr (List.mem_append_left ['%', '+'] hm))

theorem isEscaped_of_encode (hcs : Charset.ofName? coding.charset = some cs)
    (h : coding.encode t = .ok u) : Percent.IsEscaped u := by
  obtain ⟨-, rfl⟩ := (encode_eq_ok_iff hcs).1 h
  exact isEscaped_flatMap_writeOctet coding _

/-- A plus sign stands in the place of a space. -/
theorem space_of_encode (hcs : Charset.ofName? coding.charset = some cs) {before after : Text}
    (h : coding.encode t = .ok (before ++ '+' :: after)) :
    coding.plusAsSpace ∧ ∃ t₁ t₂, t = t₁ ++ ' ' :: t₂ ∧ coding.encode t₁ = .ok before ∧
      coding.encode t₂ = .ok after := by
  obtain ⟨ht, hu⟩ := (encode_eq_ok_iff_form hcs).1 h
  obtain ⟨t₁, c, t₂, w₁, w₂, rfl, hform, rfl, rfl⟩ := exists_of_flatMap_eq hu.symm
  have hplus : '+' ∈ coding.form cs c := hform ▸ List.mem_append_right _ List.mem_cons_self
  obtain ⟨hcoding, rfl, hspace⟩ := eq_space_of_plus_mem_form hplus
  -- The form of the space is the plus sign alone.
  obtain ⟨rfl, rfl⟩ : w₁ = [] ∧ w₂ = [] := by
    rcases List.cons_eq_append_iff.1 (hspace.symm.trans hform) with ⟨hw₁, hw₂⟩ | ⟨w, -, hw⟩
    · exact ⟨hw₁, (List.cons.inj hw₂).2⟩
    · exact absurd hw.symm (List.append_ne_nil_of_right_ne_nil _ (List.cons_ne_nil _ _))
  rw [List.forall_mem_append, List.forall_mem_cons] at ht
  refine ⟨hcoding, t₁, t₂, rfl, ?_, ?_⟩
  · rw [List.append_nil]
    exact (encode_eq_ok_iff_form hcs).2 ⟨ht.1, rfl⟩
  · exact (encode_eq_ok_iff_form hcs).2 ⟨ht.2.2, rfl⟩

end Coding

end QueryString
