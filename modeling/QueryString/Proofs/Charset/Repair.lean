import QueryString.Charset.Utf8.Basic
import QueryString.Proofs.Results

/-!
# UTF-8 that is repaired

`repair` runs the machine that `decode` runs, and goes on where that one stops. `octet_cases` says
what one octet can do to both of them, and two statements follow by induction:

* Octets that are text are not changed (`repair_of_decode`).
* Octets that are no text leave a replacement character (`replacement_mem_repair`).

What is in between is never lost: an octet of ASCII breaks off the character before it, and is then
read as what it is (`ofByte_mem_repair`). For this the machine must not expect such an octet inside
a character, which `BeyondAscii` says of its states.
-/

namespace QueryString.Utf8

theorem repairFrom_cons (p : Option Begun) (b : UInt8) (rest : Bytes) :
    repairFrom p (b :: rest) = (repairStep p b).1 ++ repairFrom (repairStep p b).2 rest := by
  cases p <;> rfl

/-! ## What both readers make of octets -/

/-- An octet completes a character for both readers, or it goes on with one for both, or the strict
one stops and the other one writes a replacement. -/
theorem octet_cases (p : Option Begun) (b : UInt8) :
    (∃ c, repairStep p b = ([c], none) ∧
      ∀ rest, decodeFrom p (b :: rest) = (decodeFrom none rest).map (c :: ·)) ∨
    (∃ q, repairStep p b = ([], some q) ∧
      ∀ rest, decodeFrom p (b :: rest) = decodeFrom (some q) rest) ∨
    ∃ fault, replacement ∈ (repairStep p b).1 ∧
      ∀ rest, decodeFrom p (b :: rest) = .error fault := by
  cases p with
  | none =>
    unfold repairStep repairStart
    simp only [decodeFrom]
    cases start b with
    | complete c => exact Or.inl ⟨c, rfl, fun _ => rfl⟩
    | more q => exact Or.inr (Or.inl ⟨q, rfl, fun _ => rfl⟩)
    | refused => exact Or.inr (Or.inr ⟨_, List.mem_singleton_self _, fun _ => rfl⟩)
  | some p =>
    unfold repairStep
    simp only [decodeFrom]
    cases p.next b with
    | complete c => exact Or.inl ⟨c, rfl, fun _ => rfl⟩
    | more q => exact Or.inr (Or.inl ⟨q, rfl, fun _ => rfl⟩)
    | refused => exact Or.inr (Or.inr ⟨_, List.mem_cons_self, fun _ => rfl⟩)

theorem repairFrom_of_decodeFrom {p : Option Begun} {bs : Bytes} {t : Text}
    (h : decodeFrom p bs = .ok t) : repairFrom p bs = t := by
  induction bs generalizing p t with
  | nil =>
    cases p with
    | none => exact Except.ok.inj h
    | some p => cases h
  | cons b bs ih =>
    rw [repairFrom_cons]
    rcases octet_cases p b with ⟨c, hstep, hdecode⟩ | ⟨q, hstep, hdecode⟩ | ⟨fault, _, hdecode⟩
    · rw [hdecode] at h
      obtain ⟨t', ht', rfl⟩ := map_eq_ok_iff.1 h
      rw [hstep, ih ht']
      rfl
    · rw [hdecode] at h
      rw [hstep, ih h]
      rfl
    · rw [hdecode] at h
      cases h

theorem replacement_mem_repairFrom {p : Option Begun} {bs : Bytes} {fault : ByteFault}
    (h : decodeFrom p bs = .error fault) : replacement ∈ repairFrom p bs := by
  induction bs generalizing p with
  | nil =>
    cases p with
    | none => cases h
    | some p => exact List.mem_singleton_self _
  | cons b bs ih =>
    rw [repairFrom_cons, List.mem_append]
    rcases octet_cases p b with ⟨c, hstep, hdecode⟩ | ⟨q, hstep, hdecode⟩ | ⟨_, hmem, _⟩
    · rw [hdecode, map_eq_error_iff] at h
      rw [hstep]
      exact Or.inr (ih h)
    · rw [hdecode] at h
      rw [hstep]
      exact Or.inr (ih h)
    · exact Or.inl hmem

/-- Octets that are read as a text are repaired to that text. -/
theorem repair_of_decode {bs : Bytes} {t : Text} (h : decode bs = .ok t) : repair bs = t :=
  repairFrom_of_decodeFrom h

/-- Octets that are no text leave a replacement character. -/
theorem replacement_mem_repair {bs : Bytes} {fault : ByteFault} (h : decode bs = .error fault) :
    replacement ∈ repair bs :=
  replacement_mem_repairFrom h

/-! ## What is not lost -/

/-- The character does not go on with an octet of ASCII. -/
def Begun.BeyondAscii (p : Begun) : Prop := 0x80 ≤ p.low

theorem beyondAscii_of_start {b : UInt8} {p : Begun} (h : start b = .more p) : p.BeyondAscii := by
  unfold start at h
  simp only [] at h
  unfold Begun.BeyondAscii
  split at h
  · cases h
  split at h
  · cases h
  -- Two, three or four octets: the least second octet is given with the first one.
  split at h
  · obtain rfl := Outcome.more.inj h
    exact Nat.le_refl 0x80
  split at h
  · obtain rfl := Outcome.more.inj h
    dsimp only
    split <;> omega
  split at h
  · obtain rfl := Outcome.more.inj h
    dsimp only
    split <;> omega
  · cases h

theorem Begun.beyondAscii_of_next {p q : Begun} {b : UInt8} (h : p.next b = .more q) :
    q.BeyondAscii := by
  unfold Begun.next at h
  unfold Begun.BeyondAscii
  split at h
  · simp only [] at h
    split at h
    · cases h
    · obtain rfl := Outcome.more.inj h
      exact Nat.le_refl 0x80
  · cases h

theorem start_of_ascii {b : UInt8} (h : b.toNat < 0x80) : start b = .complete (Text.ofByte b) :=
  if_pos h

theorem Begun.BeyondAscii.next_of_ascii {p : Begun} (hp : p.BeyondAscii) {b : UInt8}
    (h : b.toNat < 0x80) : p.next b = .refused := by
  unfold Begun.BeyondAscii at hp
  exact if_neg (by omega)

/-- An octet of ASCII is written as its character, whatever had begun before it. -/
theorem ofByte_mem_repairStep {p : Option Begun} (hp : ∀ q ∈ p, q.BeyondAscii) {b : UInt8}
    (h : b.toNat < 0x80) : Text.ofByte b ∈ (repairStep p b).1 := by
  have hstart : Text.ofByte b ∈ (repairStart b).1 := by
    unfold repairStart
    rw [start_of_ascii h]
    exact List.mem_singleton_self _
  cases p with
  | none => exact hstart
  | some p =>
    rw [repairStep, (hp p rfl).next_of_ascii h]
    exact List.mem_cons_of_mem _ hstart

/-- No octet leads to a state that expects an octet of ASCII. -/
theorem beyondAscii_repairStep (p : Option Begun) (b : UInt8) :
    ∀ q ∈ (repairStep p b).2, q.BeyondAscii := by
  have hstart : ∀ q ∈ (repairStart b).2, q.BeyondAscii := by
    unfold repairStart
    cases h : start b with
    | more p => simpa using beyondAscii_of_start h
    | complete | refused => simp
  cases p with
  | none => exact hstart
  | some p =>
    rw [repairStep]
    cases h : p.next b with
    | complete c => simp
    | more q => simpa using Begun.beyondAscii_of_next h
    | refused => exact hstart

theorem ofByte_mem_repairFrom {p : Option Begun} (hp : ∀ q ∈ p, q.BeyondAscii) {bs : Bytes}
    {b : UInt8} (hb : b.toNat < 0x80) (h : b ∈ bs) : Text.ofByte b ∈ repairFrom p bs := by
  induction bs generalizing p with
  | nil => exact absurd h List.not_mem_nil
  | cons b' bs ih =>
    rw [repairFrom_cons, List.mem_append]
    rcases List.mem_cons.1 h with rfl | h
    · exact Or.inl (ofByte_mem_repairStep hp hb)
    · exact Or.inr (ih (beyondAscii_repairStep p b') h)

/-- Every octet of ASCII is in the repaired text, as its character. -/
theorem ofByte_mem_repair {bs : Bytes} {b : UInt8} (hb : b.toNat < 0x80) (h : b ∈ bs) :
    Text.ofByte b ∈ repair bs :=
  ofByte_mem_repairFrom (by simp) hb h

example : repair [0xE2, 0x82, 0x25, 0xFF] = [replacement, '%', replacement] := by decide

end QueryString.Utf8
