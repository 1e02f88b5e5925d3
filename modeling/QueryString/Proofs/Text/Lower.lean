import QueryString.Proofs.Charset.Utf8
import QueryString.Proofs.Results
import QueryString.Text.Case.Lower

/-!
# What becomes ASCII in lower case

A text need not be ASCII for its lower-case form to be: the Kelvin sign becomes a small k. No other
character beyond ASCII comes down to one in ASCII (`lowerChar_cases`), and of the two characters
that have rules of their own, what is left is not ASCII altogether (`lowerBetween_cases`). So a word
in ASCII that has no k is the lower-case form of its own spellings in either letter case, and of no
other text (`lower_eq_iff`).
-/

namespace QueryString.Text

/-! ## Letter case in ASCII -/

/-- A letter from A to Z. -/
def IsCapital (c : Char) : Prop := 0x41 ≤ c.toNat ∧ c.toNat ≤ 0x5A

instance : DecidablePred IsCapital := fun _ => inferInstanceAs (Decidable (_ ∧ _))

/-- The characters are the same, or they are one letter from A to Z in its two cases. -/
inductive SameLetter : Char → Char → Prop where
  | refl (c : Char) : SameLetter c c
  | capital {c d : Char} (hc : IsCapital c) (h : d.toNat = c.toNat + 0x20) : SameLetter c d
  | small {c d : Char} (hd : IsCapital d) (h : c.toNat = d.toNat + 0x20) : SameLetter c d

/-- The texts have as many characters, and each is the same as its counterpart but for the case of
ASCII letters. -/
def SameSpelling (t w : Text) : Prop := List.Forall₂ SameLetter t w

theorem SameLetter.lt {c d : Char} (h : SameLetter c d) (hd : d.toNat < 0x80) :
    c.toNat < 0x80 := by
  cases h with
  | refl => exact hd
  | capital hc _ =>
    have hle := hc.2
    omega
  | small hd' h =>
    have hle := hd'.2
    omega

/-- A spelling of an ASCII text is ASCII. -/
theorem SameSpelling.lt {t w : Text} (h : SameSpelling t w) (hw : ∀ d ∈ w, d.toNat < 0x80)
    {c : Char} (hc : c ∈ t) : c.toNat < 0x80 := by
  obtain ⟨d, hd, hsame⟩ := exists_mem_of_forall₂ (List.Forall₂.flip h) hc
  exact hsame.lt (hw d hd)

/-! ## One character -/

namespace Case

/-- A run of the table is that of the letters from A to Z, or the Kelvin sign, or it lies beyond
ASCII and leads to characters beyond ASCII. -/
def Run.Separate (r : Run) : Prop :=
  r.first = 0x41 ∧ r.last = 0x5A ∧ r.shift = 0x20 ∨
    r.first = 0x212A ∧ r.last = 0x212A ∧ r.shift = 0x6B - 0x212A ∨
    0x80 ≤ r.first ∧ 0x80 ≤ r.first + r.shift ∧
      (r.last + r.shift < 0xD800 ∨ 0xDFFF < r.first + r.shift ∧ r.last + r.shift < 0x110000)

instance : DecidablePred Run.Separate := fun _ => inferInstanceAs (Decidable (_ ∨ _))

theorem separate_of_mem : ∀ r ∈ lowerRuns, r.Separate := by decide +kernel

theorem exists_run_of_isCapital : ∃ r ∈ lowerRuns, ∀ c, IsCapital c → r.contains c.toNat := by
  refine ⟨⟨0x41, 0x5A, 1, 32⟩, List.mem_cons_self, fun c hc => ?_⟩
  simp [Run.contains, hc.1, hc.2, Nat.mod_one]

end Case
open Case

/-- In lower case a letter from A to Z is its small letter, every other ASCII character is itself,
and what is beyond ASCII stays there, except for the Kelvin sign. -/
theorem lowerChar_cases (c : Char) :
    IsCapital c ∧ (lowerChar c).toNat = c.toNat + 0x20 ∨
      ¬ IsCapital c ∧ lowerChar c = c ∨
      0x80 ≤ c.toNat ∧ lowerChar c = 'k' ∨
      0x80 ≤ c.toNat ∧ 0x80 ≤ (lowerChar c).toNat := by
  unfold lowerChar
  cases hr : lowerRuns.find? (·.contains c.toNat) with
  | none =>
    refine Or.inr (Or.inl ⟨fun hc => ?_, rfl⟩)
    obtain ⟨r, hmem, hall⟩ := Case.exists_run_of_isCapital
    exact List.find?_eq_none.1 hr r hmem (hall c hc)
  | some r =>
    have hcontains := List.find?_some hr
    simp only [Run.contains, Bool.and_eq_true, decide_eq_true_eq] at hcontains
    obtain ⟨⟨hfirst, hlast⟩, _⟩ := hcontains
    rcases Case.separate_of_mem r (List.mem_of_find?_eq_some hr) with
      ⟨h1, h2, h3⟩ | ⟨h1, h2, h3⟩ | ⟨h1, h2, h3⟩
    · refine Or.inl ⟨⟨by omega, by omega⟩, ?_⟩
      show (Char.ofNat (c.toNat + r.shift).toNat).toNat = _
      rw [Utf8.toNat_ofNat_of_isValid (by omega)]
      omega
    · refine Or.inr (Or.inr (Or.inl ⟨by omega, ?_⟩))
      show Char.ofNat (c.toNat + r.shift).toNat = 'k'
      rw [show (c.toNat + r.shift).toNat = 0x6B by omega]
    · refine Or.inr (Or.inr (Or.inr ⟨by omega, ?_⟩))
      show 0x80 ≤ (Char.ofNat (c.toNat + r.shift).toNat).toNat
      rw [Utf8.toNat_ofNat_of_isValid (by omega)]
      omega

/-- An ASCII character that is no capital letter and no k: what becomes it in lower case is
ASCII. -/
def ComesFromAscii (d : Char) : Prop := d.toNat < 0x80 ∧ ¬ IsCapital d ∧ d ≠ 'k'

instance : DecidablePred ComesFromAscii := fun _ => inferInstanceAs (Decidable (_ ∧ _))

theorem lowerChar_eq_iff {c d : Char} (hd : ComesFromAscii d) :
    lowerChar c = d ↔ SameLetter c d := by
  obtain ⟨hascii, hsmall, hk⟩ := hd
  constructor
  · rintro rfl
    rcases lowerChar_cases c with ⟨hc, h⟩ | ⟨_, h⟩ | ⟨_, h⟩ | ⟨_, h⟩
    · exact .capital hc h
    · rw [h]
      exact .refl c
    · exact absurd h hk
    · omega
  · intro h
    have hlt := h.lt hascii
    cases h with
    | refl =>
      rcases lowerChar_cases c with ⟨hc, _⟩ | ⟨_, h⟩ | ⟨hle, _⟩ | ⟨hle, _⟩
      · exact absurd hc hsmall
      · exact h
      · omega
      · omega
    | capital hc h =>
      rcases lowerChar_cases c with ⟨_, hl⟩ | ⟨hno, _⟩ | ⟨hle, _⟩ | ⟨hle, _⟩
      · exact Char.toNat_inj.1 (hl.trans h.symm)
      · exact absurd hc hno
      · omega
      · omega
    | small hd' _ => exact absurd hd' hsmall

/-! ## Texts -/

/-- Wherever it stands, a character has the form that it has on its own, or it is beyond ASCII and
so is a part of its form. -/
theorem lowerBetween_cases (before : Text) (c : Char) (after : Text) :
    lowerBetween before c after = [lowerChar c] ∨
      0x80 ≤ c.toNat ∧ ∃ d ∈ lowerBetween before c after, 0x80 ≤ d.toNat := by
  unfold lowerBetween
  split
  · next hc =>
    subst hc
    exact Or.inr ⟨by decide, '\u0307', by decide, by decide⟩
  split
  · next hc =>
    subst hc
    refine Or.inr ⟨by decide, _, List.mem_singleton_self _, ?_⟩
    split <;> decide
  · exact Or.inl rfl

theorem lowerFrom_eq_iff {w : Text} (hw : ∀ d ∈ w, ComesFromAscii d) (before t : Text) :
    lowerFrom before t = w ↔ SameSpelling t w := by
  unfold SameSpelling
  induction t generalizing before w with
  | nil =>
    rw [List.forall₂_nil_left_iff]
    exact eq_comm
  | cons c rest ih =>
    rw [lowerFrom]
    rcases lowerBetween_cases before c rest with h | ⟨hc, d, hd, hle⟩
    · rw [h, List.singleton_append, List.forall₂_cons_left_iff]
      constructor
      · rintro rfl
        obtain ⟨hfirst, hrest⟩ := List.forall_mem_cons.1 hw
        exact ⟨_, _, (lowerChar_eq_iff hfirst).1 rfl, (ih hrest _).1 rfl, rfl⟩
      · rintro ⟨d, w', hsame, hall, rfl⟩
        obtain ⟨hfirst, hrest⟩ := List.forall_mem_cons.1 hw
        rw [(lowerChar_eq_iff hfirst).2 hsame, (ih hrest _).2 hall]
    · -- Neither side holds, since the word is ASCII.
      refine iff_of_false ?_ fun hall => ?_
      · rintro rfl
        have hlt := (hw d (List.mem_append_left _ hd)).1
        omega
      · have hlt := SameSpelling.lt hall (fun d hd => (hw d hd).1) List.mem_cons_self
        omega

/-- A text has a word for its lower-case form if and only if it is a spelling of the word, provided
that the word is in small ASCII letters other than k. -/
theorem lower_eq_iff {w : Text} (hw : ∀ d ∈ w, ComesFromAscii d) (t : Text) :
    lower t = w ↔ SameSpelling t w :=
  lowerFrom_eq_iff hw [] t

end QueryString.Text
