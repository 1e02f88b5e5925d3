import Mathlib.Algebra.Group.Nat.Defs
import QueryString.Charset.Utf8.RoundTrip
import QueryString.Text.Decimal
import QueryString.Text.Quoted

/-!
# What a quoted text shows

Every character of a quoted text is printable, so it stands on one line whatever text it shows
(`isPrintable_of_mem_quoted`). If the text is ASCII, so is the quoted one, and nothing but the
characters from the space to the tilde is in it (`isVisible_of_mem_quoted`).

No text is lost in quotation marks. The form of a character is read back in front of whatever
follows (`readChar_quoteChar`), and none begins with the mark that ends the text. So a quoted text
shows where it ends, and it shows which text it is (`prefixFree_quoted`).
-/

namespace QueryString

/-! ## Hexadecimal digits -/

namespace Hex

/-- The number that hexadecimal digits write, the highest first. -/
def number (digits : Text) : Nat :=
  digits.foldl (fun n c => 16 * n + (value? c).getD 0) 0

/-- A number that has no more digits than are written reads back. -/
theorem number_padded {width n : Nat} (h : n < 16 ^ width) : number (padded width n) = n := by
  induction width generalizing n with
  | zero =>
    obtain rfl : n = 0 := by simpa using h
    rfl
  | succ width ih =>
    have hn : n / 16 < 16 ^ width := by
      rw [Nat.pow_succ] at h
      omega
    have hlow := value?_digit (show n % 16 < 16 by omega)
    have hhigh := ih hn
    unfold number at hhigh ⊢
    rw [padded, List.foldl_append, hhigh, List.foldl_cons, List.foldl_nil, hlow, Option.getD_some]
    omega

theorem exists_digit_of_mem_padded {width n : Nat} {c : Char} (h : c ∈ padded width n) :
    ∃ m < 16, c = digit m := by
  induction width generalizing n with
  | zero => exact absurd h List.not_mem_nil
  | succ width ih =>
    rw [padded, List.mem_append, List.mem_singleton] at h
    rcases h with h | rfl
    · exact ih h
    · exact ⟨n % 16, by omega, rfl⟩

end Hex

namespace Text

/-! ## Characters that show -/

/-- The character is one from the space to the tilde. -/
def IsVisible (c : Char) : Prop := 0x20 ≤ c.toNat ∧ c.toNat ≤ 0x7E

instance : DecidablePred IsVisible := fun _ => inferInstanceAs (Decidable (_ ∧ _))

theorem IsVisible.isAscii {c : Char} (h : IsVisible c) : isAscii c := by
  have hle := h.2
  simp only [Text.isAscii, decide_eq_true_eq]
  omega

theorem IsVisible.isPrintable {c : Char} (h : IsVisible c) : isPrintable c :=
  (isPrintable_iff_of_isAscii h.isAscii).2 h

theorem isVisible_of_mem_padded {width n : Nat} {c : Char} (h : c ∈ Hex.padded width n) :
    IsVisible c := by
  obtain ⟨m, hm, rfl⟩ := Hex.exists_digit_of_mem_padded h
  have hall : ∀ m ∈ List.range 16, IsVisible (Hex.digit m) := by decide
  exact hall m (List.mem_range.2 hm)

theorem isVisible_of_mem_ofNat {n : Nat} {c : Char} (h : c ∈ Decimal.ofNat n) : IsVisible c := by
  have hdigit := Decimal.isDigit_iff.1 (Decimal.isDigit_of_mem_ofNat h)
  exact ⟨by omega, by omega⟩

/-! ## What stands between the marks -/

/-- What a backslash introduces is visible if all of it is. -/
theorem isVisible_of_mem_escape {e d : Char} {t : Text} (he : IsVisible e)
    (ht : ∀ c ∈ t, IsVisible c) (h : d ∈ '\\' :: e :: t) : IsVisible d := by
  rcases List.mem_cons.1 h with rfl | h
  · decide
  rcases List.mem_cons.1 h with rfl | h
  · exact he
  · exact ht d h

theorem isVisible_of_mem_escapeCode {c d : Char} (h : d ∈ escapeCode c) : IsVisible d := by
  unfold escapeCode at h
  split at h
  · exact isVisible_of_mem_escape (by decide) (fun _ => isVisible_of_mem_padded) h
  split at h
  · exact isVisible_of_mem_escape (by decide) (fun _ => isVisible_of_mem_padded) h
  · exact isVisible_of_mem_escape (by decide) (fun _ => isVisible_of_mem_padded) h

/-- A character stands as itself only if it is printable; all else is visible ASCII. -/
theorem mem_quoteChar {mark c d : Char} (hmark : IsVisible mark) (h : d ∈ quoteChar mark c) :
    IsVisible d ∨ d = c ∧ isPrintable c := by
  have hpair : ∀ {e : Char}, IsVisible e → d ∈ ['\\', e] → IsVisible d :=
    fun he => isVisible_of_mem_escape he (List.forall_mem_nil _)
  unfold quoteChar at h
  split at h
  · next hc =>
    rcases hc with rfl | rfl
    · exact Or.inl (hpair hmark h)
    · exact Or.inl (hpair (by decide) h)
  split at h
  · exact Or.inl (hpair (by decide) h)
  split at h
  · exact Or.inl (hpair (by decide) h)
  split at h
  · exact Or.inl (hpair (by decide) h)
  split at h
  · next hp => exact Or.inr ⟨List.mem_singleton.1 h, hp⟩
  · exact Or.inl (isVisible_of_mem_escapeCode h)

theorem isVisible_quoteMark (t : Text) : IsVisible (quoteMark t) := by
  rcases quoteMark_eq_or t with h | h <;> rw [h] <;> decide

theorem mem_quoted {t : Text} {d : Char} (h : d ∈ quoted t) :
    IsVisible d ∨ d ∈ t ∧ isPrintable d := by
  unfold quoted at h
  rcases List.mem_cons.1 h with rfl | h
  · exact Or.inl (isVisible_quoteMark t)
  rcases List.mem_append.1 h with h | h
  · obtain ⟨c, hc, hd⟩ := List.mem_flatMap.1 h
    rcases mem_quoteChar (isVisible_quoteMark t) hd with hv | ⟨rfl, hp⟩
    · exact Or.inl hv
    · exact Or.inr ⟨hc, hp⟩
  · rw [List.mem_singleton.1 h]
    exact Or.inl (isVisible_quoteMark t)

/-- A quoted text is printable, whatever the text. -/
theorem isPrintable_of_mem_quoted {t : Text} {d : Char} (h : d ∈ quoted t) : isPrintable d := by
  rcases mem_quoted h with hv | ⟨_, hp⟩
  · exact hv.isPrintable
  · exact hp

/-- A quoted text of ASCII characters is visible. -/
theorem isVisible_of_mem_quoted {t : Text} (ht : ∀ c ∈ t, isAscii c) {d : Char}
    (h : d ∈ quoted t) : IsVisible d := by
  rcases mem_quoted h with hv | ⟨hd, hp⟩
  · exact hv
  · exact (isPrintable_iff_of_isAscii (ht d hd)).1 hp

/-! ## Forms that show where they end -/

/-- What was written, and what follows it, can be told from the two together. -/
def PrefixFree {α : Type} (write : α → Text) : Prop :=
  ∀ ⦃a b : α⦄ ⦃x y : Text⦄, write a ++ x = write b ++ y → a = b ∧ x = y

/-- What is read back in front of whatever follows shows where it ends. -/
theorem prefixFree_of_read {α : Type} {write : α → Text} {read : Text → Option (α × Text)}
    (h : ∀ a rest, read (write a ++ rest) = some (a, rest)) : PrefixFree write := by
  intro a b x y heq
  have hread := h a x
  rw [heq, h b y] at hread
  obtain ⟨rfl, rfl⟩ := Prod.mk.inj (Option.some.inj hread)
  exact ⟨rfl, rfl⟩

/-! ## Reading a character -/

/-- The character of a code of so many digits, and what follows the digits. -/
def readCode (width : Nat) (t : Text) : Char × Text :=
  (Char.ofNat (Hex.number (t.take width)), t.drop width)

/-- The character that a backslash and a letter or mark introduce, and what follows it. -/
def readEscape (c : Char) (rest : Text) : Char × Text :=
  match c with
  | 'n' => ('\n', rest)
  | 'r' => ('\r', rest)
  | 't' => ('\t', rest)
  | 'x' => readCode 2 rest
  | 'u' => readCode 4 rest
  | 'U' => readCode 8 rest
  | c => (c, rest)

/-- The character whose form stands at the front, and what follows it. -/
def readChar : Text → Option (Char × Text)
  | [] => none
  | '\\' :: c :: rest => some (readEscape c rest)
  | c :: rest => some (c, rest)

theorem readCode_padded {width : Nat} {c : Char} (h : c.toNat < 16 ^ width) (rest : Text) :
    readCode width (Hex.padded width c.toNat ++ rest) = (c, rest) := by
  have hlen := Hex.length_padded width c.toNat
  rw [readCode, List.take_left' hlen, List.drop_left' hlen, Hex.number_padded h, Char.ofNat_toNat]

theorem readChar_escapeCode (c : Char) (rest : Text) :
    readChar (escapeCode c ++ rest) = some (c, rest) := by
  have hvalid := Utf8.isValid_toNat c
  unfold escapeCode
  split
  · exact congrArg some (readCode_padded (by omega) rest)
  split
  · exact congrArg some (readCode_padded (by omega) rest)
  · exact congrArg some (readCode_padded (by omega) rest)

/-- The form of a character is read back, whatever follows it. -/
theorem readChar_quoteChar {mark : Char} (hmark : mark = '\'' ∨ mark = '"') (c : Char)
    (rest : Text) : readChar (quoteChar mark c ++ rest) = some (c, rest) := by
  unfold quoteChar
  split
  · next h =>
    rcases h with rfl | rfl
    · rcases hmark with rfl | rfl <;> rfl
    · rfl
  next hne =>
  split
  · next h => rw [h]; rfl
  split
  · next h => rw [h]; rfl
  split
  · next h => rw [h]; rfl
  split
  · rw [List.singleton_append, readChar]
    rintro _ _ rfl
    exact fun _ => hne (Or.inr rfl)
  · exact readChar_escapeCode c rest

/-- No form of a character begins with the mark that ends the text. -/
theorem quoteChar_append_ne {mark : Char} (hmark : mark = '\'' ∨ mark = '"') (c : Char)
    (rest tail : Text) : quoteChar mark c ++ rest ≠ mark :: tail := by
  have hslash : mark ≠ '\\' := by
    rcases hmark with rfl | rfl <;> decide
  have hescape : ∀ t : Text, '\\' :: t ≠ mark :: tail :=
    fun t he => hslash (List.cons.inj he).1.symm
  unfold quoteChar
  split
  · exact hescape _
  next hne =>
  split
  · exact hescape _
  split
  · exact hescape _
  split
  · exact hescape _
  split
  · exact fun he => hne (Or.inl (List.cons.inj he).1)
  unfold escapeCode
  split
  · exact hescape _
  split
  · exact hescape _
  · exact hescape _

/-! ## Reading a text -/

/-- The first mark after the forms of some characters is the one that ends the text. -/
theorem eq_of_flatMap_quoteChar {mark : Char} (hmark : mark = '\'' ∨ mark = '"') {s t x y : Text}
    (h : s.flatMap (quoteChar mark) ++ mark :: x = t.flatMap (quoteChar mark) ++ mark :: y) :
    s = t ∧ x = y := by
  have hfree : PrefixFree (quoteChar mark) := prefixFree_of_read (readChar_quoteChar hmark)
  induction s generalizing t with
  | nil =>
    cases t with
    | nil => exact ⟨rfl, (List.cons.inj h).2⟩
    | cons d t =>
      rw [List.flatMap_cons, List.append_assoc] at h
      exact absurd h.symm (quoteChar_append_ne hmark d _ x)
  | cons c s ih =>
    rw [List.flatMap_cons, List.append_assoc] at h
    cases t with
    | nil => exact absurd h (quoteChar_append_ne hmark c _ y)
    | cons d t =>
      rw [List.flatMap_cons, List.append_assoc] at h
      obtain ⟨rfl, hrest⟩ := hfree h
      obtain ⟨rfl, rfl⟩ := ih hrest
      exact ⟨rfl, rfl⟩

/-- A quoted text shows where it ends and which text it is. -/
theorem prefixFree_quoted : PrefixFree quoted := by
  intro s t x y h
  unfold quoted at h
  rw [List.cons_append, List.cons_append, List.append_assoc, List.append_assoc] at h
  -- The two texts are in the same marks, since they begin with them.
  obtain ⟨hmark, h⟩ := List.cons.inj h
  rw [hmark] at h
  exact eq_of_flatMap_quoteChar (quoteMark_eq_or t) h

end Text

end QueryString
