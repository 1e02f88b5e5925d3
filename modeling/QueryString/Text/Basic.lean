/-!
# Texts and how they are cut

A text is a list of code points. This module holds the cuts and joins at a single character on
which the whole query syntax rests.

* `split` and `join` are inverse where they can be: joining the pieces gives the text back
  (`join_split`), and no piece holds the separator (`not_mem_of_mem_split`).
* `split` turns concatenation around a separator into concatenation of the pieces
  (`split_append`).
* `cut` divides at the first separator only (`cut_append`, `cut_of_not_mem`).
-/

namespace QueryString

/-- A text is the list of its code points, so that every position counts code points. -/
abbrev Text := List Char

/-- Octets in the order in which they are sent. -/
abbrev Bytes := List UInt8

namespace Text

/-- Tells whether a character is one of the first 128. -/
def isAscii (c : Char) : Bool := c.toNat < 128

/-- The character that an octet names when octets are read as the first 256 code points. -/
def ofByte (b : UInt8) : Char := Char.ofNat b.toNat

/-- An octet keeps its number as a character. -/
@[simp] theorem toNat_ofByte (b : UInt8) : (ofByte b).toNat = b.toNat := by
  have hlt := b.toNat_lt
  have hvalid : b.toNat.isValidChar := Or.inl (by omega)
  have h : ofByte b = Char.ofNatAux b.toNat hvalid := dif_pos hvalid
  rw [h]
  rfl

/-! ## Splitting at every separator -/

/-- The pieces between the separators, in order. A text without a separator is one piece, so there
is always at least one. -/
def split (sep : Char) : Text → List Text
  | [] => [[]]
  | c :: rest =>
    if c = sep then [] :: split sep rest
    else
      match split sep rest with
      | [] => [[c]]
      | piece :: pieces => (c :: piece) :: pieces

/-- The pieces one after the other, with the separator between neighbours. -/
def join (sep : Char) : List Text → Text
  | [] => []
  | [piece] => piece
  | piece :: next :: pieces => piece ++ sep :: join sep (next :: pieces)

@[simp] theorem split_nil (sep : Char) : split sep [] = [[]] := rfl

@[simp] theorem split_cons_self (sep : Char) (rest : Text) :
    split sep (sep :: rest) = [] :: split sep rest := by
  simp [split]

theorem split_ne_nil (sep : Char) (t : Text) : split sep t ≠ [] := by
  cases t with
  | nil => simp
  | cons c rest =>
    rw [split]
    split
    · simp
    · split <;> simp

/-- A character that does not separate goes to the front of the first piece. -/
theorem split_cons_of_ne {sep c : Char} (h : c ≠ sep) (rest : Text) :
    ∃ piece pieces, split sep rest = piece :: pieces ∧
      split sep (c :: rest) = (c :: piece) :: pieces := by
  cases hs : split sep rest with
  | nil => exact absurd hs (split_ne_nil sep rest)
  | cons piece pieces => exact ⟨piece, pieces, rfl, by simp [split, h, hs]⟩

/-- A text without the separator is its own only piece. -/
theorem split_of_not_mem {sep : Char} {t : Text} (h : sep ∉ t) : split sep t = [t] := by
  induction t with
  | nil => rfl
  | cons c rest ih =>
    simp only [List.mem_cons, not_or] at h
    simp [split, Ne.symm h.1, ih h.2]

/-- No piece holds the separator. -/
theorem not_mem_of_mem_split {sep : Char} {t piece : Text} (h : piece ∈ split sep t) :
    sep ∉ piece := by
  induction t generalizing piece with
  | nil => simp_all
  | cons c rest ih =>
    by_cases hc : c = sep
    · subst hc
      rw [split_cons_self] at h
      rcases List.mem_cons.1 h with rfl | h
      · simp
      · exact ih h
    · obtain ⟨first, pieces, hr, hs⟩ := split_cons_of_ne hc rest
      rw [hs] at h
      rcases List.mem_cons.1 h with rfl | h
      · have := ih (hr ▸ List.mem_cons_self)
        simp [Ne.symm hc, this]
      · exact ih (hr ▸ List.mem_cons_of_mem _ h)

/-- Joining the pieces gives the text back. -/
theorem join_split (sep : Char) (t : Text) : join sep (split sep t) = t := by
  induction t with
  | nil => rfl
  | cons c rest ih =>
    by_cases hc : c = sep
    · subst hc
      rw [split_cons_self]
      cases hs : split c rest with
      | nil => exact absurd hs (split_ne_nil c rest)
      | cons piece pieces => rw [join, ← hs, ih]; rfl
    · obtain ⟨first, pieces, hr, hs⟩ := split_cons_of_ne hc rest
      rw [hs]
      rw [hr] at ih
      cases pieces with
      | nil => simpa [join] using ih
      | cons next pieces => simpa [join] using ih

/-- A separator between two texts parts their pieces. -/
theorem split_append (sep : Char) (a b : Text) :
    split sep (a ++ sep :: b) = split sep a ++ split sep b := by
  induction a with
  | nil => simp
  | cons c rest ih =>
    by_cases hc : c = sep
    · subst hc; simp [ih]
    · obtain ⟨piece, pieces, hr, hs⟩ := split_cons_of_ne hc rest
      rw [hs]
      rw [hr] at ih
      simp [split, hc, ih]

/-! ## Cutting at the first separator -/

/-- What stands before the first separator and what stands after it; without a separator, all
stands before. -/
def cut (sep : Char) (t : Text) : Text × Text :=
  (t.takeWhile (· != sep), (t.dropWhile (· != sep)).drop 1)

/-- What stands after the last separator; without one, everything. -/
def afterLast (sep : Char) (t : Text) : Text := (t.reverse.takeWhile (· != sep)).reverse

theorem cut_append {sep : Char} {a : Text} (h : sep ∉ a) (b : Text) :
    cut sep (a ++ sep :: b) = (a, b) := by
  have ha : ∀ c ∈ a, (c != sep) = true := by
    intro c hc
    have hne : c ≠ sep := fun he => h (he ▸ hc)
    simpa using hne
  simp [cut, List.takeWhile_append_of_pos ha, List.dropWhile_append_of_pos ha]

theorem cut_of_not_mem {sep : Char} {t : Text} (h : sep ∉ t) : cut sep t = (t, []) := by
  have ht : ∀ c ∈ t, (c != sep) = true := by
    intro c hc
    have hne : c ≠ sep := fun he => h (he ▸ hc)
    simpa using hne
  have htake := @List.takeWhile_append_of_pos _ _ t [] ht
  have hdrop := @List.dropWhile_append_of_pos _ _ t [] ht
  rw [List.append_nil] at htake hdrop
  rw [cut, htake, hdrop]
  simp

theorem not_mem_cut_fst (sep : Char) (t : Text) : sep ∉ (cut sep t).1 := by
  intro h
  simpa using List.all_eq_true.1 List.all_takeWhile sep h

/-! ## Replacing a character -/

/-- Every occurrence of one character becomes another. -/
def replace (old new : Char) (t : Text) : Text := t.map fun c => if c = old then new else c

theorem replace_of_not_mem {old : Char} {t : Text} (h : old ∉ t) (new : Char) :
    replace old new t = t := by
  induction t with
  | nil => rfl
  | cons c rest ih =>
    simp only [List.mem_cons, not_or] at h
    have := ih h.2
    simp_all [replace, Ne.symm h.1]

end Text

end QueryString
