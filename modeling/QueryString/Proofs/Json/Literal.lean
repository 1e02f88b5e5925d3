import QueryString.Json
import QueryString.Proofs.Charset.Utf16
import QueryString.Proofs.Text.Quoted

/-!
# Texts in JSON

A text in JSON is read as 16-bit units: an escape is one unit, and a character that stands for
itself is the unit of its code, or the two halves of its surrogate pair. Only when the quotation
mark at the end has been found are the units put together to characters, each pair of halves to one
(`ofUnits`).

What is written is read back in front of whatever follows (`exists_readText_writeText`), and it is
visible throughout (`isVisible_of_mem_writeText`). Both hold of a character first: its form is read
as its units (`readUnits_escapeChar_append`), and its units are put together to it
(`ofUnits_units_append`).
-/

namespace QueryString.Json

open Text (IsVisible)
open Utf16 (units lt_of_mem_units)

/-! ## Units -/

/-- The text of 16-bit units. There is none if one half of a surrogate pair is without the other. -/
def ofUnits : List Nat → Option Text
  | [] => some []
  | u :: rest =>
    if u < 0xD800 ∨ 0xDFFF < u then (ofUnits rest).map (Char.ofNat u :: ·)
    else
      match rest with
      | [] => none
      | v :: rest =>
        if u < 0xDC00 ∧ 0xDC00 ≤ v ∧ v ≤ 0xDFFF then
          (ofUnits rest).map (Char.ofNat (0x10000 + 0x400 * (u - 0xD800) + (v - 0xDC00)) :: ·)
        else none

/-- A unit that is no half of a pair is a character. -/
theorem ofUnits_cons {u : Nat} (h : u < 0xD800 ∨ 0xDFFF < u) (rest : List Nat) :
    ofUnits (u :: rest) = (ofUnits rest).map (Char.ofNat u :: ·) := by
  cases rest <;> simp only [ofUnits, if_pos h]

theorem ofUnits_pair {u v : Nat} (hu : 0xD800 ≤ u ∧ u < 0xDC00) (hv : 0xDC00 ≤ v ∧ v ≤ 0xDFFF)
    (rest : List Nat) :
    ofUnits (u :: v :: rest) = (ofUnits rest).map
      (Char.ofNat (0x10000 + 0x400 * (u - 0xD800) + (v - 0xDC00)) :: ·) := by
  rw [ofUnits, if_neg (by omega), if_pos ⟨hu.2, hv⟩]

theorem ofUnits_units_append (c : Char) (rest : List Nat) :
    ofUnits (units c ++ rest) = (ofUnits rest).map (c :: ·) := by
  have hvalid := Utf8.isValid_toNat c
  unfold units
  split
  · rw [List.singleton_append, ofUnits_cons (by omega), Char.ofNat_toNat]
  · rw [List.cons_append, List.singleton_append, ofUnits_pair (by omega) (by omega),
      show 0x10000 + 0x400 * (0xD800 + (c.toNat - 0x10000) / 0x400 - 0xD800)
        + (0xDC00 + (c.toNat - 0x10000) % 0x400 - 0xDC00) = c.toNat by omega, Char.ofNat_toNat]

/-- The units of a text are put together to the text. -/
theorem ofUnits_flatMap_units (t : Text) : ofUnits (t.flatMap units) = some t := by
  induction t with
  | nil => rfl
  | cons c t ih => rw [List.flatMap_cons, ofUnits_units_append, ih, Option.map_some]

/-! ## Reading -/

/-- The character that a backslash and a letter or mark stand for. -/
def shortEscape? (c : Char) : Option Char :=
  match c with
  | '"' => some '"'
  | '\\' => some '\\'
  | '/' => some '/'
  | 'b' => some '\x08'
  | 'f' => some '\x0C'
  | 'n' => some '\n'
  | 'r' => some '\r'
  | 't' => some '\t'
  | _ => none

/-- The units in front of what is read. -/
def prepend (us : List Nat) (read : Option (List Nat × Text)) : Option (List Nat × Text) :=
  read.map fun p => (us ++ p.1, p.2)

/-- The units up to the quotation mark that ends them, and what follows it. -/
def readUnits : Text → Option (List Nat × Text)
  | [] => none
  | '"' :: rest => some ([], rest)
  | '\\' :: 'u' :: a :: b :: c :: d :: rest =>
    if [a, b, c, d].all Hex.isDigit then prepend [Hex.number [a, b, c, d]] (readUnits rest)
    else none
  | '\\' :: c :: rest =>
    match shortEscape? c with
    | some e => prepend (units e) (readUnits rest)
    | none => none
  | c :: rest => if c.toNat < 0x20 then none else prepend (units c) (readUnits rest)

/-- The text up to the quotation mark that ends it, and what follows it. -/
def readText (t : Text) : Option (Text × Text) :=
  match readUnits t with
  | none => none
  | some (us, rest) => (ofUnits us).map fun t => (t, rest)

theorem isDigit_of_mem_padded {width n : Nat} {c : Char} (h : c ∈ Hex.padded width n) :
    Hex.isDigit c := by
  obtain ⟨m, hm, rfl⟩ := Hex.exists_digit_of_mem_padded h
  rw [Hex.isDigit, Hex.value?_digit hm]
  rfl

theorem readUnits_escapeUnit_append {n : Nat} (h : n < 0x10000) (rest : Text) :
    readUnits (escapeUnit n ++ rest) = prepend [n] (readUnits rest) := by
  have hnumber : Hex.number (Hex.padded 4 n) = n := Hex.number_padded h
  have hdigits : (Hex.padded 4 n).all Hex.isDigit :=
    List.all_eq_true.2 fun c => isDigit_of_mem_padded
  obtain ⟨a, b, c, d, hpadded⟩ : ∃ a b c d, Hex.padded 4 n = [a, b, c, d] := ⟨_, _, _, _, rfl⟩
  rw [hpadded] at hnumber hdigits
  unfold escapeUnit
  rw [hpadded]
  show readUnits ('\\' :: 'u' :: a :: b :: c :: d :: rest) = _
  rw [readUnits, if_pos hdigits, hnumber]

theorem prepend_nil (read : Option (List Nat × Text)) : prepend [] read = read := by
  cases read <;> rfl

theorem prepend_append (us vs : List Nat) (read : Option (List Nat × Text)) :
    prepend (us ++ vs) read = prepend us (prepend vs read) := by
  cases read with
  | none => rfl
  | some p => simp [prepend]

theorem readUnits_flatMap_escapeUnit {us : List Nat} (h : ∀ n ∈ us, n < 0x10000) (rest : Text) :
    readUnits (us.flatMap escapeUnit ++ rest) = prepend us (readUnits rest) := by
  induction us with
  | nil => rw [List.flatMap_nil, List.nil_append, prepend_nil]
  | cons n us ih =>
    rw [List.forall_mem_cons] at h
    rw [List.flatMap_cons, List.append_assoc, readUnits_escapeUnit_append h.1, ih h.2,
      ← prepend_append, List.singleton_append]

theorem readUnits_escapeChar_append (c : Char) (rest : Text) :
    readUnits (escapeChar c ++ rest) = prepend (units c) (readUnits rest) := by
  unfold escapeChar
  split
  · next h => rcases h with rfl | rfl <;> rfl
  next hmark =>
  split
  · next h => rw [h]; rfl
  split
  · next h => rw [h]; rfl
  split
  · next h => rw [h]; rfl
  split
  · next h => rw [h]; rfl
  split
  · next h => rw [h]; rfl
  split
  · next h =>
    have hquote : c ≠ '"' := fun hc => hmark (Or.inl hc)
    have hslash : c ≠ '\\' := fun hc => hmark (Or.inr hc)
    rw [List.singleton_append, readUnits, if_neg (by omega)]
    · exact hquote
    · exact fun _ _ _ _ _ hc _ => hslash hc
    · exact fun _ _ hc _ => hslash hc
  exact readUnits_flatMap_escapeUnit (fun _ => lt_of_mem_units) rest

theorem readUnits_flatMap_escapeChar (t rest : Text) :
    readUnits (t.flatMap escapeChar ++ '"' :: rest) = some (t.flatMap units, rest) := by
  induction t with
  | nil => rfl
  | cons c t ih =>
    rw [List.flatMap_cons, List.append_assoc, readUnits_escapeChar_append, ih]
    rfl

/-- A text that is written is read back behind the mark that begins it. -/
theorem exists_readText_writeText (t rest : Text) :
    ∃ body, writeText t ++ rest = '"' :: body ∧ readText body = some (t, rest) := by
  refine ⟨t.flatMap escapeChar ++ '"' :: rest, ?_, ?_⟩
  · rw [writeText, List.cons_append, List.append_assoc, List.singleton_append]
  · rw [readText, readUnits_flatMap_escapeChar]
    simp only [ofUnits_flatMap_units, Option.map_some]

/-! ## Characters that show -/

theorem isVisible_of_mem_escapeUnit {n : Nat} {d : Char} (h : d ∈ escapeUnit n) : IsVisible d :=
  Text.isVisible_of_mem_escape (by decide) (fun _ => Text.isVisible_of_mem_padded) h

/-- Whatever the character is, its form is visible. -/
theorem isVisible_of_mem_escapeChar {c d : Char} (h : d ∈ escapeChar c) : IsVisible d := by
  have hpair : ∀ {e : Char}, IsVisible e → d ∈ ['\\', e] → IsVisible d :=
    fun he => Text.isVisible_of_mem_escape he (List.forall_mem_nil _)
  unfold escapeChar at h
  split at h
  · next hc => rcases hc with rfl | rfl <;> exact hpair (by decide) h
  split at h
  · exact hpair (by decide) h
  split at h
  · exact hpair (by decide) h
  split at h
  · exact hpair (by decide) h
  split at h
  · exact hpair (by decide) h
  split at h
  · exact hpair (by decide) h
  split at h
  · next hc => exact List.mem_singleton.1 h ▸ hc
  obtain ⟨n, _, hd⟩ := List.mem_flatMap.1 h
  exact isVisible_of_mem_escapeUnit hd

theorem isVisible_of_mem_writeText {t : Text} {d : Char} (h : d ∈ writeText t) : IsVisible d := by
  unfold writeText at h
  rcases List.mem_cons.1 h with rfl | h
  · decide
  rcases List.mem_append.1 h with h | h
  · obtain ⟨c, _, hd⟩ := List.mem_flatMap.1 h
    exact isVisible_of_mem_escapeChar hd
  · rw [List.mem_singleton.1 h]
    decide

end QueryString.Json
