import Mathlib.Logic.Basic
import QueryString.Text.Basic

/-!
# Joining pieces

The other halves of `join_split` and `cut_append`: pieces that do not hold the separator are what
the joined text is split into (`split_join`), and the two sides of a cut make up the text again
(`eq_append_cut_or`). What a joined text holds, and how often, comes from the pieces
(`forall_mem_join`, `count_join_self`, `count_join_of_ne`). What holds of each character of a text
that is given can be computed (`forall_mem_of_all`).
-/

namespace QueryString.Text

/-- Splitting undoes joining, if no piece holds the separator. -/
theorem split_join {sep : Char} {pieces : List Text} (hne : pieces ≠ [])
    (h : ∀ piece ∈ pieces, sep ∉ piece) : split sep (join sep pieces) = pieces := by
  induction pieces with
  | nil => exact absurd rfl hne
  | cons piece pieces ih =>
    have hpiece := split_of_not_mem (h piece List.mem_cons_self)
    cases pieces with
    | nil => exact hpiece
    | cons next pieces =>
      rw [join, split_append, hpiece, ih (by simp) fun x hx => h x (List.mem_cons_of_mem _ hx)]
      rfl

/-- A text is what stands before the separator, the separator, and what stands after it; or it does
not hold the separator. -/
theorem eq_append_cut_or (sep : Char) (t : Text) :
    t = (cut sep t).1 ++ sep :: (cut sep t).2 ∨ t = (cut sep t).1 ∧ (cut sep t).2 = [] := by
  have ht := List.takeWhile_append_dropWhile (p := (· != sep)) (l := t)
  cases hd : t.dropWhile (· != sep) with
  | nil =>
    rw [hd, List.append_nil] at ht
    exact Or.inr ⟨ht.symm, by rw [cut, hd]; rfl⟩
  | cons c rest =>
    have hc : c = sep := by
      have := List.head?_dropWhile_not (· != sep) t
      simpa [hd] using this
    rw [hd, hc] at ht
    exact Or.inl (by rw [cut, hd]; exact ht.symm)

theorem mem_of_mem_cut_fst {sep c : Char} {t : Text} (h : c ∈ (cut sep t).1) : c ∈ t :=
  (List.takeWhile_sublist _).subset h

theorem mem_of_mem_cut_snd {sep c : Char} {t : Text} (h : c ∈ (cut sep t).2) : c ∈ t :=
  (List.dropWhile_sublist _).subset (List.mem_of_mem_drop h)

/-- What holds of the separator holds of a joined text if it holds of the pieces, and only then. -/
theorem forall_mem_join {P : Char → Prop} {sep : Char} (hsep : P sep) (pieces : List Text) :
    (∀ c ∈ join sep pieces, P c) ↔ ∀ piece ∈ pieces, ∀ c ∈ piece, P c := by
  induction pieces with
  | nil => simp [join]
  | cons piece pieces ih =>
    cases pieces with
    | nil => simp [join]
    | cons next pieces =>
      rw [join, List.forall_mem_append, List.forall_mem_cons, ih, List.forall_mem_cons (a := piece)]
      exact and_congr_right fun _ => and_iff_right hsep

/-- A separator stands between neighbours, and nowhere else if no piece holds it. -/
theorem count_join_self {sep : Char} {pieces : List Text} (h : ∀ piece ∈ pieces, sep ∉ piece) :
    (join sep pieces).count sep = pieces.length - 1 := by
  induction pieces with
  | nil => rfl
  | cons piece pieces ih =>
    have hpiece := List.count_eq_zero.2 (h piece List.mem_cons_self)
    have hrest := ih fun x hx => h x (List.mem_cons_of_mem _ hx)
    cases pieces with
    | nil => exact hpiece
    | cons next pieces =>
      rw [join, List.count_append, List.count_cons_self, hpiece, hrest]
      simp only [List.length_cons]
      omega

/-- A character that does not separate is counted in the pieces. -/
theorem count_join_of_ne {sep c : Char} (hne : sep ≠ c) {pieces : List Text}
    (h : ∀ piece ∈ pieces, piece.count c = 1) : (join sep pieces).count c = pieces.length := by
  induction pieces with
  | nil => rfl
  | cons piece pieces ih =>
    have hpiece := h piece List.mem_cons_self
    have hrest := ih fun x hx => h x (List.mem_cons_of_mem _ hx)
    cases pieces with
    | nil => exact hpiece
    | cons next pieces =>
      rw [join, List.count_append, List.count_cons_of_ne hne, hpiece, hrest]
      simp only [List.length_cons]
      omega

/-- A character in a text that is put together stands in the one part or in the other. -/
theorem append_eq_append_cons {a b before after : Text} {c : Char}
    (h : a ++ b = before ++ c :: after) :
    (∃ rest, a = before ++ c :: rest ∧ after = rest ++ b) ∨
      ∃ rest, before = a ++ rest ∧ b = rest ++ c :: after := by
  rcases List.append_eq_append_iff.1 h with ⟨rest, hbefore, hb⟩ | ⟨rest, ha, hafter⟩
  · exact Or.inr ⟨rest, hbefore, hb⟩
  · rcases List.cons_eq_append_iff.1 hafter with ⟨rfl, hb⟩ | ⟨rest, rfl, hrest⟩
    · rw [List.append_nil] at ha
      exact Or.inr ⟨[], by rw [ha, List.append_nil], hb⟩
    · exact Or.inl ⟨rest, ha, hrest⟩

/-- A character behind another one stands in what follows that one. -/
theorem eq_cons_of_cons_eq_append_cons {c d : Char} (hne : d ≠ c) {t before after : Text}
    (h : d :: t = before ++ c :: after) :
    ∃ before', before = d :: before' ∧ t = before' ++ c :: after := by
  rcases List.cons_eq_append_iff.1 h with ⟨-, h⟩ | hrest
  · exact absurd (List.cons.inj h).1.symm hne
  · exact hrest

/-- What a look at each character of a text shows, holds of its characters. There are finitely many
characters, and without this lemma all of them would be looked at. -/
theorem forall_mem_of_all {P : Char → Prop} [DecidablePred P] {t : Text}
    (h : t.all fun c => decide (P c)) : ∀ c ∈ t, P c := by
  intro c hc
  exact of_decide_eq_true (List.all_eq_true.1 h c hc)

end QueryString.Text
