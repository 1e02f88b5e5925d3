import QueryString.Proofs.Text
import QueryString.Proofs.Text.Lower
import QueryString.Value.Boolean

/-!
# Texts that write truth values

A text is compared with the words for true and false in its lower-case form, which is that of
Unicode. That makes no more words than there are in ASCII (`recognised_iff_spelled`): none of the
eight words has a k, the one letter that a character beyond ASCII comes down to.
-/

namespace QueryString.Boolean

open Text (ComesFromAscii SameSpelling)

theorem comesFromAscii_of_mem : ∀ w ∈ trueWords ++ falseWords, ∀ d ∈ w, ComesFromAscii d := by
  have hall : ∀ w ∈ trueWords ++ falseWords, w.all fun d => decide (ComesFromAscii d) := by decide
  exact fun w hw => Text.forall_mem_of_all (hall w hw)

/-- The lower-case form of a text is one of some words if and only if it spells one of them. -/
theorem lower_mem_iff {words : List Text} (h : ∀ w ∈ words, w ∈ trueWords ++ falseWords)
    (t : Text) : Text.lower t ∈ words ↔ ∃ w ∈ words, SameSpelling t w := by
  constructor
  · intro ht
    exact ⟨_, ht, (Text.lower_eq_iff (comesFromAscii_of_mem _ (h _ ht)) t).1 rfl⟩
  · rintro ⟨w, hw, hsame⟩
    rw [(Text.lower_eq_iff (comesFromAscii_of_mem w (h w hw)) t).2 hsame]
    exact hw

theorem read?_eq_true_iff {t : Text} : read? t = some true ↔ ∃ w ∈ trueWords, SameSpelling t w := by
  rw [← lower_mem_iff fun _ => List.mem_append_left _]
  unfold read?
  split
  · next h => simp [h]
  · next h => split <;> simp [h]

theorem read?_eq_false_iff {t : Text} :
    read? t = some false ↔ ∃ w ∈ falseWords, SameSpelling t w := by
  have hdisjoint : ∀ w ∈ falseWords, w ∉ trueWords := by decide
  rw [← lower_mem_iff fun _ => List.mem_append_right _]
  unfold read?
  split
  · next h => simpa using fun hf => hdisjoint _ hf h
  · split
    · next h => simp [h]
    · next h => simp [h]

theorem exists_read?_iff {t : Text} :
    (∃ b, read? t = some b) ↔ ∃ w ∈ trueWords ++ falseWords, SameSpelling t w := by
  simp only [List.mem_append]
  constructor
  · rintro ⟨b, hb⟩
    cases b with
    | false =>
      obtain ⟨w, hw, hsame⟩ := read?_eq_false_iff.1 hb
      exact ⟨w, Or.inr hw, hsame⟩
    | true =>
      obtain ⟨w, hw, hsame⟩ := read?_eq_true_iff.1 hb
      exact ⟨w, Or.inl hw, hsame⟩
  · rintro ⟨w, hw | hw, hsame⟩
    · exact ⟨true, read?_eq_true_iff.2 ⟨w, hw, hsame⟩⟩
    · exact ⟨false, read?_eq_false_iff.2 ⟨w, hw, hsame⟩⟩

theorem read?_eq_none_iff {t : Text} :
    read? t = none ↔ ∀ w ∈ trueWords ++ falseWords, ¬ SameSpelling t w := by
  rw [Option.eq_none_iff_forall_ne_some, ← not_exists, exists_read?_iff]
  simp only [not_exists, not_and]

/-- A text is read as true if it spells one of the four words for true in whatever letter case, as
false if it does so with one of the four words for false, and not at all otherwise. In particular it
is not read if it has a character that is not ASCII, whatever becomes of that in lower case. -/
theorem recognised_iff_spelled (t : Text) :
    (read? t = some true ↔
      ∃ w ∈ ["1".toList, "on".toList, "true".toList, "yes".toList], SameSpelling t w) ∧
    (read? t = some false ↔
      ∃ w ∈ ["0".toList, "false".toList, "no".toList, "off".toList], SameSpelling t w) ∧
    (read? t = none ↔
      ∀ w ∈ ["1".toList, "on".toList, "true".toList, "yes".toList, "0".toList, "false".toList,
        "no".toList, "off".toList], ¬ SameSpelling t w) ∧
    ((∃ c ∈ t, ¬ Text.isAscii c) → read? t = none) := by
  refine ⟨read?_eq_true_iff, read?_eq_false_iff, read?_eq_none_iff, ?_⟩
  rintro ⟨c, hc, hno⟩
  rw [read?_eq_none_iff]
  intro w hw hsame
  have hlt := hsame.lt (fun d hd => (comesFromAscii_of_mem w hw d hd).1) hc
  exact hno (by simpa [Text.isAscii] using hlt)

/-- Letter case does not matter. A long s is no s, letters of full width are not those of ASCII, and
neither a capital I with a dot above nor the Kelvin sign makes a word, although there are ASCII
letters in the lower-case form of both. -/
theorem recognised_iff_spelled_beyond_ascii :
    read? "oFF".toList = some false ∧ read? "ye\u017F".toList = none ∧
      read? "\uFF2F\uFF2E".toList = none ∧
      (Text.lower ['\u0130'] = ['i', '\u0307'] ∧ read? ['\u0130'] = none) ∧
      Text.lower ['\u212A'] = ['k'] ∧ read? ['\u212A'] = none := by
  refine ⟨(recognised_iff_spelled _).2.1.2 ⟨"off".toList, by decide, ?_⟩,
    (recognised_iff_spelled _).2.2.2 ⟨'\u017F', by decide, by decide⟩,
    (recognised_iff_spelled _).2.2.2 ⟨'\uFF2F', by decide, by decide⟩,
    ⟨by decide, (recognised_iff_spelled _).2.2.2 ⟨'\u0130', by decide, by decide⟩⟩,
    by decide +kernel, (recognised_iff_spelled _).2.2.2 ⟨'\u212A', by decide, by decide⟩⟩
  exact .cons (.refl 'o') (.cons (.capital (by decide) rfl) (.cons (.capital (by decide) rfl) .nil))

end QueryString.Boolean
