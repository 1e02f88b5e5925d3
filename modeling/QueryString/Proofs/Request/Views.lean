import Mathlib.Tactic.TFAE
import QueryString.Proofs.Request.Same

/-!
# One store, read in many ways

The parameters of a request can be asked for by name, counted, listed name by name or pair by pair,
and read as texts or truth values. Each of these looks for what is missing in a way of its own: a
name that is not found, a list that is empty, a default that is returned. They agree
(`views_agree`), because a request that was built has every name once and no name without a value.
-/

namespace QueryString

/-- What a partial function gives on a list comes from the elements on which it is defined, in
order. -/
theorem forall₂_filterMap {α β : Type} (f : α → Option β) (as : List α) :
    List.Forall₂ (fun a b => f a = some b) (as.filter fun a => (f a).isSome) (as.filterMap f) := by
  induction as with
  | nil => exact .nil
  | cons a as ih =>
    cases h : f a with
    | none =>
      rw [List.filterMap_cons_none h, List.filter_cons_of_neg (by simp [h])]
      exact ih
    | some b =>
      rw [List.filterMap_cons_some h, List.filter_cons_of_pos (by simp [h])]
      exact .cons h ih

namespace Store

/-- The items are the values of each name in turn. -/
theorem WellFormed.items_eq {s : Store} (h : s.WellFormed) :
    s.items = s.names.flatMap fun name => (s.values name).map (⟨name, ·⟩) := by
  rw [items, h.entries_eq, List.flatMap_map]

/-- There are items if there is a name. -/
theorem WellFormed.items_ne_nil_iff {s : Store} (h : s.WellFormed) :
    s.items ≠ [] ↔ 0 < s.size := by
  rw [size, List.length_pos_iff]
  constructor
  · intro hne hnil
    rw [items, hnil] at hne
    exact hne rfl
  · intro hne
    obtain ⟨entry, he⟩ := List.exists_mem_of_ne_nil _ hne
    obtain ⟨value, hv⟩ := List.exists_mem_of_ne_nil _ (h.values_ne_nil entry he)
    exact List.ne_nil_of_mem (List.mem_flatMap.2 ⟨entry, he, List.mem_map_of_mem hv⟩)

end Store

namespace Request

variable {r : Request}

/-! ## First values -/

/-- The first value of a parameter is what it is read as, and the default has no part in it. -/
theorem text_of_texts {name first : Text} {later : List Text}
    (h : r.texts name = first :: later) :
    (∀ default, r.textOr name default = some first) ∧ r.text name = first := by
  have hfirst : r.text? name = some first := by
    rw [text?, h]
    rfl
  constructor
  · intro default
    rw [textOr, hfirst]
    rfl
  · rw [text, hfirst]
    rfl

theorem text_of_texts_nil {name : Text} (h : r.texts name = []) :
    (∀ default, r.textOr name default = default) ∧ r.text name = [] := by
  have hnone : r.text? name = none := by
    rw [text?, h]
    rfl
  constructor
  · intro default
    rw [textOr, hnone]
    rfl
  · rw [text, hnone]
    rfl

theorem booleanOr_of_texts {name first : Text} {later : List Text}
    (h : r.texts name = first :: later) (default : Bool) :
    r.booleanOr name default = (Boolean.read? first).getD default := by
  rw [booleanOr, text?, h]
  rfl

theorem booleanOr_of_texts_nil {name : Text} (h : r.texts name = []) (default : Bool) :
    r.booleanOr name default = default := by
  rw [booleanOr, text?, h]
  rfl

/-! ## All views -/

/-- However the parameters of a request are asked for, one list of names and values answers. -/
structure OneStore (r : Request) : Prop where
  nodup : r.parameters.names.Nodup
  size_eq : r.parameters.size = r.parameters.names.length
  /-- What counts as having parameters. -/
  some_tfae : [r.hasParameters = true, r.parameters.isEmpty = false, r.parameters.items ≠ [],
    0 < r.parameters.size].TFAE
  /-- What counts as having a parameter. -/
  set_tfae : ∀ name, [r.isSet name = true, name ∈ r.parameters, name ∈ r.parameters.names,
    r.texts name ≠ []].TFAE
  items_eq : r.parameters.items =
    r.parameters.names.flatMap fun name => (r.texts name).map (⟨name, ·⟩)
  /-- A parameter that is there is read as its first value, even if that is empty. -/
  text_of_isSet : ∀ name, r.isSet name → ∃ first later, r.texts name = first :: later ∧
    (∀ default, r.textOr name default = some first) ∧ r.text name = first
  text_of_not_isSet : ∀ name, ¬ r.isSet name →
    (∀ default, r.textOr name default = default) ∧ r.text name = []
  boolean_of_read : ∀ name b, r.isSet name → Boolean.read? (r.text name) = some b →
    ∀ default, r.booleanOr name default = b
  boolean_of_not_read : ∀ name, ¬ (r.isSet name ∧ ∃ b, Boolean.read? (r.text name) = some b) →
    ∀ default, r.booleanOr name default = default
  /-- Of all values, those that are words for truth values are kept, in order. -/
  booleans : ∀ name, List.Forall₂ (fun value b => Boolean.read? value = some b)
    ((r.texts name).filter fun value => (Boolean.read? value).isSome) (r.booleans name)

theorem Built.exists_texts_cons [Codecs] (h : r.Built) {name : Text} (hset : r.isSet name) :
    ∃ first later, r.texts name = first :: later :=
  List.exists_cons_of_ne_nil (h.isSet_iff.1 hset)

theorem Built.texts_eq_nil [Codecs] (h : r.Built) {name : Text} (hset : ¬ r.isSet name) :
    r.texts name = [] := by
  by_contra hne
  exact hset (h.isSet_iff.2 hne)

/-- All ways to read the parameters of a request that was built read one store. -/
theorem Built.views_agree [Codecs] (h : r.Built) : r.OneStore where
  nodup := h.wellFormed.nodup
  size_eq := r.parameters.size_eq_length_names
  some_tfae := by
    tfae_have 1 ↔ 4 := hasParameters_iff
    tfae_have 2 ↔ 4 := Store.isEmpty_eq_false_iff
    tfae_have 3 ↔ 4 := h.wellFormed.items_ne_nil_iff
    tfae_finish
  set_tfae name := by
    tfae_have 1 ↔ 2 := Iff.rfl
    tfae_have 2 ↔ 3 := Store.mem_iff_mem_names
    tfae_have 3 ↔ 4 := h.wellFormed.mem_names_iff
    tfae_finish
  items_eq := h.wellFormed.items_eq
  text_of_isSet name hset := by
    obtain ⟨first, later, htexts⟩ := h.exists_texts_cons hset
    exact ⟨first, later, htexts, text_of_texts htexts⟩
  text_of_not_isSet name hset := text_of_texts_nil (h.texts_eq_nil hset)
  boolean_of_read name b hset hread default := by
    obtain ⟨first, later, htexts⟩ := h.exists_texts_cons hset
    rw [(text_of_texts htexts).2] at hread
    rw [booleanOr_of_texts htexts, hread]
    rfl
  boolean_of_not_read name hno default := by
    by_cases hset : r.isSet name
    · obtain ⟨first, later, htexts⟩ := h.exists_texts_cons hset
      have hread : Boolean.read? first = none := by
        rw [Option.eq_none_iff_forall_ne_some]
        intro b hb
        exact hno ⟨hset, b, (text_of_texts htexts).2.symm ▸ hb⟩
      rw [booleanOr_of_texts htexts, hread]
      rfl
    · exact booleanOr_of_texts_nil (h.texts_eq_nil hset) default
  booleans name := forall₂_filterMap Boolean.read? (r.texts name)

/-- A value that is empty is there like any other, and no default takes its place. Of the two values
of `a`, one is a word for a truth value. -/
theorem views_agree_utf8 :
    ∃ r, ofTarget (Options.reading {} {}) ⟨['/'], some "a=Yes&b=&a=2".toList⟩ = .ok r ∧
      r.OneStore ∧ r.hasParameters = true ∧
      (∀ default, r.textOr ['b'] default = some []) ∧
      (∀ default, r.textOr ['c'] default = default) ∧
      (∀ default, r.booleanOr ['a'] default = true) ∧
      (∀ default, r.booleanOr ['b'] default = default) ∧
      r.booleans ['a'] = [true] := by
  have hr : ofTarget (Options.reading {} {}) ⟨['/'], some "a=Yes&b=&a=2".toList⟩ =
      .ok ⟨['/'], "a=Yes&b=&a=2".toList, ⟨[(['a'], ["Yes".toList, ['2']]), (['b'], [[]])]⟩,
        .decoded ⟨"utf-8".toList, true⟩⟩ := by decide +kernel
  have hviews := Built.views_agree (.direct _ _ _ _ hr)
  refine ⟨_, hr, hviews, (hviews.some_tfae.out 0 3).2 (by decide), ?_,
    (hviews.text_of_not_isSet ['c'] (by decide)).1,
    hviews.boolean_of_read ['a'] true (by decide) (by decide),
    hviews.boolean_of_not_read ['b'] (by decide), rfl⟩
  obtain ⟨first, later, htexts, htext, -⟩ := hviews.text_of_isSet ['b'] (by decide)
  obtain ⟨rfl, -⟩ := List.cons.inj htexts
  exact htext

end Request

end QueryString
