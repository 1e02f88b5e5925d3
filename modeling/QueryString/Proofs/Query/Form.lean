import QueryString.Proofs.Coding.Form
import QueryString.Proofs.Query.RoundTrip

/-!
# The form of a query

A query that was encoded is the forms of names and values with equals signs and ampersands among
them (`hasForm_of_encode`): as many equals signs as there are pairs, and one ampersand less.

What holds of the form of a text is carried over to the query. The percent signs are those of the
texts, and so are the plus signs: dividing the query at a plus sign divides the pairs at a space
(`StandsAt`).
-/

namespace QueryString

/-- An item of one list is related to an item of the other, and so are those before and after it. -/
theorem forall₂_append_cons_right {α β : Type} {R : α → β → Prop} {as : List α} {bs₁ bs₂ : List β}
    {b : β} (h : List.Forall₂ R as (bs₁ ++ b :: bs₂)) :
    ∃ as₁ a as₂, as = as₁ ++ a :: as₂ ∧ List.Forall₂ R as₁ bs₁ ∧ R a b ∧
      List.Forall₂ R as₂ bs₂ := by
  induction bs₁ generalizing as with
  | nil =>
    obtain ⟨a, as, hr, has, rfl⟩ := List.forall₂_cons_right_iff.1 h
    exact ⟨[], a, as, rfl, .nil, hr, has⟩
  | cons b' bs₁ ih =>
    obtain ⟨a', as, hr', has, rfl⟩ := List.forall₂_cons_right_iff.1 h
    obtain ⟨as₁, a, as₂, rfl, h₁, hr, h₂⟩ := ih has
    exact ⟨a' :: as₁, a, as₂, rfl, .cons hr' h₁, hr, h₂⟩

namespace Percent

theorem IsEscaped.cons {c : Char} {t : Text} (hc : c ≠ '%') (h : IsEscaped t) :
    IsEscaped (c :: t) :=
  (isEscaped_of_not_mem fun hmem => hc (List.mem_singleton.1 hmem).symm : IsEscaped [c]).append h

theorem isEscaped_join {sep : Char} (hsep : sep ≠ '%') {pieces : List Text}
    (h : ∀ piece ∈ pieces, IsEscaped piece) : IsEscaped (Text.join sep pieces) := by
  induction pieces with
  | nil => exact isEscaped_of_not_mem List.not_mem_nil
  | cons piece pieces ih =>
    have hpiece := h piece List.mem_cons_self
    cases pieces with
    | nil => exact hpiece
    | cons next pieces =>
      rw [Text.join]
      exact hpiece.append ((ih fun x hx => h x (List.mem_cons_of_mem _ hx)).cons hsep)

end Percent

namespace Query

/-! ## Dividing a query -/

/-- What follows the first pair of a query. -/
def following : List Pair → Text
  | [] => []
  | next :: rest => separator :: ofRawPairs (next :: rest)

theorem ofRawPairs_cons (p : Pair) (ps : List Pair) :
    ofRawPairs (p :: ps) = p.name ++ Pair.separator :: (p.value ++ following ps) := by
  cases ps with
  | nil =>
    rw [following, List.append_nil]
    rfl
  | cons next rest => exact List.append_assoc p.name (Pair.separator :: p.value) _

theorem ofRawPairs_cons_of_ne (p : Pair) {ps : List Pair} (hps : ps ≠ []) :
    ofRawPairs (p :: ps) = p.toSegment ++ separator :: ofRawPairs ps := by
  cases ps with
  | nil => exact absurd rfl hps
  | cons next rest => rfl

variable [Codecs]

/-- A character stands in the name or the value of a pair. Before it is what is written of the pairs
up to there, and after it what is written of the pairs from there on, except for the equals sign,
which is on one side only. -/
inductive StandsAt (reading : Reading) (c : Char) : List Pair → Text → Text → Prop where
  | name {earlier later : List Pair} {t₁ t₂ value before after : Text}
    (hbefore : write reading (earlier ++ [⟨t₁, []⟩]) = .ok (before ++ [Pair.separator]))
    (hafter : write reading (⟨t₂, value⟩ :: later) = .ok after) :
    StandsAt reading c (earlier ++ ⟨t₁ ++ c :: t₂, value⟩ :: later) before after
  | value {earlier later : List Pair} {name t₁ t₂ before after : Text}
    (hbefore : write reading (earlier ++ [⟨name, t₁⟩]) = .ok before)
    (hafter : write reading (⟨[], t₂⟩ :: later) = .ok (Pair.separator :: after)) :
    StandsAt reading c (earlier ++ ⟨name, t₁ ++ c :: t₂⟩ :: later) before after

theorem StandsAt.cons {c : Char} {ps : List Pair} {before after : Text}
    (h : StandsAt .raw c ps before after) (p : Pair) :
    StandsAt .raw c (p :: ps) (p.toSegment ++ separator :: before) after := by
  have hlonger : ∀ {earlier : List Pair} {q : Pair} {t : Text},
      write .raw (earlier ++ [q]) = .ok t →
        write .raw (p :: (earlier ++ [q])) = .ok (p.toSegment ++ separator :: t) := by
    intro earlier q t ht
    have hne : earlier ++ [q] ≠ [] := List.append_ne_nil_of_right_ne_nil _ (List.cons_ne_nil _ _)
    rw [write, ofRawPairs_cons_of_ne p hne, Except.ok.inj ht]
  cases h with
  | @name earlier later t₁ t₂ value _ _ hbefore hafter =>
    refine @StandsAt.name _ .raw c (p :: earlier) later t₁ t₂ value _ _ ?_ hafter
    rw [List.append_assoc]
    exact hlonger hbefore
  | @value earlier later name t₁ t₂ _ _ hbefore hafter =>
    exact @StandsAt.value _ .raw c (p :: earlier) later name t₁ t₂ _ _ (hlonger hbefore) hafter

/-- A character of a query that separates nothing stands in one of the pairs. -/
theorem standsAt_of_ofRawPairs {c : Char} (hc : c ∉ ['&', '=']) {pairs : List Pair}
    {before after : Text} (h : ofRawPairs pairs = before ++ c :: after) :
    StandsAt .raw c pairs before after := by
  have hpair : Pair.separator ≠ c := fun he => hc (he ▸ by decide)
  have hquery : separator ≠ c := fun he => hc (he ▸ by decide)
  induction pairs generalizing before with
  | nil => exact absurd h.symm (List.append_ne_nil_of_right_ne_nil _ (List.cons_ne_nil _ _))
  | cons p ps ih =>
    obtain ⟨name, value⟩ := p
    rw [ofRawPairs_cons] at h
    -- The character is in the name, in the value behind the equals sign, or in a later pair.
    rcases Text.append_eq_append_cons h with ⟨rest, hname, rfl⟩ | ⟨before', rfl, hrest⟩
    · obtain rfl : name = before ++ c :: rest := hname
      refine @StandsAt.name _ .raw c [] ps before rest value before _ rfl ?_
      rw [write, ofRawPairs_cons]
    obtain ⟨before, rfl, hafter⟩ := Text.eq_cons_of_cons_eq_append_cons hpair hrest
    rcases Text.append_eq_append_cons hafter with ⟨rest, hvalue, rfl⟩ | ⟨before', rfl, hlater⟩
    · obtain rfl : value = before ++ c :: rest := hvalue
      refine @StandsAt.value _ .raw c [] ps name before rest _ _ rfl ?_
      rw [write, ofRawPairs_cons]
      rfl
    cases ps with
    | nil => exact absurd hlater.symm (List.append_ne_nil_of_right_ne_nil _ (List.cons_ne_nil _ _))
    | cons next rest =>
      obtain ⟨before, rfl, hnext⟩ := Text.eq_cons_of_cons_eq_append_cons hquery hlater
      have hstands := (ih hnext).cons ⟨name, value⟩
      rw [Pair.toSegment, List.append_assoc] at hstands
      exact hstands

/-! ## The form -/

variable {coding : Coding} {cs : Charset} {pairs coded : List Pair}

theorem encode_of_forall₂ {query : Text}
    (h : List.Forall₂ (fun p q => coding.encodePair p = .ok q) pairs coded)
    (hquery : write .raw coded = .ok query) : write (.decoded coding) pairs = .ok query :=
  encode_eq_ok_iff.2 ⟨coded, h, Except.ok.inj hquery⟩

/-- Where a plus sign stands in the coded pairs, a space stands in the pairs. -/
theorem StandsAt.of_forall₂ (hcs : Charset.ofName? coding.charset = some cs)
    (hcoded : List.Forall₂ (fun p q => coding.encodePair p = .ok q) pairs coded)
    {before after : Text} (h : StandsAt .raw '+' coded before after) :
    coding.plusAsSpace ∧ StandsAt (.decoded coding) ' ' pairs before after := by
  have hpair : ∀ {p q : Pair}, coding.encode p.name = .ok q.name →
      coding.encode p.value = .ok q.value → coding.encodePair p = .ok q :=
    fun hn hv => Coding.encodePair_eq_ok_iff.2 ⟨hn, hv⟩
  cases h with
  | @name earlier later u₁ u₂ value _ _ hbefore hafter =>
    obtain ⟨earlier', p, later', rfl, hearlier, hp, hlater⟩ := forall₂_append_cons_right hcoded
    obtain ⟨hname, hvalue⟩ := Coding.encodePair_eq_ok_iff.1 hp
    obtain ⟨hplus, t₁, t₂, ht, h₁, h₂⟩ := Coding.space_of_encode hcs hname
    obtain ⟨name, value'⟩ := p
    obtain rfl : name = t₁ ++ ' ' :: t₂ := ht
    refine ⟨hplus, .name (encode_of_forall₂ ?_ hbefore) (encode_of_forall₂ ?_ hafter)⟩
    · exact List.rel_append hearlier (.cons (hpair h₁ coding.encode_nil) .nil)
    · exact .cons (hpair h₂ hvalue) hlater
  | @value earlier later name u₁ u₂ _ _ hbefore hafter =>
    obtain ⟨earlier', p, later', rfl, hearlier, hp, hlater⟩ := forall₂_append_cons_right hcoded
    obtain ⟨hname, hvalue⟩ := Coding.encodePair_eq_ok_iff.1 hp
    obtain ⟨hplus, t₁, t₂, ht, h₁, h₂⟩ := Coding.space_of_encode hcs hvalue
    obtain ⟨name', value⟩ := p
    obtain rfl : value = t₁ ++ ' ' :: t₂ := ht
    refine ⟨hplus, .value (encode_of_forall₂ ?_ hbefore) (encode_of_forall₂ ?_ hafter)⟩
    · exact List.rel_append hearlier (.cons (hpair hname h₁) .nil)
    · exact .cons (hpair coding.encode_nil h₂) hlater

/-- What a query that was encoded from pairs is made of. -/
structure HasForm (coding : Coding) (pairs : List Pair) (query : Text) : Prop where
  spelled : Uri.Spelled ['_', '.', '-', '~', '%', '+', '&', '='] query
  escaped : Percent.IsEscaped query
  /-- A plus sign is there only if it can stand for a space, and only in the place of one. -/
  plus : ∀ before after, query = before ++ '+' :: after →
    coding.plusAsSpace ∧ StandsAt (.decoded coding) ' ' pairs before after
  equals : query.count '=' = pairs.length
  ampersands : query.count '&' = pairs.length - 1

theorem spelled_toSegment_of_encodePair {p q : Pair} (h : coding.encodePair p = .ok q) :
    Uri.Spelled ['_', '.', '-', '~', '%', '+', '&', '='] q.toSegment := by
  obtain ⟨hn, hv⟩ := Coding.encodePair_eq_ok_iff.1 h
  have hcoded : ∀ {t u : Text}, coding.encode t = .ok u →
      Uri.Spelled ['_', '.', '-', '~', '%', '+', '&', '='] u := by
    intro t u hu c hc
    rcases Coding.spelled_of_encode hu c hc with hl | hd | hm
    · exact Or.inl hl
    · exact Or.inr (Or.inl hd)
    · exact Or.inr (Or.inr (List.mem_append_left ['&', '='] hm))
  unfold Uri.Spelled Pair.toSegment
  rw [List.forall_mem_append, List.forall_mem_cons]
  exact ⟨hcoded hn, Or.inr (Or.inr (by decide)), hcoded hv⟩

theorem isEscaped_toSegment_of_encodePair (hcs : Charset.ofName? coding.charset = some cs)
    {p q : Pair} (h : coding.encodePair p = .ok q) : Percent.IsEscaped q.toSegment := by
  obtain ⟨hn, hv⟩ := Coding.encodePair_eq_ok_iff.1 h
  exact (Coding.isEscaped_of_encode hcs hn).append
    ((Coding.isEscaped_of_encode hcs hv).cons (by decide))

theorem count_toSegment_of_encodePair {p q : Pair} (h : coding.encodePair p = .ok q) :
    q.toSegment.count '=' = 1 := by
  obtain ⟨hn, hv⟩ := Coding.encodePair_eq_ok_iff.1 h
  have hname : q.name.count '=' = 0 :=
    List.count_eq_zero.2 (Coding.separator_not_mem_of_encode hn (by decide))
  have hvalue : q.value.count '=' = 0 :=
    List.count_eq_zero.2 (Coding.separator_not_mem_of_encode hv (by decide))
  rw [Pair.toSegment, List.count_append, hname, Pair.separator, List.count_cons_self, hvalue]

/-- A query that was encoded has the form of the pairs. -/
theorem hasForm_of_encode (hcs : Charset.ofName? coding.charset = some cs) {query : Text}
    (h : encode coding pairs = .ok query) : HasForm coding pairs query := by
  obtain ⟨coded, hcoded, rfl⟩ := encode_eq_ok_iff.1 h
  have hsegment : ∀ {P : Text → Prop},
      (∀ p q, coding.encodePair p = .ok q → P q.toSegment) →
        ∀ segment ∈ coded.map Pair.toSegment, P segment := by
    intro P hP segment hs
    obtain ⟨q, hq, rfl⟩ := List.mem_map.1 hs
    obtain ⟨p, -, hp⟩ := exists_mem_of_forall₂ hcoded hq
    exact hP p q hp
  have hlength : (coded.map Pair.toSegment).length = pairs.length := by
    rw [List.length_map, hcoded.length_eq]
  refine ⟨?_, ?_, ?_, ?_, ?_⟩
  · exact (Text.forall_mem_join (Or.inr (Or.inr (by decide))) _).2
      (hsegment fun _ _ => spelled_toSegment_of_encodePair)
  · exact Percent.isEscaped_join (by decide)
      (hsegment fun _ _ => isEscaped_toSegment_of_encodePair hcs)
  · intro before after hquery
    exact (standsAt_of_ofRawPairs (by decide) hquery).of_forall₂ hcs hcoded
  · rw [← hlength]
    exact Text.count_join_of_ne (by decide) (hsegment fun _ _ => count_toSegment_of_encodePair)
  · rw [← hlength]
    exact Text.count_join_self
      (hsegment fun _ _ hp => separator_not_mem_toSegment (undivided_of_encodePair hp))

end Query

end QueryString
