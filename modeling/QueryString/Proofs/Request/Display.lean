import QueryString.Proofs.Text
import QueryString.Proofs.Text.Quoted
import QueryString.Request.Display

/-!
# Requests that can be told apart by their words

A request in words is put together from quoted texts, commas, parentheses and braces, and all of
these may stand in the texts as well. It shows the path and the parameters nevertheless
(`display_faithful`): every part of it shows where it ends (`Text.PrefixFree`), so that the next
part begins at the same place in two requests with the same words.

Since the quoted texts are printable, so is all of it, and it stays on one line.
-/

namespace QueryString

namespace Text

/-- The characters that end a line. -/
def lineBreaks : List Char :=
  ['\n', '\x0b', '\x0c', '\r', '\x1c', '\x1d', '\x1e', '\x85', '\u2028', '\u2029']

theorem not_mem_lineBreaks_of_isPrintable {c : Char} (h : isPrintable c) : c ∉ lineBreaks := by
  have hall : ∀ d ∈ lineBreaks, ¬ isPrintable d := forall_mem_of_all (by decide +kernel)
  exact fun hc => hall c hc h

/-- A quoted text begins with a quotation mark. -/
theorem quoted_append_ne {stop : Char} (hstop : stop ≠ '\'' ∧ stop ≠ '"') (t rest tail : Text) :
    quoted t ++ rest ≠ stop :: tail := by
  intro h
  have hmark : quoteMark t = stop := (List.cons.inj h).1
  rcases quoteMark_eq_or t with hq | hq
  · exact hstop.1 (hmark.symm.trans hq)
  · exact hstop.2 (hmark.symm.trans hq)

end Text

namespace Store

/-! ## Lists of forms -/

/-- What follows the first text of a list: its end, or a comma, a space and the other texts. -/
def afterFirst : List Text → Text → Text
  | [], tail => tail
  | next :: rest, tail => ',' :: ' ' :: (listed (next :: rest) ++ tail)

theorem listed_cons_append (t : Text) (ts : List Text) (tail : Text) :
    listed (t :: ts) ++ tail = t ++ afterFirst ts tail := by
  cases ts with
  | nil => rfl
  | cons next rest => rw [listed, List.append_assoc, afterFirst, List.cons_append, List.cons_append]

/-- Between the texts there are only commas and spaces. -/
theorem forall_mem_listed {P : Char → Prop} (hcomma : P ',') (hspace : P ' ') {ts : List Text}
    (h : ∀ t ∈ ts, ∀ c ∈ t, P c) : ∀ c ∈ listed ts, P c := by
  induction ts with
  | nil => exact fun _ hc => absurd hc List.not_mem_nil
  | cons t ts ih =>
    have ht := h t List.mem_cons_self
    cases ts with
    | nil => exact ht
    | cons next rest =>
      rw [listed, List.forall_mem_append, List.forall_mem_cons, List.forall_mem_cons]
      exact ⟨ht, hcomma, hspace, ih fun t ht => h t (List.mem_cons_of_mem _ ht)⟩

/-- A list of forms shows where it ends, if each form does and none begins with the mark that ends
the list. -/
theorem eq_of_listed {α : Type} {write : α → Text} {stop : Char} (hfree : Text.PrefixFree write)
    (hbegin : ∀ a rest tail, write a ++ rest ≠ stop :: tail) (hcomma : stop ≠ ',') {as bs : List α}
    {x y : Text}
    (h : listed (as.map write) ++ stop :: x = listed (bs.map write) ++ stop :: y) :
    as = bs ∧ x = y := by
  induction as generalizing bs with
  | nil =>
    cases bs with
    | nil => exact ⟨rfl, (List.cons.inj h).2⟩
    | cons b bs =>
      rw [List.map_cons, listed_cons_append] at h
      exact absurd h.symm (hbegin b _ x)
  | cons a as ih =>
    rw [List.map_cons, listed_cons_append] at h
    cases bs with
    | nil => exact absurd h (hbegin a _ y)
    | cons b bs =>
      rw [List.map_cons, listed_cons_append] at h
      obtain ⟨rfl, hrest⟩ := hfree h
      cases as with
      | nil =>
        cases bs with
        | nil => exact ⟨rfl, (List.cons.inj hrest).2⟩
        | cons c bs => exact absurd (List.cons.inj hrest).1 hcomma
      | cons d as =>
        cases bs with
        | nil => exact absurd (List.cons.inj hrest).1.symm hcomma
        | cons c bs =>
          have hlater := (List.cons.inj (List.cons.inj hrest).2).2
          obtain ⟨hbs, rfl⟩ := @ih (c :: bs) hlater
          exact ⟨congrArg (a :: ·) hbs, rfl⟩

/-! ## Values, entries, stores -/

theorem displayValues_of_ne {values : List Text} (h : ∀ value, values ≠ [value]) :
    displayValues values = '(' :: (listed (values.map Text.quoted) ++ [')']) := by
  unfold displayValues
  split
  · next value => exact absurd rfl (h value)
  · rfl

/-- The comma after a value on its own is not one between two values. -/
theorem displayValues_singleton_append_ne {values : List Text} (h : ∀ value, values ≠ [value])
    (value x y : Text) : displayValues [value] ++ x ≠ displayValues values ++ y := by
  intro heq
  rw [displayValues_of_ne h, displayValues, List.cons_append, List.cons_append, List.append_assoc,
    List.append_assoc] at heq
  have heq := (List.cons.inj heq).2
  cases values with
  | nil => exact Text.quoted_append_ne (by decide) value _ _ heq
  | cons first later =>
    rw [List.map_cons, listed_cons_append] at heq
    obtain ⟨-, hrest⟩ := Text.prefixFree_quoted heq
    cases later with
    | nil => exact h first rfl
    | cons second later =>
      have hspace := (List.cons.inj (List.cons.inj hrest).2).1
      exact absurd hspace (by decide)

theorem prefixFree_displayValues : Text.PrefixFree displayValues := by
  intro values values' x y h
  -- A value on its own has a form of its own, so either side can be one or not.
  by_cases hone : ∃ value, values = [value]
  · obtain ⟨value, rfl⟩ := hone
    by_cases hone' : ∃ value', values' = [value']
    · obtain ⟨value', rfl⟩ := hone'
      rw [displayValues, displayValues, List.cons_append, List.cons_append, List.append_assoc,
        List.append_assoc] at h
      obtain ⟨rfl, hrest⟩ := Text.prefixFree_quoted (List.cons.inj h).2
      exact ⟨rfl, List.append_cancel_left hrest⟩
    · exact absurd h (displayValues_singleton_append_ne (not_exists.1 hone') value x y)
  · by_cases hone' : ∃ value', values' = [value']
    · obtain ⟨value', rfl⟩ := hone'
      exact absurd h.symm (displayValues_singleton_append_ne (not_exists.1 hone) value' y x)
    · rw [displayValues_of_ne (not_exists.1 hone), displayValues_of_ne (not_exists.1 hone'),
        List.cons_append, List.cons_append, List.append_assoc, List.append_assoc] at h
      exact eq_of_listed Text.prefixFree_quoted (Text.quoted_append_ne (by decide)) (by decide)
        (List.cons.inj h).2

theorem prefixFree_displayEntry : Text.PrefixFree displayEntry := by
  rintro ⟨name, values⟩ ⟨name', values'⟩ x y h
  unfold displayEntry at h
  rw [List.append_assoc, List.append_assoc] at h
  obtain ⟨rfl, hrest⟩ := Text.prefixFree_quoted h
  obtain ⟨rfl, rfl⟩ := prefixFree_displayValues (List.cons.inj (List.cons.inj hrest).2).2
  exact ⟨rfl, rfl⟩

theorem displayEntry_append_ne {stop : Char} (hstop : stop ≠ '\'' ∧ stop ≠ '"')
    (entry : Text × List Text) (rest tail : Text) : displayEntry entry ++ rest ≠ stop :: tail := by
  unfold displayEntry
  rw [List.append_assoc]
  exact Text.quoted_append_ne hstop entry.1 _ tail

theorem prefixFree_display : Text.PrefixFree display := by
  rintro ⟨entries⟩ ⟨entries'⟩ x y h
  unfold display at h
  rw [List.cons_append, List.cons_append, List.append_assoc, List.append_assoc] at h
  obtain ⟨rfl, rfl⟩ := eq_of_listed prefixFree_displayEntry (displayEntry_append_ne (by decide))
    (by decide) (List.cons.inj h).2
  exact ⟨rfl, rfl⟩

theorem isPrintable_of_mem_displayValues (values : List Text) :
    ∀ c ∈ displayValues values, Text.isPrintable c := by
  have hquoted : ∀ t ∈ values.map Text.quoted, ∀ c ∈ t, Text.isPrintable c := by
    intro t ht c hc
    obtain ⟨value, -, rfl⟩ := List.mem_map.1 ht
    exact Text.isPrintable_of_mem_quoted hc
  by_cases hone : ∃ value, values = [value]
  · obtain ⟨value, rfl⟩ := hone
    rw [displayValues, List.forall_mem_cons, List.forall_mem_append]
    exact ⟨by decide, fun _ => Text.isPrintable_of_mem_quoted, Text.forall_mem_of_all rfl⟩
  · rw [displayValues_of_ne (not_exists.1 hone), List.forall_mem_cons, List.forall_mem_append]
    exact ⟨by decide, forall_mem_listed (by decide) (by decide) hquoted,
      Text.forall_mem_of_all rfl⟩

theorem isPrintable_of_mem_displayEntry (entry : Text × List Text) :
    ∀ c ∈ displayEntry entry, Text.isPrintable c := by
  unfold displayEntry
  rw [List.forall_mem_append, List.forall_mem_cons, List.forall_mem_cons]
  exact ⟨fun _ => Text.isPrintable_of_mem_quoted, by decide, by decide,
    isPrintable_of_mem_displayValues entry.2⟩

theorem isPrintable_of_mem_display (s : Store) : ∀ c ∈ s.display, Text.isPrintable c := by
  unfold display
  rw [List.forall_mem_cons, List.forall_mem_append]
  refine ⟨by decide, forall_mem_listed (by decide) (by decide) ?_, Text.forall_mem_of_all rfl⟩
  intro t ht
  obtain ⟨entry, -, rfl⟩ := List.mem_map.1 ht
  exact isPrintable_of_mem_displayEntry entry

end Store

namespace Request

/-- Requests with the same words have the same path and the same parameters. -/
theorem eq_of_display_eq {r s : Request} (h : r.display = s.display) :
    r.path = s.path ∧ r.parameters = s.parameters := by
  unfold display at h
  simp only [List.append_assoc] at h
  obtain ⟨hpath, hrest⟩ := Text.prefixFree_quoted (List.append_cancel_left h)
  obtain ⟨hparameters, -⟩ := Store.prefixFree_display (List.append_cancel_left hrest)
  exact ⟨hpath, hparameters⟩

theorem isPrintable_of_mem_display (r : Request) : ∀ c ∈ r.display, Text.isPrintable c := by
  unfold display
  simp only [List.forall_mem_append]
  exact ⟨⟨⟨⟨Text.forall_mem_of_all rfl, fun _ => Text.isPrintable_of_mem_quoted⟩,
    Text.forall_mem_of_all rfl⟩, Store.isPrintable_of_mem_display r.parameters⟩,
    Text.forall_mem_of_all rfl⟩

/-- A request in words shows its path and its parameters, with the order of names and values, and
nothing else of it. It is all printable characters, and none of them ends a line. -/
theorem display_faithful (r s : Request) :
    (r.display = s.display ↔ r.path = s.path ∧ r.parameters = s.parameters) ∧
      ∀ c ∈ r.display, Text.isPrintable c ∧ c ∉ Text.lineBreaks := by
  refine ⟨⟨eq_of_display_eq, ?_⟩, ?_⟩
  · rintro ⟨hpath, hparameters⟩
    unfold display
    rw [hpath, hparameters]
  · intro c hc
    have hp := isPrintable_of_mem_display r c hc
    exact ⟨hp, Text.not_mem_lineBreaks_of_isPrintable hp⟩

/-- A value with the marks that stand between two values is not taken for two values, and a line
break in the path does not end the line. -/
theorem display_faithful_marks :
    display ⟨"/it's\n".toList, [], ⟨[(['a'], ["1', '2".toList])]⟩, .raw⟩ =
        "HTTPRequest(path=\"/it's\\n\", params=\x7b'a': (\"1', '2\",)\x7d)".toList ∧
      display ⟨"/it's\n".toList, [], ⟨[(['a'], ["1', '2".toList])]⟩, .raw⟩ ≠
        display ⟨"/it's\n".toList, [], ⟨[(['a'], [['1'], ['2']])]⟩, .raw⟩ ∧
      '\n' ∉ display ⟨"/it's\n".toList, [], ⟨[(['a'], ["1', '2".toList])]⟩, .raw⟩ := by
  obtain ⟨heq, hmem⟩ := display_faithful
    ⟨"/it's\n".toList, [], ⟨[(['a'], ["1', '2".toList])]⟩, .raw⟩
    ⟨"/it's\n".toList, [], ⟨[(['a'], [['1'], ['2']])]⟩, .raw⟩
  refine ⟨by decide, ?_, ?_⟩
  · intro h
    exact absurd (heq.1 h).2 (by decide)
  · intro h
    exact (hmem _ h).2 (by decide)

end Request

end QueryString
