import Mathlib.Data.List.TakeWhile
import QueryString.Proofs.Text
import QueryString.Uri.Basic

/-!
# The parts of a URI

A URI that is put together from its parts is cut into the same parts again, whether it begins with
its path (`parse_relative`) or with a scheme and an authority (`parse_absolute`). Each cut is a
lemma about the text in front of which it is made and whatever follows: what is left out is left out
of the fragment only (`exists_clean_eq`), the scheme ends at the first colon (`dropScheme_append`),
the authority at the first slash after it (`cutAuthority_append`), and the query at the number sign
(`ofRest_append`).
-/

namespace QueryString.Uri

/-! ## Parts -/

/-- A path that stands in a URI as it is: it begins with one slash, and none of its characters ends
it or is left out. -/
structure IsPath (path : Text) : Prop where
  begins : ∃ rest, path = '/' :: rest ∧ rest.head? ≠ some '/'
  plain : ∀ c ∈ path, c ∉ ['?', '#', '\t', '\r', '\n']

/-- A query that stands in a URI as it is: none of its characters ends it or is left out. -/
def IsQuery (query : Text) : Prop := ∀ c ∈ query, c ∉ ['#', '\t', '\r', '\n']

/-- Letters, digits and some marks. -/
def Spelled (marks : List Char) (t : Text) : Prop :=
  ∀ c ∈ t, isLetter c ∨ Decimal.isDigit c ∨ c ∈ marks

/-- A letter, and then letters, digits, plus signs, hyphens and dots. -/
inductive IsScheme : Text → Prop where
  | letter {c : Char} {rest : Text} (hc : isLetter c) (hrest : Spelled ['+', '-', '.'] rest) :
    IsScheme (c :: rest)

/-- An authority without brackets: a server, with or without a user and a port. -/
def IsAuthority (authority : Text) : Prop := Spelled ['.', '-', ':', '@'] authority

theorem lt_toNat_of_isLetter {c : Char} (h : isLetter c) : 0x20 < c.toNat := by
  rw [isLetter_iff] at h
  omega

theorem Spelled.not_mem {marks : List Char} {t : Text} (h : Spelled marks t) {x : Char}
    (hx : ¬ (isLetter x ∨ Decimal.isDigit x ∨ x ∈ marks)) : x ∉ t :=
  fun hmem => hx (h x hmem)

theorem IsScheme.spelled {scheme : Text} (h : IsScheme scheme) :
    Spelled ['+', '-', '.'] scheme := by
  cases h with
  | letter hc hrest =>
    intro d hd
    rcases List.mem_cons.1 hd with rfl | hd
    · exact Or.inl hc
    · exact hrest d hd

/-! ## What is left out -/

/-- The characters that are left out of a URI wherever they stand. -/
abbrev dropped : List Char := ['\t', '\r', '\n']

theorem Spelled.not_dropped {marks : List Char} {t : Text} (h : Spelled marks t)
    (hmarks : ∀ c ∈ dropped, c ∉ marks) : ∀ c ∈ t, c ∉ dropped := by
  have hnone : ∀ c ∈ dropped, ¬ (isLetter c ∨ Decimal.isDigit c) := Text.forall_mem_of_all rfl
  intro c hc hd
  rcases h c hc with hl | hn | hm
  · exact hnone c hd (Or.inl hl)
  · exact hnone c hd (Or.inr hn)
  · exact hmarks c hd hm

theorem filter_of_not_dropped {t : Text} (h : ∀ c ∈ t, c ∉ dropped) :
    t.filter (fun c => c != '\t' && c != '\r' && c != '\n') = t := by
  rw [List.filter_eq_self]
  intro c hc
  have hnot := h c hc
  simp only [List.mem_cons, List.not_mem_nil, or_false, not_or] at hnot
  simp [hnot]

/-- Nothing is left out before the fragment of a URI that begins with a mark or a letter and holds
no tab and no line break there. -/
theorem exists_clean_eq {t : Text} (hbegins : ∃ c rest, t = c :: rest ∧ 0x20 < c.toNat)
    (ht : ∀ c ∈ t, c ∉ dropped) (fragment : Text) :
    ∃ fragment', clean (t ++ '#' :: fragment) = t ++ '#' :: fragment' := by
  obtain ⟨c, rest, rfl, hc⟩ := hbegins
  have hdrop : (c :: rest ++ '#' :: fragment).dropWhile (·.toNat ≤ 0x20) =
      c :: rest ++ '#' :: fragment := by
    rw [List.cons_append]
    exact List.dropWhile_cons_of_neg (by simpa using hc)
  rw [clean, hdrop, List.filter_append, filter_of_not_dropped ht]
  exact ⟨_, congrArg (c :: rest ++ ·) (List.filter_cons_of_pos (by decide))⟩

/-! ## The scheme -/

/-- What begins with a path has no scheme, even where a colon follows. -/
theorem dropScheme_path {path : Text} (h : IsPath path) (rest : Text) :
    dropScheme (path ++ rest) = path ++ rest := by
  obtain ⟨path, rfl, _⟩ := h.begins
  have hcut : (Text.cut ':' ('/' :: path ++ rest)).1 = '/' :: (Text.cut ':' (path ++ rest)).1 := by
    rw [Text.cut, Text.cut, List.cons_append, List.takeWhile_cons_of_pos (by decide)]
  have hno : isScheme (Text.cut ':' ('/' :: path ++ rest)).1 = false := by
    rw [hcut]
    rfl
  rw [dropScheme, hno, Bool.and_false]
  exact if_neg Bool.false_ne_true

theorem isScheme_of_isScheme {scheme : Text} (h : IsScheme scheme) : isScheme scheme := by
  have hspelled := h.spelled
  cases h with
  | letter hc hrest =>
    rw [isScheme, Bool.and_eq_true, List.all_eq_true]
    refine ⟨hc, fun d hd => ?_⟩
    rcases hspelled d hd with hl | hn | hm
    · simp [hl]
    · simp [hn]
    · simp only [List.mem_cons, List.not_mem_nil, or_false] at hm
      rcases hm with rfl | rfl | rfl <;> rfl

/-- A scheme ends at the first colon, whatever follows. -/
theorem dropScheme_append {scheme : Text} (h : IsScheme scheme) (rest : Text) :
    dropScheme (scheme ++ ':' :: rest) = rest := by
  have hcut : Text.cut ':' (scheme ++ ':' :: rest) = (scheme, rest) :=
    Text.cut_append (h.spelled.not_mem (by decide)) rest
  have hcolon : (scheme ++ ':' :: rest).contains ':' := by simp
  rw [dropScheme, hcut, hcolon, isScheme_of_isScheme h]
  rfl

/-! ## The authority -/

/-- What begins with a path has no authority. -/
theorem cutAuthority_path {path : Text} (h : IsPath path) (query : Text) :
    cutAuthority (path ++ '?' :: query) = ([], path ++ '?' :: query) := by
  obtain ⟨rest, rfl, hrest⟩ := h.begins
  rw [List.cons_append, cutAuthority]
  -- A second slash would be the first character after the one that begins the path.
  intro rest' he
  cases rest with
  | nil => exact absurd (List.cons.inj (List.cons.inj he).2).1 (by decide)
  | cons c rest =>
    rw [(List.cons.inj (List.cons.inj he).2).1] at hrest
    exact hrest rfl

/-- An authority ends at the first slash after it, whatever follows. -/
theorem cutAuthority_append {authority : Text} (h : IsAuthority authority) (rest : Text) :
    cutAuthority ('/' :: '/' :: (authority ++ '/' :: rest)) = (authority, '/' :: rest) := by
  have hall : ∀ c ∈ authority, (!endsAuthority c) = true := by
    intro c hc
    have hslash : c ≠ '/' := fun he => h.not_mem (by decide) (he ▸ hc)
    have hmark : c ≠ '?' := fun he => h.not_mem (by decide) (he ▸ hc)
    have hnumber : c ≠ '#' := fun he => h.not_mem (by decide) (he ▸ hc)
    simp [endsAuthority, hslash, hmark, hnumber]
  rw [cutAuthority, List.takeWhile_append_of_pos hall, List.dropWhile_append_of_pos hall,
    List.takeWhile_cons_of_neg (by decide), List.dropWhile_cons_of_neg (by decide),
    List.append_nil]

/-- Nothing is wrong with an authority without brackets. -/
theorem authorityFault?_eq_none {authority : Text} (h : IsAuthority authority) :
    authorityFault? authority = none := by
  have hopen : authority.contains '[' = false := by
    simpa using h.not_mem (x := '[') (by decide)
  have hclose : authority.contains ']' = false := by
    simpa using h.not_mem (x := ']') (by decide)
  have hbracket : bracketFault? authority = none := by
    rw [bracketFault?, hopen, hclose]
    rfl
  have hhidden : authority.any hiddenDelimiters.contains = false := by
    rw [List.any_eq_false]
    intro c hc hd
    have hnone : ∀ d ∈ hiddenDelimiters,
        ¬ (isLetter d ∨ Decimal.isDigit d ∨ d ∈ ['.', '-', ':', '@']) :=
      Text.forall_mem_of_all rfl
    exact hnone c (List.contains_iff_mem.1 hd) (h c hc)
  rw [authorityFault?, hbracket, hhidden]
  rfl

/-! ## Path and query -/

/-- A path ends at the first question mark and its query at the first number sign. -/
theorem ofRest_append {path query : Text} (hp : IsPath path) (hq : IsQuery query)
    (fragment : Text) : ofRest (path ++ '?' :: query ++ '#' :: fragment) = ⟨path, query⟩ := by
  have hmark : '?' ∉ path := fun h => hp.plain _ h (by decide)
  have hnumber : '#' ∉ path ++ '?' :: query := by
    simp only [List.mem_append, List.mem_cons, not_or]
    exact ⟨fun h => hp.plain _ h (by decide), by decide, fun h => hq _ h (by decide)⟩
  rw [ofRest, Text.cut_append hnumber, Text.cut_append hmark]

theorem not_dropped_of_isPath {path query : Text} (hp : IsPath path) (hq : IsQuery query) :
    ∀ c ∈ path ++ '?' :: query, c ∉ dropped := by
  have hdropped : ∀ c ∈ dropped, c ∈ ['?', '#', '\t', '\r', '\n'] ∧ c ∈ ['#', '\t', '\r', '\n'] :=
    Text.forall_mem_of_all rfl
  intro c hc hd
  rcases List.mem_append.1 hc with hc | hc
  · exact hp.plain c hc (hdropped c hd).1
  rcases List.mem_cons.1 hc with rfl | hc
  · exact absurd hd (by decide)
  · exact hq c hc (hdropped c hd).2

/-! ## The whole -/

theorem parse_of_cut {uri authority rest : Text}
    (hcut : cutAuthority (dropScheme (clean uri)) = (authority, rest))
    (h : IsAuthority authority) : parse uri = .ok (ofRest rest) := by
  rw [parse, hcut]
  simp only [authorityFault?_eq_none h]

/-- A URI that begins with its path has that path and the query after it. -/
theorem parse_relative {path query : Text} (hp : IsPath path) (hq : IsQuery query)
    (fragment : Text) :
    parse (path ++ '?' :: query ++ '#' :: fragment) = .ok ⟨path, query⟩ := by
  have hbegins : ∃ c rest, path ++ '?' :: query = c :: rest ∧ 0x20 < c.toNat := by
    obtain ⟨rest, rfl, _⟩ := hp.begins
    exact ⟨'/', _, rfl, by decide⟩
  obtain ⟨fragment', hclean⟩ :=
    exists_clean_eq hbegins (not_dropped_of_isPath hp hq) fragment
  have hcut : cutAuthority (dropScheme (path ++ '?' :: query ++ '#' :: fragment')) =
      ([], path ++ '?' :: query ++ '#' :: fragment') := by
    rw [List.append_assoc, dropScheme_path hp]
    exact cutAuthority_path hp (query ++ '#' :: fragment')
  rw [← hclean] at hcut
  rw [parse_of_cut hcut fun c hc => absurd hc List.not_mem_nil, hclean, ofRest_append hp hq]

/-- A URI that begins with a scheme and an authority has the path and the query after them. -/
theorem parse_absolute {scheme authority path query : Text} (hs : IsScheme scheme)
    (ha : IsAuthority authority) (hp : IsPath path) (hq : IsQuery query) (fragment : Text) :
    parse (scheme ++ "://".toList ++ authority ++ path ++ '?' :: query ++ '#' :: fragment) =
      .ok ⟨path, query⟩ := by
  have hbegins : ∃ c rest, scheme ++ "://".toList ++ authority ++ path ++ '?' :: query = c :: rest ∧
      0x20 < c.toNat := by
    cases hs with
    | letter hc _ => exact ⟨_, _, rfl, lt_toNat_of_isLetter hc⟩
  have hdropped : ∀ c ∈ scheme ++ "://".toList ++ authority ++ path ++ '?' :: query,
      c ∉ dropped := by
    intro c hc
    simp only [List.append_assoc] at hc
    rcases List.mem_append.1 hc with hc | hc
    · exact hs.spelled.not_dropped (Text.forall_mem_of_all rfl) c hc
    rcases List.mem_append.1 hc with hc | hc
    · have hnone : ∀ d ∈ "://".toList, d ∉ dropped := Text.forall_mem_of_all rfl
      exact hnone c hc
    rcases List.mem_append.1 hc with hc | hc
    · exact ha.not_dropped (Text.forall_mem_of_all rfl) c hc
    · exact not_dropped_of_isPath hp hq c hc
  obtain ⟨fragment', hclean⟩ := exists_clean_eq hbegins hdropped fragment
  have hcut : cutAuthority (dropScheme
      (scheme ++ "://".toList ++ authority ++ path ++ '?' :: query ++ '#' :: fragment')) =
        (authority, path ++ '?' :: query ++ '#' :: fragment') := by
    have htext : scheme ++ "://".toList ++ authority ++ path ++ '?' :: query ++ '#' :: fragment' =
        scheme ++ ':' :: '/' :: '/' ::
          (authority ++ (path ++ '?' :: query ++ '#' :: fragment')) := by
      simp
    rw [htext, dropScheme_append hs]
    obtain ⟨rest, rfl, _⟩ := hp.begins
    exact cutAuthority_append ha _
  rw [← hclean] at hcut
  rw [parse_of_cut hcut ha, ofRest_append hp hq]

end QueryString.Uri
