import QueryString.Proofs.Query.Reordering

/-!
# Requests that are the same

Two requests are the same if and only if they have the same path and give the same texts for every
name (`Built.same_iff`): what a request was built from, and the order of its names, do not count. So
being the same is an equivalence, and what is read from a request can be read from any that is the
same (`AnswersAlike`).

For the query of a request this says which orders of its segments come to the same
(`same_iff_texts_eq`): those that give each name its values in the same order, as all those do that
keep the segments of one name in order.
-/

namespace QueryString.Request

/-! ## What is compared -/

/-- Requests are the same if and only if path and texts are. -/
theorem Built.same_iff [Codecs] {r s : Request} (hr : r.Built) (hs : s.Built) :
    r.same s ↔ r.path = s.path ∧ ∀ name, r.texts name = s.texts name := by
  unfold same
  rw [Bool.and_eq_true, beq_iff_eq, hr.wellFormed.same_iff hs.wellFormed]
  rfl

theorem equivalence_same [Codecs] :
    Equivalence fun r s : { r : Request // r.Built } => r.1.same s.1 where
  refl r := by
    rw [r.2.same_iff r.2]
    exact ⟨rfl, fun _ => rfl⟩
  symm {r s} h := by
    rw [r.2.same_iff s.2] at h
    rw [s.2.same_iff r.2]
    exact ⟨h.1.symm, fun name => (h.2 name).symm⟩
  trans {r s t} hrs hst := by
    rw [r.2.same_iff s.2] at hrs
    rw [s.2.same_iff t.2] at hst
    rw [r.2.same_iff t.2]
    exact ⟨hrs.1.trans hst.1, fun name => (hrs.2 name).trans (hst.2 name)⟩

/-! ## What is read -/

/-- Whatever is asked of the parameters of the two requests, the answer is the same. -/
structure AnswersAlike (r s : Request) : Prop where
  hasParameters : r.hasParameters = s.hasParameters
  size : r.parameters.size = s.parameters.size
  isSet : ∀ name, r.isSet name = s.isSet name
  textOr : ∀ name default, r.textOr name default = s.textOr name default
  text : ∀ name, r.text name = s.text name
  integerOr : ∀ name default, r.integerOr name default = s.integerOr name default
  integers : ∀ name, r.integers name = s.integers name
  booleanOr : ∀ name default, r.booleanOr name default = s.booleanOr name default
  booleans : ∀ name, r.booleans name = s.booleans name

/-- A parameter is there if and only if it has a text. -/
theorem Built.isSet_iff [Codecs] {r : Request} (h : r.Built) {name : Text} :
    r.isSet name ↔ r.texts name ≠ [] := by
  show name ∈ r.parameters ↔ _
  rw [Store.mem_iff_mem_names]
  exact h.wellFormed.mem_names_iff

theorem hasParameters_iff {r : Request} : r.hasParameters ↔ 0 < r.parameters.size := by
  rw [hasParameters, Bool.not_eq_true']
  exact Store.isEmpty_eq_false_iff

/-- Every answer comes of the texts. -/
theorem Built.answersAlike [Codecs] {r s : Request} (hr : r.Built) (hs : s.Built)
    (h : ∀ name, r.texts name = s.texts name) : r.AnswersAlike s := by
  have hsize : r.parameters.size = s.parameters.size := by
    rw [Store.size_eq_length_names, Store.size_eq_length_names]
    exact (hr.wellFormed.names_perm hs.wellFormed h).length_eq
  have htext : ∀ name, r.text? name = s.text? name := by
    intro name
    unfold text?
    rw [h]
  refine ⟨?_, hsize, ?_, ?_, ?_, ?_, ?_, ?_, ?_⟩
  · rw [Bool.eq_iff_iff, hasParameters_iff, hasParameters_iff, hsize]
  · intro name
    rw [Bool.eq_iff_iff, hr.isSet_iff, hs.isSet_iff, h]
  · intro name default
    unfold Request.textOr
    rw [htext]
  · intro name
    unfold Request.text
    rw [htext]
  · intro name default
    unfold Request.integerOr
    rw [htext]
  · intro name
    unfold Request.integers
    rw [h]
  · intro name default
    unfold Request.booleanOr
    rw [htext]
  · intro name
    unfold Request.booleans
    rw [h]

/-! ## Segments in another order -/

/-- A query that is the segments of another one in another order gives a request as that one does.
They are the same if the segments of each name are in the same order, and if they are the same, so
are the values of each name. -/
theorem exists_of_reordered [Codecs] {reading : Reading} {path query query' : Text} {r : Request}
    {entries entries' : List (Text × Pair)}
    (hr : ofTarget reading ⟨path, some query⟩ = .ok r)
    (h : Query.HasReadings reading query entries) (hperm : entries'.Perm entries)
    (hsegments : Query.HasSegments query' (entries'.map (·.1))) :
    ∃ r', ofTarget reading ⟨path, some query'⟩ = .ok r' ∧
      (r'.same r ↔ ∀ name, (entries'.filter (·.2.name = name)).map (·.2.value) =
        (entries.filter (·.2.name = name)).map (·.2.value)) := by
  obtain ⟨store, hread, rfl⟩ := ofTarget_eq_ok_iff.1 hr
  rw [Option.getD_some, h.read_eq] at hread
  obtain rfl := Except.ok.inj hread
  have h' := h.of_perm hperm hsegments
  refine ⟨_, ofTarget_eq_ok_iff.2 ⟨_, h'.read_eq, rfl⟩, ?_⟩
  unfold same
  rw [Bool.and_eq_true, beq_self_eq_true, and_iff_right rfl]
  exact Query.same_ofPairs_entries_iff entries' entries

/-- Requests are the same if and only if they have the same path and, under every name, the same
texts in the same order. So this is an equivalence, and requests that are the same answer alike.

Of a query that can be read, the segments can be put in another order, with empty segments among
them or without. If the segments of each name stay in order, the request is the same; if some name
gets other values, or in another order, it is not. -/
theorem same_iff_texts_eq [Codecs] :
    (∀ r s : Request, r.Built → s.Built →
      (r.same s ↔ r.path = s.path ∧ ∀ name, r.texts name = s.texts name) ∧
      (r.same s → r.AnswersAlike s)) ∧
    (Equivalence fun r s : { r : Request // r.Built } => r.1.same s.1) ∧
    ∀ (reading : Reading) (path query : Text) (r : Request),
      ofTarget reading ⟨path, some query⟩ = .ok r →
      (∃ entries, Query.HasReadings reading query entries) ∧
        ∀ entries, Query.HasReadings reading query entries →
          ∀ (query' : Text) (entries' : List (Text × Pair)), entries'.Perm entries →
          Query.HasSegments query' (entries'.map (·.1)) →
          ∃ r', ofTarget reading ⟨path, some query'⟩ = .ok r' ∧
            ((∀ name, entries'.filter (·.2.name = name) = entries.filter (·.2.name = name)) →
              r'.same r) ∧
            ((∃ name, (entries'.filter (·.2.name = name)).map (·.2.value) ≠
                (entries.filter (·.2.name = name)).map (·.2.value)) →
              ¬ r'.same r) := by
  refine ⟨fun r s hr hs => ⟨hr.same_iff hs, fun h => ?_⟩, equivalence_same, ?_⟩
  · exact hr.answersAlike hs ((hr.same_iff hs).1 h).2
  · intro reading path query r hr
    obtain ⟨store, hread, _⟩ := ofTarget_eq_ok_iff.1 hr
    refine ⟨Query.exists_hasReadings hread, ?_⟩
    intro entries hentries query' entries' hperm hsegments
    obtain ⟨r', hr', hsame⟩ := exists_of_reordered hr hentries hperm hsegments
    refine ⟨r', hr', fun h => ?_, ?_⟩
    · rw [hsame]
      intro name
      rw [h]
    · rintro ⟨name, hne⟩ h
      exact hne (hsame.1 h name)

/-- A name in two spellings and a name alone. The name alone may move, but the two values may not
change places; and a request that was not decoded can be the same as one that was. -/
theorem same_iff_texts_eq_utf8 :
    ofTarget (Options.reading {} {}) ⟨['/'], some "a=1&b&%61=2".toList⟩ =
        .ok ⟨['/'], "a=1&b&%61=2".toList, ⟨[(['a'], [['1'], ['2']]), (['b'], [[]])]⟩,
          .decoded ⟨"utf-8".toList, true⟩⟩ ∧
      (∃ r, ofTarget (Options.reading {} {}) ⟨['/'], some "b&&a=1&%61=2".toList⟩ = .ok r ∧
        r.same ⟨['/'], "a=1&b&%61=2".toList, ⟨[(['a'], [['1'], ['2']]), (['b'], [[]])]⟩,
          .decoded ⟨"utf-8".toList, true⟩⟩) ∧
      (∃ r, ofTarget (Options.reading {} {}) ⟨['/'], some "%61=2&b&a=1".toList⟩ = .ok r ∧
        ¬ r.same ⟨['/'], "a=1&b&%61=2".toList, ⟨[(['a'], [['1'], ['2']]), (['b'], [[]])]⟩,
          .decoded ⟨"utf-8".toList, true⟩⟩) ∧
      AnswersAlike ⟨['/'], "a=1&b&%61=2".toList, ⟨[(['a'], [['1'], ['2']]), (['b'], [[]])]⟩,
          .decoded ⟨"utf-8".toList, true⟩⟩
        ⟨['/'], "b&a=1&a=2".toList, ⟨[(['b'], [[]]), (['a'], [['1'], ['2']])]⟩, .raw⟩ := by
  obtain ⟨hsame, -, horder⟩ := same_iff_texts_eq
  have hr : ofTarget (Options.reading {} {}) ⟨['/'], some "a=1&b&%61=2".toList⟩ =
      .ok ⟨['/'], "a=1&b&%61=2".toList, ⟨[(['a'], [['1'], ['2']]), (['b'], [[]])]⟩,
        .decoded ⟨"utf-8".toList, true⟩⟩ := by decide +kernel
  have hraw : ofTarget (Options.reading ⟨false, {}⟩ {}) ⟨['/'], some "b&a=1&a=2".toList⟩ =
      .ok ⟨['/'], "b&a=1&a=2".toList, ⟨[(['b'], [[]]), (['a'], [['1'], ['2']])]⟩, .raw⟩ := by
    decide +kernel
  have hentries : Query.HasReadings (Options.reading {} {}) "a=1&b&%61=2".toList
      [("a=1".toList, ⟨['a'], ['1']⟩), (['b'], ⟨['b'], []⟩), ("%61=2".toList, ⟨['a'], ['2']⟩)] :=
    Query.hasReadings_iff.2 ⟨by decide, by decide +kernel⟩
  have hmoved := (horder _ _ _ _ hr).2 _ hentries
  refine ⟨hr, ?_, ?_, ?_⟩
  · obtain ⟨r, hr', hkept, -⟩ := hmoved "b&&a=1&%61=2".toList
      [(['b'], ⟨['b'], []⟩), ("a=1".toList, ⟨['a'], ['1']⟩), ("%61=2".toList, ⟨['a'], ['2']⟩)]
      (.swap _ _ _) (Query.hasSegments_iff.2 (by decide))
    refine ⟨r, hr', hkept fun name => ?_⟩
    by_cases hname : ['b'] = name
    · subst hname
      rfl
    · simp [List.filter_cons, hname]
  · obtain ⟨r, hr', -, hchanged⟩ := hmoved "%61=2&b&a=1".toList
      [("%61=2".toList, ⟨['a'], ['2']⟩), (['b'], ⟨['b'], []⟩), ("a=1".toList, ⟨['a'], ['1']⟩)]
      (by decide) (Query.hasSegments_iff.2 (by decide))
    exact ⟨r, hr', hchanged ⟨['a'], by decide⟩⟩
  · exact (hsame _ _ (.direct _ _ _ _ hr) (.direct _ _ _ _ hraw)).2 (by decide)

end QueryString.Request
