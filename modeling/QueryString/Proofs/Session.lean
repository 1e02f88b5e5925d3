import Mathlib.Data.List.Forall2
import QueryString.Proofs.Request.Scope
import QueryString.Proofs.Request.Serialisation
import QueryString.Session

/-!
# What the settings decide

The settings decide the options that a call leaves open, and nothing else
(`settings_decide_open_options`). Calls that leave nothing open are answered in the same way under
all settings, whatever values they give; and an option that is left open can be closed with that of
the settings. Only the options for writing a request have a third way: where the caller says nothing
they are those that the request was built with.

Both are about two runs whose calls come to the same codings, one by one (`Call.Agrees`). One call
is answered alike in both, and leaves the same requests behind (`step_eq_of_agrees`); so the runs
are alike to their ends (`run_eq_of_agrees`).
-/

namespace QueryString

/-! ## Open and closed options -/

/-- Both options are given, whatever they are. -/
def Choice.IsClosed (choice : Choice) : Prop :=
  ∃ charset plusAsSpace, choice = ⟨some charset, some plusAsSpace⟩

/-- No option is left to the settings: each is given, or it is the request's own. -/
structure Overrides.IsClosed (overrides : Overrides) : Prop where
  charset : overrides.charset ≠ .default
  plusAsSpace : overrides.plusAsSpace ≠ .default

/-- The second choice is the first one, where options that are open may be closed with those of the
settings. -/
structure Choice.ClosedBy (settings : Settings) (choice choice' : Choice) : Prop where
  charset : choice'.charset = choice.charset ∨
    choice.charset = none ∧ choice'.charset = some settings.charset
  plusAsSpace : choice'.plusAsSpace = choice.plusAsSpace ∨
    choice.plusAsSpace = none ∧ choice'.plusAsSpace = some settings.plusAsSpace

/-- The second overrides are the first ones, where options that are left to the settings may be
given as the settings have them. -/
structure Overrides.ClosedBy (settings : Settings) (overrides overrides' : Overrides) : Prop where
  charset : overrides'.charset = overrides.charset ∨
    overrides.charset = .default ∧ overrides'.charset = .given settings.charset
  plusAsSpace : overrides'.plusAsSpace = overrides.plusAsSpace ∨
    overrides.plusAsSpace = .default ∧ overrides'.plusAsSpace = .given settings.plusAsSpace

/-- The overrides that give both options of a coding. -/
def Overrides.ofCoding (coding : Coding) : Overrides :=
  ⟨.given coding.charset, .given coding.plusAsSpace⟩

section Options

variable {α : Type} {default : α} {settings settings' : Settings}

theorem getD_eq_of_closed {o o' : Option α} (h : o' = o ∨ o = none ∧ o' = some default) :
    o.getD default = o'.getD default := by
  rcases h with rfl | ⟨rfl, rfl⟩ <;> rfl

theorem Override.resolve_eq_of_closed {o o' : Override α}
    (h : o' = o ∨ o = .default ∧ o' = .given default) (own : α) :
    o.resolve own default = o'.resolve own default := by
  rcases h with rfl | ⟨rfl, rfl⟩ <;> rfl

theorem Override.resolve_eq_of_ne_default {o : Override α} (h : o ≠ .default) (own a b : α) :
    o.resolve own a = o.resolve own b := by
  cases o with
  | own => rfl
  | default => exact absurd rfl h
  | given _ => rfl

theorem Choice.IsClosed.under_eq {choice : Choice} (h : choice.IsClosed)
    (settings settings' : Settings) : choice.under settings = choice.under settings' := by
  obtain ⟨charset, plusAsSpace, rfl⟩ := h
  rw [Choice.under_of_given, Choice.under_of_given]

theorem Choice.ClosedBy.under_eq {choice choice' : Choice} (h : choice.ClosedBy settings choice') :
    choice.under settings = choice'.under settings := by
  rw [Choice.under, Choice.under, getD_eq_of_closed h.charset, getD_eq_of_closed h.plusAsSpace]

theorem Overrides.IsClosed.resolve_eq {overrides : Overrides} (h : overrides.IsClosed)
    (settings settings' : Settings) (own : Coding) :
    overrides.resolve own settings = overrides.resolve own settings' := by
  rw [Overrides.resolve, Overrides.resolve,
    Override.resolve_eq_of_ne_default h.charset _ _ settings'.charset,
    Override.resolve_eq_of_ne_default h.plusAsSpace _ _ settings'.plusAsSpace]

theorem Overrides.ClosedBy.resolve_eq {overrides overrides' : Overrides}
    (h : overrides.ClosedBy settings overrides') (own : Coding) :
    overrides.resolve own settings = overrides'.resolve own settings := by
  rw [Overrides.resolve, Overrides.resolve, Override.resolve_eq_of_closed h.charset,
    Override.resolve_eq_of_closed h.plusAsSpace]

/-- Where the caller says nothing, the settings do not matter. -/
theorem Overrides.isClosed_own : Overrides.IsClosed {} := ⟨nofun, nofun⟩

end Options

namespace Request

variable {settings settings' : Settings} {overrides overrides' : Overrides}

/-- A request is written alike where its coding comes to the same. -/
theorem toQueryString_congr [Codecs]
    (h : ∀ own, overrides.resolve own settings = overrides'.resolve own settings') (r : Request) :
    r.toQueryString settings overrides = r.toQueryString settings' overrides' := by
  unfold toQueryString
  cases r.reading with
  | raw => rfl
  | decoded own => exact congrArg (Query.encode · r.parameters.items) (h own)

theorem reading_of_ofTarget [Codecs] {reading : Reading} {target : Target} {r : Request}
    (h : ofTarget reading target = .ok r) : r.reading = reading := by
  obtain ⟨_, _, rfl⟩ := ofTarget_eq_ok_iff.1 h
  rfl

end Request

namespace Session

/-! ## Calls that differ in their options -/

/-- No option is left to the settings. -/
def Call.IsClosed : Call → Prop
  | .decode choice _ => choice.IsClosed
  | .encode choice _ => choice.IsClosed
  | .encodeQuery choice _ => choice.IsClosed
  | .parse options _ => options.choice.IsClosed
  | .build options _ _ => options.choice.IsClosed
  | .write overrides _ => overrides.IsClosed
  | .ask _ _ => True

/-- The two calls are one but for their options, which are related. -/
inductive Call.Varies (R : Choice → Choice → Prop) (Q : Overrides → Overrides → Prop) :
    Call → Call → Prop where
  | decode {choice choice' : Choice} (h : R choice choice') (raw : Text) :
    Varies R Q (.decode choice raw) (.decode choice' raw)
  | encode {choice choice' : Choice} (h : R choice choice') (t : Text) :
    Varies R Q (.encode choice t) (.encode choice' t)
  | encodeQuery {choice choice' : Choice} (h : R choice choice') (pairs : List Pair) :
    Varies R Q (.encodeQuery choice pairs) (.encodeQuery choice' pairs)
  | parse {choice choice' : Choice} (h : R choice choice') (decode : Bool) (query : Option Text) :
    Varies R Q (.parse ⟨decode, choice⟩ query) (.parse ⟨decode, choice'⟩ query)
  | build {choice choice' : Choice} (h : R choice choice') (decode : Bool) (slot : Text)
    (source : Source) :
    Varies R Q (.build ⟨decode, choice⟩ slot source) (.build ⟨decode, choice'⟩ slot source)
  | write {overrides overrides' : Overrides} (h : Q overrides overrides') (slot : Text) :
    Varies R Q (.write overrides slot) (.write overrides' slot)
  | ask (slot : Text) (question : Question) : Varies R Q (.ask slot question) (.ask slot question)

/-- The second call is the first one, where options that are left to the settings may be given as
the settings have them. -/
abbrev Call.ClosedBy (settings : Settings) : Call → Call → Prop :=
  Varies (Choice.ClosedBy settings) (Overrides.ClosedBy settings)

/-- The two calls come to the same codings, each under its own settings. -/
abbrev Call.Agrees (settings settings' : Settings) : Call → Call → Prop :=
  Varies (fun choice choice' => choice.under settings = choice'.under settings')
    (fun overrides overrides' =>
      ∀ own, overrides.resolve own settings = overrides'.resolve own settings')

theorem Call.Varies.mono {R R' : Choice → Choice → Prop} {Q Q' : Overrides → Overrides → Prop}
    (hR : ∀ c c', R c c' → R' c c') (hQ : ∀ o o', Q o o' → Q' o o') {call call' : Call}
    (h : call.Varies R Q call') : call.Varies R' Q' call' := by
  cases h with
  | decode h raw => exact .decode (hR _ _ h) raw
  | encode h t => exact .encode (hR _ _ h) t
  | encodeQuery h pairs => exact .encodeQuery (hR _ _ h) pairs
  | parse h decode query => exact .parse (hR _ _ h) decode query
  | build h decode slot source => exact .build (hR _ _ h) decode slot source
  | write h slot => exact .write (hQ _ _ h) slot
  | ask slot question => exact .ask slot question

theorem Call.ClosedBy.agrees {settings : Settings} {call call' : Call}
    (h : call.ClosedBy settings call') : call.Agrees settings settings call' :=
  h.mono (fun _ _ hc => hc.under_eq) fun _ _ ho => ho.resolve_eq

theorem Call.IsClosed.agrees {call : Call} (h : call.IsClosed) (settings settings' : Settings) :
    call.Agrees settings settings' call := by
  cases call with
  | decode choice raw => exact .decode (h.under_eq _ _) raw
  | encode choice t => exact .encode (h.under_eq _ _) t
  | encodeQuery choice pairs => exact .encodeQuery (h.under_eq _ _) pairs
  | parse options query => exact .parse (h.under_eq _ _) options.decode query
  | build options slot source => exact .build (h.under_eq _ _) options.decode slot source
  | write overrides slot => exact .write (h.resolve_eq _ _) slot
  | ask slot question => exact .ask slot question

/-! ## Two runs -/

variable {settings settings' : Settings}

theorem reading_eq_of_under_eq {choice choice' : Choice}
    (h : choice.under settings = choice'.under settings') (decode : Bool) :
    Options.reading ⟨decode, choice⟩ settings = Options.reading ⟨decode, choice'⟩ settings' := by
  rw [Options.reading, Options.reading, h]

/-- Where a request is built from another one, that one is written as it was read. -/
theorem again_eq [Codecs] (settings settings' : Settings) (reading : Reading) (path : Text) :
    again settings reading path = again settings' reading path := by
  funext r
  rw [again, again,
    r.toQueryString_congr (Overrides.isClosed_own.resolve_eq settings settings')]

theorem build_eq [Codecs] (settings settings' : Settings) (slots : Slots) (reading : Reading)
    (source : Source) :
    build settings slots reading source = build settings' slots reading source := by
  cases source with
  | target _ => rfl
  | uri _ => rfl
  | scope _ => rfl
  | again path slot => rw [build, build, again_eq settings settings']

/-- A request remembers the reading that it was built with. -/
theorem reading_of_build [Codecs] {slots : Slots} {reading : Reading} {source : Source}
    {r : Request} (h : build settings slots reading source = .ok r) : r.reading = reading := by
  obtain ⟨target, htarget⟩ : ∃ target, Request.ofTarget reading target = .ok r := by
    cases source with
    | target target => exact ⟨target, mapError_eq_ok_iff.1 h⟩
    | uri uri =>
      obtain ⟨target, _, h⟩ := bind_eq_ok_iff.1 (mapError_eq_ok_iff.1 h)
      exact ⟨target, h⟩
    | scope scope =>
      obtain ⟨target, _, h⟩ := bind_eq_ok_iff.1 (mapError_eq_ok_iff.1 h)
      exact ⟨target, h⟩
    | again path slot =>
      obtain ⟨_, _, h⟩ := bind_eq_ok_iff.1 h
      obtain ⟨query, _, h⟩ := bind_eq_ok_iff.1 (mapError_eq_ok_iff.1 h)
      exact ⟨_, h⟩
  exact Request.reading_of_ofTarget htarget

theorem reading_of_step [Codecs] {slots : Slots} {options : Options} {slot : Text} {source : Source}
    {r : Request} (h : (step settings slots (.build options slot source)).1 = .ok (.request r)) :
    r.reading = options.reading settings := by
  rw [step] at h
  split at h
  · next hbuild =>
    obtain rfl := Answer.request.inj (Except.ok.inj h)
    exact reading_of_build hbuild
  · cases h

/-- A call that comes to the same codings is answered alike, and leaves the same requests behind. -/
theorem step_eq_of_agrees [Codecs] {call call' : Call} (h : call.Agrees settings settings' call')
    (slots : Slots) : step settings slots call = step settings' slots call' := by
  cases h with
  | decode h raw => rw [step, step, h]
  | encode h t => rw [step, step, h]
  | encodeQuery h pairs => rw [step, step, h]
  | parse h decode query => rw [step, step, reading_eq_of_under_eq h]
  | build h decode slot source =>
    rw [step, step, reading_eq_of_under_eq h, build_eq settings settings']
  | write h slot =>
    simp only [step, Request.toQueryString_congr h]
  | ask slot question => rfl

/-- Calls that come to the same codings, one by one, are answered alike to the last of them. -/
theorem run_eq_of_agrees [Codecs] {calls calls' : List Call}
    (h : List.Forall₂ (Call.Agrees settings settings') calls calls') (slots : Slots) :
    run settings slots calls = run settings' slots calls' := by
  induction h generalizing slots with
  | nil => rfl
  | cons hcall _ ih => rw [run, run, step_eq_of_agrees hcall, ih]

/-! ## What the settings decide -/

/-- Under whichever settings, calls that leave nothing to them are answered in the same way. An
option that is left to the settings may be given as they have it. A request is written with those of
its own options that are not overridden: they are what it was built with, given or left to the
settings of that time. -/
theorem settings_decide_open_options [Codecs] (settings settings' : Settings) (slots : Slots)
    (calls : List Call) :
    ((∀ call ∈ calls, call.IsClosed) → run settings slots calls = run settings' slots calls) ∧
    (∀ calls', List.Forall₂ (Call.ClosedBy settings) calls calls' →
      run settings slots calls = run settings slots calls') ∧
    ∀ options slot source r,
      (step settings slots (.build options slot source)).1 = .ok (.request r) →
      ∀ overrides : Overrides, r.toQueryString settings' overrides =
        r.toQueryString settings
          (.ofCoding (overrides.resolve (options.choice.under settings) settings')) := by
  refine ⟨fun h => ?_, fun calls' h => ?_, fun options slot source r h overrides => ?_⟩
  · refine run_eq_of_agrees (List.forall₂_same.2 fun call hcall => ?_) slots
    exact (h call hcall).agrees settings settings'
  · exact run_eq_of_agrees (h.imp fun _ _ hcall => hcall.agrees) slots
  · have hreading := reading_of_step h
    unfold Options.reading at hreading
    unfold Request.toQueryString
    split at hreading
    · rw [hreading]
      rfl
    · rw [hreading]

/-- A charset without a name and a plus sign that stands for itself are options like any other. A
request that was read as Latin-1 because the settings said so is written in it under others. -/
theorem settings_decide_open_options_latin1 :
    (run ⟨"latin-1".toList, true, 400⟩ []
        [.decode ⟨some [], some false⟩ "%41+".toList,
          .build ⟨true, ⟨some [], some false⟩⟩ ['r'] (.target ⟨['/'], some "a=+".toList⟩),
          .ask ['r'] (.text ['a']), .write {} ['r']] =
      run ⟨"utf-8".toList, true, 422⟩ []
        [.decode ⟨some [], some false⟩ "%41+".toList,
          .build ⟨true, ⟨some [], some false⟩⟩ ['r'] (.target ⟨['/'], some "a=+".toList⟩),
          .ask ['r'] (.text ['a']), .write {} ['r']]) ∧
    (run ⟨"latin-1".toList, true, 400⟩ []
        [.decode ⟨none, some false⟩ "%E9+".toList, .write ⟨.default, .own⟩ ['r']] =
      run ⟨"latin-1".toList, true, 400⟩ []
        [.decode ⟨some "latin-1".toList, some false⟩ "%E9+".toList,
          .write ⟨.given "latin-1".toList, .own⟩ ['r']]) ∧
    ∃ r, (step ⟨"latin-1".toList, true, 400⟩ []
        (.build {} ['r'] (.target ⟨['/'], some "a=%E9+".toList⟩))).1 = .ok (.request r) ∧
      r.toQueryString ⟨"utf-8".toList, false, 422⟩ ⟨.own, .default⟩ = .ok "a=%E9%20".toList := by
  refine ⟨?_, ?_, ?_⟩
  · refine (settings_decide_open_options _ ⟨"utf-8".toList, true, 422⟩ [] _).1 ?_
    have hclosed : Choice.IsClosed ⟨some [], some false⟩ := ⟨[], false, rfl⟩
    simp only [List.forall_mem_cons]
    exact ⟨hclosed, hclosed, trivial, Overrides.isClosed_own, fun _ h => absurd h List.not_mem_nil⟩
  · refine (settings_decide_open_options ⟨"latin-1".toList, true, 400⟩ {} [] _).2.1 _ ?_
    exact .cons (.decode ⟨.inr ⟨rfl, rfl⟩, .inl rfl⟩ _)
      (.cons (.write ⟨.inr ⟨rfl, rfl⟩, .inl rfl⟩ _) .nil)
  · have hr : (step ⟨"latin-1".toList, true, 400⟩ []
        (.build {} ['r'] (.target ⟨['/'], some "a=%E9+".toList⟩))).1 =
          .ok (.request ⟨['/'], "a=%E9+".toList, ⟨[(['a'], ["é ".toList])]⟩,
            .decoded ⟨"latin-1".toList, true⟩⟩) := by
      decide +kernel
    refine ⟨_, hr, ?_⟩
    rw [(settings_decide_open_options ⟨"latin-1".toList, true, 400⟩ ⟨"utf-8".toList, false, 422⟩ []
      []).2.2 _ _ _ _ hr]
    decide +kernel

end Session

end QueryString
