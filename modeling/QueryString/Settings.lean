import QueryString.Json

/-!
# Settings and choices

The settings in force give each option its default. A caller chooses an option or leaves it open;
`Choice.under` closes what is open with the settings, once and for all: what comes of it is a
`Coding`, which knows nothing of the settings any more.
-/

namespace QueryString

/-- The defaults in force. -/
structure Settings where
  /-- The name of the charset of escaped octets. -/
  charset : Text := "utf-8".toList
  /-- Whether a plus sign stands for a space. -/
  plusAsSpace : Bool := true
  /-- The status of the response to a malformed query. It is passed on as it is, so it need not be
  one that the protocol has. -/
  badRequestStatus : Int := 400
deriving DecidableEq, Repr

/-- Where settings are kept: nowhere, or as the attributes of an object. -/
abbrev SettingsSource := Option (List (Text × Json))

/-- The value of a setting. The default holds if there is no source, if the source says that it is
not configured, or if the source does not have the setting. -/
def SettingsSource.lookup (source : SettingsSource) (name : Text) (default : Json) : Json :=
  match source with
  | none => default
  | some attributes =>
    if ((attributes.lookup "configured".toList).getD (.bool true)).isTrue then
      (attributes.lookup name).getD default
    else default

namespace Settings

/-- The settings that a source gives: each under its name or, if the source does not have it, as it
is by default. There are none if one of them is not of its type. -/
def ofSource (source : SettingsSource) : Option Settings :=
  match source.lookup "QPARAMS_CHARSET".toList (.string ({} : Settings).charset),
    source.lookup "QPARAMS_PLUS_AS_SPACE".toList (.bool ({} : Settings).plusAsSpace),
    source.lookup "QPARAMS_BAD_REQUEST_STATUS".toList
      (.number ({} : Settings).badRequestStatus) with
  | .string charset, .bool plusAsSpace, .number status => some ⟨charset, plusAsSpace, status⟩
  | _, _, _ => none

/-- The settings that a source gives are what is found under their three names. -/
theorem ofSource_eq_some_iff {source : SettingsSource} {settings : Settings} :
    ofSource source = some settings ↔
      source.lookup "QPARAMS_CHARSET".toList (.string "utf-8".toList) =
        .string settings.charset ∧
      source.lookup "QPARAMS_PLUS_AS_SPACE".toList (.bool true) = .bool settings.plusAsSpace ∧
      source.lookup "QPARAMS_BAD_REQUEST_STATUS".toList (.number 400) =
        .number settings.badRequestStatus := by
  unfold ofSource
  constructor
  · intro h
    split at h
    · next hcharset hplus hstatus =>
      obtain rfl := Option.some.inj h
      exact ⟨hcharset, hplus, hstatus⟩
    · cases h
  · rintro ⟨hcharset, hplus, hstatus⟩
    simp only [hcharset, hplus, hstatus]

/-- A source that gives none of the three leaves the defaults in force, whatever else it has, and so
does one that is not configured, whatever it has. -/
theorem ofSource_eq_default {source : SettingsSource}
    (h : ∀ attributes, source = some attributes →
      ((attributes.lookup "configured".toList).getD (.bool true)).isTrue →
        ∀ name ∈ ["QPARAMS_CHARSET".toList, "QPARAMS_PLUS_AS_SPACE".toList,
          "QPARAMS_BAD_REQUEST_STATUS".toList], attributes.lookup name = none) :
    ofSource source = some {} := by
  have hlookup : ∀ name ∈ ["QPARAMS_CHARSET".toList, "QPARAMS_PLUS_AS_SPACE".toList,
      "QPARAMS_BAD_REQUEST_STATUS".toList], ∀ default, source.lookup name default = default := by
    intro name hname default
    unfold SettingsSource.lookup
    cases source with
    | none => rfl
    | some attributes =>
      simp only
      split
      · next hconfigured => rw [h attributes rfl hconfigured name hname, Option.getD_none]
      · rfl
  simp only [List.forall_mem_cons] at hlookup
  exact ofSource_eq_some_iff.2 ⟨hlookup.1 _, hlookup.2.1 _, hlookup.2.2.1 _⟩

end Settings

/-- How names and values are coded. The charset is a name that need not be known. -/
structure Coding where
  /-- The name of the charset of escaped octets. -/
  charset : Text
  /-- Whether a plus sign stands for a space. -/
  plusAsSpace : Bool
deriving DecidableEq, Repr

/-- The options of a coding, each of which may be left open. -/
structure Choice where
  charset : Option Text := none
  plusAsSpace : Option Bool := none
deriving DecidableEq, Repr

/-- The coding of a choice, where the settings decide what was left open. -/
def Choice.under (choice : Choice) (settings : Settings) : Coding where
  charset := choice.charset.getD settings.charset
  plusAsSpace := choice.plusAsSpace.getD settings.plusAsSpace

/-- What one caller says about an option of a request that has its own. -/
inductive Override (α : Type) where
  /-- The request's own option holds. -/
  | own
  /-- The option of the settings holds. -/
  | default
  /-- Another option holds. -/
  | given (a : α)
deriving DecidableEq, Repr

/-- The option that holds, of the request's own and that of the settings. -/
def Override.resolve {α : Type} (override : Override α) (own default : α) : α :=
  match override with
  | .own => own
  | .default => default
  | .given a => a

/-- What a caller says about the options of a coding. -/
structure Overrides where
  charset : Override Text := .own
  plusAsSpace : Override Bool := .own
deriving DecidableEq, Repr

/-- The coding that holds in place of a request's own. -/
def Overrides.resolve (overrides : Overrides) (own : Coding) (settings : Settings) : Coding where
  charset := overrides.charset.resolve own.charset settings.charset
  plusAsSpace := overrides.plusAsSpace.resolve own.plusAsSpace settings.plusAsSpace

/-- Where nothing is left open, the settings do not matter. -/
theorem Choice.under_of_given (charset : Text) (plusAsSpace : Bool) (settings : Settings) :
    Choice.under ⟨some charset, some plusAsSpace⟩ settings = ⟨charset, plusAsSpace⟩ := rfl

end QueryString
