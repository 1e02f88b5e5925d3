import QueryString.Proofs.Query.RoundTrip
import QueryString.Request.Basic

/-!
# Requests that are built

There are three ways to build a request, and all of them read its parameters from its query
(`Built.read_queryString`). So whatever holds of the store that a query gives holds of the
parameters of every request.
-/

namespace QueryString.Request

/-- A request that was built by one of the three ways to build one. -/
inductive Built [Codecs] : Request → Prop where
  | direct {r : Request} (options : Options) (settings : Settings) (path : Text)
    (query : Option Text) (h : ofTarget (options.reading settings) ⟨path, query⟩ = .ok r) : Built r
  | uri {r : Request} (options : Options) (settings : Settings) (uri : Text)
    (h : ofUri (options.reading settings) uri = .ok r) : Built r
  | scope {r : Request} (options : Options) (settings : Settings) (scope : Scope)
    (h : ofScope (options.reading settings) scope = .ok r) : Built r

theorem ofTarget_eq_ok_iff [Codecs] {reading : Reading} {target : Target} {r : Request} :
    ofTarget reading target = .ok r ↔
      ∃ store, Query.read reading (target.query.getD []) = .ok store ∧
        ⟨Percent.repair target.path, target.query.getD [], store, reading⟩ = r := by
  unfold ofTarget
  rw [Query.parse_result]
  cases Query.read reading (target.query.getD []) with
  | error e => simp
  | ok store => simp

theorem ofTarget_eq_error_iff [Codecs] {reading : Reading} {target : Target} {e : Error} :
    ofTarget reading target = .error e ↔
      Query.read reading (target.query.getD []) = .error e := by
  unfold ofTarget
  rw [Query.parse_result]
  cases Query.read reading (target.query.getD []) <;> simp

/-- Whichever way a request was built, its parameters were read from its query. -/
theorem Built.read_queryString [Codecs] {r : Request} (h : r.Built) :
    Query.read r.reading r.queryString = .ok r.parameters := by
  obtain ⟨reading, target, h⟩ : ∃ reading target, ofTarget reading target = .ok r := by
    cases h with
    | direct options settings path query h => exact ⟨_, _, h⟩
    | uri options settings uri h =>
      obtain ⟨target, _, h⟩ := bind_eq_ok_iff.1 h
      exact ⟨_, target, h⟩
    | scope options settings scope h =>
      obtain ⟨target, _, h⟩ := bind_eq_ok_iff.1 h
      exact ⟨_, target, h⟩
  obtain ⟨store, hread, rfl⟩ := ofTarget_eq_ok_iff.1 h
  exact hread

/-- The parameters of a request have each name once and no name without a value. -/
theorem Built.wellFormed [Codecs] {r : Request} (h : r.Built) : r.parameters.WellFormed :=
  Query.wellFormed_of_read h.read_queryString

end QueryString.Request
