import QueryString.Gate
import QueryString.Proofs.Coding.Octets
import QueryString.Proofs.Query.Rewritable
import QueryString.Proofs.Query.Segments
import QueryString.Proofs.Request.Scope

/-!
# Which requests are turned away

Two things can be wrong with the octets of a query: one of them is not ASCII, or some pair is
faulty although names and values are decoded (`Malformed`). A request is turned away for these and
for nothing else, and what is said about it is a matter of the octets alone (`Blames`): the first
octet that is not ASCII or else the first fault of the first faulty pair. Every other request comes
to the handler, whatever that is and however it may fail (`turnsAway_iff_malformed`).

The argument follows an error upwards: from a token to its pair, to the pairs of a query
(`Query.HasPairs.read_eq_error_iff`), and to the request of a scope (`ofScope_eq_error_iff_blames`).
-/

namespace QueryString

namespace Query

open Coding (FaultyPair HasPairFault)

theorem HasPairs.isAscii {query : Text} {raw : List Pair} (h : HasPairs query raw)
    (ha : ∀ c ∈ query, Text.isAscii c) {p : Pair} (hp : p ∈ raw) :
    (∀ c ∈ p.name, Text.isAscii c) ∧ ∀ c ∈ p.value, Text.isAscii c := by
  rw [hasPairs_iff] at h
  subst h
  exact (forall_mem_query (P := fun c => Text.isAscii c) rfl rfl query).1 ha p hp

/-- A query of ASCII characters is read if and only if it has no faulty pair. -/
theorem HasPairs.exists_read_ok_iff [Codecs] {query : Text} {raw : List Pair}
    (h : HasPairs query raw) (ha : ∀ c ∈ query, Text.isAscii c) {coding : Coding} {cs : Charset}
    (hcs : Charset.ofName? coding.charset = some cs) :
    (∃ store, read (.decoded coding) query = .ok store) ↔
      ∀ p ∈ raw, ¬ FaultyPair coding.plusAsSpace cs p := by
  simp only [read, h.pairs_eq_mapM]
  rw [exists_map_eq_ok_iff, exists_mapM_ok_iff]
  refine forall₂_congr fun p hp => ?_
  exact Coding.exists_decodePair_ok_iff hcs (h.isAscii ha hp).1 (h.isAscii ha hp).2

/-- A query of ASCII characters is refused for the fault of its first faulty pair. -/
theorem HasPairs.read_eq_error_iff [Codecs] {query : Text} {raw : List Pair}
    (h : HasPairs query raw) (ha : ∀ c ∈ query, Text.isAscii c) {coding : Coding} {cs : Charset}
    (hcs : Charset.ofName? coding.charset = some cs) {e : Error} :
    read (.decoded coding) query = .error e ↔
      ∃ before p after fault, raw = before ++ p :: after ∧
        (∀ q ∈ before, ¬ FaultyPair coding.plusAsSpace cs q) ∧
        HasPairFault coding cs p fault ∧ e = .malformed (.parameter p.name p.value fault) := by
  have hok : ∀ q ∈ raw, (∃ q', coding.decodePair q = .ok q') ↔
      ¬ FaultyPair coding.plusAsSpace cs q := fun q hq =>
    Coding.exists_decodePair_ok_iff hcs (h.isAscii ha hq).1 (h.isAscii ha hq).2
  have herror : ∀ q ∈ raw, coding.decodePair q = .error e ↔ ∃ fault,
      HasPairFault coding cs q fault ∧ e = .malformed (.parameter q.name q.value fault) :=
    fun q hq => Coding.decodePair_eq_parameter_iff hcs (h.isAscii ha hq).1 (h.isAscii ha hq).2
  rw [read, h.pairs_eq_mapM, map_eq_error_iff, mapM_eq_error_iff]
  constructor
  · rintro ⟨before, p, after, rfl, hbefore, hp⟩
    obtain ⟨fault, hf, he⟩ := (herror p (by simp)).1 hp
    exact ⟨before, p, after, fault, rfl,
      fun q hq => (hok q (List.mem_append_left _ hq)).1 (hbefore q hq), hf, he⟩
  · rintro ⟨before, p, after, fault, rfl, hbefore, hf, he⟩
    exact ⟨before, p, after, rfl,
      fun q hq => (hok q (List.mem_append_left _ hq)).2 (hbefore q hq),
      (herror p (by simp)).2 ⟨fault, hf, he⟩⟩

end Query

namespace Gate

open Coding (FaultyPair HasPairFault)

/-! ## What is wrong with a query -/

/-- The octets are no query that can be read: one of them is not ASCII or, where names and values
are decoded, some pair is faulty. -/
inductive Malformed (plusAsSpace : Bool) (cs : Charset) (decode : Bool) (octets : Bytes) :
    Prop where
  | notAscii {b : UInt8} (hmem : b ∈ octets) (hb : 0x80 ≤ b.toNat)
  | faulty {raw : List Pair} {p : Pair} (hd : decode)
    (hpairs : Query.HasPairs (octets.map Text.ofByte) raw) (hmem : p ∈ raw)
    (hp : FaultyPair plusAsSpace cs p)

/-- The error is what is wrong with the octets of a query: the first octet that is not ASCII or,
without one, the fault of the first faulty pair, which is named as it stands. -/
inductive Blames (coding : Coding) (cs : Charset) (decode : Bool) (octets : Bytes) :
    DecodeError → Prop where
  | notAscii {before after : Bytes} {b : UInt8} (ho : octets = before ++ b :: after)
    (hbefore : ∀ x ∈ before, x.toNat < 0x80) (hb : 0x80 ≤ b.toNat) :
    Blames coding cs decode octets (.notAscii octets b before.length)
  | parameter {before after : List Pair} {p : Pair} {fault : ComponentFault} (hd : decode)
    (ha : ∀ b ∈ octets, b.toNat < 0x80)
    (hpairs : Query.HasPairs (octets.map Text.ofByte) (before ++ p :: after))
    (hbefore : ∀ q ∈ before, ¬ FaultyPair coding.plusAsSpace cs q)
    (hp : HasPairFault coding cs p fault) :
    Blames coding cs decode octets (.parameter p.name p.value fault)

theorem Blames.malformed {coding : Coding} {cs : Charset} {decode : Bool} {octets : Bytes}
    {e : DecodeError} (h : Blames coding cs decode octets e) :
    Malformed coding.plusAsSpace cs decode octets := by
  cases h with
  | notAscii ho _ hb => exact .notAscii (ho ▸ List.mem_append_right _ List.mem_cons_self) hb
  | parameter hd _ hpairs _ hp =>
    exact .faulty hd hpairs (List.mem_append_right _ List.mem_cons_self) hp.faultyPair

/-! ## The request of a scope -/

variable {settings : Settings} {cs : Charset}

/-- The gate leaves both options of the coding to the settings. -/
theorem reading_eq (decode : Bool) (settings : Settings) :
    Options.reading ⟨decode, {}⟩ settings =
      if decode then .decoded ⟨settings.charset, settings.plusAsSpace⟩ else .raw := rfl

/-- A scope gives no request exactly for what is wrong with the octets of its query. -/
theorem ofScope_eq_error_iff_blames [Codecs] (hcs : Charset.ofName? settings.charset = some cs)
    {decode : Bool} {scope : Scope} {e : Error} :
    Request.ofScope (Options.reading ⟨decode, {}⟩ settings) scope = .error e ↔
      ∃ e', Blames ⟨settings.charset, settings.plusAsSpace⟩ cs decode scope.queryOctets e' ∧
        e = .malformed e' := by
  rw [Request.ofScope_eq_error_iff]
  constructor
  · rintro (h | ⟨query, hq, hread⟩)
    · obtain ⟨before, b, after, ho, hbefore, hb, rfl⟩ := Scope.queryText_eq_error_iff.1 h
      exact ⟨_, .notAscii ho hbefore hb, rfl⟩
    · obtain ⟨ha, rfl⟩ := Scope.queryText_eq_ok_iff.1 hq
      cases decode with
      -- Without decoding, every query is read.
      | false => cases hread
      | true =>
        have hpairs := Query.hasPairs_rawPairs (scope.queryOctets.map Text.ofByte)
        obtain ⟨before, p, after, fault, hraw, hbefore, hf, rfl⟩ :=
          (hpairs.read_eq_error_iff (Scope.isAscii_map ha) hcs).1 hread
        rw [hraw] at hpairs
        exact ⟨_, .parameter rfl ha hpairs hbefore hf, rfl⟩
  · rintro ⟨e', hblames, rfl⟩
    cases hblames with
    | notAscii ho hbefore hb =>
      exact Or.inl (Scope.queryText_eq_error_iff.2 ⟨_, _, _, ho, hbefore, hb, rfl⟩)
    | parameter hd ha hpairs hbefore hp =>
      refine Or.inr ⟨_, Scope.queryText_eq_ok_iff.2 ⟨ha, rfl⟩, ?_⟩
      rw [reading_eq, if_pos hd, hpairs.read_eq_error_iff (Scope.isAscii_map ha) hcs]
      exact ⟨_, _, _, _, rfl, hbefore, hp, rfl⟩

/-- There is a request of a scope if and only if nothing is wrong with the octets of its query. -/
theorem exists_ofScope_ok_iff_not_malformed [Codecs]
    (hcs : Charset.ofName? settings.charset = some cs) {decode : Bool} {scope : Scope} :
    (∃ r, Request.ofScope (Options.reading ⟨decode, {}⟩ settings) scope = .ok r) ↔
      ¬ Malformed settings.plusAsSpace cs decode scope.queryOctets := by
  constructor
  · rintro ⟨r, hr⟩ hmalformed
    obtain ⟨query, hq, hr⟩ := Request.ofScope_eq_ok_iff.1 hr
    obtain ⟨ha, rfl⟩ := Scope.queryText_eq_ok_iff.1 hq
    cases hmalformed with
    | notAscii hmem hb =>
      have hlt := ha _ hmem
      omega
    | faulty hd hpairs hmem hp =>
      obtain ⟨store, hread, _⟩ := Request.ofTarget_eq_ok_iff.1 hr
      rw [reading_eq, if_pos hd] at hread
      exact (hpairs.exists_read_ok_iff (Scope.isAscii_map ha) hcs).1 ⟨store, hread⟩ _ hmem hp
  · intro hno
    cases hr : Request.ofScope (Options.reading ⟨decode, {}⟩ settings) scope with
    | ok r => exact ⟨r, rfl⟩
    | error e =>
      obtain ⟨e', hblames, _⟩ := (ofScope_eq_error_iff_blames hcs).1 hr
      exact absurd hblames.malformed hno

/-- Where something is wrong, there is an error that says what. -/
theorem Malformed.exists_blames [Codecs] (hcs : Charset.ofName? settings.charset = some cs)
    {decode : Bool} {scope : Scope}
    (h : Malformed settings.plusAsSpace cs decode scope.queryOctets) :
    ∃ e, Blames ⟨settings.charset, settings.plusAsSpace⟩ cs decode scope.queryOctets e := by
  cases hr : Request.ofScope (Options.reading ⟨decode, {}⟩ settings) scope with
  | ok r => exact absurd h ((exists_ofScope_ok_iff_not_malformed hcs).1 ⟨r, hr⟩)
  | error e =>
    obtain ⟨e', hblames, _⟩ := (ofScope_eq_error_iff_blames hcs).1 hr
    exact ⟨e', hblames⟩

/-! ## The run -/

/-- The client is given the status for malformed queries, whatever the handler would do. -/
def TurnsAway [Codecs] (server : Server) (settings : Settings) (decode : Bool) (scope : Scope)
    (body : Bytes) : Prop :=
  ∃ messages log failure, (∃ headers, .start settings.badRequestStatus headers ∈ messages) ∧
    ∀ (ε : Type) (handler : Handler ε), run server settings decode handler scope body =
      ⟨messages, log, (failure : Option Error).map .build⟩

variable {server : Server} {ε : Type}

/-- What the client is told, and what is written down. -/
theorem reject_eq (hserver : server.Documented) (scope : Scope) (e : DecodeError) :
    (reject server settings scope e : Run ε) =
      ⟨[.start settings.badRequestStatus
          [("Content-Type".toList, "text/plain; charset=utf-8".toList)],
        .body (Utf8.encode (rejectionText e)) false],
      [.rejected scope.path e.name? e.value? e.position?], none⟩ := by
  rw [reject, Server.sendText, hserver.sendResponse_eq]
  rfl

section Codecs

variable [Codecs]

theorem run_of_blames (hcs : Charset.ofName? settings.charset = some cs) {decode : Bool}
    {scope : Scope} {e : DecodeError}
    (h : Blames ⟨settings.charset, settings.plusAsSpace⟩ cs decode scope.queryOctets e)
    (handler : Handler ε) (body : Bytes) :
    run server settings decode handler scope body = reject server settings scope e := by
  rw [run, (ofScope_eq_error_iff_blames hcs).2 ⟨e, h, rfl⟩]

theorem run_of_ok {decode : Bool} {scope : Scope} {r : Request}
    (h : Request.ofScope (Options.reading ⟨decode, {}⟩ settings) scope = .ok r)
    (handler : Handler ε) (body : Bytes) :
    run server settings decode handler scope body =
      ⟨(handler r body).messages, r.log, (handler r body).failure.map .handle⟩ := by
  rw [run, h]

/-- A request that comes to the handler is not turned away: a handler may send nothing. -/
theorem not_turnsAway_of_ok {decode : Bool} {scope : Scope} {r : Request}
    (h : Request.ofScope (Options.reading ⟨decode, {}⟩ settings) scope = .ok r)
    (body : Bytes) : ¬ TurnsAway server settings decode scope body := by
  rintro ⟨messages, log, failure, ⟨headers, hmem⟩, hrun⟩
  have hsilent := hrun Empty fun _ _ => ⟨[], none⟩
  rw [run_of_ok h] at hsilent
  obtain rfl : [] = messages := congrArg Run.messages hsilent
  exact absurd hmem List.not_mem_nil

/-- A request is turned away if and only if something is wrong with the octets of its query. Then
the client is told what it is, one warning is written down, and nothing else in the scope, nor the
body, nor the handler has a part in the response. Otherwise what comes of the request is what the
handler makes of it and of its body: its messages, and the failure that it ends with. -/
theorem turnsAway_iff_malformed (hserver : server.Documented) (settings : Settings) (cs : Charset)
    (hcs : Charset.ofName? settings.charset = some cs) (decode : Bool) (scope : Scope)
    (body : Bytes) :
    (TurnsAway server settings decode scope body ↔
      Malformed settings.plusAsSpace cs decode scope.queryOctets) ∧
    (Malformed settings.plusAsSpace cs decode scope.queryOctets →
      ∃ e, Blames ⟨settings.charset, settings.plusAsSpace⟩ cs decode scope.queryOctets e ∧
        ∀ scope' : Scope, scope'.queryOctets = scope.queryOctets →
          ∀ (ε : Type) (handler : Handler ε) body',
            run server settings decode handler scope' body' =
              ⟨[.start settings.badRequestStatus
                  [("Content-Type".toList, "text/plain; charset=utf-8".toList)],
                .body (Utf8.encode ("Bad query string: ".toList ++ e.message)) false],
              [.rejected scope'.path e.name? e.value? e.position?], none⟩) ∧
    (¬ Malformed settings.plusAsSpace cs decode scope.queryOctets →
      ∃ r, Request.ofScope (Options.reading ⟨decode, {}⟩ settings) scope = .ok r ∧
        ∀ (ε : Type) (handler : Handler ε), run server settings decode handler scope body =
          ⟨(handler r body).messages, r.log, (handler r body).failure.map .handle⟩) := by
  refine ⟨⟨?_, ?_⟩, ?_, ?_⟩
  · intro haway
    by_contra hno
    obtain ⟨r, hr⟩ := (exists_ofScope_ok_iff_not_malformed hcs).2 hno
    exact not_turnsAway_of_ok hr body haway
  · intro hmalformed
    obtain ⟨e, hblames⟩ := hmalformed.exists_blames hcs
    refine ⟨_, _, none, ?_, fun ε handler =>
      (run_of_blames hcs hblames handler body).trans (reject_eq hserver scope e)⟩
    exact ⟨_, List.mem_cons_self⟩
  · intro hmalformed
    obtain ⟨e, hblames⟩ := hmalformed.exists_blames hcs
    refine ⟨e, hblames, fun scope' hscope ε handler body' => ?_⟩
    exact (run_of_blames hcs (hscope ▸ hblames) handler body').trans (reject_eq hserver scope' e)
  · intro hno
    obtain ⟨r, hr⟩ := (exists_ofScope_ok_iff_not_malformed hcs).2 hno
    exact ⟨r, hr, fun ε handler => run_of_ok hr handler body⟩

end Codecs

/-- A bad escape in the second pair: it matters only where names and values are decoded. -/
theorem turnsAway_iff_malformed_utf8 :
    TurnsAway .direct {} true ⟨none, none, some (Utf8.encode "a=1&b=%ZZ".toList)⟩ [] ∧
      ¬ TurnsAway .direct {} false ⟨none, none, some (Utf8.encode "a=1&b=%ZZ".toList)⟩ [] := by
  have hserver := Server.direct_documented
  have hpairs : Query.HasPairs ((Utf8.encode "a=1&b=%ZZ".toList).map Text.ofByte)
      [⟨['a'], ['1']⟩, ⟨['b'], "%ZZ".toList⟩] := Query.hasPairs_iff.2 (by decide)
  have hfaulty : FaultyPair true .utf8 ⟨['b'], "%ZZ".toList⟩ :=
    Or.inr (Or.inl ⟨0, (Percent.badEscape?_eq_some_iff.1 (by decide)).1⟩)
  constructor
  · exact (turnsAway_iff_malformed hserver {} .utf8 (by decide) true _ []).1.2
      (.faulty rfl hpairs (by decide) hfaulty)
  · intro haway
    cases (turnsAway_iff_malformed hserver {} .utf8 (by decide) false _ []).1.1 haway with
    | notAscii hmem hb =>
      have hall : (Utf8.encode "a=1&b=%ZZ".toList).all Scope.isAsciiOctet := by decide
      have hlt := Scope.isAsciiOctet_iff.1 (List.all_eq_true.1 hall _ hmem)
      exact absurd hlt (Nat.not_lt.2 hb)
    | faulty hd => cases hd

end Gate

end QueryString
