import QueryString.Proofs.Gate
import QueryString.Proofs.Request.Sources
import QueryString.Proofs.Text.Quoted

/-!
# What a client is told

A request that is turned away is answered with the words of its error, and these show parts of the
query. Whatever octets the query has, the answer has none but those from the space to the tilde
(`rejection_is_visible`).

This holds of the words for each error: a part of the query is shown in quotation marks only, and it
is ASCII before it comes there (`Blames.isVisible_message`), since a query that is not ASCII is
refused before it has parts. The name of the charset is shown as it is, but it must be one that is
known.
-/

namespace QueryString

open Text (IsVisible)

/-! ## Words -/

/-- Whatever is wrong with octets in UTF-8 is one of the faults that have a name. -/
theorem Utf8.decodeFrom_ne_other (p : Option Begun) (bs : Bytes) (reason : Text) :
    decodeFrom p bs ≠ .error (.other reason) := by
  fun_induction decodeFrom p bs with
  | case1 | case2 | case5 | case8 => nofun
  | case3 _ _ _ _ ih | case6 _ _ _ _ _ ih => rwa [ne_eq, map_eq_error_iff]
  | case4 _ _ _ _ ih | case7 _ _ _ _ _ ih => exact ih

namespace Charset

theorem eq_of_singleByte {fault e : ByteFault} {char? : UInt8 → Option Char} {b : UInt8}
    (h : singleByte fault char? b = .error e) : e = fault := by
  unfold singleByte at h
  split at h
  · cases h
  · exact (Except.error.inj h).symm

/-- In the four charsets nothing else is ever wrong with octets either. -/
theorem decode_ne_other (cs : Charset) (bs : Bytes) (reason : Text) :
    cs.decode bs ≠ .error (.other reason) := by
  intro h
  cases cs with
  | utf8 => exact Utf8.decodeFrom_ne_other none bs reason h
  | latin1 => cases h
  | ascii =>
    obtain ⟨_, b, _, _, _, hb⟩ := mapM_eq_error_iff.1 h
    cases eq_of_singleByte hb
  | windows1252 =>
    obtain ⟨_, b, _, _, _, hb⟩ := mapM_eq_error_iff.1 h
    cases eq_of_singleByte hb

/-- The faults of the four charsets are said in visible characters. -/
theorem isVisible_reason_of_decode {cs : Charset} {bs : Bytes} {fault : ByteFault}
    (h : cs.decode bs = .error fault) : ∀ c ∈ fault.reason, IsVisible c := by
  cases fault with
  | other reason => exact absurd h (cs.decode_ne_other bs reason)
  | _ => exact Text.forall_mem_of_all rfl

theorem isVisible_of_toLower {c : Char} (h : IsVisible c.toLower) : IsVisible c := by
  unfold Char.toLower at h
  split at h
  · next hc =>
    obtain ⟨hlow, hhigh⟩ := hc
    have hlow : 0x41 ≤ c.toNat := hlow
    have hhigh : c.toNat ≤ 0x5A := hhigh
    exact ⟨by omega, by omega⟩
  · exact h

/-- A name that is known is visible, in whatever letter case. -/
theorem isVisible_of_ofName? {name : Text} {cs : Charset} (h : ofName? name = some cs) :
    ∀ c ∈ name, IsVisible c := by
  have hall : ∀ row ∈ names, row.1.all fun c => decide (IsVisible c) := by decide
  obtain ⟨before, after, hnames, _⟩ := List.lookup_eq_some_iff.1 h
  have hrow := hall (foldName name, cs) (hnames ▸ by simp)
  intro c hc
  have hfold := Text.forall_mem_of_all hrow _ (List.mem_map_of_mem hc)
  split at hfold
  · next he => exact he ▸ by decide
  · exact isVisible_of_toLower hfold

end Charset

/-! ## Errors in words -/

namespace Coding

variable {coding : Coding} {cs : Charset}

theorem HasFault.isVisible_message (hcs : Charset.ofName? coding.charset = some cs) {raw : Text}
    (ha : ∀ c ∈ raw, Text.isAscii c) {fault : ComponentFault} (h : HasFault coding cs raw fault) :
    ∀ c ∈ fault.message, IsVisible c := by
  cases h with
  | badEscape _ =>
    unfold ComponentFault.message
    simp only [List.forall_mem_append]
    refine ⟨⟨⟨Text.forall_mem_of_all rfl, fun c => Text.isVisible_of_mem_quoted ?_⟩,
      Text.forall_mem_of_all rfl⟩, fun c => Text.isVisible_of_mem_ofNat⟩
    exact fun d hd => ha d (List.mem_of_mem_drop (List.mem_of_mem_take hd))
  | badOctets _ hfault =>
    unfold ComponentFault.message
    simp only [List.forall_mem_append]
    exact ⟨⟨⟨Text.forall_mem_of_all rfl, Charset.isVisible_of_ofName? hcs⟩,
      Text.forall_mem_of_all rfl⟩, Charset.isVisible_reason_of_decode hfault⟩

theorem HasPairFault.isVisible_message (hcs : Charset.ofName? coding.charset = some cs) {p : Pair}
    (hname : ∀ c ∈ p.name, Text.isAscii c) (hvalue : ∀ c ∈ p.value, Text.isAscii c)
    {fault : ComponentFault} (h : HasPairFault coding cs p fault) :
    ∀ c ∈ fault.message, IsVisible c := by
  cases h with
  | name h => exact h.isVisible_message hcs hname
  | value _ h => exact h.isVisible_message hcs hvalue

end Coding

namespace Gate

/-- What is wrong with the octets of a query is said in visible characters. -/
theorem Blames.isVisible_message {coding : Coding} {cs : Charset}
    (hcs : Charset.ofName? coding.charset = some cs) {decode : Bool} {octets : Bytes}
    {e : DecodeError} (h : Blames coding cs decode octets e) : ∀ c ∈ e.message, IsVisible c := by
  cases h with
  | notAscii _ _ _ =>
    unfold DecodeError.message
    simp only [List.forall_mem_append]
    exact ⟨⟨⟨⟨Text.forall_mem_of_all rfl, fun c => Text.isVisible_of_mem_padded⟩,
      Text.forall_mem_of_all rfl⟩, fun c => Text.isVisible_of_mem_ofNat⟩,
      Text.forall_mem_of_all rfl⟩
  | parameter _ ha hpairs _ hp =>
    obtain ⟨hname, hvalue⟩ := hpairs.isAscii (Scope.isAscii_map ha)
      (List.mem_append_right _ List.mem_cons_self)
    unfold DecodeError.message
    simp only [List.forall_mem_append]
    exact ⟨⟨⟨⟨⟨Text.forall_mem_of_all rfl, fun c => Text.isVisible_of_mem_quoted hname⟩,
      Text.forall_mem_of_all rfl⟩, fun c => Text.isVisible_of_mem_quoted hvalue⟩,
      Text.forall_mem_of_all rfl⟩, hp.isVisible_message hcs hname hvalue⟩

/-! ## The answer -/

/-- A text of visible characters is sent as one octet for each. -/
theorem forall_mem_encode_of_isVisible {t : Text} (h : ∀ c ∈ t, IsVisible c) :
    (Utf8.encode t).map Text.ofByte = t ∧
      ∀ b ∈ Utf8.encode t, 0x20 ≤ b.toNat ∧ b.toNat ≤ 0x7E := by
  have hmap := Text.map_ofByte_encode fun c hc => (h c hc).isAscii
  refine ⟨hmap, fun b hb => ?_⟩
  have hmem : Text.ofByte b ∈ t := hmap ▸ List.mem_map_of_mem hb
  rw [← Text.toNat_ofByte b]
  exact h _ hmem

/-- A request that is turned away is answered with one body, which says what is wrong with the
octets of its query. Whatever these are, and whatever the handler is, the body has one octet for
each character of that text, and no octet but those from the space to the tilde. -/
theorem rejection_is_visible [Codecs] {server : Server} (hserver : server.Documented)
    (settings : Settings) (cs : Charset) (hcs : Charset.ofName? settings.charset = some cs)
    (decode : Bool) (scope : Scope) (sent : Bytes)
    (h : TurnsAway server settings decode scope sent) :
    ∃ e body, Blames ⟨settings.charset, settings.plusAsSpace⟩ cs decode scope.queryOctets e ∧
      (∀ (ε : Type) (handler : Handler ε),
        (run server settings decode handler scope sent).messages =
          [.start settings.badRequestStatus
              [("Content-Type".toList, "text/plain; charset=utf-8".toList)],
            .body body false]) ∧
      body.map Text.ofByte = "Bad query string: ".toList ++ e.message ∧
      ∀ b ∈ body, 0x20 ≤ b.toNat ∧ b.toNat ≤ 0x7E := by
  obtain ⟨e, hblames⟩ : ∃ e,
      Blames ⟨settings.charset, settings.plusAsSpace⟩ cs decode scope.queryOctets e := by
    cases hr : Request.ofScope (Options.reading ⟨decode, {}⟩ settings) scope with
    | ok r => exact absurd h (not_turnsAway_of_ok hr sent)
    | error e =>
      obtain ⟨e', hblames, _⟩ := (ofScope_eq_error_iff_blames hcs).1 hr
      exact ⟨e', hblames⟩
  have hvisible : ∀ c ∈ rejectionText e, IsVisible c := by
    unfold rejectionText
    rw [List.forall_mem_append]
    exact ⟨Text.forall_mem_of_all rfl, hblames.isVisible_message hcs⟩
  obtain ⟨hmap, hbody⟩ := forall_mem_encode_of_isVisible hvisible
  refine ⟨e, Utf8.encode (rejectionText e), hblames, fun ε handler => ?_, hmap, hbody⟩
  rw [run_of_blames hcs hblames handler sent, reject_eq hserver]

/-- Both kinds of quotation marks, two line breaks, and an escape that breaks off at one of them. -/
theorem rejection_is_visible_utf8 :
    TurnsAway .direct {} true ⟨none, none, some (Utf8.encode "it's\r=\"%0\n".toList)⟩ [] ∧
      ∃ body, (∀ (ε : Type) (handler : Handler ε),
          (run .direct {} true handler
            ⟨none, none, some (Utf8.encode "it's\r=\"%0\n".toList)⟩ []).messages =
              [.start 400 [("Content-Type".toList, "text/plain; charset=utf-8".toList)],
                .body body false]) ∧
        body.map Text.ofByte =
          "Bad query string: Failed to decode request parameter \"it's\\r\"".toList ++
            " with value '\"%0\\n': Invalid percent-escape '%0\\n' at position 1".toList ∧
        ∀ b ∈ body, 0x20 ≤ b.toNat ∧ b.toNat ≤ 0x7E := by
  have hscope : Request.ofScope (Options.reading ⟨true, {}⟩ {})
      ⟨none, none, some (Utf8.encode "it's\r=\"%0\n".toList)⟩ = .error (.malformed
        (.parameter "it's\r".toList "\"%0\n".toList (.badEscape "\"%0\n".toList 1))) := by
    decide +kernel
  have haway : TurnsAway .direct {} true
      ⟨none, none, some (Utf8.encode "it's\r=\"%0\n".toList)⟩ [] :=
    ⟨_, _, none, ⟨_, List.mem_cons_self⟩, fun ε handler => by
      rw [run, hscope]
      exact reject_eq Server.direct_documented _ _⟩
  obtain ⟨e, body, _, hmessages, _, hvisible⟩ :=
    rejection_is_visible Server.direct_documented {} .utf8 (by decide) true _ [] haway
  refine ⟨haway, body, hmessages, ?_, hvisible⟩
  have hrun := hmessages Empty fun _ _ => ⟨[], none⟩
  rw [run, hscope] at hrun
  obtain ⟨rfl, _⟩ := Message.body.inj (List.cons.inj (List.cons.inj hrun).2).1
  decide +kernel

end Gate

end QueryString
