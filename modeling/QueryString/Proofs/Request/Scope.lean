import Mathlib.Data.List.TakeWhile
import QueryString.Proofs.Request.Built

/-!
# Requests from a server's scope

The octets of a scope are a query if and only if all of them are ASCII, and then each stands for its
character (`Scope.queryText_eq_ok_iff`); the first one that is not is the error
(`Scope.queryText_eq_error_iff`). A request is built from that query and from the path of the scope,
which never fails, so the path has no part in what goes wrong (`Request.ofScope_eq_error_iff`).
-/

namespace QueryString

namespace Scope

theorem isAsciiOctet_iff {b : UInt8} : isAsciiOctet b ↔ b.toNat < 0x80 := by
  simp [isAsciiOctet, UInt8.lt_iff_toNat_lt]

theorem isAscii_ofByte {b : UInt8} : Text.isAscii (Text.ofByte b) ↔ b.toNat < 0x80 := by
  simp [Text.isAscii]

theorem isAscii_map {octets : Bytes} (h : ∀ b ∈ octets, b.toNat < 0x80) :
    ∀ c ∈ octets.map Text.ofByte, Text.isAscii c := by
  rw [List.forall_mem_map]
  exact fun b hb => isAscii_ofByte.2 (h b hb)

theorem queryText_of_ascii {scope : Scope} (h : ∀ b ∈ scope.queryOctets, b.toNat < 0x80) :
    scope.queryText = .ok (scope.queryOctets.map Text.ofByte) := by
  have hdrop : scope.queryOctets.dropWhile isAsciiOctet = [] := by
    rw [List.dropWhile_eq_nil_iff]
    exact fun b hb => isAsciiOctet_iff.2 (h b hb)
  rw [queryText, hdrop]

theorem queryText_of_notAscii {scope : Scope} {before after : Bytes} {b : UInt8}
    (ho : scope.queryOctets = before ++ b :: after) (hbefore : ∀ x ∈ before, x.toNat < 0x80)
    (hb : 0x80 ≤ b.toNat) :
    scope.queryText = .error (.malformed (.notAscii scope.queryOctets b before.length)) := by
  have hall : ∀ x ∈ before, isAsciiOctet x := fun x hx => isAsciiOctet_iff.2 (hbefore x hx)
  have hnot : ¬ isAsciiOctet b := by
    rw [isAsciiOctet_iff]
    omega
  have hdrop : (before ++ b :: after).dropWhile isAsciiOctet = b :: after := by
    rw [List.dropWhile_append_of_pos hall, List.dropWhile_cons_of_neg hnot]
  have htake : (before ++ b :: after).takeWhile isAsciiOctet = before := by
    rw [List.takeWhile_append_of_pos hall, List.takeWhile_cons_of_neg hnot, List.append_nil]
  rw [queryText, ho, hdrop, htake]

/-- Octets are all ASCII, or there is a first one that is not. -/
theorem ascii_or_exists_first (octets : Bytes) :
    (∀ b ∈ octets, b.toNat < 0x80) ∨ ∃ before b after, octets = before ++ b :: after ∧
      (∀ x ∈ before, x.toNat < 0x80) ∧ 0x80 ≤ b.toNat := by
  induction octets with
  | nil => exact Or.inl fun b hb => absurd hb List.not_mem_nil
  | cons b octets ih =>
    by_cases hb : b.toNat < 0x80
    · rcases ih with ih | ⟨before, b', after, rfl, hbefore, hb'⟩
      · exact Or.inl (List.forall_mem_cons.2 ⟨hb, ih⟩)
      · exact Or.inr ⟨b :: before, b', after, rfl, List.forall_mem_cons.2 ⟨hb, hbefore⟩, hb'⟩
    · exact Or.inr ⟨[], b, octets, rfl, fun x hx => absurd hx List.not_mem_nil, by omega⟩

theorem queryText_eq_ok_iff {scope : Scope} {query : Text} :
    scope.queryText = .ok query ↔
      (∀ b ∈ scope.queryOctets, b.toNat < 0x80) ∧
        scope.queryOctets.map Text.ofByte = query := by
  rcases ascii_or_exists_first scope.queryOctets with h | ⟨before, b, after, ho, hbefore, hb⟩
  · rw [queryText_of_ascii h, Except.ok.injEq, and_iff_right h]
  · rw [queryText_of_notAscii ho hbefore hb]
    refine iff_of_false (by simp) fun h => ?_
    have hlt := h.1 b (ho ▸ List.mem_append_right _ List.mem_cons_self)
    omega

theorem queryText_eq_error_iff {scope : Scope} {e : Error} :
    scope.queryText = .error e ↔
      ∃ before b after, scope.queryOctets = before ++ b :: after ∧
        (∀ x ∈ before, x.toNat < 0x80) ∧ 0x80 ≤ b.toNat ∧
          e = .malformed (.notAscii scope.queryOctets b before.length) := by
  constructor
  · intro h
    rcases ascii_or_exists_first scope.queryOctets with ha | ⟨before, b, after, ho, hbefore, hb⟩
    · rw [queryText_of_ascii ha] at h
      cases h
    · rw [queryText_of_notAscii ho hbefore hb] at h
      exact ⟨before, b, after, ho, hbefore, hb, (Except.error.inj h).symm⟩
  · rintro ⟨before, b, after, ho, hbefore, hb, rfl⟩
    exact queryText_of_notAscii ho hbefore hb

end Scope

namespace Request

theorem ofScope_eq_ok_iff [Codecs] {reading : Reading} {scope : Scope} {r : Request} :
    ofScope reading scope = .ok r ↔ ∃ query, scope.queryText = .ok query ∧
      ofTarget reading ⟨scope.escapedPath, some query⟩ = .ok r := by
  rw [ofScope, bind_eq_ok_iff, Target.ofScope]
  cases scope.queryText <;> simp

theorem ofScope_eq_error_iff [Codecs] {reading : Reading} {scope : Scope} {e : Error} :
    ofScope reading scope = .error e ↔ scope.queryText = .error e ∨
      ∃ query, scope.queryText = .ok query ∧ Query.read reading query = .error e := by
  rw [ofScope, bind_eq_error_iff, Target.ofScope]
  cases scope.queryText <;> simp [ofTarget_eq_error_iff]

end Request

end QueryString
