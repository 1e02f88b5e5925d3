import QueryString.Proofs.Charset.Repair
import QueryString.Proofs.Percent.Escapes
import QueryString.Proofs.Percent.Pieces

/-!
# Escapes that are repaired

`repair` takes the same pieces as `read`, so the two are compared piece by piece.

* What is read in UTF-8 is not changed (`repair_of_read`). In particular the escaped octets of a
  text are repaired to the text, whichever octets were kept (`repair_flatMap_escapeUnless`).
* Octets that are not read leave a replacement character (`replacement_mem_repair`).
* A bad escape leaves its percent sign (`percent_mem_repair`): the sign is an octet of ASCII then,
  and such an octet comes through whatever octets it stands between.
-/

namespace QueryString.Percent

/-! ## Piece by piece -/

theorem Piece.repair_of_read {p : Piece} {t : Text} (h : p.read Charset.utf8.decode = .ok t) :
    p.repair = t := by
  cases p with
  | octets bs => exact Utf8.repair_of_decode h
  | literal c => exact Except.ok.inj h

theorem Piece.replacement_mem_repair {p : Piece} {fault : ByteFault}
    (h : p.read Charset.utf8.decode = .error fault) : Utf8.replacement ∈ p.repair := by
  cases p with
  | octets bs => exact Utf8.replacement_mem_repair h
  | literal c => cases h

/-- A text that is read is repaired to what is read. -/
theorem repair_of_read {t u : Text} (h : read Charset.utf8.decode t = .ok u) : repair t = u := by
  obtain ⟨texts, htexts, rfl⟩ := map_eq_ok_iff.1 h
  have hpieces : (pieces (symbols t)).map Piece.repair = texts := by
    rw [← List.forall₂_eq_eq_eq, List.forall₂_map_left_iff]
    exact (mapM_eq_ok_iff.1 htexts).imp fun _ _ => Piece.repair_of_read
  rw [repair, List.flatMap_def, hpieces]

/-- Octets that are not read leave a replacement character. -/
theorem replacement_mem_repair {t : Text} {fault : ByteFault}
    (h : read Charset.utf8.decode t = .error fault) : Utf8.replacement ∈ repair t := by
  obtain ⟨before, p, after, hpieces, _, hp⟩ := mapM_eq_error_iff.1 (map_eq_error_iff.1 h)
  rw [repair, List.mem_flatMap]
  refine ⟨p, ?_, Piece.replacement_mem_repair hp⟩
  rw [hpieces]
  exact List.mem_append_right _ List.mem_cons_self

/-! ## Octets of ASCII -/

/-- An octet of ASCII comes through as its character. -/
theorem ofByte_mem_repair {t : Text} {b : UInt8} (hb : b.toNat < 0x80) (h : .octet b ∈ symbols t) :
    Text.ofByte b ∈ repair t := by
  obtain ⟨bs, hbs, hmem⟩ := exists_octets_of_mem h
  rw [repair, List.mem_flatMap]
  exact ⟨.octets bs, hbs, Utf8.ofByte_mem_repair hb hmem⟩

/-- The percent sign of a bad escape is an octet. -/
theorem octet_mem_symbols_of_badEscape? {t : Text} {i : Nat} (h : badEscape? t = some i) :
    .octet 0x25 ∈ symbols t := by
  fun_induction symbols t generalizing i with
  | case1 => cases h
  | case2 high low rest b hb ih =>
    rw [badEscape?_escape hb] at h
    obtain ⟨j, hj, _⟩ := Option.map_eq_some_iff.1 h
    exact List.mem_cons_of_mem _ (ih hj)
  | case3 => exact List.mem_cons_self
  | case4 c rest _ ih =>
    by_cases hc : c = '%'
    · rw [hc]
      exact List.mem_cons_self
    · rw [badEscape?_cons_of_ne hc] at h
      obtain ⟨j, hj, _⟩ := Option.map_eq_some_iff.1 h
      exact List.mem_cons_of_mem _ (ih hj)

/-- A bad escape leaves its percent sign. -/
theorem percent_mem_repair {t : Text} {i : Nat} (h : badEscape? t = some i) : '%' ∈ repair t :=
  ofByte_mem_repair (by decide) (octet_mem_symbols_of_badEscape? h)

/-! ## Octets that were written -/

/-- The octets that are kept are octets of ASCII, and none of them is a percent sign. -/
def KeepsAscii (keep : UInt8 → Bool) : Prop := ∀ b, keep b → b.toNat < 0x80 ∧ b ≠ 0x25

theorem symbols_escapeUnless_append {keep : UInt8 → Bool} (hkeep : KeepsAscii keep) (b : UInt8)
    (rest : Text) : symbols (escapeUnless keep b ++ rest) = .octet b :: symbols rest := by
  unfold escapeUnless
  split
  · next hb =>
    obtain ⟨hlt, hne⟩ := hkeep b hb
    have hc : Text.ofByte b ≠ '%' := by
      intro hc
      apply hne
      rw [← UInt8.toNat_inj, ← Text.toNat_ofByte, hc]
      rfl
    have ha : Text.isAscii (Text.ofByte b) := by simpa [Text.isAscii] using hlt
    rw [List.singleton_append, symbols_cons_of_ne hc, Symbol.ofChar, if_pos ha, Text.toNat_ofByte,
      UInt8.ofNat_toNat]
  · exact symbols_escape_append b rest

/-- Octets that are written with escapes are the symbols of what is written. -/
theorem symbols_flatMap_escapeUnless {keep : UInt8 → Bool} (hkeep : KeepsAscii keep) (bs : Bytes) :
    symbols (bs.flatMap (escapeUnless keep)) = bs.map .octet := by
  induction bs with
  | nil => rfl
  | cons b bs ih => rw [List.flatMap_cons, symbols_escapeUnless_append hkeep, ih, List.map_cons]

/-- The octets of a text, written with escapes, are read as the text. -/
theorem read_flatMap_escapeUnless {keep : UInt8 → Bool} (hkeep : KeepsAscii keep) (t : Text) :
    read Charset.utf8.decode ((Utf8.encode t).flatMap (escapeUnless keep)) = .ok t := by
  rw [read, symbols_flatMap_escapeUnless hkeep, readSymbols_octets, Charset.decode,
    Utf8.decode_encode]

theorem repair_flatMap_escapeUnless {keep : UInt8 → Bool} (hkeep : KeepsAscii keep) (t : Text) :
    repair ((Utf8.encode t).flatMap (escapeUnless keep)) = t :=
  repair_of_read (read_flatMap_escapeUnless hkeep t)

end QueryString.Percent
