import QueryString.Proofs.Coding.Grammar
import QueryString.Proofs.Pair

/-!
# Tokens of ASCII characters

A token of ASCII characters without a bad escape stands for octets (`StandsFor`), and it is decoded
as these octets are read in the charset, all at once (`StandsFor.decode_eq`). So there are two
things that can be wrong with it, a bad escape and octets that are no text (`Faulty`), and the error
says which one it was (`HasFault`, `decode_eq_error_iff`). A pair has the fault of its name or else
that of its value (`HasPairFault`, `decodePair_eq_parameter_iff`).
-/

namespace QueryString.Coding

/-! ## The octets of a token -/

/-- The token stands for the octets: an escape for its octet, a plus sign for a space where it means
one, and any other ASCII character for itself. -/
inductive StandsFor (plusAsSpace : Bool) : Text → Bytes → Prop where
  | nil : StandsFor plusAsSpace [] []
  | escape {high low : Char} {b : UInt8} {rest : Text} {bs : Bytes}
    (hb : Hex.byte? high low = some b) (h : StandsFor plusAsSpace rest bs) :
    StandsFor plusAsSpace ('%' :: high :: low :: rest) (b :: bs)
  | plus {rest : Text} {bs : Bytes} (hp : plusAsSpace) (h : StandsFor plusAsSpace rest bs) :
    StandsFor plusAsSpace ('+' :: rest) (0x20 :: bs)
  | other {c : Char} {rest : Text} {bs : Bytes} (ha : Text.isAscii c) (hc : c ≠ '%')
    (hp : ¬ (plusAsSpace ∧ c = '+')) (h : StandsFor plusAsSpace rest bs) :
    StandsFor plusAsSpace (c :: rest) (UInt8.ofNat c.toNat :: bs)

theorem StandsFor.wellEscaped {plusAsSpace : Bool} {raw : Text} {bs : Bytes}
    (h : StandsFor plusAsSpace raw bs) : Percent.WellEscaped raw := by
  induction h with
  | nil => exact .nil
  | escape hb _ ih => exact .escape hb ih
  | plus _ _ ih => exact .other (by decide) ih
  | other _ hc _ _ ih => exact .other hc ih

theorem exists_standsFor (plusAsSpace : Bool) {raw : Text} (hw : Percent.WellEscaped raw)
    (ha : ∀ c ∈ raw, Text.isAscii c) : ∃ bs, StandsFor plusAsSpace raw bs := by
  induction hw with
  | nil => exact ⟨[], .nil⟩
  | escape hb _ ih =>
    simp only [List.forall_mem_cons] at ha
    obtain ⟨bs, hbs⟩ := ih ha.2.2.2
    exact ⟨_, .escape hb hbs⟩
  | @other c rest hc _ ih =>
    rw [List.forall_mem_cons] at ha
    obtain ⟨bs, hbs⟩ := ih ha.2
    by_cases hp : plusAsSpace ∧ c = '+'
    · obtain ⟨hp, rfl⟩ := hp
      exact ⟨_, .plus hp hbs⟩
    · exact ⟨_, .other ha.1 hc hp hbs⟩

theorem StandsFor.symbols_eq {coding : Coding} {raw : Text} {bs : Bytes}
    (h : StandsFor coding.plusAsSpace raw bs) :
    Percent.symbols (coding.unplus raw) = bs.map .octet := by
  induction h with
  | nil =>
    rw [unplus_eq_map]
    rfl
  | escape hb _ ih => rw [symbols_unplus_escape coding hb, ih, List.map_cons]
  | plus hp _ ih =>
    rw [symbols_unplus_cons coding (by decide), ih, plain, if_pos ⟨hp, rfl⟩]
    rfl
  | other ha hc hp _ ih =>
    rw [symbols_unplus_cons coding hc, ih, plain, if_neg hp, Percent.Symbol.ofChar, if_pos ha]
    rfl

/-- A token is decoded as its octets are read. -/
theorem StandsFor.decode_eq [Codecs] {coding : Coding} {cs : Charset}
    (hcs : Charset.ofName? coding.charset = some cs) {raw : Text} {bs : Bytes}
    (h : StandsFor coding.plusAsSpace raw bs) :
    coding.decode raw = (cs.decode bs).mapError fun fault =>
      .malformed (.component (.badOctets (coding.unplus raw) coding.charset fault)) := by
  rw [decode, Percent.badEscape?_of_wellEscaped h.wellEscaped]
  simp only
  rw [unescape_eq hcs, Percent.read, h.symbols_eq, Percent.readSymbols_octets]

/-! ## What can be wrong with a token -/

/-- The token has a malformed escape, or the octets that it stands for are those of no text. -/
def Faulty (plusAsSpace : Bool) (cs : Charset) (raw : Text) : Prop :=
  (∃ i, Percent.BadEscapeAt raw i) ∨
    ∃ bs, StandsFor plusAsSpace raw bs ∧ ∀ t, cs.encode t ≠ .ok bs

/-- The fault of a token: its first bad escape or, without one, what is wrong with its octets. -/
inductive HasFault (coding : Coding) (cs : Charset) (raw : Text) : ComponentFault → Prop where
  | badEscape {i : Nat} (h : IsLeast {j | Percent.BadEscapeAt raw j} i) :
    HasFault coding cs raw (.badEscape raw i)
  | badOctets {bs : Bytes} {fault : ByteFault} (hs : StandsFor coding.plusAsSpace raw bs)
    (h : cs.decode bs = .error fault) :
    HasFault coding cs raw (.badOctets (coding.unplus raw) coding.charset fault)

theorem HasFault.faulty {coding : Coding} {cs : Charset} {raw : Text} {fault : ComponentFault}
    (h : HasFault coding cs raw fault) : Faulty coding.plusAsSpace cs raw := by
  cases h with
  | badEscape h => exact Or.inl ⟨_, h.1⟩
  | badOctets hs h =>
    refine Or.inr ⟨_, hs, fun t ht => ?_⟩
    rw [Charset.decode_eq_ok_iff.2 ht] at h
    cases h

/-- A token of ASCII characters is refused for the fault that it has, and for nothing else. -/
theorem decode_eq_error_iff [Codecs] {coding : Coding} {cs : Charset}
    (hcs : Charset.ofName? coding.charset = some cs) {raw : Text}
    (ha : ∀ c ∈ raw, Text.isAscii c) {e : Error} :
    coding.decode raw = .error e ↔
      ∃ fault, HasFault coding cs raw fault ∧ e = .malformed (.component fault) := by
  constructor
  · intro h
    cases hb : Percent.badEscape? raw with
    | some i =>
      rw [decode, hb] at h
      obtain rfl := Except.error.inj h
      exact ⟨_, .badEscape (Percent.badEscape?_eq_some_iff.1 hb), rfl⟩
    | none =>
      obtain ⟨bs, hbs⟩ :=
        exists_standsFor coding.plusAsSpace (Percent.wellEscaped_of_badEscape? hb) ha
      rw [hbs.decode_eq hcs] at h
      cases hd : cs.decode bs with
      | ok t => rw [hd] at h; cases h
      | error fault =>
        rw [hd] at h
        obtain rfl := Except.error.inj h
        exact ⟨_, .badOctets hbs hd, rfl⟩
  · rintro ⟨fault, hf, rfl⟩
    cases hf with
    | badEscape h => rw [decode, Percent.badEscape?_eq_some_iff.2 h]
    | badOctets hs h =>
      rw [hs.decode_eq hcs, h]
      rfl

/-- A token of ASCII characters is decoded if and only if it is not faulty. -/
theorem exists_decode_ok_iff [Codecs] {coding : Coding} {cs : Charset}
    (hcs : Charset.ofName? coding.charset = some cs) {raw : Text}
    (ha : ∀ c ∈ raw, Text.isAscii c) :
    (∃ t, coding.decode raw = .ok t) ↔ ¬ Faulty coding.plusAsSpace cs raw := by
  constructor
  · rintro ⟨t, ht⟩ (⟨i, hi⟩ | ⟨bs, hs, hno⟩)
    · have hw := ((decode_eq_ok_iff hcs).1 ht).wellEscaped
      exact Percent.badEscape?_eq_none_iff.1 (Percent.badEscape?_of_wellEscaped hw) i hi
    · rw [hs.decode_eq hcs] at ht
      cases hd : cs.decode bs with
      | ok u => exact hno u (Charset.decode_eq_ok_iff.1 hd)
      | error fault => rw [hd] at ht; cases ht
  · intro hno
    cases hd : coding.decode raw with
    | ok t => exact ⟨t, rfl⟩
    | error e =>
      obtain ⟨fault, hf, _⟩ := (decode_eq_error_iff hcs ha).1 hd
      exact absurd hf.faulty hno

/-! ## What can be wrong with a pair -/

/-- The name or the value of the pair is faulty. -/
def FaultyPair (plusAsSpace : Bool) (cs : Charset) (p : Pair) : Prop :=
  Faulty plusAsSpace cs p.name ∨ Faulty plusAsSpace cs p.value

/-- The fault of a pair: that of its name or, where the name has none, that of its value. -/
inductive HasPairFault (coding : Coding) (cs : Charset) (p : Pair) : ComponentFault → Prop where
  | name {fault : ComponentFault} (h : HasFault coding cs p.name fault) :
    HasPairFault coding cs p fault
  | value {fault : ComponentFault} (hname : ¬ Faulty coding.plusAsSpace cs p.name)
    (h : HasFault coding cs p.value fault) : HasPairFault coding cs p fault

theorem HasPairFault.faultyPair {coding : Coding} {cs : Charset} {p : Pair} {fault : ComponentFault}
    (h : HasPairFault coding cs p fault) : FaultyPair coding.plusAsSpace cs p := by
  cases h with
  | name h => exact Or.inl h.faulty
  | value _ h => exact Or.inr h.faulty

/-- A pair of ASCII characters is refused for the fault that it has, and for nothing else. -/
theorem decodePair_eq_parameter_iff [Codecs] {coding : Coding} {cs : Charset}
    (hcs : Charset.ofName? coding.charset = some cs) {p : Pair}
    (hname : ∀ c ∈ p.name, Text.isAscii c) (hvalue : ∀ c ∈ p.value, Text.isAscii c) {e : Error} :
    coding.decodePair p = .error e ↔
      ∃ fault, HasPairFault coding cs p fault ∧
        e = .malformed (.parameter p.name p.value fault) := by
  rw [decodePair_eq_error_iff, exists_decode_ok_iff hcs hname]
  simp only [decode_eq_error_iff hcs hname, decode_eq_error_iff hcs hvalue]
  constructor
  · rintro (⟨_, ⟨fault, hf, rfl⟩, rfl⟩ | ⟨hno, _, ⟨fault, hf, rfl⟩, rfl⟩)
    · exact ⟨fault, .name hf, rfl⟩
    · exact ⟨fault, .value hno hf, rfl⟩
  · rintro ⟨fault, hf, rfl⟩
    cases hf with
    | name h => exact Or.inl ⟨_, ⟨fault, h, rfl⟩, rfl⟩
    | value hno h => exact Or.inr ⟨hno, _, ⟨fault, h, rfl⟩, rfl⟩

/-- A pair of ASCII characters is decoded if and only if it is not faulty. -/
theorem exists_decodePair_ok_iff [Codecs] {coding : Coding} {cs : Charset}
    (hcs : Charset.ofName? coding.charset = some cs) {p : Pair}
    (hname : ∀ c ∈ p.name, Text.isAscii c) (hvalue : ∀ c ∈ p.value, Text.isAscii c) :
    (∃ q, coding.decodePair p = .ok q) ↔ ¬ FaultyPair coding.plusAsSpace cs p := by
  rw [FaultyPair, not_or, ← exists_decode_ok_iff hcs hname, ← exists_decode_ok_iff hcs hvalue]
  exact exists_decodePair_iff

end QueryString.Coding
