import QueryString.Coding
import QueryString.Proofs.Percent.Escapes
import QueryString.Proofs.Percent.Pieces

/-!
# The grammar of names and values

A name or a value is spelled character by character: as the character itself, as a plus sign for a
space, or as the escapes of the octets that the character has in the charset. `Spells` says which
texts are spelled in which ways, and `decode_iff_spells` that reading goes by it: what is read is
what is spelled, and a token that spells nothing is refused at its first bad escape, or else as a
whole.

The reader replaces plus signs before it looks for escapes, and it reads whole runs of octets. The
proofs follow the token through both at once: `symbols_unplus_escape` and `symbols_unplus_cons`
give the symbols of a token from its front, and the run lemmas cut them along characters.
-/

namespace QueryString.Coding

/-! ## The grammar -/

/-- The text is the escape of the octet, with digits of either case. -/
def IsEscapeOf (b : UInt8) (t : Text) : Prop :=
  ∃ high low, t = ['%', high, low] ∧ Hex.byte? high low = some b

/-- The ways to spell one character. -/
inductive SpellsChar (plusAsSpace : Bool) (cs : Charset) : Text → Char → Prop where
  /-- The character itself, in any charset. A percent sign never stands for itself, and a plus sign
  only where it does not stand for a space. -/
  | literal {c : Char} (hc : c ≠ '%') (hp : ¬ (plusAsSpace ∧ c = '+')) :
    SpellsChar plusAsSpace cs [c] c
  /-- A plus sign for a space. -/
  | plus (hp : plusAsSpace) : SpellsChar plusAsSpace cs ['+'] ' '
  /-- The escapes of all octets of the character. -/
  | escapes {c : Char} {octets : Bytes} {units : List Text} (hc : cs.encodeChar? c = some octets)
    (hu : List.Forall₂ IsEscapeOf octets units) : SpellsChar plusAsSpace cs units.flatten c

/-- The token spells the text: one unit for each character, in order. -/
inductive Spells (plusAsSpace : Bool) (cs : Charset) : Text → Text → Prop where
  | nil : Spells plusAsSpace cs [] []
  | cons {u raw t : Text} {c : Char} (hu : SpellsChar plusAsSpace cs u c)
    (ht : Spells plusAsSpace cs raw t) : Spells plusAsSpace cs (u ++ raw) (c :: t)

/-! ## The symbols of a token -/

/-- What a character that belongs to no escape stands for. -/
def plain (coding : Coding) (c : Char) : Char :=
  if coding.plusAsSpace ∧ c = '+' then ' ' else c

theorem unplus_eq_map (coding : Coding) (raw : Text) :
    coding.unplus raw = raw.map coding.plain := by
  unfold unplus plain Text.replace
  split
  · next h => simp [h]
  · next h => simp [h]

theorem plain_of_ne (coding : Coding) {c : Char} (h : c ≠ '+') : coding.plain c = c :=
  if_neg fun hc => h hc.2

theorem plain_eq_percent_iff (coding : Coding) {c : Char} : coding.plain c = '%' ↔ c = '%' := by
  unfold plain
  split
  · next h =>
    rw [h.2]
    decide
  · exact Iff.rfl

theorem plain_of_isDigit (coding : Coding) {c : Char} (h : Hex.isDigit c) : coding.plain c = c :=
  plain_of_ne coding (Hex.ne_of_isDigit h (by decide))

theorem symbols_unplus_escape (coding : Coding) {high low : Char} {b : UInt8}
    (h : Hex.byte? high low = some b) (rest : Text) :
    Percent.symbols (coding.unplus ('%' :: high :: low :: rest))
      = .octet b :: Percent.symbols (coding.unplus rest) := by
  obtain ⟨hh, hl⟩ := Hex.isDigit_of_byte? h
  simp only [unplus_eq_map, List.map_cons, plain_of_isDigit coding hh, plain_of_isDigit coding hl,
    (plain_eq_percent_iff coding).2 rfl]
  rw [Percent.symbols, h]

theorem symbols_unplus_cons (coding : Coding) {c : Char} (h : c ≠ '%') (rest : Text) :
    Percent.symbols (coding.unplus (c :: rest))
      = .ofChar (coding.plain c) :: Percent.symbols (coding.unplus rest) := by
  have hc : coding.plain c ≠ '%' := fun he => h ((plain_eq_percent_iff coding).1 he)
  rw [unplus_eq_map, List.map_cons, Percent.symbols_cons_of_ne hc, ← unplus_eq_map]

theorem symbols_unplus_escapes (coding : Coding) {octets : Bytes} {units : List Text}
    (h : List.Forall₂ IsEscapeOf octets units) (rest : Text) :
    Percent.symbols (coding.unplus (units.flatten ++ rest))
      = octets.map .octet ++ Percent.symbols (coding.unplus rest) := by
  induction h with
  | nil => rfl
  | @cons b u octets units hb _ ih =>
    obtain ⟨high, low, rfl, hb⟩ := hb
    have hs := symbols_unplus_escape coding hb (units.flatten ++ rest)
    rw [ih] at hs
    exact hs

/-! ## What is spelled is read -/

theorem wellEscaped_escapes {octets : Bytes} {units : List Text}
    (h : List.Forall₂ IsEscapeOf octets units) {rest : Text} (hr : Percent.WellEscaped rest) :
    Percent.WellEscaped (units.flatten ++ rest) := by
  induction h with
  | nil => exact hr
  | cons hb _ ih =>
    obtain ⟨high, low, rfl, hb⟩ := hb
    exact .escape hb ih

/-- A token that spells a text has no bad escape. -/
theorem Spells.wellEscaped {plusAsSpace : Bool} {cs : Charset} {raw t : Text}
    (h : Spells plusAsSpace cs raw t) : Percent.WellEscaped raw := by
  induction h with
  | nil => exact .nil
  | cons hu _ ih =>
    cases hu with
    | literal hc _ => exact .other hc ih
    | plus _ => exact .other (by decide) ih
    | escapes _ hu => exact wellEscaped_escapes hu ih

/-- Each unit of a token is read as its character. -/
theorem Spells.readSymbols {coding : Coding} {cs : Charset} {raw t : Text}
    (h : Spells coding.plusAsSpace cs raw t) :
    Percent.readSymbols cs.decode (Percent.symbols (coding.unplus raw)) = .ok t := by
  induction h with
  | nil => rw [unplus_eq_map]; rfl
  | cons hu _ ih =>
    cases hu with
    | literal hc hp =>
      rw [List.singleton_append, symbols_unplus_cons coding hc, plain, if_neg hp,
        Percent.readSymbols_ofChar, ih]
      rfl
    | plus hp =>
      rw [List.singleton_append, symbols_unplus_cons coding (by decide), plain, if_pos ⟨hp, rfl⟩,
        Percent.readSymbols_ofChar, ih]
      rfl
    | escapes hc hu =>
      rw [symbols_unplus_escapes coding hu, Percent.readSymbols_octets_append hc, ih]
      rfl

/-! ## What is read is spelled -/

theorem spellsChar_plain (coding : Coding) (cs : Charset) {c : Char} (h : c ≠ '%') :
    SpellsChar coding.plusAsSpace cs [c] (coding.plain c) := by
  unfold plain
  split
  · next hp =>
    rw [hp.2]
    exact .plus hp.1
  · next hp => exact .literal h hp

/-- Octets beyond ASCII have only been written as escapes. -/
theorem exists_escapes_of_symbols {coding : Coding} {octets : Bytes} {after : List Percent.Symbol}
    {raw : Text} (hw : Percent.WellEscaped raw) (hle : ∀ b ∈ octets, 0x80 ≤ b.toNat)
    (h : Percent.symbols (coding.unplus raw) = octets.map .octet ++ after) :
    ∃ units rest, List.Forall₂ IsEscapeOf octets units ∧ raw = units.flatten ++ rest ∧
      Percent.WellEscaped rest ∧ Percent.symbols (coding.unplus rest) = after := by
  induction octets generalizing raw with
  | nil => exact ⟨[], raw, .nil, rfl, hw, h⟩
  | cons b octets ih =>
    cases hw with
    | nil =>
      rw [unplus_eq_map] at h
      cases h
    | @escape high low b' rest hb hw =>
      rw [symbols_unplus_escape coding hb] at h
      obtain ⟨hbb, hrest⟩ := List.cons.inj h
      obtain rfl := Percent.Symbol.octet.inj hbb
      obtain ⟨units, rest, hu, rfl, hw, hs⟩ :=
        ih hw (fun x hx => hle x (List.mem_cons_of_mem _ hx)) hrest
      exact ⟨['%', high, low] :: units, rest, .cons ⟨high, low, rfl, hb⟩ hu, rfl, hw, hs⟩
    | other hc hw =>
      -- A character that stands for itself has an octet below 0x80 or none at all.
      rw [symbols_unplus_cons coding hc] at h
      have hlt := Percent.toNat_lt_of_ofChar_eq_octet (List.cons.inj h).1
      have hb := hle b List.mem_cons_self
      omega

/-- A token without a bad escape spells what is read from it. -/
theorem spells_of_readSymbols {coding : Coding} {cs : Charset} {raw t : Text}
    (hw : Percent.WellEscaped raw)
    (h : Percent.readSymbols cs.decode (Percent.symbols (coding.unplus raw)) = .ok t) :
    Spells coding.plusAsSpace cs raw t := by
  -- The induction is on the text, since one character can take several escapes of the token.
  induction t generalizing raw with
  | nil =>
    cases hw with
    | nil => exact .nil
    | escape hb _ =>
      rw [symbols_unplus_escape coding hb] at h
      obtain ⟨_, _, _, _, _, _, ht, _⟩ := Percent.exists_of_readSymbols_octet h
      cases ht
    | other hc _ =>
      rw [symbols_unplus_cons coding hc, Percent.readSymbols_ofChar] at h
      obtain ⟨_, _, ht⟩ := map_eq_ok_iff.1 h
      cases ht
  | cons c t ih =>
    cases hw with
    | nil =>
      rw [unplus_eq_map] at h
      cases h
    | other hc hw =>
      rw [symbols_unplus_cons coding hc, Percent.readSymbols_ofChar] at h
      obtain ⟨t', hr, ht⟩ := map_eq_ok_iff.1 h
      obtain ⟨rfl, rfl⟩ := List.cons.inj ht
      exact .cons (spellsChar_plain coding cs hc) (ih hw hr)
    | @escape high low b rest hb hw =>
      have hsym := symbols_unplus_escape coding hb rest
      rw [hsym] at h
      obtain ⟨c', octets, after, t', hc, hs, ht, hr⟩ := Percent.exists_of_readSymbols_octet h
      obtain ⟨rfl, rfl⟩ := List.cons.inj ht
      by_cases ha : Text.isAscii c
      · -- The character has one octet, and the escape in front is its spelling.
        rw [cs.encodeChar?_of_isAscii ha] at hc
        obtain rfl := Option.some.inj hc
        obtain ⟨hbb, rfl⟩ := List.cons.inj hs
        obtain rfl := Percent.Symbol.octet.inj hbb
        have hu : SpellsChar coding.plusAsSpace cs (List.flatten [['%', high, low]]) c :=
          .escapes (cs.encodeChar?_of_isAscii ha) (.cons ⟨high, low, rfl, hb⟩ .nil)
        exact .cons hu (ih hw hr)
      · -- The octets of the character are beyond ASCII, so each of them was an escape.
        have hw' : Percent.WellEscaped ('%' :: high :: low :: rest) := .escape hb hw
        obtain ⟨units, rest', hu, hraw, hw', rfl⟩ :=
          exists_escapes_of_symbols hw' (Charset.le_of_encodeChar? hc ha) (hsym.trans hs)
        rw [hraw]
        exact .cons (.escapes hc hu) (ih hw' hr)

/-! ## Reading goes by the grammar -/

section Reader

variable [Codecs]

/-- In a charset that is known, a token without a bad escape is read as its symbols are. -/
theorem unescape_eq {coding : Coding} {cs : Charset}
    (hcs : Charset.ofName? coding.charset = some cs) (token : Text) :
    coding.unescape token = (Percent.read cs.decode token).mapError fun fault =>
      .malformed (.component (.badOctets token coding.charset fault)) := by
  unfold unescape
  split
  · rw [Codecs.find_of_ofName? hcs, Charset.codec, Percent.read_mapError]
    cases Percent.read cs.decode token <;> rfl
  · next h =>
    rw [Percent.read_of_not_mem cs h]
    rfl

/-- What is read is what is spelled. -/
theorem decode_eq_ok_iff {coding : Coding} {cs : Charset}
    (hcs : Charset.ofName? coding.charset = some cs) {raw t : Text} :
    coding.decode raw = .ok t ↔ Spells coding.plusAsSpace cs raw t := by
  unfold decode
  cases hb : Percent.badEscape? raw with
  | some i =>
    refine ⟨fun h => (by cases h), fun h => ?_⟩
    rw [Percent.badEscape?_of_wellEscaped h.wellEscaped] at hb
    cases hb
  | none =>
    have hw := Percent.wellEscaped_of_badEscape? hb
    simp only
    rw [unescape_eq hcs]
    constructor
    · intro h
      cases hd : Percent.read cs.decode (coding.unplus raw) with
      | error fault => rw [hd] at h; cases h
      | ok t' =>
        rw [hd] at h
        obtain rfl := Except.ok.inj h
        exact spells_of_readSymbols hw hd
    · intro h
      rw [Percent.read, h.readSymbols]
      rfl

/-- In a charset that is known, a token that is not read has a fault of its own, whose position is
that of the first bad escape. -/
theorem decode_ok_or_fault {coding : Coding} {cs : Charset}
    (hcs : Charset.ofName? coding.charset = some cs) (raw : Text) :
    (∃ t, coding.decode raw = .ok t) ∨
      ∃ fault, coding.decode raw = .error (.malformed (.component fault)) ∧
        fault.position? = Percent.badEscape? raw := by
  unfold decode
  cases Percent.badEscape? raw with
  | some i => exact Or.inr ⟨.badEscape raw i, rfl, rfl⟩
  | none =>
    simp only
    rw [unescape_eq hcs]
    cases Percent.read cs.decode (coding.unplus raw) with
    | ok t => exact Or.inl ⟨t, rfl⟩
    | error fault =>
      exact Or.inr ⟨.badOctets (coding.unplus raw) coding.charset fault, rfl, rfl⟩

/-- A text is read if and only if the token spells it, and a token spells one text at most. A token
that spells none is refused: at its first bad escape if it has one, and otherwise for its octets,
which have no position. -/
theorem decode_iff_spells (coding : Coding) (cs : Charset)
    (hcs : Charset.ofName? coding.charset = some cs) (raw : Text) :
    (∀ t, coding.decode raw = .ok t ↔ Spells coding.plusAsSpace cs raw t) ∧
    (∀ t u, Spells coding.plusAsSpace cs raw t → Spells coding.plusAsSpace cs raw u → t = u) ∧
    ((∀ t, ¬ Spells coding.plusAsSpace cs raw t) →
      ∃ e, coding.decode raw = .error (.malformed e) ∧
        (∀ i, IsLeast {j | Percent.BadEscapeAt raw j} i → e.position? = some i) ∧
        ((∀ j, ¬ Percent.BadEscapeAt raw j) → e.position? = none)) := by
  refine ⟨fun t => decode_eq_ok_iff hcs, ?_, ?_⟩
  · intro t u ht hu
    have h := (decode_eq_ok_iff hcs).2 ht
    rw [(decode_eq_ok_iff hcs).2 hu] at h
    exact (Except.ok.inj h).symm
  · intro hno
    rcases decode_ok_or_fault hcs raw with ⟨t, ht⟩ | ⟨fault, hf, hpos⟩
    · exact absurd ((decode_eq_ok_iff hcs).1 ht) (hno t)
    · refine ⟨.component fault, hf, ?_, ?_⟩
      · intro i hi
        exact hpos.trans (Percent.badEscape?_eq_some_iff.2 hi)
      · intro hj
        exact hpos.trans (Percent.badEscape?_eq_none_iff.2 hj)

end Reader

/-- Two escapes of one character, a plus sign for a space and a character as itself. -/
theorem decode_iff_spells_utf8 :
    Charset.ofName? "utf-8".toList = some .utf8 ∧
      Spells true .utf8 "%C3%a9+€".toList "é €".toList :=
  ⟨by decide,
    ((decode_iff_spells ⟨"utf-8".toList, true⟩ .utf8 (by decide) _).1 _).1 (by decide +kernel)⟩

end QueryString.Coding
