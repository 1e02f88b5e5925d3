import QueryString.Percent
import QueryString.Proofs.Charset.Codec

/-!
# Reading symbols

Neighbouring octets are read together, whether they were escapes or ASCII characters.

* `readSymbols_octets_append`: the octets of a character are read as that character, whatever
  symbols follow.
* `exists_of_readSymbols_octet`: symbols that are read and begin with an octet begin with all octets
  of a character.

A character beyond ASCII ends a run of octets. So a run is followed to its end before it is read,
and both statements come from those about a charset on the octets of the run.
-/

namespace QueryString.Percent

/-- A run of octets ends here: nothing is left, or a character beyond ASCII comes next. -/
def EndsRun : List Symbol → Prop
  | .octet _ :: _ => False
  | _ => True

/-! ## Runs of octets -/

/-- The octets in front are a run. -/
theorem exists_run (rest : List Symbol) :
    ∃ (bs : Bytes) (after : List Symbol), rest = bs.map .octet ++ after ∧ EndsRun after := by
  induction rest with
  | nil => exact ⟨[], [], rfl, trivial⟩
  | cons s rest ih =>
    cases s with
    | literal c => exact ⟨[], .literal c :: rest, rfl, trivial⟩
    | octet b =>
      obtain ⟨bs, after, rfl, h⟩ := ih
      exact ⟨b :: bs, after, rfl, h⟩

/-- What follows a run does not begin with octets. -/
theorem pieces_of_endsRun {after : List Symbol} (h : EndsRun after) (bs : Bytes)
    (others : List Piece) : pieces after ≠ .octets bs :: others := by
  match after, h with
  | [], _ => simp [pieces]
  | .literal c :: rest, _ => simp [pieces]

/-- A run is one piece. -/
theorem pieces_run (b : UInt8) (bs : Bytes) {after : List Symbol} (h : EndsRun after) :
    pieces ((b :: bs).map .octet ++ after) = .octets (b :: bs) :: pieces after := by
  induction bs generalizing b with
  | nil =>
    rw [List.map_singleton, List.singleton_append, pieces]
    split
    · next bs others hp => exact absurd hp (pieces_of_endsRun h bs others)
    · rfl
  | cons b' bs ih =>
    rw [List.map_cons, List.cons_append, pieces, ih b']

/-- An octet goes in front of the octets that come next, and no other piece changes. -/
theorem exists_pieces_octet (b : UInt8) (rest : List Symbol) :
    ∃ bs others, pieces (.octet b :: rest) = .octets (b :: bs) :: others ∧
      ∀ bs', .octets bs' ∈ pieces rest → bs' = bs ∨ .octets bs' ∈ others := by
  rw [pieces]
  split
  · next bs others hp =>
    refine ⟨bs, others, rfl, ?_⟩
    intro bs' h
    rw [hp] at h
    rcases List.mem_cons.1 h with heq | h
    · exact Or.inl (Piece.octets.inj heq)
    · exact Or.inr h
  · exact ⟨[], pieces rest, rfl, fun _ h => Or.inr h⟩

/-- Every octet is in some piece. -/
theorem exists_octets_of_mem {symbols : List Symbol} {b : UInt8} (h : .octet b ∈ symbols) :
    ∃ bs, .octets bs ∈ pieces symbols ∧ b ∈ bs := by
  induction symbols with
  | nil => exact absurd h List.not_mem_nil
  | cons s rest ih =>
    cases s with
    | literal c =>
      obtain ⟨bs, hbs, hb⟩ := ih (List.mem_of_ne_of_mem (by simp) h)
      exact ⟨bs, List.mem_cons_of_mem _ hbs, hb⟩
    | octet b' =>
      obtain ⟨bs, others, hpieces, hrest⟩ := exists_pieces_octet b' rest
      rw [hpieces]
      rcases List.mem_cons.1 h with heq | h
      · obtain rfl := Symbol.octet.inj heq
        exact ⟨_, List.mem_cons_self, List.mem_cons_self⟩
      · obtain ⟨bs', hbs', hb⟩ := ih h
        rcases hrest bs' hbs' with rfl | hmem
        · exact ⟨_, List.mem_cons_self, List.mem_cons_of_mem _ hb⟩
        · exact ⟨bs', List.mem_cons_of_mem _ hmem, hb⟩

/-- A percent sign, whether or not it begins an escape, leaves an octet. -/
theorem exists_octet_mem_symbols {t : Text} (h : '%' ∈ t) : ∃ b, .octet b ∈ symbols t := by
  fun_induction symbols t with
  | case1 => exact absurd h List.not_mem_nil
  | case2 _ _ _ b _ _ => exact ⟨b, List.mem_cons_self⟩
  | case3 => exact ⟨0x25, List.mem_cons_self⟩
  | case4 c rest _ ih =>
    rcases List.mem_cons.1 h with rfl | h
    · exact ⟨0x25, List.mem_cons_self⟩
    · obtain ⟨b, hb⟩ := ih h
      exact ⟨b, List.mem_cons_of_mem _ hb⟩

section Readers

variable {ε δ : Type} (readOctets : Bytes → Except ε Text)

theorem mapM_pieces_cons (p : Piece) (ps : List Piece) :
    ((p :: ps).mapM (Piece.read readOctets)).map List.flatten =
      (p.read readOctets).bind fun t =>
        ((ps.mapM (Piece.read readOctets)).map List.flatten).map (t ++ ·) := by
  cases h : p.read readOctets with
  | error e => rw [mapM_cons_of_error h]; rfl
  | ok t =>
    rw [mapM_cons_of_ok h]
    cases ps.mapM (Piece.read readOctets) <;> rfl

theorem readSymbols_literal (c : Char) (rest : List Symbol) :
    readSymbols readOctets (.literal c :: rest) =
      (readSymbols readOctets rest).map (c :: ·) := by
  rw [readSymbols, pieces, mapM_pieces_cons]
  rfl

/-- A run is read on its own, and then what follows it. -/
theorem readSymbols_run_cons (b : UInt8) (bs : Bytes) {after : List Symbol} (h : EndsRun after) :
    readSymbols readOctets ((b :: bs).map .octet ++ after) =
      (readOctets (b :: bs)).bind fun t => (readSymbols readOctets after).map (t ++ ·) := by
  rw [readSymbols, pieces_run b bs h, mapM_pieces_cons]
  rfl

/-- Symbols that are nothing but one run are read as the run is. -/
theorem readSymbols_octets_cons (b : UInt8) (bs : Bytes) :
    readSymbols readOctets ((b :: bs).map .octet) = readOctets (b :: bs) := by
  have hends : EndsRun [] := trivial
  have h := readSymbols_run_cons readOctets b bs hends
  rw [List.append_nil] at h
  rw [h]
  cases readOctets (b :: bs) with
  | error e => rfl
  | ok t => exact congrArg Except.ok (List.append_nil t)

/-- Where no octets can be read, no text with a percent sign can. -/
theorem read_ne_ok {t : Text} (hfails : ∀ bs u, readOctets bs ≠ .ok u) (h : '%' ∈ t) (u : Text) :
    read readOctets t ≠ .ok u := by
  intro hread
  obtain ⟨texts, htexts, -⟩ := map_eq_ok_iff.1 hread
  obtain ⟨b, hb⟩ := exists_octet_mem_symbols h
  obtain ⟨bs, hbs, -⟩ := exists_octets_of_mem hb
  obtain ⟨v, hv⟩ := exists_mapM_ok_iff.1 ⟨texts, htexts⟩ _ hbs
  exact hfails bs v hv

/-- To put failures in other words, it does not matter when it is done. -/
theorem read_mapError (f : ε → δ) (t : Text) :
    read (fun bs => (readOctets bs).mapError f) t = (read readOctets t).mapError f := by
  have hpiece : ∀ p : Piece, p.read (fun bs => (readOctets bs).mapError f) =
      (p.read readOctets).mapError f := by
    intro p
    cases p <;> rfl
  have hpieces : ∀ ps : List Piece,
      ps.mapM (Piece.read fun bs => (readOctets bs).mapError f) =
        (ps.mapM (Piece.read readOctets)).mapError f := by
    intro ps
    induction ps with
    | nil => rfl
    | cons p ps ih =>
      cases h : p.read readOctets with
      | error e =>
        rw [mapM_cons_of_error h, mapM_cons_of_error (e := f e) (by rw [hpiece, h]; rfl)]
        rfl
      | ok t =>
        rw [mapM_cons_of_ok h, mapM_cons_of_ok (b := t) (by rw [hpiece, h]; rfl), ih]
        cases ps.mapM (Piece.read readOctets) <;> rfl
  rw [read, readSymbols, hpieces, read, readSymbols]
  cases (pieces (symbols t)).mapM (Piece.read readOctets) <;> rfl

end Readers

/-- In a charset, a run may as well be empty. -/
theorem readSymbols_run (cs : Charset) (bs : Bytes) {after : List Symbol} (h : EndsRun after) :
    readSymbols cs.decode (bs.map .octet ++ after) =
      (cs.decode bs).bind fun t => (readSymbols cs.decode after).map (t ++ ·) := by
  cases bs with
  | nil =>
    rw [Charset.decode_nil]
    cases hr : readSymbols cs.decode after <;> simp [hr, Except.bind, Except.map]
  | cons b bs => exact readSymbols_run_cons cs.decode b bs h

theorem readSymbols_octets (cs : Charset) (bs : Bytes) :
    readSymbols cs.decode (bs.map .octet) = cs.decode bs := by
  cases bs with
  | nil =>
    rw [Charset.decode_nil]
    rfl
  | cons b bs => exact readSymbols_octets_cons cs.decode b bs

/-! ## One character in front of a rest -/

/-- The octets of a character are read as that character, whatever symbols follow. -/
theorem readSymbols_octets_append {cs : Charset} {c : Char} {octets : Bytes}
    (h : cs.encodeChar? c = some octets) (rest : List Symbol) :
    readSymbols cs.decode (octets.map .octet ++ rest) =
      (readSymbols cs.decode rest).map (c :: ·) := by
  obtain ⟨bs, after, rfl, ha⟩ := exists_run rest
  -- The octets of the character lengthen the run that the rest begins with.
  rw [← List.append_assoc, ← List.map_append, readSymbols_run cs _ ha, readSymbols_run cs bs ha,
    Charset.decode_append h]
  cases cs.decode bs <;> cases readSymbols cs.decode after <;> rfl

theorem readSymbols_ofChar (cs : Charset) (c : Char) (rest : List Symbol) :
    readSymbols cs.decode (.ofChar c :: rest) = (readSymbols cs.decode rest).map (c :: ·) := by
  unfold Symbol.ofChar
  split
  · next hc => exact readSymbols_octets_append (cs.encodeChar?_of_isAscii hc) rest
  · exact readSymbols_literal cs.decode c rest

theorem toNat_lt_of_ofChar_eq_octet {c : Char} {b : UInt8} (h : Symbol.ofChar c = .octet b) :
    b.toNat < 0x80 := by
  unfold Symbol.ofChar at h
  split at h
  · next hc =>
    have hlt : c.toNat < 0x80 := by simpa [Text.isAscii] using hc
    obtain rfl := Symbol.octet.inj h
    rw [Utf8.toNat_ofNat_of_lt (by omega)]
    exact hlt
  · cases h

/-- A text without a percent sign is read as itself. -/
theorem read_of_not_mem (cs : Charset) {t : Text} (h : '%' ∉ t) : read cs.decode t = .ok t := by
  unfold read
  induction t with
  | nil => rfl
  | cons c rest ih =>
    simp only [List.mem_cons, not_or] at h
    rw [symbols_cons_of_ne (Ne.symm h.1), readSymbols_ofChar, ih h.2]
    rfl

/-- Symbols that are read and begin with an octet begin with the octets of a character. -/
theorem exists_of_readSymbols_octet {cs : Charset} {b : UInt8} {rest : List Symbol} {t : Text}
    (h : readSymbols cs.decode (.octet b :: rest) = .ok t) :
    ∃ (c : Char) (octets : Bytes) (rest' : List Symbol) (t' : Text),
      cs.encodeChar? c = some octets ∧ .octet b :: rest = octets.map .octet ++ rest' ∧
      t = c :: t' ∧ readSymbols cs.decode rest' = .ok t' := by
  -- The octets are read in one run, which ends where it ends for the charset; only there is the
  -- charset asked for its first character.
  obtain ⟨bs, after, rfl, ha⟩ := exists_run rest
  have hrun := readSymbols_run cs (b :: bs) ha
  rw [List.map_cons, List.cons_append, h] at hrun
  cases hd : cs.decode (b :: bs) with
  | error e => rw [hd] at hrun; cases hrun
  | ok u =>
    rw [hd] at hrun
    obtain ⟨v, hv, rfl⟩ := map_eq_ok_iff.1 hrun.symm
    obtain ⟨c, octets, bs', u', hc, hbs, rfl, hu⟩ := Charset.exists_of_decode_cons hd
    refine ⟨c, octets, bs'.map .octet ++ after, u' ++ v, hc, ?_, rfl, ?_⟩
    · rw [← List.append_assoc, ← List.map_append, ← hbs]
      rfl
    · rw [readSymbols_run cs bs' ha, hu, hv]
      rfl

end QueryString.Percent
