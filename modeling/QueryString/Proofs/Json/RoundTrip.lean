import QueryString.Proofs.Json.Literal
import QueryString.Proofs.Request.Display
import QueryString.Proofs.Value.Decimal

/-!
# JSON reads back

A reader of JSON with blanks, escapes and digits as the format has them; of its numbers it takes the
integers. Whatever value is written, the reader gives it back (`read_write`), so no two values have
one written form, and all of it is visible ASCII (`isVisible_of_mem_write`).

The argument follows the reader: in front of anything that does not go on with a number, a written
value is read as itself, and so are the items of an array or an object in front of the mark that
closes them. The reader goes down to a depth only. For every step down it takes a character, so the
length of the text is depth enough.
-/

namespace QueryString

namespace Decimal

/-- No zero stands in front of a number other than zero. -/
theorem head?_ofNat_ne {n : Nat} (h : n ≠ 0) : (ofNat n).head? ≠ some '0' := by
  unfold ofNat
  induction n using Nat.strongRecOn with
  | ind n ih =>
    rw [Nat.toDigits_eq_if (by decide)]
    split
    · next hlt =>
      have hall : ∀ m ∈ List.range 10, m ≠ 0 → [m.digitChar].head? ≠ some '0' := by decide
      exact hall n (List.mem_range.2 hlt) h
    · rw [List.head?_append_of_ne_nil _ Nat.toDigits_ne_nil]
      exact ih (n / 10) (by omega) (by omega)

end Decimal

namespace Json

open Store (listed afterFirst)
open Text (IsVisible)

/-! ## Blanks -/

/-- Tells whether a character may stand between two parts of a JSON text. -/
def isBlank (c : Char) : Bool := c == ' ' || c == '\t' || c == '\n' || c == '\r'

/-- The text behind the blanks in front of it. -/
def skipBlanks (t : Text) : Text := t.dropWhile isBlank

/-- The text begins with a character that is no blank and closes nothing. -/
def Begins (t : Text) : Prop :=
  ∃ c rest, t = c :: rest ∧ isBlank c = false ∧ c ≠ ']' ∧ c ≠ '\x7d'

theorem skipBlanks_of_begins {t : Text} (h : Begins t) (rest : Text) :
    skipBlanks (t ++ rest) = t ++ rest := by
  obtain ⟨c, t, rfl, hc, _⟩ := h
  rw [skipBlanks, List.cons_append, List.dropWhile_cons_of_neg (by simp [hc])]

/-! ## Integers -/

/-- Tells whether a text goes on where a number has been read. -/
def goesOn : Text → Bool
  | [] => false
  | c :: _ => Decimal.isDigit c || c == '.' || c == 'e' || c == 'E'

/-- The number in front of a text, and what follows it. A number other than zero does not begin with
a zero. -/
def readNat (t : Text) : Option (Nat × Text) :=
  let digits := t.takeWhile Decimal.isDigit
  let rest := t.dropWhile Decimal.isDigit
  if digits = [] ∨ digits.head? = some '0' ∧ digits ≠ ['0'] ∨ goesOn rest then none
  else some (Decimal.value digits, rest)

/-- The integer in front of a text, and what follows it. -/
def readInt : Text → Option (Int × Text)
  | '-' :: t => (readNat t).map fun p => (-(p.1 : Int), p.2)
  | t => (readNat t).map fun p => ((p.1 : Int), p.2)

theorem readNat_ofNat (n : Nat) {rest : Text} (h : goesOn rest = false) :
    readNat (Decimal.ofNat n ++ rest) = some (n, rest) := by
  have hdigits : ∀ c ∈ Decimal.ofNat n, Decimal.isDigit c :=
    fun _ => Decimal.isDigit_of_mem_ofNat
  have hrest : rest.takeWhile Decimal.isDigit = [] ∧ rest.dropWhile Decimal.isDigit = rest := by
    cases rest with
    | nil => exact ⟨rfl, rfl⟩
    | cons c rest =>
      have hc : ¬ Decimal.isDigit c := by
        simp only [goesOn, Bool.or_eq_false_iff] at h
        simp [h.1.1.1]
      exact ⟨List.takeWhile_cons_of_neg hc, List.dropWhile_cons_of_neg hc⟩
  have htake : (Decimal.ofNat n ++ rest).takeWhile Decimal.isDigit = Decimal.ofNat n := by
    rw [List.takeWhile_append_of_pos hdigits, hrest.1, List.append_nil]
  have hdrop : (Decimal.ofNat n ++ rest).dropWhile Decimal.isDigit = rest := by
    rw [List.dropWhile_append_of_pos hdigits, hrest.2]
  have hzero : ¬ ((Decimal.ofNat n).head? = some '0' ∧ Decimal.ofNat n ≠ ['0']) := by
    rintro ⟨hhead, hne⟩
    by_cases hn : n = 0
    · subst hn
      exact hne rfl
    · exact Decimal.head?_ofNat_ne hn hhead
  unfold readNat
  simp only [htake, hdrop]
  rw [if_neg, Decimal.value_ofNat]
  rintro (hnil | hhead | hgo)
  · exact Nat.toDigits_ne_nil hnil
  · exact hzero hhead
  · exact Bool.false_ne_true (h.symm.trans hgo)

theorem exists_ofNat_cons (n : Nat) :
    ∃ c rest, Decimal.ofNat n = c :: rest ∧ Decimal.isDigit c := by
  obtain ⟨c, rest, h⟩ := List.exists_cons_of_ne_nil (Nat.toDigits_ne_nil (n := n) (b := 10))
  exact ⟨c, rest, h, Decimal.isDigit_of_mem_ofNat (h ▸ List.mem_cons_self)⟩

/-- An integer begins with a digit or a minus sign, and so with nothing else. -/
theorem exists_ofInt_cons (n : Int) :
    ∃ c rest, Decimal.ofInt n = c :: rest ∧
      ∀ d, ¬ (Decimal.isDigit d ∨ d = '-') → c ≠ d := by
  cases n with
  | ofNat k =>
    obtain ⟨c, rest, h, hc⟩ := exists_ofNat_cons k
    exact ⟨c, rest, h, fun d hd he => hd (Or.inl (he ▸ hc))⟩
  | negSucc k => exact ⟨'-', _, rfl, fun d hd he => hd (Or.inr he.symm)⟩

theorem readInt_ofInt (n : Int) {rest : Text} (h : goesOn rest = false) :
    readInt (Decimal.ofInt n ++ rest) = some (n, rest) := by
  cases n with
  | ofNat k =>
    show readInt (Decimal.ofNat k ++ rest) = _
    rw [readInt, readNat_ofNat k h]
    · rfl
    · -- A digit is no minus sign.
      rintro t ht
      obtain ⟨c, ds, hds, hc⟩ := exists_ofNat_cons k
      rw [hds] at ht
      rw [(List.cons.inj ht).1] at hc
      exact absurd hc (by decide)
  | negSucc k =>
    show readInt ('-' :: (Decimal.ofNat (k + 1) ++ rest)) = _
    rw [readInt, readNat_ofNat (k + 1) h]
    rfl

/-! ## Items between marks -/

section Items

variable {α : Type}

/-- Items with a comma between neighbours, up to the mark that closes them, and what follows it; no
more items than a number says. -/
def readMore (close : Char) (item : Text → Option (α × Text)) : Nat → Text → Option (List α × Text)
  | 0, _ => none
  | count + 1, t =>
    match item (skipBlanks t) with
    | none => none
    | some (a, t) =>
      match skipBlanks t with
      | [] => none
      | c :: rest =>
        if c = close then some ([a], rest)
        else if c = ',' then (readMore close item count rest).map fun p => (a :: p.1, p.2)
        else none

/-- The items, if there are any, up to the mark that closes them, and what follows it. -/
def readItems (close : Char) (item : Text → Option (α × Text)) (t : Text) :
    Option (List α × Text) :=
  match skipBlanks t with
  | [] => none
  | c :: rest => if c = close then some ([], rest) else readMore close item t.length (c :: rest)

variable {close : Char} {item : Text → Option (α × Text)} {write : α → Text}

theorem readMore_cons_space (count : Nat) (t : Text) :
    readMore close item count (' ' :: t) = readMore close item count t := by
  cases count <;> rfl

/-- What closes items is no blank, and no number goes on with it. -/
theorem closing (hclose : close = ']' ∨ close = '\x7d') (rest : Text) :
    skipBlanks (close :: rest) = close :: rest ∧ goesOn (close :: rest) = false ∧ ',' ≠ close := by
  rcases hclose with rfl | rfl
  · exact ⟨rfl, rfl, by decide⟩
  · exact ⟨rfl, rfl, by decide⟩

/-- Items are read back, if each of them is in front of anything that does not go on with a
number. -/
theorem readMore_listed (hclose : close = ']' ∨ close = '\x7d') {as : List α} (hne : as ≠ [])
    (hbegins : ∀ a ∈ as, Begins (write a))
    (hitem : ∀ a ∈ as, ∀ rest, goesOn rest = false → item (write a ++ rest) = some (a, rest))
    {count : Nat} (hcount : as.length ≤ count) (rest : Text) :
    readMore close item count (listed (as.map write) ++ close :: rest) = some (as, rest) := by
  obtain ⟨hskip, hends, hcomma⟩ := closing hclose rest
  induction as generalizing count with
  | nil => exact absurd rfl hne
  | cons a as ih =>
    obtain ⟨hbegin, hbegins⟩ := List.forall_mem_cons.1 hbegins
    obtain ⟨hfirst, hitem⟩ := List.forall_mem_cons.1 hitem
    obtain ⟨count, rfl⟩ := Nat.exists_eq_add_of_le' (Nat.lt_of_lt_of_le (Nat.succ_pos _) hcount)
    rw [List.map_cons, Store.listed_cons_append, readMore, skipBlanks_of_begins hbegin]
    cases as with
    | nil =>
      rw [List.map_nil, afterFirst, hfirst _ hends]
      simp only [hskip, if_pos]
    | cons b as =>
      rw [List.map_cons, afterFirst, hfirst _ rfl]
      have hrest := ih (by simp) hbegins hitem (Nat.le_of_succ_le_succ hcount)
      show (if ',' = close then _ else if ',' = ',' then
        (readMore close item count (' ' :: (listed ((b :: as).map write) ++ close :: rest))).map
          (fun p => (a :: p.1, p.2)) else _) = _
      rw [if_neg hcomma, if_pos rfl, readMore_cons_space, hrest]
      rfl

/-- A list has no more items than characters. -/
theorem length_le_listed {as : List α} (h : ∀ a ∈ as, Begins (write a)) :
    as.length ≤ (listed (as.map write)).length := by
  induction as with
  | nil => exact Nat.zero_le _
  | cons a as ih =>
    obtain ⟨⟨c, t, hc, _⟩, hrest⟩ := List.forall_mem_cons.1 h
    have hle := ih hrest
    cases as with
    | nil =>
      rw [List.map_cons, List.map_nil, listed, hc]
      exact Nat.succ_le_succ (Nat.zero_le _)
    | cons b as =>
      simp only [List.map_cons, listed, List.length_append, List.length_cons] at hle ⊢
      omega

theorem readItems_of_begins (hclose : close = ']' ∨ close = '\x7d') {t : Text} (h : Begins t)
    (rest : Text) :
    readItems close item (t ++ rest) = readMore close item (t ++ rest).length (t ++ rest) := by
  rw [readItems, skipBlanks_of_begins h]
  obtain ⟨c, t, rfl, _, hbracket, hbrace⟩ := h
  have hne : c ≠ close := by
    rcases hclose with rfl | rfl
    · exact hbracket
    · exact hbrace
  exact if_neg hne

/-- The items of a list that may be empty are read back, in the same way. -/
theorem readItems_listed (hclose : close = ']' ∨ close = '\x7d') {as : List α}
    (hbegins : ∀ a ∈ as, Begins (write a))
    (hitem : ∀ a ∈ as, ∀ rest, goesOn rest = false → item (write a ++ rest) = some (a, rest))
    (rest : Text) :
    readItems close item (listed (as.map write) ++ close :: rest) = some (as, rest) := by
  have hcount : as.length ≤ (listed (as.map write) ++ close :: rest).length := by
    have hle := length_le_listed hbegins
    rw [List.length_append]
    omega
  cases as with
  | nil =>
    rw [List.map_nil, listed, List.nil_append, readItems, (closing hclose rest).1]
    exact if_pos rfl
  | cons a as =>
    have hmore := readMore_listed hclose (List.cons_ne_nil a as) hbegins hitem hcount rest
    rw [List.map_cons, Store.listed_cons_append] at hmore ⊢
    rw [readItems_of_begins hclose (hbegins a List.mem_cons_self), hmore]

end Items

/-! ## Values -/

/-- A word or an integer in front of a text, and what follows it. -/
def readBare : Text → Option (Json × Text)
  | 'n' :: 'u' :: 'l' :: 'l' :: rest => some (null, rest)
  | 't' :: 'r' :: 'u' :: 'e' :: rest => some (bool true, rest)
  | 'f' :: 'a' :: 'l' :: 's' :: 'e' :: rest => some (bool false, rest)
  | t => (readInt t).map fun p => (number p.1, p.2)

/-- A name with its value, and what follows them. -/
def readMember (value : Text → Option (Json × Text)) : Text → Option ((Text × Json) × Text)
  | '"' :: t =>
    match readText t with
    | none => none
    | some (name, t) =>
      match skipBlanks t with
      | ':' :: t => (value t).map fun p => ((name, p.1), p.2)
      | _ => none
  | _ => none

/-- The value in front of a text, and what follows it, down to a depth. -/
def readValue : Nat → Text → Option (Json × Text)
  | 0, _ => none
  | depth + 1, t =>
    match skipBlanks t with
    | '"' :: t => (readText t).map fun p => (string p.1, p.2)
    | '[' :: t => (readItems ']' (readValue depth) t).map fun p => (array p.1, p.2)
    | '\x7b' :: t =>
      (readItems '\x7d' (readMember (readValue depth)) t).map fun p => (object p.1, p.2)
    | t => readBare t

/-- The value of a JSON text. There is none if the text is no JSON, or if it has a number that is no
integer. -/
def read (t : Text) : Option Json :=
  match readValue t.length t with
  | some (value, rest) => if skipBlanks rest = [] then some value else none
  | none => none

/-! ## What is written -/

/-- A member as it is written. -/
def writeMember (member : Text × Json) : Text := writeText member.1 ++ ':' :: ' ' :: write member.2

theorem writeValues_eq (values : List Json) : writeValues values = listed (values.map write) := by
  induction values with
  | nil => rfl
  | cons value values ih =>
    cases values with
    | nil => rfl
    | cons next rest => rw [writeValues, ih]; rfl

theorem writeMembers_eq (members : List (Text × Json)) :
    writeMembers members = listed (members.map writeMember) := by
  induction members with
  | nil => rfl
  | cons member members ih =>
    cases members with
    | nil => rfl
    | cons next rest =>
      rw [writeMembers, ih, List.map_cons]
      show writeText member.1 ++ ':' :: ' ' :: (write member.2 ++ ',' :: ' ' :: _) =
        (writeText member.1 ++ ':' :: ' ' :: write member.2) ++ ',' :: ' ' :: _
      rw [List.append_assoc]
      rfl

theorem begins_write (v : Json) : Begins (write v) := by
  cases v with
  | null => exact ⟨'n', _, rfl, by decide⟩
  | bool b =>
    cases b with
    | false => exact ⟨'f', _, rfl, by decide⟩
    | true => exact ⟨'t', _, rfl, by decide⟩
  | number n =>
    obtain ⟨c, rest, h, hc⟩ := exists_ofInt_cons n
    refine ⟨c, rest, h, ?_, hc _ (by decide), hc _ (by decide)⟩
    simp only [isBlank, Bool.or_eq_false_iff, beq_eq_false_iff_ne]
    exact ⟨⟨⟨hc _ (by decide), hc _ (by decide)⟩, hc _ (by decide)⟩, hc _ (by decide)⟩
  | string t => exact ⟨'"', _, rfl, by decide⟩
  | array values => exact ⟨'[', _, rfl, by decide⟩
  | object members => exact ⟨'\x7b', _, rfl, by decide⟩

theorem begins_writeMember (member : Text × Json) : Begins (writeMember member) :=
  ⟨'"', _, rfl, by decide⟩

/-! ## Both ways -/

theorem length_le_of_mem_listed {t : Text} {ts : List Text} (h : t ∈ ts) :
    t.length ≤ (listed ts).length := by
  induction ts with
  | nil => exact absurd h List.not_mem_nil
  | cons first ts ih =>
    cases ts with
    | nil =>
      rw [List.mem_singleton.1 h]
      exact Nat.le_refl _
    | cons next rest =>
      rw [listed, List.length_append, List.length_cons, List.length_cons]
      rcases List.mem_cons.1 h with rfl | h
      · omega
      · have hle := ih h
        omega

theorem readBare_ofInt (n : Int) {rest : Text} (hrest : goesOn rest = false) :
    readBare (Decimal.ofInt n ++ rest) = some (number n, rest) := by
  obtain ⟨c, t, ht, hc⟩ := exists_ofInt_cons n
  have hread := readInt_ofInt n hrest
  rw [ht, List.cons_append] at hread ⊢
  rw [readBare, hread]
  · rfl
  · exact fun _ he => hc _ (by decide) (List.cons.inj he).1
  · exact fun _ he => hc _ (by decide) (List.cons.inj he).1
  · exact fun _ he => hc _ (by decide) (List.cons.inj he).1

theorem readMember_writeMember {value : Text → Option (Json × Text)} {member : Text × Json}
    (rest : Text) (h : value (' ' :: (write member.2 ++ rest)) = some (member.2, rest)) :
    readMember value (writeMember member ++ rest) = some (member, rest) := by
  obtain ⟨body, hbody, hread⟩ :=
    exists_readText_writeText member.1 (':' :: ' ' :: (write member.2 ++ rest))
  rw [writeMember, List.append_assoc, List.cons_append, List.cons_append, hbody, readMember, hread]
  show (value _).map _ = _
  rw [h]
  rfl

theorem readValue_cons_space (depth : Nat) (t : Text) :
    readValue depth (' ' :: t) = readValue depth t := by
  cases depth <;> rfl

/-- A value is read back in front of anything that does not go on with a number. -/
theorem readValue_write {depth : Nat} {v : Json} (h : (write v).length ≤ depth) {rest : Text}
    (hrest : goesOn rest = false) : readValue depth (write v ++ rest) = some (v, rest) := by
  induction depth generalizing v rest with
  | zero =>
    obtain ⟨c, t, hc, _⟩ := begins_write v
    rw [hc] at h
    exact absurd h (by simp)
  | succ depth ih =>
    rw [readValue, skipBlanks_of_begins (begins_write v)]
    cases v with
    | null => rfl
    | bool b => cases b <;> rfl
    | number n =>
      obtain ⟨c, t, ht, hc⟩ := exists_ofInt_cons n
      rw [← readBare_ofInt n hrest, write, ht, List.cons_append]
      split
      · next he => exact absurd (List.cons.inj he).1 (hc _ (by decide))
      · next he => exact absurd (List.cons.inj he).1 (hc _ (by decide))
      · next he => exact absurd (List.cons.inj he).1 (hc _ (by decide))
      · rfl
    | string t =>
      obtain ⟨body, hbody, hread⟩ := exists_readText_writeText t rest
      rw [write, hbody]
      simp only [hread, Option.map_some]
    | array values =>
      rw [write, List.length_cons, List.length_append, writeValues_eq] at h
      have hitem : ∀ v ∈ values, ∀ rest, goesOn rest = false →
          readValue depth (write v ++ rest) = some (v, rest) := by
        intro v hv rest hrest
        have hle := length_le_of_mem_listed (List.mem_map_of_mem (f := write) hv)
        exact ih (by omega) hrest
      rw [write, List.cons_append, List.append_assoc, List.singleton_append, writeValues_eq]
      simp only
      rw [readItems_listed (Or.inl rfl) (fun v _ => begins_write v) hitem rest]
      rfl
    | object members =>
      rw [write, List.length_cons, List.length_append, writeMembers_eq] at h
      have hitem : ∀ m ∈ members, ∀ rest, goesOn rest = false →
          readMember (readValue depth) (writeMember m ++ rest) = some (m, rest) := by
        intro m hm rest hrest
        have hle := length_le_of_mem_listed (List.mem_map_of_mem (f := writeMember) hm)
        simp only [writeMember, List.length_append, List.length_cons] at hle
        refine readMember_writeMember rest ?_
        rw [readValue_cons_space]
        exact ih (by omega) hrest
      rw [write, List.cons_append, List.append_assoc, List.singleton_append, writeMembers_eq]
      simp only
      rw [readItems_listed (Or.inr rfl) (fun m _ => begins_writeMember m) hitem rest]
      rfl

/-- What is written is read as the value that it was. -/
theorem read_write (v : Json) : read (write v) = some v := by
  have h : readValue (write v).length (write v ++ []) = some (v, []) :=
    readValue_write (Nat.le_refl _) rfl
  rw [List.append_nil] at h
  rw [read, h]
  exact if_pos rfl

-- The reader takes more than what is written: blanks may stand between any two parts.
example : read " [1, [ ],true , \x7b\"a\" : -20\x7d ]\n".toList = some (array [number 1, array [],
    bool true, object [(['a'], number (-20))]]) := by cbv

theorem isVisible_of_mem_ofInt {n : Int} {c : Char} (h : c ∈ Decimal.ofInt n) : IsVisible c := by
  cases n with
  | ofNat k => exact Text.isVisible_of_mem_ofNat h
  | negSucc k =>
    rcases List.mem_cons.1 h with rfl | h
    · decide
    · exact Text.isVisible_of_mem_ofNat h

mutual

/-- All of what is written is visible. -/
theorem isVisible_of_mem_write : ∀ (v : Json), ∀ c ∈ write v, IsVisible c
  | null => Text.forall_mem_of_all rfl
  | bool b => by cases b <;> exact Text.forall_mem_of_all rfl
  | number n => fun c => isVisible_of_mem_ofInt
  | string t => fun c => isVisible_of_mem_writeText
  | array values => by
    rw [write, List.forall_mem_cons, List.forall_mem_append]
    exact ⟨by decide, isVisible_of_mem_writeValues values, Text.forall_mem_of_all rfl⟩
  | object members => by
    rw [write, List.forall_mem_cons, List.forall_mem_append]
    exact ⟨by decide, isVisible_of_mem_writeMembers members, Text.forall_mem_of_all rfl⟩

theorem isVisible_of_mem_writeValues : ∀ (values : List Json), ∀ c ∈ writeValues values, IsVisible c
  | [] => fun _ hc => absurd hc List.not_mem_nil
  | [value] => isVisible_of_mem_write value
  | value :: next :: rest => by
    rw [writeValues, List.forall_mem_append, List.forall_mem_cons, List.forall_mem_cons]
    exact ⟨isVisible_of_mem_write value, by decide, by decide,
      isVisible_of_mem_writeValues (next :: rest)⟩

theorem isVisible_of_mem_writeMembers :
    ∀ (members : List (Text × Json)), ∀ c ∈ writeMembers members, IsVisible c
  | [] => fun _ hc => absurd hc List.not_mem_nil
  | [(name, value)] => by
    rw [writeMembers, List.forall_mem_append, List.forall_mem_cons, List.forall_mem_cons]
    exact ⟨fun c => isVisible_of_mem_writeText, by decide, by decide, isVisible_of_mem_write value⟩
  | (name, value) :: next :: rest => by
    rw [writeMembers, List.forall_mem_append, List.forall_mem_cons, List.forall_mem_cons,
      List.forall_mem_append, List.forall_mem_cons, List.forall_mem_cons]
    exact ⟨fun c => isVisible_of_mem_writeText, by decide, by decide, isVisible_of_mem_write value,
      by decide, by decide, isVisible_of_mem_writeMembers (next :: rest)⟩

end

end Json

end QueryString
