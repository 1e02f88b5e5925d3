import QueryString.Proofs.Coding.RoundTrip
import QueryString.Proofs.Percent.Repair
import QueryString.Proofs.Request.Scope

/-!
# The path of a request

The path of a request is the repaired one of its target, so it never fails.

* A server that gives no path with escapes gives one without them. It is escaped, and the request
  has it back as it was (`path_survives_escaping`): every octet of it is either kept, as one of few
  characters of ASCII, or escaped, and none is read twice.
* The path is what the strict reader of names and values makes of the target's path. Where that one
  refuses, the path shows it (`path_extends_decode`).
-/

namespace QueryString

namespace Scope

/-! ## Paths that are escaped -/

/-- Letters and digits of ASCII, four marks and the slash as themselves, and escapes. -/
inductive IsEscapedPath : Text → Prop where
  | nil : IsEscapedPath []
  | kept {c : Char} {rest : Text}
    (hc : Uri.isLetter c ∨ Decimal.isDigit c ∨ c ∈ ['_', '.', '-', '~', '/'])
    (h : IsEscapedPath rest) : IsEscapedPath (c :: rest)
  | escape {high low : Char} {rest : Text} (hhigh : Hex.isDigit high) (hlow : Hex.isDigit low)
    (h : IsEscapedPath rest) : IsEscapedPath ('%' :: high :: low :: rest)

theorem keepsInPath_iff {b : UInt8} :
    keepsInPath b ↔ Percent.isUnreserved b ∨ b.toNat = 0x2F := by
  simp [keepsInPath, ← UInt8.toNat_inj]

theorem keepsAscii_keepsInPath : Percent.KeepsAscii keepsInPath := by
  intro b hb
  have hpercent : b ≠ 0x25 ↔ b.toNat ≠ 0x25 := by
    rw [Ne, ← UInt8.toNat_inj]
    rfl
  rw [keepsInPath_iff, Percent.isUnreserved_iff] at hb
  rw [hpercent]
  omega

theorem ofByte_of_keepsInPath {b : UInt8} (h : keepsInPath b) :
    Uri.isLetter (Text.ofByte b) ∨ Decimal.isDigit (Text.ofByte b) ∨
      Text.ofByte b ∈ ['_', '.', '-', '~', '/'] := by
  rcases keepsInPath_iff.1 h with hu | hslash
  · rcases Percent.ofByte_of_isUnreserved hu with hl | hd | hm
    · exact Or.inl hl
    · exact Or.inr (Or.inl hd)
    · exact Or.inr (Or.inr (List.mem_append_left ['/'] hm))
  · obtain rfl : b = 0x2F := UInt8.toNat_inj.1 hslash
    exact Or.inr (Or.inr (by decide))

/-- Octets are written as an escaped path. -/
theorem isEscapedPath_flatMap (bs : Bytes) :
    IsEscapedPath (bs.flatMap (Percent.escapeUnless keepsInPath)) := by
  induction bs with
  | nil => exact .nil
  | cons b bs ih =>
    rw [List.flatMap_cons, Percent.escapeUnless]
    split
    · next hb => exact .kept (ofByte_of_keepsInPath hb) ih
    · obtain ⟨hhigh, hlow⟩ := Hex.isDigit_of_byte? (Hex.byte?_pair b)
      exact .escape hhigh hlow ih

theorem isEscapedPath_escapePath (t : Text) : IsEscapedPath (escapePath t) :=
  isEscapedPath_flatMap (Utf8.encode t)

/-- A path that is escaped is repaired to itself. -/
theorem repair_escapePath (t : Text) : Percent.repair (escapePath t) = t :=
  Percent.repair_flatMap_escapeUnless keepsAscii_keepsInPath t

/-- A server that gives no path with escapes: the other path is escaped, or else a slash. -/
theorem escapedPath_of_no_rawPath {scope : Scope} (hraw : scope.rawPath.getD [] = []) :
    scope.escapedPath =
      escapePath (if scope.path.getD [] = [] then ['/'] else scope.path.getD []) := by
  unfold escapedPath
  split
  · next hb =>
    rw [hb] at hraw
    cases hraw
  split
  · next hc =>
    rw [hc, Option.getD_some, if_neg (List.cons_ne_nil _ _)]
  · next hne =>
    rw [if_pos]
    cases hp : scope.path with
    | none => rfl
    | some t =>
      cases t with
      | nil => rfl
      | cons c cs => exact absurd hp (hne c cs)

end Scope

namespace Coding

/-! ## The strict reader -/

variable [Codecs] {coding : Coding} {raw : Text}

/-- Where no escape is bad, the two readers have the same text before them. -/
theorem decode_eq_mapError (hcs : Charset.ofName? coding.charset = some .utf8)
    (hplus : coding.plusAsSpace = false) (hb : Percent.badEscape? raw = none) :
    coding.decode raw = (Percent.read Charset.utf8.decode raw).mapError fun fault =>
      .malformed (.component (.badOctets raw coding.charset fault)) := by
  have hraw : coding.unplus raw = raw := by
    rw [unplus, hplus]
    rfl
  rw [decode, hb]
  simp only
  rw [hraw, unescape_eq hcs]

/-- What is read is what the repair gives. -/
theorem repair_of_decode (hcs : Charset.ofName? coding.charset = some .utf8)
    (hplus : coding.plusAsSpace = false) {t : Text} (h : coding.decode raw = .ok t) :
    Percent.repair raw = t := by
  cases hb : Percent.badEscape? raw with
  | some i =>
    rw [decode, hb] at h
    cases h
  | none =>
    rw [decode_eq_mapError hcs hplus hb, mapError_eq_ok_iff] at h
    exact Percent.repair_of_read h

/-- What is refused for a bad escape keeps a percent sign, and what is refused for its octets gets a
replacement character. -/
theorem percent_or_replacement_mem_repair (hcs : Charset.ofName? coding.charset = some .utf8)
    (hplus : coding.plusAsSpace = false) {e : Error} (h : coding.decode raw = .error e) :
    '%' ∈ Percent.repair raw ∨ Utf8.replacement ∈ Percent.repair raw := by
  cases hb : Percent.badEscape? raw with
  | some i => exact Or.inl (Percent.percent_mem_repair hb)
  | none =>
    rw [decode_eq_mapError hcs hplus hb, mapError_eq_error_iff] at h
    obtain ⟨fault, hfault, _⟩ := h
    exact Or.inr (Percent.replacement_mem_repair hfault)

end Coding

namespace Request

/-! ## The path of a request -/

theorem exists_ofTarget [Codecs] {reading : Reading} {query : Option Text} {store : Store}
    (h : Query.read reading (query.getD []) = .ok store) (path : Text) :
    ∃ r, ofTarget reading ⟨path, query⟩ = .ok r ∧ r.path = Percent.repair path :=
  ⟨_, ofTarget_eq_ok_iff.2 ⟨store, h, rfl⟩, rfl⟩

/-- Whatever path was escaped, the request has it. -/
theorem exists_ofScope_of_escapePath [Codecs] {scope : Scope} {t : Text}
    (ht : scope.escapedPath = Scope.escapePath t) {reading : Reading} {query : Text} {store : Store}
    (hquery : scope.queryText = .ok query) (h : Query.read reading query = .ok store) :
    ∃ r, ofScope reading scope = .ok r ∧ r.path = t := by
  have hread : Query.read reading ((some query).getD []) = .ok store := h
  obtain ⟨r, hr, hpath⟩ := exists_ofTarget hread scope.escapedPath
  refine ⟨r, ofScope_eq_ok_iff.2 ⟨query, hquery, hr⟩, ?_⟩
  rw [hpath, ht, Scope.repair_escapePath]

/-- Where a server gives no path with escapes, the path without them is written with few characters
of ASCII and with escapes, and the request has it back as it was. If that one is missing or empty as
well, the path is a slash. The query of the server must be one that can be read. -/
theorem path_survives_escaping [Codecs] {scope : Scope} (hraw : scope.rawPath.getD [] = []) :
    (∀ t, scope.path = some t → t ≠ [] →
      Scope.IsEscapedPath scope.escapedPath ∧
        ∀ reading query store, scope.queryText = .ok query →
          Query.read reading query = .ok store →
          ∃ r, ofScope reading scope = .ok r ∧ r.path = t) ∧
    (scope.path.getD [] = [] →
      scope.escapedPath = ['/'] ∧
        ∀ reading query store, scope.queryText = .ok query →
          Query.read reading query = .ok store →
          ∃ r, ofScope reading scope = .ok r ∧ r.path = ['/']) := by
  have hescaped := Scope.escapedPath_of_no_rawPath hraw
  constructor
  · intro t ht hne
    rw [ht, Option.getD_some, if_neg hne] at hescaped
    constructor
    · rw [hescaped]
      exact Scope.isEscapedPath_escapePath t
    · intro reading query store hquery hread
      exact exists_ofScope_of_escapePath hescaped hquery hread
  · intro hnone
    rw [if_pos hnone] at hescaped
    refine ⟨hescaped, ?_⟩
    intro reading query store hquery hread
    exact exists_ofScope_of_escapePath hescaped hquery hread

/-- A percent sign, what looks like an escape, a plus sign, a space, marks of the syntax, a control
and characters beyond ASCII. -/
theorem path_survives_escaping_utf8 :
    Scope.IsEscapedPath "/100%25/%2541%2B%20%3F%23%0A%C3%A9%F0%9F%98%80".toList ∧
      ∃ r, ofScope (Options.reading {} {})
          ⟨some "/100%/%41+ ?#\né😀".toList, some [], some [0x61, 0x3D, 0x31]⟩ = .ok r ∧
        r.path = "/100%/%41+ ?#\né😀".toList := by
  have hraw : ((some [] : Option Bytes).getD []) = [] := rfl
  have hread : Query.read (Options.reading {} {}) "a=1".toList = .ok ⟨[(['a'], [['1']])]⟩ := by
    decide
  have h := @path_survives_escaping _
    ⟨some "/100%/%41+ ?#\né😀".toList, some [], some [0x61, 0x3D, 0x31]⟩ hraw
  obtain ⟨hescaped, hpath⟩ := h.1 _ rfl (by decide)
  exact ⟨hescaped, hpath _ _ _ rfl hread⟩

/-- The path of a request never fails: what goes wrong is in the query. Where the target's path is
read as a name or a value is, in UTF-8 and without a meaning of the plus sign, the path is what is
read. Where it is refused, the path holds a percent sign or a replacement character. -/
theorem path_extends_decode [Codecs] (reading : Reading) (path : Text) (query : Option Text) :
    (∀ e, ofTarget reading ⟨path, query⟩ = .error e ↔
      Query.read reading (query.getD []) = .error e) ∧
    ∀ store, Query.read reading (query.getD []) = .ok store →
      ∃ r, ofTarget reading ⟨path, query⟩ = .ok r ∧
        (∀ t, Coding.decode ⟨"utf-8".toList, false⟩ path = .ok t → r.path = t) ∧
        ∀ e, Coding.decode ⟨"utf-8".toList, false⟩ path = .error e →
          '%' ∈ r.path ∨ '\uFFFD' ∈ r.path := by
  refine ⟨fun e => ofTarget_eq_error_iff, ?_⟩
  intro store hread
  have hcs : Charset.ofName? "utf-8".toList = some .utf8 := by decide
  obtain ⟨r, hr, hpath⟩ := exists_ofTarget hread path
  refine ⟨r, hr, ?_, ?_⟩
  · intro t ht
    rw [hpath, Coding.repair_of_decode hcs rfl ht]
  · intro e he
    rw [hpath]
    exact Coding.percent_or_replacement_mem_repair hcs rfl he

/-- Two escapes of one character beside plus signs, and a character that breaks off before a bad
escape. -/
theorem path_extends_decode_utf8 :
    (∃ r, ofTarget (Options.reading {} {}) ⟨"/caf%C3%a9+%2B".toList, none⟩ = .ok r ∧
      r.path = "/café++".toList) ∧
    ∃ r, ofTarget (Options.reading {} {}) ⟨"/%E2%82%zz".toList, none⟩ = .ok r ∧
      ('%' ∈ r.path ∨ '\uFFFD' ∈ r.path) := by
  have hread : Query.read (Options.reading {} {}) ((none : Option Text).getD []) = .ok ⟨[]⟩ := by
    decide
  constructor
  · obtain ⟨r, hr, hpath, -⟩ := (path_extends_decode _ "/caf%C3%a9+%2B".toList none).2 _ hread
    exact ⟨r, hr, hpath _ (by decide +kernel)⟩
  · obtain ⟨r, hr, -, hpath⟩ := (path_extends_decode _ "/%E2%82%zz".toList none).2 _ hread
    exact ⟨r, hr, hpath (.malformed (.component (.badEscape "/%E2%82%zz".toList 7)))
      (by decide +kernel)⟩

end Request

end QueryString
