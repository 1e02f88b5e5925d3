import QueryString.Charset.Utf8.Basic
import QueryString.Charset.Windows1252
import QueryString.Text.Decimal
import QueryString.Text.Quoted

/-!
# Reading and writing octets in a charset

`Charset.decode` reads octets and names the first fault; `Charset.encode` writes a text and names
the first run of characters that the charset does not have.
-/

namespace QueryString

namespace Charset

/-! ## Reading -/

/-- The character of an octet that stands for one on its own. -/
def singleByte (fault : ByteFault) (char? : UInt8 → Option Char) (b : UInt8) :
    Except ByteFault Char :=
  match char? b with
  | some c => .ok c
  | none => .error fault

/-- The text that octets write in a charset, or the first fault in them. -/
def decode : Charset → Bytes → Except ByteFault Text
  | utf8, bs => Utf8.decode bs
  | latin1, bs => .ok (bs.map Text.ofByte)
  | ascii, bs =>
    bs.mapM (singleByte .aboveAscii fun b => if b.toNat < 0x80 then some (Text.ofByte b) else none)
  | windows1252, bs => bs.mapM (singleByte .undefined Windows1252.decodeByte?)

/-! ## Writing -/

/-- The octets of a character, if the charset has it. -/
def encodeChar? : Charset → Char → Option Bytes
  | utf8, c => some (Utf8.encodeChar c)
  | latin1, c => if c.toNat < 0x100 then some [UInt8.ofNat c.toNat] else none
  | ascii, c => if c.toNat < 0x80 then some [UInt8.ofNat c.toNat] else none
  | windows1252, c => (Windows1252.encodeChar? c).map ([·])

/-- Tells whether a charset has a character. -/
def has (cs : Charset) (c : Char) : Bool := (cs.encodeChar? c).isSome

end Charset

/-- The first run of characters of a text that its charset does not have. -/
structure Unencodable where
  charset : Charset
  /-- Where in the text the run begins. -/
  position : Nat
  first : Char
  /-- How many more characters the run has. -/
  more : Nat
deriving DecidableEq, Repr

namespace Charset

/-- The octets of a text in a charset, or the first run of characters that it does not have. -/
def encode (cs : Charset) (t : Text) : Except Unencodable Bytes :=
  match t.dropWhile cs.has with
  | [] => .ok (t.flatMap fun c => (cs.encodeChar? c).getD [])
  | c :: rest =>
    .error ⟨cs, (t.takeWhile cs.has).length, c, (rest.takeWhile (!cs.has ·)).length⟩

/-- A text is written if and only if the charset has all its characters. -/
theorem encode_eq_ok_iff (cs : Charset) (t : Text) :
    (∃ bs, cs.encode t = .ok bs) ↔ ∀ c ∈ t, cs.has c := by
  unfold encode
  cases h : t.dropWhile cs.has with
  | nil =>
    have ht : t.takeWhile cs.has = t := by
      simpa [h] using List.takeWhile_append_dropWhile (p := cs.has) (l := t)
    have hall := List.all_eq_true.1 (List.all_takeWhile (p := cs.has) (l := t))
    exact ⟨fun _ => ht ▸ hall, fun _ => ⟨_, rfl⟩⟩
  | cons c rest =>
    have hc : cs.has c = false := by
      have := List.head?_dropWhile_not cs.has t
      simpa [h] using this
    have hmem : c ∈ t := (List.dropWhile_sublist cs.has).subset (h ▸ List.mem_cons_self)
    constructor
    · rintro ⟨bs, hbs⟩
      cases hbs
    · intro hall
      simp [hall c hmem] at hc

/-- The name by which a charset is called where it fails to write a character. -/
def codecName : Charset → Text
  | utf8 => "utf-8".toList
  | latin1 => "latin-1".toList
  | ascii => "ascii".toList
  | windows1252 => "charmap".toList

/-- Why a charset does not have a character. -/
def missingReason : Charset → Text
  | utf8 => "surrogates not allowed".toList
  | latin1 => "ordinal not in range(256)".toList
  | ascii => "ordinal not in range(128)".toList
  | windows1252 => "character maps to <undefined>".toList

end Charset

/-- The failure in words: a single character by its code, several by their positions. -/
def Unencodable.message (f : Unencodable) : Text :=
  let what :=
    if f.more = 0 then
      "character '".toList ++ Text.escapeCode f.first ++ "' in position ".toList
        ++ Decimal.ofNat f.position
    else
      "characters in position ".toList ++ Decimal.ofNat f.position ++ '-' ::
        Decimal.ofNat (f.position + f.more)
  '\'' :: f.charset.codecName ++ "' codec can't encode ".toList ++ what ++ ": ".toList
    ++ f.charset.missingReason

end QueryString
