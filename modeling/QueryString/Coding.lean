import QueryString.Error
import QueryString.Percent
import QueryString.Settings

/-!
# Names and values in their coded form

`Coding.decode` reads a name or a value, `Coding.encode` writes one. Between escapes a text stands
as it is, so a codec is looked up only where it is needed: to read a text that holds a percent sign,
and to write a text that is not empty.
-/

namespace QueryString.Coding

variable [Codecs]

/-! ## Reading -/

/-- The token in which a plus sign that stands for a space is a space. -/
def unplus (coding : Coding) (raw : Text) : Text :=
  if coding.plusAsSpace then Text.replace '+' ' ' raw else raw

/-- The text of a token that has no bad escape. -/
def unescape (coding : Coding) (token : Text) : Except Error Text :=
  if '%' ∈ token then
    match Percent.read (Codecs.find coding.charset).decode token with
    | .ok t => .ok t
    | .error (.inl fault) =>
      .error (.malformed (.component (.badOctets token coding.charset fault)))
    | .error (.inr f) => .error (.codec f)
  else .ok token

/-- The text that a name or a value stands for. A bad escape is reported before all else. -/
def decode (coding : Coding) (raw : Text) : Except Error Text :=
  match Percent.badEscape? raw with
  | some position => .error (.malformed (.component (.badEscape raw position)))
  | none => coding.unescape (coding.unplus raw)

/-! ## Writing -/

/-- The characters that an octet is written as. -/
def writeOctet (coding : Coding) (b : UInt8) : Text :=
  if coding.plusAsSpace ∧ b = 0x20 then ['+'] else Percent.escapeUnless Percent.isUnreserved b

/-- The coding in which the octets of a text are written. Where the text has no space, a plus sign
stands for none, even if the octet of the space is among its octets. -/
def spacing (coding : Coding) (t : Text) : Coding :=
  { coding with plusAsSpace := coding.plusAsSpace && t.contains ' ' }

/-- The coded form of a text: nothing but unreserved characters and escapes, and a plus sign for a
space where that is its meaning. -/
def encode (coding : Coding) (t : Text) : Except Error Text :=
  if t.isEmpty then .ok []
  else
    match (Codecs.find coding.charset).encode t with
    | .ok bs => .ok (bs.flatMap (coding.spacing t).writeOctet)
    | .error (.inl f) => .error (.unencodable f)
    | .error (.inr f) => .error (.codec f)

/-- A text with neither a percent sign nor a plus sign stands for itself. -/
theorem decode_of_not_mem (coding : Coding) {t : Text} (hp : '%' ∉ t) (hs : '+' ∉ t) :
    coding.decode t = .ok t := by
  have hu : coding.unplus t = t := by
    simp [unplus, Text.replace_of_not_mem hs]
  simp [decode, Percent.badEscape?_of_not_mem hp, hu, unescape, hp]

end QueryString.Coding
