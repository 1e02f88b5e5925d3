import QueryString.Charset.Codec
import QueryString.Charset.Utf16

/-!
# Codecs by name

A codec reads octets as text and writes text as octets. Four of them belong to the library, those of
the charsets (`Charset.codec`). What any other name stands for depends on where the library runs, so
it is a parameter, `Codecs`: some names are those of further codecs, of which nothing is assumed,
and the rest are not known (`Codec.unknown`).
-/

namespace QueryString

/-- Why a codec has no use for octets or for a text, whatever they are made of. -/
inductive CodecFailure where
  /-- No codec goes by the name. -/
  | unknown (name : Text)
  /-- Any other failure: its kind, and what it says. -/
  | other (kind message : Text)
deriving DecidableEq, Repr

/-- The failure in words. -/
def CodecFailure.message : CodecFailure → Text
  | unknown name => "unknown encoding: ".toList ++ name
  | other _ message => message

/-- A way to read octets as text and to write text as octets. -/
structure Codec where
  /-- The text that octets write, or their fault. -/
  decode : Bytes → Except (ByteFault ⊕ CodecFailure) Text
  /-- The octets of a text, or what keeps them from being written. -/
  encode : Text → Except (Unencodable ⊕ CodecFailure) Bytes

/-- What stands in for a codec where no codec goes by the name. -/
def Codec.unknown (name : Text) : Codec where
  decode _ := .error (.inr (.unknown name))
  encode _ := .error (.inr (.unknown name))

/-- The codec of a charset. -/
def Charset.codec (cs : Charset) : Codec where
  decode bs := (cs.decode bs).mapError .inl
  encode t := (cs.encode t).mapError .inl

/-- The codec of UTF-16, which writes every text. -/
def Codec.utf16 : Codec where
  decode bs := (Utf16.decode bs).mapError .inl
  encode t := .ok (Utf16.encode t)

/-- The codecs that are at hand besides those of the charsets. -/
class Codecs where
  /-- What a name stands for that is no name of a charset. -/
  other : Text → Codec

namespace Codecs

/-- The codec of a name. -/
def find [Codecs] (name : Text) : Codec :=
  match Charset.ofName? name with
  | some cs => cs.codec
  | none => other name

theorem find_of_ofName? [Codecs] {name : Text} {cs : Charset}
    (h : Charset.ofName? name = some cs) : find name = cs.codec := by
  rw [find, h]

theorem find_of_none [Codecs] {name : Text} (h : Charset.ofName? name = none) :
    find name = other name := by
  rw [find, h]

/-- One codec more: that of UTF-16. It is what there is where nothing else is said. -/
instance withUtf16 : Codecs where
  other name :=
    if ["utf-16-be".toList, "utf-16be".toList].contains (Charset.foldName name) then .utf16
    else .unknown name

end Codecs

end QueryString
