import QueryString.Codecs
import QueryString.Uri.Basic
import QueryString.Value.Integer

/-!
# What can go wrong

Every failure of the library as a value: one constructor for each cause, with the data that the
cause has. The words are in the functions named `message`.
-/

namespace QueryString

/-- Why a name or a value cannot be decoded. -/
inductive ComponentFault where
  /-- A percent sign at the position is not followed by two hexadecimal digits. -/
  | badEscape (token : Text) (position : Nat)
  /-- The escaped octets are no text in the charset, which is given by the name it was asked for.
  In the token a plus sign that stood for a space is a space. -/
  | badOctets (token : Text) (charset : Text) (fault : ByteFault)
deriving DecidableEq, Repr

namespace ComponentFault

/-- The text that cannot be decoded. -/
def token : ComponentFault → Text
  | badEscape token _ => token
  | badOctets token _ _ => token

/-- The position of the bad escape. -/
def position? : ComponentFault → Option Nat
  | badEscape _ position => some position
  | badOctets _ _ _ => none

/-- The fault in words. A bad escape is shown with the two characters after its percent sign. -/
def message : ComponentFault → Text
  | badEscape token position =>
    "Invalid percent-escape ".toList ++ Text.quoted ((token.drop position).take 3)
      ++ " at position ".toList ++ Decimal.ofNat position
  | badOctets _ charset fault =>
    "Percent-encoded bytes are not valid ".toList ++ charset ++ ": ".toList ++ fault.reason

end ComponentFault

/-- Why a query cannot be decoded. -/
inductive DecodeError where
  /-- A name or a value on its own has a fault. -/
  | component (fault : ComponentFault)
  /-- A pair of a query has a fault, in its name or else in its value. -/
  | parameter (name value : Text) (fault : ComponentFault)
  /-- The octets of a query are not ASCII: the octet at the position is the first that is not. -/
  | notAscii (query : Bytes) (octet : UInt8) (position : Nat)
deriving DecidableEq, Repr

namespace DecodeError

/-- The text that cannot be decoded. -/
def token : DecodeError → Text
  | component fault => fault.token
  | parameter _ _ fault => fault.token
  | notAscii query _ _ => query.map Text.ofByte

/-- The position of the fault, where it has one. -/
def position? : DecodeError → Option Nat
  | component fault => fault.position?
  | parameter _ _ fault => fault.position?
  | notAscii _ _ position => some position

/-- The name of the pair as it stands in the query. -/
def name? : DecodeError → Option Text
  | parameter name _ _ => some name
  | _ => none

/-- The value of the pair as it stands in the query. -/
def value? : DecodeError → Option Text
  | parameter _ value _ => some value
  | _ => none

/-- The failure in words. -/
def message : DecodeError → Text
  | component fault => fault.message
  | parameter name value fault =>
    "Failed to decode request parameter ".toList ++ Text.quoted name ++ " with value ".toList
      ++ Text.quoted value ++ ": ".toList ++ fault.message
  | notAscii _ octet position =>
    "Query string is not ASCII (byte 0x".toList ++ Hex.padded 2 octet.toNat
      ++ " at position ".toList ++ Decimal.ofNat position ++ [')']

end DecodeError

/-- Why an operation has no result. -/
inductive Error where
  /-- A query, a name or a value cannot be decoded. -/
  | malformed (e : DecodeError)
  /-- A text cannot be written in a charset. -/
  | unencodable (f : Unencodable)
  /-- The codec of a charset fails, or there is none. -/
  | codec (f : CodecFailure)
  | badUri (fault : Uri.Fault)
  /-- A number has more digits than are read. -/
  | tooLong (f : Integer.TooLong)
  /-- The handler of the name does nothing. -/
  | unimplemented (handler : Text)
deriving DecidableEq, Repr

/-- The failure in words. -/
def Error.message : Error → Text
  | malformed e => e.message
  | unencodable f => f.message
  | codec f => f.message
  | badUri fault => fault.message
  | tooLong f => f.message
  | unimplemented handler => handler ++ " must implement handle_request()".toList

end QueryString
