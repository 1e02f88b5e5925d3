import QueryString.Error
import QueryString.Percent

/-!
# Scopes

What a server says about a request: the path with its escapes, as octets, or without them, as text,
and the query as octets. Any of them may be missing.
-/

namespace QueryString

/-- What a server says about a request. -/
structure Scope where
  /-- The path without its escapes. -/
  path : Option Text := none
  /-- The path with its escapes. -/
  rawPath : Option Bytes := none
  query : Option Bytes := none
deriving DecidableEq, Repr

namespace Scope

/-- Tells whether an octet stands for itself in a path: an unreserved one, or a slash. -/
def keepsInPath (b : UInt8) : Bool := Percent.isUnreserved b || b == 0x2F

/-- The path with all escapes that it needs. -/
def escapePath (path : Text) : Text :=
  (Utf8.encode path).flatMap (Percent.escapeUnless keepsInPath)

/-- The path with its escapes: as the server has it, or else made from the path without them. A
path that is missing or empty is a slash. -/
def escapedPath (scope : Scope) : Text :=
  match scope.rawPath with
  -- An empty path counts as none, here and below.
  | some (b :: bs) => (b :: bs).map Text.ofByte
  | _ =>
    match scope.path with
    | some (c :: cs) => escapePath (c :: cs)
    | _ => escapePath ['/']

/-- The octets of the query; none, if it is missing. -/
def queryOctets (scope : Scope) : Bytes := scope.query.getD []

/-- Tells whether an octet is ASCII. -/
def isAsciiOctet (b : UInt8) : Bool := b < 0x80

/-- The query as a text. The first octet that is not ASCII is an error. -/
def queryText (scope : Scope) : Except Error Text :=
  match scope.queryOctets.dropWhile isAsciiOctet with
  | [] => .ok (scope.queryOctets.map Text.ofByte)
  | b :: _ =>
    .error (.malformed (.notAscii scope.queryOctets b
      (scope.queryOctets.takeWhile isAsciiOctet).length))

end Scope

end QueryString
