import QueryString.Request.Basic
import QueryString.Server

/-!
# The gate before a handler

Each request is built before its handler runs. A query that cannot be decoded never reaches the
handler: the client is told what is wrong with it, in plain text, under the status that the
settings have for this. Any other failure ends the run.

Handlers are parameters, and so are the failures that they can end with.
-/

namespace QueryString

/-- What a handler does: the messages that it sends, and the failure that it ends with. -/
structure Reply (ε : Type) where
  /-- The messages, in order. -/
  messages : List Message
  /-- The failure; none, if the handler came to its end. -/
  failure : Option ε
deriving DecidableEq, Repr

/-- Answers a request with its body. -/
abbrev Handler (ε : Type) := Request → Bytes → Reply ε

namespace Gate

/-- What ends a run before its end. -/
inductive Failure (ε : Type) where
  /-- The request cannot be built, through no fault of the client. -/
  | build (e : Error)
  /-- The handler fails. -/
  | handle (e : ε)
deriving DecidableEq, Repr

/-- What came of a request. -/
structure Run (ε : Type) where
  /-- The messages that were sent, in order. -/
  messages : List Message
  /-- What was written down, in order. -/
  log : List LogRecord
  /-- The failure that left the run; none, if it came to its end. -/
  failure : Option (Failure ε)
deriving DecidableEq, Repr

/-- What the client of a malformed query is told. -/
def rejectionText (e : DecodeError) : Text := "Bad query string: ".toList ++ e.message

/-- The run of a request that is turned away. -/
def reject {ε : Type} (server : Server) (settings : Settings) (scope : Scope) (e : DecodeError) :
    Run ε where
  messages := server.sendText settings.badRequestStatus (rejectionText e)
  log := [.ofDecodeError scope.path e]
  failure := none

/-- The run of a request with its body. -/
def run [Codecs] {ε : Type} (server : Server) (settings : Settings) (decode : Bool)
    (handler : Handler ε) (scope : Scope) (body : Bytes) : Run ε :=
  match Request.ofScope (Options.reading ⟨decode, {}⟩ settings) scope with
  | .ok r =>
    let reply := handler r body
    ⟨reply.messages, r.log, reply.failure.map .handle⟩
  | .error (.malformed e) => reject server settings scope e
  -- That there is no codec for the charset is no fault of the client.
  | .error e => ⟨[], [], some (.build e)⟩

end Gate

end QueryString
