import QueryString.Charset.Utf8.Basic

/-!
# Servers

What answers a client is a server, and it is a parameter: a function that wants to answer hands a
response over to it, whole or in parts, and the server sends messages. `Server.Documented` is what
is known of them, `Server.direct` a server of which it is true.
-/

namespace QueryString

/-- A message to the client. -/
inductive Message where
  | start (status : Int) (headers : List (Text × Text))
  /-- Octets of the body, and whether more of them follow. -/
  | body (octets : Bytes) (more : Bool)
deriving DecidableEq, Repr

/-- What a server sends, in order, when a response is handed over to it. -/
structure Server where
  /-- The beginning of a response: its status and its headers. -/
  sendHeaders (status : Int) (headers : List (Text × Text)) : List Message
  /-- Octets of the body, and whether more of them follow. -/
  sendBody (octets : Bytes) (more : Bool) : List Message
  /-- A whole response: its status, its body and its headers. -/
  sendResponse (status : Int) (octets : Bytes) (headers : List (Text × Text)) : List Message

namespace Server

/-- What the documentation of servers says of the messages. -/
structure Documented (server : Server) : Prop where
  /-- A whole response is sent by sending its beginning and then its body, of which no more
  follows. -/
  response : ∀ status octets headers, server.sendResponse status octets headers =
    server.sendHeaders status headers ++ server.sendBody octets false
  /-- The beginning of a response is a message that has it as it was handed over. -/
  headers : ∀ status headers, server.sendHeaders status headers = [.start status headers]
  /-- Octets of the body are a message that has them as they were handed over. -/
  body : ∀ octets more, server.sendBody octets more = [.body octets more]

/-- A whole response is two messages. -/
theorem Documented.sendResponse_eq {server : Server} (h : server.Documented) (status : Int)
    (octets : Bytes) (headers : List (Text × Text)) :
    server.sendResponse status octets headers = [.start status headers, .body octets false] := by
  rw [h.response, h.headers, h.body]
  rfl

/-- A server that sends what it is given, at once. -/
def direct : Server where
  sendHeaders status headers := [.start status headers]
  sendBody octets more := [.body octets more]
  sendResponse status octets headers := [.start status headers, .body octets false]

theorem direct_documented : direct.Documented where
  response _ _ _ := rfl
  headers _ _ := rfl
  body _ _ := rfl

/-- The messages of a whole response in plain text. -/
def sendText (server : Server) (status : Int) (t : Text) : List Message :=
  server.sendResponse status (Utf8.encode t)
    [("Content-Type".toList, "text/plain; charset=utf-8".toList)]

end Server

end QueryString
