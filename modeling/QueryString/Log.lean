import QueryString.Error

/-!
# Records

What is written down while queries are read and requests are turned away.
-/

namespace QueryString

/-- How urgent a record is. -/
inductive LogLevel where
  /-- Of interest to who looks for a fault. -/
  | debug
  /-- Of interest to who runs the service. -/
  | warning
deriving DecidableEq, Repr

/-- The level in words. -/
def LogLevel.name : LogLevel → Text
  | debug => "DEBUG".toList
  | warning => "WARNING".toList

/-- Something that was written down. -/
inductive LogRecord where
  /-- A query was read: how many names it has, and whether they were decoded. -/
  | parsed (names : Nat) (decoded : Bool)
  /-- A request was turned away: its path, and the name, value and position of the fault. -/
  | rejected (path name value : Option Text) (position : Option Nat)
deriving DecidableEq, Repr

namespace LogRecord

/-- The level of a record. -/
def level : LogRecord → LogLevel
  | parsed .. => .debug
  | rejected .. => .warning

/-- The record in words. -/
def message : LogRecord → Text
  | parsed .. => "query string parsed".toList
  | rejected .. => "rejecting request with malformed query string".toList

/-- The record of a request that is turned away because of a query that cannot be decoded. -/
def ofDecodeError (path : Option Text) (e : DecodeError) : LogRecord :=
  .rejected path e.name? e.value? e.position?

end LogRecord

end QueryString
