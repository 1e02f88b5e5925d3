import QueryString.Query
import QueryString.Scope

/-!
# Requests

A request is a path, the query as it was received, and the parameters read from it. It is built
from a target, which a caller gives as two texts, as a URI or as a server's scope, and it remembers
how its query was read, so that its parameters can be written in the same way.
-/

namespace QueryString

/-- A path and a query, both with their escapes. -/
structure Target where
  path : Text := []
  /-- The query, which may be missing. -/
  query : Option Text := none
deriving DecidableEq, Repr

namespace Target

/-- The target of a URI. -/
def ofUri (uri : Text) : Except Error Target :=
  match Uri.parse uri with
  | .ok parts => .ok ⟨parts.path, some parts.query⟩
  | .error fault => .error (.badUri fault)

/-- The target of a server's scope. -/
def ofScope (scope : Scope) : Except Error Target :=
  match scope.queryText with
  | .ok query => .ok ⟨scope.escapedPath, some query⟩
  | .error e => .error e

end Target

/-- How a caller wants a request to be read. -/
structure Options where
  /-- Whether names and values are decoded. -/
  decode : Bool := true
  /-- The options of the coding. -/
  choice : Choice := {}
deriving DecidableEq, Repr

/-- The reading that the options ask for, where the settings decide what was left open. -/
def Options.reading (options : Options) (settings : Settings) : Reading :=
  if options.decode then .decoded (options.choice.under settings) else .raw

/-- A request with its parameters. -/
structure Request where
  /-- The path without its escapes. -/
  path : Text
  /-- The query as it was received. -/
  queryString : Text
  parameters : Store
  /-- How the query was read. -/
  reading : Reading
deriving DecidableEq, Repr

namespace Request

variable [Codecs]

/-! ## Building -/

/-- The request of a target. Its path is read whatever faults it has; its query must be free of
them. -/
def ofTarget (reading : Reading) (target : Target) : Except Error Request :=
  match (Query.parse reading target.query).result with
  | .ok store => .ok ⟨Percent.repair target.path, target.query.getD [], store, reading⟩
  | .error e => .error e

/-- The request of a URI. -/
def ofUri (reading : Reading) (uri : Text) : Except Error Request :=
  Target.ofUri uri >>= ofTarget reading

/-- The request of a server's scope. -/
def ofScope (reading : Reading) (scope : Scope) : Except Error Request :=
  Target.ofScope scope >>= ofTarget reading

/-- What was written down when the request was built. -/
def log (r : Request) : List LogRecord := Query.record r.reading r.queryString r.parameters

/-! ## Comparing -/

/-- Tells whether two requests have the same path and the same parameters, in whatever order the
names are. -/
def same (r s : Request) : Bool := r.path == s.path && r.parameters.same s.parameters

/-! ## Writing -/

/-- The query of the parameters. Those that were not decoded are written as they stand; all others
are encoded as they were decoded, unless the caller overrides it. -/
def toQueryString (r : Request) (settings : Settings) (overrides : Overrides) :
    Except Error Text :=
  match r.reading with
  | .raw => .ok (Query.ofRawPairs r.parameters.items)
  | .decoded own => Query.encode (overrides.resolve own settings) r.parameters.items

end Request

end QueryString
