import QueryString.Request.Access
import QueryString.Request.Display

/-!
# Sessions

A caller makes one call after the other. It reads and writes texts and queries on their own, and it
builds requests, which are kept in slots, writes them and asks them about themselves. Wherever a
coding is needed a call has options for it, and the settings in force decide what it leaves open.
-/

namespace QueryString.Session

/-- What a request is built from. -/
inductive Source where
  | target (target : Target)
  | uri (uri : Text)
  | scope (scope : Scope)
  /-- A path, and the query of the request in a slot as it writes it. -/
  | again (path slot : Text)
deriving DecidableEq, Repr

/-- What a request is asked about itself. -/
inductive Question where
  | path
  | queryString
  | parameters
  | names
  | items
  | size
  | hasParameters
  | display
  | isSet (name : Text)
  | text (name : Text)
  | textOr (name : Text) (default : Option Text)
  | integer (name : Text)
  | integerOr (name : Text) (default : Int)
  | boolean (name : Text)
  | booleanOr (name : Text) (default : Bool)
  | texts (name : Text)
  | integers (name : Text)
  | booleans (name : Text)
  /-- Whether it is the same as the request in a slot. -/
  | same (slot : Text)
  /-- Whether it is the same as a text. -/
  | sameText (t : Text)
deriving DecidableEq, Repr

/-- A call, with the options that it has. -/
inductive Call where
  | decode (choice : Choice) (raw : Text)
  | encode (choice : Choice) (t : Text)
  | encodeQuery (choice : Choice) (pairs : List Pair)
  | parse (options : Options) (query : Option Text)
  /-- Builds a request and keeps it in a slot. -/
  | build (options : Options) (slot : Text) (source : Source)
  /-- Writes the parameters of the request in a slot. -/
  | write (overrides : Overrides) (slot : Text)
  | ask (slot : Text) (question : Question)
deriving DecidableEq, Repr

/-- What a call is answered with. -/
inductive Answer where
  | text (t : Text)
  /-- A text that may be missing. -/
  | text? (t : Option Text)
  | flag (b : Bool)
  | count (n : Nat)
  | number (n : Int)
  | texts (ts : List Text)
  | flags (bs : List Bool)
  | numbers (ns : List Int)
  | pairs (ps : List Pair)
  | store (s : Store)
  /-- A query was read: its store, and what was written down. -/
  | parsed (s : Store) (log : List LogRecord)
  /-- A request was built. -/
  | request (r : Request)
deriving DecidableEq, Repr

/-- Why a call has no answer. -/
inductive Refusal where
  | failure (e : Error)
  /-- No request is in the slot. -/
  | missing (slot : Text)
deriving DecidableEq, Repr

/-- The requests that are kept, by the names of their slots. The latest in a slot comes first. -/
abbrev Slots := List (Text × Request)

/-- The request in a slot. -/
def Slots.get (slots : Slots) (slot : Text) : Except Refusal Request :=
  match slots.lookup slot with
  | some r => .ok r
  | none => .error (.missing slot)

/-- The answer that a result is. -/
def answered {α : Type} (answer : α → Answer) (result : Except Error α) : Except Refusal Answer :=
  (result.map answer).mapError .failure

/-! ## Calls -/

variable [Codecs]

/-- The request of a path and of the query that a request is written as. -/
def again (settings : Settings) (reading : Reading) (path : Text) (r : Request) :
    Except Error Request :=
  r.toQueryString settings {} >>= fun query => Request.ofTarget reading ⟨path, some query⟩

/-- The request of a source. -/
def build (settings : Settings) (slots : Slots) (reading : Reading) :
    Source → Except Refusal Request
  | .target target => (Request.ofTarget reading target).mapError .failure
  | .uri uri => (Request.ofUri reading uri).mapError .failure
  | .scope scope => (Request.ofScope reading scope).mapError .failure
  | .again path slot =>
    slots.get slot >>= fun r => (again settings reading path r).mapError .failure

/-- What a request says about itself. -/
def ask (slots : Slots) (r : Request) : Question → Except Refusal Answer
  | .path => .ok (.text r.path)
  | .queryString => .ok (.text r.queryString)
  | .parameters => .ok (.store r.parameters)
  | .names => .ok (.texts r.parameters.names)
  | .items => .ok (.pairs r.parameters.items)
  | .size => .ok (.count r.parameters.size)
  | .hasParameters => .ok (.flag r.hasParameters)
  | .display => .ok (.text r.display)
  | .isSet name => .ok (.flag (r.isSet name))
  | .text name => .ok (.text (r.text name))
  | .textOr name default => .ok (.text? (r.textOr name default))
  | .integer name => answered .number (r.integer name)
  | .integerOr name default => answered .number (r.integerOr name default)
  | .boolean name => .ok (.flag (r.boolean name))
  | .booleanOr name default => .ok (.flag (r.booleanOr name default))
  | .texts name => .ok (.texts (r.texts name))
  | .integers name => answered .numbers (r.integers name)
  | .booleans name => .ok (.flags (r.booleans name))
  | .same slot => (slots.get slot).map fun other => .flag (r.same other)
  -- A request is never the same as a text.
  | .sameText _ => .ok (.flag false)

/-- What a call is answered with, and the requests that are kept after it. A slot is filled anew
only by a request that could be built. -/
def step (settings : Settings) (slots : Slots) : Call → Except Refusal Answer × Slots
  | .decode choice raw => (answered .text ((choice.under settings).decode raw), slots)
  | .encode choice t => (answered .text ((choice.under settings).encode t), slots)
  | .encodeQuery choice pairs =>
    (answered .text (Query.encode (choice.under settings) pairs), slots)
  | .parse options query =>
    let outcome := Query.parse (options.reading settings) query
    (answered (.parsed · outcome.log) outcome.result, slots)
  | .build options slot source =>
    match build settings slots (options.reading settings) source with
    | .ok r => (.ok (.request r), (slot, r) :: slots)
    | .error why => (.error why, slots)
  | .write overrides slot =>
    (slots.get slot >>= fun r => answered .text (r.toQueryString settings overrides), slots)
  | .ask slot question => (slots.get slot >>= fun r => ask slots r question, slots)

/-- What the calls are answered with that are made one after the other. -/
def run (settings : Settings) (slots : Slots) : List Call → List (Except Refusal Answer)
  | [] => []
  | call :: calls =>
    let out := step settings slots call
    out.1 :: run settings out.2 calls

end QueryString.Session
