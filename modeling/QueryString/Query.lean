import QueryString.Log
import QueryString.Store

/-!
# Queries

A query is segments with ampersands between them, and a segment that is not empty is a pair.
Reading gives the pairs, as they stand or decoded, and then the store of them; writing goes the
other way.
-/

namespace QueryString

/-- How the pairs of a query are read: as they stand, or decoded. -/
inductive Reading where
  /-- Names and values stay as they stand. -/
  | raw
  /-- Names and values are decoded. -/
  | decoded (coding : Coding)
deriving DecidableEq, Repr

/-- Tells whether names and values are decoded. -/
def Reading.isDecoded : Reading → Bool
  | raw => false
  | decoded _ => true

namespace Query

/-- The character between two segments. -/
def separator : Char := '&'

/-! ## Reading -/

/-- The segments of a query that are not empty. -/
def segments (query : Text) : List Text := (Text.split separator query).filter (!·.isEmpty)

/-- The pairs of a query as they stand. -/
def rawPairs (query : Text) : List Pair := (segments query).map Pair.ofSegment

/-- The pairs of a query, or the error of the first one that cannot be decoded. -/
def pairs [Codecs] (reading : Reading) (query : Text) : Except Error (List Pair) :=
  match reading with
  | .raw => .ok (rawPairs query)
  | .decoded coding => (rawPairs query).mapM coding.decodePair

/-- The store of the pairs of a query. There is none if a single pair cannot be decoded. -/
def read [Codecs] (reading : Reading) (query : Text) : Except Error Store :=
  (pairs reading query).map Store.ofPairs

/-- What comes of reading a query. -/
structure Outcome where
  /-- The store, or the error of the first pair that cannot be decoded. -/
  result : Except Error Store
  log : List LogRecord

/-- What is written down when a query has given a store: one record, unless the query is empty. -/
def record (reading : Reading) (query : Text) (store : Store) : List LogRecord :=
  if query.isEmpty then [] else [.parsed store.size reading.isDecoded]

/-- Reads a query. One that is missing is read as an empty one; a failure leaves no record. -/
def parse [Codecs] (reading : Reading) (query : Option Text) : Outcome :=
  match read reading (query.getD []) with
  | .ok store => ⟨.ok store, record reading (query.getD []) store⟩
  | .error e => ⟨.error e, []⟩

/-! ## Writing -/

/-- The query of pairs as they stand. -/
def ofRawPairs (pairs : List Pair) : Text := Text.join separator (pairs.map Pair.toSegment)

/-- The query of coded pairs, or the error of the first text that cannot be encoded. -/
def encode [Codecs] (coding : Coding) (pairs : List Pair) : Except Error Text :=
  (pairs.mapM coding.encodePair).map ofRawPairs

/-! ## Segments -/

theorem segments_append (a b : Text) :
    segments (a ++ separator :: b) = segments a ++ segments b := by
  simp [segments, Text.split_append]

/-- The pairs of two queries with an ampersand between them are those of the one and then those of
the other. -/
theorem rawPairs_append (a b : Text) :
    rawPairs (a ++ separator :: b) = rawPairs a ++ rawPairs b := by
  simp [rawPairs, segments_append]

/-- Without decoding, every query has a store. -/
theorem read_raw [Codecs] (query : Text) :
    read .raw query = .ok (Store.ofPairs (rawPairs query)) := rfl

end Query

end QueryString
