import QueryString.Proofs.Query.RoundTrip
import QueryString.Proofs.Store.Merge

/-!
# Queries one after the other

With an ampersand between them, two queries are read as the one and then the other: the first error
of the first query is reported if there is one, then that of the second, and otherwise their stores
are merged (`parse_append_separator`). Either query may be empty or made of empty segments.

The pairs of the whole are those of its parts (`pairs_append_separator`), and what the loop over the
pairs does from any store on is `Store.foldl_insert_eq_merge`.
-/

namespace QueryString.Query

theorem pairs_append_separator [Codecs] (reading : Reading) (first second : Text) :
    pairs reading (first ++ separator :: second) =
      (pairs reading first).bind fun ps => (pairs reading second).map (ps ++ ·) := by
  cases reading with
  | raw =>
    rw [pairs, rawPairs_append]
    rfl
  | decoded coding =>
    rw [pairs, rawPairs_append, mapM_append_eq_bind]
    rfl

theorem read_append_separator [Codecs] (reading : Reading) (first second : Text) :
    read reading (first ++ separator :: second) =
      (read reading first).bind fun s => (read reading second).map s.merge := by
  rw [read, pairs_append_separator, read, read]
  cases pairs reading first with
  | error e => rfl
  | ok ps =>
    cases pairs reading second with
    | error e => rfl
    | ok qs => exact congrArg Except.ok (Store.ofPairs_append ps qs)

/-- The result of a query that is put together comes of the results of its parts. An error is that
of the first part that has one, and two stores are merged. -/
theorem parse_append_separator [Codecs] (reading : Reading) (first second : Text) :
    (parse reading (some (first ++ separator :: second))).result = do
      let s ← (parse reading (some first)).result
      let t ← (parse reading (some second)).result
      return s.merge t := by
  rw [parse_result, parse_result, parse_result]
  simp only [Option.getD_some]
  rw [read_append_separator]
  cases read reading first with
  | error e => rfl
  | ok s => cases read reading second <;> rfl

/-- The names `a` and `%61` are one name, and the values of the first query come first. -/
example : (parse (.decoded ⟨"utf-8".toList, true⟩) (some "&b=1&a=2&&%61=3".toList)).result =
    .ok ⟨[(['b'], [['1']]), (['a'], [['2'], ['3']])]⟩ := by decide +kernel

end QueryString.Query
