import QueryString.Gate
import QueryString.Request.Access
import QueryString.Request.Display

/-!
# Handlers

A handler that reports some parameters of a search as JSON, one that shows the whole request in
plain text, and one that is only announced.
-/

namespace QueryString.Handlers

/-- The report of a search: its path, its words, its tags, its page, and whether anything was asked
at all. -/
def report (r : Request) (page : Int) : Json :=
  .object [
    ("path".toList, .string r.path),
    ("q".toList, .string (r.text "q".toList)),
    ("tags".toList, .array ((r.texts "tag".toList).map .string)),
    ("page".toList, .number page),
    ("has_parameters".toList, .bool r.hasParameters)]

/-- Answers with the report of a search. -/
def echo (server : Server) : Handler Error := fun r _ =>
  match r.integerOr "page".toList 1 with
  | .error e => ⟨[], some e⟩
  | .ok page =>
    ⟨server.sendResponse 200 (Utf8.encode (report r page).write)
      [("Content-Type".toList, "application/json".toList)], none⟩

/-- Answers with the request in words and, on a new line, its body. -/
def dump (server : Server) : Handler Error := fun r body =>
  ⟨server.sendText 200 (r.display ++ '\n' :: body.map Text.ofByte), none⟩

/-- Does nothing but to fail. -/
def unimplemented : Handler Error := fun _ _ =>
  ⟨[], some (.unimplemented "UnimplementedConsumer".toList)⟩

end QueryString.Handlers
