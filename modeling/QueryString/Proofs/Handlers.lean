import QueryString.Handlers
import QueryString.Proofs.Gate.Rejection
import QueryString.Proofs.Json.RoundTrip
import QueryString.Proofs.Request.Integers

/-!
# What a handler reports

The report of a search reaches its client whole: the body of the response is visible ASCII, and who
reads it as JSON has the path, the words, the tags, the page and whether there were parameters, all
as the request has them (`report_reads_back`). Only a page of too many digits keeps it back.

This rests on the reader of JSON, which undoes the writer whatever the texts and the number are
(`Json.read_write`).
-/

namespace QueryString.Handlers

theorem echo_of_ok {server : Server} (hserver : server.Documented) {r : Request} {page : Int}
    (h : r.integerOr "page".toList 1 = .ok page) (body : Bytes) :
    echo server r body =
      ⟨[.start 200 [("Content-Type".toList, "application/json".toList)],
        .body (Utf8.encode (report r page).write) false], none⟩ := by
  rw [echo, h]
  simp only [hserver.sendResponse_eq]

/-- A request whose first page, if it writes an integer, has no more digits than are read is
answered with one body, under the status for success. The body has no octet but those from the space
to the tilde, and as JSON it is the report of the request: nothing of it is lost, whatever octets
the query has and whether or not they were decoded. -/
theorem report_reads_back [Codecs] {server : Server} (hserver : server.Documented)
    (settings : Settings) (decode : Bool) (scope : Scope) (sent : Bytes) (r : Request)
    (hr : Request.ofScope (Options.reading ⟨decode, {}⟩ settings) scope = .ok r)
    (hpage : ∀ v, r.text? "page".toList = some v → Integer.WithinLimit v) :
    ∃ page body text, r.integerOr "page".toList 1 = .ok page ∧
      Gate.run server settings decode (echo server) scope sent =
        ⟨[.start 200 [("Content-Type".toList, "application/json".toList)], .body body false],
          r.log, none⟩ ∧
      (∀ b ∈ body, 0x20 ≤ b.toNat ∧ b.toNat ≤ 0x7E) ∧
      Utf8.decode body = .ok text ∧
      Json.read text = some (.object [
        ("path".toList, .string r.path),
        ("q".toList, .string (r.text "q".toList)),
        ("tags".toList, .array ((r.texts "tag".toList).map .string)),
        ("page".toList, .number page),
        ("has_parameters".toList, .bool r.hasParameters)]) := by
  obtain ⟨page, hpage⟩ := Request.exists_integerOr_ok_iff.2 hpage
  have hvisible := Json.isVisible_of_mem_write (report r page)
  refine ⟨page, Utf8.encode (report r page).write, (report r page).write, hpage, ?_,
    (Gate.forall_mem_encode_of_isVisible hvisible).2, Utf8.decode_encode _, Json.read_write _⟩
  rw [Gate.run_of_ok hr, echo_of_ok hserver hpage]
  rfl

/-- A path beyond ASCII, words with a quotation mark and a surrogate pair, a tag that is empty and a
page that is negative. -/
theorem report_reads_back_beyond_ascii :
    ∃ body text,
      (Gate.run .direct {} true (echo .direct) ⟨some "/é".toList, none,
          some (Utf8.encode "q=%22%F0%9F%98%80+%0A&tag=b&page=-07&tag".toList)⟩ []).messages =
        [.start 200 [("Content-Type".toList, "application/json".toList)], .body body false] ∧
      Utf8.decode body = .ok text ∧
      Json.read text = some (.object [
        ("path".toList, .string "/é".toList),
        ("q".toList, .string "\"😀 \n".toList),
        ("tags".toList, .array [.string ['b'], .string []]),
        ("page".toList, .number (-7)),
        ("has_parameters".toList, .bool true)]) := by
  have hr : Request.ofScope (Options.reading ⟨true, {}⟩ {}) ⟨some "/é".toList, none,
      some (Utf8.encode "q=%22%F0%9F%98%80+%0A&tag=b&page=-07&tag".toList)⟩ =
        .ok ⟨"/é".toList, "q=%22%F0%9F%98%80+%0A&tag=b&page=-07&tag".toList,
          ⟨[(['q'], ["\"😀 \n".toList]), ("tag".toList, [['b'], []]),
            ("page".toList, ["-07".toList])]⟩,
          .decoded ⟨"utf-8".toList, true⟩⟩ := by
    decide +kernel
  obtain ⟨page, body, text, hpage, hrun, _, htext, hread⟩ :=
    report_reads_back Server.direct_documented {} true _ [] _ hr fun v hv => by
      cases hv
      exact Integer.exists_read_ok_iff.1 ⟨some (-7), by decide⟩
  obtain rfl : (-7 : Int) = page := Except.ok.inj hpage
  exact ⟨body, text, congrArg Gate.Run.messages hrun, htext, hread⟩

end QueryString.Handlers
