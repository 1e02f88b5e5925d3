import QueryString.Proofs.Charset.Codec
import QueryString.Proofs.Request.Scope
import QueryString.Proofs.Uri.Parts

/-!
# Where a request comes from

A path and a query can be given as two texts, inside a URI, relative or absolute, or as the octets
of a server's scope. As long as the path and the query stand in a URI as they are, all of these name
one target (`Target.ofUri_relative`, `Target.ofUri_absolute`, `Target.ofScope_encode`), and from
there on there is one way only: so the same request comes of them, or the same error
(`built_alike`).
-/

namespace QueryString

/-! ## Octets of ASCII texts -/

theorem Utf8.encode_of_isAscii {t : Text} (h : ∀ c ∈ t, Text.isAscii c) :
    encode t = t.map fun c => UInt8.ofNat c.toNat := by
  rw [encode, List.map_eq_flatMap]
  exact List.flatMap_congr fun c hc =>
    Option.some.inj (Charset.utf8.encodeChar?_of_isAscii (h c hc))

/-- The octets of an ASCII text name its characters. -/
theorem Text.map_ofByte_encode {t : Text} (h : ∀ c ∈ t, isAscii c) :
    (Utf8.encode t).map ofByte = t := by
  rw [Utf8.encode_of_isAscii h, List.map_map]
  refine (List.map_congr_left fun c hc => ?_).trans (List.map_id t)
  have hlt : c.toNat < 0x80 := by simpa [isAscii] using h c hc
  exact ofByte_ofNat (by omega)

theorem Utf8.toNat_lt_of_mem_encode {t : Text} (h : ∀ c ∈ t, Text.isAscii c) :
    ∀ b ∈ encode t, b.toNat < 0x80 := by
  intro b hb
  rw [← Scope.isAscii_ofByte]
  exact h _ (Text.map_ofByte_encode h ▸ List.mem_map_of_mem hb)

/-! ## One target -/

namespace Target

variable {path query : Text}

theorem ofUri_relative (hp : Uri.IsPath path) (hq : Uri.IsQuery query) (fragment : Text) :
    ofUri (path ++ '?' :: query ++ '#' :: fragment) = .ok ⟨path, some query⟩ := by
  rw [ofUri, Uri.parse_relative hp hq]

theorem ofUri_absolute {scheme authority : Text} (hs : Uri.IsScheme scheme)
    (ha : Uri.IsAuthority authority) (hp : Uri.IsPath path) (hq : Uri.IsQuery query)
    (fragment : Text) :
    ofUri (scheme ++ "://".toList ++ authority ++ path ++ '?' :: query ++ '#' :: fragment) =
      .ok ⟨path, some query⟩ := by
  rw [ofUri, Uri.parse_absolute hs ha hp hq]

/-- A path with its escapes comes before one without them, whatever that is. -/
theorem ofScope_encode (hne : path ≠ []) (hp : ∀ c ∈ path, Text.isAscii c)
    (hq : ∀ c ∈ query, Text.isAscii c) (plainPath : Option Text) :
    ofScope ⟨plainPath, some (Utf8.encode path), some (Utf8.encode query)⟩ =
      .ok ⟨path, some query⟩ := by
  have hquery : Scope.queryText ⟨plainPath, some (Utf8.encode path), some (Utf8.encode query)⟩ =
      .ok query :=
    Scope.queryText_eq_ok_iff.2 ⟨Utf8.toNat_lt_of_mem_encode hq, Text.map_ofByte_encode hq⟩
  have hpath : Scope.escapedPath ⟨plainPath, some (Utf8.encode path), some (Utf8.encode query)⟩ =
      path := by
    have hmap := Text.map_ofByte_encode hp
    unfold Scope.escapedPath
    cases ho : Utf8.encode path with
    | nil =>
      rw [ho] at hmap
      exact absurd hmap.symm hne
    | cons b octets => rwa [ho] at hmap
  rw [ofScope, hquery, hpath]

end Target

/-! ## One request -/

namespace Request

/-- A path and a query that stand in a URI as they are give the same request, or the same error, as
two texts, in a relative URI, in an absolute one and in a scope. -/
theorem built_alike [Codecs] (options : Options) (settings : Settings)
    {path query scheme authority : Text}
    (hp : Uri.IsPath path) (hpascii : ∀ c ∈ path, Text.isAscii c)
    (hq : Uri.IsQuery query) (hqascii : ∀ c ∈ query, Text.isAscii c)
    (hs : Uri.IsScheme scheme) (ha : Uri.IsAuthority authority)
    (fragment : Text) (plainPath : Option Text) :
    ofUri (options.reading settings) (path ++ '?' :: query ++ '#' :: fragment) =
      ofTarget (options.reading settings) ⟨path, some query⟩ ∧
    ofUri (options.reading settings)
        (scheme ++ "://".toList ++ authority ++ path ++ '?' :: query ++ '#' :: fragment) =
      ofTarget (options.reading settings) ⟨path, some query⟩ ∧
    ofScope (options.reading settings)
        ⟨plainPath, some (Utf8.encode path), some (Utf8.encode query)⟩ =
      ofTarget (options.reading settings) ⟨path, some query⟩ := by
  have hne : path ≠ [] := by
    obtain ⟨rest, rfl, _⟩ := hp.begins
    exact List.cons_ne_nil _ _
  refine ⟨?_, ?_, ?_⟩
  · rw [ofUri, Target.ofUri_relative hp hq]
    rfl
  · rw [ofUri, Target.ofUri_absolute hs ha hp hq]
    rfl
  · rw [ofScope, Target.ofScope_encode hne hpascii hqascii]
    rfl

/-- A colon and two slashes in the path, and delimiters of every kind in the query. -/
theorem built_alike_of_delimiters :
    Uri.IsPath "/a:b//c%2F".toList ∧ Uri.IsQuery "q=//x?:[%41]&@".toList ∧
      Uri.IsScheme "http".toList ∧ Uri.IsAuthority "u@h:80".toList ∧
      ofUri (Options.reading {} {}) "http://u@h:80/a:b//c%2F?q=//x?:[%41]&@#?\n#".toList =
        .ok ⟨"/a:b//c/".toList, "q=//x?:[%41]&@".toList,
          ⟨[(['q'], ["//x?:[A]".toList]), (['@'], [[]])]⟩, .decoded ⟨"utf-8".toList, true⟩⟩ ∧
      ofUri (Options.reading {} {}) "/a:b//c%2F?q=//x?:[%41]&@#".toList =
        ofScope (Options.reading {} {}) ⟨none, some (Utf8.encode "/a:b//c%2F".toList),
          some (Utf8.encode "q=//x?:[%41]&@".toList)⟩ := by
  have hp : Uri.IsPath "/a:b//c%2F".toList :=
    ⟨⟨"a:b//c%2F".toList, rfl, by decide⟩, Text.forall_mem_of_all rfl⟩
  have hq : Uri.IsQuery "q=//x?:[%41]&@".toList := Text.forall_mem_of_all rfl
  have hs : Uri.IsScheme "http".toList := .letter rfl (Text.forall_mem_of_all rfl)
  have ha : Uri.IsAuthority "u@h:80".toList := Text.forall_mem_of_all rfl
  have hpascii : ∀ c ∈ "/a:b//c%2F".toList, Text.isAscii c := Text.forall_mem_of_all rfl
  have hqascii : ∀ c ∈ "q=//x?:[%41]&@".toList, Text.isAscii c := Text.forall_mem_of_all rfl
  have hlong := built_alike {} {} hp hpascii hq hqascii hs ha "?\n#".toList none
  have hshort := built_alike {} {} hp hpascii hq hqascii hs ha [] none
  refine ⟨hp, hq, hs, ha, hlong.2.1.trans (by decide +kernel), ?_⟩
  exact hshort.1.trans hshort.2.2.symm

end Request

end QueryString
