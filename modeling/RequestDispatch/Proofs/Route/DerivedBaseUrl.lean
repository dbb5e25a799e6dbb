import RequestDispatch.Proofs.Http.Uri
import RequestDispatch.Proofs.Path
import RequestDispatch.Proofs.Route.Table

/-!
# Routing Under a Derived Base URL

A base URL that is derived from a request's own URI is cut at the last slash of the path, which is
before the first question mark or number sign. Routing takes the URL up to the question mark only,
and takes the base URL off it less its slash. The two fit together whatever follows the path. If the
path has no slash, the URL does not begin with the base URL
(`Request.not_underBase_withDerivedBaseUrl`). Otherwise patterns are matched against the last slash
of the path and all that follows it up to the question mark
(`Request.routedPath?_withDerivedBaseUrl`), and `Route.parse_withDerivedBaseUrl` says what a route
makes of the request in either case.
-/

namespace RequestDispatch

open Route Text

/-! ## Deriving -/

theorem deriveBaseUrl_of_not_mem {uri : String} (hslash : '/' ∉ (upTo endsPath uri).toList) :
    deriveBaseUrl uri none = "/" := by
  have hnone : dropEnd (· ≠ '/') (upTo endsPath uri).toList = [] := by
    rw [dropEnd_eq_rdropWhile, List.rdropWhile_eq_nil_iff]
    intro c hc
    simpa using fun heq : c = '/' => hslash (heq ▸ hc)
  rw [deriveBaseUrl, Option.getD_none]
  simp only [hnone]

/-- The base URL ends with the last slash of the path. -/
theorem deriveBaseUrl_of_slash {uri front name : String}
    (hpath : upTo endsPath uri = front ++ "/" ++ name) (hname : '/' ∉ name.toList) :
    deriveBaseUrl uri none = front ++ "/" := by
  have hdirectory : dropEnd (· ≠ '/') (front ++ "/" ++ name).toList = (front ++ "/").toList := by
    -- from the end, the name is dropped, and then there is the slash
    have hall : ∀ c ∈ name.toList.reverse, decide (c ≠ '/') = true := by
      intro c hc
      simpa using fun heq : c = '/' => hname (heq ▸ List.mem_reverse.mp hc)
    rw [dropEnd, String.toList_append, List.reverse_append, List.dropWhile_append_of_pos hall]
    simp
  obtain ⟨c, rest, hchars⟩ := List.exists_cons_of_ne_nil
    (show (front ++ "/").toList ≠ [] by simp)
  rw [deriveBaseUrl, Option.getD_none, hpath, hdirectory]
  simp only [hchars]
  rw [← hchars, String.ofList_toList]

namespace Request

variable (request : Request)

@[simp]
theorem baseUrl_withDerivedBaseUrl :
    request.withDerivedBaseUrl.baseUrl = deriveBaseUrl request.uri none := by
  rw [withDerivedBaseUrl]

@[simp]
theorem url_withDerivedBaseUrl : request.withDerivedBaseUrl.url = request.url := by
  rw [withDerivedBaseUrl, url, url]

/-- The path is the part of the URL before its first number sign. -/
theorem path_eq_upTo_url : request.path = upTo (· = '#') request.url := by
  rw [path, url, upTo_upTo_of_or]
  intro c
  rw [endsPath, Bool.or_comm]

/-- Without a slash in the path, the base URL is a slash, and the URL does not begin with one. -/
theorem not_underBase_withDerivedBaseUrl (hslash : '/' ∉ request.path.toList) :
    ¬ request.withDerivedBaseUrl.UnderBase := by
  have hbase : deriveBaseUrl request.uri none = "/" := by
    rw [path] at hslash
    exact deriveBaseUrl_of_not_mem hslash
  rw [UnderBase, baseUrl_withDerivedBaseUrl, url_withDerivedBaseUrl, hbase]
  rintro ⟨rest, hrest⟩
  have hurl : request.url.toList = '/' :: rest := hrest.symm
  -- a slash does not end the path, so one at the beginning of the URL is in the path
  apply hslash
  rw [path_eq_upTo_url, upTo, String.toList_ofList, hurl]
  simp [before]

/-- The base URL that ends with the last slash of the path begins the URL, and the path that is
matched is that slash and what follows it. -/
theorem routedPath?_withDerivedBaseUrl {front name tail : String}
    (hpath : request.path = front ++ "/" ++ name) (hname : '/' ∉ name.toList)
    (hurl : request.url = front ++ "/" ++ tail) :
    request.withDerivedBaseUrl.routedPath? = some ("/" ++ tail) := by
  have hbase : request.withDerivedBaseUrl.baseUrl = front ++ "/" := by
    rw [path] at hpath
    rw [baseUrl_withDerivedBaseUrl, deriveBaseUrl_of_slash hpath hname]
  have hderivedUrl : request.withDerivedBaseUrl.url = front ++ "/" ++ tail := by
    rw [url_withDerivedBaseUrl, hurl]
  have hunder : request.withDerivedBaseUrl.UnderBase := by
    rw [UnderBase, hbase, hderivedUrl]
    simp
  -- the slash that the base URL ends with is left to the pattern
  have hstem : stem (front ++ "/").toList = front.toList := by
    simp [stem]
  have hstripped := toList_url_of_underBase hunder
  rw [hbase, hderivedUrl, hstem, String.append_assoc, String.toList_append,
    List.append_cancel_left_eq, String.toList_inj] at hstripped
  rw [routedPath?_of_underBase hunder, hstripped]

end Request

namespace Route

/-- What a route makes of a request depends on what its pattern captures from the path. -/
theorem value_parse_of_routedPath? (route : Route) {request : Request} {path : String}
    (hpath : request.routedPath? = some path) :
    (route.parse request).value =
      match route.pattern.captures path with
      | some captured => (.ok .matched, request.route (request.merged captured route.defaults))
      | none => (.ok .noMatch, request) := by
  rcases hcaptures : route.pattern.captures path with _ | captured
  · rw [parse, hpath]
    simp only [hcaptures]
    rfl
  · exact parse_of_captures hpath hcaptures

/-- A request whose base URL is derived from its own URI is refused by every route if its path has
no slash, and not otherwise. Then what the pattern of a route is matched against is the last slash
of the path and what follows it in the URL, which goes up to the first question mark. -/
theorem parse_withDerivedBaseUrl (route : Route) (request : Request) :
    let derived := request.withDerivedBaseUrl
    ((∃ url base, (route.parse derived).value.1 = .error (.mismatch url base)) ↔
      '/' ∉ request.path.toList) ∧
    ('/' ∈ request.path.toList →
      ∃ front name tail, request.path = front ++ "/" ++ name ∧ '/' ∉ name.toList ∧
        request.url = front ++ "/" ++ tail ∧
        derived.routedPath? = some ("/" ++ tail) ∧
        (route.parse derived).value =
          match route.pattern.captures ("/" ++ tail) with
          | some captured => (.ok .matched, derived.route (derived.merged captured route.defaults))
          | none => (.ok .noMatch, derived)) := by
  intro derived
  have hpattern (hslash : '/' ∈ request.path.toList) :
      ∃ front name tail, request.path = front ++ "/" ++ name ∧ '/' ∉ name.toList ∧
        request.url = front ++ "/" ++ tail ∧
        derived.routedPath? = some ("/" ++ tail) := by
    obtain ⟨front, name, hpath, hname⟩ :=
      (Path.eq_or_exists_slash request.path).resolve_left (not_not_intro hslash)
    -- what follows the path in the URL is not looked at
    let ending := behind '#' (following? (· = '#') request.url)
    have hurl : request.url = front ++ "/" ++ (name ++ ending) := by
      rw [← String.append_assoc, ← hpath, request.path_eq_upTo_url, upTo_append_following?]
    exact ⟨front, name, name ++ ending, hpath, hname, hurl,
      request.routedPath?_withDerivedBaseUrl hpath hname hurl⟩
  refine ⟨⟨?_, fun hslash => ?_⟩, fun hslash => ?_⟩
  · rintro ⟨url, base, hmismatch⟩ hslash
    obtain ⟨-, -, tail, -, -, -, hrouted⟩ := hpattern hslash
    rw [route.value_parse_of_routedPath? hrouted] at hmismatch
    split at hmismatch <;> cases hmismatch
  · have hparse := route.parse_of_not_underBase (request.not_underBase_withDerivedBaseUrl hslash)
    rw [hparse]
    exact ⟨_, _, rfl⟩
  · obtain ⟨front, name, tail, hpath, hname, hurl, hrouted⟩ := hpattern hslash
    exact ⟨front, name, tail, hpath, hname, hurl, hrouted,
      route.value_parse_of_routedPath? hrouted⟩

/-- A URI with slashes in its fragment and behind a question mark, and one whose only slash is in
its query string. -/
theorem parse_withDerivedBaseUrl_slashes :
    ∃ (route : Route) (derived refused : Request), Pattern.compile "/%id%" = .ok route.pattern ∧
      derived = Request.withDerivedBaseUrl { uri := "/a/b#c/d?e/f" } ∧
      refused = Request.withDerivedBaseUrl { uri := "b?/c" } ∧
      '/' ∈ derived.path.toList ∧ derived.baseUrl = "/a/" ∧
      derived.routedPath? = some ("/" ++ "b#c/d") ∧
      (route.parse derived).value =
        (.ok .matched, derived.route (derived.merged (.ofList [("id", "b#c/d")]) ∅)) ∧
      '/' ∉ refused.path.toList ∧
      ∃ url base, (route.parse refused).value.1 = .error (.mismatch url base) := by
  let route : Route :=
    { pattern := { source := "/%id%"
                   tokens := .literal ['/'] (.placeholder "id" .done)
                   catchAll := false }
      defaults := ∅ }
  have hslash : '/' ∈ (Request.path { uri := "/a/b#c/d?e/f" }).toList := by decide +kernel
  have hnone : '/' ∉ (Request.path { uri := "b?/c" }).toList := by decide +kernel
  have hrouted : (Request.withDerivedBaseUrl { uri := "/a/b#c/d?e/f" }).routedPath? =
      some ("/" ++ "b#c/d") := by decide +kernel
  obtain ⟨-, hpattern⟩ := parse_withDerivedBaseUrl route { uri := "/a/b#c/d?e/f" }
  obtain ⟨front, name, tail, -, -, -, hpath, hparse⟩ := hpattern hslash
  have htail : "/" ++ tail = "/" ++ "b#c/d" := Option.some.inj (hpath.symm.trans hrouted)
  have hcaptures : route.pattern.captures ("/" ++ "b#c/d") = some (.ofList [("id", "b#c/d")]) := by
    decide +kernel
  rw [htail, hcaptures] at hparse
  obtain ⟨hrefused, -⟩ := parse_withDerivedBaseUrl route { uri := "b?/c" }
  exact ⟨route, _, _, by decide +kernel, rfl, rfl, hslash, by decide +kernel, hrouted, hparse,
    hnone, hrefused.mpr hnone⟩

end Route

end RequestDispatch
