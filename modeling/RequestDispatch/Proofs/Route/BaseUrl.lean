import RequestDispatch.Proofs.Route.Table

/-!
# Routing Below a Base URL

A table of routes is written for paths that begin with a slash, wherever the program itself is
mounted. `Request.below` is the request for such a path under a base URL, with or without a slash at
the end of the base URL. The path that it is matched against is the same under every base URL
(`Request.routedPath?_below`), and the path is all that routing reads of a URL, so a request under
one base URL is routed like the request under another (`RouteTable.routeNamed_below`).

A base URL is cut off a URL by its number of bytes. `Request.exists_slice` says that a character of
the URL begins there, and that the path is what follows.
-/

namespace RequestDispatch

open Route Text

/-! ## The path below a base URL -/

/-- Whatever a base URL ends with, it begins its own stem with a slash behind it. -/
theorem prefix_stem_slash (base : List Char) : base <+: stem base ++ ['/'] := by
  rw [stem]
  split
  · rename_i hslash
    obtain ⟨front, rfl⟩ := List.getLast?_eq_some_iff.1 hslash
    simp
  · exact List.prefix_append base ['/']

theorem stem_subset (base : List Char) : stem base ⊆ base := by
  rw [stem]
  split
  · exact List.dropLast_subset base
  · exact List.Subset.refl base

namespace Request

variable (request : Request) {base : String} (tail : String)

/-- The request for what lies below a base URL: the base URL without the slash at its end, and then
a slash and some text, which may have a query string and a fragment. -/
def below (base tail : String) : Request :=
  { request with baseUrl := base, uri := String.ofList (stem base.toList) ++ "/" ++ tail }

theorem below_slash :
    request.below "/" tail = { request with baseUrl := "/", uri := "/" ++ tail } := by
  have hstem : String.ofList (stem "/".toList) ++ "/" = "/" := by decide
  rw [below, hstem]

/-- What is cut off the URI belongs to the text below the base URL. -/
theorem toList_url_below (hmark : '?' ∉ base.toList) :
    (request.below base tail).url.toList =
      stem base.toList ++ '/' :: (upTo (· = '?') tail).toList := by
  have hkeep : ∀ c ∈ stem base.toList ++ ['/'], decide (c = '?') = false := by
    intro c hc
    apply decide_eq_false
    rintro rfl
    rcases List.mem_append.1 hc with hstem | hslash
    · exact hmark (stem_subset _ hstem)
    · simp at hslash
  -- the slash counts to the part with no question mark, so the query string is cut off the tail
  have huri : (request.below base tail).uri.toList =
      (stem base.toList ++ ['/']) ++ tail.toList := by
    simp [below]
  rw [url, upTo, String.toList_ofList, huri, before_append_of_forall_not hkeep, upTo,
    String.toList_ofList, List.append_assoc]
  rfl

theorem underBase_below (hmark : '?' ∉ base.toList) : (request.below base tail).UnderBase := by
  have hbase : (request.below base tail).baseUrl = base := rfl
  rw [UnderBase, toList_url_below request tail hmark, hbase]
  refine (prefix_stem_slash base.toList).trans ?_
  rw [List.append_cons _ '/' (upTo (· = '?') tail).toList]
  exact List.prefix_append _ _

/-- The path does not depend on the base URL. -/
theorem strippedPath_below (hmark : '?' ∉ base.toList) :
    (request.below base tail).strippedPath = "/" ++ upTo (· = '?') tail := by
  have hurl := toList_url_of_underBase (request.underBase_below tail hmark)
  have hbase : (request.below base tail).baseUrl = base := rfl
  -- both are what is behind the same stem
  rw [toList_url_below request tail hmark, hbase, List.append_cancel_left_eq] at hurl
  apply String.toList_injective
  rw [← hurl, String.toList_append]
  rfl

theorem routedPath?_below (hmark : '?' ∉ base.toList) :
    (request.below base tail).routedPath? = some ("/" ++ upTo (· = '?') tail) := by
  rw [routedPath?_of_underBase (request.underBase_below tail hmark),
    request.strippedPath_below tail hmark]

/-- The bytes of a base URL, the slash at its end aside, end where a character of the URL begins or
the URL ends, and what follows is the path. -/
theorem exists_slice {request : Request} (h : request.UnderBase) :
    ∃ cut : request.url.Pos,
      cut.offset.byteIdx = (String.ofList (stem request.baseUrl.toList)).utf8ByteSize ∧
        (request.url.sliceFrom cut).copy = request.strippedPath := by
  have hurl : request.url =
      String.ofList (stem request.baseUrl.toList) ++ request.strippedPath := by
    apply String.toList_injective
    rw [toList_url_of_underBase h, String.toList_append, String.toList_ofList]
  have hsplits := String.Pos.splits_ofEqAppend hurl
  refine ⟨_, ?_, hsplits.copy_sliceFrom_eq⟩
  rw [hsplits.offset_eq_rawEndPos, String.byteIdx_rawEndPos]

end Request

/-! ## Routing -/

/-- A route makes the same of a request under every base URL. -/
theorem Route.parse_below (route : Route) (request : Request) {base other : String} (tail : String)
    (hbase : '?' ∉ base.toList) (hother : '?' ∉ other.toList) :
    (route.parse (request.below other tail)).value =
      ((route.parse (request.below base tail)).value.1,
        (route.parse (request.below base tail)).value.2.below other tail) := by
  have hpath := request.routedPath?_below tail hbase
  have hpathOther := request.routedPath?_below tail hother
  cases hcaptured : route.pattern.captures ("/" ++ upTo (· = '?') tail) with
  | some captured =>
    rw [parse_of_captures hpath hcaptured, parse_of_captures hpathOther hcaptured]
    rfl
  | none =>
    -- a route that does not match leaves each request as it is
    have hnot : ∀ {base : String}, '?' ∉ base.toList →
        route.applies (request.below base tail) = false := by
      intro base hmark
      rw [applies, request.strippedPath_below tail hmark, hcaptured]
      rfl
    rw [parse_of_not_applies (request.underBase_below tail hbase) (hnot hbase),
      parse_of_not_applies (request.underBase_below tail hother) (hnot hother)]
    rfl

/-- The same routes apply to a request under every base URL. -/
theorem Route.applies_below (route : Route) (request : Request) {base other : String}
    (tail : String) (hbase : '?' ∉ base.toList) (hother : '?' ∉ other.toList) :
    route.applies (request.below other tail) = route.applies (request.below base tail) := by
  rw [applies, applies, request.strippedPath_below tail hbase,
    request.strippedPath_below tail hother]

namespace RouteTable

/-- A table makes the same of a request under every base URL: it goes to the same route, or to none
in both cases. -/
theorem routeNamed_below_or (table : RouteTable) (request : Request) {base other : String}
    (tail : String) (hbase : '?' ∉ base.toList) (hother : '?' ∉ other.toList) :
    (∃ name route routed,
        (table.routeNamed (request.below base tail)).value = (.ok (name, route), routed) ∧
        (table.routeNamed (request.below other tail)).value =
          (.ok (name, route), routed.below other tail)) ∨
      (table.routeNamed (request.below base tail)).value =
          (.error (.notFound (request.below base tail).url), request.below base tail) ∧
        (table.routeNamed (request.below other tail)).value =
          (.error (.notFound (request.below other tail).url), request.below other tail) := by
  -- the search for the first route that applies is the same search
  have happlies : (fun entry : String × Route => entry.2.applies (request.below other tail)) =
      fun entry => entry.2.applies (request.below base tail) := by
    funext entry
    exact entry.2.applies_below request tail hbase hother
  rw [routeNamed_of_underBase table (request.underBase_below tail hbase),
    routeNamed_of_underBase table (request.underBase_below tail hother), happlies]
  cases table.routes.find? fun entry => entry.2.applies (request.below base tail) with
  | none => exact .inr ⟨rfl, rfl⟩
  | some entry =>
    have hparsed := congrArg Prod.snd (entry.2.parse_below request tail hbase hother)
    exact .inl ⟨entry.1, entry.2, _, rfl, Prod.ext rfl hparsed⟩

/-- Routing a request under a base URL has the outcome of routing it under the base URL `/`: the
same route, with the same request but for its URI and base URL, or no route in both cases, and never
a mismatch. The bytes of the base URL that are cut off the URL are those of whole characters, and
the rest is the path that routes are matched against. -/
theorem routeNamed_below (table : RouteTable) (request : Request) (base tail : String)
    (hbase : '?' ∉ base.toList) :
    let uri := String.ofList (stem base.toList) ++ "/" ++ tail
    let based : Request := { request with baseUrl := base, uri }
    let plain : Request := { request with baseUrl := "/", uri := "/" ++ tail }
    (∀ url baseUrl, (table.routeNamed based).value.1 ≠ .error (.mismatch url baseUrl)) ∧
      ((∃ name route routed, (table.routeNamed plain).value = (.ok (name, route), routed) ∧
          (table.routeNamed based).value =
            (.ok (name, route), { routed with baseUrl := base, uri })) ∨
        (table.routeNamed plain).value = (.error (.notFound plain.url), plain) ∧
          (table.routeNamed based).value = (.error (.notFound based.url), based)) ∧
      ∃ cut : based.url.Pos,
        cut.offset.byteIdx = (String.ofList (stem base.toList)).utf8ByteSize ∧
          based.routedPath? = some (based.url.sliceFrom cut).copy := by
  intro uri based plain
  have hunder : based.UnderBase := request.underBase_below tail hbase
  have hslash : '?' ∉ "/".toList := by decide
  have houtcome := table.routeNamed_below_or request tail hslash hbase
  rw [request.below_slash] at houtcome
  refine ⟨fun url baseUrl hmismatch => ?_, houtcome, ?_⟩
  · -- neither of the two outcomes is a mismatch
    rcases houtcome with ⟨name, route, routed, -, hbased⟩ | ⟨-, hbased⟩
    · cases (congrArg Prod.fst hbased).symm.trans hmismatch
    · cases (congrArg Prod.fst hbased).symm.trans hmismatch
  · obtain ⟨cut, hcut, hslice⟩ := Request.exists_slice hunder
    exact ⟨cut, hcut, by rw [hslice, Request.routedPath?_of_underBase hunder]⟩

/-- A base URL with characters of more than one byte and two slashes at its end, and a text below it
with a slash at its beginning, a query string and a fragment. -/
theorem routeNamed_below_slashes :
    ∃ (table : RouteTable) (route : Route) (based plain routed : Request),
      Pattern.compile "//%id%" = .ok route.pattern ∧ '?' ∉ "/größe//".toList ∧
      based = { baseUrl := "/größe//", uri := "/größe//" ++ "/7?q=/#top" } ∧
      plain = { baseUrl := "/", uri := "/" ++ "/7?q=/#top" } ∧
      routed.params = .ofList [("id", "7")] ∧
      (table.routeNamed plain).value = (.ok ("item", route), routed) ∧
      (table.routeNamed based).value =
        (.ok ("item", route), { routed with baseUrl := based.baseUrl, uri := based.uri }) ∧
      ∃ cut : based.url.Pos, cut.offset.byteIdx = 9 ∧
        based.routedPath? = some (based.url.sliceFrom cut).copy := by
  let route : Route :=
    { pattern := { source := "//%id%", tokens := .literal ['/', '/'] (.placeholder "id" .done),
                   catchAll := false }
      defaults := ∅ }
  let table := empty.add "item" route
  let plain : Request := { baseUrl := "/", uri := "/" ++ "/7?q=/#top" }
  have hmark : '?' ∉ "/größe//".toList := by decide
  have hbase : plain.UnderBase := by decide +kernel
  have happlies : route.applies plain = true := by decide +kernel
  have hplain : (table.routeNamed plain).value =
      (.ok ("item", route), (route.parse plain).value.2) := by
    have hroutes : table.routes = [("item", route)] := rfl
    rw [routeNamed_of_underBase table hbase, hroutes, List.find?_cons, happlies]
  obtain ⟨-, houtcome, cut, hcut, hslice⟩ :=
    routeNamed_below table plain "/größe//" "/7?q=/#top" hmark
  rcases houtcome with ⟨name, found, routed, hfound, hbased⟩ | ⟨hnone, -⟩
  · rw [hplain] at hfound
    cases hfound
    exact ⟨table, route, _, plain, _, by decide +kernel, hmark, rfl, rfl, by decide +kernel, hplain,
      hbased, cut, hcut, hslice⟩
  · rw [hplain] at hnone
    cases hnone

end RouteTable

end RequestDispatch
