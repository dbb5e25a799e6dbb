import RequestDispatch.Proofs.Text.Cut
import RequestDispatch.Route.Table

/-!
# Routing by a Table

A table hands the same request to its routes, one after another. A route that does not match
leaves the request as it was (`Route.parse_of_not_applies`), so what a table makes of a request
is what the first matching route alone makes of it (`RouteTable.routeNamed_of_underBase`), and a
request that is not routed comes back unchanged.
-/

namespace RequestDispatch

open Route Text

/-! ## The path that routes are matched against -/

/-- A base URL without the slash at its end, if it has one. -/
def stem (base : List Char) : List Char :=
  if base.getLast? = some '/' then base.dropLast else base

/-- Taking a slash off the end of the base URL, where there is one, leaves its stem. -/
theorem init?_slash_getD (base : List Char) : (init? ['/'] base).getD base = stem base := by
  cases h : init? ['/'] base with
  | some before =>
    obtain rfl := init?_eq_some_iff.1 h
    simp [stem]
  | none =>
    have hlast : base.getLast? ≠ some '/' := by
      intro hlast
      obtain ⟨before, rfl⟩ := List.getLast?_eq_some_iff.1 hlast
      rw [init?_eq_some_iff.2 rfl] at h
      simp at h
    rw [Option.getD_none, stem, if_neg hlast]

namespace Request

/-- The URL without the base URL. A slash at the end of the base URL counts to what follows. -/
def strippedPath (request : Request) : String :=
  String.ofList (request.url.toList.drop (stem request.baseUrl.toList).length)

/-- Whether the URL begins with the base URL. -/
def UnderBase (request : Request) : Prop := request.baseUrl.toList <+: request.url.toList

instance (request : Request) : Decidable request.UnderBase :=
  inferInstanceAs (Decidable (request.baseUrl.toList <+: request.url.toList))

/-- A URL under the base URL is the base URL, less the slash at its end, and the path. -/
theorem toList_url_of_underBase {request : Request} (h : request.UnderBase) :
    request.url.toList = stem request.baseUrl.toList ++ request.strippedPath.toList := by
  have hstem : stem request.baseUrl.toList <+: request.baseUrl.toList := by
    rw [stem]
    split
    · exact List.dropLast_prefix _
    · exact List.prefix_rfl
  obtain ⟨path, hpath⟩ := hstem.trans h
  rw [strippedPath, String.toList_ofList, ← hpath, List.drop_left]

theorem routedPath?_of_underBase {request : Request} (h : request.UnderBase) :
    request.routedPath? = some request.strippedPath := by
  rw [routedPath?, if_pos (List.isPrefixOf_iff_prefix.2 h), init?_slash_getD, strippedPath]

theorem routedPath?_of_not_underBase {request : Request} (h : ¬ request.UnderBase) :
    request.routedPath? = none := by
  rw [routedPath?, if_neg fun hbase => h (List.isPrefixOf_iff_prefix.1 hbase)]

end Request

/-! ## One route -/

/-- The parameters of a request with those captured and the defaults of a route on top. -/
def Request.merged (request : Request) (captured defaults : Params) : Params :=
  (request.params.override captured).override defaults

namespace Route

/-- Whether the route's pattern captures the path of a request. -/
def applies (route : Route) (request : Request) : Bool :=
  (route.pattern.captures request.strippedPath).isSome

/-- A URL that does not begin with the base URL is refused by every route alike. -/
theorem parse_of_not_underBase (route : Route) {request : Request} (h : ¬ request.UnderBase) :
    (route.parse request).value =
      (.error (.mismatch request.url request.baseUrl), request) := by
  rw [parse, request.routedPath?_of_not_underBase h]
  rfl

/-- A route that does not match leaves no trace in the request. -/
theorem parse_of_not_applies {route : Route} {request : Request} (h : request.UnderBase)
    (hnot : route.applies request = false) :
    (route.parse request).value = (.ok .noMatch, request) := by
  have hcaptures : route.pattern.captures request.strippedPath = none := by
    simpa [applies] using hnot
  rw [parse, request.routedPath?_of_underBase h]
  simp [hcaptures]

/-- A route whose pattern captures the path matches. -/
theorem parse_of_applies {route : Route} {request : Request} (h : request.UnderBase)
    (happlies : route.applies request = true) :
    (route.parse request).value = (.ok .matched, (route.parse request).value.2) := by
  obtain ⟨captured, hcaptures⟩ := Option.isSome_iff_exists.1 happlies
  rw [parse, request.routedPath?_of_underBase h]
  simp [hcaptures]

/-- A route that captures the path writes the merged parameters onto the request. -/
theorem parse_of_captures {route : Route} {request : Request} {path : String} {captured : Params}
    (hpath : request.routedPath? = some path)
    (hcaptured : route.pattern.captures path = some captured) :
    (route.parse request).value =
      (.ok .matched, request.route (request.merged captured route.defaults)) := by
  rw [parse, hpath]
  simp only [hcaptured]
  rfl

end Route

/-! ## A table of routes -/

namespace RouteTable

/-- Trying routes stops at the first one that applies, with the request that this route alone
makes of the original one. -/
theorem tryRoutes_of_underBase (routes : List (String × Route)) {request : Request}
    (h : request.UnderBase) :
    (tryRoutes routes request).value =
      match routes.find? fun entry => entry.2.applies request with
      | some entry => (.ok (some entry), (entry.2.parse request).value.2)
      | none => (.ok none, request) := by
  induction routes with
  | nil => rfl
  | cons entry routes ih =>
    obtain ⟨name, route⟩ := entry
    rw [tryRoutes, Logged.value_bind]
    cases happlies : route.applies request with
    | true =>
      rw [parse_of_applies h happlies]
      simp [happlies]
    | false =>
      rw [parse_of_not_applies h happlies]
      simpa [happlies] using ih

theorem tryRoutes_of_not_underBase {routes : List (String × Route)} {request : Request}
    (hroutes : routes ≠ []) (h : ¬ request.UnderBase) :
    (tryRoutes routes request).value =
      (.error (.mismatch request.url request.baseUrl), request) := by
  obtain ⟨⟨name, route⟩, others, rfl⟩ := List.exists_cons_of_ne_nil hroutes
  rw [tryRoutes, Logged.value_bind, parse_of_not_underBase route h]
  rfl

theorem routeNamed_value (table : RouteTable) (request : Request) :
    (table.routeNamed request).value =
      match (tryRoutes table.routes request).value with
      | (.error error, routed) => (.error error, routed)
      | (.ok (some entry), routed) => (.ok entry, routed)
      | (.ok none, routed) => (.error (.notFound routed.url), routed) := by
  rw [routeNamed, Logged.value_bind, Logged.value_bind]
  rcases (tryRoutes table.routes request).value with ⟨_ | _ | _, routed⟩ <;> rfl

/-- A request under the base URL goes to the first route that applies. -/
theorem routeNamed_of_underBase (table : RouteTable) {request : Request}
    (h : request.UnderBase) :
    (table.routeNamed request).value =
      match table.routes.find? fun entry => entry.2.applies request with
      | some entry => (.ok entry, (entry.2.parse request).value.2)
      | none => (.error (.notFound request.url), request) := by
  rw [routeNamed_value, tryRoutes_of_underBase table.routes h]
  cases table.routes.find? fun entry => entry.2.applies request <;> rfl

theorem routeNamed_of_routes_eq_nil {table : RouteTable} {request : Request}
    (hroutes : table.routes = []) :
    (table.routeNamed request).value = (.error (.notFound request.url), request) := by
  rw [routeNamed_value, hroutes]
  rfl

/-- What a table makes of a request. A URL that does not begin with the base URL is refused by
every table that has routes. Else the first route that captures the path is chosen, with the
request that this route alone makes of the original one; a request for which there is none is
not found. The request of an error is the original one. -/
theorem routeNamed_eq (table : RouteTable) (request : Request) :
    ((table.routeNamed request).value =
      if table.routes ≠ [] ∧ ¬ request.baseUrl.toList <+: request.url.toList then
        (.error (.mismatch request.url request.baseUrl), request)
      else
        match table.routes.find? fun entry =>
          (entry.2.pattern.captures request.strippedPath).isSome with
        | some entry => (.ok entry, (entry.2.parse request).value.2)
        | none => (.error (.notFound request.url), request)) ∧
    (∀ name route routed, (table.routeNamed request).value = (.ok (name, route), routed) →
      (route.parse request).value = (.ok .matched, routed)) ∧
    ∀ error routed, (table.routeNamed request).value = (.error error, routed) →
      routed = request := by
  by_cases hroutes : table.routes = []
  · rw [routeNamed_of_routes_eq_nil hroutes, hroutes]
    simp [eq_comm]
  by_cases hbase : request.UnderBase
  · rw [if_neg fun h => h.2 hbase, routeNamed_of_underBase table hbase]
    refine ⟨rfl, fun name route routed hvalue => ?_, fun error routed hvalue => ?_⟩
    · split at hvalue
      · rename_i entry hfind
        obtain ⟨rfl, rfl⟩ : entry = (name, route) ∧ (entry.2.parse request).value.2 = routed := by
          simpa using hvalue
        exact parse_of_applies hbase (by simpa using List.find?_some hfind)
      · simp at hvalue
    · split at hvalue
      · simp at hvalue
      · exact (Prod.mk.inj hvalue).2.symm
  · have hvalue : (table.routeNamed request).value =
        (.error (.mismatch request.url request.baseUrl), request) := by
      rw [routeNamed_value, tryRoutes_of_not_underBase hroutes hbase]
    rw [hvalue, if_pos ⟨hroutes, hbase⟩]
    simp [eq_comm]

end RouteTable

end RequestDispatch
