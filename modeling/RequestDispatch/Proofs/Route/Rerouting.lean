import RequestDispatch.Proofs.NameMap
import RequestDispatch.Proofs.Route.Table

/-!
# Routing a Request Again

Routing a request that has been routed changes nothing. What is matched does not depend on what
routing writes (`Request.routedPath?_route`), so the same parameters are captured again. Of the
three layers that are merged, only the parameters of the request are different the second time, and
they are the lowest layer: where a name is captured or has a default, it has the same value as
before, and where it is not, the request kept what it had (`Request.route_route`). This is so for
the reserved names as well, which the first routing has taken out of the parameters: one that came
from the request's own parameters is the request's identity by then, and is kept because nothing
names it again.
-/

namespace RequestDispatch

open Route

namespace Request

/-! ## The three layers -/

theorem get?_merged (request : Request) (captured defaults : Params) (name : String) :
    (request.merged captured defaults).get? name =
      (defaults.get? name).or ((captured.get? name).or (request.params.get? name)) := by
  rw [merged, NameMap.get?_override, NameMap.get?_override]

/-- The names that become the identity of a request and are no parameters of it. -/
def reservedNames : List String := ["module", "controller", "action"]

/-- A routed request keeps the merged parameters except those with reserved names. -/
theorem get?_params_route (request : Request) (params : Params) (name : String) :
    (request.route params).params.get? name =
      if name ∈ reservedNames then none else params.get? name := by
  have hparams : (request.route params).params =
      ((params.erase "module").erase "controller").erase "action" := rfl
  rw [hparams, NameMap.get?_erase, NameMap.get?_erase, NameMap.get?_erase]
  by_cases haction : name = "action"
  · simp [haction, reservedNames]
  by_cases hcontroller : name = "controller"
  · simp [hcontroller, reservedNames]
  by_cases hmodule : name = "module"
  · simp [hmodule, reservedNames]
  · simp [haction, hcontroller, hmodule, reservedNames]

variable (request : Request) (captured defaults : Params)

/-- Merging again, a reserved name has the value it had if it is captured or has a default. -/
theorem get?_merged_route_of_mem {name : String} (hname : name ∈ reservedNames) :
    ((request.route (request.merged captured defaults)).merged captured defaults).get? name =
      (defaults.get? name).or (captured.get? name) := by
  rw [get?_merged, get?_params_route, if_pos hname, Option.or_none]

/-- Merging again, a name that is not reserved has the value it had. -/
theorem get?_merged_route_of_not_mem {name : String} (hname : name ∉ reservedNames) :
    ((request.route (request.merged captured defaults)).merged captured defaults).get? name =
      (request.merged captured defaults).get? name := by
  rw [get?_merged, get?_params_route, if_neg hname, get?_merged]
  -- the lowest layer is the merge of all three now, under the same two
  cases defaults.get? name with
  | some value => rfl
  | none => cases captured.get? name <;> rfl

/-- A part of the identity is the same the second time. Either the same layer names it again, or
none does and it is left as it was. -/
theorem getD_merged_route {name : String} (hname : name ∈ reservedNames) (part : String) :
    (((request.route (request.merged captured defaults)).merged captured defaults).get? name).getD
        (((request.merged captured defaults).get? name).getD part) =
      ((request.merged captured defaults).get? name).getD part := by
  rw [get?_merged_route_of_mem request captured defaults hname, get?_merged]
  cases defaults.get? name with
  | some value => rfl
  | none => cases captured.get? name <;> rfl

/-- Routing a routed request by the same captured parameters and the same defaults changes
nothing. -/
theorem route_route :
    let routed := request.route (request.merged captured defaults)
    routed.route (routed.merged captured defaults) = routed := by
  intro routed
  have hparams : (routed.route (routed.merged captured defaults)).params = routed.params := by
    refine NameMap.ext_get? fun name => ?_
    rw [get?_params_route, get?_params_route]
    -- a reserved name is a parameter neither time
    by_cases hname : name ∈ reservedNames
    · rw [if_pos hname, if_pos hname]
    · rw [if_neg hname, if_neg hname]
      exact get?_merged_route_of_not_mem request captured defaults hname
  have hmodule : ((routed.merged captured defaults).get? "module").getD routed.module =
      routed.module :=
    getD_merged_route request captured defaults (by decide) request.module
  have hcontroller : ((routed.merged captured defaults).get? "controller").getD
      routed.controller = routed.controller :=
    getD_merged_route request captured defaults (by decide) request.controller
  have haction : ((routed.merged captured defaults).get? "action").getD routed.action =
      routed.action :=
    getD_merged_route request captured defaults (by decide) request.action
  calc routed.route (routed.merged captured defaults)
      = { routed with
          module := ((routed.merged captured defaults).get? "module").getD routed.module
          controller :=
            ((routed.merged captured defaults).get? "controller").getD routed.controller
          action := ((routed.merged captured defaults).get? "action").getD routed.action
          params := (routed.route (routed.merged captured defaults)).params } := rfl
    _ = routed := by rw [hmodule, hcontroller, haction, hparams]

/-! ## What is matched -/

/-- What routing writes plays no part in what is matched. -/
theorem routedPath?_route (params : Params) :
    (request.route params).routedPath? = request.routedPath? := rfl

end Request

/-! ## One route -/

namespace Route

variable {route : Route} {request routed : Request}

/-- What a request is after a route has matched it. -/
theorem exists_captures_of_matched (h : (route.parse request).value = (.ok .matched, routed)) :
    ∃ path captured, request.routedPath? = some path ∧
      route.pattern.captures path = some captured ∧
      routed = request.route (request.merged captured route.defaults) := by
  cases hpath : request.routedPath? with
  | none =>
    rw [parse, hpath] at h
    cases h
  | some path =>
    cases hcaptured : route.pattern.captures path with
    | none =>
      rw [parse, hpath] at h
      simp [hcaptured] at h
    | some captured =>
      rw [parse_of_captures hpath hcaptured] at h
      exact ⟨path, captured, rfl, hcaptured, (Prod.mk.inj h).2.symm⟩

/-- A route that has matched a request matches the routed request, and leaves it as it is. -/
theorem parse_of_matched (h : (route.parse request).value = (.ok .matched, routed)) :
    (route.parse routed).value = (.ok .matched, routed) := by
  obtain ⟨path, captured, hpath, hcaptured, rfl⟩ := exists_captures_of_matched h
  have hagain := request.routedPath?_route (request.merged captured route.defaults)
  rw [hpath] at hagain
  rw [parse_of_captures hagain hcaptured, request.route_route]

end Route

/-! ## A table of routes -/

namespace RouteTable

/-- Only a request under its base URL is routed. -/
theorem underBase_of_routeNamed {table : RouteTable} {request routed : Request}
    {entry : String × Route} (h : (table.routeNamed request).value = (.ok entry, routed)) :
    request.UnderBase := by
  by_contra hbase
  by_cases hroutes : table.routes = []
  · rw [routeNamed_of_routes_eq_nil hroutes] at h
    cases h
  · rw [routeNamed_value, tryRoutes_of_not_underBase hroutes hbase] at h
    cases h

/-- Routing a routed request again, with the same URI and the same base URL, leads to the same route
and changes nothing in the request, by a single route as well as by a table of routes. -/
theorem route_again :
    (∀ (route : Route) (request routed : Request),
      (route.parse request).value = (.ok .matched, routed) →
        (route.parse routed).value = (.ok .matched, routed)) ∧
    ∀ (table : RouteTable) (request routed : Request) (name : String) (route : Route),
      (table.routeNamed request).value = (.ok (name, route), routed) →
        (table.routeNamed routed).value = (.ok (name, route), routed) := by
  refine ⟨fun route request routed => Route.parse_of_matched, ?_⟩
  intro table request routed name route h
  have hbase := underBase_of_routeNamed h
  rw [routeNamed_of_underBase table hbase] at h
  split at h
  · rename_i entry hfind
    obtain ⟨rfl, rfl⟩ : entry = (name, route) ∧ (entry.2.parse request).value.2 = routed := by
      simpa using h
    have hmatched := Route.parse_of_applies hbase (by simpa using List.find?_some hfind)
    have hagain := Route.parse_of_matched hmatched
    -- the routes before this one do not apply to the routed request either
    obtain ⟨path, captured, -, -, hrouted⟩ := Route.exists_captures_of_matched hmatched
    rw [hrouted] at hagain ⊢
    have hfindAgain : (table.routes.find? fun entry => entry.2.applies
        (request.route (request.merged captured route.defaults))) = some (name, route) := hfind
    have hbaseAgain :
        (request.route (request.merged captured route.defaults)).UnderBase := hbase
    rw [routeNamed_of_underBase table hbaseAgain, hfindAgain]
    simp only [hagain]
  · cases h

/-- A request for which the module is captured, the controller has a default, and the action was a
parameter of the request, as was a module that the captured one wins over. -/
theorem route_again_layers :
    ∃ (table : RouteTable) (route : Route) (request routed : Request),
      Pattern.compile "/%module%/%id%(/*)" = .ok route.pattern ∧
      route.defaults = .ofList [("controller", "post")] ∧
      request = { uri := "/app/blog/7/more?page=2", baseUrl := "/app/",
                  params := .ofList [("action", "show"), ("lang", "de"), ("module", "old")] } ∧
      (table.routeNamed request).value = (.ok ("post", route), routed) ∧
      table.routes.length = 2 ∧ routed.module = "blog" ∧ routed.controller = "post" ∧
      routed.action = "show" ∧ routed.params = .ofList [("id", "7"), ("lang", "de")] ∧
      (table.routeNamed routed).value = (.ok ("post", route), routed) ∧
      (route.parse request).value = (.ok .matched, routed) ∧
      (route.parse routed).value = (.ok .matched, routed) := by
  let static : Route :=
    { pattern :=
        { source := "/static/%file%"
          tokens := .literal ['/', 's', 't', 'a', 't', 'i', 'c', '/'] (.placeholder "file" .done)
          catchAll := false }
      defaults := ∅ }
  let route : Route :=
    { pattern :=
        { source := "/%module%/%id%(/*)"
          tokens :=
            .literal ['/'] (.placeholder "module" (.literal ['/'] (.placeholder "id" .done)))
          catchAll := true }
      defaults := .ofList [("controller", "post")] }
  let table := (empty.add "static" static).add "post" route
  let request : Request :=
    { uri := "/app/blog/7/more?page=2", baseUrl := "/app/",
      params := .ofList [("action", "show"), ("lang", "de"), ("module", "old")] }
  let routed := (route.parse request).value.2
  have hbase : request.UnderBase := by decide +kernel
  have hparsed : (route.parse request).value = (.ok .matched, routed) :=
    Route.parse_of_applies hbase (by decide +kernel)
  have hstatic : static.applies request = false := by decide +kernel
  have hroute : route.applies request = true := by decide +kernel
  have hrouted : (table.routeNamed request).value = (.ok ("post", route), routed) := by
    have hfind : (table.routes.find? fun entry => entry.2.applies request) =
        some ("post", route) := by
      have hroutes : table.routes = [("static", static), ("post", route)] := rfl
      rw [hroutes, List.find?_cons, hstatic, List.find?_cons, hroute]
    rw [routeNamed_of_underBase table hbase, hfind]
  refine ⟨table, route, request, routed, by decide +kernel, rfl, rfl, hrouted, rfl, ?_, ?_, ?_, ?_,
    route_again.2 table request routed "post" route hrouted, hparsed,
    route_again.1 route request routed hparsed⟩ <;> decide +kernel

end RouteTable

end RequestDispatch
