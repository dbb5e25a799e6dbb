import RequestDispatch.Proofs.Route.Rerouting

/-!
# What Routing Writes

A route that matches a request merges three layers of parameters: those the request has, those
captured from its path, and the defaults of the route. `Request.layered?` says which layer a name
takes its value from, and `Request.RoutedBy` what becomes of a request: the reserved names go to its
identity, all others to its parameters, and nothing else of it changes. This determines the request
(`Request.RoutedBy.unique`), and a route that matches makes exactly this of a request
(`Route.parse_eq_matched_iff`). So no reserved name is left among the parameters, whether a route
or a table of routes has matched (`Route.parse_layers`).
-/

namespace RequestDispatch

open Route

attribute [ext] Request

namespace Request

/-- The value of a name in the three layers. The defaults win over what is captured, and both win
over the parameters of the request. -/
def layered? (request : Request) (captured defaults : Params) (name : String) : Option String :=
  (defaults.get? name).or ((captured.get? name).or (request.params.get? name))

/-- What becomes of a request that is routed with values for some names. -/
structure RoutedBy (before : Request) (value? : String → Option String) (after : Request) :
    Prop where
  /-- All names with values are parameters, except the reserved ones. -/
  params : ∀ name,
    after.params.get? name = if name ∈ reservedNames then none else value? name
  /-- The module is named by its value, or else it stays. -/
  module : after.module = (value? "module").getD before.module
  /-- The controller is named by its value, or else it stays. -/
  controller : after.controller = (value? "controller").getD before.controller
  /-- The action is named by its value, or else it stays. -/
  action : after.action = (value? "action").getD before.action
  /-- The URI stays. -/
  uri : after.uri = before.uri
  /-- The base URL stays. -/
  baseUrl : after.baseUrl = before.baseUrl
  /-- The method stays. -/
  method : after.method = before.method
  /-- The headers stay, in their order. -/
  headers : after.headers = before.headers
  /-- The server's name stays. -/
  serverName : after.serverName = before.serverName
  /-- The connection is as secure as it was. -/
  secure : after.secure = before.secure
  /-- The identifier stays. -/
  id : after.id = before.id

namespace RoutedBy

variable {before after other : Request} {value? : String → Option String}

/-- No parameter of a routed request has a reserved name. -/
theorem get?_params_of_mem (hrouted : before.RoutedBy value? after) {name : String}
    (hname : name ∈ reservedNames) : after.params.get? name = none := by
  rw [hrouted.params, if_pos hname]

/-- The values determine what becomes of a request. -/
theorem unique (hafter : before.RoutedBy value? after) (hother : before.RoutedBy value? other) :
    after = other := by
  have hparams : after.params = other.params :=
    NameMap.ext_get? fun name => (hafter.params name).trans (hother.params name).symm
  exact Request.ext (hafter.id.trans hother.id.symm) (hafter.method.trans hother.method.symm)
    (hafter.uri.trans hother.uri.symm) (hafter.baseUrl.trans hother.baseUrl.symm)
    (hafter.serverName.trans hother.serverName.symm) (hafter.secure.trans hother.secure.symm)
    (hafter.headers.trans hother.headers.symm) (hafter.module.trans hother.module.symm)
    (hafter.controller.trans hother.controller.symm) (hafter.action.trans hother.action.symm)
    hparams

end RoutedBy

/-- A request that merged parameters are written onto is routed with the values of the three
layers. -/
theorem routedBy_route_merged (request : Request) (captured defaults : Params) :
    request.RoutedBy (request.layered? captured defaults)
      (request.route (request.merged captured defaults)) where
  params name := by rw [get?_params_route, get?_merged, layered?]
  module := by rw [layered?, ← get?_merged]; rfl
  controller := by rw [layered?, ← get?_merged]; rfl
  action := by rw [layered?, ← get?_merged]; rfl
  uri := rfl
  baseUrl := rfl
  method := rfl
  headers := rfl
  serverName := rfl
  secure := rfl
  id := rfl

end Request

namespace Route

/-- A route matches a request exactly if its pattern captures the path that is matched, and the
request is then routed with the values of the three layers. -/
theorem parse_eq_matched_iff {route : Route} {request routed : Request} :
    (route.parse request).value = (.ok .matched, routed) ↔
      ∃ path captured, request.routedPath? = some path ∧
        route.pattern.captures path = some captured ∧
        request.RoutedBy (request.layered? captured route.defaults) routed := by
  constructor
  · intro hmatched
    obtain ⟨path, captured, hpath, hcaptured, rfl⟩ := exists_captures_of_matched hmatched
    exact ⟨path, captured, hpath, hcaptured, request.routedBy_route_merged captured route.defaults⟩
  · -- the route makes something of the request, and there is only one thing it can be
    rintro ⟨path, captured, hpath, hcaptured, hrouted⟩
    rw [parse_of_captures hpath hcaptured,
      (request.routedBy_route_merged captured route.defaults).unique hrouted]

end Route

namespace RouteTable

/-- Routing by a table leaves the request as the chosen route alone makes it. -/
theorem parse_of_routeNamed {table : RouteTable} {request routed : Request}
    {entry : String × Route} (h : (table.routeNamed request).value = (.ok entry, routed)) :
    (entry.2.parse request).value = (.ok .matched, routed) := by
  have hbase := underBase_of_routeNamed h
  rw [routeNamed_of_underBase table hbase] at h
  split at h
  · rename_i chosen hfind
    obtain ⟨rfl, rfl⟩ : chosen = entry ∧ (chosen.2.parse request).value.2 = routed := by
      simpa using h
    exact Route.parse_of_applies hbase (by simpa using List.find?_some hfind)
  · cases h

end RouteTable

namespace Route

/-- A route matches a request exactly if its pattern captures the path that is matched. The request
then has the values of three layers, of which the defaults of the route win over what is captured,
and both win over the parameters of the request. Reserved names are its identity, all other names
its parameters, and nothing else of it is changed. So no parameter of a routed request has a
reserved name, and the same is true of a request that a table of routes has routed. -/
theorem parse_layers :
    (∀ (route : Route) (request routed : Request),
      (route.parse request).value = (.ok .matched, routed) ↔
        ∃ path captured, request.routedPath? = some path ∧
          route.pattern.captures path = some captured ∧
          request.RoutedBy (request.layered? captured route.defaults) routed) ∧
    (∀ (route : Route) (request routed : Request),
      (route.parse request).value = (.ok .matched, routed) →
        ∀ name ∈ Request.reservedNames, routed.params.get? name = none) ∧
    ∀ (table : RouteTable) (request routed : Request) (entry : String × Route),
      (table.routeNamed request).value = (.ok entry, routed) →
        ∀ name ∈ Request.reservedNames, routed.params.get? name = none := by
  have hreserved (route : Route) (request routed : Request)
      (hmatched : (route.parse request).value = (.ok .matched, routed)) :
      ∀ name ∈ Request.reservedNames, routed.params.get? name = none := by
    obtain ⟨_, _, -, -, hrouted⟩ := parse_eq_matched_iff.mp hmatched
    exact fun name hname => hrouted.get?_params_of_mem hname
  refine ⟨fun route request routed => parse_eq_matched_iff, hreserved, ?_⟩
  -- what a table has routed, one of its routes has matched
  intro table request routed entry hnamed
  exact hreserved entry.2 request routed (RouteTable.parse_of_routeNamed hnamed)

/-- The module is in all three layers and has the value of the uppermost one, the controller has a
default, and the action was a parameter of the request. The other names come from each of the
layers, `id` and `lang` in place of what the request had. -/
theorem parse_layers_collisions :
    ∃ (route : Route) (request routed : Request) (captured : Params),
      Pattern.compile "/%module%/%id%(/*)" = .ok route.pattern ∧
      route.defaults = .ofList [("controller", "post"), ("lang", "en"), ("module", "news")] ∧
      request = { uri := "/blog/7/more?page=2", headers := [("Host", "a.example")],
                  params := .ofList [("action", "show"), ("id", "0"), ("lang", "de"),
                    ("module", "old"), ("page", "2")] } ∧
      route.pattern.captures "/blog/7/more" = some captured ∧
      captured = .ofList [("id", "7"), ("module", "blog")] ∧
      (route.parse request).value = (.ok .matched, routed) ∧
      request.RoutedBy (request.layered? captured route.defaults) routed ∧
      routed.module = "news" ∧ routed.controller = "post" ∧ routed.action = "show" ∧
      routed.params = .ofList [("id", "7"), ("lang", "en"), ("page", "2")] ∧
      (∀ name ∈ Request.reservedNames, routed.params.get? name = none) ∧
      ((RouteTable.empty.add "post" route).routeNamed request).value =
        (.ok ("post", route), routed) := by
  let route : Route :=
    { pattern :=
        { source := "/%module%/%id%(/*)"
          tokens :=
            .literal ['/'] (.placeholder "module" (.literal ['/'] (.placeholder "id" .done)))
          catchAll := true }
      defaults := .ofList [("controller", "post"), ("lang", "en"), ("module", "news")] }
  let request : Request :=
    { uri := "/blog/7/more?page=2", headers := [("Host", "a.example")],
      params := .ofList [("action", "show"), ("id", "0"), ("lang", "de"),
        ("module", "old"), ("page", "2")] }
  let captured : Params := .ofList [("id", "7"), ("module", "blog")]
  let routed := (route.parse request).value.2
  have hbase : request.UnderBase := by decide +kernel
  -- the pattern is written out above, so that matching need not read it
  have hmatched : (route.parse request).value = (.ok .matched, routed) :=
    parse_of_applies hbase (by decide +kernel)
  obtain ⟨path, found, hpath, hfound, hrouted⟩ :=
    (parse_layers.1 route request routed).mp hmatched
  obtain rfl : path = "/blog/7/more" := by
    have hstripped : request.routedPath? = some "/blog/7/more" := by decide +kernel
    exact Option.some.inj (hpath.symm.trans hstripped)
  have hcaptured : route.pattern.captures "/blog/7/more" = some captured := by decide +kernel
  obtain rfl : found = captured := Option.some.inj (hfound.symm.trans hcaptured)
  have hnamed : ((RouteTable.empty.add "post" route).routeNamed request).value =
      (.ok ("post", route), routed) := by
    have happlies : route.applies request = true := by decide +kernel
    have hfind : ((RouteTable.empty.add "post" route).routes.find? fun entry =>
        entry.2.applies request) = some ("post", route) := by
      have hroutes : (RouteTable.empty.add "post" route).routes = [("post", route)] := rfl
      rw [hroutes, List.find?_cons, happlies]
    rw [RouteTable.routeNamed_of_underBase _ hbase, hfind]
  refine ⟨route, request, routed, captured, by decide +kernel, rfl, rfl, hcaptured, rfl, hmatched,
    hrouted, ?_, ?_, ?_, ?_, parse_layers.2.2 _ request routed ("post", route) hnamed,
    hnamed⟩ <;> decide +kernel

end Route

end RequestDispatch
