import RequestDispatch.Cli.Execution
import RequestDispatch.Proofs.Except
import RequestDispatch.Proofs.Kernel.Admission
import RequestDispatch.Proofs.Kernel.Configured
import RequestDispatch.Proofs.Kernel.Stages
import RequestDispatch.Proofs.Route.Registration

/-!
# Resolution on the Command Line

The command line resolves a URI without a kernel, by the table of the configured routes. What it
reports is what the configured kernel routes a request for that URI to
(`CommandLine.resolve_agrees_with_handle`): such a kernel routes as its table does
(`Kernel.routes_as_table`), and the base URL that it stamps on the request is the one that the
command line puts there (`Kernel.stampBaseUrl_of_configured`).
-/

namespace RequestDispatch

variable {app : Application}

/-- The base URL of settings is stamped on a request unless another one is given. -/
theorem Kernel.stampBaseUrl_of_configured {kernel : Kernel app} {configured : String}
    (hkernel : kernel.baseUrl = if configured = "/" then none else some configured)
    (request : Request) {given : Option String} (hgiven : given ≠ some "/") :
    kernel.stampBaseUrl { request with baseUrl := given.getD "/" } =
      { request with baseUrl := given.getD configured } := by
  rw [stampBaseUrl, hkernel]
  rcases given with _ | baseUrl
  · by_cases hconfigured : configured = "/" <;> simp [hconfigured]
  · have hother : baseUrl ≠ "/" := fun heq => hgiven (congrArg some heq)
    by_cases hconfigured : configured = "/" <;> simp [hconfigured, hother]

/-- A route table routes a request as it would anywhere, and leaves the scene as it is. -/
theorem RouteTable.value_run_router (table : RouteTable) (request : Request) (scene : Scene app) :
    (scene.run (table.router request)).value = ((table.route request).value, scene) := rfl

/-- If all listeners come with a kernel, and its router is a table, then the table decides about
the request with the base URL stamped on it: it is not routed, and handling it fails, or the
kernel comes to the route that the table names. -/
theorem Kernel.routes_as_table (kernel : Kernel app) {table : RouteTable}
    (hrouter : kernel.router = table.router) (request : Request) {scene : Scene app}
    (hkinds : ∀ kind ∈ scene.kinds, kind.IsBuiltIn) :
    match (table.routeNamed (kernel.stampBaseUrl request)).value with
    | (.error error, _) => (kernel.handle request scene).result = .error (.route error)
    | (.ok (_, route), routed) => ∃ last steps,
      kernel.Reaches request scene ⟨.routed route, ⟨routed, last⟩, steps⟩ := by
  obtain ⟨last, steps, hunrouted⟩ := kernel.exists_reaches_unrouted request hkinds
  rcases hnamed : (table.routeNamed (kernel.stampBaseUrl request)).value with
    ⟨error | ⟨name, route⟩, routed⟩
  · have hrouted : (last.run (kernel.router (kernel.stampBaseUrl request))).value =
        ((.error error, routed), last) := by
      rw [hrouter, table.value_run_router]
      simp [RouteTable.route, hnamed, Except.map]
    exact Reaches.result_handle (hunrouted.tail (.routerFails hrouted)) rfl
  · have hrouted : (last.run (kernel.router (kernel.stampBaseUrl request))).value =
        ((.ok route, routed), last) := by
      rw [hrouter, table.value_run_router]
      simp [RouteTable.route, hnamed, Except.map]
    exact ⟨last, _, hunrouted.tail (.routerSucceeds hrouted)⟩

namespace CommandLine

variable (settings : KernelSettings)

/-- Resolving a URI routes a request for it, under the base URL that is given or configured. -/
theorem value_resolve (table : RouteTable) (uri : String) (given : Option String)
    {name : String} {method : Method} (hmethod : Method.parse? (Text.upper name) = some method) :
    (resolve settings table uri given name).value =
      match (table.routeNamed { method, uri, baseUrl := given.getD settings.baseUrl }).value with
      | (.error error, _) => .error (.route error)
      | (.ok (route, _), routed) =>
        .ok ⟨route, routed.module, routed.controller, routed.action, routed.params⟩ := by
  rcases hnamed : (table.routeNamed
      { method, uri, baseUrl := given.getD settings.baseUrl }).value with
    ⟨error | ⟨route, chosen⟩, routed⟩ <;> simp [resolve, hmethod, hnamed]

/-- The command line resolves a URI to what the configured kernel dispatches to. With a method and
a base URL that is not the default one, or none, it either fails for the reason for which the
kernel fails to route a request for that URI, or it names the route that the kernel chooses, and
reports the module, the controller, the action and the parameters of the routed request. -/
theorem resolve_agrees_with_handle {table : RouteTable}
    (htable : (RouteTable.ofSettings settings.routes).value = .ok table)
    {name : String} {method : Method} (hmethod : Method.parse? (Text.upper name) = some method)
    {given : Option String} (hgiven : given ≠ some "/") (uri : String)
    (memory : app.Memory) (files : FileSystem)
    (dispatch : app.Controller → Request → AppAction app (Except Failure Outcome × Request))
    (hooks : Hooks app) (controllers : ControllerRegistry (ControllerFactory app)) :
    ∃ kernel scene,
      (settings.configure memory files dispatch hooks).value = .ok (kernel, scene) ∧
      match (resolve settings table uri given name).value with
      | .error error => ∃ cause, error = .route cause ∧
        (Kernel.handle { kernel with controllers }
          { method, uri, baseUrl := given.getD "/" } scene).result = .error (.route cause)
      | .ok resolution => ∃ route state steps,
        Kernel.Reaches { kernel with controllers }
          { method, uri, baseUrl := given.getD "/" } scene ⟨.routed route, state, steps⟩ ∧
        table.get? resolution.route = some route ∧
        state.request.module = resolution.module ∧
        state.request.controller = resolution.controller ∧
        state.request.action = resolution.action ∧
        state.request.params = resolution.params := by
  refine ⟨_, _, settings.value_configure htable memory files dispatch hooks, ?_⟩
  have hkinds : ∀ kind ∈ (settings.scene memory).value.kinds, kind.IsBuiltIn := by
    intro kind hkind
    rw [settings.kinds_scene memory] at hkind
    exact settings.isBuiltIn_of_mem_listeners hkind
  have hroutes := Kernel.routes_as_table
    { settings.kernel table files dispatch hooks with controllers } rfl
    { method, uri, baseUrl := given.getD "/" } hkinds
  rw [Kernel.stampBaseUrl_of_configured rfl { method, uri } hgiven] at hroutes
  rw [value_resolve settings table uri given hmethod]
  rcases hnamed : (table.routeNamed
      { method, uri, baseUrl := given.getD settings.baseUrl }).value with
    ⟨error | ⟨route, chosen⟩, routed⟩ <;> rw [hnamed] at hroutes
  · exact ⟨error, rfl, hroutes⟩
  · obtain ⟨last, steps, hreaches⟩ := hroutes
    have hget := (RouteTable.indexed_of_ofSettings htable).get?_of_routeNamed hnamed
    exact ⟨chosen, ⟨routed, last⟩, steps, hreaches, hget, rfl, rfl, rfl, rfl⟩

/-- A shop under a base URL of its own, with the route that names module, controller and action. -/
def shop : KernelSettings := { baseUrl := "/shop/" }

/-- What the command line reports for a URI of the shop is where the configured kernel routes a
request to that has no base URL yet. -/
theorem resolve_agrees_with_handle_shop :
    ∃ table kernel scene route state steps,
      (RouteTable.ofSettings shop.routes).value = .ok table ∧
      (shop.configure () Kernel.blog.files Kernel.blog.dispatch Kernel.textHooks).value =
        .ok (kernel, scene) ∧
      Kernel.Reaches { kernel with controllers := Kernel.blog.controllers }
        { uri := "/shop/cart/items/list" } scene ⟨.routed route, state, steps⟩ ∧
      table.get? "default" = some route ∧
      state.request.module = "cart" ∧ state.request.controller = "items" ∧
      state.request.action = "list" := by
  have hresolution : ((RouteTable.ofSettings shop.routes).value.map fun table =>
      (resolve shop table "/shop/cart/items/list" none "get").value) =
        .ok (.ok ⟨"default", "cart", "items", "list", ∅⟩) := by
    decide +kernel
  obtain ⟨table, htable, hresolve⟩ := Except.map_eq_ok_iff.mp hresolution
  have hmethod : Method.parse? (Text.upper "get") = some .get := by decide +kernel
  have hgiven : (none : Option String) ≠ some "/" := nofun
  obtain ⟨kernel, scene, hkernel, hagrees⟩ :=
    resolve_agrees_with_handle shop htable hmethod hgiven
      "/shop/cart/items/list" () Kernel.blog.files Kernel.blog.dispatch Kernel.textHooks
      Kernel.blog.controllers
  rw [hresolve] at hagrees
  obtain ⟨route, state, steps, hreaches, hget, hmodule, hcontroller, haction, -⟩ := hagrees
  exact ⟨table, kernel, scene, route, state, steps, htable, hkernel, hreaches, hget, hmodule,
    hcontroller, haction⟩

end CommandLine

end RequestDispatch
