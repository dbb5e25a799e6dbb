import RequestDispatch.Kernel.Configured
import RequestDispatch.Proofs.Event.BuiltIn
import RequestDispatch.Proofs.Kernel.Transitions

/-!
# Laws of Configured Kernels

The kernel that settings describe begins with listeners of its own only, and before routing those
leave a request as it is (`passes_route_of_isBuiltIn`). So what such a kernel routes is the request
that it is given, with a base URL stamped on it (`Kernel.exists_reaches_unrouted`).
-/

namespace RequestDispatch

variable {app : Application}

namespace Scene

@[simp]
theorem kinds_add (scene : Scene app) (kind : ListenerKind app) :
    (scene.add kind).kinds = scene.kinds ++ [kind] := by
  simp [kinds, add]

@[simp]
theorem kinds_addAll (scene : Scene app) (kinds : List (ListenerKind app)) :
    (scene.addAll kinds).kinds = scene.kinds ++ kinds := by
  rw [addAll]
  induction kinds generalizing scene with
  | nil => simp
  | cons kind kinds ih =>
    rw [List.foldl_cons, ih, kinds_add, List.append_assoc, List.singleton_append]

end Scene

/-- If all listeners come with the kernel, the request that goes to the router is the one that the
kernel is given, with the base URL stamped on it. -/
theorem Kernel.exists_reaches_unrouted (kernel : Kernel app) (request : Request)
    {scene : Scene app} (hkinds : ∀ kind ∈ scene.kinds, kind.IsBuiltIn) :
    ∃ lastScene steps, kernel.Reaches request scene
      ⟨.unrouted, ⟨kernel.stampBaseUrl request, lastScene⟩, steps⟩ := by
  obtain ⟨lastScene, hpasses, -⟩ := passes_route_of_isBuiltIn kernel.hooks 0 hkinds
    { request := kernel.stampBaseUrl request } scene
  have hfired : kernel.onRoute ⟨kernel.stampBaseUrl request, scene⟩ = _ :=
    (Delivery.fire_eq_iff_passes fun _ => rfl).mpr ⟨hpasses, rfl⟩
  exact ⟨lastScene, _, .single (.routeListenersPass hfired rfl)⟩

namespace KernelSettings

variable (settings : KernelSettings)

/-- All listeners of a configured kernel come with it. -/
theorem isBuiltIn_of_mem_listeners {kind : ListenerKind app} (hkind : kind ∈ settings.listeners) :
    kind.IsBuiltIn := by
  rcases List.mem_append.mp hkind with hfixed | hheaders
  · simp only [List.mem_cons, List.not_mem_nil, or_false] at hfixed
    rcases hfixed with rfl | rfl | rfl | rfl <;> trivial
  · split at hheaders
    · cases hheaders
    · rw [List.mem_singleton.mp hheaders]
      trivial

/-- The listeners of a scene come with the kernel if they are those of settings. -/
theorem isBuiltIn_of_kinds_eq {settings : KernelSettings} {scene : Scene app}
    (hkinds : scene.kinds = settings.listeners) : ∀ kind ∈ scene.kinds, kind.IsBuiltIn := by
  intro kind hkind
  rw [hkinds] at hkind
  exact settings.isBuiltIn_of_mem_listeners hkind

/-- A configured kernel begins with the listeners of its settings. -/
theorem kinds_scene (memory : app.Memory) :
    (settings.scene memory).value.kinds = settings.listeners := by
  rw [scene, Logged.value_bind, Logged.value_pure, Scene.kinds_addAll]
  rfl

/-- If the routes of settings make a table, the settings describe the kernel of that table. -/
theorem value_configure {table : RouteTable}
    (htable : (RouteTable.ofSettings settings.routes).value = .ok table) (memory : app.Memory)
    (files : FileSystem)
    (dispatch : app.Controller → Request → AppAction app (Except Failure Outcome × Request))
    (hooks : Hooks app) :
    (settings.configure memory files dispatch hooks).value =
      .ok (settings.kernel table files dispatch hooks, (settings.scene memory).value) := by
  rw [configure, Logged.value_bind, htable]
  rfl

end KernelSettings

end RequestDispatch
