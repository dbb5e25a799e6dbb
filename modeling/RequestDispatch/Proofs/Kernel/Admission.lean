import RequestDispatch.Proofs.Controller.Registry
import RequestDispatch.Proofs.Controller.Resolver
import RequestDispatch.Proofs.Kernel.Realization

/-!
# Which Factories Are Invoked

The factory of a controller is invoked on a request only if the kernel admits it
(`Kernel.Admits`): the module that the request is then for is active, the directory of the
controller exists, and the factory is the last one registered for their identity. The only way to
a factory is the arrow that finds it, and that arrow is taken under these conditions
(`Kernel.Invokes.admits`).

The steps of a handling tell which factories were invoked (`Kernel.built_mem_steps_iff`), as steps
are only ever added along the arrows.
-/

namespace RequestDispatch.Kernel

open Relation (ReflTransGen)

variable {app : Application} {kernel : Kernel app} {request : Request} {scene : Scene app}

/-- The handling of a request comes to the factory of a controller, in this state, and invokes
it on the request of that state. -/
def Invokes (kernel : Kernel app) (request : Request) (scene : Scene app) (identity : String)
    (factory : ControllerFactory app) (state : HandlingState app) : Prop :=
  ∃ steps, kernel.Reaches request scene ⟨.found identity factory, state, steps⟩

/-- What admits a factory for a request, when controllers have been registered one after
another. -/
structure Admits (kernel : Kernel app)
    (registrations : List (String × ControllerFactory app)) (request : Request)
    (identity : String) (factory : ControllerFactory app) : Prop where
  /-- The module of the request is active. -/
  active : camelcase request.module ∈ kernel.resolver.modules
  /-- The directory of its controller exists. -/
  directory :
    kernel.files.isDirectory (kernel.resolver.directory request.module request.controller) = true
  /-- The identity is that of its module and controller. -/
  identified :
    kernel.resolver.controllerIdentity request.module request.controller = .ok identity
  /-- The factory is the last one registered for the identity. -/
  registered : ControllerRegistry.RegistersLast registrations identity factory

/-! ## Guards on the way to a factory -/

/-- A factory is found only by resolving the request's module and controller to its identity. -/
theorem Invokes.resolved {identity : String} {factory : ControllerFactory app}
    {state : HandlingState app} (hinvokes : kernel.Invokes request scene identity factory state) :
    ∃ resolved, kernel.resolved state.request = .ok resolved ∧ resolved.identity = identity ∧
      kernel.controllers.get? identity = some factory := by
  obtain ⟨steps, hreaches⟩ := hinvokes
  rcases hreaches.cases_tail with heq | ⟨before, -, htransition⟩
  · cases heq
  · cases htransition with
    | factoryFound hresolved hfactory => exact ⟨_, hresolved, rfl, hfactory⟩

/-- A factory that is invoked is admitted for the request that it is invoked on. -/
theorem Invokes.admits {registrations : List (String × ControllerFactory app)}
    (hregistrations : kernel.controllers = .ofRegistrations registrations)
    {identity : String} {factory : ControllerFactory app} {state : HandlingState app}
    (hinvokes : kernel.Invokes request scene identity factory state) :
    kernel.Admits registrations state.request identity factory := by
  obtain ⟨resolved, hresolved, rfl, hfactory⟩ := hinvokes.resolved
  obtain ⟨hactive, hdirectory, hidentity, -⟩ :=
    ControllerResolver.resolve_eq_ok_iff.mp hresolved
  have habsolute : IsAbsolute resolved.identity :=
    (ControllerResolver.isAbsolute_of_controllerIdentity hidentity).1
  rw [hregistrations, ControllerRegistry.get?_ofRegistrations_eq_some_iff habsolute] at hfactory
  exact ⟨hactive, hdirectory, hidentity, hfactory⟩

/-! ## The steps that tell of factories -/

/-- An arrow adds at most one step. It adds the step of a built controller only where it leaves
the factory of that controller. -/
theorem steps_of_transition {first second : Configuration app}
    (htransition : kernel.Transition first second) :
    ∃ added, second.steps = first.steps ++ added ∧
      ∀ identity, .built identity ∈ added →
        ∃ factory, first.position = .found identity factory := by
  cases htransition with
  | @factoryBuilds _ _ identity factory =>
    refine ⟨[.built identity], rfl, ?_⟩
    intro other hother
    obtain ⟨rfl⟩ := List.mem_singleton.mp hother
    exact ⟨factory, rfl⟩
  | callbackAnswers | callbackPasses | resolverFails | factoryMissing | factoryFound
  | outcomeAnswers =>
    -- nothing is recorded
    exact ⟨[], (List.append_nil _).symm, by simp⟩
  | _ =>
    -- an event, the router or a dispatch is recorded
    exact ⟨_, rfl, by simp⟩

/-- Steps that have been taken stay. -/
theorem steps_prefix_of_reflTransGen {first second : Configuration app}
    (hreaches : ReflTransGen kernel.Transition first second) : first.steps <+: second.steps := by
  induction hreaches with
  | refl => exact List.prefix_rfl
  | tail _ htransition ih =>
    obtain ⟨added, hsteps, -⟩ := steps_of_transition htransition
    rw [hsteps]
    exact ih.trans (List.prefix_append _ added)

/-- If a step tells of a built controller, its factory was invoked. -/
theorem Reaches.exists_invokes {reached : Configuration app} {identity : String}
    (hreaches : kernel.Reaches request scene reached) (hmem : .built identity ∈ reached.steps) :
    ∃ factory state, kernel.Invokes request scene identity factory state := by
  induction hreaches with
  | refl => cases hmem
  | @tail before after hbefore htransition ih =>
    obtain ⟨added, hsteps, hadded⟩ := steps_of_transition htransition
    rw [hsteps, List.mem_append] at hmem
    rcases hmem with hearlier | hnew
    · exact ih hearlier
    · obtain ⟨factory, hposition⟩ := hadded identity hnew
      refine ⟨factory, before.state, before.steps, ?_⟩
      rw [← hposition]
      exact hbefore

/-- The steps of a handling tell of a built controller if and only if its factory was invoked. -/
theorem built_mem_steps_iff {identity : String} :
    .built identity ∈ (kernel.handle request scene).steps ↔
      ∃ factory state, kernel.Invokes request scene identity factory state := by
  have hends := kernel.reaches_handle request scene
  constructor
  · intro hmem
    exact hends.exists_invokes hmem
  · -- the arrow that leaves the factory records the step, and it stays
    rintro ⟨factory, state, steps, hreaches⟩
    have hbuilds : kernel.Reaches request scene _ := hreaches.tail (.factoryBuilds rfl)
    have hrest := hbuilds.reaches_final ⟨_, rfl⟩ hends
    exact (steps_prefix_of_reflTransGen hrest).subset (by simp)

/-! ## The whitelist of modules -/

/-- The factories that are invoked are those that the steps tell of, and each of them is admitted
for the request that it is invoked on. Under the class pattern of the default settings, and with
active modules that have no percent sign and no colon, every controller of an active module has
an identity. It begins with the module and has no dot. -/
theorem invokes_only_admitted (kernel : Kernel app)
    {registrations : List (String × ControllerFactory app)}
    (hregistrations : kernel.controllers = .ofRegistrations registrations)
    (request : Request) (scene : Scene app) :
    (∀ identity, .built identity ∈ (kernel.handle request scene).steps ↔
      ∃ factory state, kernel.Invokes request scene identity factory state) ∧
    (∀ identity factory state, kernel.Invokes request scene identity factory state →
      kernel.Admits registrations state.request identity factory) ∧
    (kernel.resolver.classPattern = ({} : KernelSettings).controllerClasses →
      (∀ active ∈ kernel.resolver.modules, '%' ∉ active.toList ∧ ':' ∉ active.toList) →
      ∀ module controller, camelcase module ∈ kernel.resolver.modules →
        ∃ identity, kernel.resolver.controllerIdentity module controller = .ok identity ∧
          identity =
            "::" ++ camelcase module ++ "Module::" ++ camelcase controller ++ "Controller" ∧
          '.' ∉ identity.toList) := by
  refine ⟨fun identity => built_mem_steps_iff, ?_, ?_⟩
  · intro identity factory state hinvokes
    exact hinvokes.admits hregistrations
  · intro hpattern hmodules module controller hactive
    obtain ⟨hpercent, hcolon⟩ := hmodules _ hactive
    have hidentity := ControllerResolver.controllerIdentity_of_default hpattern hpercent hcolon
      controller
    have hdot := (ControllerResolver.isAbsolute_of_controllerIdentity hidentity).2
    exact ⟨_, hidentity, rfl, hdot⟩

/-- An application whose listeners and controllers are texts. -/
def texts : Application := ⟨String, String, Unit, Unit⟩

/-- Listeners that answer with their text: before dispatch, and before routing unless the URI is
a slash. -/
def textHooks : Hooks texts where
  onRoute text event :=
    return ⟨event.request, if event.request.uri = "/" then none else some (.text 200 text), none⟩
  onController text _ := return ⟨none, some (.text 200 text), none⟩
  onControllerResult _ _ := return {}
  onFilterResponse _ event := return ⟨event.response, none⟩

/-- The controllers of a blog. The second one is registered in place of the first. -/
def blogControllers : List (String × ControllerFactory texts) :=
  [("BlogModule::UserPostController", fun _ => return "drafts"),
    ("::BlogModule::UserPostController", fun _ => return "posts")]

/-- A blog, all of whose requests go to one controller. A controller answers with its text. -/
def blog : Kernel texts where
  router request :=
    return (.ok ⟨⟨"/", .literal ['/'] .done, false⟩, ∅, none⟩,
      { request with module := "blog", controller := "user-post" })
  resolver := ⟨["Blog"], "app/%module%", ({} : KernelSettings).controllerClasses⟩
  files := ⟨fun path => path == "app/blog", fun _ => false, fun _ => .error .notFound⟩
  controllers := .ofRegistrations blogControllers
  dispatch controller request := return (.ok (.response (.text 200 controller)), request)
  hooks := textHooks

/-- The blog invokes a factory, the one that is registered last for the identity. -/
theorem invokes_only_admitted_blog :
    ∃ factory state,
      blog.Invokes { uri := "/" } ⟨[], { memory := () }⟩ "::BlogModule::UserPostController"
        factory state ∧
      blog.Admits blogControllers state.request "::BlogModule::UserPostController" factory ∧
      ∃ identity, blog.resolver.controllerIdentity "blog" "100%.off" = .ok identity ∧
        identity = "::BlogModule::100%OffController" ∧ '.' ∉ identity.toList := by
  obtain ⟨hsteps, hadmits, hidentity⟩ :=
    blog.invokes_only_admitted rfl { uri := "/" } ⟨[], { memory := () }⟩
  have hbuilt : .built "::BlogModule::UserPostController" ∈
      (blog.handle { uri := "/" } ⟨[], { memory := () }⟩).steps := by
    decide +kernel
  obtain ⟨factory, state, hinvokes⟩ := (hsteps _).mp hbuilt
  refine ⟨factory, state, hinvokes, hadmits _ _ _ hinvokes, ?_⟩
  exact hidentity rfl (by decide) "blog" "100%.off" (by decide +kernel)

end RequestDispatch.Kernel
