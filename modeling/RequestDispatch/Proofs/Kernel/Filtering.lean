import RequestDispatch.Proofs.Except
import RequestDispatch.Proofs.Http.Response
import RequestDispatch.Proofs.Kernel.Admission
import RequestDispatch.Proofs.Kernel.Configured
import RequestDispatch.Proofs.Kernel.Scenes
import RequestDispatch.Proofs.Kernel.Stages
import RequestDispatch.Proofs.NameMap

/-!
# What a Configured Kernel Adds to Responses

Of the listeners of settings, one adds the identifier of the request to a response, and another one
the configured headers (`KernelSettings.foldl_filtered_listeners`). Each of these is added only if
it is missing, so a response keeps what it has (`Kernel.filter_of_configure`).
-/

namespace RequestDispatch

variable {app : Application}

namespace KernelSettings

variable (settings : KernelSettings)

/-- What the listeners of settings make of a response. -/
def filtered (request : Request) (response : Response) : Response :=
  (response.addMissingHeader requestIdHeader request.id.text).addMissingHeaders
    settings.responseHeaders.entries

/-- The listeners of settings add the identifier of the request, then the configured headers. -/
theorem foldl_filtered_listeners (request : Request) (response : Response) :
    (settings.listeners : List (ListenerKind app)).foldl (ListenerKind.filtered request) response =
      settings.filtered request response := by
  rw [listeners, List.foldl_append]
  split
  · next hempty =>
    have hnone : settings.responseHeaders.entries = [] := List.isEmpty_iff.mp hempty
    rw [filtered, hnone]
    rfl
  · rfl

/-- What listeners of settings add to a response: the identifier of the request, and those of the
configured headers that complete what is there with it. -/
theorem exists_filtered_eq (request : Request) (response : Response) :
    ∃ added,
      Headers.Completes (response.headers ++
        response.headers.missing (requestIdHeader, request.id.text))
        settings.responseHeaders.entries added ∧
      settings.filtered request response =
        { response with
          headers := response.headers ++
            response.headers.missing (requestIdHeader, request.id.text) ++ added } := by
  rw [filtered, Response.addMissingHeader_eq]
  exact Response.exists_completes { response with
    headers := response.headers ++ response.headers.missing (requestIdHeader, request.id.text) }
    settings.responseHeaders.nodup_entries

/-- A response that has been filtered is not changed by filtering it again, for whatever
request. -/
theorem filtered_filtered (again request : Request) (response : Response) :
    settings.filtered again (settings.filtered request response) =
      settings.filtered request response := by
  obtain ⟨added, hcompletes, hfiltered⟩ := settings.exists_filtered_eq request response
  -- there is a header of each name by now, whether it was added or there before
  have hid : (settings.filtered request response).headers.Has requestIdHeader := by
    rw [hfiltered]
    exact (Headers.has_append_missing response.headers _).append added
  have hconfigured : ∀ header ∈ settings.responseHeaders.entries,
      (settings.filtered request response).headers.Has header.1 := by
    intro header hmem
    rw [hfiltered]
    exact hcompletes.has_of_mem hmem
  rw [filtered, Response.addMissingHeader_of_has hid, Response.addMissingHeaders_of_has hconfigured]

/-- A configured kernel begins with the listeners of its settings. -/
theorem kinds_of_configure {memory : app.Memory} {files : FileSystem}
    {dispatch : app.Controller → Request → AppAction app (Except Failure Outcome × Request)}
    {hooks : Hooks app} {kernel : Kernel app} {start : Scene app}
    (hconfigured : (settings.configure memory files dispatch hooks).value = .ok (kernel, start)) :
    start.kinds = settings.listeners := by
  rw [configure, Logged.value_bind] at hconfigured
  split at hconfigured
  · cases hconfigured
  · cases hconfigured
    exact settings.kinds_scene memory

end KernelSettings

namespace Kernel

variable {kernel : Kernel app} {settings : KernelSettings}

/-- The listeners of settings do not fail to filter a response. -/
theorem exists_onFilterResponse_eq (kernel : Kernel app) {state : HandlingState app}
    (hkinds : state.scene.kinds = settings.listeners) (response : Response) :
    ∃ lastScene heard, kernel.onFilterResponse state response =
      ⟨none, ⟨state.request, settings.filtered state.request response⟩, lastScene, heard⟩ := by
  obtain ⟨lastScene, hpasses, -⟩ := passes_filter_of_isBuiltIn kernel.hooks 0
    (KernelSettings.isBuiltIn_of_kinds_eq hkinds) { request := state.request, response } state.scene
  rw [hkinds, settings.foldl_filtered_listeners, ← hkinds] at hpasses
  have hfired := (Delivery.fire_eq_iff_passes (stopped_filterDelivery kernel.hooks)).mpr
    ⟨hpasses, rfl⟩
  exact ⟨lastScene, _, hfired⟩

/-- With the listeners of settings, handling a request results in the response that a source
produces, with what the listeners add to it. -/
theorem result_handle_of_produces {request : Request} {scene : Scene app} {source : Source}
    {answer : Response} {state : HandlingState app}
    (hproduces : kernel.Produces request scene source answer state)
    (hkinds : scene.kinds = settings.listeners) (hkeeps : kernel.KeepsListeners request scene) :
    (kernel.handle request scene).result = .ok (settings.filtered state.request answer) := by
  obtain ⟨steps, hreaches⟩ := hproduces
  have hlisteners : state.scene.kinds = settings.listeners :=
    (hreaches.kinds_eq hkeeps).trans hkinds
  obtain ⟨lastScene, heard, hfired⟩ := kernel.exists_onFilterResponse_eq hlisteners answer
  rw [handle_of_produces ⟨steps, hreaches⟩, hfired]

/-- A configured kernel, with whatever controllers, only adds to a response if no listeners are
registered besides its own. What results has the status and the body of the response that a source
has produced, and after the headers of that one, the identifier of the request if there was no
header of that name, and those of the configured headers, in the order of their names, of whose name
there is no header before them. Firing the event of the response once more, for whatever request,
changes nothing. Whenever a source produces a response, there is a result. -/
theorem filter_of_configure (settings : KernelSettings) {memory : app.Memory} {files : FileSystem}
    {dispatch : app.Controller → Request → AppAction app (Except Failure Outcome × Request)}
    {hooks : Hooks app} {kernel : Kernel app} {start : Scene app}
    (hconfigured : (settings.configure memory files dispatch hooks).value = .ok (kernel, start))
    (controllers : ControllerRegistry (ControllerFactory app)) {request : Request}
    {scene : Scene app} (hkinds : scene.kinds = start.kinds)
    (hkeeps : KeepsListeners { kernel with controllers } request scene) :
    (∀ response, (handle { kernel with controllers } request scene).result = .ok response →
      ∃ source answer state added,
        Produces { kernel with controllers } request scene source answer state ∧
        state.request = (handle { kernel with controllers } request scene).state.request ∧
        Headers.Completes (answer.headers ++
          answer.headers.missing (requestIdHeader, state.request.id.text))
          settings.responseHeaders.entries added ∧
        added.Pairwise (·.1 < ·.1) ∧
        response =
          { answer with
            headers := answer.headers ++
              answer.headers.missing (requestIdHeader, state.request.id.text) ++ added } ∧
        ∀ again : HandlingState app, again.scene.kinds = start.kinds →
          (onFilterResponse { kernel with controllers } again response).failure = none ∧
          (onFilterResponse { kernel with controllers } again response).event.response =
            response) ∧
    ∀ source answer state, Produces { kernel with controllers } request scene source answer state →
      ∃ response, (handle { kernel with controllers } request scene).result = .ok response := by
  rw [settings.kinds_of_configure hconfigured] at hkinds ⊢
  refine ⟨?_, ?_⟩
  · intro response hresult
    -- a result that is a response comes of filtering one that a source has produced
    obtain ⟨source, answer, state, _, _, hproduces, -⟩ := result_handle_eq_ok_iff.mp hresult
    obtain ⟨added, hcompletes, hfiltered⟩ := settings.exists_filtered_eq state.request answer
    have hresponse : response = settings.filtered state.request answer := by
      rw [result_handle_of_produces hproduces hkinds hkeeps] at hresult
      exact (Except.ok.inj hresult).symm
    refine ⟨source, answer, state, added, hproduces, ?_, hcompletes,
      settings.responseHeaders.sorted.sublist hcompletes.sublist, hresponse.trans hfiltered, ?_⟩
    · rw [state_handle_of_produces hproduces]
    · intro again hagain
      obtain ⟨lastScene, heard, hfired⟩ :=
        exists_onFilterResponse_eq { kernel with controllers } hagain response
      rw [hfired, hresponse, settings.filtered_filtered]
      exact ⟨rfl, rfl⟩
  · intro source answer state hproduces
    exact ⟨_, result_handle_of_produces hproduces hkinds hkeeps⟩

/-- The settings of a blog with headers for its responses. Some of their names differ only in the
case of letters, and one is that of the identifier. -/
def labeledBlog : KernelSettings where
  modules := ["Blog"]
  controllerDirectories := "app/%module%"
  responseHeaders := .ofList
    [("Server", "blog"), ("X-Frame-Options", "deny"), ("X-Request-Id", "none"),
      ("set-cookie", "c=3"), ("x-frame-options", "allow")]

/-- A controller of that blog sets a header twice. -/
def cookieDispatch (controller : String) (request : Request) :
    AppAction texts (Except Failure Outcome × Request) :=
  let response : Response := ⟨200, [("Set-Cookie", "a=1"), ("SET-COOKIE", "b=2")], controller⟩
  return (.ok (.response response), request)

/-- The headers that the controller sets stay as they are, and of the configured ones, two are
missing. -/
theorem filter_of_configure_blog :
    ∃ kernel start source answer state added,
      (labeledBlog.configure () blog.files cookieDispatch textHooks).value = .ok (kernel, start) ∧
      Produces { kernel with controllers := blog.controllers } { uri := "/blog/user-post/index" }
        start source answer state ∧
      answer.headers ++ answer.headers.missing (requestIdHeader, state.request.id.text) ++ added =
        [("Set-Cookie", "a=1"), ("SET-COOKIE", "b=2"), ("x-request-id", "<generated>"),
          ("Server", "blog"), ("X-Frame-Options", "deny")] := by
  have hhandled : ((labeledBlog.configure () blog.files cookieDispatch textHooks).value.map
      fun (kernel, start) =>
        let handled := handle { kernel with controllers := blog.controllers }
          { uri := "/blog/user-post/index" } start
        (handled.result, handled.state.scene.kinds.length, start.kinds.length)) =
      .ok (.ok ⟨200, [("Set-Cookie", "a=1"), ("SET-COOKIE", "b=2"), ("x-request-id", "<generated>"),
        ("Server", "blog"), ("X-Frame-Options", "deny")], "posts"⟩, 5, 5) := by
    decide +kernel
  obtain ⟨⟨kernel, start⟩, hconfigured, hhandled⟩ := Except.map_eq_ok_iff.mp hhandled
  simp only [Prod.mk.injEq] at hhandled
  obtain ⟨hresult, hlater, hbefore⟩ := hhandled
  have hkeeps := keepsListeners_of_length_le (hlater.trans hbefore.symm).le
  obtain ⟨hfilter, -⟩ :=
    filter_of_configure labeledBlog hconfigured blog.controllers rfl hkeeps
  obtain ⟨source, answer, state, added, hproduces, -, -, -, hresponse, -⟩ := hfilter _ hresult
  exact ⟨kernel, start, source, answer, state, added, hconfigured, hproduces,
    (congrArg Response.headers hresponse).symm⟩

end Kernel

end RequestDispatch
