import RequestDispatch.Proofs.Controller.Naming

/-!
# Laws of Resolving Controllers

A module and a controller are resolved if and only if the module is active, the controller's
directory exists and the class pattern gives an identity (`resolve_eq_ok_iff`). The identity is
absolute and has no dot. Under the class pattern of the default settings there is always one
(`controllerIdentity_of_default`).
-/

namespace RequestDispatch.ControllerResolver

variable {resolver : ControllerResolver} {module controller identity : String}

/-- The directory of a controller is given if its module is active and the directory exists. -/
theorem controllerPath_eq_ok_iff {files : FileSystem} {path : String} :
    (resolver.controllerPath files module controller).value = .ok path ↔
      camelcase module ∈ resolver.modules ∧
        files.isDirectory (resolver.directory module controller) = true ∧
        resolver.directory module controller = path := by
  by_cases hactive : camelcase module ∈ resolver.modules
  · by_cases hdirectory : files.isDirectory (resolver.directory module controller) = true
    · simp [controllerPath, hactive, hdirectory]
    · simp [controllerPath, hactive, hdirectory]
  · simp [controllerPath, hactive]

/-- A module and a controller are resolved if the directory is given and the class pattern gives
an identity. -/
theorem resolve_eq_ok_iff {files : FileSystem} {resolved : ResolvedController} :
    (resolver.resolve files module controller).value = .ok resolved ↔
      camelcase module ∈ resolver.modules ∧
        files.isDirectory (resolver.directory module controller) = true ∧
        resolver.controllerIdentity module controller = .ok resolved.identity ∧
        resolved.path = resolver.directory module controller := by
  obtain ⟨identity, path⟩ := resolved
  constructor
  · intro hresolved
    rcases hpath : (resolver.controllerPath files module controller).value with error | found
    · simp [resolve, hpath] at hresolved
    · obtain ⟨hactive, hdirectory, rfl⟩ := controllerPath_eq_ok_iff.mp hpath
      rcases hidentity : resolver.controllerIdentity module controller with error | given
      · simp [resolve, hpath, hidentity] at hresolved
      · obtain ⟨rfl, rfl⟩ : given = identity ∧ resolver.directory module controller = path := by
          simpa [resolve, hpath, hidentity] using hresolved
        exact ⟨hactive, hdirectory, rfl, rfl⟩
  · rintro ⟨hactive, hdirectory, hidentity, rfl⟩
    have hpath := controllerPath_eq_ok_iff.mpr ⟨hactive, hdirectory, rfl⟩
    simp [resolve, hpath, hidentity]

/-- An identity is absolute and has no dot. -/
theorem isAbsolute_of_controllerIdentity
    (h : resolver.controllerIdentity module controller = .ok identity) :
    IsAbsolute identity ∧ '.' ∉ identity.toList := by
  rw [controllerIdentity] at h
  split at h
  · cases h
  · split at h
    · cases h
    · rename_i hdot
      rw [← Except.ok.inj h]
      exact ⟨isAbsolute_absoluteIdentity _, by simpa using hdot⟩

/-- Under the class pattern of the default settings, every controller of a module in whose camel
case there is no percent sign and no colon has an identity. -/
theorem controllerIdentity_of_default
    (hpattern : resolver.classPattern = ({} : KernelSettings).controllerClasses)
    (hpercent : '%' ∉ (camelcase module).toList) (hcolon : ':' ∉ (camelcase module).toList)
    (controller : String) :
    resolver.controllerIdentity module controller =
      .ok ("::" ++ camelcase module ++ "Module::" ++ camelcase controller ++ "Controller") := by
  have hrelative : ¬ IsAbsolute
      (camelcase module ++ "Module::" ++ camelcase controller ++ "Controller") := by
    rw [IsAbsolute, String.toList_append, String.toList_append, String.toList_append]
    intro hprefix
    -- the first character is the module's, or that of the word after it
    rcases hmodule : (camelcase module).toList with _ | ⟨first, rest⟩
    · rw [hmodule] at hprefix
      simp [identitySeparator] at hprefix
    · rw [hmodule] at hprefix hcolon
      simp [identitySeparator] at hprefix hcolon
      exact hcolon.1 hprefix.1
  have hidentity : absoluteIdentity (substitute resolver.classPattern
      [("module", module), ("controller", controller)]) =
        "::" ++ camelcase module ++ "Module::" ++ camelcase controller ++ "Controller" := by
    rw [hpattern, substitute_controllerClasses hpercent,
      absoluteIdentity_of_not_isAbsolute hrelative, identitySeparator]
    simp only [String.append_assoc]
  rw [controllerIdentity, hidentity]
  rw [if_neg, if_neg]
  · -- neither the names nor the words around them have a dot
    have hmodule := dot_not_mem_camelcase module
    have hcontroller := dot_not_mem_camelcase controller
    simp [hmodule, hcontroller]
  · -- the words around the names make the identity longer than a separator
    intro heq
    have hlength := congrArg (fun text => text.toList.length) heq
    simp [identitySeparator] at hlength

end RequestDispatch.ControllerResolver
