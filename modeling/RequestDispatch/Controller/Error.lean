/-!
# Configuration Errors

Mistakes of configuration that show when a routed request is to be served: the request was
routed, but nothing can serve the identity it was routed to.
-/

namespace RequestDispatch

/-- A mistake of configuration. -/
inductive ConfigurationError where
  /-- The module is not active. -/
  | unknownModule (module : String)
  /-- The controller's directory does not exist. -/
  | controllerPathNotFound (module controller path : String)
  /-- The identity is empty or has a dot. -/
  | invalidIdentity (identity reason : String)
  /-- No controller is registered under the identity. -/
  | controllerNotRegistered (identity : String)
deriving DecidableEq, Repr

/-- What is wrong, in words. -/
def ConfigurationError.message : ConfigurationError → String
  | unknownModule module => s!"Module '{module}' is not defined!"
  | controllerPathNotFound module controller path =>
    s!"Controller path for module '{module}' and controller '{controller}' is not defined! "
      ++ s!"Expected to be: {path}"
  | invalidIdentity identity reason => s!"invalid controller identity '{identity}': {reason}"
  | controllerNotRegistered identity => s!"no controller registered for '{identity}'"

end RequestDispatch
