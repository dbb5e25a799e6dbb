import RequestDispatch.Controller.Error
import RequestDispatch.Event.Basic
import RequestDispatch.Route.Error

/-!
# Kernel Errors

Why a request got no response. Controllers and listeners fail for reasons of their own, which
are passed on; routing and configuration errors are passed on as they are.
-/

namespace RequestDispatch

/-- Why a request got no response. -/
inductive KernelError where
  /-- It could not be routed. -/
  | route (error : RouteError)
  /-- Nothing serves what it was routed to. -/
  | configuration (error : ConfigurationError)
  /-- The outcome of its controller, whose kind is `found`, was not turned into a response. -/
  | integrity (found : String)
  /-- Its controller failed. -/
  | controller (identity : String) (source : Failure)
  /-- A listener failed. -/
  | listener (event : EventName) (source : Failure)
deriving DecidableEq, Repr

namespace KernelError

/-- What went wrong, in words. -/
def message : KernelError → String
  | route error => error.message
  | configuration error => error.message
  | integrity found => s!"Response type is not valid! You gave: {found}"
  | controller identity source => s!"controller '{identity}' failed: {source.message}"
  | listener event source => s!"listener failed during {event.text}: {source.message}"

/-- The status code to answer with. -/
def status : KernelError → Nat
  | route (.notFound _) => 404
  | _ => 500

end KernelError

end RequestDispatch
