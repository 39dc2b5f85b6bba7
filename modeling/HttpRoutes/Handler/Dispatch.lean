import HttpRoutes.Event
import HttpRoutes.Handler.Controller

/-!
# Dispatching

A `Dispatcher` hands invocations to handlers: it looks up controllers in its registry and knows the
method to call when a reference names none.
-/

namespace HttpRoutes

/-- Looks up controllers and calls their methods. -/
structure Dispatcher where
  registry : ControllerRegistry
  defaultMethod : String

/-- Why a handler cannot be called. -/
inductive DispatchError
  | unknownController (identifier : String)
  | unknownMethod (identifier method : String)
deriving DecidableEq, Repr

/-- The error in words. -/
def DispatchError.message : DispatchError → String
  | unknownController identifier => s!"unknown controller `{identifier}`"
  | unknownMethod identifier method => s!"controller `{identifier}` has no method `{method}`"

namespace Dispatcher

/-- The method that is called for a reference. -/
def methodFor (d : Dispatcher) (r : ControllerRef) : String := r.method.getD d.defaultMethod

/-- The answer of a handler. -/
def dispatch (d : Dispatcher) : Handler → Invocation → Except DispatchError Http.Response
  | .function run, i => .ok (run i)
  | .controller r, i =>
    match d.registry.find? r.identifier with
    | none => .error (.unknownController r.identifier)
    | some c =>
      match c.invoke (d.methodFor r) i with
      | none => .error (.unknownMethod r.identifier (d.methodFor r))
      | some answer => .ok answer

/-- What is reported when a handler is called: the method, as soon as the controller is known. -/
def dispatchEvents (d : Dispatcher) : Handler → Invocation → List Event
  | .function _, _ => []
  | .controller r, i =>
    if d.registry.contains r.identifier then
      [⟨.trace, "Dispatching to controller",
        [("request_id", i.requestId), ("controller", r.identifier), ("method", d.methodFor r)]⟩]
    else []

/-- The dispatcher in words. -/
def describe (d : Dispatcher) : String :=
  s!"Dispatcher \x7b default_method: {Text.showQuoted d.defaultMethod}, .. \x7d"

end Dispatcher

end HttpRoutes
