import HttpRoutes.Handler.Basic
import HttpRoutes.Text.ByName
import HttpRoutes.Text.Json

/-!
# Controllers

A controller answers requests by methods with names. A `ControllerRegistry` knows controllers by
their identifiers; registering an identifier again replaces its controller. The controller `echo`,
which tells how a request was routed, is always at hand.
-/

namespace HttpRoutes

open HttpRoutes.Text

/-- Something with named methods. -/
structure Controller where
  /-- Call a method; there is no answer if the controller has no such method. -/
  invoke : String → Invocation → Option Http.Response

/-! ## The echo controller -/

/-- The methods of the echo controller. They all do the same. -/
def echoMethods : List String := ["run", "index", "show"]

/-- What the echo controller tells of a request. Fields are sorted by name, also those of the
parameters. -/
def echoReply (method : String) (i : Invocation) : Json :=
  .sorted [("verb", .text i.verb.token), ("path", .text i.path), ("method", .text method),
    ("params", .sorted (i.params.pairs.map fun p => (p.1, .text p.2)))]

/-- The controller that tells how a request was routed. -/
def echo : Controller where
  invoke method i :=
    if echoMethods.contains method then some (.json (echoReply method i).render) else none

/-! ## The registry -/

/-- Controllers by their identifiers, sorted. -/
structure ControllerRegistry where
  entries : List (String × Controller)

namespace ControllerRegistry

/-- The registry without controllers. -/
def empty : ControllerRegistry := ⟨[]⟩

/-- Register a controller, in place of one with the same identifier. -/
def register (r : ControllerRegistry) (identifier : String) (c : Controller) : ControllerRegistry :=
  ⟨insertByName identifier c r.entries⟩

/-- The registry with the echo controller. -/
def builtin : ControllerRegistry := empty.register "echo" echo

/-- The controller of an identifier. -/
def find? (r : ControllerRegistry) (identifier : String) : Option Controller :=
  findByName? r.entries identifier

/-- Whether an identifier is registered. -/
def contains (r : ControllerRegistry) (identifier : String) : Bool := (r.find? identifier).isSome

/-- The identifiers in ascending order. -/
def identifiers (r : ControllerRegistry) : List String := r.entries.map (·.1)

/-- The registry in words. -/
def describe (r : ControllerRegistry) : String :=
  let listed := ", ".intercalate (r.identifiers.map showQuoted)
  s!"ControllerRegistry \x7b identifiers: [{listed}] \x7d"

end ControllerRegistry

end HttpRoutes
