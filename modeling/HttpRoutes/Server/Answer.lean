import HttpRoutes.Handler.Dispatch
import HttpRoutes.Http.Request
import HttpRoutes.Route.Router

/-!
# Answering requests

A `LiveState` is everything that requests are answered from: a router, a dispatcher and a debug
flag. The verb is looked at first, then the path, then the length of the body, and at last the
handler is called.
-/

namespace HttpRoutes

open HttpRoutes.Http

/-- What requests are answered from. -/
structure LiveState where
  router : Router Handler
  dispatcher : Dispatcher
  /-- Whether answers tell what went wrong. -/
  debug : Bool

namespace LiveState

/-- The longest body, in bytes, that is handed to a handler. -/
def bodyLimit : Nat := 2 <<< 20

/-- What is said of a body that is too long. -/
def bodyLimitMessage : String := "length limit exceeded"

/-- The answer for a request whose route has been found. -/
def answerMatched (live : LiveState) (request : Request) (verb : Verb) (m : RouteMatch Handler) :
    Reported Response :=
  let id := requestId request.headers
  let found : Event := ⟨.debug, "Route matched",
    [("request_id", id), ("verb", verb.token), ("path", request.path), ("pattern", m.pattern),
      ("registration_index", toString m.index), ("handler", m.handler.text)]⟩
  if bodyLimit < request.body.size then
    ⟨.internalError bodyLimitMessage live.debug,
      [found, ⟨.warn, "Failed to read request body",
        [("request_id", id), ("error", bodyLimitMessage)]⟩]⟩
  else
    let invocation : Invocation := ⟨verb, request.path, m.params, request.headers, request.body, id⟩
    let called := live.dispatcher.dispatchEvents m.handler invocation
    match live.dispatcher.dispatch m.handler invocation with
    | .ok answer => ⟨answer, found :: called⟩
    | .error e =>
      ⟨.internalError e.message live.debug, found :: called ++
        [⟨.error, "Dispatch failed", [("request_id", id), ("error", e.message)]⟩]⟩

/-- The answer to a request: by the verb, by the route, by the handler. -/
def answer (live : LiveState) (request : Request) : Reported Response :=
  let id := requestId request.headers
  match Verb.ofToken? request.method with
  | none =>
    ⟨.methodNotSupported request.method,
      [⟨.warn, "Unsupported method", [("request_id", id), ("method", request.method)]⟩]⟩
  | some verb =>
    match live.router.resolve verb request.path with
    | .error e =>
      ⟨.internalError e.message live.debug, [⟨.error, "Route resolution failed",
        [("request_id", id), ("path", request.path), ("error", e.message)]⟩]⟩
    | .ok none =>
      ⟨.routeNotFound request.path, [⟨.warn, "No route matched",
        [("request_id", id), ("verb", verb.token), ("path", request.path)]⟩]⟩
    | .ok (some m) => live.answerMatched request verb m

end LiveState

end HttpRoutes
