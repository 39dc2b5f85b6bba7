import HttpRoutes.Http.Header

/-!
# Responses

A response has a status, headers and a body. The answers that the server makes by itself are plain
texts: 404 for a path without a route, 405 for a method that is no verb, 500 for everything that
went wrong. What went wrong is told only on demand.
-/

namespace HttpRoutes.Http

/-- An answer to a request. -/
structure Response where
  status : Nat
  headers : Headers
  body : String
deriving DecidableEq, Repr

namespace Response

/-- A plain text. -/
def plain (status : Nat) (body : String) : Response :=
  ⟨status, [("content-type", "text/plain; charset=utf-8")], body⟩

/-- A JSON text. -/
def json (body : String) : Response := ⟨200, [("content-type", "application/json")], body⟩

/-- The answer for a path that no route matches. -/
def routeNotFound (path : String) : Response := plain 404 s!"The REST route: {path} not found"

/-- The answer for a method that is no verb. -/
def methodNotSupported (method : String) : Response :=
  plain 405 s!"The request method {method} is not supported"

/-- The answer when something went wrong. The reason is told only if `debug` is on. -/
def internalError (reason : String) (debug : Bool) : Response :=
  plain 500 (if debug then reason else "The server encountered an internal error")

/-- The answer for a target that is no path. -/
def notFound : Response := ⟨404, [], ""⟩

end Response

end HttpRoutes.Http
