import HttpRoutes.Http.Header
import HttpRoutes.Params
import HttpRoutes.Verb

/-!
# Invocations

What a handler is given: the request as far as it concerns handlers, and the parameters of the route
that led to the handler.
-/

namespace HttpRoutes

/-- A request on its way to a handler. -/
structure Invocation where
  verb : Verb
  path : String
  params : Params
  headers : Http.Headers
  body : ByteArray
  requestId : String

end HttpRoutes
