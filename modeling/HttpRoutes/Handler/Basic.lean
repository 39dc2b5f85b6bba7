import HttpRoutes.Handler.Invocation
import HttpRoutes.Handler.Reference
import HttpRoutes.Http.Response

/-!
# Handlers

What answers the requests of a route: a function, or a controller that is referred to by name.
-/

namespace HttpRoutes

/-- What answers the requests of a route. -/
inductive Handler
  | function (run : Invocation → Http.Response)
  | controller (ref : ControllerRef)

namespace Handler

/-- Read a reference to a controller. -/
def parse (text : String) (separator : Char) : Except HandlerError Handler :=
  (ControllerRef.parse text separator).map .controller

/-- Whether the handler is a function. -/
def isFunction : Handler → Bool
  | function _ => true
  | controller _ => false

/-- The handler as it is written. A function has no text of its own. -/
def text : Handler → String
  | function _ => "<fn>"
  | controller r => r.text

/-- The handler with its parts told apart. -/
def describe : Handler → String
  | function _ => "Invocable(..)"
  | controller r => r.describe

end Handler

end HttpRoutes
