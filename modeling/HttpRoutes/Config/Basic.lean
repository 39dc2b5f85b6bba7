/-!
# Configurations

What a server is started with and what a reload replaces. Every setting has a default; a
configuration that says nothing is `Config.default`.
-/

namespace HttpRoutes

/-- Where and how long the server listens. -/
structure ListenerSettings where
  bindAddress : String
  /-- How many seconds a request may take. -/
  requestTimeout : Nat
deriving DecidableEq, Repr

/-- How references to controllers are read. -/
structure DispatchSettings where
  /-- What stands between a controller and its method. -/
  separator : Char
  /-- The method that is called when a reference names none. -/
  defaultMethod : String
deriving DecidableEq, Repr

/-- A route as it is declared, with verbs and handler in words. -/
structure RouteDeclaration where
  methods : List String
  pattern : String
  handler : String
deriving DecidableEq, Repr

/-- Everything that can be configured. -/
structure Config where
  /-- Whether answers tell what went wrong. -/
  debug : Bool
  listener : ListenerSettings
  dispatch : DispatchSettings
  /-- Which events are logged. -/
  logFilter : String
  routes : List RouteDeclaration
deriving DecidableEq, Repr

/-- The configuration that says nothing. -/
def Config.default : Config where
  debug := false
  listener := ⟨"0.0.0.0:8080", 30⟩
  dispatch := ⟨'@', "run"⟩
  logFilter := "restful_router=info,tower_http=info"
  routes := []

end HttpRoutes
