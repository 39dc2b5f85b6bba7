import HttpRoutes.Config.Basic
import HttpRoutes.Handler.Dispatch
import HttpRoutes.Route.Router

/-!
# Applications

An `Application` joins a configuration, a router with the configured routes, the routes that were
added afterwards, and controllers. `Application.rebuild` makes a router for another configuration:
the configured routes come first and the added ones after them, so that a rebuild gives the same
order as the registrations did.
-/

namespace HttpRoutes

/-- Why an application cannot be built or a route cannot be added. -/
inductive AppError
  /-- A route that was added does not work. -/
  | route (pattern : String) (error : RouteError)
  /-- The handler of a route cannot be read. -/
  | handler (pattern : String) (error : HandlerError)
  /-- The routes of a configuration do not work. -/
  | routes (error : RouteError)
  /-- A configured route names something that is no verb. -/
  | verb (pattern token : String)
deriving DecidableEq, Repr

/-- The error in words. -/
def AppError.message : AppError → String
  | route pattern error => s!"route `{pattern}`: {error.message}"
  | handler pattern error => s!"route `{pattern}`: {error.message}"
  | routes error => s!"route table: {error.message}"
  | verb pattern token => s!"route `{pattern}`: {Verb.unknownMessage token}"

/-- The route that a declaration stands for. The verbs are read first. -/
def RouteDeclaration.toRoute (separator : Char) (d : RouteDeclaration) :
    Except AppError (Route Handler) :=
  match Verb.readAll d.methods with
  | .error token => .error (.verb d.pattern token)
  | .ok verbs =>
    match Handler.parse d.handler separator with
    | .error e => .error (.handler d.pattern e)
    | .ok handler => .ok ⟨verbs, d.pattern, handler⟩

/-- The routes that a configuration declares, in order. -/
def Config.declaredRoutes (c : Config) : Except AppError (List (Route Handler)) :=
  c.routes.mapM (RouteDeclaration.toRoute c.dispatch.separator)

/-- A handler as it is given when a route is added: in words or as itself. -/
inductive HandlerSource
  | reference (text : String)
  | ready (handler : Handler)

/-- The handler that is meant. -/
def HandlerSource.read (separator : Char) : HandlerSource → Except HandlerError Handler
  | .reference text => Handler.parse text separator
  | .ready handler => .ok handler

/-- A router with its configuration, the routes added to it, and controllers. -/
structure Application where
  config : Config
  router : Router Handler
  /-- The routes added, in order. -/
  added : List (Route Handler)
  registry : ControllerRegistry

/-- What adding a route came to: the application afterwards, why the route was refused if it was,
and what is reported. -/
structure Addition where
  application : Application
  failure : Option AppError
  events : List Event

namespace Application

/-- The application of a configuration. -/
def new [Engine] (config : Config) : Reported (Except AppError Application) :=
  match config.declaredRoutes with
  | .error e => .quiet (.error e)
  | .ok routes =>
    let registration := Router.empty.register routes
    match registration.failure with
    | some e => ⟨.error (.routes e), registration.events⟩
    | none =>
      let event : Event :=
        ⟨.info, "Config routes registered", [("routes", toString config.routes.length)]⟩
      ⟨.ok ⟨config, registration.router, [], .builtin⟩, registration.events ++ [event]⟩

/-- Make a controller available. -/
def registerController (a : Application) (identifier : String) (c : Controller) : Application :=
  { a with registry := a.registry.register identifier c }

/-- Add a route: read its handler, register it, and keep it for rebuilds. -/
def add [Engine] (a : Application) (verbs : List Verb) (pattern : String)
    (handler : HandlerSource) : Addition :=
  match handler.read a.config.dispatch.separator with
  | .error e => ⟨a, some (.handler pattern e), []⟩
  | .ok handler =>
    let route : Route Handler := ⟨verbs, pattern, handler⟩
    let registration := a.router.register [route]
    let a := { a with router := registration.router }
    match registration.failure with
    | some e => ⟨a, some (.route pattern e), registration.events⟩
    | none => ⟨{ a with added := a.added ++ [route] }, none, registration.events⟩

/-- The application with a route added, or the reason why it cannot be added. -/
def addRoute [Engine] (a : Application) (verbs : List Verb) (pattern : String)
    (handler : HandlerSource) : Reported (Except AppError Application) :=
  let addition := a.add verbs pattern handler
  match addition.failure with
  | some e => ⟨.error e, addition.events⟩
  | none => ⟨.ok addition.application, addition.events⟩

/-- The route that a path leads to under a verb. -/
def resolve (a : Application) (v : Verb) (path : String) :
    Except RouteError (Option (RouteMatch Handler)) :=
  a.router.resolve v path

/-- The dispatcher for the controllers of the application and the settings of a configuration. -/
def dispatcherFor (a : Application) (config : Config) : Dispatcher :=
  ⟨a.registry, config.dispatch.defaultMethod⟩

/-- The dispatcher for the application's own configuration. -/
def dispatcher (a : Application) : Dispatcher := a.dispatcherFor a.config

/-- A new router with the routes of a configuration and the added routes. -/
def rebuild [Engine] (a : Application) (config : Config) :
    Reported (Except AppError (Router Handler)) :=
  match config.declaredRoutes with
  | .error e => .quiet (.error e)
  | .ok routes =>
    let registration := Router.empty.register (routes ++ a.added)
    match registration.failure with
    | some e => ⟨.error (.routes e), registration.events⟩
    | none => ⟨.ok registration.router, registration.events⟩

/-- The application in words. -/
def describe (a : Application) : String :=
  s!"RestApplication \x7b router: {a.router.describe}, registrations: {a.added.length}, " ++
    s!"registry: {a.registry.describe} \x7d"

end Application

end HttpRoutes
