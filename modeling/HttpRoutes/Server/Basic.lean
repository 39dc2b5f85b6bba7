import HttpRoutes.Application
import HttpRoutes.Server.Answer

/-!
# Servers

A `Server` answers requests from one state, all of which comes from the same configuration. A reload
replaces that state as a whole, or leaves it alone if the new configuration does not work.
Controllers and added routes are those of the application that the server was made for.
-/

namespace HttpRoutes

open HttpRoutes.Http

/-! ## What surrounds an answer -/

/-- The headers of a request that is sure to have an identifier. -/
def withRequestId (freshId : String) (h : Headers) : Headers :=
  match h.get? requestIdHeader with
  | some _ => h
  | none => h.add requestIdHeader freshId

/-- An answer as it is sent: with the length of its body, and without the body if only the head was
asked for. -/
def Http.Response.sized (method : String) (r : Response) : Response :=
  let headers :=
    if (r.headers.get? "content-length").isSome then r.headers
    else r.headers.add "content-length" (toString r.body.utf8ByteSize)
  ⟨r.status, headers, if method = "HEAD" then "" else r.body⟩

/-- An answer that carries the identifier of its request. -/
def Http.Response.identified (id : String) (r : Response) : Response :=
  match r.headers.get? requestIdHeader with
  | some _ => r
  | none => { r with headers := r.headers.add requestIdHeader id }

/-! ## Serving -/

/-- An application at work. -/
structure Server where
  app : Application
  live : LiveState

namespace Server

/-- The server for an application. -/
def new (app : Application) : Server := ⟨app, ⟨app.router, app.dispatcher, app.config.debug⟩⟩

/-- The answer to a request as it is sent. A request without an identifier gets a fresh one. A
target that is no path is not looked up. -/
def serve (s : Server) (freshId : String) (request : Request) : Reported Response :=
  let request := { request with headers := withRequestId freshId request.headers }
  let answered :=
    if request.path.toList.head? = some '/' then s.live.answer request else .quiet .notFound
  let id := (request.headers.get? requestIdHeader).getD freshId
  answered.map fun r => (r.sized request.method).identified id

/-- What is reported about settings that a reload cannot change. -/
def settingsEvents (s : Server) (config : Config) : List Event :=
  let atStart := s.app.config
  let listener : List Event :=
    if config.listener = atStart.listener then []
    else [⟨.warn, "Server settings changed, restart to apply them",
      [("bind_address", config.listener.bindAddress),
        ("request_timeout_secs", toString config.listener.requestTimeout)]⟩]
  let log : List Event :=
    if config.logFilter = atStart.logFilter then []
    else [⟨.warn, "Log filter changed, restart to apply it", [("log_filter", config.logFilter)]⟩]
  listener ++ log

/-- Serve from another configuration, if it works. -/
def reload [Engine] (s : Server) (config : Config) : Reported (Except AppError Server) :=
  (s.app.rebuild config).andThen fun
    | .error e => .quiet (.error e)
    | .ok router =>
      let reloaded : Event := ⟨.info, "Routes reloaded",
        [("routes", toString config.routes.length), ("debug", toString config.debug),
          ("default_method", config.dispatch.defaultMethod),
          ("separator", config.dispatch.separator.toString)]⟩
      ⟨.ok { s with live := ⟨router, s.app.dispatcherFor config, config.debug⟩ },
        s.settingsEvents config ++ [reloaded]⟩

/-- Take a configuration from the queue of updates. One that does not work is reported and
forgotten. -/
def update [Engine] (s : Server) (config : Config) : Reported Server :=
  (s.reload config).andThen fun
    | .ok s => .quiet s
    | .error e =>
      ⟨s, [⟨.error, "Rejected route reload, keeping current routes", [("error", e.message)]⟩]⟩

end Server

end HttpRoutes
