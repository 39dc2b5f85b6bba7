import HttpRoutes.Proofs.Answers
import HttpRoutes.Proofs.Rebuild
import HttpRoutes.Server.Basic

/-!
# Servers that are reloaded

A server at work is reloaded directly or by configurations that wait in its queue, and in between it
answers requests. One reload replaces the whole state or nothing of it, and what it makes depends on
the new configuration and on the application alone (`Server.reload_cases`). So whatever has
happened, the state is the one of the last configuration that works
(`Running.answered_from_last_working`).
-/

namespace HttpRoutes

open HttpRoutes.Http

/-! ## The state of a configuration -/

namespace Application

/-- The state that a configuration makes, if it works. -/
def liveFor? [Engine] (a : Application) (config : Config) : Option LiveState :=
  (a.rebuild config).result.toOption.map fun router =>
    ⟨router, a.dispatcherFor config, config.debug⟩

end Application

namespace Server

/-- A reload gives the state of the configuration, or fails if the configuration makes none. -/
theorem reload_cases [Engine] (s : Server) (config : Config) :
    (∃ live, s.app.liveFor? config = some live ∧
      (s.reload config).result = .ok ⟨s.app, live⟩) ∨
    (s.app.liveFor? config = none ∧ ∃ e, (s.reload config).result = .error e) := by
  rw [reload, Reported.result_andThen, Application.liveFor?]
  cases (s.app.rebuild config).result with
  | error e => exact .inr ⟨rfl, e, rfl⟩
  | ok router => exact .inl ⟨_, rfl, rfl⟩

/-- An update gives the state of the configuration, or leaves the server as it is. -/
theorem update_result [Engine] (s : Server) (config : Config) :
    (s.update config).result = ⟨s.app, (s.app.liveFor? config).getD s.live⟩ := by
  rw [update, Reported.result_andThen]
  obtain ⟨live, hlive, hreload⟩ | ⟨hnone, e, hreload⟩ := s.reload_cases config
  · rw [hlive, hreload]
    rfl
  · rw [hnone, hreload]
    rfl

end Server

/-! ## What is sent -/

/-- What a state sends for a request that comes with an identifier or else is given a fresh one: the
answer of the state, if the target is a path, with the length of its body and the identifier. -/
def LiveState.Sends (live : LiveState) (freshId : String) (request : Request) (sent : Response) :
    Prop :=
  let received : Request := { request with headers := withRequestId freshId request.headers }
  ∃ response, sent = (response.sized request.method).identified
      ((received.headers.get? requestIdHeader).getD freshId) ∧
    if request.path.toList.head? = some '/' then
      ∀ other, live.Answers received other ↔ other = response
    else response = .notFound

theorem Server.sends_serve (s : Server) (freshId : String) (request : Request) :
    s.live.Sends freshId request (s.serve freshId request).result := by
  rw [serve]
  dsimp only
  split
  · next hpath =>
    refine ⟨_, rfl, ?_⟩
    rw [if_pos hpath]
    exact fun other => LiveState.answers_iff
  · next hpath =>
    refine ⟨.notFound, rfl, ?_⟩
    rw [if_neg hpath]

/-! ## The last configuration that works -/

namespace Application

section

variable [Engine]

/-- Whether a reload with a configuration succeeds. -/
def accepts (a : Application) (config : Config) : Bool :=
  ((Server.new a).reload config).result.toOption.isSome

/-- A reload succeeds exactly if the configuration makes a state. -/
theorem accepts_eq (a : Application) (config : Config) :
    a.accepts config = (a.liveFor? config).isSome := by
  rw [accepts]
  obtain ⟨live, hlive, hreload⟩ | ⟨hnone, e, hreload⟩ := (Server.new a).reload_cases config
  · rw [hreload, show a.liveFor? config = some live from hlive]
    rfl
  · rw [hreload, show a.liveFor? config = none from hnone]
    rfl

/-- The last configuration that works, of several in order. -/
def lastAccepted? (a : Application) (configs : List Config) : Option Config :=
  (configs.filter a.accepts).getLast?

/-- The state after configurations have been tried in order. -/
def liveAfter (a : Application) (live : LiveState) (configs : List Config) : LiveState :=
  configs.foldl (fun live config => (a.liveFor? config).getD live) live

/-- The state after configurations have been tried is that of the last one that works. -/
theorem exists_lastAccepted {a : Application} {config : Config} {live : LiveState}
    (h : a.liveFor? config = some live) (configs : List Config) :
    ∃ current, a.lastAccepted? (config :: configs) = some current ∧
      a.liveFor? current = some (a.liveAfter live configs) := by
  induction configs generalizing config live with
  | nil => exact ⟨config, by simp [lastAccepted?, accepts_eq, h], h⟩
  | cons c rest ih =>
    have haccepts : a.accepts config = true := by rw [accepts_eq, h]; rfl
    cases hc : a.liveFor? c with
    | some live' =>
      obtain ⟨current, hlast, hcurrent⟩ := ih hc
      refine ⟨current, ?_, by rw [liveAfter, List.foldl_cons, hc]; exact hcurrent⟩
      rw [lastAccepted?] at hlast ⊢
      rw [List.filter_cons_of_pos haccepts, List.getLast?_cons, hlast]
      rfl
    | none =>
      obtain ⟨current, hlast, hcurrent⟩ := ih h
      refine ⟨current, ?_, by rw [liveAfter, List.foldl_cons, hc]; exact hcurrent⟩
      have hrejects : ¬a.accepts c = true := by rw [accepts_eq, hc]; decide
      rw [lastAccepted?, List.filter_cons_of_pos haccepts] at hlast ⊢
      rw [List.filter_cons_of_neg hrejects]
      exact hlast

end

end Application

/-! ## What a state is made of -/

/-- A state has the routes of a configuration and added routes behind them, the default method and
the debug flag of the same configuration, and controllers. -/
structure LiveState.Of [Engine] (live : LiveState) (config : Config) (added : List (Route Handler))
    (controllers : ControllerRegistry) : Prop where
  routes : live.router.Serves config added
  controllers : live.dispatcher.registry = controllers
  defaultMethod : live.dispatcher.defaultMethod = config.dispatch.defaultMethod
  debug : live.debug = config.debug

/-- Such a state is the only one. -/
theorem LiveState.Of.unique [Engine] {live live' : LiveState} {config : Config}
    {added : List (Route Handler)} {controllers : ControllerRegistry}
    (h : live.Of config added controllers) (h' : live'.Of config added controllers) :
    live = live' := by
  obtain ⟨router, ⟨registry, defaultMethod⟩, debug⟩ := live
  obtain ⟨router', ⟨registry', defaultMethod'⟩, debug'⟩ := live'
  cases h.routes.unique h'.routes
  cases h.controllers.trans h'.controllers.symm
  cases h.defaultMethod.trans h'.defaultMethod.symm
  cases h.debug.trans h'.debug.symm
  rfl

theorem Application.liveFor_of [Engine] {a : Application} {config : Config} {live : LiveState}
    (h : a.liveFor? config = some live) : live.Of config a.added a.registry := by
  rw [liveFor?] at h
  cases hrouter : (a.rebuild config).result with
  | error e => rw [hrouter] at h; cases h
  | ok router =>
    rw [hrouter] at h
    cases h
    exact ⟨serves_of_rebuild hrouter, rfl, rfl, rfl⟩

/-! ## Servers at work -/

/-- A server at work, with the configurations that wait in its queue, oldest first. -/
structure Running where
  server : Server
  queue : List Config

/-- What happens to a server at work. -/
inductive Action
  /-- A reload by a direct call. -/
  | apply (config : Config)
  /-- A configuration is sent to the queue. -/
  | send (config : Config)
  /-- The server takes a configuration from its queue, if one waits. -/
  | take
  /-- A request arrives. -/
  | request (freshId : String) (request : Request)

/-- The configuration of a direct reload. -/
def Action.applied? : Action → Option Config
  | .apply config => some config
  | .send _ | .take | .request _ _ => none

namespace Running

/-- An application at work, before anything has happened. -/
def start (a : Application) : Running := ⟨.new a, []⟩

/-- What an action does. -/
def step [Engine] (r : Running) : Action → Running
  | .apply config =>
    match (r.server.reload config).result with
    | .ok server => { r with server := server }
    | .error _ => r
  | .send config => { r with queue := r.queue ++ [config] }
  | .take =>
    match r.queue with
    | [] => r
    | config :: queue => ⟨(r.server.update config).result, queue⟩
  | .request _ _ => r

/-- The answer to an action that is a request. -/
def answer? (r : Running) : Action → Option (Reported Response)
  | .request freshId request => some (r.server.serve freshId request)
  | .apply _ | .send _ | .take => none

/-- The server after actions. -/
def run [Engine] (r : Running) (actions : List Action) : Running := actions.foldl step r

/-- The answers to the requests among actions, in order. -/
def answers [Engine] (r : Running) : List Action → List (Reported Response)
  | [] => []
  | action :: rest => (r.answer? action).toList ++ (r.step action).answers rest

/-- The actions with every configuration applied directly at the moment when it would be taken from
the queue. -/
def direct (queue : List Config) : List Action → List Action
  | [] => []
  | .apply config :: rest => .apply config :: direct queue rest
  | .send config :: rest => direct (queue ++ [config]) rest
  | .take :: rest =>
    match queue with
    | [] => direct [] rest
    | config :: queue => .apply config :: direct queue rest
  | .request freshId request :: rest => .request freshId request :: direct queue rest

/-- The configurations that are tried in the course of actions, in order, from the queue or not. -/
def tried (queue : List Config) (actions : List Action) : List Config :=
  (direct queue actions).filterMap Action.applied?

section

variable [Engine]

/-- Whether an action is no direct reload that fails. -/
def worthwhile (a : Application) : Action → Bool
  | .apply config => a.accepts config
  | .send _ | .take | .request _ _ => true

/-! ## Runs -/

theorem answers_append (r : Running) (actions more : List Action) :
    r.answers (actions ++ more) = r.answers actions ++ (r.run actions).answers more := by
  induction actions generalizing r with
  | nil => rfl
  | cons action rest ih =>
    rw [List.cons_append, answers, answers, ih, List.append_assoc]
    rfl

theorem step_apply (r : Running) (config : Config) : r.step (.apply config) =
    ⟨⟨r.server.app, (r.server.app.liveFor? config).getD r.server.live⟩, r.queue⟩ := by
  rw [step]
  obtain ⟨live, hlive, hreload⟩ | ⟨hnone, e, hreload⟩ := r.server.reload_cases config
  · rw [hlive, hreload]
    rfl
  · rw [hnone, hreload]
    rfl

/-- A configuration from the queue does what it does when it is applied directly. -/
theorem step_take (s : Server) (config : Config) (queue : List Config) :
    step ⟨s, config :: queue⟩ .take = step ⟨s, queue⟩ (.apply config) := by
  rw [step_apply, step]
  dsimp only
  rw [Server.update_result]

/-- No action changes the application. -/
theorem step_app (r : Running) (action : Action) :
    (r.step action).server.app = r.server.app := by
  cases action with
  | apply config => rw [step_apply]
  | send config => rfl
  | take =>
    obtain ⟨s, queue⟩ := r
    cases queue with
    | nil => rfl
    | cons config queue => rw [step_take, step_apply]
  | request freshId request => rfl

/-- A direct reload that fails changes nothing. -/
theorem step_of_not_worthwhile {r : Running} {action : Action}
    (h : worthwhile r.server.app action = false) : r.step action = r ∧ r.answer? action = none := by
  cases action with
  | apply config =>
    have hnone : r.server.app.liveFor? config = none := by
      simpa [worthwhile, Application.accepts_eq] using h
    refine ⟨?_, rfl⟩
    rw [step_apply, hnone]
    rfl
  | send config => cases h
  | take => cases h
  | request freshId request => cases h

/-- Requests are answered as if no reload that fails had been tried. -/
theorem answers_worthwhile (r : Running) (actions : List Action) :
    r.answers (actions.filter (worthwhile r.server.app)) = r.answers actions := by
  induction actions generalizing r with
  | nil => rfl
  | cons action rest ih =>
    have hrest := ih (r.step action)
    rw [step_app] at hrest
    rw [List.filter_cons, answers]
    split
    · rw [answers, hrest]
    · next h =>
      obtain ⟨hstep, hanswer⟩ := step_of_not_worthwhile (Bool.eq_false_iff.2 h)
      rw [hstep] at hrest ⊢
      rw [hanswer, hrest]
      rfl

/-- Requests are answered as if every configuration were applied when it is taken. -/
theorem answers_direct (s : Server) (queue : List Config) (actions : List Action) :
    answers ⟨s, []⟩ (direct queue actions) = answers ⟨s, queue⟩ actions := by
  induction actions generalizing s queue with
  | nil => rfl
  | cons action rest ih =>
    cases action with
    | apply config => rw [direct, answers, answers, step_apply, step_apply, ih]; rfl
    | send config => exact ih s (queue ++ [config])
    | take =>
      cases queue with
      | nil => exact ih s []
      | cons config queue =>
        rw [direct, answers, answers, step_take, step_apply, step_apply, ih]
        rfl
    | request freshId request =>
      rw [direct, answers, answers]
      exact congrArg _ (ih s queue)

/-- The state after a run is that after the configurations that were tried. -/
theorem run_server (r : Running) (actions : List Action) : (r.run actions).server =
    ⟨r.server.app, r.server.app.liveAfter r.server.live (tried r.queue actions)⟩ := by
  induction actions generalizing r with
  | nil => rfl
  | cons action rest ih =>
    show ((r.step action).run rest).server = _
    rw [ih, step_app]
    cases action with
    | apply config => rw [step_apply]; rfl
    | send config => rfl
    | take =>
      obtain ⟨s, queue⟩ := r
      cases queue with
      | nil => rfl
      | cons config queue => rw [step_take, step_apply]; rfl
    | request freshId request => rfl

end

/-- Whatever reloads have been tried, directly or from the queue, requests are answered from the
state of one configuration, the last one that works, with the routes and the controllers that were
added before the server was made. What is sent is what the router, the dispatcher and the debug flag
of this state decide. The answers are those that there are if every configuration is applied when it
is taken and none that fails is tried. A configuration that has just been applied is the one that is
answered from, whatever came before it. -/
theorem answered_from_last_working [Engine] {config : Config} {base : Application}
    (h : (Application.new config).result = .ok base) (calls : List SetupCall)
    (before : List Action) :
    let app := base.prepared calls
    let added := base.addedByAll calls
    let controllers := Application.controllersAfter calls .builtin
    ∃ current live, app.lastAccepted? (config :: tried [] before) = some current ∧
      live.Of current added controllers ∧
      (∀ other, other.Of current added controllers → other = live) ∧
      (∀ freshId request later,
        (start app).answers (before ++ .request freshId request :: later) =
          (start app).answers before ++ Server.serve ⟨app, live⟩ freshId request ::
            ((start app).run before).answers later) ∧
      (∀ freshId request,
        live.Sends freshId request (Server.serve ⟨app, live⟩ freshId request).result) ∧
      (start app).answers before =
        (start app).answers ((direct [] before).filter (worthwhile app)) ∧
      ∀ earlier next, tried [] before = earlier ++ [next] → app.accepts next → current = next := by
  intro app added controllers
  obtain ⟨-, hconfig, hadded, hregistry⟩ := Application.new_fields h
  obtain ⟨hconfig', hadded', hregistry'⟩ := Application.prepared_fields calls base
  -- The server starts with the state that a reload with its own configuration makes.
  have hstart : app.liveFor? config = some (start app).server.live := by
    rw [Application.liveFor?, Application.prepared_rebuild h]
    show some _ = some (Server.new app).live
    rw [Server.new, Application.dispatcher, hconfig', hconfig]
  obtain ⟨current, hlast, hcurrent⟩ := Application.exists_lastAccepted hstart (tried [] before)
  have hrun : ((start app).run before).server =
      ⟨app, app.liveAfter (start app).server.live (tried [] before)⟩ :=
    run_server (start app) before
  generalize app.liveAfter (start app).server.live (tried [] before) = live at hcurrent hrun
  have hof : live.Of current added controllers := by
    have hof := Application.liveFor_of hcurrent
    rwa [hadded', hadded, List.nil_append, hregistry', hregistry] at hof
  refine ⟨current, live, hlast, hof, fun other hother => hother.unique hof,
    fun freshId request later => ?_, Server.sends_serve ⟨app, live⟩, ?_, ?_⟩
  · rw [answers_append, answers, ← hrun]
    rfl
  · exact ((answers_worthwhile (start app) _).trans (answers_direct _ [] before)).symm
  · intro earlier next htried haccepts
    rw [htried, Application.lastAccepted?, ← List.cons_append, List.filter_append,
      List.filter_cons_of_pos haccepts, List.filter_nil, List.getLast?_append] at hlast
    exact (Option.some.inj hlast).symm

theorem answered_after_reload :
    let config : Config := { Config.default with routes := [⟨["GET"], "/a", "echo"⟩] }
    let broken : Config := { Config.default with routes := [⟨["GET"], "/\x7b", "echo"⟩] }
    let second : Config := { Config.default with
      debug := true, dispatch := ⟨'#', "index"⟩, routes := [⟨["GET"], "/b", "echo#show"⟩] }
    let calls : List SetupCall := [.controller "other" echo,
      .route [.get] "/c/{n:}" (.reference "other@run"), .route [] "/d" (.reference "other")]
    let before : List Action :=
      [.send broken, .send second, .apply broken, .take, .take, .take]
    ∃ base, (Application.new config).result = .ok base ∧
      tried [] before = [broken, broken, second] ∧
      (base.addedByAll calls).map (fun r => (r.pattern, r.handler.text)) =
        [("/c/{n:}", "other@run")] ∧
      ∃ live, live.Of second (base.addedByAll calls)
          (Application.controllersAfter calls .builtin) ∧
        ∀ freshId request,
          (start (base.prepared calls)).answers (before ++ [.request freshId request]) =
              [Server.serve ⟨base.prepared calls, live⟩ freshId request] ∧
            live.Sends freshId request
              (Server.serve ⟨base.prepared calls, live⟩ freshId request).result := by
  intro config broken second calls before
  obtain ⟨base, hbase, hfacts⟩ : ∃ base, (Application.new config).result = .ok base ∧
      ((base.addedByAll calls).map (fun r => (r.pattern, r.handler.text)),
        (base.prepared calls).accepts second) = ([("/c/{n:}", "other@run")], true) :=
    exists_of_map_eq_ok (by decide +kernel)
  obtain ⟨hadded, haccepts⟩ := Prod.mk.inj hfacts
  obtain ⟨current, live, -, hof, -, hanswers, hsends, -, hlast⟩ :=
    answered_from_last_working hbase calls before
  have htried : tried [] before = [broken, broken] ++ [second] := rfl
  rw [hlast _ second htried haccepts] at hof
  exact ⟨base, hbase, htried, hadded, live, hof, fun freshId request =>
    ⟨hanswers freshId request [], hsends freshId request⟩⟩

end Running

end HttpRoutes
