import HttpRoutes.Server.Answer
import HttpRoutes.Proofs.Route.Registration

/-!
# What a request is answered with

A request is refused for one of six reasons, which are looked at in a fixed order, and otherwise it
is answered by the handler of its route (`LiveState.answered_or_refused`). That no handler has a
part in a refusal is said by replacing whatever handlers would answer: the refusal stays the same.
-/

namespace HttpRoutes

open HttpRoutes.Http

/-! ## Other handlers for the same routes -/

section Map

variable {α β : Type}

/-- The entry with another handler. -/
def Entry.map (f : α → β) (e : Entry α) : Entry β := ⟨e.pattern, f e.handler, e.index⟩

/-- The routes of a verb with other handlers. -/
def Combined.map (f : α → β) (c : Combined α) : Combined β :=
  ⟨c.verb, c.expression, c.alternatives.map fun a => ⟨a.outerGroup, a.entry.map f⟩⟩

/-- The match with another handler. -/
def RouteMatch.map (f : α → β) (m : RouteMatch α) : RouteMatch β :=
  ⟨m.index, m.pattern, f m.handler, m.params⟩

/-- What a function makes of the value of each verb. -/
def PerVerb.map (f : α → β) (p : PerVerb α) : PerVerb β :=
  ⟨f p.get, f p.post, f p.put, f p.delete, f p.patch, f p.head, f p.options⟩

@[simp] theorem PerVerb.value_map (f : α → β) (p : PerVerb α) (v : Verb) :
    (p.map f).value v = f (p.value v) := by
  cases v <;> rfl

/-- The router with other handlers. -/
def Router.map (f : α → β) (r : Router α) : Router β :=
  ⟨r.table.map (List.map (Entry.map f)), r.snapshots.map (Option.map (Combined.map f))⟩

/-- Which alternative matched does not depend on its handler. -/
theorem Combined.locate_map (f : α → β) (c : Combined α) (m : Expression.Match) (path : String) :
    (c.map f).locate m path = c.locate m path := by
  have hgroups : (c.map f).alternatives.map (·.outerGroup) = c.alternatives.map (·.outerGroup) := by
    rw [Combined.map, List.map_map]
    rfl
  have hliteral : positionOfLiteral? (c.map f).alternatives path =
      positionOfLiteral? c.alternatives path := by
    rw [positionOfLiteral?, Combined.map, List.findIdx?_map]
    rfl
  have hposition : positionOfGroup? (c.map f).alternatives = positionOfGroup? c.alternatives := by
    funext group
    rw [positionOfGroup?, positionOfGroup?, hgroups]
  have hfirst : (c.map f).firstGroup? m = c.firstGroup? m := rfl
  simp only [locate, firedGroups, hgroups, hliteral, hposition, hfirst]
  rfl

/-- The path leads to the same route, with the other handler. -/
theorem Combined.resolve_map (f : α → β) (c : Combined α) (path : String) :
    (c.map f).resolve path = (c.resolve path).map (Option.map (RouteMatch.map f)) := by
  have hempty : (c.map f).alternatives.isEmpty = c.alternatives.isEmpty := by
    rw [Combined.map, List.isEmpty_map]
  have hexpression : (c.map f).expression = c.expression := rfl
  unfold resolve
  rw [hempty, hexpression]
  by_cases hnone : c.alternatives.isEmpty = true
  · rw [if_pos hnone, if_pos hnone]
    rfl
  · rw [if_neg hnone, if_neg hnone]
    dsimp only
    cases c.expression.find? (trimSlashes path) with
    | none => rfl
    | some m =>
      simp only [locate_map]
      cases c.locate m (trimSlashes path) with
      | error e => rfl
      | ok position =>
        simp only [Combined.map, List.getElem?_map]
        cases c.alternatives[position]? <;> rfl

theorem Router.resolve_map (f : α → β) (r : Router α) (v : Verb) (path : String) :
    (r.map f).resolve v path = (r.resolve v path).map (Option.map (RouteMatch.map f)) := by
  rw [resolve, resolve, snapshot?, snapshot?, Router.map, PerVerb.value_map]
  cases r.snapshots.value v with
  | none => rfl
  | some c => exact c.resolve_map f path

end Map

/-- What a handler would answer, replaced. -/
def Handler.mapResponses (f : Invocation → Response → Response) : Handler → Handler
  | .function run => .function fun i => f i (run i)
  | .controller r => .controller r

/-- The registry with controllers whose answers are replaced. They refuse the same methods. -/
def ControllerRegistry.mapResponses (f : Invocation → Response → Response)
    (r : ControllerRegistry) : ControllerRegistry :=
  ⟨r.entries.map fun e => (e.1, ⟨fun method i => (e.2.invoke method i).map (f i)⟩)⟩

/-- The state in which every handler answers something else. -/
def LiveState.mapResponses (f : Invocation → Response → Response) (live : LiveState) : LiveState :=
  ⟨live.router.map (Handler.mapResponses f),
    ⟨live.dispatcher.registry.mapResponses f, live.dispatcher.defaultMethod⟩, live.debug⟩

theorem ControllerRegistry.find_mapResponses (f : Invocation → Response → Response)
    (r : ControllerRegistry) (identifier : String) :
    (r.mapResponses f).find? identifier = (r.find? identifier).map fun c =>
      ⟨fun method i => (c.invoke method i).map (f i)⟩ := by
  rw [find?, find?, Text.findByName?, Text.findByName?, mapResponses, List.find?_map,
    Option.map_map, Option.map_map]
  rfl

/-! ## Refusals -/

/-- Why a request is refused. -/
inductive Refusal
  | method
  | noRoute
  | routing (e : RouteError)
  | bodyTooLong
  | unknownController (identifier : String)
  | unknownMethod (identifier method : String)

namespace LiveState

variable {live : LiveState} {request : Request}

/-- The path leads to a route of the verb that the method names. -/
def Matches (live : LiveState) (request : Request) (v : Verb) (m : RouteMatch Handler) : Prop :=
  v.token = request.method ∧ live.router.resolve v request.path = .ok (some m)

/-- What the handler of a route is given. -/
def invocation (request : Request) (v : Verb) (m : RouteMatch Handler) : Invocation :=
  ⟨v, request.path, m.params, request.headers, request.body, requestId request.headers⟩

/-- The refusal is due, whatever else may be wrong. -/
def Applies (live : LiveState) (request : Request) : Refusal → Prop
  | .method => ∀ v : Verb, v.token ≠ request.method
  | .noRoute => ∃ v : Verb, v.token = request.method ∧
      live.router.resolve v request.path = .ok none
  | .routing e => ∃ v : Verb, v.token = request.method ∧
      live.router.resolve v request.path = .error e
  | .bodyTooLong => 2097152 < request.body.size
  | .unknownController identifier => ∃ v m r, live.Matches request v m ∧
      m.handler = .controller r ∧ r.identifier = identifier ∧
      live.dispatcher.registry.find? identifier = none
  | .unknownMethod identifier method => ∃ v m r c, live.Matches request v m ∧
      m.handler = .controller r ∧ r.identifier = identifier ∧
      r.method.getD live.dispatcher.defaultMethod = method ∧
      live.dispatcher.registry.find? identifier = some c ∧
      c.invoke method (invocation request v m) = none

/-- The place of a refusal in the order in which they are looked at. -/
def rank : Refusal → Nat
  | .method => 0
  | .noRoute => 1
  | .routing _ => 2
  | .bodyTooLong => 3
  | .unknownController _ => 4
  | .unknownMethod _ _ => 5

/-- The refusal is due, and none that is looked at before it is. -/
structure Refuses (live : LiveState) (request : Request) (r : Refusal) : Prop where
  applies : live.Applies request r
  first : ∀ s, live.Applies request s → rank r ≤ rank s

/-- The status of a refusal. -/
def statusOf : Refusal → Nat
  | .method => 405
  | .noRoute => 404
  | _ => 500

/-- What went wrong, in words. -/
def reasonOf : Refusal → String
  | .routing e => e.message
  | .bodyTooLong => bodyLimitMessage
  | .unknownController identifier => (DispatchError.unknownController identifier).message
  | .unknownMethod identifier method => (DispatchError.unknownMethod identifier method).message
  | _ => ""

/-- The answer that a refusal is. -/
def refusalAnswer (request : Request) (debug : Bool) : Refusal → Response
  | .method => .methodNotSupported request.method
  | .noRoute => .routeNotFound request.path
  | r => .internalError (reasonOf r) debug

/-- The response is the handler's own: that of the function, or that of the named method of the
controller, and of the default method if none is named. -/
inductive Responds (d : Dispatcher) (i : Invocation) : Handler → Response → Prop
  | function {run} : Responds d i (.function run) (run i)
  | controller {r c response} : d.registry.find? r.identifier = some c →
      c.invoke (r.method.getD d.defaultMethod) i = some response →
      Responds d i (.controller r) response

/-! ## What decides the answer -/

theorem answer_of_method (h : ∀ v : Verb, v.token ≠ request.method) :
    (live.answer request).result = .methodNotSupported request.method := by
  have hnone : Verb.ofToken? request.method = none := by
    refine Option.eq_none_iff_forall_ne_some.2 fun v hv => ?_
    exact h v (Verb.token_of_ofToken? hv)
  rw [answer]
  simp only [hnone]

theorem answer_of_noRoute {v : Verb} (hv : v.token = request.method)
    (hresolve : live.router.resolve v request.path = .ok none) :
    (live.answer request).result = .routeNotFound request.path := by
  have hverb : Verb.ofToken? request.method = some v := by rw [← hv, Verb.ofToken?_token]
  rw [answer]
  simp only [hverb, hresolve]

theorem answer_of_routing {v : Verb} {e : RouteError} (hv : v.token = request.method)
    (hresolve : live.router.resolve v request.path = .error e) :
    (live.answer request).result = .internalError e.message live.debug := by
  have hverb : Verb.ofToken? request.method = some v := by rw [← hv, Verb.ofToken?_token]
  rw [answer]
  simp only [hverb, hresolve]

theorem answer_of_long {v : Verb} {m : RouteMatch Handler} (h : live.Matches request v m)
    (hlong : live.Applies request .bodyTooLong) :
    (live.answer request).result = .internalError bodyLimitMessage live.debug := by
  have hverb : Verb.ofToken? request.method = some v := by rw [← h.1, Verb.ofToken?_token]
  have hlimit : bodyLimit < request.body.size := hlong
  rw [answer]
  simp only [hverb, h.2]
  rw [answerMatched, if_pos hlimit]

/-- A body that is not too long goes to the dispatcher. -/
theorem answer_of_short {v : Verb} {m : RouteMatch Handler} (h : live.Matches request v m)
    (hshort : ¬ live.Applies request .bodyTooLong) :
    (live.answer request).result =
      match live.dispatcher.dispatch m.handler (invocation request v m) with
      | .ok response => response
      | .error e => .internalError e.message live.debug := by
  have hverb : Verb.ofToken? request.method = some v := by rw [← h.1, Verb.ofToken?_token]
  have hlimit : ¬ bodyLimit < request.body.size := hshort
  rw [answer]
  simp only [hverb, h.2]
  rw [answerMatched, if_neg hlimit]
  simp only [invocation]
  cases live.dispatcher.dispatch m.handler _ <;> rfl

/-- A request whose method is a verb leads to a route unless a refusal says otherwise. -/
theorem exists_matches (hmethod : ¬ live.Applies request .method)
    (hroute : ¬ live.Applies request .noRoute)
    (hrouting : ∀ e, ¬ live.Applies request (.routing e)) : ∃ v m, live.Matches request v m := by
  obtain ⟨v, hv⟩ : ∃ v : Verb, v.token = request.method := by
    by_contra hnone
    exact hmethod fun v hv => hnone ⟨v, hv⟩
  cases hresolve : live.router.resolve v request.path with
  | error e => exact absurd ⟨v, hv, hresolve⟩ (hrouting e)
  | ok found =>
    cases found with
    | none => exact absurd ⟨v, hv, hresolve⟩ hroute
    | some m => exact ⟨v, m, hv, hresolve⟩

namespace Refuses

variable {r : Refusal}

/-- What is looked at before the refusal does not apply. -/
theorem not_applies (h : live.Refuses request r) {s : Refusal} (hs : rank s < rank r) :
    ¬ live.Applies request s :=
  fun happlies => absurd (h.first s happlies) (Nat.not_le.2 hs)

theorem answer_eq (h : live.Refuses request r) :
    (live.answer request).result = refusalAnswer request live.debug r := by
  have happlies := h.applies
  cases r with
  | method => exact answer_of_method happlies
  | noRoute =>
    obtain ⟨v, hv, hresolve⟩ := happlies
    exact answer_of_noRoute hv hresolve
  | routing e =>
    obtain ⟨v, hv, hresolve⟩ := happlies
    exact answer_of_routing hv hresolve
  | bodyTooLong =>
    obtain ⟨v, m, hmatches⟩ := exists_matches (h.not_applies (show 0 < 3 by omega))
      (h.not_applies (show 1 < 3 by omega)) fun e => h.not_applies (show 2 < 3 by omega)
    rw [answer_of_long hmatches happlies]
    rfl
  | unknownController identifier =>
    obtain ⟨v, m, ref, hmatches, hhandler, hid, hfind⟩ := happlies
    rw [answer_of_short hmatches (h.not_applies (show 3 < 4 by omega)), hhandler]
    subst hid
    simp only [Dispatcher.dispatch, hfind]
    rfl
  | unknownMethod identifier method =>
    obtain ⟨v, m, ref, c, hmatches, hhandler, hid, hmethod, hfind, hinvoke⟩ := happlies
    rw [answer_of_short hmatches (h.not_applies (show 3 < 5 by omega)), hhandler]
    subst hid hmethod
    simp only [Dispatcher.dispatch, hfind, Dispatcher.methodFor, hinvoke]
    rfl

end Refuses

/-- If any refusal applies, one of them comes first. -/
theorem exists_refuses {r : Refusal} (h : live.Applies request r) :
    ∃ s, live.Refuses request s := by
  induction hn : rank r using Nat.strongRecOn generalizing r with
  | _ n ih =>
    by_cases hfirst : ∀ s, live.Applies request s → rank r ≤ rank s
    · exact ⟨r, h, hfirst⟩
    · push Not at hfirst
      obtain ⟨s, hs, hlt⟩ := hfirst
      exact ih (rank s) (hn ▸ hlt) hs rfl

/-- A request that nothing refuses is answered by the handler of its route. -/
theorem answer_own (h : ∀ r, ¬ live.Applies request r) :
    ∃ v m, live.Matches request v m ∧
      Responds live.dispatcher (invocation request v m) m.handler (live.answer request).result := by
  obtain ⟨v, m, hmatches⟩ := exists_matches (h _) (h _) fun e => h _
  refine ⟨v, m, hmatches, ?_⟩
  rw [answer_of_short hmatches (h _)]
  cases hhandler : m.handler with
  | function run => exact .function
  | controller ref =>
    cases hfind : live.dispatcher.registry.find? ref.identifier with
    | none => exact absurd ⟨v, m, ref, hmatches, hhandler, rfl, hfind⟩ (h (.unknownController _))
    | some c =>
      cases hinvoke : c.invoke (ref.method.getD live.dispatcher.defaultMethod)
          (invocation request v m) with
      | none =>
        exact absurd ⟨v, m, ref, c, hmatches, hhandler, rfl, rfl, hfind, hinvoke⟩
          (h (.unknownMethod _ _))
      | some response =>
        simp only [Dispatcher.dispatch, hfind, Dispatcher.methodFor, hinvoke]
        exact .controller hfind hinvoke

/-! ## The answer of a state -/

/-- What a state answers a request with: the first refusal that applies, or what the handler of the
route responds if none applies. -/
structure Answers (live : LiveState) (request : Request) (response : Response) : Prop where
  refused : ∀ r, live.Refuses request r → response = refusalAnswer request live.debug r
  handled : (∀ r, ¬ live.Refuses request r) → ∃ v m, live.Matches request v m ∧
    Responds live.dispatcher (invocation request v m) m.handler response

theorem Responds.dispatch_eq {d : Dispatcher} {i : Invocation} {h : Handler} {response : Response}
    (hresponds : Responds d i h response) : d.dispatch h i = .ok response := by
  cases hresponds with
  | function => rfl
  | controller hfind hinvoke =>
    simp only [Dispatcher.dispatch, hfind, Dispatcher.methodFor, hinvoke]

/-- There is one such answer, and it is the one that is worked out. -/
theorem answers_iff {response : Response} :
    live.Answers request response ↔ response = (live.answer request).result := by
  constructor
  · intro h
    by_cases hrefused : ∃ r, live.Refuses request r
    · obtain ⟨r, hr⟩ := hrefused
      rw [h.refused r hr, hr.answer_eq]
    · obtain ⟨v, m, hmatches, hresponds⟩ := h.handled (not_exists.1 hrefused)
      have hshort : ¬ live.Applies request .bodyTooLong :=
        fun hlong => hrefused (exists_refuses hlong)
      rw [answer_of_short hmatches hshort, hresponds.dispatch_eq]
  · rintro rfl
    refine ⟨fun r hr => hr.answer_eq, fun hnone => answer_own fun r hr => ?_⟩
    obtain ⟨s, hs⟩ := exists_refuses hr
    exact hnone s hs

/-! ## What handlers have no part in -/

variable {f : Invocation → Response → Response}

theorem matches_mapResponses {v : Verb} {m : RouteMatch Handler} :
    (live.mapResponses f).Matches request v m ↔
      ∃ m', live.Matches request v m' ∧ m = m'.map (Handler.mapResponses f) := by
  have hresolve : (live.mapResponses f).router.resolve v request.path =
      (live.router.resolve v request.path).map (Option.map (RouteMatch.map _)) :=
    Router.resolve_map _ _ _ _
  rw [Matches, hresolve]
  constructor
  · rintro ⟨hv, hfound⟩
    cases hown : live.router.resolve v request.path with
    | error e => rw [hown] at hfound; cases hfound
    | ok found =>
      cases found with
      | none => rw [hown] at hfound; cases hfound
      | some m' =>
        rw [hown] at hfound
        cases hfound
        exact ⟨m', ⟨hv, hown⟩, rfl⟩
  · rintro ⟨m', ⟨hv, hown⟩, rfl⟩
    rw [hown]
    exact ⟨hv, rfl⟩

/-- Whatever handlers answer, the same refusals apply. -/
theorem applies_mapResponses (r : Refusal) :
    (live.mapResponses f).Applies request r ↔ live.Applies request r := by
  have hresolve (v : Verb) : (live.mapResponses f).router.resolve v request.path =
      (live.router.resolve v request.path).map (Option.map (RouteMatch.map _)) :=
    Router.resolve_map _ _ _ _
  have hfind (identifier : String) :
      (live.mapResponses f).dispatcher.registry.find? identifier = _ :=
    ControllerRegistry.find_mapResponses f live.dispatcher.registry identifier
  have hcontroller (m : RouteMatch Handler) (ref : ControllerRef) :
      (m.map (Handler.mapResponses f)).handler = .controller ref ↔ m.handler = .controller ref := by
    show Handler.mapResponses f m.handler = _ ↔ _
    cases m.handler <;> simp [Handler.mapResponses]
  cases r with
  | method => exact Iff.rfl
  | bodyTooLong => exact Iff.rfl
  | noRoute =>
    refine exists_congr fun v => and_congr_right fun _ => ?_
    rw [hresolve]
    cases live.router.resolve v request.path with
    | error e => simp [Except.map]
    | ok found => simp [Except.map]
  | routing e =>
    refine exists_congr fun v => and_congr_right fun _ => ?_
    rw [hresolve]
    cases live.router.resolve v request.path <;> simp [Except.map]
  | unknownController identifier =>
    constructor
    · rintro ⟨v, m, ref, hmatches, hhandler, hid, hnone⟩
      obtain ⟨m', hmatches', rfl⟩ := matches_mapResponses.1 hmatches
      rw [hfind, Option.map_eq_none_iff] at hnone
      exact ⟨v, m', ref, hmatches', (hcontroller m' ref).1 hhandler, hid, hnone⟩
    · rintro ⟨v, m, ref, hmatches, hhandler, hid, hnone⟩
      refine ⟨v, _, ref, matches_mapResponses.2 ⟨m, hmatches, rfl⟩, (hcontroller m ref).2 hhandler,
        hid, ?_⟩
      rw [hfind, hnone]
      rfl
  | unknownMethod identifier method =>
    constructor
    · rintro ⟨v, m, ref, c, hmatches, hhandler, hid, hmethod, hsome, hinvoke⟩
      obtain ⟨m', hmatches', rfl⟩ := matches_mapResponses.1 hmatches
      rw [hfind, Option.map_eq_some_iff] at hsome
      obtain ⟨c', hc', rfl⟩ := hsome
      refine ⟨v, m', ref, c', hmatches', (hcontroller m' ref).1 hhandler, hid, hmethod, hc', ?_⟩
      exact Option.map_eq_none_iff.1 hinvoke
    · rintro ⟨v, m, ref, c, hmatches, hhandler, hid, hmethod, hsome, hinvoke⟩
      refine ⟨v, _, ref, _, matches_mapResponses.2 ⟨m, hmatches, rfl⟩,
        (hcontroller m ref).2 hhandler, hid, hmethod, by rw [hfind, hsome, Option.map_some], ?_⟩
      exact Option.map_eq_none_iff.2 hinvoke

theorem refuses_mapResponses (r : Refusal) :
    (live.mapResponses f).Refuses request r ↔ live.Refuses request r := by
  constructor
  · intro h
    exact ⟨(applies_mapResponses r).1 h.applies,
      fun s hs => h.first s ((applies_mapResponses s).2 hs)⟩
  · intro h
    exact ⟨(applies_mapResponses r).2 h.applies,
      fun s hs => h.first s ((applies_mapResponses s).1 hs)⟩

/-! ## Answers -/

theorem status_refusalAnswer (request : Request) (debug : Bool) (r : Refusal) :
    (refusalAnswer request debug r).status = statusOf r := by
  cases r <;> rfl

/-- Without debugging nothing of the reason is told. -/
theorem refusalAnswer_of_500 (request : Request) {r : Refusal} (h : statusOf r = 500) :
    refusalAnswer request false r = ⟨500, [("content-type", "text/plain; charset=utf-8")],
      "The server encountered an internal error"⟩ := by
  cases r with
  | method => cases h
  | noRoute => cases h
  | _ => rfl

/-- A request is answered by the first refusal that applies, in which no handler has a part, and by
the handler of its route if none applies. Without debugging all answers of status 500 are one
answer. -/
theorem answered_or_refused (live : LiveState) (request : Request) :
    (∀ r, live.Refuses request r →
      (live.answer request).result = refusalAnswer request live.debug r ∧
        (live.answer request).result.status = statusOf r ∧
        ∀ f, ((live.mapResponses f).answer request).result = (live.answer request).result) ∧
    ((∀ r, ¬ live.Refuses request r) → ∃ v m, live.Matches request v m ∧
      Responds live.dispatcher (invocation request v m) m.handler (live.answer request).result) ∧
    (live.debug = false → ∀ r, live.Refuses request r → statusOf r = 500 →
      (live.answer request).result = ⟨500, [("content-type", "text/plain; charset=utf-8")],
        "The server encountered an internal error"⟩) := by
  refine ⟨fun r hr => ?_, fun hnone => ?_, fun hdebug r hr h500 => ?_⟩
  · refine ⟨hr.answer_eq, ?_, fun f => ?_⟩
    · rw [hr.answer_eq, status_refusalAnswer]
    · rw [hr.answer_eq, ((refuses_mapResponses r).2 hr).answer_eq]
      rfl
  · exact (answers_iff.2 rfl).handled hnone
  · rw [hr.answer_eq, hdebug, refusalAnswer_of_500 request h500]

/-- A controller that is not registered is not told of, and a method in small letters is no verb,
whatever its path leads to. The body need not be a text. -/
theorem answered_with_unknown_controller :
    let router := (Router.empty.register [⟨[.get], "/gone", "nobody"⟩]).router.map fun identifier =>
      Handler.controller ⟨identifier, none, '@'⟩
    let live : LiveState := ⟨router, ⟨.builtin, "run"⟩, false⟩
    (live.answer ⟨"GET", "/gone", [], ⟨#[0xff]⟩⟩).result =
        .plain 500 "The server encountered an internal error" ∧
      (live.answer ⟨"get", "/gone", [], ⟨#[0xff]⟩⟩).result =
        .plain 405 "The request method get is not supported" := by
  intro router live
  have hresolve : live.router.resolve .get "/gone" =
      .ok (some ⟨0, "/gone", .controller ⟨"nobody", none, '@'⟩, .empty⟩) := by
    have hnamed :
        (Router.empty.register [⟨[.get], "/gone", "nobody"⟩]).router.resolve .get "/gone" =
        .ok (some ⟨0, "/gone", "nobody", .empty⟩) := by decide +kernel
    show router.resolve .get "/gone" = _
    rw [Router.resolve_map, hnamed]
    rfl
  have hget : ∀ v : Verb, v.token = "GET" → v = .get := by
    intro v hv
    cases v <;> first | rfl | exact absurd hv (by decide)
  have hgone : live.Refuses ⟨"GET", "/gone", [], ⟨#[0xff]⟩⟩ (.unknownController "nobody") := by
    refine ⟨⟨.get, _, _, ⟨rfl, hresolve⟩, rfl, rfl, by decide +kernel⟩, fun s hs => ?_⟩
    cases s with
    | method => exact absurd rfl (hs .get)
    | noRoute =>
      obtain ⟨v, hv, hnone⟩ := hs
      rw [hget v hv] at hnone
      cases hresolve.symm.trans hnone
    | routing e =>
      obtain ⟨v, hv, hfails⟩ := hs
      rw [hget v hv] at hfails
      cases hresolve.symm.trans hfails
    | bodyTooLong => exact absurd (show 2097152 < 1 from hs) (by decide)
    | unknownController _ => exact Nat.le_refl 4
    | unknownMethod _ _ => exact Nat.le_succ 4
  have hlower : live.Refuses ⟨"get", "/gone", [], ⟨#[0xff]⟩⟩ .method := by
    refine ⟨fun v => ?_, fun s _ => Nat.zero_le _⟩
    cases v <;> decide
  exact ⟨(live.answered_or_refused _).2.2 rfl _ hgone rfl,
    ((live.answered_or_refused _).1 _ hlower).1⟩

end LiveState

end HttpRoutes
