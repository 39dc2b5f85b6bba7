import HttpRoutes.Proofs.Application
import HttpRoutes.Proofs.Route.Batches

/-!
# Applications that are rebuilt

An application is made from a configuration and prepared by calls that make controllers available
and add routes. Its router has grown by one batch and then by one route after the other, and yet it
is the router that a rebuild for the same configuration makes (`Application.prepared_rebuild`). For
another configuration a rebuild makes the router of a fresh application to which the same routes are
added (`Application.rebuild_as_fresh`). What a rebuild makes for any configuration has the declared
routes under each of their verbs in order, and the added routes behind them
(`Application.serves_of_rebuild`).
-/

namespace HttpRoutes

/-! ## Preparing an application -/

/-- A call that prepares an application. -/
inductive SetupCall
  | controller (identifier : String) (c : Controller)
  | route (verbs : List Verb) (pattern : String) (handler : HandlerSource)

namespace Application

section

variable [Engine]

/-- The route that a call adds, if the call succeeds. -/
def addedBy? (a : Application) : SetupCall → Option (Route Handler)
  | .controller _ _ => none
  | .route verbs pattern handler =>
    match handler.read a.config.dispatch.separator, (a.addRoute verbs pattern handler).result with
    | .ok handler, .ok _ => some ⟨verbs, pattern, handler⟩
    | _, _ => none

/-- The application after a call. -/
def setUp (a : Application) : SetupCall → Application
  | .controller identifier c => a.registerController identifier c
  | .route verbs pattern handler => (a.add verbs pattern handler).application

/-- The application after calls. -/
def prepared (a : Application) (calls : List SetupCall) : Application :=
  calls.foldl setUp a

/-- The routes that calls add, in order. -/
def addedByAll (a : Application) : List SetupCall → List (Route Handler)
  | [] => []
  | call :: rest => (a.addedBy? call).toList ++ (a.setUp call).addedByAll rest

end

/-- The controllers after calls. -/
def controllersAfter (calls : List SetupCall) (registry : ControllerRegistry) :
    ControllerRegistry :=
  calls.foldl (fun registry call => match call with
    | .controller identifier c => registry.register identifier c
    | .route _ _ _ => registry) registry

/-! ## What operations do -/

section

variable [Engine]

/-- Adding a route changes the router and the list of added routes, or it fails and changes
nothing: the router itself is left alone by a registration that fails. -/
theorem add_cases (a : Application) (verbs : List Verb) (pattern : String)
    (handler : HandlerSource) :
    (∃ e, (a.add verbs pattern handler).failure = some e ∧
      (a.add verbs pattern handler).application = a) ∨
    ∃ h router, handler.read a.config.dispatch.separator = .ok h ∧
      a.router.addRoutes [⟨verbs, pattern, h⟩] = .ok router ∧
      (a.add verbs pattern handler).failure = none ∧
      (a.add verbs pattern handler).application =
        { a with router := router, added := a.added ++ [⟨verbs, pattern, h⟩] } := by
  rw [add]
  cases handler.read a.config.dispatch.separator with
  | error e => exact .inl ⟨_, rfl, rfl⟩
  | ok h =>
    dsimp only
    cases hfailure : (a.router.register [⟨verbs, pattern, h⟩]).failure with
    | some e =>
      have hrouter := Router.register_of_failure (hfailure.trans_ne (Option.some_ne_none e))
      exact .inl ⟨_, rfl, by rw [hrouter]⟩
    | none => exact .inr ⟨h, _, rfl, Router.addRoutes_eq_ok_iff.2 ⟨hfailure, rfl⟩, rfl, rfl⟩

theorem addRoute_eq_ok {a a' : Application} {verbs : List Verb} {pattern : String}
    {handler : HandlerSource} (hadd : (a.addRoute verbs pattern handler).result = .ok a') :
    ∃ h router, handler.read a.config.dispatch.separator = .ok h ∧
      a.router.addRoutes [⟨verbs, pattern, h⟩] = .ok router ∧
      a' = { a with router := router, added := a.added ++ [⟨verbs, pattern, h⟩] } := by
  rw [addRoute] at hadd
  obtain ⟨e, hfailure, -⟩ | ⟨h, router, hread, hrouter, hfailure, happlication⟩ :=
    a.add_cases verbs pattern handler
  · rw [hfailure] at hadd
    cases hadd
  · rw [hfailure, happlication] at hadd
    cases hadd
    exact ⟨h, router, hread, hrouter, rfl⟩

theorem rebuild_eq_ok {a : Application} {config : Config} {router : Router Handler} :
    (a.rebuild config).result = .ok router ↔ ∃ routes, config.declaredRoutes = .ok routes ∧
      Router.empty.addRoutes (routes ++ a.added) = .ok router := by
  rw [rebuild]
  cases config.declaredRoutes with
  | error e => simp
  | ok routes =>
    simp only [Router.addRoutes_eq_ok_iff]
    cases hfailure : (Router.empty.register (routes ++ a.added)).failure with
    | some e => simp [hfailure]
    | none => simp [hfailure]

/-- A call makes a controller available or adds a route, or it changes nothing. -/
theorem setUp_cases (a : Application) (call : SetupCall) :
    (∃ identifier c, call = .controller identifier c ∧ a.addedBy? call = none ∧
      a.setUp call = { a with registry := a.registry.register identifier c }) ∨
    (∃ verbs pattern handler, call = .route verbs pattern handler ∧
      (a.addedBy? call = none ∧ a.setUp call = a ∨
        ∃ route router, a.addedBy? call = some route ∧ a.router.addRoutes [route] = .ok router ∧
          a.setUp call = { a with router := router, added := a.added ++ [route] })) := by
  cases call with
  | controller identifier c => exact .inl ⟨identifier, c, rfl, rfl, rfl⟩
  | route verbs pattern handler =>
    refine .inr ⟨verbs, pattern, handler, rfl, ?_⟩
    rw [addedBy?, setUp, addRoute]
    obtain ⟨e, hfailure, happlication⟩ | ⟨h, router, hread, hrouter, hfailure, happlication⟩ :=
      a.add_cases verbs pattern handler
    · rw [hfailure]
      refine .inl ⟨?_, happlication⟩
      cases handler.read a.config.dispatch.separator <;> rfl
    · rw [hfailure, hread]
      exact .inr ⟨_, router, rfl, hrouter, happlication⟩

/-! ## Live router and rebuild -/

/-- An application is in step if a rebuild for its own configuration makes the router that it
has. -/
def InStep (a : Application) : Prop := (a.rebuild a.config).result = .ok a.router

/-- A new application has the configured routes and the controllers that are always at hand. -/
theorem new_fields {config : Config} {a : Application} (h : (new config).result = .ok a) :
    a.InStep ∧ a.config = config ∧ a.added = [] ∧ a.registry = .builtin := by
  rw [new] at h
  cases hroutes : config.declaredRoutes with
  | error e => rw [hroutes] at h; cases h
  | ok routes =>
    rw [hroutes] at h
    dsimp only at h
    cases hfailure : (Router.empty.register routes).failure with
    | some e => rw [hfailure] at h; cases h
    | none =>
      rw [hfailure] at h
      cases h
      refine ⟨rebuild_eq_ok.2 ⟨routes, hroutes, ?_⟩, rfl, rfl, rfl⟩
      rw [List.append_nil]
      exact Router.addRoutes_eq_ok_iff.2 ⟨hfailure, rfl⟩

/-- A call keeps an application in step. -/
theorem InStep.setUp {a : Application} (h : a.InStep) (call : SetupCall) :
    (a.setUp call).InStep := by
  obtain ⟨identifier, c, -, -, heq⟩ | ⟨verbs, pattern, handler, -,
    ⟨-, heq⟩ | ⟨route, router, -, hrouter, heq⟩⟩ := setUp_cases a call
  · rw [heq]
    exact h
  · rwa [heq]
  · obtain ⟨routes, hroutes, hbatch⟩ := rebuild_eq_ok.1 h
    rw [heq, InStep, rebuild_eq_ok]
    refine ⟨routes, hroutes, ?_⟩
    show Router.empty.addRoutes (routes ++ (a.added ++ [route])) = .ok router
    rw [← List.append_assoc]
    exact (Router.addRoutes_append Router.empty_consistent hbatch).1 hrouter

theorem setUp_fields (a : Application) (call : SetupCall) :
    (a.setUp call).config = a.config ∧
      (a.setUp call).added = a.added ++ (a.addedBy? call).toList ∧
      (a.setUp call).registry = controllersAfter [call] a.registry := by
  obtain ⟨identifier, c, rfl, hadded, heq⟩ | ⟨verbs, pattern, handler, rfl,
    ⟨hadded, heq⟩ | ⟨route, router, hadded, -, heq⟩⟩ := setUp_cases a call <;>
  simp [hadded, heq, controllersAfter]

/-- After any calls an application has its configuration, the routes of the calls that succeeded and
the controllers of the calls. -/
theorem prepared_fields (calls : List SetupCall) (a : Application) :
    (a.prepared calls).config = a.config ∧
      (a.prepared calls).added = a.added ++ a.addedByAll calls ∧
      (a.prepared calls).registry = controllersAfter calls a.registry := by
  induction calls generalizing a with
  | nil => exact ⟨rfl, (List.append_nil _).symm, rfl⟩
  | cons call rest ih =>
    obtain ⟨hconfig, hadded, hregistry⟩ := ih (a.setUp call)
    obtain ⟨hconfig', hadded', hregistry'⟩ := a.setUp_fields call
    refine ⟨hconfig.trans hconfig', ?_, ?_⟩
    · rw [prepared, List.foldl_cons]
      rw [prepared] at hadded
      rw [hadded, hadded', addedByAll, List.append_assoc]
    · rw [prepared, List.foldl_cons]
      rw [prepared] at hregistry
      rw [hregistry, hregistry']
      rfl

/-- Whatever calls prepare an application, a rebuild for its own configuration makes the router that
it has. -/
theorem prepared_rebuild {config : Config} {a : Application}
    (h : (new config).result = .ok a) (calls : List SetupCall) :
    ((a.prepared calls).rebuild config).result = .ok (a.prepared calls).router := by
  obtain ⟨hstep, rfl, -, -⟩ := new_fields h
  have hrun : (a.prepared calls).InStep := by
    clear h
    induction calls generalizing a with
    | nil => exact hstep
    | cons call rest ih => exact ih (hstep.setUp call)
  rw [← (prepared_fields calls a).1]
  exact hrun

/-! ## Fresh applications -/

/-- The application with routes added one by one, their handlers given as they are. -/
def addEach (a : Application) (routes : List (Route Handler)) :
    Except AppError Application :=
  routes.foldlM (fun a r => (a.addRoute r.verbs r.pattern (.ready r.handler)).result) a

theorem router_of_addEach {a a' : Application} {routes : List (Route Handler)}
    (h : a.addEach routes = .ok a') : routes.foldlM Router.addRoute a.router = .ok a'.router := by
  induction routes generalizing a with
  | nil => cases h; rfl
  | cons route rest ih =>
    rw [addEach, List.foldlM_cons] at h
    cases hfirst : (a.addRoute route.verbs route.pattern (.ready route.handler)).result with
    | error e => rw [hfirst] at h; cases h
    | ok next =>
      rw [hfirst] at h
      obtain ⟨handler, router, hread, hrouter, rfl⟩ := addRoute_eq_ok hfirst
      cases hread
      rw [List.foldlM_cons, Router.addRoute, hrouter]
      exact ih h

/-- If a new application takes the routes of a configuration and then, one by one, routes that
another application has added, then a rebuild of the other one makes the same router. -/
theorem rebuild_of_addEach {a fresh grown : Application} {config : Config}
    (hfresh : (new config).result = .ok fresh) (hgrown : fresh.addEach a.added = .ok grown) :
    (a.rebuild config).result = .ok grown.router := by
  obtain ⟨hstep, rfl, hadded, -⟩ := new_fields hfresh
  obtain ⟨routes, hroutes, hrouter⟩ := rebuild_eq_ok.1 hstep
  rw [hadded, List.append_nil] at hrouter
  have hconsistent := Router.addRoutes_consistent Router.empty_consistent hrouter
  have hbatch := Router.addRoutes_of_addRoute hconsistent (router_of_addEach hgrown)
  exact rebuild_eq_ok.2
    ⟨routes, hroutes, (Router.addRoutes_append Router.empty_consistent hrouter).1 hbatch⟩

end

/-- Whatever calls have prepared an application, a rebuild for any configuration makes the router
of a new application for that configuration to which the routes of the calls that succeeded are
added one by one with their handlers, if such an application can be made. A rebuild for the
configuration that the application was made from always succeeds and makes the router it has. -/
theorem rebuild_as_fresh [Engine] {config : Config} {base : Application}
    (h : (new config).result = .ok base) (calls : List SetupCall) :
    (∀ c fresh grown, (new c).result = .ok fresh →
      fresh.addEach (base.addedByAll calls) = .ok grown →
        ((base.prepared calls).rebuild c).result = .ok grown.router) ∧
      ((base.prepared calls).rebuild config).result = .ok (base.prepared calls).router := by
  refine ⟨fun c fresh grown hfresh hgrown => ?_, prepared_rebuild h calls⟩
  obtain ⟨-, -, hnone, -⟩ := new_fields h
  obtain ⟨-, hadded, -⟩ := prepared_fields calls base
  rw [hnone, List.nil_append] at hadded
  exact rebuild_of_addEach hfresh (hadded ▸ hgrown)

theorem rebuild_with_other_separator :
    let config : Config := { Config.default with routes := [⟨["GET"], "/a", "echo"⟩] }
    let other : Config := { Config.default with
      dispatch := ⟨'#', "index"⟩, routes := [⟨["GET", "PUT"], "/b/{n:}", "echo#show"⟩] }
    let calls : List SetupCall := [.route [.get, .post, .get] "/c" (.reference "users@list"),
      .route [.get] "/\x7b" (.reference "users"), .route [] "/d" (.reference "users"),
      .route [.put] "/e" (.reference "@show"),
      .route [.put] "/{m:}" (.ready (.function fun _ => .plain 200 "done"))]
    ∃ base fresh grown, (new config).result = .ok base ∧ (new other).result = .ok fresh ∧
      fresh.addEach (base.addedByAll calls) = .ok grown ∧
      ((base.prepared calls).rebuild other).result = .ok grown.router ∧
      ((base.prepared calls).rebuild config).result = .ok (base.prepared calls).router ∧
      [Verb.get, .put].map (fun v =>
          (grown.router.table.value v).map fun e => (e.pattern.text, e.handler.text)) =
        [[("/b/{n:}", "echo#show"), ("/c", "users@list")],
          [("/b/{n:}", "echo#show"), ("/{m:}", "<fn>")]] := by
  intro config other calls
  obtain ⟨base, hbase, hrest⟩ : ∃ base, (new config).result = .ok base ∧
      ((new other).result.map fun fresh => (fresh.addEach (base.addedByAll calls)).map fun grown =>
        [Verb.get, .put].map fun v =>
          (grown.router.table.value v).map fun e => (e.pattern.text, e.handler.text)) =
      .ok (.ok [[("/b/{n:}", "echo#show"), ("/c", "users@list")],
        [("/b/{n:}", "echo#show"), ("/{m:}", "<fn>")]]) :=
    exists_of_map_eq_ok (by decide +kernel)
  obtain ⟨fresh, hfresh, hrest⟩ := exists_of_map_eq_ok hrest
  obtain ⟨grown, hgrown, hentries⟩ := exists_of_map_eq_ok hrest
  obtain ⟨hother, hown⟩ := rebuild_as_fresh hbase calls
  exact ⟨base, fresh, grown, hbase, hfresh, hgrown, hother other fresh grown hfresh hgrown, hown,
    hentries⟩

end Application

/-! ## What a rebuild makes -/

/-- The router has the routes of a configuration under each of their verbs in order, the added
routes behind them, and expressions that are in step with that. -/
structure Router.Serves [Engine] (r : Router Handler) (config : Config)
    (added : List (Route Handler)) : Prop where
  consistent : r.Consistent
  table : ∀ v, ∃ declared code, config.entriesFor? v = some declared ∧
    r.table.value v = declared ++ code ∧
    code.map (fun e => (e.pattern.text, e.handler)) =
      (added.filter fun d => d.verbs.contains v).map fun d => (d.pattern, d.handler)

/-- What a router serves determines it. -/
theorem Router.Serves.unique [Engine] {r r' : Router Handler} {config : Config}
    {added : List (Route Handler)} (h : r.Serves config added) (h' : r'.Serves config added) :
    r = r' := by
  refine h.consistent.eq_of_table h'.consistent fun v => ?_
  refine h.consistent.entries_eq h'.consistent ?_
  obtain ⟨declared, code, hdeclared, htable, hcode⟩ := h.table v
  obtain ⟨declared', code', hdeclared', htable', hcode'⟩ := h'.table v
  cases hdeclared.symm.trans hdeclared'
  rw [htable, htable', List.map_append, List.map_append, hcode, hcode']

theorem Verb.isSome_of_readAll {tokens : List String} {verbs : List Verb}
    (h : readAll tokens = .ok verbs) : ∀ t ∈ tokens, (ofToken? t).isSome := by
  have hread := readAll_eq_ok.1 h
  clear h
  induction hread with
  | nil => simp
  | cons ht _ ih => exact List.forall_mem_cons.2 ⟨by rw [ht]; rfl, ih⟩

/-- A declaration that stands for a route that passes its check is valid. -/
theorem RouteDeclaration.valid_of_check [Engine] {separator : Char} {d : RouteDeclaration}
    {r : Route Handler} {checked : CheckedRoute Handler} (h : d.toRoute separator = .ok r)
    (hcheck : r.check = .ok checked) : d.Valid separator := by
  obtain ⟨hverbs, hpattern, hhandler⟩ := toRoute_eq_ok.1 h
  have hcompiled := (Route.check_eq_ok hcheck).2.1
  refine ⟨?_, Verb.isSome_of_readAll hverbs, ⟨_, hpattern ▸ hcompiled⟩, ⟨_, hhandler⟩⟩
  -- Without methods there are no verbs, and the route is refused.
  intro hnil
  have hempty : (Verb.distinct r.verbs).isEmpty = true := by
    rw [Verb.isEmpty_of_readAll hverbs, hnil]
    rfl
  rw [Route.check, if_pos hempty] at hcheck
  cases hcheck

/-- The declarations of a configuration whose routes pass their checks are valid. -/
theorem Config.valid_of_check [Engine] {config : Config} {routes : List (Route Handler)}
    {checked : List (CheckedRoute Handler)} (hroutes : config.declaredRoutes = .ok routes)
    (hchecked : routes.mapM Route.check = .ok checked) :
    ∀ d ∈ config.routes, d.Valid config.dispatch.separator := by
  have hdeclared := forall₂_of_mapM hroutes
  have hchecks := forall₂_of_mapM hchecked
  generalize config.routes = declarations at hdeclared
  clear hroutes hchecked
  induction hdeclared generalizing checked with
  | nil => simp
  | cons hd _ ih =>
    cases hchecks with
    | cons hr hrest =>
      exact List.forall_mem_cons.2 ⟨RouteDeclaration.valid_of_check hd hr, ih hrest⟩

namespace Application

theorem serves_of_rebuild [Engine] {a : Application} {config : Config} {r : Router Handler}
    (h : (a.rebuild config).result = .ok r) : r.Serves config a.added := by
  obtain ⟨routes, hroutes, hrouter⟩ := rebuild_eq_ok.1 h
  obtain ⟨checked, hchecked, hfailure, rfl⟩ := Router.addRoutes_eq_ok.1 hrouter
  refine ⟨Router.addRoutes_consistent Router.empty_consistent hrouter, fun v => ?_⟩
  obtain ⟨declared, code, hdeclared, hcode, rfl⟩ := mapM_append_eq_ok.1 hchecked
  obtain ⟨routes', declared', hroutes', hdeclared', hentries⟩ :=
    exists_checked_of_valid (Config.valid_of_check hroutes hdeclared)
  cases hroutes.symm.trans hroutes'
  cases hdeclared.symm.trans hdeclared'
  have hverbs := fun d hd => (sound_of_mapM_check hchecked d hd).verbs
  have htable := (Router.registerChecked_of_none hverbs hfailure v).1
  rw [Router.entriesWith_empty, Router.entriesUnder_append] at htable
  exact ⟨_, _, hentries v 0, htable, Router.entriesUnder_of_check hcode v _⟩

end Application

end HttpRoutes
