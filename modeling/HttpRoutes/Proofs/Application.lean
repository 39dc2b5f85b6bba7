import HttpRoutes.Application
import HttpRoutes.Config.Fault
import HttpRoutes.Proofs.Route.CombinedForm
import HttpRoutes.Proofs.Route.Registration

/-!
# From a valid configuration to an application

Checking a configuration looks at every route on its own, and an application joins the routes of a
verb in one expression. Routes that are valid apart also work together, except that the names inside
their placeholders must not meet (`Application.new_of_valid`).
-/

namespace HttpRoutes

open Expression

/-! ## Valid declarations -/

section

variable [Engine]

/-- What checking a declared route makes sure of. -/
structure RouteDeclaration.Valid (separator : Char) (d : RouteDeclaration) : Prop where
  methods : d.methods ≠ []
  verbs : ∀ token ∈ d.methods, (Verb.ofToken? token).isSome
  pattern : ∃ p, Pattern.compile d.pattern = .ok p
  handler : ∃ h, Handler.parse d.handler separator = .ok h

theorem RouteDeclaration.valid_of_faults {d : RouteDeclaration} {index : Nat}
    {separator : Char} (h : d.faults index separator = []) : d.Valid separator := by
  simp only [faults, List.append_eq_nil_iff] at h
  obtain ⟨⟨⟨hmethods, hverbs⟩, hpattern⟩, hhandler⟩ := h
  refine ⟨?_, ?_, ?_, ?_⟩
  · rintro hnil
    rw [hnil] at hmethods
    cases hmethods
  · simpa [List.filter_eq_nil_iff, Option.isNone_iff_eq_none, Option.isSome_iff_ne_none]
      using hverbs
  · cases hp : Pattern.compile d.pattern with
    | ok p => exact ⟨p, rfl⟩
    | error e => rw [hp] at hpattern; cases hpattern
  · rw [Handler.parse]
    cases hr : ControllerRef.parse d.handler separator with
    | ok ref => exact ⟨_, rfl⟩
    | error e => rw [hr] at hhandler; cases hhandler

theorem valid_of_routeFaults {separator : Char} {index : Nat}
    {routes : List RouteDeclaration} (h : routeFaults separator index routes = []) :
    ∀ d ∈ routes, d.Valid separator := by
  induction routes generalizing index with
  | nil => simp
  | cons d rest ih =>
    rw [routeFaults, List.append_eq_nil_iff] at h
    intro d' hd'
    rcases List.mem_cons.1 hd' with rfl | hd'
    · exact RouteDeclaration.valid_of_faults h.1
    · exact ih h.2 d' hd'

/-- Every route of a valid configuration is valid. -/
theorem Config.routes_valid (c : Config) (h : c.isValid = true) :
    ∀ d ∈ c.routes, d.Valid c.dispatch.separator := by
  rw [isValid, List.isEmpty_iff, faults, List.append_eq_nil_iff] at h
  exact valid_of_routeFaults h.2

/-! ## Declared entries -/

/-- The entries that declarations stand for, the first of which has the index `start`. -/
def declaredEntries? (separator : Char) (start : Nat) :
    List RouteDeclaration → Option (List (Entry Handler))
  | [] => some []
  | d :: rest => do
    let pattern ← (Pattern.compile d.pattern).toOption
    let handler ← (Handler.parse d.handler separator).toOption
    let entries ← declaredEntries? separator (start + 1) rest
    some (⟨pattern, handler, start⟩ :: entries)

/-- The entries that a configuration declares under a verb, in the order of its routes. -/
def Config.entriesFor? (c : Config) (v : Verb) : Option (List (Entry Handler)) :=
  declaredEntries? c.dispatch.separator 0 (c.routes.filter fun d => d.methods.contains v.token)

end

theorem Verb.readAll_eq_ok {tokens : List String} {verbs : List Verb} :
    readAll tokens = .ok verbs ↔ List.Forall₂ (fun t v => ofToken? t = some v) tokens verbs := by
  constructor
  · intro h
    induction tokens generalizing verbs with
    | nil =>
      cases h
      exact .nil
    | cons t rest ih =>
      rw [readAll] at h
      cases ht : ofToken? t with
      | none => rw [ht] at h; cases h
      | some v =>
        cases hrest : readAll rest with
        | error e => rw [ht, hrest] at h; cases h
        | ok later =>
          rw [ht, hrest] at h
          cases h
          exact .cons ht (ih hrest)
  · intro h
    induction h with
    | nil => rfl
    | cons ht _ ih =>
      rw [readAll, ht, ih]
      rfl

/-- Tokens of verbs are all read, and each verb is among those read if its token is. -/
theorem Verb.exists_readAll {tokens : List String} (h : ∀ t ∈ tokens, (ofToken? t).isSome) :
    ∃ verbs, readAll tokens = .ok verbs ∧ ∀ v, v ∈ verbs ↔ v.token ∈ tokens := by
  induction tokens with
  | nil => exact ⟨[], rfl, by simp⟩
  | cons t rest ih =>
    obtain ⟨first, hfirst⟩ := Option.isSome_iff_exists.1 (h t List.mem_cons_self)
    obtain ⟨verbs, hverbs, hmem⟩ := ih fun s hs => h s (List.mem_cons_of_mem _ hs)
    refine ⟨first :: verbs, readAll_eq_ok.2 (.cons hfirst (readAll_eq_ok.1 hverbs)), fun v => ?_⟩
    have htoken : v = first ↔ v.token = t := by
      refine ⟨fun hv => hv ▸ token_of_ofToken? hfirst, fun hv => ?_⟩
      rw [← hv, ofToken?_token] at hfirst
      exact Option.some.inj hfirst
    rw [List.mem_cons, List.mem_cons, hmem, htoken]

/-- There are verbs exactly if there are tokens. -/
theorem Verb.isEmpty_of_readAll {tokens : List String} {verbs : List Verb}
    (h : readAll tokens = .ok verbs) : (distinct verbs).isEmpty = tokens.isEmpty := by
  cases readAll_eq_ok.1 h with
  | nil => rfl
  | cons _ _ =>
    exact List.isEmpty_eq_false_iff.2 (List.ne_nil_of_mem (mem_distinct.2 List.mem_cons_self))

/-- A declaration stands for a route if its verbs and its handler can be read. -/
theorem RouteDeclaration.toRoute_eq_ok {separator : Char} {d : RouteDeclaration}
    {r : Route Handler} : d.toRoute separator = .ok r ↔ Verb.readAll d.methods = .ok r.verbs ∧
      r.pattern = d.pattern ∧ Handler.parse d.handler separator = .ok r.handler := by
  obtain ⟨verbs, pattern, handler⟩ := r
  rw [toRoute]
  cases Verb.readAll d.methods with
  | error token => simp
  | ok verbs' =>
    cases Handler.parse d.handler separator with
    | error e => simp
    | ok handler' => simp [eq_comm]

/-- A valid declaration stands for a route that passes its check. -/
theorem RouteDeclaration.Valid.exists_checked [Engine] {separator : Char} {d : RouteDeclaration}
    (h : d.Valid separator) :
    ∃ r checked, d.toRoute separator = .ok r ∧ r.check = .ok checked ∧
      Pattern.compile d.pattern = .ok checked.pattern ∧
      Handler.parse d.handler separator = .ok checked.handler ∧
      ∀ v, v ∈ checked.verbs ↔ v.token ∈ d.methods := by
  obtain ⟨verbs, hverbs, hmem⟩ := Verb.exists_readAll h.verbs
  obtain ⟨p, hp⟩ := h.pattern
  obtain ⟨handler, hhandler⟩ := h.handler
  have hdistinct : (Verb.distinct verbs).isEmpty = false := by
    rw [Verb.isEmpty_of_readAll hverbs]
    exact List.isEmpty_eq_false_iff.2 h.methods
  refine ⟨⟨verbs, d.pattern, handler⟩, ⟨Verb.distinct verbs, p, handler⟩,
    toRoute_eq_ok.2 ⟨hverbs, rfl, hhandler⟩, ?_, hp, hhandler,
    fun v => Verb.mem_distinct.trans (hmem v)⟩
  rw [Route.check]
  dsimp only
  rw [hdistinct, hp]
  rfl

/-- Valid declarations stand for routes that pass their checks and add the declared entries. -/
theorem exists_checked_of_valid [Engine] {separator : Char} {declarations : List RouteDeclaration}
    (h : ∀ d ∈ declarations, d.Valid separator) :
    ∃ routes checked, declarations.mapM (RouteDeclaration.toRoute separator) = .ok routes ∧
      routes.mapM Route.check = .ok checked ∧
      ∀ v start, declaredEntries? separator start
          (declarations.filter fun d => d.methods.contains v.token) =
        some (Router.entriesUnder v start checked) := by
  induction declarations with
  | nil => exact ⟨[], [], rfl, rfl, fun v start => rfl⟩
  | cons d rest ih =>
    obtain ⟨routes, checked, hroutes, hchecked, hentries⟩ :=
      ih fun d hd => h d (List.mem_cons_of_mem _ hd)
    obtain ⟨r, first, hr, hfirst, hpattern, hhandler, hverbs⟩ :=
      (h d List.mem_cons_self).exists_checked
    refine ⟨r :: routes, first :: checked, ?_, ?_, fun v start => ?_⟩
    · rw [List.mapM_cons, hr, hroutes]
      rfl
    · rw [List.mapM_cons, hfirst, hchecked]
      rfl
    · rw [Router.entriesUnder]
      by_cases hv : v.token ∈ d.methods
      · rw [if_pos ((hverbs v).2 hv), List.filter_cons, if_pos (List.contains_iff_mem.2 hv),
          declaredEntries?, hpattern, hhandler, hentries]
        rfl
      · rw [if_neg (mt (hverbs v).1 hv), List.filter_cons,
          if_neg (mt List.contains_iff_mem.1 hv), hentries]

/-! ## Starting -/

namespace Application

/-- An application starts if and only if its routes can be registered, and its router is then the
one with the routes registered. -/
theorem new_eq_ok [Engine] {config : Config} {routes : List (Route Handler)}
    {checked : List (CheckedRoute Handler)} (hroutes : config.declaredRoutes = .ok routes)
    (hchecked : routes.mapM Route.check = .ok checked) {a : Application} :
    (new config).result = .ok a ↔
      (Router.empty.registerChecked checked).failure = none ∧
        a = ⟨config, (Router.empty.registerChecked checked).router, [], .builtin⟩ := by
  have hregister : Router.empty.register routes = Router.empty.registerChecked checked := by
    rw [Router.register, hchecked]
  rw [new, hroutes]
  dsimp only
  rw [hregister]
  cases (Router.empty.registerChecked checked).failure with
  | some e => simp
  | none => simp [eq_comm]

/-- A valid configuration makes an application if and only if no verb gives one name to two groups
inside its placeholders, within the limits of the engine and if every placeholder reads inside
parentheses as it reads alone. The application has the declared routes under each of their verbs in
order. -/
theorem new_of_valid [Engine] {config : Config} (hvalid : config.isValid = true)
    (hinside : ∀ v entries, config.entriesFor? v = some entries → ∀ e ∈ entries,
      ∀ p, .placeholder p ∈ e.pattern.parts → ReadsInside p.tried.toList)
    (hlimits : ∀ v entries, config.entriesFor? v = some entries →
      Expression.WithinLimits Combined.memoryLimit (Combined.sourceOf entries)) :
    ((∃ a, (new config).result = .ok a) ↔ ∀ v entries, config.entriesFor? v = some entries →
      (entries.flatMap Entry.innerNames).Nodup) ∧
    ∀ a, (new config).result = .ok a →
      ∀ v, config.entriesFor? v = some (a.router.table.value v) := by
  obtain ⟨routes, checked, hroutes, hchecked, hdeclared⟩ :=
    exists_checked_of_valid (config.routes_valid hvalid)
  have hsound := sound_of_mapM_check hchecked
  have hverbs := fun d hd => (hsound d hd).verbs
  have hentries (v : Verb) : config.entriesFor? v = some (Router.entriesUnder v 0 checked) :=
    hdeclared v 0
  -- Verbs without routes are not built, and the limits leave names as the only obstacle.
  have hbuilds (v : Verb) (hne : Router.entriesUnder v 0 checked ≠ []) :
      (∃ c, Combined.build v (Router.entriesUnder v 0 checked) = .ok c) ↔
        ((Router.entriesUnder v 0 checked).flatMap Entry.innerNames).Nodup := by
    refine build_succeeds hne (checked_emits (fun e he => ?_) (hinside v _ (hentries v)))
      (hlimits v _ (hentries v))
    obtain ⟨d, hd, hpattern⟩ := Router.exists_of_mem_entriesUnder he
    rw [hpattern]
    exact (hsound d hd).compiled
  have hstarts {a : Application} := new_eq_ok (a := a) hroutes hchecked
  have hsucceeds := Router.registerChecked_succeeds (r := Router.empty) hverbs
  simp only [Router.routeCount_empty, Router.entriesWith_empty] at hsucceeds
  refine ⟨⟨?_, fun hnames => ?_⟩, fun a ha v => ?_⟩
  · rintro ⟨a, ha⟩ v entries he
    obtain rfl := Option.some.inj ((hentries v).symm.trans he)
    by_cases hne : Router.entriesUnder v 0 checked = []
    · rw [hne]
      exact List.nodup_nil
    · exact (hbuilds v hne).1 (hsucceeds.1 (hstarts.1 ha).1 v hne)
  · refine ⟨_, hstarts.2 ⟨hsucceeds.2 fun v hne => ?_, rfl⟩⟩
    exact (hbuilds v hne).2 (hnames v _ (hentries v))
  · obtain ⟨hfailure, rfl⟩ := hstarts.1 ha
    rw [hentries, (Router.registerChecked_of_none hverbs hfailure v).1, Router.entriesWith_empty]

theorem new_of_users_and_pages :
    let config : Config := { Config.default with routes := [
      ⟨["GET", "POST"], "/users/{id:[0-9]+}", "users@show"⟩, ⟨["GET"], "/{(?P<n>a)|b}", "pages"⟩] }
    ∃ a, (new config).result = .ok a ∧
      ∀ v, config.entriesFor? v = some (a.router.table.value v) := by
  intro config
  have hinside : ∀ v ∈ Verb.all, ∀ entries ∈ config.entriesFor? v, ∀ e ∈ entries,
      ∀ p ∈ placeholders e.pattern.parts, ReadsInside p.tried.toList := by decide +kernel
  have hlimits : ∀ v ∈ Verb.all, ∀ entries ∈ config.entriesFor? v,
      Expression.WithinLimits Combined.memoryLimit (Combined.sourceOf entries) := by decide +kernel
  have hnames : ∀ v ∈ Verb.all, ∀ entries ∈ config.entriesFor? v,
      (entries.flatMap Entry.innerNames).Nodup := by decide +kernel
  have hvalid : config.isValid = true := by decide +kernel
  obtain ⟨hstarts, htable⟩ := new_of_valid hvalid
    (fun v entries h e he p hp =>
      hinside v (Verb.mem_all v) entries h e he p (mem_placeholders.2 hp))
    fun v => hlimits v (Verb.mem_all v)
  obtain ⟨a, ha⟩ := hstarts.2 fun v => hnames v (Verb.mem_all v)
  exact ⟨a, ha, htable a ha⟩

/-- A name that two routes use inside their placeholders, or a comment that stays open, keeps a
valid configuration from making an application. -/
theorem valid_without_application :
    let named : Config := { Config.default with routes := [
      ⟨["GET"], "/a/{a:(?P<n>x)}", "a"⟩, ⟨["GET"], "/b/{a:(?P<n>x)}", "b"⟩] }
    let commented : Config := { Config.default with routes := [⟨["GET"], "/{(?x)a#}", "a"⟩] }
    ∀ config ∈ [named, commented], config.isValid = true ∧
      (∀ v ∈ Verb.all, ∀ entries, config.entriesFor? v = some entries →
        Expression.WithinLimits Combined.memoryLimit (Combined.sourceOf entries)) ∧
      ∀ a, (new config).result ≠ .ok a := by
  intro named commented config hconfig
  have hlimits : ∀ config ∈ [named, commented], ∀ v ∈ Verb.all, ∀ entries ∈ config.entriesFor? v,
      Expression.WithinLimits Combined.memoryLimit (Combined.sourceOf entries) := by decide +kernel
  have hfails : ∀ config ∈ [named, commented], config.isValid = true ∧
      (new config).result.toOption.isSome = false := by decide +kernel
  obtain ⟨hvalid, hnone⟩ := hfails config hconfig
  refine ⟨hvalid, hlimits config hconfig, fun a ha => ?_⟩
  rw [ha] at hnone
  cases hnone

end Application

end HttpRoutes
