import HttpRoutes.Proofs.Application
import HttpRoutes.Proofs.Route.Syntax

/-!
# From the faults of a configuration to the failure of an application

Checking a configuration goes through its routes once and collects everything. An application reads
all verbs and handlers first and only then checks verb sets and patterns, and it stops at the first
thing that is wrong. Both go through the routes in the same order, so that the application fails
with the first fault that concerns reading, and with the first other one if reading goes through
(`Application.fails_by_decisive`).
-/

namespace HttpRoutes

/-! ## The fault that decides -/

namespace ConfigFault

/-- The fault concerns what is read before any route is checked: the verbs and the handlers. -/
def isReading : ConfigFault → Bool
  | verb _ _ => true
  | handler _ _ => true
  | _ => false

/-- The fault concerns what is checked afterwards: the verb sets and the patterns. -/
def isChecking : ConfigFault → Bool
  | noMethods _ => true
  | pattern _ _ => true
  | _ => false

/-- What an application fails with for a fault of a declared route. -/
def failureOf? (d : RouteDeclaration) : ConfigFault → Option AppError
  | verb _ token => some (.verb d.pattern token)
  | handler _ e => some (.handler d.pattern e)
  | noMethods _ => some (.routes (.noVerbs d.pattern))
  | pattern _ e => some (.routes e)
  | _ => none

/-- What an application with these routes fails with for a fault in one of them. -/
def failure? (routes : List RouteDeclaration) (f : ConfigFault) : Option AppError :=
  f.index?.bind fun i => routes[i]?.bind fun d => f.failureOf? d

end ConfigFault

/-- The fault that an application fails for: the first that concerns reading, and the first that
concerns checking if none concerns reading. -/
def Config.decisive? [Engine] (c : Config) : Option ConfigFault :=
  (c.faults.find? ConfigFault.isReading).or (c.faults.find? ConfigFault.isChecking)

/-! ## One route -/

/-- The result for a route is the failure of the first fault of its declaration that counts, and a
success if none does. -/
def DecidedBy [Engine] {β : Type} (separator : Char) (counts : ConfigFault → Bool)
    (d : RouteDeclaration) (result : Except AppError β) : Prop :=
  ∀ index, match (d.faults index separator).find? counts with
    | some fault => fault.index? = some index ∧ ∃ e, fault.failureOf? d = some e ∧ result = .error e
    | none => ∃ b, result = .ok b

variable {separator : Char} {d : RouteDeclaration}

/-- Verbs are read up to the first token that is none. -/
theorem Verb.readAll_cases (tokens : List String) :
    match tokens.find? fun t => (ofToken? t).isNone with
    | some t => readAll tokens = .error t
    | none => ∃ verbs, readAll tokens = .ok verbs := by
  induction tokens with
  | nil => exact ⟨[], rfl⟩
  | cons t rest ih =>
    cases ht : ofToken? t with
    | none => simp [readAll, ht]
    | some v =>
      simp only [List.find?_cons, ht, Option.isNone_some, readAll]
      cases hfind : rest.find? fun t => (ofToken? t).isNone with
      | some t' =>
        rw [hfind] at ih
        simp only at ih ⊢
        rw [ih]
        rfl
      | none =>
        rw [hfind] at ih
        obtain ⟨verbs, hverbs⟩ := ih
        exact ⟨v :: verbs, by rw [hverbs]; rfl⟩

namespace RouteDeclaration

section

variable [Engine]

theorem find_reading (index : Nat) :
    (d.faults index separator).find? ConfigFault.isReading =
    match d.methods.find? fun t => (Verb.ofToken? t).isNone with
    | some t => some (.verb index t)
    | none =>
      match ControllerRef.parse d.handler separator with
      | .ok _ => none
      | .error e => some (.handler index e) := by
  have hverbs : ((d.methods.filter fun t => (Verb.ofToken? t).isNone).map
      (ConfigFault.verb index)).find? ConfigFault.isReading =
        (d.methods.find? fun t => (Verb.ofToken? t).isNone).map (.verb index) := by
    rw [List.find?_map, ← List.head?_filter, ← List.head?_filter, List.filter_eq_self.2]
    intro t _
    rfl
  have hnone : (if d.methods.isEmpty then [ConfigFault.noMethods index] else []).find?
      ConfigFault.isReading = none := by split <;> rfl
  simp only [faults, List.find?_append, hverbs, hnone, Option.none_or]
  cases d.methods.find? fun t => (Verb.ofToken? t).isNone with
  | some t => simp
  | none =>
    cases Pattern.compile d.pattern <;> cases ControllerRef.parse d.handler separator <;> rfl

theorem find_checking (index : Nat) :
    (d.faults index separator).find? ConfigFault.isChecking =
    if d.methods.isEmpty then some (.noMethods index)
    else
      match Pattern.compile d.pattern with
      | .ok _ => none
      | .error e => some (.pattern index e) := by
  have hverbs : ((d.methods.filter fun t => (Verb.ofToken? t).isNone).map
      (ConfigFault.verb index)).find? ConfigFault.isChecking = none := by
    rw [List.find?_map, Option.map_eq_none_iff, List.find?_eq_none]
    intro t _
    exact Bool.false_ne_true
  simp only [faults, List.find?_append, hverbs]
  split
  · rfl
  · cases Pattern.compile d.pattern <;> cases ControllerRef.parse d.handler separator <;> rfl

/-- Reading a route fails for the first fault of its declaration that concerns reading. -/
theorem toRoute_decided :
    DecidedBy separator ConfigFault.isReading d (d.toRoute separator) := by
  intro index
  rw [find_reading]
  have hverbs := Verb.readAll_cases d.methods
  cases hfind : d.methods.find? fun t => (Verb.ofToken? t).isNone with
  | some t =>
    rw [hfind] at hverbs
    exact ⟨rfl, _, rfl, by rw [toRoute, hverbs]⟩
  | none =>
    rw [hfind] at hverbs
    obtain ⟨verbs, hverbs⟩ := hverbs
    cases hparse : ControllerRef.parse d.handler separator with
    | error e =>
      refine ⟨rfl, _, rfl, ?_⟩
      rw [toRoute, hverbs, Handler.parse, hparse]
      rfl
    | ok ref =>
      refine ⟨⟨verbs, d.pattern, .controller ref⟩, ?_⟩
      rw [toRoute, hverbs, Handler.parse, hparse]
      rfl

/-- Checking a route that has been read fails for the first fault of its declaration that concerns
checking. -/
theorem check_decided {r : Route Handler} (h : d.toRoute separator = .ok r) :
    DecidedBy separator ConfigFault.isChecking d (r.check.mapError .routes) := by
  obtain ⟨hverbs, hpattern, -⟩ := toRoute_eq_ok.1 h
  have hempty := Verb.isEmpty_of_readAll hverbs
  intro index
  rw [find_checking, Route.check, hempty, hpattern]
  by_cases hnone : d.methods.isEmpty = true
  · rw [if_pos hnone]
    exact ⟨rfl, _, rfl, by rw [if_pos hnone]; rfl⟩
  · rw [if_neg hnone]
    simp only [hnone]
    cases Pattern.compile d.pattern with
    | error e => exact ⟨rfl, _, rfl, rfl⟩
    | ok p => exact ⟨_, rfl⟩

end

end RouteDeclaration

/-! ## All routes -/

/-- What happens to routes one after the other fails for the first fault of their declarations that
counts, and succeeds if none does. -/
theorem mapM_decided [Engine] {β γ : Type} {counts : ConfigFault → Bool} {f : γ → Except AppError β}
    {routes : List RouteDeclaration} {items : List γ}
    (h : List.Forall₂ (fun d x => DecidedBy separator counts d (f x)) routes items) (start : Nat) :
    match (routeFaults separator start routes).find? counts with
    | some fault => ∃ i d e, fault.index? = some (start + i) ∧ routes[i]? = some d ∧
        fault.failureOf? d = some e ∧ items.mapM f = .error e
    | none => ∃ results, items.mapM f = .ok results := by
  induction h generalizing start with
  | nil => exact ⟨[], rfl⟩
  | cons hfirst _ ih =>
    rename_i d x rest later _
    have hfirst := hfirst start
    have hrest := ih (start + 1)
    rw [routeFaults, List.find?_append, List.mapM_cons]
    cases hown : (d.faults start separator).find? counts with
    | some fault =>
      rw [hown] at hfirst
      obtain ⟨hindex, e, hfailure, hfails⟩ := hfirst
      exact ⟨0, d, e, hindex, rfl, hfailure, by rw [hfails]; rfl⟩
    | none =>
      rw [hown] at hfirst
      obtain ⟨first, hfirst⟩ := hfirst
      rw [Option.none_or, hfirst]
      cases hfind : (routeFaults separator (start + 1) rest).find? counts with
      | some fault =>
        rw [hfind] at hrest
        obtain ⟨i, d', e, hindex, hd', hfailure, hfails⟩ := hrest
        refine ⟨i + 1, d', e, ?_, hd', hfailure, by rw [hfails]; rfl⟩
        rw [hindex, Nat.add_assoc, Nat.add_comm 1]
      | none =>
        rw [hfind] at hrest
        obtain ⟨results, hresults⟩ := hrest
        exact ⟨first :: results, by rw [hresults]; rfl⟩

/-- Putting an error in other words does not change which item is the first to fail. -/
theorem mapM_mapError {β γ ε ε' : Type} (f : γ → Except ε β) (g : ε → ε') (items : List γ) :
    items.mapM (fun x => (f x).mapError g) = (items.mapM f).mapError g := by
  induction items with
  | nil => rfl
  | cons x rest ih =>
    rw [List.mapM_cons, List.mapM_cons, ih]
    cases f x with
    | error e => rfl
    | ok b => cases rest.mapM f <;> rfl

/-- What a row of items fails with, one of them fails with. -/
theorem exists_of_mapM_error {β γ ε : Type} {f : γ → Except ε β} {items : List γ} {e : ε}
    (h : items.mapM f = .error e) : ∃ x ∈ items, f x = .error e := by
  induction items with
  | nil => cases h
  | cons x rest ih =>
    rw [List.mapM_cons] at h
    cases hx : f x with
    | error e' =>
      rw [hx] at h
      cases h
      exact ⟨x, List.mem_cons_self, hx⟩
    | ok b =>
      cases hrest : rest.mapM f with
      | error e' =>
        rw [hx, hrest] at h
        cases h
        obtain ⟨y, hy, hfails⟩ := ih hrest
        exact ⟨y, List.mem_cons_of_mem _ hy, hfails⟩
      | ok later =>
        rw [hx, hrest] at h
        cases h

/-- Checking a route has nothing to do with other routes. -/
theorem Route.check_ne_combine [Engine] {α : Type} {r : Route α} {e : RouteError}
    (h : r.check = .error e) (v : Verb) : e ≠ .combine v := by
  rw [Route.check] at h
  split at h
  · cases h
    simp
  · cases hcompile : Pattern.compile r.pattern with
    | ok p => rw [hcompile] at h; cases h
    | error e' =>
      rw [hcompile] at h
      cases h
      obtain ⟨before, rest, -, -, hfault⟩ := Pattern.compile_eq_error.1 hcompile
      rintro rfl
      cases hfault

namespace Config

variable {c : Config}

/-- What is wrong with the settings lies in no route. -/
theorem index_of_mem_settingFaults {f : ConfigFault} (h : f ∈ c.settingFaults) :
    f.index? = none := by
  simp only [settingFaults, List.mem_append] at h
  rcases h with ((h | h) | h) | h
  all_goals
    split at h
    all_goals simp_all [ConfigFault.index?]

theorem find_faults [Engine] {counts : ConfigFault → Bool}
    (h : ∀ f, counts f = true → f.index? ≠ none) :
    c.faults.find? counts = (routeFaults c.dispatch.separator 0 c.routes).find? counts := by
  have hsettings : c.settingFaults.find? counts = none :=
    List.find?_eq_none.2 fun f hf hcounts => h f hcounts (index_of_mem_settingFaults hf)
  rw [faults, List.find?_append, hsettings, Option.none_or]

/-- Reading the routes of a configuration fails for the first fault that concerns reading. -/
theorem declaredRoutes_decided [Engine] :
    match c.faults.find? ConfigFault.isReading with
    | some fault => ∃ e, fault.failure? c.routes = some e ∧ (∀ re, e ≠ .routes re) ∧
        c.declaredRoutes = .error e
    | none => ∃ routes, c.declaredRoutes = .ok routes := by
  have hrun := mapM_decided (f := RouteDeclaration.toRoute c.dispatch.separator)
    (List.forall₂_same.2 fun d (_ : d ∈ c.routes) => RouteDeclaration.toRoute_decided) 0
  rw [find_faults fun f hf => by cases f <;> simp_all [ConfigFault.isReading, ConfigFault.index?]]
  cases hfind : (routeFaults c.dispatch.separator 0 c.routes).find? ConfigFault.isReading with
  | none =>
    rw [hfind] at hrun
    exact hrun
  | some fault =>
    rw [hfind] at hrun
    obtain ⟨i, d, e, hindex, hd, hfailure, hfails⟩ := hrun
    refine ⟨e, ?_, ?_, hfails⟩
    · rw [Nat.zero_add] at hindex
      rw [ConfigFault.failure?, hindex, Option.bind_some, hd, Option.bind_some, hfailure]
    · have hreading := List.find?_some hfind
      rintro re rfl
      cases fault <;> simp_all [ConfigFault.isReading, ConfigFault.failureOf?]

/-- Checking the routes of a configuration that have been read fails for the first fault that
concerns checking. -/
theorem checks_decided [Engine] {routes : List (Route Handler)}
    (h : c.declaredRoutes = .ok routes) :
    match c.faults.find? ConfigFault.isChecking with
    | some fault => ∃ e, fault.failure? c.routes = some (.routes e) ∧ (∀ v, e ≠ .combine v) ∧
        routes.mapM Route.check = .error e
    | none => ∃ checked, routes.mapM Route.check = .ok checked := by
  have hrun := mapM_decided (f := fun r : Route Handler => r.check.mapError AppError.routes)
    ((forall₂_of_mapM h).imp fun d r hr => RouteDeclaration.check_decided hr) 0
  rw [mapM_mapError] at hrun
  rw [find_faults fun f hf => by cases f <;> simp_all [ConfigFault.isChecking, ConfigFault.index?]]
  cases hfind : (routeFaults c.dispatch.separator 0 c.routes).find? ConfigFault.isChecking with
  | none =>
    rw [hfind] at hrun
    obtain ⟨checked, hchecked⟩ := hrun
    cases hchecks : routes.mapM Route.check with
    | error e => rw [hchecks] at hchecked; cases hchecked
    | ok checked => exact ⟨checked, rfl⟩
  | some fault =>
    rw [hfind] at hrun
    obtain ⟨i, d, e, hindex, hd, hfailure, hfails⟩ := hrun
    cases hchecks : routes.mapM Route.check with
    | ok checked => rw [hchecks] at hfails; cases hfails
    | error re =>
      rw [hchecks] at hfails
      cases hfails
      obtain ⟨r, -, hr⟩ := exists_of_mapM_error hchecks
      refine ⟨re, ?_, Route.check_ne_combine hr, rfl⟩
      rw [Nat.zero_add] at hindex
      rw [ConfigFault.failure?, hindex, Option.bind_some, hd, Option.bind_some, hfailure]

end Config

/-! ## Applications -/

theorem Router.register_error [Engine] {α : Type} {r : Router α} {routes : List (Route α)}
    {e : RouteError} (h : routes.mapM Route.check = .error e) :
    (r.register routes).failure = some e := by
  rw [register, h]

namespace Application

/-- A configuration with a fault in a route makes no application and no other router for one. Both
fail with the first fault that concerns the verbs or the handler of a route, and with the first
other fault of a route if there is none. Combined expressions are not built at all. -/
theorem fails_by_decisive [Engine] (c : Config) (h : ∃ f ∈ c.faults, f.index? ≠ none) :
    ∃ fault ∈ c.faults, ∃ e, c.decisive? = some fault ∧ fault.failure? c.routes = some e ∧
      (∀ v, e ≠ .routes (.combine v)) ∧ (new c).result = .error e ∧
      ∀ a : Application, (a.rebuild c).result = .error e := by
  have hreads := c.declaredRoutes_decided
  cases hreading : c.faults.find? ConfigFault.isReading with
  | some fault =>
    rw [hreading] at hreads
    obtain ⟨e, hfailure, hne, hfails⟩ := hreads
    refine ⟨fault, List.mem_of_find?_eq_some hreading, e, ?_, hfailure, fun v => hne _, ?_,
      fun a => ?_⟩
    · rw [Config.decisive?, hreading, Option.some_or]
    · rw [new, hfails]
      rfl
    · rw [rebuild, hfails]
      rfl
  | none =>
    rw [hreading] at hreads
    obtain ⟨routes, hroutes⟩ := hreads
    have hchecks := Config.checks_decided hroutes
    cases hchecking : c.faults.find? ConfigFault.isChecking with
    | some fault =>
      rw [hchecking] at hchecks
      obtain ⟨e, hfailure, hne, hfails⟩ := hchecks
      have hmore (added : List (Route Handler)) :
          (routes ++ added).mapM Route.check = .error e := by
        rw [List.mapM_append, hfails]
        rfl
      refine ⟨fault, List.mem_of_find?_eq_some hchecking, .routes e, ?_, hfailure, ?_, ?_,
        fun a => ?_⟩
      · rw [Config.decisive?, hreading, hchecking, Option.none_or]
      · intro v hv
        cases hv
        exact hne v rfl
      · rw [new, hroutes]
        simp only [Router.register_error hfails]
      · rw [rebuild, hroutes]
        simp only [Router.register_error (hmore a.added)]
    | none =>
      -- Every fault of a route concerns reading or checking.
      obtain ⟨f, hf, hindex⟩ := h
      have hnot := List.find?_eq_none.1 hreading f hf
      have hnot' := List.find?_eq_none.1 hchecking f hf
      cases f <;> simp_all [ConfigFault.isReading, ConfigFault.isChecking, ConfigFault.index?]

/-- The first fault lies in a pattern, and a later route has a handler that cannot be read. What the
application fails with is the token between them, the first fault that concerns reading. -/
theorem fails_by_token :
    let c : Config := { Config.default with routes := [⟨["GET"], "/\x7bid", "page"⟩,
      ⟨["GET", "FETCH"], "/users", "users@show"⟩, ⟨[], "/", "@"⟩] }
    c.faults.length = 4 ∧ c.decisive? = some (.verb 1 "FETCH") ∧
      (new c).result = .error (.verb "/users" "FETCH") ∧
      ∀ a : Application, (a.rebuild c).result = .error (.verb "/users" "FETCH") := by
  intro c
  have hfault : .verb 1 "FETCH" ∈ c.faults := by decide +kernel
  have hdecisive : c.decisive? = some (.verb 1 "FETCH") := by decide +kernel
  obtain ⟨fault, -, e, hfirst, hfailure, -, hnew, hrebuild⟩ :=
    fails_by_decisive c ⟨_, hfault, by decide⟩
  cases hfirst.symm.trans hdecisive
  cases hfailure
  exact ⟨by decide +kernel, hdecisive, hnew, hrebuild⟩

end Application

end HttpRoutes
