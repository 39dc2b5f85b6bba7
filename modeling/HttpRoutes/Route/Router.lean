import HttpRoutes.Event
import HttpRoutes.Route.Resolution

/-!
# Routers

A `Router` keeps the routes registered under every verb and, for each verb that has routes, a
combined expression for matching. `Router.register` adds a batch of routes: every route is
checked, the entries of each verb are staged, the combined expression of each touched verb is
built, and only when all of that has succeeded are the entries and the expressions taken over. A
registration that fails changes nothing.
-/

namespace HttpRoutes

/-- A route to be registered. -/
structure Route (α : Type) where
  verbs : List Verb
  pattern : String
  handler : α
deriving DecidableEq, Repr

/-- A route whose pattern has been compiled and whose verbs are distinct and in order. -/
structure CheckedRoute (α : Type) where
  verbs : List Verb
  pattern : Pattern
  handler : α
deriving DecidableEq, Repr

/-- Check a route on its own: it must name a verb, and its pattern must compile. -/
def Route.check [Engine] {α : Type} (r : Route α) : Except RouteError (CheckedRoute α) :=
  let verbs := Verb.distinct r.verbs
  if verbs.isEmpty then .error (.noVerbs r.pattern)
  else (Pattern.compile r.pattern).map fun pattern => ⟨verbs, pattern, r.handler⟩

/-- The routes of every verb, oldest first. -/
abbrev RouteTable (α : Type) := PerVerb (List (Entry α))

/-- The routes of every verb, and the combined expression of every verb that has one. -/
structure Router (α : Type) where
  table : RouteTable α
  snapshots : PerVerb (Option (Combined α))
deriving DecidableEq, Repr

namespace Router

variable {α : Type}

/-- The router without routes. -/
def empty : Router α := ⟨.const [], .const none⟩

/-- How many routes a verb has. -/
def routeCount (r : Router α) (v : Verb) : Nat := (r.table.value v).length

/-- The combined expression of a verb, if the verb has routes. -/
def snapshot? (r : Router α) (v : Verb) : Option (Combined α) := r.snapshots.value v

/-- The route that a path leads to under a verb. -/
def resolve (r : Router α) (v : Verb) (path : String) : Except RouteError (Option (RouteMatch α)) :=
  match r.snapshot? v with
  | none => .ok none
  | some c => c.resolve path

/-! ## Registration -/

/-- The new entries of the verbs that a batch touches, behind their present ones. -/
abbrev Staged (α : Type) := PerVerb (Option (List (Entry α)))

/-- Stage a route for a verb. -/
def stageFor (table : RouteTable α) (r : CheckedRoute α) (staged : Staged α) (v : Verb) :
    Staged α :=
  let entries := (staged.value v).getD (table.value v)
  staged.set v (some (entries ++ [⟨r.pattern, r.handler, entries.length⟩]))

/-- Stage routes in order. -/
def stage (table : RouteTable α) (routes : List (CheckedRoute α)) : Staged α :=
  routes.foldl (fun staged r => r.verbs.foldl (stageFor table r) staged) (.const none)

/-- The combined expressions built for a batch, up to the first that cannot be built. -/
structure Rebuilt (α : Type) where
  built : List (Combined α)
  failure : Option RouteError

/-- Build the combined expressions of the staged verbs, in order. -/
def rebuild [Engine] (staged : Staged α) : List Verb → Rebuilt α
  | [] => ⟨[], none⟩
  | v :: rest =>
    match staged.value v with
    | none => rebuild staged rest
    | some entries =>
      match Combined.build v entries with
      | .error e => ⟨[], some e⟩
      | .ok c =>
        let later := rebuild staged rest
        ⟨c :: later.built, later.failure⟩

/-- The staged entries of a verb that the table does not have yet. -/
def additions (table : RouteTable α) (staged : Staged α) (v : Verb) : List (Entry α) :=
  ((staged.value v).getD []).drop (table.value v).length

/-- Take over a verb's staged entries and its combined expression. -/
def commit (staged : Staged α) (r : Router α) (c : Combined α) : Router α where
  table := r.table.set c.verb (r.table.value c.verb ++ additions r.table staged c.verb)
  snapshots := r.snapshots.set c.verb (some c)

/-- What a registration came to: the router afterwards, why it failed if it did, and what it
reports. -/
structure Registration (α : Type) where
  router : Router α
  failure : Option RouteError
  events : List Event

/-- The event of a combined expression that has been built. -/
def rebuiltEvent (c : Combined α) : Event where
  severity := .debug
  message := "Combined route expression rebuilt"
  fields := [("verb", c.verb.token), ("alternatives", toString c.alternatives.length),
    ("groups", toString (Combined.groupsOf (c.alternatives.map (·.entry))))]

/-- The event of an entry taken over. -/
def registeredEvent (v : Verb) (e : Entry α) : Event where
  severity := .debug
  message := "Route registered"
  fields := [("verb", v.token), ("pattern", e.pattern.text),
    ("registration_index", toString e.index)]

section

variable [Engine]

/-- Register checked routes. -/
def registerChecked (r : Router α) (routes : List (CheckedRoute α)) : Registration α :=
  let staged := stage r.table routes
  let rebuilt := rebuild staged Verb.all
  let built := rebuilt.built.map rebuiltEvent
  match rebuilt.failure with
  | some e => ⟨r, some e, built⟩
  | none =>
    let registered := rebuilt.built.flatMap fun c =>
      (additions r.table staged c.verb).map (registeredEvent c.verb)
    ⟨rebuilt.built.foldl (commit staged) r, none, built ++ registered⟩

/-- Register a batch of routes in order, all or none. -/
def register (r : Router α) (routes : List (Route α)) : Registration α :=
  match routes.mapM Route.check with
  | .error e => ⟨r, some e, []⟩
  | .ok routes => r.registerChecked routes

/-- The router with a batch of routes added, or the reason why it cannot be added. -/
def addRoutes (r : Router α) (routes : List (Route α)) : Except RouteError (Router α) :=
  let registration := r.register routes
  match registration.failure with
  | some e => .error e
  | none => .ok registration.router

/-- The router with one route added. -/
def addRoute (r : Router α) (route : Route α) :
    Except RouteError (Router α) :=
  r.addRoutes [route]

end

/-- The router in words: the verbs that have routes. -/
def describe (r : Router α) : String :=
  let verbs := Verb.all.filter fun v => (r.snapshot? v).isSome
  let listed := ", ".intercalate (verbs.map Verb.name)
  s!"Router \x7b verbs: [{listed}] \x7d"

end Router

end HttpRoutes
