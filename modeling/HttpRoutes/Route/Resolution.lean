import HttpRoutes.Params
import HttpRoutes.Route.Combined

/-!
# Resolving paths

`Combined.resolve` matches a path, without the slashes at its ends, against a combined expression.
The first group that was captured is the one around the alternative that matched, and the groups
of the placeholders are counted from there. Two outer groups at once are reported and never
decided between.
-/

namespace HttpRoutes

/-- A route that matched a path. -/
structure RouteMatch (α : Type) where
  index : Nat
  pattern : String
  handler : α
  params : Params
deriving DecidableEq, Repr

namespace Combined

variable {α : Type}

/-- Where a number stands in an ascending list, looked for between two positions. -/
def bisect (groups : Array Nat) (group low high : Nat) : Option Nat :=
  if low < high then
    let middle := low + (high - low) / 2
    let found := groups.getD middle 0
    if found = group then some middle
    else if found < group then bisect groups group (middle + 1) high
    else bisect groups group low middle
  else none
termination_by high - low

/-- The position of the alternative whose outer group has the given number. -/
def positionOfGroup? (alternatives : List (Alternative α)) (group : Nat) : Option Nat :=
  let groups := (alternatives.map (·.outerGroup)).toArray
  bisect groups group 0 groups.size

/-- The position of the first literal pattern that is the path itself. -/
def positionOfLiteral? (alternatives : List (Alternative α)) (path : String) : Option Nat :=
  alternatives.findIdx? fun a => a.entry.pattern.isLiteral && a.entry.pattern.literal = path

/-- The outer groups that were captured. -/
def firedGroups (c : Combined α) (m : Expression.Match) : List Nat :=
  (c.alternatives.map (·.outerGroup)).filter m.isDefined

/-- The lowest number of a captured group. -/
def firstGroup? (c : Combined α) (m : Expression.Match) : Option Nat :=
  (List.range' 1 c.groupCount).find? m.isDefined

/-- The position of the alternative that matched. -/
def locate (c : Combined α) (m : Expression.Match) (path : String) : Except RouteError Nat :=
  let fired := c.firedGroups m
  if 1 < fired.length then .error (.ambiguousMatch fired)
  else
    match ((c.firstGroup? m).bind (positionOfGroup? c.alternatives)).or
        (positionOfLiteral? c.alternatives path) with
    | some position => .ok position
    | none => .error (.unresolvable path)

/-- The values of the named placeholders of an alternative. A placeholder that took no part in the
match has the empty value. -/
def params (a : Alternative α) (m : Expression.Match) : Params :=
  ⟨a.entry.pattern.slots.filterMap fun (slot, p) =>
    p.name.map fun name => (name, (m.group? (a.outerGroup + slot)).getD "")⟩

/-- The route that a path leads to, if there is one. -/
def resolve (c : Combined α) (path : String) : Except RouteError (Option (RouteMatch α)) :=
  if c.alternatives.isEmpty then .ok none
  else
    let path := trimSlashes path
    match c.expression.find? path with
    | none => .ok none
    | some m =>
      match c.locate m path with
      | .error e => .error e
      | .ok position =>
        match c.alternatives[position]? with
        | none => .error (.unresolvable path)
        | some a => .ok (some ⟨a.entry.index, a.entry.pattern.text, a.entry.handler, params a m⟩)

end Combined

end HttpRoutes
