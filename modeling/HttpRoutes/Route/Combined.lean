import HttpRoutes.Route.Pattern

/-!
# Combined expressions

All routes of one verb as a single expression. Every route is an alternative in a group of its own,
which tells which alternative matched:

    users/{id:\d+}  users/profile    gives    ^(?:(users/((?-u:\d+)))|(users/profile))$

The groups are numbered from one in the order of their opening brackets. The number of the group
around an alternative is worked out from the groups of the alternatives before it. Of several
alternatives that match, the earliest wins.
-/

namespace HttpRoutes

/-- A route registered under a verb: its pattern, its handler, and its place among the routes of the
verb, counted from zero. -/
structure Entry (α : Type) where
  pattern : Pattern
  handler : α
  index : Nat
deriving DecidableEq, Repr

/-- A route inside a combined expression, and the number of the group around it. -/
structure Alternative (α : Type) where
  outerGroup : Nat
  entry : Entry α
deriving DecidableEq, Repr

/-- The routes of a verb, ready for matching. -/
structure Combined (α : Type) where
  verb : Verb
  expression : Expression
  alternatives : List (Alternative α)
deriving DecidableEq, Repr

namespace Combined

variable {α : Type}

/-- Number the groups around entries, the first of which is `next`. -/
def alternativesFrom (next : Nat) : List (Entry α) → List (Alternative α)
  | [] => []
  | e :: rest => ⟨next, e⟩ :: alternativesFrom (next + 1 + e.pattern.groupCount) rest

/-- The expression of entries: anchored at both ends, one group for every entry. -/
def sourceOf (entries : List (Entry α)) : String :=
  "^(?:" ++ "|".intercalate (entries.map fun e => "(" ++ e.pattern.source ++ ")") ++ ")$"

/-- How many group numbers are counted for entries: one for each, and those of its pattern. -/
def groupsOf (entries : List (Entry α)) : Nat :=
  total (entries.map fun e => 1 + e.pattern.groupCount)

/-- The most memory, in bytes, that a combined expression may take. -/
def memoryLimit : Nat := 256 <<< 20

/-- Combine the routes of a verb. -/
def build [Engine] (verb : Verb) (entries : List (Entry α)) : Except RouteError (Combined α) :=
  match Expression.ofText? memoryLimit (sourceOf entries) with
  | some expression => .ok ⟨verb, expression, alternativesFrom 1 entries⟩
  | none => .error (.combine verb)

/-- The text of the expression. -/
def source (c : Combined α) : String := c.expression.source

/-- How many numbers the groups of the expression take. -/
def groupCount (c : Combined α) : Nat := c.expression.groupCount

end Combined

end HttpRoutes
