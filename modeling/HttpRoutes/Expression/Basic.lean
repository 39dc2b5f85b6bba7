import HttpRoutes.Expression.Denote
import HttpRoutes.Expression.Matcher
import HttpRoutes.Expression.Reader

/-!
# Expressions ready for matching

An `Expression` is a text that could be read as a matching expression, together with its normal
form. `Expression.ofText?` reads one; it refuses what cannot be read, what has no meaning under
its flags, and what would need more memory than a given limit. How much memory an automaton needs is
for the `Engine` to say. `Expression.find?` looks for the first place in a text where the expression
matches.
-/

namespace HttpRoutes

open Expression

/-- What compiles forms to automata. It is known by the memory that they take. -/
class Engine where
  /-- The memory, in bytes, that the automaton of a form takes. -/
  size : Form → Nat

/-- A text that is a matching expression. -/
structure Expression where
  source : String
  form : Form
deriving DecidableEq, Repr

namespace Expression

/-- The expression that a text writes, unless its automaton takes more than `limit` bytes. -/
def ofText? [Engine] (limit : Nat) (source : String) : Option Expression := do
  let form ← (← Term.read source.toList).form?
  if Engine.size form ≤ limit then some ⟨source, form⟩ else none

/-- How many numbers the groups of the expression take: the highest number of a group in its form. A
group that the form has lost counts if one with a higher number is left. -/
def groupCount (e : Expression) : Nat := e.form.topGroup

/-- A match of an expression: the text searched, and the groups captured, the latest capture
first. -/
structure Match where
  text : List Char
  captures : List Capture
deriving DecidableEq, Repr

/-- The preferred match at the first place of the text where there is one. -/
def find? (e : Expression) (text : String) : Option Match :=
  (search e.form.matcher none 0 text.toList).map fun o => ⟨text.toList, o.captures⟩

namespace Match

/-- Where a group was last captured. -/
def capture? (m : Match) (group : Nat) : Option Capture := m.captures.find? (·.group = group)

/-- Whether a group was captured. -/
def isDefined (m : Match) (group : Nat) : Bool := (m.capture? group).isSome

/-- The text that a group captured last. -/
def group? (m : Match) (group : Nat) : Option String :=
  (m.capture? group).map fun c => String.ofList ((m.text.drop c.start).take (c.stop - c.start))

end Match

end Expression

end HttpRoutes
