/-!
# Parameters

The values that a matched path gives to the named placeholders of its route, in the order in which
the placeholders are declared.
-/

namespace HttpRoutes

/-- Named values in order of declaration. -/
structure Params where
  pairs : List (String × String)
deriving DecidableEq, Repr

namespace Params

/-- No parameters. -/
def empty : Params := ⟨[]⟩

/-- The names in order of declaration. -/
def names (p : Params) : List String := p.pairs.map (·.1)

/-- The value of a name, if the route declares it. -/
def get? (p : Params) (name : String) : Option String :=
  (p.pairs.find? (·.1 = name)).map (·.2)

/-- How many parameters there are. -/
def size (p : Params) : Nat := p.pairs.length

/-- Whether there are no parameters. -/
def isEmpty (p : Params) : Bool := p.pairs.isEmpty

end Params

end HttpRoutes
