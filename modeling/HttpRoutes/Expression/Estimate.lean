import HttpRoutes.Expression.Basic

/-!
# An estimate of the memory of automata

The engine that the program runs with. It goes by an estimate that is close enough to tell what fits
into the limits from what does not: repetitions with a count repeat their body that many times, and
a set of characters takes more if it goes beyond ASCII.
-/

namespace HttpRoutes

/-- An estimate of the memory, in bytes, that an automaton for the form takes. -/
def Expression.Form.estimate : Form → Nat
  | .empty => 32
  | .literal text => text.foldl (fun n c => n + 32 * c.utf8Size) 0
  | .chars _ set => if set.isAscii then 40 + 8 * set.ranges.length else 900 + 62 * set.ranges.length
  | .look _ => 32
  | .repetition min max _ body => (max.getD (min + 1)) * (body.estimate + 36) + 64
  | .capture _ body => body.estimate + 64
  | .seq init last => init.estimate + last.estimate
  | .alt first rest => first.estimate + rest.estimate + 36

instance : Engine := ⟨Expression.Form.estimate⟩

end HttpRoutes
