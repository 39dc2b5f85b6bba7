import HttpRoutes.Verb

/-!
# Route errors

What can go wrong when routes are registered and when paths are resolved. The first five causes
lie in a route as declared. The last two would mean that the groups of a combined expression were
numbered wrongly.
-/

namespace HttpRoutes

/-- What is wrong with the braces of a pattern. Offsets count bytes from the start of the pattern
without its leading slashes. -/
inductive BraceFault
  | unterminated (offset : Nat)
  | unmatched (offset : Nat)
  | emptyPlaceholder
deriving DecidableEq, Repr

/-- The fault in words. -/
def BraceFault.message : BraceFault → String
  | .unterminated offset => s!"unterminated `\x7b` at offset {offset}"
  | .unmatched offset => s!"unmatched `\x7d` at offset {offset}"
  | .emptyPlaceholder => "empty placeholder `\x7b\x7d`"

/-- Why a route cannot be registered or a path cannot be resolved. -/
inductive RouteError
  | malformedPattern (pattern : String) (fault : BraceFault)
  | duplicateName (pattern name : String)
  | invalidSubPattern (pattern : String)
  | noVerbs (pattern : String)
  | combine (verb : Verb)
  | ambiguousMatch (groups : List Nat)
  | unresolvable (path : String)
deriving DecidableEq, Repr

namespace RouteError

/-- The error in words. What the reader of expressions has to say is left out. -/
def message : RouteError → String
  | malformedPattern pattern fault => s!"malformed route pattern `{pattern}`: {fault.message}"
  | duplicateName pattern name =>
    s!"duplicate parameter name `{name}` in route pattern `{pattern}`"
  | invalidSubPattern pattern => s!"invalid sub-pattern in route pattern `{pattern}`"
  | noVerbs pattern => s!"route pattern `{pattern}` is registered under no verb"
  | combine verb => s!"cannot combine {verb.token} routes"
  | ambiguousMatch groups =>
    let listed := ", ".intercalate (groups.map toString)
    s!"internal routing error: alternatives [{listed}] matched simultaneously"
  | unresolvable path =>
    s!"internal routing error: matched alternative for `{path}` cannot be located"

/-- Whether the error lies in a route as declared. -/
def isConfiguration : RouteError → Bool
  | malformedPattern .. => true
  | duplicateName .. => true
  | invalidSubPattern _ => true
  | noVerbs _ => true
  | combine _ => true
  | ambiguousMatch _ => false
  | unresolvable _ => false

end RouteError

end HttpRoutes
