/-!
# Events

What the program reports about its work, for whoever keeps its log. Operations that report something
return their events beside their result, in the order in which they happen.
-/

namespace HttpRoutes

/-- How much an event matters. -/
inductive Severity
  | trace
  | debug
  | info
  | warn
  | error
deriving DecidableEq, Repr

/-- The severity in capitals. -/
def Severity.label : Severity → String
  | trace => "TRACE"
  | debug => "DEBUG"
  | info => "INFO"
  | warn => "WARN"
  | error => "ERROR"

/-- Something that happened, with named details in a fixed order. -/
structure Event where
  severity : Severity
  message : String
  fields : List (String × String)
deriving DecidableEq, Repr

/-- A result together with the events on the way to it. -/
structure Reported (α : Type) where
  result : α
  events : List Event
deriving Repr

namespace Reported

variable {α β : Type}

/-- A result that nothing is reported about. -/
def quiet (a : α) : Reported α := ⟨a, []⟩

/-- Go on with a result; what is reported then comes behind. -/
def andThen (r : Reported α) (f : α → Reported β) : Reported β :=
  let next := f r.result
  ⟨next.result, r.events ++ next.events⟩

/-- Change the result. -/
def map (f : α → β) (r : Reported α) : Reported β := ⟨f r.result, r.events⟩

/-- Report something before everything else. -/
def after (events : List Event) (r : Reported α) : Reported α := ⟨r.result, events ++ r.events⟩

@[simp] theorem result_quiet (a : α) : (quiet a).result = a := rfl

@[simp] theorem result_andThen (r : Reported α) (f : α → Reported β) :
    (r.andThen f).result = (f r.result).result := rfl

@[simp] theorem result_map (f : α → β) (r : Reported α) : (r.map f).result = f r.result := rfl

@[simp] theorem result_after (events : List Event) (r : Reported α) :
    (r.after events).result = r.result := rfl

end Reported

end HttpRoutes
