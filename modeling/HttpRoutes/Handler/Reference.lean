import HttpRoutes.Text.Quoted
import HttpRoutes.Text.Trim
import HttpRoutes.Text.WordChars

/-!
# References to controllers

A reference such as `users@show` names a controller and one of its methods; without a method the
default method is meant. The first separator divides the two names, and blanks around either name do
not count.
-/

namespace HttpRoutes

open HttpRoutes.Text

/-- The name of a controller and, if one is given, of its method. The separator is the one that
the reference was written with. -/
structure ControllerRef where
  identifier : String
  method : Option String
  separator : Char
deriving DecidableEq, Repr

/-- Why a text refers to no controller. -/
inductive HandlerError
  | emptyIdentifier (text : String)
  | emptyMethod (text : String)
deriving DecidableEq, Repr

/-- The error in words. -/
def HandlerError.message : HandlerError → String
  | emptyIdentifier text => s!"handler `{text}` has an empty controller identifier"
  | emptyMethod text => s!"handler `{text}` has an empty method name"

namespace ControllerRef

/-- Read a reference. The first separator counts, and both names must have something besides
blanks. -/
def parse (text : String) (separator : Char) : Except HandlerError ControllerRef :=
  let identifier := trimBoth isBlank (text.toList.takeWhile (· != separator))
  match text.toList.dropWhile (· != separator) with
  | [] =>
    if identifier.isEmpty then .error (.emptyIdentifier text)
    else .ok ⟨String.ofList identifier, none, separator⟩
  | _ :: rest =>
    let method := trimBoth isBlank rest
    if method.isEmpty then .error (.emptyMethod text)
    else if identifier.isEmpty then .error (.emptyIdentifier text)
    else .ok ⟨String.ofList identifier, some (String.ofList method), separator⟩

/-- The reference as it is written. -/
def text (r : ControllerRef) : String :=
  match r.method with
  | some method => r.identifier ++ r.separator.toString ++ method
  | none => r.identifier

/-- The reference with its parts told apart. -/
def describe (r : ControllerRef) : String :=
  let method := match r.method with
    | some method => s!"Some({showQuoted method})"
    | none => "None"
  s!"Composite \x7b identifier: {showQuoted r.identifier}, method: {method} \x7d"

end ControllerRef

end HttpRoutes
