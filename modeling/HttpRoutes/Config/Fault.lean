import HttpRoutes.Address
import HttpRoutes.Config.Basic
import HttpRoutes.Handler.Basic
import HttpRoutes.Route.Pattern
import HttpRoutes.Text.Letter

/-!
# Checking configurations

`Config.faults` lists everything that is wrong with a configuration: first the settings, then the
routes in order, each with its verbs, its pattern and its handler. A configuration without faults is
valid.
-/

namespace HttpRoutes

open HttpRoutes.Text

/-- Something that is wrong with a configuration. Routes are counted from zero. -/
inductive ConfigFault
  | bindAddress (text : String)
  | zeroTimeout
  | separator (c : Char)
  | emptyDefaultMethod
  | noMethods (index : Nat)
  | verb (index : Nat) (token : String)
  | pattern (index : Nat) (error : RouteError)
  | handler (index : Nat) (error : HandlerError)
deriving DecidableEq, Repr

namespace ConfigFault

/-- The fault in words. -/
def message : ConfigFault → String
  | bindAddress text => s!"invalid bind address `{text}`"
  | zeroTimeout => "request timeout must be greater than zero"
  | separator c => s!"separator `{c}` is not allowed"
  | emptyDefaultMethod => "default method must not be empty"
  | noMethods index => s!"route #{index} declares no methods"
  | verb index token => s!"route #{index}: {Verb.unknownMessage token}"
  | pattern index error => s!"route #{index}: {error.message}"
  | handler index error => s!"route #{index}: {error.message}"

/-- The route that the fault lies in. -/
def index? : ConfigFault → Option Nat
  | noMethods index => some index
  | verb index _ => some index
  | pattern index _ => some index
  | handler index _ => some index
  | _ => none

end ConfigFault

/-- Whether a character can separate a controller from its method: it must not be part of a name, a
blank, a brace or a slash. -/
def isSeparator (c : Char) : Bool :=
  !(isLetterOrNumber c || isBlank c || ['\x7b', '\x7d', '/', '_'].contains c)

/-- What is wrong with a declared route. -/
def RouteDeclaration.faults [Engine] (d : RouteDeclaration) (index : Nat) (separator : Char) :
    List ConfigFault :=
  let none := if d.methods.isEmpty then [.noMethods index] else []
  let verbs := (d.methods.filter fun token => (Verb.ofToken? token).isNone).map (.verb index)
  let pattern := match Pattern.compile d.pattern with
    | .ok _ => []
    | .error e => [.pattern index e]
  let handler := match ControllerRef.parse d.handler separator with
    | .ok _ => []
    | .error e => [.handler index e]
  none ++ verbs ++ pattern ++ handler

/-- What is wrong with routes, the first of which has the given number. -/
def routeFaults [Engine] (separator : Char) : Nat → List RouteDeclaration → List ConfigFault
  | _, [] => []
  | index, d :: rest => d.faults index separator ++ routeFaults separator (index + 1) rest

namespace Config

/-- What is wrong with the settings. -/
def settingFaults (c : Config) : List ConfigFault :=
  (if (SocketAddress.ofText? c.listener.bindAddress).isSome then []
    else [.bindAddress c.listener.bindAddress]) ++
  (if c.listener.requestTimeout = 0 then [.zeroTimeout] else []) ++
  (if isSeparator c.dispatch.separator then [] else [.separator c.dispatch.separator]) ++
  (if c.dispatch.defaultMethod.toList.all isBlank then [.emptyDefaultMethod] else [])

/-- Everything that is wrong with a configuration. -/
def faults [Engine] (c : Config) : List ConfigFault :=
  c.settingFaults ++ routeFaults c.dispatch.separator 0 c.routes

/-- Whether nothing is wrong with a configuration. -/
def isValid [Engine] (c : Config) : Bool := c.faults.isEmpty

end Config

end HttpRoutes
