import HttpRoutes.Config.Basic
import HttpRoutes.Toml.Value

/-!
# Configurations in TOML

How the settings are found in a document. A group of settings may be written as a table, or as a
list with the settings in their order. What nobody knows is skipped, and what is missing keeps its
default; only the parts of a route have none.
-/

namespace HttpRoutes

open Toml

/-- A group of settings: by name or in order. -/
inductive SettingGroup
  | named (entries : Entries)
  | listed (items : List Value)

namespace SettingGroup

/-- The group that a value is. A time is a group without any known setting. -/
def ofValue? : Value → Option SettingGroup
  | .inline entries => some (.named entries)
  | .table _ entries => some (.named entries)
  | .time => some (.named [])
  | .array items => some (.listed items)
  | .tables items => some (.listed (items.map (.table .headed)))
  | _ => none

/-- The value of a setting, if it is given. -/
def find? (g : SettingGroup) (position : Nat) (name : String) : Option Value :=
  match g with
  | named entries => entries.find? name
  | listed items => items[position]?

/-- A setting with a default. It is wrong if it is given and cannot be read. -/
def optional {α : Type} (g : SettingGroup) (position : Nat) (name : String)
    (read : Value → Option α) (default : α) : Option α :=
  match g.find? position name with
  | none => some default
  | some v => read v

/-- A setting without a default. -/
def required {α : Type} (g : SettingGroup) (position : Nat) (name : String)
    (read : Value → Option α) : Option α :=
  (g.find? position name).bind read

end SettingGroup

/-! ## Single settings -/

/-- A text. -/
def readText : Value → Option String
  | .text s => some s
  | _ => none

/-- A truth value. -/
def readFlag : Value → Option Bool
  | .boolean b => some b
  | _ => none

/-- A number that is not negative. -/
def readCount : Value → Option Nat
  | .integer (.ofNat n) => some n
  | _ => none

/-- A text of one character. -/
def readOneChar : Value → Option Char
  | .text s =>
    match s.toList with
    | [c] => some c
    | _ => none
  | _ => none

/-- A list of things of one kind. -/
def readList {α : Type} (read : Value → Option α) : Value → Option (List α)
  | .array items => items.mapM read
  | .tables items => (items.map (.table .headed)).mapM read
  | _ => none

/-! ## Groups of settings -/

/-- The settings of the listener, each with its default. -/
def ListenerSettings.ofValue? (v : Value) : Option ListenerSettings := do
  let g ← SettingGroup.ofValue? v
  let default := Config.default.listener
  return ⟨← g.optional 0 "bind_address" readText default.bindAddress,
    ← g.optional 1 "request_timeout_secs" readCount default.requestTimeout⟩

/-- The settings of references, each with its default. -/
def DispatchSettings.ofValue? (v : Value) : Option DispatchSettings := do
  let g ← SettingGroup.ofValue? v
  let default := Config.default.dispatch
  return ⟨← g.optional 0 "separator" readOneChar default.separator,
    ← g.optional 1 "default_method" readText default.defaultMethod⟩

/-- The only setting about what is logged. -/
def readLogFilter (v : Value) : Option String := do
  let g ← SettingGroup.ofValue? v
  g.optional 0 "log_filter" readText Config.default.logFilter

/-- A declared route. All of its parts must be given. -/
def RouteDeclaration.ofValue? (v : Value) : Option RouteDeclaration := do
  let g ← SettingGroup.ofValue? v
  return ⟨← g.required 0 "methods" (readList readText), ← g.required 1 "pattern" readText,
    ← g.required 2 "handler" readText⟩

/-- The configuration that a document describes. -/
def Config.ofEntries? (entries : Entries) : Option Config := do
  let g := SettingGroup.named entries
  let default := Config.default
  return {
    debug := ← g.optional 0 "debug" readFlag default.debug
    listener := ← g.optional 1 "server" ListenerSettings.ofValue? default.listener
    dispatch := ← g.optional 2 "dispatch" DispatchSettings.ofValue? default.dispatch
    logFilter := ← g.optional 3 "observability" readLogFilter default.logFilter
    routes := ← g.optional 4 "routes" (readList RouteDeclaration.ofValue?) default.routes }

end HttpRoutes
