import HttpRoutes.Config.File
import HttpRoutes.Event

/-!
# Watching a configuration file

A `Watcher` is told of every change in the directory of a file and finds out whether there is a
new configuration. A text that is the same as the last one that could be read is passed over,
because one save makes several events. The last text is remembered whether it was valid or not.
-/

namespace HttpRoutes

/-- The last part of a path, unless it leads upwards. -/
def baseName? (path : String) : Option String :=
  let parts := (path.splitToList (· = '/')).filter fun p => p != "" && p != "."
  parts.getLast?.filter (· != "..")

/-- What can happen to a file. -/
inductive FileChange
  | created
  | modified
  | removed
  | other
deriving DecidableEq, Repr

/-- Something that happened in a directory. -/
structure FileEvent where
  change : FileChange
  paths : List String
deriving DecidableEq, Repr

/-- What an event came to. -/
inductive WatchOutcome
  /-- It does not concern the file, or the text is the same as before. -/
  | nothing
  | unreadable (reason : String)
  | rejected (error : ConfigError)
  | accepted (config : Config)
deriving DecidableEq, Repr

/-- A file that is watched, and its last text. -/
structure Watcher where
  path : String
  lastText : Option String
deriving DecidableEq, Repr

namespace Watcher

/-- Begin to watch a file, which need not be there. Its directory must be. -/
def start? (path : String) (hasDirectory : Bool) (file : FileContent) : Option Watcher :=
  if hasDirectory then some ⟨path, file.text.toOption⟩ else none

/-- Whether an event may have changed the text of the file. -/
def concerns (w : Watcher) (e : FileEvent) : Bool :=
  (e.change = .created || e.change = .modified) &&
    e.paths.any fun p => baseName? p = baseName? w.path

/-- Take note of an event. `file` is what the file holds when the event is handled. -/
def handle [Engine] (w : Watcher) (e : FileEvent) (file : FileContent) : WatchOutcome × Watcher :=
  if !w.concerns e then (.nothing, w)
  else
    match file.text with
    | .error reason => (.unreadable reason, w)
    | .ok text =>
      if w.lastText = some text then (.nothing, w)
      else
        let outcome := match Config.ofText text with
          | .ok c => .accepted c
          | .error e => .rejected e
        (outcome, { w with lastText := some text })

/-- What is reported of an event. -/
def report (w : Watcher) : WatchOutcome → List Event
  | .nothing => []
  | .unreadable reason =>
    [⟨.warn, "Config file unreadable, keeping current routes",
      [("path", w.path), ("error", reason)]⟩]
  | .rejected e =>
    [⟨.error, "Invalid config, keeping current routes",
      [("path", w.path), ("error", e.message)]⟩]
  | .accepted c =>
    [⟨.info, "Config file changed, reloading routes",
      [("path", w.path), ("routes", toString c.routes.length)]⟩]

end Watcher

end HttpRoutes
