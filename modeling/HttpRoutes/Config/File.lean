import HttpRoutes.Config.Fault
import HttpRoutes.Config.Fields
import HttpRoutes.Toml.Document

/-!
# Loading configurations

From the text of a file to a valid configuration. The text must be a document, the document must
describe a configuration, and nothing may be wrong with that.
-/

namespace HttpRoutes

/-- Why there is no configuration. -/
inductive ConfigError
  /-- The file cannot be read; the text says why. -/
  | unreadable (reason : String)
  | malformed
  | invalid (faults : List ConfigFault)
deriving DecidableEq, Repr

/-- The error in words. What the reader of documents has to say is left out. -/
def ConfigError.message : ConfigError → String
  | unreadable reason => s!"IO error: {reason}"
  | malformed => "Parse error"
  | invalid faults => "Validation failed: " ++ ", ".intercalate (faults.map ConfigFault.message)

/-- The valid configuration that a text describes. -/
def Config.ofText [Engine] (text : String) : Except ConfigError Config :=
  match (Toml.readDocument text).bind Config.ofEntries? with
  | none => .error .malformed
  | some c => if c.isValid then .ok c else .error (.invalid c.faults)

/-- What is found where a file should be. -/
inductive FileContent
  | missing
  | directory
  | bytes (content : ByteArray)

/-- The text of a file, or why there is none. -/
def FileContent.text : FileContent → Except String String
  | missing => .error "No such file or directory (os error 2)"
  | directory => .error "Is a directory (os error 21)"
  | bytes content =>
    match String.fromUTF8? content with
    | some text => .ok text
    | none => .error "stream did not contain valid UTF-8"

/-- The valid configuration in a file. -/
def Config.load [Engine] (file : FileContent) : Except ConfigError Config :=
  match file.text with
  | .error reason => .error (.unreadable reason)
  | .ok text => Config.ofText text

end HttpRoutes
