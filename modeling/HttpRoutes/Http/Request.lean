import HttpRoutes.Http.Header
import HttpRoutes.Http.Target

/-!
# Requests

What a client sends: a method, the path of a target, headers and a body.
-/

namespace HttpRoutes.Http

/-- A text stands for its bytes where bytes are meant. -/
instance Request.textBody : Coe String ByteArray := ⟨String.toUTF8⟩

/-- A request. Its body is any bytes, not only those of a text. -/
structure Request where
  method : String
  path : String
  headers : Headers
  body : ByteArray

/-- The request that a method, a target, named values and a body make, if all are valid. -/
def Request.ofParts? (method target : String) (named : List (String × String)) (body : ByteArray) :
    Option Request := do
  if !isToken method then none
  let path ← targetPath? target
  let headers ← Headers.ofPairs? named
  return ⟨method, path, headers, body⟩

end HttpRoutes.Http
