import HttpRoutes.Http.Token

/-!
# Headers

Named values of a request or a response. Names are tokens and are kept in lower case; one name may
have several values. Values hold no control characters except the tab.

A request is known by the value of its `x-request-id` header.
-/

namespace HttpRoutes.Http

/-- Named values in the order in which they came. -/
abbrev Headers := List (String × String)

/-- Whether a character can stand in the value of a header. -/
def isValueChar (c : Char) : Bool := c = '\t' || (32 ≤ c.toNat && c.toNat != 127)

/-- Whether a character is one that everybody can read: a tab or visible ASCII or a space. -/
def isPlainChar (c : Char) : Bool := c = '\t' || (32 ≤ c.toNat && c.toNat < 127)

namespace Headers

/-- The longest name of a header, in bytes. -/
def nameLimit : Nat := 1 <<< 16 - 1

/-- The headers that named values make, if they are all valid. -/
def ofPairs? : List (String × String) → Option Headers
  | [] => some []
  | (name, v) :: rest =>
    if isToken name && name.utf8ByteSize ≤ nameLimit && v.toList.all isValueChar then
      (ofPairs? rest).map ((name.toLower, v) :: ·)
    else none

/-- The first value of a name. -/
def get? (h : Headers) (name : String) : Option String := (h.find? (·.1 = name)).map (·.2)

/-- Add a value. -/
def add (h : Headers) (name v : String) : Headers := h ++ [(name, v)]

end Headers

/-- The name of the header that a request is known by. -/
def requestIdHeader : String := "x-request-id"

/-- What a request is known by: the first value of its header, or "unknown" if there is none or not
everybody can read it. -/
def requestId (h : Headers) : String :=
  match h.get? requestIdHeader with
  | some v => if v.toList.all isPlainChar then v else "unknown"
  | none => "unknown"

end HttpRoutes.Http
