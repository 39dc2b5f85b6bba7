/-!
# Request targets

A request names its target by a path with an optional query, by a complete address, by a host with
an optional number after a colon, or by a star. `targetPath?` finds the path; where a target has
no path it is empty, or the star. What follows a hash sign does not count. Nothing is decoded.
-/

namespace HttpRoutes.Http

/-- The longest target, in bytes. -/
def targetLimit : Nat := 1 <<< 16 - 2

/-! ## Paths and queries -/

/-- Whether a character can stand in a path. Many that should be encoded can. -/
def isPathChar (c : Char) : Bool :=
  let n := c.toNat
  n = 0x21 || n = 0x22 || (0x24 ≤ n && n ≤ 0x3B) || n = 0x3D || (0x40 ≤ n && n ≤ 0x5F) || 0x61 ≤ n

/-- Whether a character can stand in a query. -/
def isQueryChar (c : Char) : Bool :=
  let n := c.toNat
  n = 0x21 || (0x24 ≤ n && n ≤ 0x3B) || n = 0x3D || 0x3F ≤ n

/-- The path at the start of a text that is a path with an optional query and an optional rest after
a hash sign. An empty path stands for the root. -/
def pathOf? (cs : List Char) : Option String :=
  let path := cs.takeWhile fun c => c != '?' && c != '#'
  let behind := cs.dropWhile fun c => c != '?' && c != '#'
  let query := match behind with
    | '?' :: rest => rest.takeWhile (· != '#')
    | _ => []
  if path.all isPathChar && query.all isQueryChar then
    some (if path.isEmpty then "/" else String.ofList path)
  else none

/-! ## Hosts -/

/-- Whether a character can stand in the name of a host, a user or a number after a colon. -/
def isHostChar (c : Char) : Bool :=
  c.isAlphanum ||
    ['!', '$', '&', '\'', '(', ')', '*', '+', ',', '-', '.', ':', ';', '=', '@', '[', ']', '_',
      '~'].contains c

/-- What has been seen of a host so far. -/
structure HostScan where
  colons : Nat
  opened : Bool
  closed : Bool
  percent : Bool
deriving DecidableEq, Repr

/-- Go one character on in a host. Colons and percent signs in front of an at sign or inside
brackets do not count, but there are never more than eight colons in a row of parts. -/
def HostScan.step (s : HostScan) (c : Char) : Option HostScan :=
  if c = ':' then if 8 ≤ s.colons then none else some { s with colons := s.colons + 1 }
  else if c = '[' then if s.percent || s.opened then none else some { s with opened := true }
  else if c = ']' then
    if !s.opened || s.closed then none
    else some { s with closed := true, colons := 0, percent := false }
  else if c = '@' then some { s with colons := 0, percent := false }
  else if c = '%' then some { s with percent := true }
  else if isHostChar c then some s
  else none

/-- Whether a text is a host, with an optional user in front and an optional number behind. -/
def isHost (cs : List Char) : Bool :=
  match cs.foldlM HostScan.step ⟨0, false, false, false⟩ with
  | none => false
  | some s =>
    s.opened == s.closed && s.colons ≤ 1 && !s.percent && cs.getLast? != some '@'

/-! ## Schemes -/

/-- Whether a character can stand in the name of a scheme. -/
def isSchemeChar (c : Char) : Bool := c.isAlphanum || ['+', '-', '.', '~'].contains c

/-- The longest name of a scheme. -/
def schemeLimit : Nat := 64

/-- What a text has in front of its host. -/
inductive SchemePart
  | none
  | tooLong
  | some (rest : List Char)
deriving DecidableEq, Repr

/-- Take a scheme and the two slashes behind it off a text. -/
def takeScheme (cs : List Char) : SchemePart :=
  match cs.dropWhile isSchemeChar with
  | ':' :: '/' :: '/' :: rest =>
    if schemeLimit < (cs.takeWhile isSchemeChar).length then .tooLong
    else if cs.length ≤ 3 then .none
    else .some rest
  | _ => .none

/-! ## Targets -/

/-- Whether a character ends a host. -/
def endsHost (c : Char) : Bool := c = '/' || c = '?' || c = '#'

/-- The path of a target, if the target is valid. -/
def targetPath? (target : String) : Option String :=
  let cs := target.toList
  if targetLimit < target.utf8ByteSize then none
  else
    match cs with
    | [] => none
    | ['*'] => some "*"
    | '/' :: _ => pathOf? cs
    | _ =>
      match takeScheme cs with
      | .tooLong => none
      | .none => if isHost cs then some "" else none
      | .some rest =>
        let host := rest.takeWhile (!endsHost ·)
        if host.isEmpty || !isHost host then none else pathOf? (rest.dropWhile (!endsHost ·))

end HttpRoutes.Http
