import HttpRoutes.Expression.Escape

/-!
# Character classes in brackets

Reading what stands between brackets: characters, ranges, named classes and classes inside classes,
with operators between sets of them.
-/

namespace HttpRoutes.Expression

open HttpRoutes.Text

/-- The names of the classes of ASCII characters. -/
def posixClass? (name : List Char) : Option PosixClass :=
  [("alnum", PosixClass.alnum), ("alpha", .alpha), ("ascii", .ascii), ("blank", .blank),
    ("cntrl", .cntrl), ("digit", .digit), ("graph", .graph), ("lower", .lower), ("print", .print),
    ("punct", .punct), ("space", .space), ("upper", .upper), ("word", .word),
    ("xdigit", .xdigit)].lookup (String.ofList name)

/-- What stands behind the colon and the caret of a named class. -/
def posixName? (negated : Bool) (cs : List Char) : Option (ClassBody × List Char) :=
  match cs.dropWhile (· != ':') with
  | ':' :: ']' :: after =>
    (posixClass? (cs.takeWhile (· != ':'))).map fun k => (.posix k negated, after)
  | _ => none

/-- A named class such as `[:alpha:]`, read after its bracket. Text that only looks like one is left
to be read as a nested class. -/
def posix? : List Char → Option (ClassBody × List Char)
  | ':' :: '^' :: rest => posixName? true rest
  | ':' :: rest => posixName? false rest
  | _ => none

/-- The hyphens at the start of a class stand for themselves. -/
def leadingHyphens (verbose : Bool) : Nat → List Char → List ClassBody × List Char
  | 0, cs => ([], cs)
  | n + 1, cs =>
    match cs with
    | '-' :: rest =>
      let (items, r) := leadingHyphens verbose n (skip verbose rest)
      (.char ⟨'-', false⟩ :: items, r)
    | _ => ([], cs)

/-- The members at the start of a class: hyphens, or a closing bracket where no hyphen stands before
it. -/
def startMembers (verbose : Bool) (cs : List Char) : Option (List ClassBody × List Char) :=
  match leadingHyphens verbose cs.length cs with
  | (_, []) => none
  | ([], ']' :: rest) =>
    match skip verbose rest with
    | [] => none
    | rest => some ([.char ⟨']', false⟩], rest)
  | (hyphens, rest) => some (hyphens, rest)

/-- The start of a class after its bracket: a caret negates, and hyphens, or a closing bracket where
no hyphen stands before it, are members. Gives the negation, the members and the rest. -/
def classStart (verbose : Bool) (cs : List Char) : Option (Bool × List ClassBody × List Char) :=
  match skip verbose cs with
  | '^' :: rest => (startMembers verbose (skip verbose rest)).map fun r => (true, r)
  | rest => (startMembers verbose rest).map fun r => (false, r)

/-- One character or escape inside brackets. -/
def classAtom (verbose : Bool) : List Char → Option (Term × List Char)
  | [] => none
  | '\\' :: rest => readEscape verbose rest
  | c :: rest => some (.char ⟨c, false⟩, rest)

/-- The member of a class that an atom is. Assertions are not members. -/
def classMember? : Term → Option ClassBody
  | .char l => some (.char l)
  | .escaped k negated => some (.escaped k negated)
  | .property q negated => some (.property q negated)
  | _ => none

/-- The next character that is neither a blank nor the sign that opens a comment. -/
def peekBlanks (inComment : Bool) : List Char → Option Char
  | [] => none
  | c :: rest =>
    if isBlank c then peekBlanks inComment rest
    else if !inComment && c = '#' then peekBlanks true rest
    else some c

/-- The character after the present one that decides whether a hyphen makes a range. -/
def peek (verbose : Bool) (cs : List Char) : Option Char :=
  if verbose then (peekBlanks false cs).or cs.head? else cs.head?

/-- A member of a class or a range of characters. -/
def classItem (verbose : Bool) (cs : List Char) : Option (ClassBody × List Char) := do
  let (first, rest) ← classAtom verbose cs
  match skip verbose rest with
  | [] => none
  | '-' :: after =>
    let next := peek verbose after
    if next = some ']' ∨ next = some '-' then (classMember? first).map fun m => (m, '-' :: after)
    else
      let (second, rest) ← classAtom verbose (skip verbose after)
      match first, second with
      | .char lo, .char hi => if lo.char ≤ hi.char then some (.range lo hi, rest) else none
      | _, _ => none
  | rest => (classMember? first).map fun m => (m, rest)

/-- Close what stands left of an operator, if there is one. -/
def closeOp (left : Option (SetOp × ClassBody)) (right : ClassBody) : ClassBody :=
  match left with
  | none => right
  | some (o, l) => .op o l right

/-- The operator between two sets that the text starts with. -/
def setOp? : List Char → Option (SetOp × List Char)
  | '&' :: '&' :: rest => some (.inter, rest)
  | '-' :: '-' :: rest => some (.diff, rest)
  | '~' :: '~' :: rest => some (.symmDiff, rest)
  | _ => none

/-- Read a class up to and with its closing bracket. `left` is what stands left of the present
operator and `items` are the members since then, the latest first. The first argument bounds the
number of steps. -/
def classBody (verbose : Bool) : Nat → Option (SetOp × ClassBody) → List ClassBody → List Char →
    Option (ClassBody × List Char)
  | 0, _, _, _ => none
  | n + 1, left, items, cs =>
    match skip verbose cs with
    | [] => none
    | ']' :: rest => some (closeOp left (.ofItems items.reverse), rest)
    | '[' :: rest =>
      match posix? rest with
      | some (item, rest) => classBody verbose n left (item :: items) rest
      | none => do
        let (negated, start, rest) ← classStart verbose rest
        let (body, rest) ← classBody verbose n none start.reverse rest
        classBody verbose n left (.bracketed negated body :: items) rest
    | cs =>
      match setOp? cs with
      | some (o, rest) =>
        classBody verbose n (some (o, closeOp left (.ofItems items.reverse))) [] rest
      | none => do
        let (item, rest) ← classItem verbose cs
        classBody verbose n left (item :: items) rest

/-- A character class, read after its opening bracket. -/
def readClass (verbose : Bool) (cs : List Char) : Option (Term × List Char) := do
  let (negated, start, rest) ← classStart verbose cs
  let (body, rest) ← classBody verbose (cs.length + 1) none start.reverse rest
  some (.bracketed negated body, rest)

end HttpRoutes.Expression
