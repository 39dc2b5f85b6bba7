import HttpRoutes.Expression.Bracket
import HttpRoutes.Expression.Group

/-!
# Reading matching expressions

`Term.read` turns the text of an expression into its syntax tree, or refuses it. The text is taken
apart into pieces from left to right, group by group, and the pieces are put together into branches
of parts. Under the verbose flag a comment can swallow text that closes a group, because it runs to
the end of its line. A name may be used for one group only.
-/

namespace HttpRoutes.Expression

/-! ## Pieces -/

/-- A part that is neither a group nor a class nor a repetition. -/
def readAtom (verbose : Bool) (c : Char) (rest : List Char) : Option (Term × List Char) :=
  match c with
  | '\\' => readEscape verbose rest
  | '.' => some (.dot, rest)
  | '^' => some (.assertion .lineStart, rest)
  | '$' => some (.assertion .lineEnd, rest)
  | '[' => readClass verbose rest
  | c => some (.char ⟨c, false⟩, rest)

/-- Whether the character repeats the part before it. -/
def isRepetition (c : Char) : Bool := c = '?' || c = '*' || c = '+' || c = '\x7b'

/-- What the text of an expression is made of: bars between branches, parts, and signs that repeat
the part before them. -/
inductive Piece
  | bar
  | part (t : Term)
  | repeated (t : Times)
deriving DecidableEq, Repr

/-- Put pieces together into branches of parts. `latest` is the part that a repetition would
repeat. -/
def branchesOf (latest : Option Term) : List Piece → Option (List (List Term))
  | [] => some [latest.toList]
  | .bar :: rest => (branchesOf none rest).map (latest.toList :: ·)
  | .part t :: rest => (branchesOf (some t) rest).map fun branches =>
    (latest.toList ++ branches.headD []) :: branches.tail
  | .repeated times :: rest =>
    match latest with
    | none => none
    | some part => if isRepeatable part then branchesOf (some (times.apply part)) rest else none

/-- The term that pieces make. -/
def assemble (pieces : List Piece) : Option Term :=
  (branchesOf none pieces).map fun branches => .ofBranches (branches.map Term.ofParts)

/-! ## Groups -/

/-- A way to read pieces up to the parenthesis that closes the present group. -/
abbrev PieceReader := Progress → List Char → Option (List Piece × Progress × List Char)

/-- A group, read after its opening parenthesis; `inside` reads what stands in it. -/
def readGroup (inside : PieceReader) (p : Progress) (cs : List Char) :
    Option (Piece × Progress × List Char) := do
  let (opening, inner, rest) ← readOpening p cs
  match opening with
  | .flags settings => some (.part (.setFlags settings), inner, rest)
  | opening =>
    let (pieces, after, rest) ← inside inner rest
    let body ← assemble pieces
    match rest with
    | [] => none
    | _ :: rest => some (.part (opening.close body), { after with verbose := p.verbose }, rest)

/-- The piece that starts with a character which closes no group. -/
def readPiece (inside : PieceReader) (p : Progress) (c : Char) (rest : List Char) :
    Option (Piece × Progress × List Char) :=
  if c = '|' then some (.bar, p, rest)
  else if c = '(' then readGroup inside p rest
  else if isRepetition c then
    (readTimes p.verbose c rest).map fun r => (.repeated r.1, p, r.2)
  else (readAtom p.verbose c rest).map fun r => (.part r.1, p, r.2)

/-- The pieces up to the end of the text or to the parenthesis that closes the present group, which
is left unread. The first argument bounds the number of steps. -/
def readPieces : Nat → PieceReader
  | 0, _, _ => none
  | n + 1, p, cs =>
    match skip p.verbose cs with
    | [] => some ([], p, [])
    | c :: rest =>
      if c = ')' then some ([], p, c :: rest)
      else do
        let (piece, p, rest) ← readPiece (readPieces n) p c rest
        let (pieces, p, rest) ← readPieces n p rest
        some (piece :: pieces, p, rest)

/-! ## Whole texts -/

/-- How deep an expression may nest. -/
def depthLimit : Nat := 250

/-- The syntax tree of a text, whatever the names of its groups and however deep it nests. A text
that closes a group it has not opened has none. -/
def Term.parse? (text : List Char) : Option Term :=
  match readPieces (text.length + 1) ⟨0, false⟩ text with
  | some (pieces, _, []) => assemble pieces
  | _ => none

/-- The syntax tree of an expression. A text that uses a name for two groups, or that nests deeper
than the limit, is refused. -/
def Term.read (text : List Char) : Option Term :=
  (Term.parse? text).filter fun t => t.names.Nodup ∧ t.depth ≤ depthLimit

end HttpRoutes.Expression
