import HttpRoutes.Expression.Escape
import HttpRoutes.Text.Letter

/-!
# Groups and repetitions

What a parenthesis opens, and what repeats the part before it. Groups that capture are numbered in
the order of their opening parentheses.
-/

namespace HttpRoutes.Expression

open HttpRoutes.Text

/-! ## Repetition -/

/-- Whether something can be repeated. -/
def isRepeatable : Term → Bool
  | .empty => false
  | .setFlags _ => false
  | _ => true

/-- A question mark after a repetition turns its preference around. -/
def readGreed : List Char → Bool × List Char
  | '?' :: rest => (false, rest)
  | rest => (true, rest)

/-- How often something happens: at least `min` times, at most `max` times if there is a bound, and
as often as possible or as seldom. -/
structure Times where
  min : Nat
  max : Option Nat
  greedy : Bool
deriving DecidableEq, Repr

/-- The term that happens so often. -/
def Times.apply (t : Times) (part : Term) : Term := .repetition t.min t.max t.greedy part

/-- The upper bound of a count, read after the lower one. -/
def readUpper (verbose : Bool) (min : Nat) : List Char → Option (Option Nat × List Char)
  | ',' :: rest =>
    match skip verbose rest with
    | '\x7d' :: r => some (none, '\x7d' :: r)
    | rest => (count verbose rest).map fun r => (some r.1, r.2)
  | rest => some (some min, rest)

/-- A count in braces, read after the opening brace. -/
def readCount (verbose : Bool) (cs : List Char) : Option (Times × List Char) := do
  let (min, rest) ← count verbose (skip verbose cs)
  let (max, rest) ← readUpper verbose min rest
  match rest with
  | '\x7d' :: rest =>
    if max.any (· < min) then none
    else
      let (greedy, rest) := readGreed (skip verbose rest)
      some (⟨min, max, greedy⟩, rest)
  | _ => none

/-- How often the sign `c` and what belongs to it let a part happen. -/
def readTimes (verbose : Bool) (c : Char) (rest : List Char) : Option (Times × List Char) :=
  match c with
  | '?' => let (g, r) := readGreed rest; some (⟨0, some 1, g⟩, r)
  | '*' => let (g, r) := readGreed rest; some (⟨0, none, g⟩, r)
  | '+' => let (g, r) := readGreed rest; some (⟨1, none, g⟩, r)
  | _ => readCount verbose rest

/-! ## Groups -/

/-- The flag that a letter stands for. -/
def flag? : Char → Option Flag
  | 'i' => some .ignoreCase
  | 'm' => some .multiLine
  | 's' => some .dotAll
  | 'U' => some .swapGreed
  | 'u' => some .unicode
  | 'R' => some .crlf
  | 'x' => some .verbose
  | _ => none

/-- The flags of a group up to and with the colon or parenthesis that ends them. `on` says whether
a hyphen is still to come, and `dangling` whether one has just been read. Gives whether they ended
with a colon. -/
def readFlags (on dangling : Bool) (seen : List FlagSetting) :
    List Char → Option (Bool × List FlagSetting × List Char)
  | [] => none
  | ':' :: rest => if dangling then none else some (true, seen, rest)
  | ')' :: rest => if dangling then none else some (false, seen, rest)
  | '-' :: rest => if on then readFlags false true seen rest else none
  | c :: rest => do
    let flag ← flag? c
    if seen.any fun s => s.flag = flag then none
    else readFlags on false (seen ++ [⟨flag, on⟩]) rest

/-- Whether the character may stand in the name of a group. -/
def isNameChar (first : Bool) (c : Char) : Bool :=
  c = '_' || (if first then isLetter c else c = '.' || c = '[' || c = ']' || isLetterOrNumber c)

/-- Whether the text is a name for a group. -/
def isGroupName : List Char → Bool
  | [] => false
  | c :: rest => isNameChar true c && rest.all (isNameChar false)

/-- What the reader has to remember of the text so far: how many groups were opened, and whether the
verbose flag is on. -/
structure Progress where
  groups : Nat
  verbose : Bool
deriving DecidableEq, Repr

/-- What an opening parenthesis begins: flags for the rest of the surrounding group, a group that
captures, or a group that only holds together what is in it. -/
inductive Opening
  | flags (settings : List FlagSetting)
  | capture (index : Nat) (name : Option String)
  | scoped (settings : List FlagSetting)
deriving DecidableEq, Repr

/-- A group's name up to and with the closing angle bracket. -/
def readGroupName (p : Progress) (cs : List Char) : Option (Opening × Progress × List Char) :=
  let name := cs.takeWhile (· != '>')
  match cs.dropWhile (· != '>') with
  | [] => none
  | _ :: rest =>
    if isGroupName name then
      some (.capture (p.groups + 1) (some (String.ofList name)),
        { p with groups := p.groups + 1 }, rest)
    else none

/-- What stands after an opening parenthesis. Conditions on the text around a match are refused. -/
def readOpening (p : Progress) (cs : List Char) : Option (Opening × Progress × List Char) :=
  match skip p.verbose cs with
  | '?' :: '=' :: _ => none
  | '?' :: '!' :: _ => none
  | '?' :: '<' :: '=' :: _ => none
  | '?' :: '<' :: '!' :: _ => none
  | '?' :: 'P' :: '<' :: rest => readGroupName p rest
  | '?' :: '<' :: rest => readGroupName p rest
  | '?' :: rest => do
    let (colon, settings, rest) ← readFlags true false [] rest
    let verbose := (FlagSetting.value? settings .verbose).getD p.verbose
    if colon then some (.scoped settings, { p with verbose }, rest)
    else if settings.isEmpty then none
    else some (.flags settings, { p with verbose }, rest)
  | rest => some (.capture (p.groups + 1) none, { p with groups := p.groups + 1 }, rest)

/-- The group of a given opening. -/
def Opening.close : Opening → Term → Term
  | .flags settings, _ => .setFlags settings
  | .capture index name, body => .capture index name body
  | .scoped settings, body => .scoped settings body

end HttpRoutes.Expression
