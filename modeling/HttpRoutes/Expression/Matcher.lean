import HttpRoutes.Expression.Form
import HttpRoutes.Text.WordChars

/-!
# Matching

`Form.matcher` gives every form its meaning on a text: from a place in the text it lists the places
where a match of the form can end, the preferred one first, with the groups captured on the way. Of
several ways to the same place only the preferred one is listed.

A loop must not go round without consuming anything, and what counts as going round is exact: on the
way to the present place, no point of choice may be passed twice since the last character was
consumed. A `Trail` remembers the points passed, in the shape of the form.
-/

namespace HttpRoutes.Expression

open HttpRoutes.Text

/-! ## Places, trails, outcomes -/

/-- A place in a text: the character before it, the text after it, and how many characters precede
it. -/
structure Cursor where
  before : Option Char
  rest : List Char
  pos : Nat
deriving DecidableEq, Repr

/-- The start of a text. -/
def Cursor.start (text : List Char) : Cursor := ⟨none, text, 0⟩

/-- A finite set of positions, kept as the bits of a number. -/
structure Positions where
  bits : Nat
deriving DecidableEq, Repr

namespace Positions

/-- The set without positions. -/
def empty : Positions := ⟨0⟩

/-- Whether a position is in the set. -/
def contains (s : Positions) (n : Nat) : Bool := s.bits.testBit n

/-- The set with one more position. -/
def insert (s : Positions) (n : Nat) : Positions := ⟨s.bits ||| 1 <<< n⟩

@[simp] theorem contains_empty (n : Nat) : empty.contains n = false := by
  simp [empty, contains]

@[simp] theorem contains_insert (s : Positions) (m n : Nat) :
    (s.insert m).contains n = (s.contains n || decide (m = n)) := by
  simp [insert, contains, Nat.testBit_or, Nat.one_shiftLeft, Nat.testBit_two_pow]

end Positions

/-- The points of choice of a form that have been passed since the last character was consumed:
whether the form's own point was, and those of its one or two parts. -/
inductive Trail
  | clear
  | node (here : Bool) (left right : Trail)
deriving DecidableEq, Repr

namespace Trail

/-- Whether the form's own point of choice has been passed. -/
def here : Trail → Bool
  | .clear => false
  | .node h _ _ => h

/-- The trail in the first part of the form. -/
def left : Trail → Trail
  | .clear => .clear
  | .node _ l _ => l

/-- The trail in the second part of the form. -/
def right : Trail → Trail
  | .clear => .clear
  | .node _ _ r => r

/-- The trail, unless a character has been consumed since. -/
def keptIf (unmoved : Bool) (t : Trail) : Trail := if unmoved then t else .clear

end Trail

/-- What a group captured: the positions where it starts and where it stops. -/
structure Capture where
  group : Nat
  start : Nat
  stop : Nat
deriving DecidableEq, Repr

/-- One way to match: where it ends, what it captured, the latest capture first, and the points of
choice passed at its end. -/
structure Outcome where
  cursor : Cursor
  captures : List Capture
  trail : Trail
deriving DecidableEq, Repr

/-- The outcomes whose place is not among those seen and not among the places of earlier outcomes.
-/
def keepFirst (seen : Positions) : List Outcome → List Outcome
  | [] => []
  | o :: rest =>
    if seen.contains o.cursor.pos then keepFirst seen rest
    else o :: keepFirst (seen.insert o.cursor.pos) rest

/-- The ways to match from a place, the preferred one first. -/
abbrev Matcher := Cursor → Trail → List Outcome

namespace Matcher

/-! ## Single steps -/

/-- Matches the empty text. -/
def nothing : Matcher := fun c t => [⟨c, [], t⟩]

/-- Matches one character that passes the test. -/
def one (test : Char → Bool) : Matcher := fun c _ =>
  match c.rest with
  | [] => []
  | ch :: rest => if test ch then [⟨⟨some ch, rest, c.pos + 1⟩, [], .clear⟩] else []

/-- The place after a given text, if that text comes next. -/
def advance? : List Char → Cursor → Option Cursor
  | [], c => some c
  | ch :: text, c =>
    match c.rest with
    | [] => none
    | x :: rest => if ch = x then advance? text ⟨some x, rest, c.pos + 1⟩ else none

/-- Matches a given text, which must not be empty. -/
def literal (text : List Char) : Matcher := fun c _ =>
  match advance? text c with
  | none => []
  | some c => [⟨c, [], .clear⟩]

/-- Whether a character, if there is one, is a word character. -/
def isWord (unicode : Bool) : Option Char → Bool
  | none => false
  | some c => if unicode then wordChars.contains c else asciiWordChars.contains c

end Matcher

/-- Whether a condition holds between the character before a place and the one after it. -/
def Look.holds : Look → Option Char → Option Char → Bool
  | .start, before, _ => before.isNone
  | .stop, _, after => after.isNone
  | .lineStart, before, _ => before.isNone || before = some '\n'
  | .lineEnd, _, after => after.isNone || after = some '\n'
  | .crlfLineStart, before, after =>
    before.isNone || before = some '\n' || (before = some '\r' && after != some '\n')
  | .crlfLineEnd, before, after =>
    after.isNone || after = some '\r' || (after = some '\n' && before != some '\r')
  | .boundary u, before, after => Matcher.isWord u before != Matcher.isWord u after
  | .notBoundary u, before, after => Matcher.isWord u before == Matcher.isWord u after
  | .wordStart u, before, after => !Matcher.isWord u before && Matcher.isWord u after
  | .wordEnd u, before, after => Matcher.isWord u before && !Matcher.isWord u after
  | .wordStartHalf u, before, _ => !Matcher.isWord u before
  | .wordEndHalf u, _, after => !Matcher.isWord u after

namespace Matcher

/-- Matches the empty text where a condition holds. -/
def look (l : Look) : Matcher := fun c t =>
  if l.holds c.before c.rest.head? then [⟨c, [], t⟩] else []

/-! ## Combinations -/

/-- Matches `a` and then `b`. -/
def seq (a b : Matcher) : Matcher := fun c t =>
  keepFirst .empty <| (a c t.left).flatMap fun o =>
    (b o.cursor (t.right.keptIf (o.cursor.pos = c.pos))).map fun o' =>
      ⟨o'.cursor, o'.captures ++ o.captures,
        .node false (o.trail.keptIf (o'.cursor.pos = o.cursor.pos)) o'.trail⟩

/-- Matches `a` or, less preferred, `b`. -/
def alt (a b : Matcher) : Matcher := fun c t =>
  if t.here then []
  else
    let first := (a c t.left).map fun o =>
      let unmoved := o.cursor.pos = c.pos
      { o with trail := .node unmoved o.trail (t.right.keptIf unmoved) }
    let second := (b c t.right).map fun o =>
      let unmoved := o.cursor.pos = c.pos
      { o with trail := .node unmoved (t.left.keptIf unmoved) o.trail }
    keepFirst .empty (first ++ second)

/-- Matches what `m` matches and records it as a group. -/
def capture (group : Nat) (m : Matcher) : Matcher := fun c t =>
  (m c t).map fun o => { o with captures := ⟨group, c.pos, o.cursor.pos⟩ :: o.captures }

/-! ## Repetition -/

/-- Matches `m` or nothing. -/
def optional (greedy : Bool) (m : Matcher) : Matcher := fun c t =>
  if t.here then []
  else
    let taken := (m c t.left).map fun o =>
      { o with trail := .node (o.cursor.pos = c.pos) o.trail .clear }
    let left : List Outcome := [⟨c, [], .node true t.left .clear⟩]
    keepFirst .empty (if greedy then taken ++ left else left ++ taken)

/-- The state of going round a loop: the places where the loop's point of choice has been reached,
and the outcomes found, the latest first. -/
structure Sweep where
  visited : Positions
  found : List Outcome

/-- Reach a loop's point of choice at a place: stop there, and go round once more. A place that has
been reached before is left alone. The first argument bounds how often the loop can still go on. -/
def sweep (body : Matcher) (greedy : Bool) :
    Nat → Cursor → List Capture → Trail → Sweep → Sweep
  | 0, _, _, _, s => s
  | n + 1, c, captures, t, s =>
    if s.visited.contains c.pos then s
    else
      let s := { s with visited := s.visited.insert c.pos }
      let again (s : Sweep) : Sweep :=
        (body c t).foldl
          (fun s o => sweep body greedy n o.cursor (o.captures ++ captures) o.trail s) s
      let stop (s : Sweep) : Sweep :=
        { s with found := ⟨c, captures, .node true t .clear⟩ :: s.found }
      if greedy then stop (again s) else again (stop s)

/-- The places where a loop's point of choice may not be reached, at its start. -/
def loopStart (c : Cursor) (t : Trail) : Sweep :=
  ⟨if t.here then Positions.empty.insert c.pos else .empty, []⟩

/-- Matches `m` any number of times; `m` must not match the empty text. -/
def many (greedy : Bool) (m : Matcher) : Matcher := fun c t =>
  (sweep m greedy (c.rest.length + 1) c [] t.left (loopStart c t)).found.reverse

/-- Matches `m` at least once. -/
def atLeastOnce (greedy : Bool) (m : Matcher) : Matcher := fun c t =>
  ((m c t.left).foldl
    (fun s o => sweep m greedy (c.rest.length + 1) o.cursor o.captures o.trail s)
    (loopStart c t)).found.reverse

/-- Matches `m` exactly so many times. -/
def times (m : Matcher) : Nat → Matcher
  | 0 => nothing
  | 1 => m
  | n + 2 => (times m (n + 1)).seq m

/-- Matches `m` at most so many times. -/
def upTo (greedy : Bool) (m : Matcher) : Nat → Matcher
  | 0 => nothing
  | n + 1 => optional greedy (m.seq (upTo greedy m n))

/-- Matches `m` between `min` and `max` times. `consumes` says that every match of `m` is known to
consume a character. -/
def repeated (min : Nat) (max : Option Nat) (greedy consumes : Bool) (m : Matcher) : Matcher :=
  match max with
  | some max => (m.times min).seq (upTo greedy m (max - min))
  | none =>
    match min with
    | 0 => if consumes then m.many greedy else optional greedy (m.atLeastOnce greedy)
    | 1 => m.atLeastOnce greedy
    | n + 2 => (m.times (n + 1)).seq (m.atLeastOnce greedy)

end Matcher

/-- The matcher of a form. -/
def Form.matcher : Form → Matcher
  | .empty => .nothing
  | .literal text => .literal text
  | .chars _ set => .one set.contains
  | .look l => .look l
  | .repetition min max greedy body =>
    body.matcher.repeated min max greedy (body.minLength.any (0 < ·))
  | .capture index body => body.matcher.capture index
  | .seq init last => init.matcher.seq last.matcher
  | .alt first rest => first.matcher.alt rest.matcher

/-! ## Searching -/

/-- The preferred match that starts at the first place from `c` on where one starts at all. -/
def search (m : Matcher) (before : Option Char) (pos : Nat) : List Char → Option Outcome
  | [] => (m ⟨before, [], pos⟩ .clear).head?
  | ch :: rest =>
    match m ⟨before, ch :: rest, pos⟩ .clear with
    | o :: _ => some o
    | [] => search m (some ch) (pos + 1) rest

end HttpRoutes.Expression
