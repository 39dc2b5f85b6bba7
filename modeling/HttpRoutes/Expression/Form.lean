import HttpRoutes.Text.CharSet
import HttpRoutes.Total

/-!
# Expressions in normal form

A `Form` is what an expression means once its flags have been applied: sets of characters, places
between them, repetition, captured groups, sequence and choice. The functions that build forms
keep them normal: sequences are chains that nest to the left and in which no two literals are
neighbours, repetitions of what cannot consume anything happen at most once, and a repetition that
may happen zero times only is nothing at all, together with the groups in it.

A choice whose branches all start alike is written as the common start followed by the choice of
what is left. This decides which of several possible matches is preferred, so it is part of the
meaning.
-/

namespace HttpRoutes.Expression

open HttpRoutes.Text

/-- A condition on a place in the text. `unicode` says which characters make words. -/
inductive Look
  | start
  | stop
  | lineStart
  | lineEnd
  | crlfLineStart
  | crlfLineEnd
  | boundary (unicode : Bool)
  | notBoundary (unicode : Bool)
  | wordStart (unicode : Bool)
  | wordEnd (unicode : Bool)
  | wordStartHalf (unicode : Bool)
  | wordEndHalf (unicode : Bool)
deriving DecidableEq, Repr

/-- An expression in normal form. `unicode` on a set of characters tells a set of characters from a
set of single bytes; both hold the same kind of members. -/
inductive Form
  | empty
  | literal (text : List Char)
  | chars (unicode : Bool) (set : CharSet)
  | look (l : Look)
  | repetition (min : Nat) (max : Option Nat) (greedy : Bool) (body : Form)
  | capture (index : Nat) (body : Form)
  | seq (init last : Form)
  | alt (first rest : Form)
deriving DecidableEq, Repr

namespace Form

/-- Matches nothing, not even the empty text. -/
def fail : Form := .chars false .empty

/-- One character of a set. A set of one character is that character. -/
def ofSet (unicode : Bool) (set : CharSet) : Form :=
  if set.isEmpty then fail
  else match set.onlyMember? with
    | some c => .literal [c]
    | none => .chars unicode set

/-! ## Measures -/

/-- The least number of characters a match has. Where a branch can never match there is none. -/
def minLength : Form → Option Nat
  | .empty => some 0
  | .literal text => some text.length
  | .chars _ set => if set.isEmpty then none else some 1
  | .look _ => some 0
  | .repetition min _ _ body => body.minLength.map (· * min)
  | .capture _ body => body.minLength
  | .seq init last => do some ((← init.minLength) + (← last.minLength))
  | .alt first rest => do some (min (← first.minLength) (← rest.minLength))

/-- Whether every match is known to be empty. -/
def isAlwaysEmpty : Form → Bool
  | .empty => true
  | .literal text => text.isEmpty
  | .chars .. => false
  | .look _ => true
  | .repetition _ max _ body => max.isSome && body.isAlwaysEmpty
  | .capture _ body => body.isAlwaysEmpty
  | .seq init last => init.isAlwaysEmpty && last.isAlwaysEmpty
  | .alt first rest => first.isAlwaysEmpty && rest.isAlwaysEmpty

/-- How many nodes the form has. -/
def weight : Form → Nat
  | .repetition _ _ _ body => body.weight + 1
  | .capture _ body => body.weight + 1
  | .seq init last => init.weight + last.weight + 1
  | .alt first rest => first.weight + rest.weight + 1
  | _ => 1

/-- The highest number of a group in the form, zero if there is no group. -/
def topGroup : Form → Nat
  | .repetition _ _ _ body => body.topGroup
  | .capture index body => max index body.topGroup
  | .seq init last => max init.topGroup last.topGroup
  | .alt first rest => max first.topGroup rest.topGroup
  | _ => 0

/-! ## Sequence -/

/-- The parts of a sequence in front of further parts. -/
def factorsOnto : Form → List Form → List Form
  | .empty, rest => rest
  | .seq init last, rest => init.factorsOnto (last :: rest)
  | f, rest => f :: rest

/-- The parts of a sequence. -/
def factors (f : Form) : List Form := f.factorsOnto []

/-- The sequence of the parts. -/
def ofFactors : List Form → Form
  | [] => .empty
  | f :: rest => rest.foldl .seq f

/-- Put a part in front of a sequence; two literals become one. -/
def consFactor : Form → List Form → List Form
  | .literal s, .literal t :: rest => .literal (s ++ t) :: rest
  | f, rest => f :: rest

/-- One form after another. -/
def concat (forms : List Form) : Form :=
  ofFactors ((forms.flatMap factors).foldr consFactor [])

/-! ## Repetition -/

/-- Repeat a form between `min` and `max` times, or without an upper bound. -/
def repeated (min : Nat) (max : Option Nat) (greedy : Bool) (body : Form) : Form :=
  let (min, max) :=
    if body.isAlwaysEmpty then (Nat.min min 1, some (Nat.min (max.getD 1) 1)) else (min, max)
  if min = 0 ∧ max = some 0 then .empty
  else if min = 1 ∧ max = some 1 then body
  else .repetition min max greedy body

/-! ## Choice -/

/-- The branches of a choice. -/
def choices : Form → List Form
  | .alt first rest => first :: rest.choices
  | f => [f]

/-- The choice between the branches. -/
def ofChoices : List Form → Form
  | [] => fail
  | [f] => f
  | f :: rest => .alt f (ofChoices rest)

/-- The characters of branches that are one character each. -/
def singleChars? : List Form → Option CharSet
  | [] => some .empty
  | .literal [c] :: rest => (singleChars? rest).map (·.insert c.toNat c.toNat)
  | _ => none

/-- The characters of branches that are sets. -/
def charSets? : List Form → Option CharSet
  | [] => some .empty
  | .chars _ set :: rest => (charSets? rest).map (·.union set)
  | _ => none

/-- The parts of every branch, if all branches are sequences. -/
def sequences? : List Form → Option (List (List Form))
  | [] => some []
  | .seq init last :: more => (sequences? more).map ((Form.seq init last).factors :: ·)
  | _ => none

/-- The longest common start of two lists. -/
def commonStart : List Form → List Form → List Form
  | a :: as, b :: bs => if a = b then a :: commonStart as bs else []
  | _, _ => []

/-- Choose between branches whose common start has been taken out: only sets are joined and only the
start that is still common is taken out. The first argument bounds how often that happens. -/
def chooseAmong : Nat → List Form → Form
  | 0, forms => ofChoices forms
  | n + 1, forms =>
    match forms.flatMap choices with
    | [] => fail
    | [f] => f
    | forms =>
      match singleChars? forms with
      | some set => ofSet true set
      | none =>
        match charSets? forms with
        | some set => ofSet true set
        | none =>
          match sequences? forms with
          | some (first :: rest) =>
            let start := rest.foldl commonStart first
            if start.isEmpty then ofChoices forms
            else
              concat (start ++
                [chooseAmong n ((first :: rest).map fun parts => concat (parts.drop start.length))])
          | _ => ofChoices forms

/-- Choose between branches, the first preferred. Branches of one character each and branches that
are sets become one set, and a start common to all branches is taken out in front. -/
def choose (forms : List Form) : Form :=
  chooseAmong (total (forms.map weight) + 1) forms

end Form

end HttpRoutes.Expression
