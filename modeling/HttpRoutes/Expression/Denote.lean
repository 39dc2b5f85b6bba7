import HttpRoutes.Expression.Form
import HttpRoutes.Expression.Term
import HttpRoutes.Text.Age
import HttpRoutes.Text.Case
import HttpRoutes.Text.Letter
import HttpRoutes.Text.Segmentation

/-!
# What a written expression means

`Term.form?` applies the flags of an expression and gives its normal form. With the Unicode flag on,
classes range over all characters. With the flag off they range over ASCII alone, and whatever could
match a part of a character's encoding is refused: the dot, negated classes, and characters beyond
ASCII inside a class.

A flag that is set inside a group holds from there to the end of the group, also in later branches.
-/

namespace HttpRoutes.Expression

open HttpRoutes.Text

/-- The flags in force at some place of an expression. -/
structure Modes where
  ignoreCase : Bool
  multiLine : Bool
  dotAll : Bool
  swapGreed : Bool
  unicode : Bool
  crlf : Bool
deriving DecidableEq, Repr

/-- The flags at the start of an expression: only the Unicode flag is on. -/
def Modes.initial : Modes := ⟨false, false, false, false, true, false⟩

/-- Apply one setting. The verbose flag matters to reading alone. -/
def Modes.apply (m : Modes) (s : FlagSetting) : Modes :=
  match s.flag with
  | .ignoreCase => { m with ignoreCase := s.on }
  | .multiLine => { m with multiLine := s.on }
  | .dotAll => { m with dotAll := s.on }
  | .swapGreed => { m with swapGreed := s.on }
  | .unicode => { m with unicode := s.on }
  | .crlf => { m with crlf := s.on }
  | .verbose => m

/-- Apply settings in order. -/
def Modes.set (m : Modes) (settings : List FlagSetting) : Modes := settings.foldl Modes.apply m

/-! ## Classes -/

/-- The members of a named class of ASCII characters. -/
def PosixClass.set : PosixClass → CharSet
  | .alnum => ⟨[(0x30, 0x39), (0x41, 0x5A), (0x61, 0x7A)]⟩
  | .alpha => ⟨[(0x41, 0x5A), (0x61, 0x7A)]⟩
  | .ascii => ⟨[(0x00, 0x7F)]⟩
  | .blank => ⟨[(0x09, 0x09), (0x20, 0x20)]⟩
  | .cntrl => ⟨[(0x00, 0x1F), (0x7F, 0x7F)]⟩
  | .digit => ⟨[(0x30, 0x39)]⟩
  | .graph => ⟨[(0x21, 0x7E)]⟩
  | .lower => ⟨[(0x61, 0x7A)]⟩
  | .print => ⟨[(0x20, 0x7E)]⟩
  | .punct => ⟨[(0x21, 0x2F), (0x3A, 0x40), (0x5B, 0x60), (0x7B, 0x7E)]⟩
  | .space => ⟨[(0x09, 0x0D), (0x20, 0x20)]⟩
  | .upper => ⟨[(0x41, 0x5A)]⟩
  | .word => ⟨[(0x30, 0x39), (0x41, 0x5A), (0x5F, 0x5F), (0x61, 0x7A)]⟩
  | .xdigit => ⟨[(0x30, 0x39), (0x41, 0x46), (0x61, 0x66)]⟩

/-- The members of a class with a one-letter escape. -/
def EscapedClass.set (unicode : Bool) : EscapedClass → CharSet
  | .digit => if unicode then digitChars else asciiDigitChars
  | .blank => if unicode then blankChars else asciiBlankChars
  | .word => if unicode then wordChars else asciiWordChars

/-- Add the case partners of the members if case is ignored. -/
def Modes.fold (m : Modes) (s : CharSet) : CharSet :=
  if m.ignoreCase then s.foldCase (if m.unicode then allCases else CharSet.asciiCase) else s

/-- Negate a set. Without the Unicode flag that would match bytes of longer characters. -/
def Modes.negate? (m : Modes) (negated : Bool) (s : CharSet) : Option CharSet :=
  if !negated then some s else if m.unicode then some s.compl else none

/-- The characters with a property. Three short names stand for categories although properties have
them too. -/
def PropertyQuery.set? : PropertyQuery → Option CharSet
  | .named name =>
    let key := NamedSet.key name
    let asProperty := if ["cf", "sc", "lc"].contains key then none else property? key
    asProperty.or ((category? key).or (script? key))
  | .valued name value =>
    let value := NamedSet.key value
    match NamedSet.key name with
    | "gc" => category? value
    | "generalcategory" => category? value
    | "sc" => script? value
    | "script" => script? value
    | "scx" => scriptExtension? value
    | "scriptextensions" => scriptExtension? value
    | "age" => age? value
    | "gcb" => graphemeBreak? value
    | "graphemeclusterbreak" => graphemeBreak? value
    | "wb" => wordBreak? value
    | "wordbreak" => wordBreak? value
    | "sb" => sentenceBreak? value
    | "sentencebreak" => sentenceBreak? value
    | _ => none

/-- The characters with a property, with case folding and negation applied. -/
def Modes.propertySet? (m : Modes) (q : PropertyQuery) (negated : Bool) : Option CharSet :=
  if m.unicode then do m.negate? negated (m.fold (← q.set?)) else none

/-- The code of a character inside brackets. -/
def Modes.classChar? (m : Modes) (l : Literal) : Option Nat :=
  if m.unicode ∨ l.char.toNat < 128 then some l.char.toNat else none

/-- Put two sets together. -/
def SetOp.apply : SetOp → CharSet → CharSet → CharSet
  | .inter, s, t => s.inter t
  | .diff, s, t => s.diff t
  | .symmDiff, s, t => s.symmDiff t

/-- The characters that the body of a class lists. The operands of an operator are folded before it
is applied, a nested class is folded before it is negated. -/
def ClassBody.set? (m : Modes) : ClassBody → Option CharSet
  | .nothing => some .empty
  | .char l => do
    let n ← m.classChar? l
    some (.range n n)
  | .range lo hi => do some (.range (← m.classChar? lo) (← m.classChar? hi))
  | .posix k negated => m.negate? negated (m.fold k.set)
  | .escaped k negated => m.negate? negated (k.set m.unicode)
  | .property q negated => m.propertySet? q negated
  | .bracketed negated body => do m.negate? negated (m.fold (← body.set? m))
  | .items first rest => do some ((← first.set? m).union (← rest.set? m))
  | .op o left right => do some (o.apply (m.fold (← left.set? m)) (m.fold (← right.set? m)))

/-! ## Parts -/

/-- The form of one character. -/
def Modes.charForm? (m : Modes) (l : Literal) : Option Form :=
  if !m.unicode ∧ l.byte ∧ 128 ≤ l.char.toNat then none
  else if m.ignoreCase ∧ (m.unicode ∨ l.char.toNat < 128) then
    some (.ofSet m.unicode (m.fold (.single l.char)))
  else some (.literal [l.char])

/-- The form of the dot: any character but the end of a line, or any character at all. -/
def Modes.dotForm? (m : Modes) : Option Form :=
  if !m.unicode then none
  else if m.dotAll then some (.chars true .full)
  else if m.crlf then some (.chars true (CharSet.compl ⟨[(0x0A, 0x0A), (0x0D, 0x0D)]⟩))
  else some (.chars true (CharSet.compl ⟨[(0x0A, 0x0A)]⟩))

/-- The condition that an assertion states under the flags in force. -/
def Modes.look (m : Modes) : Assertion → Look
  | .lineStart => if m.multiLine then if m.crlf then .crlfLineStart else .lineStart else .start
  | .lineEnd => if m.multiLine then if m.crlf then .crlfLineEnd else .lineEnd else .stop
  | .textStart => .start
  | .textEnd => .stop
  | .boundary => .boundary m.unicode
  | .notBoundary => .notBoundary m.unicode
  | .wordStart => .wordStart m.unicode
  | .wordEnd => .wordEnd m.unicode
  | .wordStartHalf => .wordStartHalf m.unicode
  | .wordEndHalf => .wordEndHalf m.unicode

/-- The branches of a term as forms, and the flags in force behind it. A term that is no alternation
has one branch. -/
def Term.branches? (m : Modes) : Term → Option (List Form × Modes)
  | .empty => some ([.empty], m)
  | .setFlags settings => some ([.empty], m.set settings)
  | .char l => do some ([← m.charForm? l], m)
  | .dot => do some ([← m.dotForm?], m)
  | .assertion a => some ([.look (m.look a)], m)
  | .escaped k negated => do some ([.ofSet m.unicode (← m.negate? negated (k.set m.unicode))], m)
  | .property q negated => do some ([.ofSet true (← m.propertySet? q negated)], m)
  | .bracketed negated body => do
    some ([.ofSet m.unicode (← m.negate? negated (m.fold (← body.set? m)))], m)
  | .repetition min max greedy body => do
    let (forms, _) ← body.branches? m
    some ([.repeated min max (greedy != m.swapGreed) (.choose forms)], m)
  | .capture index _ body => do
    let (forms, _) ← body.branches? m
    some ([.capture index (.choose forms)], m)
  | .scoped settings body => do
    let (forms, _) ← body.branches? (m.set settings)
    some ([.choose forms], m)
  | .seq first rest => do
    let (a, m) ← first.branches? m
    let (b, m) ← rest.branches? m
    some ([.concat [.choose a, .choose b]], m)
  | .alt first rest => do
    let (a, m) ← first.branches? m
    let (b, m) ← rest.branches? m
    some (.choose a :: b, m)

/-- The normal form of an expression, unless it is refused. -/
def Term.form? (t : Term) : Option Form := (t.branches? .initial).map fun r => .choose r.1

end HttpRoutes.Expression
