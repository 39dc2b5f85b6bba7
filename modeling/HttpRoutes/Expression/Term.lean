/-!
# Matching expressions as written

A `Term` is the syntax tree of a matching expression: what was written, before any flag has been
applied. Sequences and alternations of more than two parts are chains that nest to the right, and
neither occurs as a part of a chain of its own kind unless a group stands between.
-/

namespace HttpRoutes.Expression

/-- A switch that changes how the following text is read. -/
inductive Flag
  | ignoreCase
  | multiLine
  | dotAll
  | swapGreed
  | unicode
  | crlf
  | verbose
deriving DecidableEq, Repr

/-- A flag turned on or off. -/
structure FlagSetting where
  flag : Flag
  on : Bool
deriving DecidableEq, Repr

/-- The last word of a list of settings on one flag. A list never sets a flag twice. -/
def FlagSetting.value? (settings : List FlagSetting) (flag : Flag) : Option Bool :=
  (settings.find? fun s => s.flag = flag).map (·.on)

/-- A character as written. `byte` marks the form of a backslash, `x` and two hexadecimal digits. -/
structure Literal where
  char : Char
  byte : Bool
deriving DecidableEq, Repr

/-- The classes with a one-letter escape. -/
inductive EscapedClass
  | digit
  | blank
  | word
deriving DecidableEq, Repr

/-- The named classes of ASCII characters, as in `[[:alpha:]]`. -/
inductive PosixClass
  | alnum
  | alpha
  | ascii
  | blank
  | cntrl
  | digit
  | graph
  | lower
  | print
  | punct
  | space
  | upper
  | word
  | xdigit
deriving DecidableEq, Repr

/-- A class given by a property of characters: the property's name alone, or a property and one of
its values. -/
inductive PropertyQuery
  | named (name : String)
  | valued (property value : String)
deriving DecidableEq, Repr

/-- How two sets inside brackets are put together. -/
inductive SetOp
  | inter
  | diff
  | symmDiff
deriving DecidableEq, Repr

/-- What stands between the brackets of a character class. -/
inductive ClassBody
  | nothing
  | char (l : Literal)
  | range (lo hi : Literal)
  | posix (k : PosixClass) (negated : Bool)
  | escaped (k : EscapedClass) (negated : Bool)
  | property (q : PropertyQuery) (negated : Bool)
  | bracketed (negated : Bool) (body : ClassBody)
  | items (first rest : ClassBody)
  | op (o : SetOp) (left right : ClassBody)
deriving DecidableEq, Repr

/-- A condition on the place between two characters. -/
inductive Assertion
  | lineStart
  | lineEnd
  | textStart
  | textEnd
  | boundary
  | notBoundary
  | wordStart
  | wordEnd
  | wordStartHalf
  | wordEndHalf
deriving DecidableEq, Repr

/-- The syntax tree of a matching expression. -/
inductive Term
  | empty
  | setFlags (settings : List FlagSetting)
  | char (l : Literal)
  | dot
  | assertion (a : Assertion)
  | escaped (k : EscapedClass) (negated : Bool)
  | property (q : PropertyQuery) (negated : Bool)
  | bracketed (negated : Bool) (body : ClassBody)
  | repetition (min : Nat) (max : Option Nat) (greedy : Bool) (body : Term)
  | capture (index : Nat) (name : Option String) (body : Term)
  | scoped (settings : List FlagSetting) (body : Term)
  | seq (first rest : Term)
  | alt (first rest : Term)
deriving DecidableEq, Repr

/-! ## Chains -/

namespace ClassBody

/-- The items of a class, in order. -/
def ofItems : List ClassBody → ClassBody
  | [] => .nothing
  | [item] => item
  | item :: rest => .items item (ofItems rest)

/-- How deep the body nests. A chain of items counts once. -/
def depth : ClassBody → Nat
  | .bracketed _ body => body.depth + 1
  | .items first rest =>
    max (first.depth + 1) (match rest with
      | .items .. => rest.depth
      | _ => rest.depth + 1)
  | .op _ left right => max left.depth right.depth + 1
  | _ => 0

end ClassBody

namespace Term

/-- The parts of a sequence, in order. -/
def ofParts : List Term → Term
  | [] => .empty
  | [part] => part
  | part :: rest => .seq part (ofParts rest)

/-- The branches of an alternation, in order. -/
def ofBranches : List Term → Term
  | [] => .empty
  | [branch] => branch
  | branch :: rest => .alt branch (ofBranches rest)

/-- How deep the term nests. A chain of parts or of branches counts once. -/
def depth : Term → Nat
  | .bracketed _ body => body.depth + 1
  | .repetition _ _ _ body => body.depth + 1
  | .capture _ _ body => body.depth + 1
  | .scoped _ body => body.depth + 1
  | .seq first rest =>
    max (first.depth + 1) (match rest with
      | .seq .. => rest.depth
      | _ => rest.depth + 1)
  | .alt first rest =>
    max (first.depth + 1) (match rest with
      | .alt .. => rest.depth
      | _ => rest.depth + 1)
  | _ => 0

/-- The names of groups, in the order of their opening parentheses. -/
def names : Term → List String
  | .repetition _ _ _ body => body.names
  | .capture _ name body => name.toList ++ body.names
  | .scoped _ body => body.names
  | .seq first rest => first.names ++ rest.names
  | .alt first rest => first.names ++ rest.names
  | _ => []

end Term

end HttpRoutes.Expression
