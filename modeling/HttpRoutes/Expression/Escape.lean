import HttpRoutes.Expression.Term
import HttpRoutes.Text.Hex
import HttpRoutes.Text.WordChars

/-!
# Blanks, numbers and escapes

The smallest pieces of the text of an expression. Every function takes what is left of the text and
returns what it read together with the rest. Under the verbose flag blanks and comments between the
pieces are skipped; a comment runs to the end of its line.
-/

namespace HttpRoutes.Expression

open HttpRoutes.Text

/-! ## Blanks and comments -/

/-- Skip blanks and comments. A comment starts with `#` and ends with its line. -/
def skipBlanks (inComment : Bool) : List Char → List Char
  | [] => []
  | c :: rest =>
    if inComment then skipBlanks (c != '\n') rest
    else if isBlank c then skipBlanks false rest
    else if c = '#' then skipBlanks true rest
    else c :: rest

/-- Skip blanks and comments if the verbose flag is on. -/
def skip (verbose : Bool) (cs : List Char) : List Char :=
  if verbose then skipBlanks false cs else cs

/-- The characters before the next closing brace and the text after it. Under the verbose flag
blanks and comments in between are left out. -/
def untilBrace (verbose inComment : Bool) : List Char → Option (List Char × List Char)
  | [] => none
  | c :: rest =>
    if inComment then untilBrace verbose (c != '\n') rest
    else if verbose && isBlank c then untilBrace verbose false rest
    else if verbose && c = '#' then untilBrace verbose true rest
    else if c = '\x7d' then some ([], rest)
    else (untilBrace verbose false rest).map fun r => (c :: r.1, r.2)

/-! ## Numbers -/

/-- The decimal digits at the start of the text. After a digit, blanks and comments are skipped
under the verbose flag. -/
def digits (verbose started inComment : Bool) : List Char → List Char × List Char
  | [] => ([], [])
  | c :: rest =>
    if inComment then digits verbose started (c != '\n') rest
    else if '0' ≤ c ∧ c ≤ '9' then
      let (ds, r) := digits verbose true false rest
      (c :: ds, r)
    else if verbose && started && isBlank c then digits verbose true false rest
    else if verbose && started && c = '#' then digits verbose true true rest
    else ([], c :: rest)

/-- The number written by decimal digits. -/
def decimalValue (ds : List Char) : Nat := ds.foldl (fun n c => 10 * n + (c.toNat - '0'.toNat)) 0

/-- A repetition count of at most 32 bits, with blanks around it. -/
def count (verbose : Bool) (cs : List Char) : Option (Nat × List Char) :=
  let (ds, rest) := digits verbose false false (cs.dropWhile isBlank)
  let n := decimalValue ds
  if ds.isEmpty ∨ 1 <<< 32 ≤ n then none else some (n, rest.dropWhile isBlank)

/-- Exactly `n` hexadecimal digits. -/
def hexDigits (verbose : Bool) : Nat → List Char → Option (List Char × List Char)
  | 0, cs => some ([], cs)
  | n + 1, c :: rest =>
    if isHexDigit c then (hexDigits verbose n (skip verbose rest)).map fun r => (c :: r.1, r.2)
    else none
  | _ + 1, [] => none

/-! ## Escapes -/

/-- Characters that have a meaning of their own somewhere in an expression. -/
def isMeta (c : Char) : Bool :=
  ['\\', '.', '+', '*', '?', '(', ')', '|', '[', ']', '\x7b', '\x7d', '^', '$', '#', '&', '-',
    '~'].contains c

/-- Characters that a backslash turns into themselves: all of ASCII but letters, digits and the two
angle brackets. -/
def isEscapable (c : Char) : Bool :=
  isMeta c || (c.toNat < 128 && !c.isAlphanum && c != '<' && c != '>')

/-- A character written by its code: after `x`, `u` or `U` stand two, four or eight digits, or any
number of them in braces. -/
def readHex (verbose : Bool) (width : Nat) (cs : List Char) : Option (Term × List Char) :=
  match skip verbose cs with
  | '\x7b' :: rest => do
    let (ds, rest) ← untilBrace verbose false rest
    if ds.isEmpty ∨ !ds.all isHexDigit then none
    else
      let c ← hexChar? ds
      some (.char ⟨c, false⟩, skip verbose rest)
  | cs => do
    let (ds, rest) ← hexDigits verbose width cs
    let c ← hexChar? ds
    some (.char ⟨c, width = 2⟩, rest)

/-- Split at the first place where `sep` stands. -/
def splitAtText (sep : List Char) : List Char → Option (List Char × List Char)
  | [] => none
  | c :: rest =>
    if sep.isPrefixOf (c :: rest) then some ([], (c :: rest).drop sep.length)
    else (splitAtText sep rest).map fun r => (c :: r.1, r.2)

/-- The property that a text in braces names. Unequal and equal signs read alike. -/
def propertyQuery (cs : List Char) : PropertyQuery :=
  match splitAtText ['!', '='] cs with
  | some (p, v) => .valued (String.ofList p) (String.ofList v)
  | none =>
    match splitAtText [':'] cs with
    | some (p, v) => .valued (String.ofList p) (String.ofList v)
    | none =>
      match splitAtText ['='] cs with
      | some (p, v) => .valued (String.ofList p) (String.ofList v)
      | none => .named (String.ofList cs)

/-- A class of characters with a property: one letter, or a name in braces. -/
def readProperty (verbose negated : Bool) (cs : List Char) : Option (Term × List Char) :=
  match skip verbose cs with
  | [] => none
  | '\x7b' :: rest =>
    (untilBrace verbose false rest).map fun r => (.property (propertyQuery r.1) negated, r.2)
  | '\\' :: _ => none
  | c :: rest => some (.property (.named (String.ofList [c])) negated, skip verbose rest)

/-- The word boundaries that have a name. -/
def namedBoundary? (name : List Char) : Option Assertion :=
  if name = "start".toList then some .wordStart
  else if name = "end".toList then some .wordEnd
  else if name = "start-half".toList then some .wordStartHalf
  else if name = "end-half".toList then some .wordEndHalf
  else none

/-- A word boundary. A brace right after it names a special one if it starts with a letter or a
hyphen; otherwise the brace is left to be read as a count. -/
def readBoundary (verbose : Bool) (cs : List Char) : Option (Term × List Char) :=
  match cs with
  | '\x7b' :: rest =>
    match skip verbose rest with
    | [] => none
    | c :: _ =>
      if c.isAlpha || c = '-' then do
        let (name, rest) ← untilBrace verbose false rest
        let a ← namedBoundary? name
        some (.assertion a, rest)
      else some (.assertion .boundary, cs)
  | _ => some (.assertion .boundary, cs)

/-- What a backslash introduces. -/
def readEscape (verbose : Bool) : List Char → Option (Term × List Char)
  | [] => none
  | c :: rest =>
    match c with
    | 'x' => readHex verbose 2 rest
    | 'u' => readHex verbose 4 rest
    | 'U' => readHex verbose 8 rest
    | 'p' => readProperty verbose false rest
    | 'P' => readProperty verbose true rest
    | 'd' => some (.escaped .digit false, rest)
    | 'D' => some (.escaped .digit true, rest)
    | 's' => some (.escaped .blank false, rest)
    | 'S' => some (.escaped .blank true, rest)
    | 'w' => some (.escaped .word false, rest)
    | 'W' => some (.escaped .word true, rest)
    | 'a' => some (.char ⟨'\x07', false⟩, rest)
    | 'f' => some (.char ⟨'\x0c', false⟩, rest)
    | 't' => some (.char ⟨'\t', false⟩, rest)
    | 'n' => some (.char ⟨'\n', false⟩, rest)
    | 'r' => some (.char ⟨'\r', false⟩, rest)
    | 'v' => some (.char ⟨'\x0b', false⟩, rest)
    | 'A' => some (.assertion .textStart, rest)
    | 'z' => some (.assertion .textEnd, rest)
    | 'b' => readBoundary verbose rest
    | 'B' => some (.assertion .notBoundary, rest)
    | '<' => some (.assertion .wordStart, rest)
    | '>' => some (.assertion .wordEnd, rest)
    | c => if isEscapable c then some (.char ⟨c, false⟩, rest) else none

end HttpRoutes.Expression
