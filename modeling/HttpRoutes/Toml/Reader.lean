import HttpRoutes.Toml.Number
import HttpRoutes.Toml.Quoted

/-!
# Keys and values of TOML

Reading keys, with or without dots, and values of all kinds. Every function takes what is left of
the text and returns what it read together with the rest, or nothing if the text is wrong.
-/

namespace HttpRoutes.Toml

/-! ## Between the parts -/

/-- Skip blanks inside a line. -/
def skipSpaces (cs : List Char) : List Char := cs.dropWhile isSpace

/-- The text behind the end of a line. -/
def lineEnd? : List Char → Option (List Char)
  | '\n' :: rest => some rest
  | '\r' :: '\n' :: rest => some rest
  | _ => none

/-- Skip a comment, if there is one. It goes on to the end of its line. -/
def skipComment : List Char → List Char
  | '#' :: rest => rest.dropWhile isVisible
  | cs => cs

/-- The rest of a line: blanks and a comment, up to the end of the line or of the text. -/
def endLine (cs : List Char) : Option (List Char) :=
  match skipComment (skipSpaces cs) with
  | [] => some []
  | cs => lineEnd? cs

/-- Skip blanks, line ends and comments. The first argument bounds how many lines there are. -/
def skipLines : Nat → List Char → Option (List Char)
  | 0, cs => some cs
  | n + 1, cs =>
    match skipSpaces cs with
    | '#' :: rest => (lineEnd? (rest.dropWhile isVisible)).bind (skipLines n)
    | '\n' :: rest => skipLines n rest
    | '\r' :: rest => (lineEnd? ('\r' :: rest)).bind (skipLines n)
    | cs => some cs

/-- Skip all blanks, line ends and comments. -/
def skipAll (cs : List Char) : Option (List Char) := skipLines (cs.length + 1) cs

/-! ## Keys -/

/-- Whether a character can stand in a key without quotes. -/
def isKeyChar (c : Char) : Bool := c.isAlphanum || c = '_' || c = '-'

/-- A key without dots. -/
def readSimpleKey (cs : List Char) : Option (String × List Char) :=
  match cs with
  | '"' :: rest => readShortQuoted '"' rest
  | '\'' :: rest => readShortQuoted '\'' rest
  | _ =>
    let key := cs.takeWhile isKeyChar
    if key.isEmpty then none else some (String.ofList key, cs.dropWhile isKeyChar)

/-- How many parts a key has at most. -/
def keyLimit : Nat := 79

/-- A key with dots: the parts before the last one, and the last one. Blanks around the parts do not
count. The first argument bounds how many parts there are. -/
def readKey : Nat → List Char → Option ((List String × String) × List Char)
  | 0, _ => none
  | n + 1, cs => do
    let (key, rest) ← readSimpleKey (skipSpaces cs)
    match skipSpaces rest with
    | '.' :: rest =>
      let ((path, last), rest) ← readKey n rest
      return ((key :: path, last), rest)
    | rest => return (([], key), rest)

/-! ## Values -/

/-- A way to read one value. -/
abbrev ValueReader := List Char → Option (Value × List Char)

/-- The values of a list up to its closing bracket, with commas between them and perhaps behind
them. The first argument bounds how many there are. -/
def readItems (value : ValueReader) : Nat → List Char → Option (List Value × List Char)
  | 0, _ => none
  | n + 1, cs => do
    match ← skipAll cs with
    | ']' :: rest => return ([], rest)
    | cs =>
      let (v, rest) ← value cs
      match ← skipAll rest with
      | ',' :: rest =>
        let (vs, rest) ← readItems value n rest
        return (v :: vs, rest)
      | ']' :: rest => return ([v], rest)
      | _ => none

/-- A key and its value, and the blanks behind it. -/
def readPair (value : ValueReader) (cs : List Char) :
    Option ((List String × String × Value) × List Char) := do
  let ((path, key), rest) ← readKey keyLimit cs
  let rest ← expect '=' rest
  let (v, rest) ← value (skipSpaces rest)
  return ((path, key, v), skipSpaces rest)

/-- The pairs of a table in braces up to the closing brace, added to a table. The first argument
bounds how many there are. -/
def readPairs (value : ValueReader) : Nat → Table → List Char → Option (Table × List Char)
  | 0, _, _ => none
  | n + 1, t, cs => do
    let ((path, key, v), rest) ← readPair value cs
    let t ← t.addAt path key v
    match rest with
    | ',' :: rest => readPairs value n t rest
    | '\x7d' :: rest => return (t, rest)
    | _ => none

/-- A table in braces, the first of which has been read. It stands on one line. -/
def readBraces (value : ValueReader) (cs : List Char) : Option (Value × List Char) :=
  match skipSpaces cs with
  | '\x7d' :: rest => some (.inline [], rest)
  | cs =>
    (readPairs value (cs.length + 1) (.empty .headed) cs).map fun r =>
      (.inline r.1.entries, r.2)

/-- A value that holds no other values. -/
def readScalar (cs : List Char) : Option (Value × List Char) :=
  match cs with
  | [] => none
  | c :: rest =>
    if c = '"' ∨ c = '\'' then (readQuoted c rest).map fun r => (.text r.1, r.2)
    else if isDecimal c ∨ c = '+' ∨ c = '-' then readNumberOrTime cs
    else
      match behind? "true" cs, behind? "false" cs with
      | some rest, _ => some (.boolean true, rest)
      | none, some rest => some (.boolean false, rest)
      | none, none => readSpecial cs

/-- How many lists and tables in braces can stand inside each other. -/
def nestLimit : Nat := 79

/-- A value with so many levels of lists and tables in it at most. -/
def readValue : Nat → List Char → Option (Value × List Char)
  | 0, cs => readScalar cs
  | n + 1, cs =>
    match cs with
    | '[' :: rest =>
      (readItems (readValue n) (rest.length + 1) rest).map fun r => (.array r.1, r.2)
    | '\x7b' :: rest => readBraces (readValue n) rest
    | cs => readScalar cs

end HttpRoutes.Toml
