import HttpRoutes.Text.Hex

/-!
# Quoted texts in TOML

The four ways to quote a text: with single or double quotes, on one line or over several lines
between quotes written three times. Only double quotes know escapes. A line end counts as a line
feed however it is written.
-/

namespace HttpRoutes.Toml

/-- Whether a character can stand in a comment or in a text: no control character but the tab. -/
def isVisible (c : Char) : Bool := c = '\t' || (32 ≤ c.toNat && c.toNat != 127)

/-- Whether a character is a blank inside a line. -/
def isSpace (c : Char) : Bool := c = ' ' || c = '\t'

/-- The character that stands for itself or another behind a backslash. -/
def escaped? : Char → Option Char
  | 'b' => some (Char.ofNat 8)
  | 't' => some '\t'
  | 'n' => some '\n'
  | 'f' => some (Char.ofNat 12)
  | 'r' => some '\r'
  | '"' => some '"'
  | '\\' => some '\\'
  | _ => none

/-- Where the reading of a text with escapes is. -/
inductive QuoteState
  /-- Between characters. -/
  | plain
  /-- Behind a backslash. -/
  | escape
  /-- In the digits of a code: how many are left, and those read, the latest first. -/
  | code (left : Nat) (digits : List Char)
  /-- Behind a backslash and blanks: the line has to end. -/
  | lineEnd
  /-- In front of the next character that is neither a blank nor the end of a line. -/
  | skip
deriving DecidableEq, Repr

/-- What a backslash and one more character begin. -/
def QuoteState.afterBackslash (c : Char) : Option (QuoteState × List Char) :=
  match c with
  | 'u' => some (.code 4 [], [])
  | 'U' => some (.code 8 [], [])
  | c => (escaped? c).map fun e => (.plain, [e])

/-- What one more digit of a code makes. -/
def QuoteState.afterDigit (left : Nat) (digits : List Char) (c : Char) :
    Option (QuoteState × List Char) :=
  if !Text.isHexDigit c then none
  else if left ≤ 1 then
    (Text.hexChar? (c :: digits).reverse).map fun e => (.plain, [e])
  else some (.code (left - 1) (c :: digits), [])

/-- The text up to the next double quote on the same line, and what follows. -/
def readBasic (state : QuoteState) : List Char → Option (List Char × List Char)
  | [] => none
  | c :: rest =>
    let go (next : Option (QuoteState × List Char)) : Option (List Char × List Char) :=
      match next with
      | none => none
      | some (state, made) => (readBasic state rest).map fun r => (made ++ r.1, r.2)
    match state with
    | .plain =>
      if c = '"' then some ([], rest)
      else if c = '\\' then go (some (.escape, []))
      else if isVisible c then go (some (.plain, [c]))
      else none
    | .escape => go (QuoteState.afterBackslash c)
    | .code left digits => go (QuoteState.afterDigit left digits c)
    | _ => none

/-- The text up to the next single quote on the same line, and what follows. -/
def readLiteral : List Char → Option (List Char × List Char)
  | [] => none
  | c :: rest =>
    if c = '\'' then some ([], rest)
    else if isVisible c then (readLiteral rest).map fun r => (c :: r.1, r.2)
    else none

/-- The quotes that belong to the text where it ends: of a row of quotes the last three close it,
and two more can stand before them. The argument is what follows three quotes. -/
def closeLong (quote : Char) (rest : List Char) : List Char × List Char :=
  match rest with
  | a :: b :: more =>
    if a = quote then if b = quote then ([a, b], more) else ([a], b :: more) else ([], rest)
  | [a] => if a = quote then ([a], []) else ([], rest)
  | [] => ([], [])

/-- Whether a text goes on with a quote written twice. -/
def twoMore (quote : Char) : List Char → Option (List Char)
  | a :: b :: rest => if a = quote ∧ b = quote then some rest else none
  | _ => none

/-- The text up to a double quote written three times, and what follows. A backslash at the end of a
line swallows all blanks and line ends behind it. -/
def readLongBasic (state : QuoteState) : List Char → Option (List Char × List Char)
  | [] => none
  | c :: rest =>
    let go (next : Option (QuoteState × List Char)) : Option (List Char × List Char) :=
      match next with
      | none => none
      | some (state, made) => (readLongBasic state rest).map fun r => (made ++ r.1, r.2)
    let endsLine := c = '\n' || (c = '\r' && rest.head? == some '\n')
    let plain :=
      if c = '"' then
        match twoMore '"' rest with
        | some rest => some (closeLong '"' rest)
        | none => go (some (.plain, ['"']))
      else if c = '\\' then go (some (.escape, []))
      else if endsLine then go (some (.plain, if c = '\n' then ['\n'] else []))
      else if isVisible c then go (some (.plain, [c]))
      else none
    match state with
    | .plain => plain
    | .escape =>
      if isSpace c then go (some (.lineEnd, []))
      else if endsLine then go (some (if c = '\n' then .skip else .lineEnd, []))
      else go (QuoteState.afterBackslash c)
    | .code left digits => go (QuoteState.afterDigit left digits c)
    | .lineEnd =>
      if isSpace c then go (some (.lineEnd, []))
      else if endsLine then go (some (if c = '\n' then .skip else .lineEnd, []))
      else none
    | .skip => if isSpace c || endsLine then go (some (.skip, [])) else plain

/-- The text up to a single quote written three times, and what follows. -/
def readLongLiteral : List Char → Option (List Char × List Char)
  | [] => none
  | c :: rest =>
    let keep (made : List Char) := (readLongLiteral rest).map fun r => (made ++ r.1, r.2)
    if c = '\'' then
      match twoMore '\'' rest with
      | some rest => some (closeLong '\'' rest)
      | none => keep ['\'']
    else if c = '\n' then keep ['\n']
    else if c = '\r' then if rest.head? = some '\n' then keep [] else none
    else if isVisible c then keep [c]
    else none

/-- Drop the end of a line, if there is one. -/
def dropLineEnd : List Char → List Char
  | '\n' :: rest => rest
  | '\r' :: '\n' :: rest => rest
  | cs => cs

/-- A text in double quotes on one line; the first quote has been read. -/
def readShortQuoted (quote : Char) (cs : List Char) : Option (String × List Char) :=
  (if quote = '"' then readBasic .plain cs else readLiteral cs).map fun r =>
    (String.ofList r.1, r.2)

/-- A text in quotes; the first quote has been read. The end of a line right behind three quotes
does not count. -/
def readQuoted (quote : Char) (cs : List Char) : Option (String × List Char) :=
  match twoMore quote cs with
  | some rest =>
    let text := dropLineEnd rest
    (if quote = '"' then readLongBasic .plain text else readLongLiteral text).map fun r =>
      (String.ofList r.1, r.2)
  | none => readShortQuoted quote cs

end HttpRoutes.Toml
