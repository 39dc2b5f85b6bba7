import HttpRoutes.Text.ByName

/-!
# JSON text

Values and their compact text: no blanks, fields in the order in which they stand. In a text only
the quote, the backslash and control characters are escaped. `Json.sorted` brings fields into the
order of their names.
-/

namespace HttpRoutes.Text

/-- A JSON value without fractions and negative numbers. -/
inductive Json
  | null
  | number (n : Nat)
  | text (s : String)
  | list (items : List Json)
  | object (fields : List (String × Json))

namespace Json

/-- A hexadecimal digit in lower case. -/
def hexDigit (n : Nat) : Char :=
  if n < 10 then Char.ofNat ('0'.toNat + n) else Char.ofNat ('a'.toNat + (n - 10))

/-- How a character is written between quotes. -/
def escapeChar (c : Char) : String :=
  match c with
  | '"' => "\\\""
  | '\\' => "\\\\"
  | '\n' => "\\n"
  | '\r' => "\\r"
  | '\t' => "\\t"
  | c =>
    if c.toNat = 8 then "\\b"
    else if c.toNat = 12 then "\\f"
    else if c.toNat < 32 then
      String.ofList ['\\', 'u', '0', '0', hexDigit (c.toNat / 16), hexDigit (c.toNat % 16)]
    else c.toString

/-- A text between quotes. -/
def quote (s : String) : String := "\"" ++ String.join (s.toList.map escapeChar) ++ "\""

mutual

/-- The compact text of a value. -/
def render : Json → String
  | null => "null"
  | number n => toString n
  | text s => quote s
  | list items => "[" ++ renderItems items ++ "]"
  | object fields => "\x7b" ++ renderFields fields ++ "\x7d"

/-- The items of a list, with commas between them. -/
def renderItems : List Json → String
  | [] => ""
  | [v] => v.render
  | v :: w :: rest => v.render ++ "," ++ renderItems (w :: rest)

/-- The fields of an object, with commas between them. -/
def renderFields : List (String × Json) → String
  | [] => ""
  | [(name, v)] => quote name ++ ":" ++ v.render
  | (name, v) :: w :: rest => quote name ++ ":" ++ v.render ++ "," ++ renderFields (w :: rest)

end

/-- The object of some fields in the order of their names. Of two fields with one name the later
counts. -/
def sorted (fields : List (String × Json)) : Json := .object (sortByName fields)

end Json

end HttpRoutes.Text
