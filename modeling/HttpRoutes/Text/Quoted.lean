import HttpRoutes.Text.Category
import HttpRoutes.Text.Property

/-!
# Texts between quotes

How a text is shown to a person who has to tell every character: between quotes, with the quote and
the backslash escaped, and with a code in place of whatever could not be seen by itself.
-/

namespace HttpRoutes.Text

/-- Characters that show nothing by themselves: controls, formats, separators, private and
unassigned codes, and marks that join the character before them. A space is visible enough. -/
def unseenChars : CharSet :=
  let separators := (inCategories ["zl", "zp", "zs"]).diff (.single ' ')
  let marks := withProperty "graphemeextend"
  ((inCategories ["cc", "cf", "cs", "co"]).union (unassigned.union separators)).union marks

/-- The hexadecimal digits of a number, in lower case. -/
def hexText (n : Nat) : String := String.ofList (Nat.toDigits 16 n)

/-- How a character is shown between quotes. -/
def showChar (c : Char) : String :=
  match c with
  | '"' => "\\\""
  | '\\' => "\\\\"
  | '\n' => "\\n"
  | '\r' => "\\r"
  | '\t' => "\\t"
  | c =>
    if c.toNat = 0 then "\\0"
    else if 32 ≤ c.toNat ∧ c.toNat < 127 then c.toString
    else if unseenChars.contains c then "\\u\x7b" ++ hexText c.toNat ++ "\x7d"
    else c.toString

/-- A text between quotes. -/
def showQuoted (s : String) : String := "\"" ++ String.join (s.toList.map showChar) ++ "\""

end HttpRoutes.Text
