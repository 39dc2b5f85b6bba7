/-!
# Hexadecimal digits

Numbers and characters written by hexadecimal digits, in upper or lower case.
-/

namespace HttpRoutes.Text

/-- The value of a hexadecimal digit; anything else counts as zero. -/
def hexValue (c : Char) : Nat :=
  if '0' ≤ c ∧ c ≤ '9' then c.toNat - '0'.toNat
  else if 'a' ≤ c ∧ c ≤ 'f' then c.toNat - 'a'.toNat + 10
  else if 'A' ≤ c ∧ c ≤ 'F' then c.toNat - 'A'.toNat + 10
  else 0

/-- Whether a character is a hexadecimal digit. -/
def isHexDigit (c : Char) : Bool :=
  ('0' ≤ c && c ≤ '9') || ('a' ≤ c && c ≤ 'f') || ('A' ≤ c && c ≤ 'F')

/-- The number written by hexadecimal digits. -/
def hexNumber (ds : List Char) : Nat := ds.foldl (fun n c => 16 * n + hexValue c) 0

/-- The character with the code that the digits write, if there is one. -/
def hexChar? (ds : List Char) : Option Char :=
  let n := hexNumber ds
  if h : n.isValidChar then some (Char.ofNatAux n h) else none

end HttpRoutes.Text
