import HttpRoutes.Text.CharSet
import HttpRoutes.Text.Hex

/-!
# Named character sets

Tables of character sets that are looked up by name. A name is compared by its *key*: upper and
lower case, spaces, hyphens, underscores and a leading "is" make no difference.
-/

namespace HttpRoutes.Text

namespace CharSet

/-- Read ranges such as `61-7A` or `5F` that are separated by one space. `n` is the number read so
far and `low` the start of the range, if a hyphen has been met. -/
def readHex : List Char → Nat → Option Nat → List (Nat × Nat)
  | [], n, low => [(low.getD n, n)]
  | ' ' :: rest, n, low => (low.getD n, n) :: readHex rest 0 none
  | '-' :: rest, n, _ => readHex rest 0 (some n)
  | c :: rest, n, low => readHex rest (16 * n + hexValue c) low

/-- The set whose ranges are written in hexadecimal, line by line, in ascending order. -/
def ofHex (lines : List String) : CharSet :=
  ⟨lines.flatMap fun line => readHex line.toList 0 none⟩

end CharSet

/-- A character set and the keys of its names. -/
structure NamedSet where
  names : List String
  set : CharSet

namespace NamedSet

/-- The set that has `key` among its names. -/
def find? (table : List NamedSet) (key : String) : Option CharSet :=
  (table.find? fun entry => entry.names.contains key).map (·.set)

/-- All characters of a table. -/
def unionOf (table : List NamedSet) : CharSet :=
  table.foldl (fun acc entry => acc.union entry.set) .empty

/-- Drop a leading "is", in any case. -/
def dropIs : List Char → Bool × List Char
  | a :: b :: rest =>
    if (a = 'i' ∨ a = 'I') ∧ (b = 's' ∨ b = 'S') then (true, rest) else (false, a :: b :: rest)
  | cs => (false, cs)

/-- The form in which names are compared. The one name that would lose its own "is" keeps it. -/
def key (name : String) : String :=
  let (dropped, rest) := dropIs name.toList
  let kept := (rest.filter fun c => c ≠ ' ' ∧ c ≠ '_' ∧ c ≠ '-' ∧ c.toNat < 128).map Char.toLower
  if dropped ∧ kept = ['c'] then "isc" else String.ofList kept

end NamedSet

end HttpRoutes.Text
