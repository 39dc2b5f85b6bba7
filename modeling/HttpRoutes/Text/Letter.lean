import HttpRoutes.Text.Category
import HttpRoutes.Text.Property
import HttpRoutes.Text.WordChars

/-!
# Letters and numbers

Which characters count as letters and as numbers, over all scripts.
-/

namespace HttpRoutes.Text

/-- The characters with the property of being alphabetic. -/
def alphabeticChars : CharSet := withProperty "alphabetic"

/-- The characters of the number categories. -/
def numberChars : CharSet := inCategories ["nd", "nl", "no"]

/-- Whether the character is a letter. -/
def isLetter (c : Char) : Bool :=
  if c.toNat < 128 then c.isAlpha else alphabeticChars.contains c

/-- Whether the character is a letter or a number. -/
def isLetterOrNumber (c : Char) : Bool :=
  if c.toNat < 128 then c.isAlphanum else alphabeticChars.contains c || numberChars.contains c

end HttpRoutes.Text
