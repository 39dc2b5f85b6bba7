/-!
# Trimming

Dropping what does not count from both ends of a list.
-/

namespace HttpRoutes.Text

variable {α : Type}

/-- Drop what satisfies a test from both ends of a list. -/
def trimBoth (p : α → Bool) (xs : List α) : List α :=
  ((xs.dropWhile p).reverse.dropWhile p).reverse

end HttpRoutes.Text
