import HttpRoutes.Text.Trim

/-!
# Slashes at the ends

Patterns and paths are compared without the slashes at their ends.
-/

namespace HttpRoutes

/-- The text without the slashes at its ends. -/
def trimSlashes (text : String) : String := String.ofList (Text.trimBoth (· = '/') text.toList)

end HttpRoutes
