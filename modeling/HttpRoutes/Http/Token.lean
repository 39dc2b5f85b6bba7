/-!
# Tokens

Method names and header names are tokens: one or more letters, digits and some punctuation, all of
them ASCII.
-/

namespace HttpRoutes.Http

/-- Whether a character can stand in a token. -/
def isTokenChar (c : Char) : Bool :=
  c.isAlphanum ||
    ['!', '#', '$', '%', '&', '\'', '*', '+', '-', '.', '^', '_', '`', '|', '~'].contains c

/-- Whether a text is a token. -/
def isToken (text : String) : Bool := !text.isEmpty && text.toList.all isTokenChar

end HttpRoutes.Http
