/-!
# Lists sorted by name

Values with distinct names, in ascending order of the names. Names are compared character by
character by their codes.
-/

namespace HttpRoutes.Text

variable {α : Type}

/-- Put a named value into a sorted list, in place of one of the same name. -/
def insertByName (name : String) (a : α) : List (String × α) → List (String × α)
  | [] => [(name, a)]
  | (n, b) :: rest =>
    if name < n then (name, a) :: (n, b) :: rest
    else if name = n then (name, a) :: rest
    else (n, b) :: insertByName name a rest

/-- Sort named values. Of two with one name the later counts. -/
def sortByName (named : List (String × α)) : List (String × α) :=
  named.foldl (fun acc x => insertByName x.1 x.2 acc) []

/-- The value of a name. -/
def findByName? (named : List (String × α)) (name : String) : Option α :=
  (named.find? (·.1 = name)).map (·.2)

end HttpRoutes.Text
