/-!
# TOML values

What a TOML document says. Tables know how they came about, because that decides what may be added
to them later: a table with a header of its own, a table that a longer header implies, and a table
that dotted keys make. A table in braces is complete where it stands.
-/

namespace HttpRoutes.Toml

/-- How a table came about. -/
inductive TableKind
  | headed
  | implied
  | dotted
deriving DecidableEq, Repr

/-- A value of a document. Nothing here depends on what a fraction or a time is exactly. -/
inductive Value
  | text (s : String)
  | integer (n : Int)
  | fraction
  | boolean (b : Bool)
  | time
  | array (items : List Value)
  | inline (entries : List (String × Value))
  | table (kind : TableKind) (entries : List (String × Value))
  | tables (items : List (List (String × Value)))

/-- Values with distinct keys in the order in which they came. -/
abbrev Entries := List (String × Value)

/-- The value of a key. -/
def Entries.find? (entries : Entries) (key : String) : Option Value :=
  (List.find? (·.1 = key) entries).map (·.2)

/-- Give a key a value, in its place or at the end. -/
def Entries.set (entries : Entries) (key : String) (v : Value) : Entries :=
  match entries with
  | [] => [(key, v)]
  | (k, w) :: rest => if k = key then (k, v) :: rest else (k, w) :: Entries.set rest key v

/-- A table under construction. -/
structure Table where
  kind : TableKind
  entries : Entries

namespace Table

/-- A table of some kind without entries. -/
def empty (kind : TableKind) : Table := ⟨kind, []⟩

/-- Change the table at the end of a path. Tables that are missing on the way are made. Dotted keys
cannot pass through a table with a header, and nothing can pass through other values. In a list of
tables the latest is meant. -/
def change (byDots : Bool) (f : Table → Option Table) : List String → Table → Option Table
  | [], t => f t
  | key :: path, t =>
    match Entries.find? t.entries key with
    | none =>
      (change byDots f path (.empty (if byDots then .dotted else .implied))).map fun inner =>
        ⟨t.kind, Entries.set t.entries key (.table inner.kind inner.entries)⟩
    | some (.table kind entries) =>
      if byDots && kind = .headed then none
      else (change byDots f path ⟨kind, entries⟩).map fun inner =>
        ⟨t.kind, Entries.set t.entries key (.table inner.kind inner.entries)⟩
    | some (.tables items) =>
      match items.getLast? with
      | none => none
      | some last =>
        (change byDots f path ⟨.headed, last⟩).map fun inner =>
          ⟨t.kind, Entries.set t.entries key (.tables (items.dropLast ++ [inner.entries]))⟩
    | some _ => none

/-- Add a key that is not there yet. `byDots` says that dotted keys led here; they lead only to
tables that dotted keys have made. -/
def add (byDots : Bool) (key : String) (v : Value) (t : Table) : Option Table :=
  if decide (t.kind = .dotted) != byDots then none
  else
    match Entries.find? t.entries key with
    | some _ => none
    | none => some ⟨t.kind, t.entries ++ [(key, v)]⟩

/-- Add a value under a path of keys, the last of which is given apart. -/
def addAt (path : List String) (key : String) (v : Value) (t : Table) : Option Table :=
  change true (add (!path.isEmpty) key v) path t

end Table

end HttpRoutes.Toml
