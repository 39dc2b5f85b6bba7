import HttpRoutes.Toml.Reader

/-!
# TOML documents

A document is a sequence of lines: blank lines and comments, keys with values, and headers. A
header says to which table the keys below it belong: a table of its own, or one more table of a
list. No key is given twice, and no table has two headers.
-/

namespace HttpRoutes.Toml

/-! ## Lines -/

/-- A line that is not blank. -/
inductive Line
  | pair (path : List String) (key : String) (v : Value)
  | header (path : List String) (key : String)
  | listHeader (path : List String) (key : String)

/-- A line that begins with the given character, and what follows it. -/
def readLine (cs : List Char) : Option (Line × List Char) :=
  match cs with
  | '[' :: '[' :: rest => do
    let ((path, key), rest) ← readKey keyLimit rest
    return (.listHeader path key, ← endLine (← expect ']' (← expect ']' rest)))
  | '[' :: rest => do
    let ((path, key), rest) ← readKey keyLimit rest
    return (.header path key, ← endLine (← expect ']' rest))
  | _ => do
    let ((path, key, v), rest) ← readPair (readValue nestLimit) cs
    return (.pair path key v, ← endLine rest)

/-- All lines of a text. The first argument bounds how many there are. -/
def readLines : Nat → List Char → Option (List Line)
  | 0, _ => none
  | n + 1, cs =>
    match skipSpaces cs with
    | [] => some []
    | '#' :: rest => (endLine ('#' :: rest)).bind (readLines n)
    | '\n' :: rest => readLines n rest
    | '\r' :: rest => (lineEnd? ('\r' :: rest)).bind (readLines n)
    | cs => do
      let (line, rest) ← readLine cs
      return line :: (← readLines n rest)

/-! ## Tables -/

/-- The table that the present keys belong to. -/
inductive Section
  /-- The table of the whole document. -/
  | root
  | headed (path : List String) (key : String)
  | listed (path : List String) (key : String)

/-- A document under construction: the finished part, and the present section, which is not yet in
it. -/
structure Draft where
  finished : Table
  present : Section
  table : Table

namespace Draft

/-- The document before its first line. -/
def start : Draft := ⟨.empty .headed, .root, .empty .headed⟩

/-- Put a table in its place, unless something is there. -/
def putTable (key : String) (table parent : Table) : Option Table :=
  match Entries.find? parent.entries key with
  | some _ => none
  | none => some ⟨parent.kind, Entries.set parent.entries key (.table table.kind table.entries)⟩

/-- Put a table at the end of a list of tables. -/
def pushTable (key : String) (table parent : Table) : Option Table :=
  match Entries.find? parent.entries key with
  | none => some ⟨parent.kind, Entries.set parent.entries key (.tables [table.entries])⟩
  | some (.tables items) =>
    some ⟨parent.kind, Entries.set parent.entries key (.tables (items ++ [table.entries]))⟩
  | some _ => none

/-- The document with its present section in place. -/
def finish (d : Draft) : Option Table :=
  match d.present with
  | .root => some d.table
  | .headed path key => Table.change false (putTable key d.table) path d.finished
  | .listed path key => Table.change false (pushTable key d.table) path d.finished

/-- The table at the end of a path. -/
def tableAt? : List String → Table → Option Table
  | [], t => some t
  | key :: path, t =>
    match Entries.find? t.entries key with
    | none => some (.empty .implied)
    | some (.table kind entries) => tableAt? path ⟨kind, entries⟩
    | some (.tables items) => items.getLast?.bind fun last => tableAt? path ⟨.headed, last⟩
    | some _ => none

/-- Take a table out of its place, where only a longer header can have put it. The table goes on
there. -/
def takeTable (key : String) (parent : Table) : Option (Table × Table) :=
  match Entries.find? parent.entries key with
  | none => some (.empty .headed, parent)
  | some (.table .implied entries) =>
    some (⟨.headed, entries⟩, ⟨parent.kind, parent.entries.filter (·.1 != key)⟩)
  | some _ => none

/-- Begin a table with a header of its own. -/
def openTable (path : List String) (key : String) (d : Draft) : Option Draft := do
  let finished ← d.finish
  let (table, _) ← takeTable key (← tableAt? path finished)
  let finished ← Table.change false (fun t => (takeTable key t).map (·.2)) path finished
  return ⟨finished, .headed path key, table⟩

/-- Begin one more table of a list. -/
def openListed (path : List String) (key : String) (d : Draft) : Option Draft := do
  let finished ← d.finish
  let _ ← pushTable key (.empty .headed) (← tableAt? path finished)
  return ⟨finished, .listed path key, .empty .headed⟩

/-- Go on with one more line. -/
def addLine (d : Draft) : Line → Option Draft
  | .pair path key v => (d.table.addAt path key v).map fun table => { d with table := table }
  | .header path key => d.openTable path key
  | .listHeader path key => d.openListed path key

end Draft

/-! ## Documents -/

/-- Drop the mark that may stand at the start of a text to tell its encoding. -/
def dropMark : List Char → List Char
  | c :: rest => if c = '\uFEFF' then rest else c :: rest
  | [] => []

/-- The keys and values of a document. -/
def readDocument (text : String) : Option Entries := do
  let cs := dropMark text.toList
  let lines ← readLines (cs.length + 1) cs
  let d ← lines.foldlM Draft.addLine .start
  return (← d.finish).entries

end HttpRoutes.Toml
