import HttpRoutes.Expression.Basic
import HttpRoutes.Route.Error
import HttpRoutes.Route.Slashes

/-!
# Route patterns

A pattern is literal text with placeholders in braces, such as `/users/{id:\d+}`.
`Pattern.compile` checks a pattern and splits it into parts; `Pattern.source` is the matching
expression it stands for, with one group for every placeholder.

* `{name:expression}` is a named placeholder, and `{name:}` takes letters, digits and underscores.
* Any other `{expression}` is a placeholder without a name.
* Braces nest inside a placeholder, and a backslash keeps the brace behind it from counting.

Expressions are emitted so that `\d` and `\w` mean ASCII alone wherever that is possible. It is not
possible where an expression could then match a part of a longer character, as `[^/]` could.
-/

namespace HttpRoutes

/-! ## Tokens -/

/-- What a pattern is made of, read from left to right. Nothing is read after a fault. -/
inductive PatternToken
  | char (c : Char)
  | braced (body : List Char)
  | fault (f : BraceFault)
deriving DecidableEq, Repr

/-- The text up to the closing brace that balances an opening one, and the text behind that brace.
`depth` further braces are open. -/
def closeBrace (depth : Nat) (escaped : Bool) : List Char → Option (List Char × List Char)
  | [] => none
  | c :: rest =>
    let keep (r : Option (List Char × List Char)) := r.map fun r => (c :: r.1, r.2)
    if escaped then keep (closeBrace depth false rest)
    else if c = '\\' then keep (closeBrace depth true rest)
    else if c = '\x7b' then keep (closeBrace (depth + 1) false rest)
    else if c = '\x7d' then
      match depth with
      | 0 => some ([], rest)
      | d + 1 => keep (closeBrace d false rest)
    else keep (closeBrace depth false rest)

/-- The scan either stops at the first character or keeps it in front of what it finds behind it. -/
theorem closeBrace_cases {depth : Nat} {escaped : Bool} {c : Char} {cs body rest : List Char}
    (h : closeBrace depth escaped (c :: cs) = some (body, rest)) :
    c = '\x7d' ∧ body = [] ∧ rest = cs ∨
      ∃ d e later, closeBrace d e cs = some (later, rest) ∧ body = c :: later := by
  have keep {d : Nat} {e : Bool}
      (h : (closeBrace d e cs).map (fun r => (c :: r.1, r.2)) = some (body, rest)) :
      ∃ d e later, closeBrace d e cs = some (later, rest) ∧ body = c :: later := by
    obtain ⟨⟨later, _⟩, hlater, heq⟩ := Option.map_eq_some_iff.1 h
    cases heq
    exact ⟨d, e, later, hlater, rfl⟩
  unfold closeBrace at h
  split at h
  · exact .inr (keep h)
  · split at h
    · exact .inr (keep h)
    · split at h
      · exact .inr (keep h)
      · split at h
        · next hbrace =>
          split at h
          · cases h
            exact .inl ⟨hbrace, rfl, rfl⟩
          · exact .inr (keep h)
        · exact .inr (keep h)

theorem eq_of_closeBrace {depth : Nat} {escaped : Bool} {cs body rest : List Char}
    (h : closeBrace depth escaped cs = some (body, rest)) : cs = body ++ '\x7d' :: rest := by
  induction cs generalizing depth escaped body with
  | nil => cases h
  | cons c cs ih =>
    rcases closeBrace_cases h with ⟨rfl, rfl, rfl⟩ | ⟨d, e, later, hlater, rfl⟩
    · rfl
    · rw [ih hlater, List.cons_append]

theorem length_of_closeBrace {depth : Nat} {escaped : Bool} {cs body rest : List Char}
    (h : closeBrace depth escaped cs = some (body, rest)) : rest.length < cs.length := by
  rw [eq_of_closeBrace h, List.length_append, List.length_cons]
  omega

/-- How many bytes encode the characters. -/
def utf8Length (cs : List Char) : Nat := total (cs.map Char.utf8Size)

/-- The tokens of a pattern, whose first character stands at `offset`. -/
def patternTokens (offset : Nat) (cs : List Char) : List PatternToken :=
  match cs with
  | [] => []
  | c :: rest =>
    if c = '\x7b' then
      match h : closeBrace 0 false rest with
      | none => [.fault (.unterminated offset)]
      | some ([], _) => [.fault .emptyPlaceholder]
      | some (b :: body, after) =>
        .braced (b :: body) :: patternTokens (offset + utf8Length (b :: body) + 2) after
    else if c = '\x7d' then [.fault (.unmatched offset)]
    else .char c :: patternTokens (offset + c.utf8Size) rest
termination_by cs.length
decreasing_by
  · have := length_of_closeBrace h
    simp only [List.length_cons]
    omega
  · simp

/-! ## Placeholders -/

/-- A placeholder: its name, the expression its value matches, whether that expression is read with
the Unicode flag off, and how many numbers the groups inside it take. -/
structure Placeholder where
  name : Option String
  expression : String
  ascii : Bool
  innerGroups : Nat
deriving DecidableEq, Repr

/-- The expression as it goes into the source. -/
def Placeholder.emitted (p : Placeholder) : String :=
  if p.ascii then "(?-u:" ++ p.expression ++ ")" else p.expression

/-- Whether a text can name a placeholder: ASCII letters, digits and underscores. -/
def isName (cs : List Char) : Bool := !cs.isEmpty && cs.all fun c => c.isAlphanum || c = '_'

/-- The expression of a named placeholder that gives none. -/
def defaultExpression : String := "\\w+"

/-- The name and the expression of what stands between braces. The text before the first colon is a
name only if it is one; otherwise all of it is the expression. -/
def splitPlaceholder (body : List Char) : Option String × String :=
  let name := body.takeWhile (· != ':')
  match body.dropWhile (· != ':') with
  | _ :: expression =>
    if isName name then
      (some (String.ofList name),
        if expression.isEmpty then defaultExpression else String.ofList expression)
    else (none, String.ofList body)
  | [] => (none, String.ofList body)

/-- The most memory, in bytes, that the expression of one placeholder may take. -/
def placeholderLimit : Nat := 10 <<< 20

/-- The placeholder of a name and an expression. The expression is tried with the Unicode flag off
first, written in front of it, so that an unbalanced bracket cannot pass. -/
def Placeholder.ofExpression? [Engine] (name : Option String) (expression : String) :
    Option Placeholder :=
  match Expression.ofText? placeholderLimit ("(?-u)" ++ expression) with
  | some e => some ⟨name, expression, true, e.groupCount⟩
  | none =>
    (Expression.ofText? placeholderLimit expression).map fun e =>
      ⟨name, expression, false, e.groupCount⟩

/-! ## Parts -/

/-- A part of a pattern: a character that stands for itself, or a placeholder. -/
inductive PatternPart
  | char (c : Char)
  | placeholder (p : Placeholder)
deriving DecidableEq, Repr

/-- The expression that matches one character. -/
def escapeChar (c : Char) : String :=
  if Expression.isMeta c then String.ofList ['\\', c] else c.toString

/-- The expression of a part. -/
def PatternPart.source : PatternPart → String
  | .char c => escapeChar c
  | .placeholder p => "(" ++ p.emitted ++ ")"

/-- How many group numbers are counted for a part. -/
def PatternPart.groupCount : PatternPart → Nat
  | .char _ => 0
  | .placeholder p => p.innerGroups + 1

/-- The name that a part declares. -/
def PatternPart.name? : PatternPart → Option String
  | .char _ => none
  | .placeholder p => p.name

/-- The part that a token stands for, after parts that declare the names `seen`. -/
def PatternPart.ofToken [Engine] (pattern : String) (seen : List String) :
    PatternToken → Except RouteError PatternPart
  | .char c => .ok (.char c)
  | .fault f => .error (.malformedPattern pattern f)
  | .braced body =>
    let (name, expression) := splitPlaceholder body
    match name.filter (seen.contains ·) with
    | some name => .error (.duplicateName pattern name)
    | none =>
      match Placeholder.ofExpression? name expression with
      | some p => .ok (.placeholder p)
      | none => .error (.invalidSubPattern pattern)

/-- The parts that tokens stand for. -/
def patternParts [Engine] (pattern : String) (seen : List String) :
    List PatternToken → Except RouteError (List PatternPart)
  | [] => .ok []
  | t :: rest => do
    let part ← PatternPart.ofToken pattern seen t
    let parts ← patternParts pattern (seen ++ part.name?.toList) rest
    return part :: parts

/-! ## Patterns -/

/-- A pattern as declared, and its parts. -/
structure Pattern where
  text : String
  parts : List PatternPart
deriving DecidableEq, Repr

namespace Pattern

/-- Check a pattern and split it into parts. -/
def compile [Engine] (text : String) : Except RouteError Pattern := do
  let parts ← patternParts text [] (patternTokens 0 (trimSlashes text).toList)
  return ⟨text, parts⟩

/-- The pattern without the slashes at its ends. -/
def literal (p : Pattern) : String := trimSlashes p.text

/-- The expression that the pattern stands for. -/
def source (p : Pattern) : String := String.join (p.parts.map PatternPart.source)

/-- How many group numbers are counted for the pattern. -/
def groupCount (p : Pattern) : Nat := total (p.parts.map PatternPart.groupCount)

/-- The placeholders among parts, each with the number of its group. `slot` is the number that the
next group gets. -/
def slotsFrom (slot : Nat) : List PatternPart → List (Nat × Placeholder)
  | [] => []
  | .char _ :: rest => slotsFrom slot rest
  | .placeholder p :: rest => (slot, p) :: slotsFrom (slot + 1 + p.innerGroups) rest

/-- The placeholders of the pattern in order, each with the number of its group, counted from one.
-/
def slots (p : Pattern) : List (Nat × Placeholder) := slotsFrom 1 p.parts

/-- The names of the placeholders in order. -/
def names (p : Pattern) : List (Option String) := p.slots.map (·.2.name)

/-- Whether the pattern has no placeholders. -/
def isLiteral (p : Pattern) : Bool := p.slots.isEmpty

end Pattern

end HttpRoutes
