/-!
# Verbs

The seven request verbs that routes are registered under. A verb is written as one token in capital
letters and is read back from exactly that token.

`PerVerb` keeps one value for every verb.
-/

namespace HttpRoutes

/-- A verb that a route can be registered under. -/
inductive Verb
  | get
  | post
  | put
  | delete
  | patch
  | head
  | options
deriving DecidableEq, Repr

namespace Verb

/-- Every verb, in the order in which they are always listed. -/
def all : List Verb := [get, post, put, delete, patch, head, options]

theorem mem_all (v : Verb) : v ∈ all := by cases v <;> decide

/-- The token that writes the verb. -/
def token : Verb → String
  | get => "GET"
  | post => "POST"
  | put => "PUT"
  | delete => "DELETE"
  | patch => "PATCH"
  | head => "HEAD"
  | options => "OPTIONS"

/-- The verb in words. -/
def name : Verb → String
  | get => "Get"
  | post => "Post"
  | put => "Put"
  | delete => "Delete"
  | patch => "Patch"
  | head => "Head"
  | options => "Options"

/-- The verb that a token writes. Capitals matter. -/
def ofToken? (token : String) : Option Verb := all.find? (·.token = token)

theorem ofToken?_token (v : Verb) : ofToken? v.token = some v := by cases v <;> decide

theorem token_of_ofToken? {s : String} {v : Verb} (h : ofToken? s = some v) : v.token = s := by
  simpa using List.find?_some h

/-- The verbs of a list, each once, in the order of `Verb.all`. -/
def distinct (verbs : List Verb) : List Verb := all.filter (verbs.contains ·)

@[simp] theorem mem_distinct {verbs : List Verb} {v : Verb} : v ∈ distinct verbs ↔ v ∈ verbs := by
  simp [distinct, mem_all]

theorem distinct_singleton (v : Verb) : distinct [v] = [v] := by cases v <;> rfl

/-- Neither order nor repetition counts. -/
theorem distinct_congr {verbs verbs' : List Verb} (h : ∀ v, v ∈ verbs ↔ v ∈ verbs') :
    distinct verbs = distinct verbs' := by
  refine List.filter_congr fun v _ => ?_
  rw [Bool.eq_iff_iff, List.contains_iff_mem, List.contains_iff_mem, h v]

/-- What is said of a token that is no verb. -/
def unknownMessage (token : String) : String := s!"unsupported verb `{token}`"

/-- The verbs that tokens write, or the first token that is no verb. -/
def readAll : List String → Except String (List Verb)
  | [] => .ok []
  | token :: rest =>
    match ofToken? token with
    | none => .error token
    | some v => (readAll rest).map (v :: ·)

end Verb

/-- One value for every verb. -/
structure PerVerb (α : Type) where
  get : α
  post : α
  put : α
  delete : α
  patch : α
  head : α
  options : α
deriving DecidableEq, Repr

namespace PerVerb

variable {α β : Type}

/-- The same value for every verb. -/
def const (a : α) : PerVerb α := ⟨a, a, a, a, a, a, a⟩

/-- The value of a verb. -/
def value (p : PerVerb α) : Verb → α
  | .get => p.get
  | .post => p.post
  | .put => p.put
  | .delete => p.delete
  | .patch => p.patch
  | .head => p.head
  | .options => p.options

/-- Replace the value of a verb. -/
def set (p : PerVerb α) (v : Verb) (a : α) : PerVerb α :=
  match v with
  | .get => { p with get := a }
  | .post => { p with post := a }
  | .put => { p with put := a }
  | .delete => { p with delete := a }
  | .patch => { p with patch := a }
  | .head => { p with head := a }
  | .options => { p with options := a }

@[simp] theorem value_const (a : α) (v : Verb) : (const a).value v = a := by cases v <;> rfl

@[simp] theorem value_set (p : PerVerb α) (v w : Verb) (a : α) :
    (p.set v a).value w = if w = v then a else p.value w := by
  cases v <;> cases w <;> rfl

theorem ext_value {p q : PerVerb α} (h : ∀ v, p.value v = q.value v) : p = q := by
  have h₁ := h .get; have h₂ := h .post; have h₃ := h .put; have h₄ := h .delete
  have h₅ := h .patch; have h₆ := h .head; have h₇ := h .options
  cases p; cases q; simp_all [PerVerb.value]

end PerVerb

end HttpRoutes
