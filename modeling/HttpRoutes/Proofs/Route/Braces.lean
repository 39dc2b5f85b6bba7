import HttpRoutes.Proofs.Route.Filling

/-!
# Braces and names

What a placeholder is, said without the scanners: it ends at the one brace that balances its first
(`closeBrace_eq_some`), and what stands between its braces declares a name where the text before the
first colon is an identifier (`declares_iff`).
-/

namespace HttpRoutes

/-! ## Balanced braces -/

/-- Every opening brace is closed. A backslash takes the character behind it out of the count. -/
inductive Balanced : List Char → Prop
  | nil : Balanced []
  | escaped {c rest} : Balanced rest → Balanced ('\\' :: c :: rest)
  | plain {c rest} : c ≠ '\\' → c ≠ '\x7b' → c ≠ '\x7d' → Balanced rest → Balanced (c :: rest)
  | nested {inner rest} : Balanced inner → Balanced rest →
      Balanced ('\x7b' :: inner ++ '\x7d' :: rest)

/-- The text closes so many braces that were open before it, and is balanced otherwise. -/
def Closes : Nat → List Char → Prop
  | 0, cs => Balanced cs
  | depth + 1, cs =>
    ∃ inner rest, cs = inner ++ '\x7d' :: rest ∧ Balanced inner ∧ Closes depth rest

/-- What balanced text can be put in front of keeps closing what it closes. -/
theorem Closes.extend {depth : Nat} {cs : List Char} (front : List Char)
    (hfront : ∀ rest, Balanced rest → Balanced (front ++ rest)) (h : Closes depth cs) :
    Closes depth (front ++ cs) := by
  cases depth with
  | zero => exact hfront cs h
  | succ depth =>
    obtain ⟨inner, rest, rfl, hinner, hrest⟩ := h
    exact ⟨front ++ inner, rest, by rw [List.append_assoc], hfront inner hinner, hrest⟩

/-- An opening brace in front closes one brace less. -/
theorem Closes.opened {depth : Nat} {cs : List Char} (h : Closes (depth + 1) cs) :
    Closes depth ('\x7b' :: cs) := by
  obtain ⟨inner, rest, rfl, hinner, hrest⟩ := h
  have hfront := Closes.extend ('\x7b' :: inner ++ ['\x7d'])
    (fun later hlater => by
      rw [List.append_assoc]
      exact .nested hinner hlater) hrest
  rwa [List.append_assoc] at hfront

theorem closeBrace_escaped (depth : Nat) (c : Char) (rest : List Char) :
    closeBrace depth false ('\\' :: c :: rest) =
      (closeBrace depth false rest).map fun r => ('\\' :: c :: r.1, r.2) := by
  simp [closeBrace, Option.map_map, Function.comp_def]

theorem closeBrace_plain (depth : Nat) {c : Char} (rest : List Char) (hslash : c ≠ '\\')
    (hopen : c ≠ '\x7b') (hclose : c ≠ '\x7d') :
    closeBrace depth false (c :: rest) =
      (closeBrace depth false rest).map fun r => (c :: r.1, r.2) := by
  simp [closeBrace, hslash, hopen, hclose]

theorem closeBrace_open (depth : Nat) (rest : List Char) :
    closeBrace depth false ('\x7b' :: rest) =
      (closeBrace (depth + 1) false rest).map fun r => ('\x7b' :: r.1, r.2) := by
  simp [closeBrace]

theorem closeBrace_close (depth : Nat) (rest : List Char) :
    closeBrace (depth + 1) false ('\x7d' :: rest) =
      (closeBrace depth false rest).map fun r => ('\x7d' :: r.1, r.2) := by
  simp [closeBrace]

/-- The scanner goes over balanced text without stopping in it. -/
theorem closeBrace_append {body : List Char} (h : Balanced body) (depth : Nat)
    (rest : List Char) :
    closeBrace depth false (body ++ rest) =
      (closeBrace depth false rest).map fun r => (body ++ r.1, r.2) := by
  induction h generalizing depth rest with
  | nil => simp
  | escaped _ ih =>
    rw [List.cons_append, List.cons_append, closeBrace_escaped, ih, Option.map_map]
    rfl
  | plain hslash hopen hclose _ ih =>
    rw [List.cons_append, closeBrace_plain depth _ hslash hopen hclose, ih, Option.map_map]
    rfl
  | nested _ _ ihinner ihlater =>
    rename_i inner later _ _
    have hshape (tail : List Char) : '\x7b' :: inner ++ '\x7d' :: later ++ tail =
        '\x7b' :: (inner ++ '\x7d' :: (later ++ tail)) := by simp
    simp only [hshape]
    -- The braces of the nested text raise the depth by one and bring it back.
    rw [closeBrace_open, ihinner, closeBrace_close, ihlater]
    simp only [Option.map_map]
    rfl

/-- What the scanner has gone over closes the braces that were open. -/
theorem closes_of_closeBrace {depth : Nat} {escaped : Bool} {cs body rest : List Char}
    (h : closeBrace depth escaped cs = some (body, rest)) :
    if escaped then ∃ c later, body = c :: later ∧ Closes depth later else Closes depth body := by
  induction cs generalizing depth escaped body with
  | nil => cases h
  | cons c cs ih =>
    have hkeep {d : Nat} {e : Bool}
        (h : (closeBrace d e cs).map (fun r => (c :: r.1, r.2)) = some (body, rest)) :
        ∃ later, body = c :: later ∧ closeBrace d e cs = some (later, rest) := by
      obtain ⟨⟨later, rest'⟩, hlater, heq⟩ := Option.map_eq_some_iff.1 h
      cases heq
      exact ⟨later, rfl, hlater⟩
    unfold closeBrace at h
    by_cases hescaped : escaped = true
    · rw [if_pos hescaped] at h ⊢
      obtain ⟨later, rfl, hlater⟩ := hkeep h
      exact ⟨c, later, rfl, by simpa using ih hlater⟩
    rw [if_neg hescaped] at h ⊢
    by_cases hslash : c = '\\'
    · rw [if_pos hslash] at h
      obtain ⟨later, rfl, hlater⟩ := hkeep h
      obtain ⟨d, after, rfl, hafter⟩ := by simpa using ih hlater
      rw [hslash]
      exact hafter.extend ['\\', d] fun _ => .escaped
    rw [if_neg hslash] at h
    by_cases hopen : c = '\x7b'
    · rw [if_pos hopen] at h
      obtain ⟨later, rfl, hlater⟩ := hkeep h
      rw [hopen]
      exact Closes.opened (by simpa using ih hlater)
    rw [if_neg hopen] at h
    by_cases hclose : c = '\x7d'
    · rw [if_pos hclose] at h
      cases depth with
      | zero =>
        cases h
        exact .nil
      | succ depth =>
        obtain ⟨later, rfl, hlater⟩ := hkeep h
        rw [hclose]
        exact ⟨[], later, rfl, .nil, by simpa using ih hlater⟩
    · rw [if_neg hclose] at h
      obtain ⟨later, rfl, hlater⟩ := hkeep h
      exact Closes.extend [c] (fun _ => .plain hslash hopen hclose) (by simpa using ih hlater)

/-- The scanner stops at the brace behind a balanced text. -/
theorem closeBrace_eq_some {cs body rest : List Char} :
    closeBrace 0 false cs = some (body, rest) ↔ Balanced body ∧ cs = body ++ '\x7d' :: rest := by
  constructor
  · intro h
    exact ⟨closes_of_closeBrace h, eq_of_closeBrace h⟩
  · rintro ⟨hbody, rfl⟩
    rw [closeBrace_append hbody]
    simp [closeBrace]

/-- Only one brace closes a placeholder. -/
theorem Balanced.unique {body body' rest rest' : List Char} (h : Balanced body)
    (h' : Balanced body') (heq : body ++ '\x7d' :: rest = body' ++ '\x7d' :: rest') :
    body = body' ∧ rest = rest' := by
  have hclose : closeBrace 0 false (body ++ '\x7d' :: rest) = some (body, rest) :=
    closeBrace_eq_some.2 ⟨h, rfl⟩
  rw [closeBrace_eq_some.2 ⟨h', heq⟩] at hclose
  cases hclose
  exact ⟨rfl, rfl⟩

/-! ## What stands between braces -/

/-- A run of ASCII letters, digits and underscores that is not empty. -/
structure IsIdentifier (cs : List Char) : Prop where
  nonempty : cs ≠ []
  word : ∀ c ∈ cs, c.isAlphanum = true ∨ c = '_'

/-- What stands between braces declares this name and this expression. The text before the first
colon is a name if it is an identifier, and what is behind the colon is then the expression. -/
inductive Declares (body : List Char) : Option String → String → Prop
  | named {name expression : List Char} : body = name ++ ':' :: expression → IsIdentifier name →
      expression ≠ [] → Declares body (some (String.ofList name)) (String.ofList expression)
  | implied {name : List Char} : body = name ++ [':'] → IsIdentifier name →
      Declares body (some (String.ofList name)) "\\w+"
  | unnamed : (∀ name expression, body = name ++ ':' :: expression → ¬ IsIdentifier name) →
      Declares body none (String.ofList body)

theorem isName_iff {cs : List Char} : isName cs = true ↔ IsIdentifier cs := by
  rw [isName, Bool.and_eq_true, List.all_eq_true]
  constructor
  · rintro ⟨hne, hword⟩
    exact ⟨by simpa using hne, fun c hc => by simpa using hword c hc⟩
  · intro h
    exact ⟨by simpa using h.nonempty, fun c hc => by simpa using h.word c hc⟩

/-- An identifier has no colon in it, so that the colon behind it is the first one. -/
theorem IsIdentifier.split {name expression : List Char} (h : IsIdentifier name) :
    (name ++ ':' :: expression).takeWhile (· != ':') = name ∧
      (name ++ ':' :: expression).dropWhile (· != ':') = ':' :: expression := by
  have hcolon : ∀ c ∈ name, (c != ':') = true := by
    intro c hc
    rcases h.word c hc with hword | rfl
    · rw [bne_iff_ne]
      rintro rfl
      exact absurd hword (by decide)
    · rfl
  rw [List.takeWhile_append_of_pos hcolon, List.dropWhile_append_of_pos hcolon]
  simp

/-- What the text before a first colon and the text behind it are, if there is a colon. -/
theorem eq_of_dropWhile {body rest : List Char} {c : Char}
    (h : body.dropWhile (· != ':') = c :: rest) :
    body = body.takeWhile (· != ':') ++ ':' :: rest := by
  have hc : c = ':' := by
    have hhead := List.head?_dropWhile_not (· != ':') body
    rw [h] at hhead
    simpa using hhead
  conv_lhs => rw [← List.takeWhile_append_dropWhile (p := (· != ':')) (l := body), h, hc]

theorem declares_iff {body : List Char} {name : Option String} {expression : String} :
    Declares body name expression ↔ splitPlaceholder body = (name, expression) := by
  constructor
  · rintro (⟨rfl, hname, hne⟩ | ⟨rfl, hname⟩ | hnone)
    · rw [splitPlaceholder, hname.split.1, hname.split.2]
      simp [isName_iff.2 hname, hne]
    · rw [splitPlaceholder, hname.split.1, hname.split.2]
      simp [isName_iff.2 hname, defaultExpression]
    · rw [splitPlaceholder]
      split
      · next c rest hdrop =>
        have hname : ¬ isName (body.takeWhile (· != ':')) = true := fun h =>
          hnone _ _ (eq_of_dropWhile hdrop) (isName_iff.1 h)
        rw [if_neg hname]
      · rfl
  · intro h
    rw [splitPlaceholder] at h
    split at h
    · next c rest hdrop =>
      have hbody := eq_of_dropWhile hdrop
      by_cases hname : isName (body.takeWhile (· != ':')) = true
      · rw [if_pos hname] at h
        cases rest with
        | nil =>
          cases h
          exact .implied hbody (isName_iff.1 hname)
        | cons d rest =>
          cases h
          exact .named hbody (isName_iff.1 hname) (by simp)
      · rw [if_neg hname] at h
        cases h
        refine .unnamed fun name expression hsplit hid => hname ?_
        rw [hsplit, hid.split.1]
        exact isName_iff.2 hid
    · next hdrop =>
      cases h
      refine .unnamed fun name expression hsplit hid => ?_
      rw [hsplit, hid.split.2] at hdrop
      cases hdrop

end HttpRoutes
