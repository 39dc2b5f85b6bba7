import HttpRoutes.Proofs.Route.CombinedForm

/-!
# Literal routes

A route without placeholders matches its own text and nothing else (`matchAlone_of_isLiteral`). Its
characters become one literal, and the group around it is the only one it opens.
-/

namespace HttpRoutes

open Expression

variable {α : Type}

/-! ## Characters in a row -/

namespace Expression

/-- The form of characters in a row. -/
def Form.ofChars : List Char → Form
  | [] => .empty
  | cs => .literal cs

theorem Form.choose_ofChars (cs : List Char) : Form.choose [.ofChars cs] = .ofChars cs := by
  cases cs <;> rfl

/-- Characters that stand for themselves are put together into one literal. -/
theorem branches_chars (cs : List Char) :
    (Term.ofParts (cs.map fun c => .char ⟨c, false⟩)).branches? .initial =
      some ([Form.ofChars cs], .initial) := by
  induction cs with
  | nil => rfl
  | cons c rest ih =>
    have hchar : (Term.char ⟨c, false⟩).branches? .initial = some ([.literal [c]], .initial) := by
      simp [Term.branches?, Modes.charForm?, Modes.initial]
    cases rest with
    | nil => exact hchar
    | cons next rest =>
      have hseq : Term.ofParts ((c :: next :: rest).map fun c => .char ⟨c, false⟩) =
          .seq (.char ⟨c, false⟩) (Term.ofParts ((next :: rest).map fun c => .char ⟨c, false⟩)) :=
        rfl
      rw [hseq, Term.branches?, hchar]
      simp only [Option.bind_eq_bind, Option.bind_some, ih]
      rfl

/-- A literal leads to the end of a text if it is the text. -/
theorem advance_to_end {cs : List Char} {c : Cursor} :
    (∃ c', Matcher.advance? cs c = some c' ∧ c'.rest = []) ↔ c.rest = cs := by
  induction cs generalizing c with
  | nil => simp [Matcher.advance?]
  | cons ch cs ih =>
    rw [Matcher.advance?]
    cases hrest : c.rest with
    | nil => simp
    | cons x rest =>
      dsimp only
      by_cases hx : ch = x
      · rw [if_pos hx, ih, List.cons.injEq]
        exact (and_iff_right hx.symm).symm
      · rw [if_neg hx, List.cons.injEq]
        exact iff_of_false (fun h => by simp at h) fun h => hx h.1.symm

theorem matchWhole_ofChars {index : Nat} {cs text : List Char} :
    ((Form.capture index (.ofChars cs)).matchWhole? text).isSome ↔ text = cs := by
  rw [Form.matchWhole?, Option.isSome_map, List.find?_isSome]
  cases cs with
  | nil => simp [Form.ofChars, Form.matcher, Matcher.capture, Matcher.nothing, Outcome.atEnd,
      Cursor.start]
  | cons ch cs =>
    rw [← show (Cursor.start text).rest = ch :: cs ↔ text = ch :: cs from Iff.rfl, ← advance_to_end]
    simp only [Form.ofChars, Form.matcher, Matcher.capture, Matcher.literal]
    cases Matcher.advance? (ch :: cs) (.start text) with
    | none => simp
    | some c' => simp [Outcome.atEnd]

end Expression

/-! ## Patterns without placeholders -/

/-- A character is read as itself, or it begins something that is no character. -/
theorem patternTokens_cons (offset : Nat) (c : Char) (cs : List Char) :
    patternTokens offset (c :: cs) = .char c :: patternTokens (offset + c.utf8Size) cs ∨
      ∃ t later, patternTokens offset (c :: cs) = t :: later ∧ ∀ d, t ≠ .char d := by
  rw [patternTokens]
  split
  · right
    split
    · exact ⟨_, _, rfl, by simp⟩
    · exact ⟨_, _, rfl, by simp⟩
    · exact ⟨_, _, rfl, by simp⟩
  · split
    · exact .inr ⟨_, _, rfl, by simp⟩
    · exact .inl rfl

/-- What has no placeholders is read character by character. -/
theorem parts_of_tokens [Engine] {text : String} {seen : List String} {offset : Nat}
    {cs : List Char} {parts : List PatternPart}
    (h : patternParts text seen (patternTokens offset cs) = .ok parts)
    (hnone : placeholders parts = []) : parts = cs.map .char := by
  induction cs generalizing seen offset parts with
  | nil =>
    rw [patternTokens] at h
    cases h
    rfl
  | cons c cs ih =>
    rcases patternTokens_cons offset c cs with htokens | ⟨t, tokens, htokens, hbraced⟩
    · rw [htokens] at h
      obtain ⟨part, later, hpart, hlater, rfl⟩ := patternParts_cons_eq_ok h
      cases hpart
      rw [ih hlater hnone, List.map_cons]
    · rw [htokens] at h
      obtain ⟨part, later, hpart, hlater, rfl⟩ := patternParts_cons_eq_ok h
      cases part with
      | placeholder p => cases hnone
      | char d =>
        cases t with
        | char c => exact absurd rfl (hbraced c)
        | fault f => cases hpart
        | braced body =>
          simp only [PatternPart.ofToken] at hpart
          split at hpart
          · cases hpart
          · split at hpart <;> cases hpart

namespace Pattern

theorem placeholders_of_isLiteral {p : Pattern} (h : p.isLiteral = true) :
    placeholders p.parts = [] := by
  have hnone (slot : Nat) (parts : List PatternPart) (hslots : slotsFrom slot parts = []) :
      placeholders parts = [] := by
    induction parts with
    | nil => rfl
    | cons part rest ih =>
      cases part with
      | char c => exact ih hslots
      | placeholder p => cases hslots
  exact hnone 1 p.parts (List.isEmpty_iff.1 h)

/-- A compiled pattern without placeholders is made of the characters of its text. -/
theorem parts_of_isLiteral [Engine] {p : Pattern} (hcompiled : compile p.text = .ok p)
    (h : p.isLiteral = true) : p.parts = p.literal.toList.map .char :=
  parts_of_tokens (compile_eq_ok hcompiled).2 (placeholders_of_isLiteral h)

end Pattern

theorem partTerms_chars (before : Nat) (cs : List Char) :
    partTerms before (cs.map .char) = cs.map fun c => .char ⟨c, false⟩ := by
  induction cs with
  | nil => rfl
  | cons c cs ih => exact congrArg (.char ⟨c, false⟩ :: ·) ih

/-- A literal route matches its own text and no other. -/
theorem matchAlone_of_isLiteral [Engine] {e : Entry α}
    (hcompiled : Pattern.compile e.pattern.text = .ok e.pattern)
    (h : e.pattern.isLiteral = true) (text : List Char) :
    (e.matchAlone? text).isSome ↔ text = e.pattern.literal.toList := by
  have hform : e.form? = some (.capture 1 (.ofChars e.pattern.literal.toList)) := by
    rw [Entry.form?, Pattern.parts_of_isLiteral hcompiled h, partTerms_chars, branches_chars,
      Option.map_some, Form.choose_ofChars]
  rw [Entry.matchAlone?, hform, Option.bind_some, matchWhole_ofChars]

end HttpRoutes
