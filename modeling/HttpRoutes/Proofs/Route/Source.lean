import HttpRoutes.Proofs.Route.Fragment
import HttpRoutes.Route.Combined

/-!
# How a combined expression reads

The text of a combined expression reads as an alternation between anchors, with one group for every
entry and in it one group for every placeholder, each around what the placeholder's text reads as
alone. Only the numbers of the groups depend on what stands in front.
-/

namespace HttpRoutes

open Expression

variable {α : Type}

/-! ## Terms of entries -/

/-- How many groups the part opens. -/
def PatternPart.opened : PatternPart → Nat
  | .char _ => 0
  | .placeholder p => p.term.groups.length + 1

/-- The term of the part behind `before` groups. -/
def PatternPart.termAfter (before : Nat) : PatternPart → Term
  | .char c => .char ⟨c, false⟩
  | .placeholder p => .capture (before + 1) none (p.body.shift (before + 1))

/-- The terms of parts behind `before` groups. -/
def partTerms (before : Nat) : List PatternPart → List Term
  | [] => []
  | part :: rest => part.termAfter before :: partTerms (before + part.opened) rest

/-- How many groups the entry opens, the one around it included. -/
def Entry.opened (e : Entry α) : Nat := 1 + total (e.pattern.parts.map PatternPart.opened)

/-- The term of the entry behind `before` groups. -/
def Entry.termAfter (before : Nat) (e : Entry α) : Term :=
  .capture (before + 1) none (.ofParts (partTerms (before + 1) e.pattern.parts))

/-- The terms of entries behind `before` groups. -/
def entryTerms (before : Nat) : List (Entry α) → List Term
  | [] => []
  | e :: rest => e.termAfter before :: entryTerms (before + e.opened) rest

/-- The term of a combined expression. -/
def combinedTerm (entries : List (Entry α)) : Term :=
  .seq (.assertion .lineStart)
    (.seq (.scoped [] (.ofBranches (entryTerms 0 entries))) (.assertion .lineEnd))

/-- Every placeholder of the pattern emits a text that reads alike inside parentheses. -/
def Pattern.Emits (pattern : Pattern) : Prop :=
  ∀ p, .placeholder p ∈ pattern.parts → p.Emits

/-! ## Reading -/

theorem isEscapable_of_isMeta {c : Char} (h : isMeta c = true) : isEscapable c = true := by
  rw [isEscapable, h]
  rfl

theorem readEscape_of_isMeta {c : Char} (h : isMeta c = true) (tail : List Char) :
    readEscape false (c :: tail) = some (.char ⟨c, false⟩, tail) := by
  unfold readEscape
  dsimp only
  split
  case h_24 => rw [if_pos (isEscapable_of_isMeta h)]
  all_goals exact absurd h (by decide)

/-- A character that stands for itself, escaped where it has to be. -/
theorem spells_escapeChar (before : Nat) (c : Char) :
    Spells ⟨before, false⟩ (escapeChar c).toList [.part (.char ⟨c, false⟩)] ⟨before, false⟩ := by
  unfold escapeChar
  cases hmeta : isMeta c with
  | true =>
    rw [if_pos rfl, String.toList_ofList]
    refine spells_atom rfl (by decide) fun tail => ?_
    exact readEscape_of_isMeta hmeta tail
  | false =>
    have htext : c.toString.toList = [c] := by simp
    rw [if_neg Bool.false_ne_true, htext]
    have hne (d : Char) (hd : isMeta d = true) : c ≠ d := by
      rintro rfl
      rw [hd] at hmeta
      cases hmeta
    refine spells_atom rfl ⟨hne _ rfl, hne _ rfl, hne _ rfl, ?_⟩ fun tail => ?_
    · simp [isRepetition, hne '?' rfl, hne '*' rfl, hne '+' rfl, hne '\x7b' rfl]
    · simp [readAtom, hne '\\' rfl, hne '.' rfl, hne '^' rfl, hne '$' rfl, hne '[' rfl]

/-- The group of a placeholder. -/
theorem spells_placeholder (before : Nat) {p : Placeholder} (hp : p.Emits) :
    Spells ⟨before, false⟩ (PatternPart.source (.placeholder p)).toList
      [.part (.capture (before + 1) none (p.body.shift (before + 1)))]
      ⟨before + (p.term.groups.length + 1), false⟩ := by
  obtain ⟨pieces, after, hreads, hpieces⟩ := hp.reads
  have htext : (PatternPart.source (.placeholder p)).toList =
      '(' :: (p.emitted.toList ++ [')']) := by
    rw [PatternPart.source, String.toList_append, String.toList_append]
    rfl
  have hfirst := first_ne_of_assemble hreads rfl hpieces
  -- Groups are numbered without gaps, so the last number tells how many there are.
  have hgroups : after.groups = p.term.groups.length := by
    have hnumbers := (readPieces_numbers hreads).2
    rw [← openings_assemble hpieces] at hnumbers
    have hlength := congrArg List.length hnumbers
    rw [List.length_range'] at hlength
    rw [← hp.groups]
    exact hlength.symm
  have hshifted := hreads.shift (before + 1)
  have hstart : (⟨0, false⟩ : Progress).shift (before + 1) = ⟨before + 1, false⟩ := by
    simp [Progress.shift]
  rw [hstart] at hshifted
  have hspells := spells_capture (p := ⟨before, false⟩) rfl hfirst hshifted
    (by rw [assemble_shift, hpieces]; rfl)
  have hend : before + (p.term.groups.length + 1) = after.groups + (before + 1) := by omega
  rw [htext, hend]
  exact hspells

/-- The parts of a pattern, one after the other. -/
theorem spells_parts {parts : List PatternPart} (h : ∀ p, .placeholder p ∈ parts → p.Emits)
    (before : Nat) :
    Spells ⟨before, false⟩ (String.join (parts.map PatternPart.source)).toList
      ((partTerms before parts).map .part)
      ⟨before + total (parts.map PatternPart.opened), false⟩ := by
  induction parts generalizing before with
  | nil => exact .refl _
  | cons part rest ih =>
    have hrest := ih (fun p hp => h p (List.mem_cons_of_mem _ hp)) (before + part.opened)
    have hpart : Spells ⟨before, false⟩ part.source.toList [.part (part.termAfter before)]
        ⟨before + part.opened, false⟩ := by
      cases part with
      | char c => exact spells_escapeChar before c
      | placeholder p => exact spells_placeholder before (h p List.mem_cons_self)
    have hall := hpart.append hrest
    rw [List.map_cons, String.join_cons, String.toList_append, List.map_cons, total_cons,
      ← Nat.add_assoc]
    exact hall

/-! ## Whole expressions -/

theorem assemble_parts (terms : List Term) :
    assemble (terms.map .part) = some (.ofParts terms) := by
  have hbranches (latest : Option Term) (terms : List Term) :
      branchesOf latest (terms.map .part) = some [latest.toList ++ terms] := by
    induction terms generalizing latest with
    | nil => simp [branchesOf]
    | cons t rest ih => simp [branchesOf, ih]
  rw [assemble, hbranches]
  rfl

/-- The group of an entry. -/
theorem spells_entry {e : Entry α} (h : e.pattern.Emits) (before : Nat) :
    Spells ⟨before, false⟩ ("(" ++ e.pattern.source ++ ")").toList [.part (e.termAfter before)]
      ⟨before + e.opened, false⟩ := by
  have hparts := (spells_parts h (before + 1)).reads_close
  have htext : ("(" ++ e.pattern.source ++ ")").toList =
      '(' :: (e.pattern.source.toList ++ [')']) := by
    rw [String.toList_append, String.toList_append]
    rfl
  have hend : before + e.opened = before + 1 + total (e.pattern.parts.map PatternPart.opened) := by
    rw [Entry.opened]
    omega
  rw [htext, hend]
  exact spells_capture (p := ⟨before, false⟩) rfl
    (first_ne_of_assemble hparts rfl (assemble_parts _)) hparts (assemble_parts _)

/-- The pieces of alternatives. -/
def barred : List Term → List Piece
  | [] => []
  | [t] => [.part t]
  | t :: rest => .part t :: .bar :: barred rest

theorem assemble_barred (terms : List Term) :
    assemble (barred terms) = some (.ofBranches terms) := by
  have hbranches (terms : List Term) (hne : terms ≠ []) :
      branchesOf none (barred terms) = some (terms.map ([·])) := by
    induction terms with
    | nil => exact absurd rfl hne
    | cons t rest ih =>
      cases rest with
      | nil => rfl
      | cons next rest => simp [barred, branchesOf, ih]
  cases terms with
  | nil => rfl
  | cons t rest =>
    rw [assemble, hbranches _ (List.cons_ne_nil _ _), Option.map_some, List.map_map]
    simp [Function.comp_def, Term.ofParts]

theorem spells_entries {entries : List (Entry α)} (h : ∀ e ∈ entries, e.pattern.Emits)
    (before : Nat) :
    Spells ⟨before, false⟩
      ("|".intercalate (entries.map fun e => "(" ++ e.pattern.source ++ ")")).toList
      (barred (entryTerms before entries)) ⟨before + total (entries.map Entry.opened), false⟩ := by
  induction entries generalizing before with
  | nil => exact .refl _
  | cons e rest ih =>
    have he := spells_entry (h e List.mem_cons_self) before
    cases rest with
    | nil =>
      simpa [entryTerms, barred] using he
    | cons next rest =>
      have hrest := ih (fun e' he' => h e' (List.mem_cons_of_mem _ he')) (before + e.opened)
      have hall := (he.append (spells_bar rfl)).append hrest
      rw [List.map_cons, List.map_cons, String.intercalate_cons_cons, String.toList_append,
        String.toList_append, List.map_cons, total_cons, ← Nat.add_assoc]
      exact hall

/-- The text of a combined expression reads as its term. -/
theorem parse_sourceOf {entries : List (Entry α)} (h : ∀ e ∈ entries, e.pattern.Emits) :
    Term.parse? (Combined.sourceOf entries).toList = some (combinedTerm entries) := by
  have hinner := (spells_entries h 0).reads_close
  have hopen (tail : List Char) (body : List Char) :
      readOpening ⟨0, false⟩ (['?', ':'] ++ (body ++ ')' :: tail)) =
        some (.scoped [], ⟨0, false⟩, body ++ ')' :: tail) := rfl
  have hgroup := spells_group (p := ⟨0, false⟩) (by simp) rfl (fun tail => hopen tail _) hinner
    (assemble_barred _)
  have hstart : Spells ⟨0, false⟩ ['^'] [.part (.assertion .lineStart)] ⟨0, false⟩ :=
    spells_atom rfl (by decide) fun _ => rfl
  have hend (n : Nat) : Spells ⟨n, false⟩ ['$'] [.part (.assertion .lineEnd)] ⟨n, false⟩ :=
    spells_atom rfl (by decide) fun _ => rfl
  have hall := (hstart.append hgroup).append (hend _)
  have htext : (Combined.sourceOf entries).toList = '^' :: '(' :: (['?', ':'] ++
      ("|".intercalate (entries.map fun e => "(" ++ e.pattern.source ++ ")")).toList ++ [')']) ++
      ['$'] := by
    rw [Combined.sourceOf, String.toList_append, String.toList_append]
    simp
  rw [htext]
  exact hall.parse rfl

end HttpRoutes
