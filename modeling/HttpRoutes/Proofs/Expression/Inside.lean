import HttpRoutes.Proofs.Expression.Spelling

/-!
# Expressions inside parentheses

A fragment that reads as a term alone need not read as the same term inside parentheses: a comment
that the end of the text would end goes on over the closing parenthesis. `ReadsInside` excludes
that. It holds whenever the fragment leaves the verbose flag off.
-/

namespace HttpRoutes.Expression

variable {p q : Progress} {cs rest text : List Char} {pieces : List Piece} {t : Term}

/-! ## Whole texts -/

theorem parse_eq_some : Term.parse? text = some t ↔
    ∃ pieces q, Reads ⟨0, false⟩ text pieces q [] ∧ assemble pieces = some t := by
  unfold Term.parse?
  constructor
  · intro h
    split at h
    · next pieces q heq => exact ⟨pieces, q, heq, h⟩
    · exact absurd h (by simp)
  · rintro ⟨pieces, q, hread, ht⟩
    rw [Reads] at hread
    rw [hread]
    exact ht

theorem Spells.parse (h : Spells ⟨0, false⟩ text pieces q) (ht : assemble pieces = some t) :
    Term.parse? text = some t :=
  parse_eq_some.2 ⟨pieces, q, h.reads, ht⟩

/-- Reading stops at the end of the text or at a closing parenthesis. -/
theorem readPieces_rest {n : Nat} (h : readPieces n p cs = some (pieces, q, rest)) :
    rest = [] ∨ ∃ more, rest = ')' :: more := by
  induction n generalizing p cs pieces with
  | zero => simp [readPieces] at h
  | succ n ih =>
    rcases readPieces_cases h with ⟨-, -, -, rfl⟩ | ⟨more, -, -, -, rfl⟩ |
      ⟨c, more, piece, between, r, later, -, -, -, hlater, -⟩
    · exact .inl rfl
    · exact .inr ⟨more, rfl⟩
    · exact ih hlater

/-- Where the verbose flag is off, no pieces up to the end of the text are no text. -/
theorem eq_nil_of_readPieces {n : Nat} (h : readPieces n p cs = some ([], q, []))
    (hp : p.verbose = false) : cs = [] := by
  cases n with
  | zero => simp [readPieces] at h
  | succ n =>
    rcases readPieces_cases h with ⟨hcs, -⟩ | ⟨_, -, -, -, hrest⟩ |
      ⟨_, _, _, _, _, _, -, -, -, -, hnil⟩
    · rwa [skip, hp] at hcs
    · exact absurd hrest (by simp)
    · exact absurd hnil (by simp)

/-! ## Single groups -/

theorem branchesOf_ne_nil {latest : Option Term} {branches : List (List Term)}
    (h : branchesOf latest pieces = some branches) : branches ≠ [] := by
  induction pieces generalizing latest branches with
  | nil => cases h; simp
  | cons piece rest ih =>
    cases piece with
    | bar | part =>
      obtain ⟨later, -, rfl⟩ := Option.map_eq_some_iff.1 h
      exact List.cons_ne_nil _ _
    | repeated times =>
      cases latest with
      | none => exact absurd h (by simp [branchesOf])
      | some part =>
        simp only [branchesOf] at h
        split at h
        · exact ih h
        · exact absurd h (by simp)

/-- The first branch of pieces behind a part has a part. -/
theorem branchesOf_some {part : Term} {branches : List (List Term)}
    (h : branchesOf (some part) pieces = some branches) :
    ∃ first parts later, branches = (first :: parts) :: later := by
  induction pieces generalizing part branches with
  | nil => cases h; exact ⟨part, [], [], rfl⟩
  | cons piece rest ih =>
    cases piece with
    | bar | part =>
      obtain ⟨later, -, rfl⟩ := Option.map_eq_some_iff.1 h
      exact ⟨part, _, _, rfl⟩
    | repeated times =>
      simp only [branchesOf] at h
      split at h
      · exact ih h
      · exact absurd h (by simp)

theorem branchesOf_part (part : Term) (pieces : List Piece) :
    branchesOf none (.part part :: pieces) = branchesOf (some part) pieces := by
  rw [branchesOf]
  cases h : branchesOf (some part) pieces with
  | none => rfl
  | some branches =>
    obtain ⟨first, parts, later, rfl⟩ := branchesOf_some h
    rfl

/-- A part and what follows it make a group together only if nothing follows it. -/
theorem eq_scoped_of_branchesOf {part body : Term} {settings : List FlagSetting}
    {branches : List (List Term)} (h : branchesOf (some part) pieces = some branches)
    (ht : Term.ofBranches (branches.map Term.ofParts) = .scoped settings body) :
    part = .scoped settings body ∧ pieces = [] := by
  induction pieces generalizing part branches with
  | nil => cases h; exact ⟨ht, rfl⟩
  | cons piece rest ih =>
    cases piece with
    | bar =>
      obtain ⟨later, hlater, rfl⟩ := Option.map_eq_some_iff.1 h
      obtain ⟨next, more, rfl⟩ := List.exists_cons_of_ne_nil (branchesOf_ne_nil hlater)
      exact absurd ht (by simp [Term.ofBranches])
    | part next =>
      obtain ⟨later, hlater, rfl⟩ := Option.map_eq_some_iff.1 h
      obtain ⟨first, parts, more, rfl⟩ := branchesOf_some hlater
      cases more <;> exact absurd ht (by simp [Term.ofBranches, Term.ofParts])
    | repeated times =>
      simp only [branchesOf] at h
      split at h
      · exact absurd (ih h ht).1 (by simp [Times.apply])
      · exact absurd h (by simp)

/-! ## Reading inside parentheses -/

/-- Whether the text reads inside parentheses as it reads alone. -/
def ReadsInside (text : List Char) : Prop :=
  Term.parse? ("(?:".toList ++ text ++ ")".toList) = (Term.parse? text).map (.scoped [])

instance (text : List Char) : Decidable (ReadsInside text) :=
  inferInstanceAs (Decidable (_ = _))

/-- A reading up to a closing parenthesis is the reading of a group. -/
theorem parse_group (h : Reads ⟨0, false⟩ (text ++ [')']) pieces q [')'])
    (ht : assemble pieces = some t) :
    Term.parse? ("(?:".toList ++ text ++ ")".toList) = some (.scoped [] t) := by
  have hopen (tail : List Char) : readOpening ⟨0, false⟩ (['?', ':'] ++ (text ++ ')' :: tail)) =
      some (.scoped [], ⟨0, false⟩, text ++ ')' :: tail) := rfl
  exact (spells_group (by simp) rfl hopen h ht).parse rfl

theorem reads_inside (hin : ReadsInside text) (ht : Term.parse? text = some t) :
    ∃ pieces q, Reads ⟨0, false⟩ (text ++ [')']) pieces q [')'] ∧ assemble pieces = some t := by
  rw [ReadsInside, ht, Option.map_some] at hin
  -- The text in parentheses is one group, so its first piece is that group and nothing follows.
  obtain ⟨all, q, hread, hall⟩ := parse_eq_some.1 hin
  obtain ⟨branches, hbranches, hterm⟩ := Option.map_eq_some_iff.1 hall
  rcases readPieces_cases hread with ⟨hcs, -⟩ | ⟨more, hcs, -⟩ |
    ⟨c, more, piece, between, r, later, hcs, -, hpiece, hlater, rfl⟩
  · exact absurd hcs (by simp [skip])
  · exact absurd hcs (by simp [skip])
  · obtain ⟨rfl, rfl⟩ : '(' = c ∧ '?' :: ':' :: (text ++ [')']) = more := by
      simpa [skip] using hcs
    have hgroup : readGroup _ ⟨0, false⟩ ('?' :: ':' :: (text ++ [')'])) =
        some (piece, between, r) :=
      hpiece
    rcases readGroup_cases hgroup with ⟨settings, hopen, -⟩ |
      ⟨o, inner, tail, pieces, after, body, close, hopen, hinside, hbody, rfl, rfl, -⟩
    · exact absurd hopen (by simp [readOpening, skip, readFlags])
    · cases (show some (Opening.scoped [], ⟨0, false⟩, text ++ [')']) = some (o, inner, tail) from
        hopen)
      rw [branchesOf_part] at hbranches
      obtain ⟨heq, rfl⟩ := eq_scoped_of_branchesOf hbranches hterm
      cases heq
      -- The reading inside has stopped at the last parenthesis and not at the end of the text.
      obtain rfl := eq_nil_of_readPieces hlater rfl
      rcases readPieces_rest hinside with hclose | ⟨more, hclose⟩
      · exact absurd hclose (by simp)
      · cases hclose
        exact ⟨pieces, after, readPieces_steps hinside (Nat.lt_succ_self _), hbody⟩

/-- What leaves the verbose flag off reads inside parentheses as it reads alone. -/
theorem readsInside_of_verbose_off (ht : Term.parse? text = some t)
    (hoff : t.turnsOn .verbose = false) : ReadsInside text := by
  obtain ⟨pieces, q, hread, hpieces⟩ := parse_eq_some.1 ht
  have hq : q.verbose = false := by
    refine readPieces_verbose hread rfl fun o ho => ?_
    rw [← openings_assemble hpieces] at ho
    exact Bool.eq_false_iff.2 fun hon => List.any_eq_false.1 hoff o ho hon
  -- With the flag off no comment is open at the end, so the parenthesis may follow.
  have hfollows : Follows q.verbose [] [')'] := .inr (.inr ⟨hq, [], rfl⟩)
  have hclose := hread.append hfollows
  rw [ReadsInside, ht, parse_group hclose hpieces, Option.map_some]

end HttpRoutes.Expression
