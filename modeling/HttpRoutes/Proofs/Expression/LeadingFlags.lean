import HttpRoutes.Proofs.Expression.FormGroups
import HttpRoutes.Proofs.Expression.Inside

/-!
# Flags in front of an expression

A fragment is tried with flags set in front of it, and then written into a group that sets the same
flags. Both readings have the same groups, the same names and a meaning in the same cases.
-/

namespace HttpRoutes.Expression

/-- The flags in force behind a term, if it has a meaning. -/
def Term.modesAfter? (m : Modes) (t : Term) : Option Modes := (t.branches? m).map (·.2)

namespace Term

theorem modesAfter_seq (m : Modes) (first rest : Term) :
    modesAfter? m (.seq first rest) = (modesAfter? m first).bind fun m => modesAfter? m rest := by
  unfold modesAfter?
  rw [branches?]
  cases first.branches? m with
  | none => rfl
  | some r => cases h : rest.branches? r.2 <;> simp [h]

theorem modesAfter_alt (m : Modes) (first rest : Term) :
    modesAfter? m (.alt first rest) = (modesAfter? m first).bind fun m => modesAfter? m rest := by
  unfold modesAfter?
  rw [branches?]
  cases first.branches? m with
  | none => rfl
  | some r => cases h : rest.branches? r.2 <;> simp [h]

theorem modesAfter_ofParts (m : Modes) (parts : List Term) :
    modesAfter? m (ofParts parts) = parts.foldlM modesAfter? m := by
  induction parts generalizing m with
  | nil => rfl
  | cons part rest ih =>
    rw [List.foldlM_cons]
    cases rest with
    | nil => cases h : modesAfter? m part <;> simp [ofParts, h]
    | cons next rest =>
      rw [ofParts, modesAfter_seq]
      · exact Option.bind_congr fun m' _ => ih m'
      · exact List.cons_ne_nil _ _

theorem modesAfter_ofBranches (m : Modes) (branches : List Term) :
    modesAfter? m (ofBranches branches) = branches.foldlM modesAfter? m := by
  induction branches generalizing m with
  | nil => rfl
  | cons branch rest ih =>
    rw [List.foldlM_cons]
    cases rest with
    | nil => cases h : modesAfter? m branch <;> simp [ofBranches, h]
    | cons next rest =>
      rw [ofBranches, modesAfter_alt]
      · exact Option.bind_congr fun m' _ => ih m'
      · exact List.cons_ne_nil _ _

end Term

/-- A setting of flags cannot be repeated, so it stands in front of the first branch. -/
theorem branchesOf_flags (settings : List FlagSetting) (pieces : List Piece) :
    branchesOf (some (.setFlags settings)) pieces =
      (branchesOf none pieces).map fun branches =>
        (.setFlags settings :: branches.headD []) :: branches.tail := by
  cases pieces with
  | nil => rfl
  | cons piece rest =>
    cases piece with
    | bar | part =>
      simp only [branchesOf, Option.map_map]
      rfl
    | repeated times => rfl

/-- What flags in front of pieces change, and what they do not. -/
structure Prefixed (settings : List FlagSetting) (t t' : Term) : Prop where
  openings : t.openings = .flags settings :: t'.openings
  keptGroups : t.keptGroups = t'.keptGroups
  modesAfter (m : Modes) : t.modesAfter? m = t'.modesAfter? (m.set settings)

theorem assemble_flags {settings : List FlagSetting} {pieces : List Piece} {t : Term}
    (h : assemble (.part (.setFlags settings) :: pieces) = some t) :
    ∃ t', assemble pieces = some t' ∧ Prefixed settings t t' := by
  obtain ⟨branches, hbranches, rfl⟩ := Option.map_eq_some_iff.1 h
  rw [branchesOf_part, branchesOf_flags] at hbranches
  obtain ⟨plain, hplain, rfl⟩ := Option.map_eq_some_iff.1 hbranches
  have ht' : assemble pieces = some (.ofBranches (plain.map Term.ofParts)) := by
    rw [assemble, hplain]
    rfl
  refine ⟨_, ht', ?_, ?_, fun m => ?_⟩
  · rw [openings_assemble h, openings_assemble ht']
    rfl
  · obtain ⟨first, later, rfl⟩ := List.exists_cons_of_ne_nil (branchesOf_ne_nil hplain)
    simp [Term.keptGroups_ofBranches, Term.keptGroups_ofParts, Term.keptGroups]
  · obtain ⟨first, later, rfl⟩ := List.exists_cons_of_ne_nil (branchesOf_ne_nil hplain)
    simp only [List.headD_cons, List.tail_cons, List.map_cons, Term.modesAfter_ofBranches,
      List.foldlM_cons, Term.modesAfter_ofParts]
    rfl

/-- Flags in front of a text are the first piece of it. -/
theorem reads_flags {p q : Progress} {start text rest : List Char} {settings : List FlagSetting}
    {pieces : List Piece} (hp : p.verbose = false)
    (hopen : ∀ tail, readOpening p (start ++ tail) = some (.flags settings, p, tail))
    (h : Reads p ('(' :: (start ++ text)) pieces q rest) :
    ∃ later, pieces = .part (.setFlags settings) :: later ∧ Reads p text later q rest := by
  have hskip : skip p.verbose ('(' :: (start ++ text)) = '(' :: (start ++ text) := by rw [hp]; rfl
  rw [Reads, readPieces_cons _ hskip (by decide), readPiece, if_neg (by decide), if_pos rfl,
    readGroup_flags (hopen text), Option.bind_some] at h
  obtain ⟨⟨later, after, r⟩, hlater, heq⟩ := Option.bind_eq_some_iff.1 h
  cases heq
  exact ⟨later, rfl, readPieces_steps hlater (Nat.lt_succ_self _)⟩

end HttpRoutes.Expression
