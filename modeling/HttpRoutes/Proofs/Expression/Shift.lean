import HttpRoutes.Proofs.Expression.Openings

/-!
# Groups in front

How many groups were opened before a piece of text decides the numbers of the groups in it and
nothing else: with `d` more groups in front, every number is `d` higher.
-/

namespace HttpRoutes.Expression

/-- Count `d` more groups in front. -/
def Term.shift (d : Nat) : Term → Term
  | .repetition min max greedy body => .repetition min max greedy (body.shift d)
  | .capture index name body => .capture (index + d) name (body.shift d)
  | .scoped settings body => .scoped settings (body.shift d)
  | .seq first rest => .seq (first.shift d) (rest.shift d)
  | .alt first rest => .alt (first.shift d) (rest.shift d)
  | t => t

/-- Count `d` more groups in front. -/
def Opening.shift (d : Nat) : Opening → Opening
  | .capture index name => .capture (index + d) name
  | o => o

/-- Count `d` more groups in front. -/
def Piece.shift (d : Nat) : Piece → Piece
  | .part t => .part (t.shift d)
  | piece => piece

/-- Count `d` more groups in front. -/
def Progress.shift (d : Nat) (p : Progress) : Progress := { p with groups := p.groups + d }

/-- What a reader of pieces has read, with `d` more groups in front. -/
def shiftRead (d : Nat) (r : List Piece × Progress × List Char) :
    List Piece × Progress × List Char :=
  (r.1.map (Piece.shift d), r.2.1.shift d, r.2.2)

/-! ## Terms -/

namespace Term

variable {d : Nat}

theorem shift_eq_self {t : Term} (h : t.openings = []) : t.shift d = t := by
  induction t with
  | setFlags | capture | «scoped» => exact absurd h (by simp [openings])
  | repetition _ _ _ _ ih => rw [shift, ih h]
  | seq _ _ ih₁ ih₂ | alt _ _ ih₁ ih₂ =>
    obtain ⟨h₁, h₂⟩ := List.append_eq_nil_iff.1 h
    rw [shift, ih₁ h₁, ih₂ h₂]
  | _ => rfl

theorem shift_ofParts (parts : List Term) :
    (ofParts parts).shift d = ofParts (parts.map (shift d)) := by
  induction parts with
  | nil => rfl
  | cons part rest ih =>
    cases rest with
    | nil => rfl
    | cons next rest => simpa [ofParts, shift] using ih

theorem shift_ofBranches (branches : List Term) :
    (ofBranches branches).shift d = ofBranches (branches.map (shift d)) := by
  induction branches with
  | nil => rfl
  | cons branch rest ih =>
    cases rest with
    | nil => rfl
    | cons next rest => simpa [ofBranches, shift] using ih

@[simp] theorem isRepeatable_shift (t : Term) : isRepeatable (t.shift d) = isRepeatable t := by
  cases t <;> rfl

end Term

variable {d : Nat}

theorem branchesOf_shift (latest : Option Term) (pieces : List Piece) :
    branchesOf (latest.map (Term.shift d)) (pieces.map (Piece.shift d)) =
      (branchesOf latest pieces).map (List.map (List.map (Term.shift d))) := by
  induction pieces generalizing latest with
  | nil => cases latest <;> rfl
  | cons piece rest ih =>
    cases piece with
    | bar =>
      have hi := ih none
      rw [Option.map_none] at hi
      simp only [List.map_cons, Piece.shift, branchesOf, hi, Option.map_map]
      congr 1
      funext branches
      cases latest <;> rfl
    | part t =>
      have hi := ih (some t)
      rw [Option.map_some] at hi
      simp only [List.map_cons, Piece.shift, branchesOf, hi, Option.map_map]
      congr 1
      funext branches
      cases latest <;> cases branches <;> rfl
    | repeated times =>
      cases latest with
      | none => rfl
      | some part =>
        have hi := ih (some (times.apply part))
        simp only [List.map_cons, Piece.shift, Option.map_some, branchesOf,
          Term.isRepeatable_shift]
        split
        · exact hi
        · rfl

theorem assemble_shift (pieces : List Piece) :
    assemble (pieces.map (Piece.shift d)) = (assemble pieces).map (Term.shift d) := by
  have h := branchesOf_shift (d := d) none pieces
  rw [Option.map_none] at h
  rw [assemble, assemble, h, Option.map_map, Option.map_map]
  congr 1
  funext branches
  simp only [Function.comp_apply, Term.shift_ofBranches, List.map_map]
  exact congrArg Term.ofBranches
    (List.map_congr_left fun parts _ => (Term.shift_ofParts parts).symm)

/-! ## Reading -/

variable {inside : PieceReader}

theorem readGroupName_shift (p : Progress) (cs : List Char) :
    readGroupName (p.shift d) cs =
      (readGroupName p cs).map fun (o, q, rest) => (o.shift d, q.shift d, rest) := by
  have hnext : p.groups + d + 1 = p.groups + 1 + d := by omega
  unfold readGroupName
  dsimp only [Progress.shift]
  split
  · rfl
  · split
    · simp [Opening.shift, hnext]
    · rfl

theorem readOpening_shift (p : Progress) (cs : List Char) :
    readOpening (p.shift d) cs =
      (readOpening p cs).map fun (o, q, rest) => (o.shift d, q.shift d, rest) := by
  have hverbose : (p.shift d).verbose = p.verbose := rfl
  unfold readOpening
  rw [hverbose]
  split
  case h_5 | h_6 => exact readGroupName_shift p _
  case h_7 rest _ _ _ _ _ _ _ =>
    cases readFlags true false [] rest with
    | none => rfl
    | some r =>
      obtain ⟨colon, settings, rest⟩ := r
      cases colon with
      | true => rfl
      | false =>
        cases settings with
        | nil => rfl
        | cons s settings => rfl
  case h_8 =>
    have hnext : p.groups + d + 1 = p.groups + 1 + d := by omega
    simp [Opening.shift, Progress.shift, hnext]
  all_goals rfl

theorem readGroup_shift (hin : ∀ p cs, inside (p.shift d) cs = (inside p cs).map (shiftRead d))
    (p : Progress) (cs : List Char) :
    readGroup inside (p.shift d) cs =
      (readGroup inside p cs).map fun (piece, q, rest) => (piece.shift d, q.shift d, rest) := by
  have hopen' := readOpening_shift (d := d) p cs
  cases hopen : readOpening p cs with
  | none =>
    rw [hopen] at hopen'
    simp [readGroup, hopen, hopen']
  | some r =>
    obtain ⟨o, inner, tail⟩ := r
    rw [hopen, Option.map_some] at hopen'
    by_cases ho : ∃ settings, o = .flags settings
    · obtain ⟨settings, rfl⟩ := ho
      rw [readGroup_flags hopen, readGroup_flags hopen']
      rfl
    · have ho₁ : ∀ settings, o ≠ .flags settings := fun settings he => ho ⟨settings, he⟩
      have ho₂ : ∀ settings, o.shift d ≠ .flags settings := by
        intro settings he
        cases o with
        | flags s => exact ho₁ s rfl
        | _ => exact absurd he (by simp [Opening.shift])
      rw [readGroup_eq ho₁ hopen, readGroup_eq ho₂ hopen', hin]
      cases inside inner tail with
      | none => rfl
      | some r =>
        obtain ⟨pieces, after, rest⟩ := r
        simp only [Option.map_some, Option.bind_some, shiftRead, assemble_shift]
        cases assemble pieces with
        | none => rfl
        | some body =>
          cases rest with
          | nil => rfl
          | cons close rest =>
            cases o with
            | flags s => exact absurd rfl (ho₁ s)
            | _ => rfl

theorem readPiece_shift (hin : ∀ p cs, inside (p.shift d) cs = (inside p cs).map (shiftRead d))
    (p : Progress) (c : Char) (cs : List Char) :
    readPiece inside (p.shift d) c cs =
      (readPiece inside p c cs).map fun (piece, q, rest) => (piece.shift d, q.shift d, rest) := by
  have hverbose : (p.shift d).verbose = p.verbose := rfl
  unfold readPiece
  split
  · rfl
  · split
    · exact readGroup_shift hin p cs
    · rw [hverbose]
      split
      · cases readTimes p.verbose c cs <;> rfl
      · cases hatom : readAtom p.verbose c cs with
        | none => rfl
        | some r =>
          obtain ⟨t, rest⟩ := r
          -- What is no group has no numbers to shift.
          simp [Piece.shift, Term.shift_eq_self (openings_readAtom hatom)]

/-- With more groups in front the same is read, with higher numbers. -/
theorem readPieces_shift (n : Nat) (p : Progress) (cs : List Char) :
    readPieces n (p.shift d) cs = (readPieces n p cs).map (shiftRead d) := by
  induction n generalizing p cs with
  | zero => rfl
  | succ n ih =>
    cases hskip : skip p.verbose cs with
    | nil => rw [readPieces_nil n hskip, readPieces_nil n (p := p.shift d) hskip]; rfl
    | cons c rest =>
      by_cases hc : c = ')'
      · subst hc
        rw [readPieces_close n hskip, readPieces_close n (p := p.shift d) hskip]
        rfl
      · rw [readPieces_cons n hskip hc, readPieces_cons n (p := p.shift d) hskip hc,
          readPiece_shift ih]
        cases readPiece (readPieces n) p c rest with
        | none => rfl
        | some r =>
          obtain ⟨piece, q, rest⟩ := r
          simp only [Option.map_some, Option.bind_some, ih]
          cases readPieces n q rest <;> rfl

theorem Reads.shift {p q : Progress} {cs rest : List Char} {pieces : List Piece}
    (h : Reads p cs pieces q rest) (d : Nat) :
    Reads (p.shift d) cs (pieces.map (Piece.shift d)) (q.shift d) rest := by
  rw [Reads, readPieces_shift, h]
  rfl

end HttpRoutes.Expression
