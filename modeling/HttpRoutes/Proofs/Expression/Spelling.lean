import HttpRoutes.Proofs.Expression.Shift

/-!
# Spelling expressions

`Spells` says that a text reads as certain pieces in front of anything. What is put together from
such texts reads as the pieces put together, so that the reading of a text that was made from
fragments follows from the readings of the fragments.
-/

namespace HttpRoutes.Expression

variable {p q r inner after : Progress} {a b cs rest text : List Char} {xs ys pieces : List Piece}

/-- In front of any text, `text` reads as `pieces`. -/
def Spells (p : Progress) (text : List Char) (pieces : List Piece) (q : Progress) : Prop :=
  ∀ ⦃tail : List Char⦄ ⦃more : List Piece⦄ ⦃r : Progress⦄ ⦃rest : List Char⦄,
    Reads q tail more r rest → Reads p (text ++ tail) (pieces ++ more) r rest

namespace Spells

theorem refl (p : Progress) : Spells p [] [] p := fun _ _ _ _ h => h

theorem append (ha : Spells p a xs q) (hb : Spells q b ys r) : Spells p (a ++ b) (xs ++ ys) r := by
  intro tail more r' rest h
  rw [List.append_assoc, List.append_assoc]
  exact ha (hb h)

/-- The text alone. -/
theorem reads (h : Spells p text pieces q) : Reads p text pieces q [] := by
  have hend : Reads q [] [] q [] := readPieces_nil 0 (List.suffix_nil.1 skip_suffix)
  simpa using h hend

/-- The text in front of a closing parenthesis. -/
theorem reads_close (h : Spells p text pieces q) : Reads p (text ++ [')']) pieces q [')'] := by
  have hskip : skip q.verbose [')'] = [')'] := by cases q.verbose <;> rfl
  have hend : Reads q [')'] [] q [')'] := readPieces_close 1 hskip
  simpa using h hend

end Spells

/-- One piece is spelled by a text from which it is read in front of anything. -/
theorem spells_piece {c : Char} {piece : Piece} (hc : c ≠ ')')
    (hskip : ∀ tail, skip p.verbose (c :: text ++ tail) = c :: (text ++ tail))
    (hread : ∀ n tail, (text ++ tail).length < n →
      readPiece (readPieces n) p c (text ++ tail) = some (piece, q, tail)) :
    Spells p (c :: text) [piece] q := by
  intro tail more r rest h
  have hlen : (c :: text ++ tail).length = (text ++ tail).length + 1 := rfl
  have htail : tail.length < (text ++ tail).length + 1 := by
    rw [List.length_append]
    omega
  rw [Reads, hlen, readPieces_cons _ (hskip tail) hc, hread _ _ (Nat.lt_succ_self _),
    Option.bind_some]
  simp only [readPieces_steps h htail, Option.bind_some, List.singleton_append]

/-- A part that is a character's own, where the verbose flag is off. -/
theorem spells_atom {c : Char} {t : Term} (hp : p.verbose = false)
    (hc : c ≠ ')' ∧ c ≠ '|' ∧ c ≠ '(' ∧ isRepetition c = false)
    (hatom : ∀ tail, readAtom false c (text ++ tail) = some (t, tail)) :
    Spells p (c :: text) [.part t] p := by
  obtain ⟨hclose, hbar, hopen, hrep⟩ := hc
  refine spells_piece hclose (fun tail => by rw [hp]; rfl) fun n tail _ => ?_
  rw [readPiece, if_neg hbar, if_neg hopen, hrep, hp, hatom tail]
  rfl

theorem spells_bar (hp : p.verbose = false) : Spells p ['|'] [.bar] p :=
  spells_piece (by decide) (fun tail => by rw [hp]; rfl) fun _ _ _ => rfl

/-! ## Groups -/

/-- A group whose inside ends at its closing parenthesis. -/
theorem spells_group {o : Opening} {start body : List Char} {t : Term}
    (ho : ∀ settings, o ≠ .flags settings) (hp : p.verbose = false)
    (hopen : ∀ tail, readOpening p (start ++ (body ++ ')' :: tail)) =
      some (o, inner, body ++ ')' :: tail))
    (hbody : Reads inner (body ++ [')']) pieces after [')']) (ht : assemble pieces = some t) :
    Spells p ('(' :: (start ++ body ++ [')'])) [.part (o.close t)]
      { after with verbose := p.verbose } := by
  refine spells_piece (by decide) (fun tail => by rw [hp]; rfl) fun n tail hn => ?_
  have hinside : readPieces n inner (body ++ ')' :: tail) = some (pieces, after, ')' :: tail) := by
    have hlimit : (body ++ [')']).length < n := by
      simp only [List.length_append, List.length_cons] at hn ⊢
      omega
    have h := (readPieces_extends hlimit le_rfl hbody).2 tail (.inl (List.cons_ne_nil _ _))
    simpa using h
  have htext : start ++ body ++ [')'] ++ tail = start ++ (body ++ ')' :: tail) := by simp
  rw [readPiece, if_neg (by decide), if_pos rfl, htext, readGroup_eq ho (hopen tail), hinside]
  simp only [Option.bind_some, ht]

/-- A group without a name or flags, which captures. -/
theorem spells_capture {body : List Char} {t : Term} (hp : p.verbose = false)
    (hfirst : ∀ more, body ++ [')'] ≠ '?' :: more)
    (hbody : Reads ⟨p.groups + 1, false⟩ (body ++ [')']) pieces after [')'])
    (ht : assemble pieces = some t) :
    Spells p ('(' :: (body ++ [')'])) [.part (.capture (p.groups + 1) none t)]
      { after with verbose := p.verbose } := by
  have hopen (tail : List Char) : readOpening p ([] ++ (body ++ ')' :: tail)) =
      some (.capture (p.groups + 1) none, { p with groups := p.groups + 1 },
        body ++ ')' :: tail) := by
    have hskip : skip p.verbose (body ++ ')' :: tail) = body ++ ')' :: tail := by rw [hp]; rfl
    rw [List.nil_append, readOpening_plain, hskip]
    intro more he
    rw [hskip] at he
    cases body with
    | nil => exact absurd (List.cons.inj he).1 (by decide)
    | cons c body =>
      rw [List.cons_append, List.cons.injEq] at he
      exact hfirst (body ++ [')']) (by rw [he.1]; rfl)
  have hinner : Reads { p with groups := p.groups + 1 } (body ++ [')']) pieces after [')'] := by
    rw [hp]
    exact hbody
  exact spells_group (by simp) hp hopen hinner ht

/-- Pieces that can be put together do not begin with a repetition. -/
theorem first_ne_of_assemble {t : Term} (h : Reads p cs pieces q rest) (hp : p.verbose = false)
    (ht : assemble pieces = some t) (more : List Char) : cs ≠ '?' :: more := by
  rintro rfl
  have hskip : skip p.verbose ('?' :: more) = '?' :: more := by rw [hp]; rfl
  rw [Reads, readPieces_cons _ hskip (by decide)] at h
  obtain ⟨⟨piece, between, r⟩, hpiece, h⟩ := Option.bind_eq_some_iff.1 h
  obtain ⟨⟨later, after, r'⟩, -, heq⟩ := Option.bind_eq_some_iff.1 h
  rw [readPiece, if_neg (by decide), if_neg (by decide), if_pos (by decide)] at hpiece
  obtain ⟨times, -, htimes⟩ := Option.map_eq_some_iff.1 hpiece
  cases htimes
  cases heq
  cases ht

end HttpRoutes.Expression
