import HttpRoutes.Proofs.Expression.GroupLocality

/-!
# Pieces and the text behind them

`readPieces` reads the same pieces when more text follows, as long as it has stopped at a
parenthesis or what follows starts with one. As many steps as the text has characters, and one more,
are always enough. `Reads` is the reading with that many steps.
-/

namespace HttpRoutes.Expression

variable {limit : Nat} {inside inside' : PieceReader} {p q : Progress} {cs rest tail : List Char}

/-- Whatever the one reader reads of a text of limited length, the other reads as well in front of
what may follow. -/
def Extends (limit : Nat) (inside inside' : PieceReader) : Prop :=
  ∀ ⦃p : Progress⦄ ⦃cs : List Char⦄ ⦃pieces : List Piece⦄ ⦃q : Progress⦄ ⦃rest : List Char⦄,
    cs.length ≤ limit → inside p cs = some (pieces, q, rest) →
      rest <:+ cs ∧ ∀ tail, Follows q.verbose rest tail →
        inside' p (cs ++ tail) = some (pieces, q, rest ++ tail)

theorem readGroup_flags {settings : List FlagSetting}
    (h : readOpening p cs = some (.flags settings, q, rest)) :
    readGroup inside p cs = some (.part (.setFlags settings), q, rest) := by
  simp [readGroup, h]

/-- A group that is no setting of flags holds pieces up to a parenthesis. -/
theorem readGroup_eq {o : Opening} {inner : Progress} (ho : ∀ settings, o ≠ .flags settings)
    (h : readOpening p cs = some (o, inner, rest)) :
    readGroup inside p cs = (inside inner rest).bind fun (pieces, after, rest) =>
      (assemble pieces).bind fun body =>
        match rest with
        | [] => none
        | _ :: rest => some (.part (o.close body), { after with verbose := p.verbose }, rest) := by
  cases o with
  | flags settings => exact absurd rfl (ho settings)
  | _ => simp only [readGroup, h]; rfl

/-- What a group is that is no setting of flags. -/
theorem readGroup_eq_some {o : Opening} {inner : Progress} {piece : Piece}
    (ho : ∀ settings, o ≠ .flags settings)
    (hopen : readOpening p cs = some (o, inner, tail))
    (h : readGroup inside p cs = some (piece, q, rest)) :
    ∃ pieces after body close, inside inner tail = some (pieces, after, close :: rest) ∧
      assemble pieces = some body ∧ piece = .part (o.close body) ∧
      q = { after with verbose := p.verbose } := by
  rw [readGroup_eq ho hopen] at h
  obtain ⟨⟨pieces, after, r⟩, hin, h⟩ := Option.bind_eq_some_iff.1 h
  obtain ⟨body, hbody, h⟩ := Option.bind_eq_some_iff.1 h
  cases r with
  | nil => exact absurd h (by simp)
  | cons close r =>
    cases h
    exact ⟨pieces, after, body, close, hin, hbody, rfl, rfl⟩

theorem readGroup_append (hx : Extends limit inside inside') {piece : Piece}
    (hlen : cs.length ≤ limit) (h : readGroup inside p cs = some (piece, q, rest)) :
    rest <:+ cs ∧ ∀ tail, Follows q.verbose rest tail →
      readGroup inside' p (cs ++ tail) = some (piece, q, rest ++ tail) := by
  cases hopen : readOpening p cs with
  | none => simp [readGroup, hopen] at h
  | some r =>
    obtain ⟨o, inner, r⟩ := r
    obtain ⟨hs, ha⟩ := readOpening_append hopen
    by_cases ho : ∃ settings, o = .flags settings
    · obtain ⟨settings, rfl⟩ := ho
      rw [readGroup_flags hopen] at h
      cases h
      exact ⟨hs, fun tail hf => readGroup_flags (ha tail hf)⟩
    · have ho' : ∀ settings, o ≠ .flags settings := fun settings he => ho ⟨settings, he⟩
      obtain ⟨pieces, after, body, close, hin, hbody, rfl, rfl⟩ := readGroup_eq_some ho' hopen h
      obtain ⟨hs', ha'⟩ := hx (hs.length_le.trans hlen) hin
      -- The closing parenthesis is still to come, so the opening is read in full.
      have hr : r ≠ [] := fun he => by rw [he] at hs'; simp at hs'
      refine ⟨((List.suffix_cons close rest).trans hs').trans hs, fun tail _ => ?_⟩
      rw [readGroup_eq ho' (ha tail (.inl hr)), ha' tail (.inl (List.cons_ne_nil _ _))]
      simp only [Option.bind, hbody, List.cons_append]

theorem readPiece_append (hx : Extends limit inside inside') {c : Char} {piece : Piece}
    (hlen : cs.length ≤ limit) (h : readPiece inside p c cs = some (piece, q, rest)) :
    rest <:+ cs ∧ ∀ tail, Follows q.verbose rest tail →
      readPiece inside' p c (cs ++ tail) = some (piece, q, rest ++ tail) := by
  unfold readPiece at h ⊢
  split at h
  · next hbar =>
    cases h
    exact ⟨List.suffix_refl _, fun tail _ => by rw [if_pos hbar]⟩
  · next hbar =>
    simp only [if_neg hbar]
    split at h
    · next hopen =>
      simp only [if_pos hopen]
      exact readGroup_append hx hlen h
    · next hopen =>
      simp only [if_neg hopen]
      split at h
      · next hrep =>
        obtain ⟨⟨times, r⟩, hr, heq⟩ := Option.map_eq_some_iff.1 h
        cases heq
        obtain ⟨hs, ha⟩ := readTimes_local c hr
        exact ⟨hs, fun tail hf => by rw [if_pos hrep, ha tail hf]; rfl⟩
      · next hrep =>
        obtain ⟨⟨t, r⟩, hr, heq⟩ := Option.map_eq_some_iff.1 h
        cases heq
        obtain ⟨hs, ha⟩ := readAtom_local c hr
        exact ⟨hs, fun tail hf => by rw [if_neg hrep, ha tail hf]; rfl⟩

/-! ## Whole groups -/

theorem readPieces_nil (n : Nat) (h : skip p.verbose cs = []) :
    readPieces (n + 1) p cs = some ([], p, []) := by
  simp [readPieces, h]

theorem readPieces_close (n : Nat) (h : skip p.verbose cs = ')' :: rest) :
    readPieces (n + 1) p cs = some ([], p, ')' :: rest) := by
  simp [readPieces, h]

theorem readPieces_cons (n : Nat) {c : Char} (h : skip p.verbose cs = c :: rest) (hc : c ≠ ')') :
    readPieces (n + 1) p cs = (readPiece (readPieces n) p c rest).bind fun (piece, p, rest) =>
      (readPieces n p rest).bind fun (pieces, p, rest) => some (piece :: pieces, p, rest) := by
  simp only [readPieces, h, if_neg hc]
  rfl

/-- How a successful reading goes: it stops at the end of the text, or at a closing parenthesis, or
it goes on with a piece. -/
theorem readPieces_cases {n : Nat} {pieces : List Piece}
    (h : readPieces (n + 1) p cs = some (pieces, q, rest)) :
    (skip p.verbose cs = [] ∧ pieces = [] ∧ q = p ∧ rest = []) ∨
    (∃ more, skip p.verbose cs = ')' :: more ∧ pieces = [] ∧ q = p ∧ rest = ')' :: more) ∨
    (∃ c more piece between r later, skip p.verbose cs = c :: more ∧ c ≠ ')' ∧
      readPiece (readPieces n) p c more = some (piece, between, r) ∧
      readPieces n between r = some (later, q, rest) ∧ pieces = piece :: later) := by
  cases hskip : skip p.verbose cs with
  | nil =>
    rw [readPieces_nil n hskip] at h
    cases h
    exact .inl ⟨rfl, rfl, rfl, rfl⟩
  | cons c more =>
    refine .inr ?_
    by_cases hc : c = ')'
    · subst hc
      rw [readPieces_close n hskip] at h
      cases h
      exact .inl ⟨more, rfl, rfl, rfl, rfl⟩
    · rw [readPieces_cons n hskip hc] at h
      obtain ⟨⟨piece, between, r⟩, hpiece, h⟩ := Option.bind_eq_some_iff.1 h
      obtain ⟨⟨later, after, r'⟩, hlater, h⟩ := Option.bind_eq_some_iff.1 h
      cases h
      exact .inr ⟨c, more, piece, between, r, later, rfl, hc, hpiece, hlater, rfl⟩

/-- Nothing is read at the end of the text. -/
theorem readPieces_end {n : Nat} {pieces : List Piece}
    (h : readPieces n p [] = some (pieces, q, rest)) : pieces = [] ∧ q = p ∧ rest = [] := by
  cases n with
  | zero => simp [readPieces] at h
  | succ n =>
    rw [readPieces_nil n (List.suffix_nil.1 skip_suffix)] at h
    cases h
    exact ⟨rfl, rfl, rfl⟩

/-- Any number of steps beyond the length of the text is enough, whatever may follow. -/
theorem readPieces_extends {n m : Nat} (hm : limit < m) :
    Extends limit (readPieces n) (readPieces m) := by
  induction n generalizing m limit with
  | zero => intro p cs pieces q rest _ h; simp [readPieces] at h
  | succ n ih =>
    intro p cs pieces q rest hlen h
    obtain ⟨m, rfl⟩ : ∃ k, m = k + 1 := ⟨m - 1, by omega⟩
    have hskip : skip p.verbose cs <:+ cs := skip_suffix
    rcases readPieces_cases h with ⟨hcs, rfl, rfl, rfl⟩ | ⟨more, hcs, rfl, rfl, rfl⟩ |
      ⟨c, more, piece, between, r, later, hcs, hc, hpiece, hlater, rfl⟩
    · refine ⟨List.nil_suffix, fun tail hf => ?_⟩
      rcases hf with hne | rfl | ⟨hv, after, rfl⟩
      · exact absurd rfl hne
      · exact readPieces_nil m (by rw [List.append_nil, hcs])
      · refine readPieces_close m ?_
        rw [skip_append (.inl hv), hcs, List.nil_append]
    · refine ⟨hcs ▸ hskip, fun tail _ => readPieces_close m ?_⟩
      rw [skip_append (.inr (by rw [hcs]; exact List.cons_ne_nil _ _)), hcs]
      rfl
    · rw [hcs] at hskip
      have hmore : more.length + 1 ≤ limit := hskip.length_le.trans hlen
      have hx : Extends more.length (readPieces n) (readPieces m) := ih (by omega)
      obtain ⟨hs, ha⟩ := readPiece_append hx le_rfl hpiece
      obtain ⟨hs', ha'⟩ := hx hs.length_le hlater
      refine ⟨((hs'.trans hs).trans (List.suffix_cons c more)).trans hskip, fun tail hf => ?_⟩
      have happend : skip p.verbose (cs ++ tail) = c :: (more ++ tail) := by
        rw [skip_append (.inr (by rw [hcs]; exact List.cons_ne_nil _ _)), hcs]
        rfl
      -- What may follow the whole may follow the first piece: where nothing is left behind it, the
      -- later pieces are none and the flag stays as it is.
      have hbetween : Follows between.verbose r tail := by
        rcases hf with hne | rfl | ⟨hv, after, rfl⟩
        · exact .inl fun he => hne (List.suffix_nil.1 (he ▸ hs'))
        · exact .inr (.inl rfl)
        · cases r with
          | cons d r => exact .inl (List.cons_ne_nil _ _)
          | nil =>
            obtain ⟨-, rfl, -⟩ := readPieces_end hlater
            exact .inr (.inr ⟨hv, after, rfl⟩)
      rw [readPieces_cons m happend hc, ha tail hbetween]
      simp only [Option.bind, ha' tail hf]

/-- Reading a text with enough steps gives these pieces and leaves `rest`. -/
def Reads (p : Progress) (cs : List Char) (pieces : List Piece) (q : Progress) (rest : List Char) :
    Prop :=
  readPieces (cs.length + 1) p cs = some (pieces, q, rest)

variable {pieces : List Piece}

theorem Reads.append (h : Reads p cs pieces q rest) (hf : Follows q.verbose rest tail) :
    Reads p (cs ++ tail) pieces q (rest ++ tail) := by
  refine (readPieces_extends ?_ le_rfl h).2 tail hf
  simp only [List.length_append]
  omega

/-- More steps than the text has characters are enough. -/
theorem readPieces_steps {n m : Nat} (h : readPieces n p cs = some (pieces, q, rest))
    (hm : cs.length < m) : readPieces m p cs = some (pieces, q, rest) := by
  have h' := (readPieces_extends hm le_rfl h).2 [] (.inr (.inl rfl))
  rwa [List.append_nil, List.append_nil] at h'

end HttpRoutes.Expression
