import HttpRoutes.Expression.Reader
import Mathlib.Data.List.TakeWhile

/-!
# Readers and the text behind them

A reader takes a piece of syntax off the front of a text and leaves a suffix of it. `Local` says
that text appended behind changes neither the piece nor the place where reading stopped, as long as
something had been left, or the text appended starts with a closing parenthesis or is empty. Under
the verbose flag the parenthesis is excluded, because a comment that was cut off by the end of the
text would go on into what is appended.
-/

namespace HttpRoutes.Expression

open HttpRoutes.Text

variable {β γ : Type} {v : Bool} {cs rest tail : List Char}

/-- What may come behind a reader that has left `rest`. -/
def Follows (verbose : Bool) (rest tail : List Char) : Prop :=
  rest ≠ [] ∨ tail = [] ∨ (verbose = false ∧ ∃ more, tail = ')' :: more)

/-- The reader leaves a suffix, and reads the same in front of what may follow. -/
def Local (verbose : Bool) (read : List Char → Option (β × List Char)) : Prop :=
  ∀ ⦃cs : List Char⦄ ⦃x : β⦄ ⦃rest : List Char⦄, read cs = some (x, rest) →
    rest <:+ cs ∧ ∀ tail, Follows verbose rest tail → read (cs ++ tail) = some (x, rest ++ tail)

theorem Follows.of_suffix {longer : List Char} (hf : Follows v rest tail) (hs : rest <:+ longer) :
    Follows v longer tail := by
  rcases hf with hne | hp
  · exact .inl fun he => hne (List.suffix_nil.1 (he ▸ hs))
  · exact .inr hp

/-- A character that is not the first one left, and no parenthesis, is not first either when more
text follows. -/
theorem Follows.first_ne {longer : List Char} {c : Char} (hf : Follows v rest tail)
    (hs : rest <:+ longer) (hc : c ≠ ')') (hne : ∀ more, longer ≠ c :: more) :
    ∀ more, longer ++ tail ≠ c :: more := by
  intro more he
  cases longer with
  | nil =>
    rcases hf with hr | rfl | ⟨_, after, rfl⟩
    · exact hr (List.suffix_nil.1 hs)
    · exact absurd he (by simp)
    · exact hc (List.cons.inj he).1.symm
  | cons d longer => exact hne longer (by rw [(List.cons.inj he).1])

/-! ## Blanks and braces -/

theorem skipBlanks_suffix (inComment : Bool) : skipBlanks inComment cs <:+ cs := by
  induction cs generalizing inComment with
  | nil => simp [skipBlanks]
  | cons c cs ih =>
    unfold skipBlanks
    split
    · exact (ih _).trans (List.suffix_cons c cs)
    · split
      · exact (ih _).trans (List.suffix_cons c cs)
      · split
        · exact (ih _).trans (List.suffix_cons c cs)
        · exact List.suffix_refl _

theorem skip_suffix : skip v cs <:+ cs := by
  unfold skip
  split
  · exact skipBlanks_suffix false
  · exact List.suffix_refl _

/-- Blanks and comments that have ended are skipped alike when more text follows. -/
theorem skipBlanks_append (inComment : Bool) (h : skipBlanks inComment cs ≠ []) :
    skipBlanks inComment (cs ++ tail) = skipBlanks inComment cs ++ tail := by
  induction cs generalizing inComment with
  | nil => exact absurd rfl h
  | cons c cs ih =>
    simp only [skipBlanks, List.cons_append] at h ⊢
    split
    · next hc => rw [if_pos hc] at h; exact ih _ h
    · next hc =>
      rw [if_neg hc] at h
      split
      · next hb => rw [if_pos hb] at h; exact ih _ h
      · next hb =>
        rw [if_neg hb] at h
        split
        · next hs => rw [if_pos hs] at h; exact ih _ h
        · rfl

theorem skip_append (h : v = false ∨ skip v cs ≠ []) : skip v (cs ++ tail) = skip v cs ++ tail := by
  unfold skip at h ⊢
  cases v with
  | false => rfl
  | true => exact skipBlanks_append false (by simpa using h)

/-- Skipping in front of a reader that goes on to leave `rest`. -/
theorem Follows.skip_append (hf : Follows v rest tail) (hs : rest <:+ skip v cs) :
    skip v (cs ++ tail) = skip v cs ++ tail := by
  rcases hf with hne | rfl | ⟨hv, _⟩
  · exact Expression.skip_append (.inr fun he => hne (List.suffix_nil.1 (he ▸ hs)))
  · rw [List.append_nil, List.append_nil]
  · exact Expression.skip_append (.inl hv)

theorem untilBrace_local (inComment : Bool) : Local v (untilBrace v inComment) := by
  intro cs
  induction cs generalizing inComment with
  | nil => intro x rest h; simp [untilBrace] at h
  | cons c cs ih =>
    intro x rest h
    simp only [untilBrace, List.cons_append] at h ⊢
    split at h
    · next hc =>
      obtain ⟨hs, ha⟩ := ih _ h
      exact ⟨hs.trans (List.suffix_cons c cs), fun tail hf => by rw [if_pos hc]; exact ha tail hf⟩
    · next hc =>
      simp only [if_neg hc]
      split at h
      · next hb =>
        obtain ⟨hs, ha⟩ := ih _ h
        exact ⟨hs.trans (List.suffix_cons c cs), fun tail hf => by rw [if_pos hb]; exact ha tail hf⟩
      · next hb =>
        simp only [if_neg hb]
        split at h
        · next hp =>
          obtain ⟨hs, ha⟩ := ih _ h
          exact ⟨hs.trans (List.suffix_cons c cs),
            fun tail hf => by rw [if_pos hp]; exact ha tail hf⟩
        · next hp =>
          simp only [if_neg hp]
          split at h
          · next hclose =>
            cases h
            exact ⟨List.suffix_cons c cs, fun tail _ => by rw [if_pos hclose]⟩
          · next hclose =>
            obtain ⟨⟨name, r⟩, hr, heq⟩ := Option.map_eq_some_iff.1 h
            cases heq
            obtain ⟨hs, ha⟩ := ih _ hr
            refine ⟨hs.trans (List.suffix_cons c cs), fun tail hf => ?_⟩
            rw [if_neg hclose, ha tail hf]
            rfl

/-! ## Numbers -/

theorem dropWhile_append_of_ne_nil {p : Char → Bool} (h : cs.dropWhile p ≠ []) :
    (cs ++ tail).dropWhile p = cs.dropWhile p ++ tail := by
  rw [List.dropWhile_append, if_neg (by simpa using h)]

theorem takeWhile_append_of_dropWhile {p : Char → Bool} (h : cs.dropWhile p ≠ []) :
    (cs ++ tail).takeWhile p = cs.takeWhile p := by
  rw [List.takeWhile_append, if_neg]
  intro hlen
  apply h
  have hall := List.takeWhile_append_dropWhile (p := p) (l := cs)
  have hsum := congrArg List.length hall
  rw [List.length_append, hlen] at hsum
  exact List.length_eq_zero_iff.1 (by omega)

theorem digits_suffix (started inComment : Bool) : (digits v started inComment cs).2 <:+ cs := by
  induction cs generalizing started inComment with
  | nil => simp [digits]
  | cons c cs ih =>
    unfold digits
    split
    · exact (ih _ _).trans (List.suffix_cons c cs)
    · split
      · exact (ih _ _).trans (List.suffix_cons c cs)
      · split
        · exact (ih _ _).trans (List.suffix_cons c cs)
        · split
          · exact (ih _ _).trans (List.suffix_cons c cs)
          · exact List.suffix_refl _

/-- Digits that something follows are read alike when more text comes behind. -/
theorem digits_append (started inComment : Bool) (h : (digits v started inComment cs).2 ≠ []) :
    digits v started inComment (cs ++ tail) =
      ((digits v started inComment cs).1, (digits v started inComment cs).2 ++ tail) := by
  induction cs generalizing started inComment with
  | nil => exact absurd rfl h
  | cons c cs ih =>
    simp only [digits, List.cons_append] at h ⊢
    split
    · next hc => rw [if_pos hc] at h; exact ih _ _ h
    · next hc =>
      rw [if_neg hc] at h
      split
      · next hd => rw [if_pos hd] at h; rw [ih _ _ h]
      · next hd =>
        rw [if_neg hd] at h
        split
        · next hb => rw [if_pos hb] at h; exact ih _ _ h
        · next hb =>
          rw [if_neg hb] at h
          split
          · next hs => rw [if_pos hs] at h; exact ih _ _ h
          · rfl

/-- A count is a run of digits in front of blanks. -/
theorem count_eq_some {n : Nat} (h : count v cs = some (n, rest)) :
    ∃ ds r, digits v false false (cs.dropWhile isBlank) = (ds, r) ∧
      ¬(ds.isEmpty ∨ 1 <<< 32 ≤ decimalValue ds) ∧ decimalValue ds = n ∧
        r.dropWhile isBlank = rest := by
  unfold count at h
  cases hd : digits v false false (cs.dropWhile isBlank) with
  | mk ds r =>
    rw [hd] at h
    dsimp only at h
    split at h
    · exact absurd h (by simp)
    · next hok =>
      cases h
      exact ⟨ds, r, rfl, hok, rfl, rfl⟩

theorem count_suffix {n : Nat} (h : count v cs = some (n, rest)) : rest <:+ cs := by
  obtain ⟨ds, r, hd, -, -, rfl⟩ := count_eq_some h
  have hs : r <:+ cs.dropWhile isBlank := by
    have hdigits : (digits v false false (cs.dropWhile isBlank)).2 <:+ cs.dropWhile isBlank :=
      digits_suffix false false
    rwa [hd] at hdigits
  exact ((List.dropWhile_suffix _).trans hs).trans (List.dropWhile_suffix _)

theorem count_append {n : Nat} (h : count v cs = some (n, rest)) (hne : rest ≠ []) :
    count v (cs ++ tail) = some (n, rest ++ tail) := by
  obtain ⟨ds, r, hd, hok, rfl, rfl⟩ := count_eq_some h
  -- Something is left, so neither the blanks nor the digits ran into the end.
  have hr : r ≠ [] := fun he => hne (by rw [he]; rfl)
  have hcs : cs.dropWhile isBlank ≠ [] := by
    intro he
    rw [he] at hd
    exact hr (by cases hd; rfl)
  unfold count
  rw [dropWhile_append_of_ne_nil hcs, digits_append _ _ (by rw [hd]; exact hr), hd]
  dsimp only
  rw [if_neg hok, dropWhile_append_of_ne_nil hne]

theorem hexDigits_local (n : Nat) : Local v (hexDigits v n) := by
  induction n with
  | zero =>
    intro cs x rest h
    cases h
    exact ⟨List.suffix_refl _, fun tail _ => rfl⟩
  | succ n ih =>
    intro cs x rest h
    cases cs with
    | nil => simp [hexDigits] at h
    | cons c cs =>
      simp only [hexDigits, List.cons_append] at h ⊢
      split at h
      · next hc =>
        obtain ⟨⟨ds, r⟩, hr, heq⟩ := Option.map_eq_some_iff.1 h
        cases heq
        obtain ⟨hs, ha⟩ := ih hr
        refine ⟨(hs.trans skip_suffix).trans (List.suffix_cons c cs), fun tail hf => ?_⟩
        rw [if_pos hc, hf.skip_append hs, ha tail hf]
        rfl
      · exact absurd h (by simp)

/-! ## Escapes -/

theorem readHex_local (width : Nat) : Local v (readHex v width) := by
  intro cs x rest h
  unfold readHex at h ⊢
  split at h
  · next after hbrace =>
    obtain ⟨⟨ds, r⟩, hr, h⟩ := Option.bind_eq_some_iff.1 h
    dsimp only at h
    split at h
    · exact absurd h (by simp)
    · next hds =>
      obtain ⟨c, hc, h⟩ := Option.bind_eq_some_iff.1 h
      cases h
      obtain ⟨hs, ha⟩ := untilBrace_local false hr
      have hcs : '\x7b' :: after <:+ cs := hbrace ▸ skip_suffix
      refine ⟨((skip_suffix.trans hs).trans (List.suffix_cons _ _)).trans hcs, fun tail hf => ?_⟩
      rw [skip_append (.inr (by rw [hbrace]; exact List.cons_ne_nil _ _)), hbrace]
      simp only [List.cons_append, ha tail (hf.of_suffix skip_suffix), bind, Option.bind, hc,
        hf.skip_append (List.suffix_refl _), if_neg hds]
  · next hbrace =>
    obtain ⟨⟨ds, r⟩, hr, h⟩ := Option.bind_eq_some_iff.1 h
    obtain ⟨c, hc, h⟩ := Option.bind_eq_some_iff.1 h
    cases h
    obtain ⟨hs, ha⟩ := hexDigits_local width hr
    refine ⟨hs.trans skip_suffix, fun tail hf => ?_⟩
    -- What follows must not begin with a brace where none stood before.
    rw [hf.skip_append hs]
    split
    · next after heq => exact absurd heq (hf.first_ne hs (by decide) hbrace after)
    · simp only [ha tail hf, bind, Option.bind, hc]

theorem readProperty_local (negated : Bool) : Local v (readProperty v negated) := by
  intro cs x rest h
  unfold readProperty at h ⊢
  split at h
  · exact absurd h (by simp)
  · next after hbrace =>
    obtain ⟨⟨name, r⟩, hr, heq⟩ := Option.map_eq_some_iff.1 h
    cases heq
    obtain ⟨hs, ha⟩ := untilBrace_local false hr
    have hcs : '\x7b' :: after <:+ cs := hbrace ▸ skip_suffix
    refine ⟨(hs.trans (List.suffix_cons _ _)).trans hcs, fun tail hf => ?_⟩
    rw [skip_append (.inr (by rw [hbrace]; exact List.cons_ne_nil _ _)), hbrace]
    simp only [List.cons_append, ha tail hf, Option.map_some]
  · exact absurd h (by simp)
  · next c after hslash hbrace heq =>
    cases h
    have hcs : c :: after <:+ cs := heq ▸ skip_suffix
    refine ⟨(skip_suffix.trans (List.suffix_cons _ _)).trans hcs, fun tail hf => ?_⟩
    rw [skip_append (.inr (by rw [heq]; exact List.cons_ne_nil _ _)), heq]
    simp only [List.cons_append, hf.skip_append (List.suffix_refl _)]

theorem readBoundary_local : Local v (readBoundary v) := by
  intro cs x rest h
  unfold readBoundary at h ⊢
  split at h
  · next after =>
    split at h
    · exact absurd h (by simp)
    · next c more heq =>
      have hskip : ∀ tail, skip v (after ++ tail) = skip v after ++ tail := fun tail =>
        skip_append (.inr (by rw [heq]; exact List.cons_ne_nil _ _))
      split at h
      · next hname =>
        obtain ⟨⟨name, r⟩, hr, h⟩ := Option.bind_eq_some_iff.1 h
        obtain ⟨a, hna, h⟩ := Option.bind_eq_some_iff.1 h
        cases h
        obtain ⟨hs, ha⟩ := untilBrace_local false hr
        refine ⟨hs.trans (List.suffix_cons _ _), fun tail hf => ?_⟩
        simp only [List.cons_append, hskip, heq, if_pos hname, ha tail hf, bind, Option.bind, hna]
      · next hname =>
        cases h
        refine ⟨List.suffix_refl _, fun tail hf => ?_⟩
        simp only [List.cons_append, hskip, heq, if_neg hname]
  · next hbrace =>
    cases h
    refine ⟨List.suffix_refl _, fun tail hf => ?_⟩
    split
    · next after heq => exact absurd heq (hf.first_ne (List.suffix_refl _) (by decide) hbrace after)
    · rfl

theorem readEscape_local : Local v (readEscape v) := by
  intro cs x rest h
  cases cs with
  | nil => simp [readEscape] at h
  | cons c cs =>
    have hcons := List.suffix_cons c cs
    unfold readEscape at h
    dsimp only at h
    split at h
    case h_1 | h_2 | h_3 =>
      obtain ⟨hs, ha⟩ := readHex_local _ h
      exact ⟨hs.trans hcons, fun tail hf => ha tail hf⟩
    case h_4 | h_5 =>
      obtain ⟨hs, ha⟩ := readProperty_local _ h
      exact ⟨hs.trans hcons, fun tail hf => ha tail hf⟩
    case h_20 =>
      obtain ⟨hs, ha⟩ := readBoundary_local h
      exact ⟨hs.trans hcons, fun tail hf => ha tail hf⟩
    case h_24 =>
      split at h
      · next hesc =>
        cases h
        refine ⟨hcons, fun tail _ => ?_⟩
        simp [readEscape, *]
      · exact absurd h (by simp)
    all_goals
      cases h
      exact ⟨hcons, fun tail _ => rfl⟩

end HttpRoutes.Expression
