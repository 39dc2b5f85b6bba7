import HttpRoutes.Proofs.Expression.ClassLocality

/-!
# Groups, repetitions and the text behind them

The readers of repetition signs, of what opens a group and of single parts are `Local`.
-/

namespace HttpRoutes.Expression

open HttpRoutes.Text

variable {v : Bool} {cs rest tail : List Char}

/-! ## Repetition -/

theorem readGreed_suffix : (readGreed cs).2 <:+ cs := by
  unfold readGreed
  split
  · exact List.suffix_cons _ _
  · exact List.suffix_refl _

theorem readGreed_append (hf : Follows v (readGreed cs).2 tail) :
    readGreed (cs ++ tail) = ((readGreed cs).1, (readGreed cs).2 ++ tail) := by
  unfold readGreed at hf ⊢
  split at hf
  · rfl
  · next hq =>
    split
    · next more heq => exact absurd heq (hf.first_ne (List.suffix_refl _) (by decide) hq more)
    · rfl

theorem readUpper_append {rest : List Char} {min : Nat} {max : Option Nat}
    (h : readUpper v min cs = some (max, rest)) (hne : rest ≠ []) :
    rest <:+ cs ∧ ∀ tail : List Char, readUpper v min (cs ++ tail) = some (max, rest ++ tail) := by
  have hf : ∀ tail : List Char, Follows v rest tail := fun _ => .inl hne
  unfold readUpper at h
  split at h
  · next after =>
    split at h
    · next r heq =>
      cases h
      have hskip : ∀ tail, skip v (after ++ tail) = '\x7d' :: (r ++ tail) := fun tail => by
        rw [skip_append (.inr (by rw [heq]; exact List.cons_ne_nil _ _)), heq]; rfl
      have hs : '\x7d' :: r <:+ after := heq ▸ skip_suffix
      refine ⟨hs.trans (List.suffix_cons _ _), fun tail => ?_⟩
      simp only [readUpper, List.cons_append, hskip]
    · next hbrace =>
      obtain ⟨⟨n, r⟩, hn, hx⟩ := Option.map_eq_some_iff.1 h
      cases hx
      have hs := count_suffix hn
      refine ⟨(hs.trans skip_suffix).trans (List.suffix_cons _ _), fun tail => ?_⟩
      simp only [readUpper, List.cons_append, (hf tail).skip_append hs]
      split
      · next r heq => exact absurd heq ((hf tail).first_ne hs (by decide) hbrace r)
      · rw [count_append hn hne]; rfl
  · next hcomma =>
    cases h
    refine ⟨List.suffix_refl _, fun tail => ?_⟩
    unfold readUpper
    split
    · next r heq => exact absurd heq ((hf tail).first_ne (List.suffix_refl _) (by decide) hcomma r)
    · rfl

theorem readCount_local : Local v (readCount v) := by
  intro cs x rest h
  unfold readCount at h ⊢
  obtain ⟨⟨min, r₁⟩, hmin, h⟩ := Option.bind_eq_some_iff.1 h
  obtain ⟨⟨max, r₂⟩, hmax, h⟩ := Option.bind_eq_some_iff.1 h
  dsimp only at h
  split at h
  · next after =>
    split at h
    · exact absurd h (by simp)
    · next hbounds =>
      cases h
      obtain ⟨hs₂, ha₂⟩ := readUpper_append hmax (List.cons_ne_nil _ _)
      -- The closing brace keeps both numbers from reaching the end of the text.
      have hr₁ : r₁ ≠ [] := fun he => by rw [he] at hs₂; simp at hs₂
      have hs₁ : r₁ <:+ skip v cs := count_suffix hmin
      have hs : (readGreed (skip v after)).2 <:+ after := readGreed_suffix.trans skip_suffix
      refine ⟨(((hs.trans (List.suffix_cons _ _)).trans hs₂).trans hs₁).trans skip_suffix,
        fun tail hf => ?_⟩
      have hf₁ : Follows v r₁ tail := .inl hr₁
      simp only [hf₁.skip_append hs₁, count_append hmin hr₁, bind, Option.bind, ha₂ tail,
        List.cons_append, if_neg hbounds, hf.skip_append readGreed_suffix, readGreed_append hf]
  · exact absurd h (by simp)

theorem readTimes_local (c : Char) : Local v (readTimes v c) := by
  intro cs x rest h
  unfold readTimes at h ⊢
  split at h
  case h_4 =>
    obtain ⟨hs, ha⟩ := readCount_local h
    exact ⟨hs, fun tail hf => by simp only [ha tail hf]⟩
  all_goals
    cases h
    exact ⟨readGreed_suffix, fun tail hf => by simp only [readGreed_append hf]; rfl⟩

/-! ## What opens a group -/

theorem readFlags_local (on dangling : Bool) (seen : List FlagSetting) {colon : Bool}
    {settings : List FlagSetting}
    (h : readFlags on dangling seen cs = some (colon, settings, rest)) :
    rest <:+ cs ∧ ∀ tail, readFlags on dangling seen (cs ++ tail) =
      some (colon, settings, rest ++ tail) := by
  induction cs generalizing on dangling seen with
  | nil => simp [readFlags] at h
  | cons c cs ih =>
    have hcons := List.suffix_cons c cs
    unfold readFlags at h
    split at h
    · next heq => exact absurd heq (by simp)
    · next heq =>
      cases heq
      split at h
      · exact absurd h (by simp)
      · next hd => cases h; exact ⟨hcons, fun tail => by simp [readFlags, hd]⟩
    · next heq =>
      cases heq
      split at h
      · exact absurd h (by simp)
      · next hd => cases h; exact ⟨hcons, fun tail => by simp [readFlags, hd]⟩
    · next heq =>
      cases heq
      split at h
      · next hon =>
        obtain ⟨hs, ha⟩ := ih _ _ _ h
        exact ⟨hs.trans hcons, fun tail => by simpa [readFlags, hon] using ha tail⟩
      · exact absurd h (by simp)
    · next hcolon hclose hhyphen heq =>
      cases heq
      obtain ⟨flag, hflag, h⟩ := Option.bind_eq_some_iff.1 h
      split at h
      · exact absurd h (by simp)
      · next hseen =>
        obtain ⟨hs, ha⟩ := ih _ _ _ h
        refine ⟨hs.trans hcons, fun tail => ?_⟩
        simp only [List.cons_append, readFlags, hflag, bind, Option.bind, if_neg hseen, ha tail]

/-- The flags of a group begin with a colon, a parenthesis, a hyphen or the letter of a flag. -/
theorem readFlags_first {on dangling : Bool} {seen : List FlagSetting} {colon : Bool}
    {settings : List FlagSetting}
    (h : readFlags on dangling seen cs = some (colon, settings, rest)) :
    ∃ c more, cs = c :: more ∧ c ≠ '=' ∧ c ≠ '!' ∧ c ≠ '<' ∧ c ≠ 'P' := by
  cases cs with
  | nil => simp [readFlags] at h
  | cons c more =>
    refine ⟨c, more, rfl, ?_, ?_, ?_, ?_⟩ <;>
      (intro hc; subst hc; simp [readFlags, flag?] at h)

theorem readGroupName_local {p q : Progress} {o : Opening}
    (h : readGroupName p cs = some (o, q, rest)) :
    rest <:+ cs ∧ ∀ tail, readGroupName p (cs ++ tail) = some (o, q, rest ++ tail) := by
  unfold readGroupName at h ⊢
  dsimp only at h ⊢
  split at h
  · exact absurd h (by simp)
  · next c after heq =>
    have hne : cs.dropWhile (· != '>') ≠ [] := by rw [heq]; exact List.cons_ne_nil _ _
    have hs : c :: after <:+ cs := heq ▸ List.dropWhile_suffix _
    split at h
    · next hok =>
      cases h
      refine ⟨(List.suffix_cons _ _).trans hs, fun tail => ?_⟩
      rw [takeWhile_append_of_dropWhile hne, dropWhile_append_of_ne_nil hne, heq]
      simp only [List.cons_append, if_pos hok]
    · exact absurd h (by simp)

variable {p q : Progress} {o : Opening}

theorem readOpening_named {c : Char} {more : List Char}
    (h : skip p.verbose cs = '?' :: '<' :: c :: more) (heq : c ≠ '=') (hbang : c ≠ '!') :
    readOpening p cs = readGroupName p (c :: more) := by
  simp [readOpening, h, heq, hbang]

theorem readOpening_flags {c : Char} {more : List Char}
    (h : skip p.verbose cs = '?' :: c :: more) (heq : c ≠ '=') (hbang : c ≠ '!') (hlt : c ≠ '<')
    (hp : c ≠ 'P') :
    readOpening p cs = (readFlags true false [] (c :: more)).bind fun (colon, settings, rest) =>
      let verbose := (FlagSetting.value? settings .verbose).getD p.verbose
      if colon then some (.scoped settings, { p with verbose }, rest)
      else if settings.isEmpty then none
      else some (.flags settings, { p with verbose }, rest) := by
  simp [readOpening, h, heq, hbang, hlt, hp, bind, Option.bind]

theorem readOpening_plain (h : ∀ more, skip p.verbose cs ≠ '?' :: more) :
    readOpening p cs =
      some (.capture (p.groups + 1) none, { p with groups := p.groups + 1 },
        skip p.verbose cs) := by
  unfold readOpening
  split
  case h_8 => rfl
  all_goals next heq => exact absurd heq (h _)

/-- A name opens a group with the next number. -/
theorem readGroupName_eq_some (h : readGroupName p cs = some (o, q, rest)) :
    ∃ name, o = .capture (p.groups + 1) (some name) ∧ q = { p with groups := p.groups + 1 } := by
  unfold readGroupName at h
  dsimp only at h
  split at h
  · cases h
  · split at h
    · cases h
      exact ⟨_, rfl, rfl⟩
    · cases h

/-- What an opening is: a name with or without a `P` in front, flags, or nothing. -/
theorem readOpening_cases (h : readOpening p cs = some (o, q, rest)) :
    (∃ after, skip p.verbose cs = '?' :: 'P' :: '<' :: after ∧
      readGroupName p after = some (o, q, rest)) ∨
    (∃ c more, skip p.verbose cs = '?' :: '<' :: c :: more ∧ c ≠ '=' ∧ c ≠ '!' ∧
      readGroupName p (c :: more) = some (o, q, rest)) ∨
    (∃ c more colon settings, skip p.verbose cs = '?' :: c :: more ∧
      readFlags true false [] (c :: more) = some (colon, settings, rest) ∧
      q = { p with verbose := (FlagSetting.value? settings .verbose).getD p.verbose } ∧
      (colon = true ∧ o = .scoped settings ∨
        colon = false ∧ settings ≠ [] ∧ o = .flags settings)) ∨
    (∀ more, skip p.verbose cs ≠ '?' :: more) ∧ rest = skip p.verbose cs ∧
      o = .capture (p.groups + 1) none ∧ q = { p with groups := p.groups + 1 } := by
  unfold readOpening at h
  split at h
  case h_5 after heq => exact .inl ⟨after, heq, h⟩
  -- Past `?<` the signs of looking behind are taken, which are no openings.
  case h_6 after hnot hbang heq =>
    obtain ⟨c, more, rfl⟩ := List.exists_cons_of_ne_nil
      (fun he : after = [] => by simp [he, readGroupName] at h)
    exact .inr (.inl ⟨c, more, heq, fun hc => hnot more (by rw [hc]),
      fun hc => hbang more (by rw [hc]), h⟩)
  case h_7 after _ _ _ _ _ _ heq =>
    obtain ⟨⟨colon, settings, r⟩, hflags, hout⟩ := Option.bind_eq_some_iff.1 h
    obtain ⟨c, more, rfl, -⟩ := readFlags_first hflags
    refine .inr (.inr (.inl ⟨c, more, colon, settings, heq, ?_⟩))
    dsimp only at hout
    split at hout
    · next hcolon =>
      cases hout
      exact ⟨hflags, rfl, .inl ⟨hcolon, rfl⟩⟩
    · next hcolon =>
      split at hout
      · cases hout
      · next hset =>
        cases hout
        exact ⟨hflags, rfl, .inr ⟨Bool.eq_false_iff.2 hcolon, by simpa using hset, rfl⟩⟩
  case h_8 _ _ _ _ _ _ hplain =>
    cases h
    exact .inr (.inr (.inr ⟨hplain, rfl, rfl, rfl⟩))
  all_goals cases h

theorem readOpening_append (h : readOpening p cs = some (o, q, rest)) :
    rest <:+ cs ∧ ∀ tail, Follows q.verbose rest tail →
      readOpening p (cs ++ tail) = some (o, q, rest ++ tail) := by
  have hahead {c : Char} {after : List Char} (heq : skip p.verbose cs = c :: after)
      (tail : List Char) : skip p.verbose (cs ++ tail) = c :: (after ++ tail) := by
    rw [skip_append (.inr (by rw [heq]; exact List.cons_ne_nil _ _)), heq]
    rfl
  rcases readOpening_cases h with ⟨after, heq, hname⟩ | ⟨c, more, heq, hnot, hbang, hname⟩ |
    ⟨c, more, colon, settings, heq, hflags, rfl, ho⟩ | ⟨hplain, rfl, rfl, rfl⟩
  · obtain ⟨hs, ha⟩ := readGroupName_local hname
    have hcs : '?' :: 'P' :: '<' :: after <:+ cs := heq ▸ skip_suffix
    have hafter : after <:+ '?' :: 'P' :: '<' :: after := ⟨['?', 'P', '<'], rfl⟩
    refine ⟨(hs.trans hafter).trans hcs, fun tail _ => ?_⟩
    unfold readOpening
    rw [hahead heq]
    exact ha tail
  · obtain ⟨hs, ha⟩ := readGroupName_local hname
    have hcs : '?' :: '<' :: c :: more <:+ cs := heq ▸ skip_suffix
    have hmore : c :: more <:+ '?' :: '<' :: c :: more := ⟨['?', '<'], rfl⟩
    refine ⟨(hs.trans hmore).trans hcs, fun tail _ => ?_⟩
    rw [readOpening_named (hahead heq tail) hnot hbang]
    exact ha tail
  · obtain ⟨c', more', hcons, heq', hbang, hlt, hp⟩ := readFlags_first hflags
    obtain ⟨rfl, rfl⟩ := List.cons.inj hcons
    obtain ⟨hs, ha⟩ := readFlags_local _ _ _ hflags
    have hcs : '?' :: c :: more <:+ cs := heq ▸ skip_suffix
    refine ⟨(hs.trans (List.suffix_cons _ _)).trans hcs, fun tail _ => ?_⟩
    have hread : readFlags true false [] (c :: (more ++ tail)) =
        some (colon, settings, rest ++ tail) := ha tail
    have hskip : skip p.verbose (cs ++ tail) = '?' :: c :: (more ++ tail) := hahead heq tail
    rw [readOpening_flags hskip heq' hbang hlt hp, hread]
    rcases ho with ⟨rfl, rfl⟩ | ⟨rfl, hset, rfl⟩
    · rfl
    · simp [hset]
  · -- A plain group may be the last thing read, and a parenthesis behind it is no question mark.
    refine ⟨skip_suffix, fun tail hf => ?_⟩
    have happend : skip p.verbose (cs ++ tail) = skip p.verbose cs ++ tail :=
      Follows.skip_append hf (List.suffix_refl _)
    rw [readOpening_plain, happend]
    rw [happend]
    exact Follows.first_ne hf (List.suffix_refl _) (by decide) hplain

theorem readAtom_local (c : Char) : Local v (readAtom v c) := by
  intro cs x rest h
  unfold readAtom at h
  split at h
  · exact readEscape_local h
  · cases h; exact ⟨List.suffix_refl _, fun _ _ => rfl⟩
  · cases h; exact ⟨List.suffix_refl _, fun _ _ => rfl⟩
  · cases h; exact ⟨List.suffix_refl _, fun _ _ => rfl⟩
  · exact readClass_local h
  · cases h
    refine ⟨List.suffix_refl _, fun _ _ => ?_⟩
    simp [readAtom, *]

end HttpRoutes.Expression
