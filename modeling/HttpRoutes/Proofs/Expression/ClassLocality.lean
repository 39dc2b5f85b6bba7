import HttpRoutes.Proofs.Expression.Locality

/-!
# Character classes and the text behind them

Every reader of the pieces of a character class is `Local`. A class ends at a closing bracket, so a
class that could be read holds all that decides how it is read: `classBody_bracket` finds the
bracket, and with it a named class cannot come about by what follows the class.
-/

namespace HttpRoutes.Expression

open HttpRoutes.Text

variable {v : Bool} {cs rest tail : List Char}

theorem posixClass?_no_bracket {name : List Char} {k : PosixClass} (h : posixClass? name = some k) :
    ']' ∉ name := by
  unfold posixClass? at h
  obtain ⟨before, after, heq, -⟩ := List.lookup_eq_some_iff.1 h
  have hall : ∀ p ∈ before ++ (String.ofList name, k) :: after, ']' ∉ p.1.toList := by
    rw [← heq]
    decide
  have := hall (String.ofList name, k) (by simp)
  rwa [String.toList_ofList] at this

theorem posix?_colon (h : ∀ more, cs ≠ '^' :: more) : posix? (':' :: cs) = posixName? false cs := by
  unfold posix?
  split
  · next rest heq => exact absurd (List.cons.inj heq).2 (h rest)
  · next heq => rw [(List.cons.inj heq).2]
  · next heq => exact absurd rfl (heq cs)

theorem posix?_other (h : ∀ more, cs ≠ ':' :: more) : posix? cs = none := by
  unfold posix?
  split
  · next rest => exact absurd rfl (h _)
  · next rest _ => exact absurd rfl (h _)
  · rfl

theorem posixName?_local (negated : Bool) : Local v (posixName? negated) := by
  intro cs x rest h
  unfold posixName? at h ⊢
  split at h
  · next after heq =>
    obtain ⟨k, hk, hx⟩ := Option.map_eq_some_iff.1 h
    cases hx
    have hsuffix : ':' :: ']' :: rest <:+ cs := heq ▸ List.dropWhile_suffix _
    refine ⟨((List.suffix_cons _ _).trans (List.suffix_cons _ _)).trans hsuffix, fun tail _ => ?_⟩
    rw [takeWhile_append_of_dropWhile (by rw [heq]; exact List.cons_ne_nil _ _),
      dropWhile_append_of_ne_nil (by rw [heq]; exact List.cons_ne_nil _ _), heq]
    simp only [List.cons_append, hk, Option.map_some]
  · exact absurd h (by simp)

/-- A name that runs into the closing bracket is none, whatever more text follows. -/
theorem posixName?_append_none (negated : Bool) (h : posixName? negated cs = none)
    (hb : ']' ∈ cs) : posixName? negated (cs ++ tail) = none := by
  have hnone : ∀ name : List Char, ']' ∈ name → posixClass? name = none := by
    intro name hname
    cases hp : posixClass? name with
    | none => rfl
    | some k => exact absurd hname (posixClass?_no_bracket hp)
  unfold posixName? at h ⊢
  cases hd : cs.dropWhile (· != ':') with
  | nil =>
    -- No colon before the end, so the name holds the bracket.
    have hname : ']' ∈ (cs ++ tail).takeWhile (· != ':') := by
      have hall : ∀ x ∈ cs, (x != ':') = true := List.dropWhile_eq_nil_iff.1 hd
      rw [List.takeWhile_append_of_pos hall]
      exact List.mem_append_left _ hb
    split
    · rw [hnone _ hname]; rfl
    · rfl
  | cons c more =>
    have hne : cs.dropWhile (· != ':') ≠ [] := by rw [hd]; exact List.cons_ne_nil _ _
    rw [takeWhile_append_of_dropWhile hne, dropWhile_append_of_ne_nil hne, hd]
    have hc : c = ':' := by
      have := List.head_dropWhile_not (· != ':') hne
      simpa [hd] using this
    subst hc
    cases more with
    | nil =>
      -- The bracket stands in front of the colon, where the name is.
      have hname : ']' ∈ cs.takeWhile (· != ':') := by
        rw [← List.takeWhile_append_dropWhile (p := (· != ':')) (l := cs), hd] at hb
        simpa using hb
      split
      · rw [hnone _ hname]; rfl
      · rfl
    | cons d more =>
      rw [hd] at h
      by_cases hd' : d = ']'
      · subst hd'
        simp only [Option.map_eq_none_iff] at h
        simp only [List.cons_append, h, Option.map_none]
      · simp [hd']

theorem posix?_local : Local v posix? := by
  intro cs x rest h
  by_cases hcolon : ∃ more, cs = ':' :: more
  · obtain ⟨cs, rfl⟩ := hcolon
    by_cases hcaret : ∃ more, cs = '^' :: more
    · obtain ⟨cs, rfl⟩ := hcaret
      obtain ⟨hs, ha⟩ := posixName?_local true h
      exact ⟨(hs.trans (List.suffix_cons _ _)).trans (List.suffix_cons _ _), ha⟩
    · have hne : ∀ more, cs ≠ '^' :: more := fun more he => hcaret ⟨more, he⟩
      rw [posix?_colon hne] at h
      obtain ⟨hs, ha⟩ := posixName?_local false h
      refine ⟨hs.trans (List.suffix_cons _ _), fun tail hf => ?_⟩
      rw [List.cons_append, posix?_colon (hf.first_ne hs (by decide) hne)]
      exact ha tail hf
  · rw [posix?_other fun more he => hcolon ⟨more, he⟩] at h
    exact absurd h (by simp)

/-- Text that reads as a named class only when more follows holds no closing bracket. -/
theorem posix?_append_none (h : posix? cs = none) (hb : ']' ∈ cs) : posix? (cs ++ tail) = none := by
  cases cs with
  | nil => exact absurd hb (by simp)
  | cons c cs =>
    by_cases hcolon : c = ':'
    · subst hcolon
      have hb : ']' ∈ cs := by simpa using hb
      cases cs with
      | nil => exact absurd hb (by simp)
      | cons d cs =>
        by_cases hcaret : d = '^'
        · subst hcaret
          exact posixName?_append_none true h (by simpa using hb)
        · have hne : ∀ l more, d :: l ≠ '^' :: more := fun l more he => hcaret (List.cons.inj he).1
          rw [posix?_colon (hne _)] at h
          rw [List.cons_append, List.cons_append, posix?_colon (hne _)]
          exact posixName?_append_none false h hb
    · exact posix?_other fun more he => hcolon (List.cons.inj he).1

@[simp] theorem leadingHyphens_hyphen (n : Nat) :
    leadingHyphens v (n + 1) ('-' :: cs) =
      (.char ⟨'-', false⟩ :: (leadingHyphens v n (skip v cs)).1,
        (leadingHyphens v n (skip v cs)).2) := rfl

@[simp] theorem leadingHyphens_other {c : Char} (n : Nat) (hc : c ≠ '-') :
    leadingHyphens v (n + 1) (c :: cs) = ([], c :: cs) := by
  simp [leadingHyphens, hc]

theorem leadingHyphens_suffix (n : Nat) : (leadingHyphens v n cs).2 <:+ cs := by
  induction n generalizing cs with
  | zero => exact List.suffix_refl _
  | succ n ih =>
    unfold leadingHyphens
    split
    · exact (ih.trans skip_suffix).trans (List.suffix_cons _ _)
    · exact List.suffix_refl _

theorem leadingHyphens_append (n m : Nat) (hn : cs.length ≤ n) (hm : (cs ++ tail).length ≤ m)
    (h : (leadingHyphens v n cs).2 ≠ []) :
    leadingHyphens v m (cs ++ tail) =
      ((leadingHyphens v n cs).1, (leadingHyphens v n cs).2 ++ tail) := by
  induction n generalizing cs m with
  | zero =>
    rw [List.length_eq_zero_iff.1 (Nat.le_zero.1 hn)] at h
    exact absurd rfl h
  | succ n ih =>
    cases cs with
    | nil => exact absurd rfl h
    | cons c cs =>
      obtain ⟨m, rfl⟩ : ∃ m', m = m' + 1 := ⟨m - 1, by simp at hm; omega⟩
      simp only [List.cons_append, List.length_cons, Nat.add_le_add_iff_right] at hn hm ⊢
      by_cases hc : c = '-'
      · subst hc
        rw [leadingHyphens_hyphen] at h ⊢
        have hs : (leadingHyphens v n (skip v cs)).2 <:+ skip v cs := leadingHyphens_suffix n
        have hskip : skip v (cs ++ tail) = skip v cs ++ tail :=
          skip_append (.inr fun he => h (List.suffix_nil.1 (he ▸ hs)))
        have hlen : (skip v cs).length ≤ cs.length := skip_suffix.length_le
        rw [leadingHyphens_hyphen, hskip, ih m (by omega) ?_ h]
        simp only [List.length_append] at hm ⊢
        omega
      · rw [leadingHyphens_other n hc, leadingHyphens_other m hc]
        rfl

/-- The members at the start of a class are never the last thing in the text. -/
theorem startMembers_ne_nil {items : List ClassBody} (h : startMembers v cs = some (items, rest)) :
    rest ≠ [] := by
  unfold startMembers at h
  split at h
  · exact absurd h (by simp)
  · split at h
    · exact absurd h (by simp)
    · next hskip => cases h; exact hskip
  · next hnil _ _ => cases h; exact hnil

theorem startMembers_local : Local v (startMembers v) := by
  intro cs items rest h
  have hs : (leadingHyphens v cs.length cs).2 <:+ cs := leadingHyphens_suffix _
  have happend : (leadingHyphens v cs.length cs).2 ≠ [] → ∀ tail,
      leadingHyphens v (cs ++ tail).length (cs ++ tail) =
        ((leadingHyphens v cs.length cs).1, (leadingHyphens v cs.length cs).2 ++ tail) :=
    fun hne tail => leadingHyphens_append _ _ (Nat.le_refl _) (Nat.le_refl _) hne
  unfold startMembers at h ⊢
  split at h
  · exact absurd h (by simp)
  · next r heq =>
    rw [heq] at hs happend
    split at h
    · exact absurd h (by simp)
    · next hskip =>
      cases h
      refine ⟨(skip_suffix.trans (List.suffix_cons _ _)).trans hs, fun tail _ => ?_⟩
      rw [happend (List.cons_ne_nil _ _) tail]
      simp only [List.cons_append, skip_append (.inr hskip)]
      split
      · next hnil => exact absurd (List.append_eq_nil_iff.1 hnil).1 hskip
      · rfl
  · next hyphens r hnil hbracket heq =>
    cases h
    rw [heq] at hs happend
    refine ⟨hs, fun tail _ => ?_⟩
    rw [happend hnil tail]
    split
    · next hr => exact absurd (List.append_eq_nil_iff.1 (Prod.mk.inj hr).2).1 hnil
    · next more hr =>
      obtain ⟨c, r, rfl⟩ := List.exists_cons_of_ne_nil hnil
      obtain ⟨hitems, hmore⟩ := Prod.mk.inj hr
      exact (hbracket r hitems (by rw [(List.cons.inj hmore).1])).elim
    · next hr => rw [← (Prod.mk.inj hr).1, ← (Prod.mk.inj hr).2]

theorem classStart_local {negated : Bool} {items : List ClassBody}
    (h : classStart v cs = some (negated, items, rest)) :
    rest <:+ cs ∧ rest ≠ [] ∧
      ∀ tail, classStart v (cs ++ tail) = some (negated, items, rest ++ tail) := by
  unfold classStart at h ⊢
  split at h
  · next more heq =>
    obtain ⟨⟨items, r⟩, hr, hx⟩ := Option.map_eq_some_iff.1 h
    cases hx
    obtain ⟨hs, ha⟩ := startMembers_local hr
    have hne : rest ≠ [] := startMembers_ne_nil hr
    have hcs : '^' :: more <:+ cs := heq ▸ skip_suffix
    refine ⟨((hs.trans skip_suffix).trans (List.suffix_cons _ _)).trans hcs, hne, fun tail => ?_⟩
    rw [skip_append (.inr (by rw [heq]; exact List.cons_ne_nil _ _)), heq]
    have hf : Follows v rest tail := .inl hne
    simp only [List.cons_append, hf.skip_append hs, ha tail hf, Option.map_some]
  · next hcaret =>
    obtain ⟨⟨items, r⟩, hr, hx⟩ := Option.map_eq_some_iff.1 h
    cases hx
    obtain ⟨hs, ha⟩ := startMembers_local hr
    have hne : rest ≠ [] := startMembers_ne_nil hr
    have hf : ∀ tail, Follows v rest tail := fun _ => .inl hne
    refine ⟨hs.trans skip_suffix, hne, fun tail => ?_⟩
    rw [(hf tail).skip_append hs]
    split
    · next more heq => exact absurd heq ((hf tail).first_ne hs (by decide) hcaret more)
    · rw [ha tail (hf tail)]; rfl

theorem classAtom_local : Local v (classAtom v) := by
  intro cs x rest h
  unfold classAtom at h
  split at h
  · exact absurd h (by simp)
  · next after =>
    obtain ⟨hs, ha⟩ := readEscape_local h
    exact ⟨hs.trans (List.suffix_cons _ _), fun tail hf => ha tail hf⟩
  · next c after hc =>
    cases h
    refine ⟨List.suffix_cons _ _, fun tail _ => ?_⟩
    simp [classAtom]

theorem peekBlanks_append (inComment : Bool) {c : Char} (h : peekBlanks inComment cs = some c) :
    peekBlanks inComment (cs ++ tail) = some c := by
  induction cs generalizing inComment with
  | nil => exact absurd h (by simp [peekBlanks])
  | cons d cs ih =>
    simp only [peekBlanks, List.cons_append] at h ⊢
    split
    · next hb => rw [if_pos hb] at h; exact ih _ h
    · next hb =>
      rw [if_neg hb] at h
      split
      · next hc => rw [if_pos hc] at h; exact ih _ h
      · next hc => rwa [if_neg hc] at h

/-- Where blanks do not reach up to the end of the text, something is seen behind them. -/
theorem peekBlanks_isSome (inComment seenComment : Bool) (h : skipBlanks inComment cs ≠ []) :
    (peekBlanks seenComment cs).isSome := by
  induction cs generalizing inComment seenComment with
  | nil => exact absurd rfl h
  | cons d cs ih =>
    simp only [peekBlanks, skipBlanks] at h ⊢
    split
    · next hb =>
      split at h
      · exact ih _ _ h
      · exact ih _ _ h
    · next hb =>
      split
      · next hc =>
        split at h
        · exact ih _ _ h
        · have hsharp : d = '#' := by simpa using (Bool.and_eq_true_iff.1 hc).2
          rw [if_pos hsharp] at h
          exact ih _ _ h
      · rfl

/-- What decides about a hyphen stays the same when more text follows. -/
theorem peek_append (h : skip v cs ≠ []) : peek v (cs ++ tail) = peek v cs := by
  cases v with
  | false =>
    obtain ⟨c, cs, rfl⟩ := List.exists_cons_of_ne_nil (show cs ≠ [] from h)
    rfl
  | true =>
    obtain ⟨c, hc⟩ := Option.isSome_iff_exists.1 (peekBlanks_isSome false false h)
    simp [peek, hc, peekBlanks_append false hc]

theorem peek_append_some {c : Char} (h : peek v cs = some c) (hb : isBlank c = false)
    (hsharp : c ≠ '#') : peek v (cs ++ tail) = some c := by
  cases cs with
  | nil => cases v <;> simp [peek, peekBlanks] at h
  | cons d cs =>
    cases v with
    | false => exact h
    | true =>
      -- Where all is blank, the first blank itself is seen, which `c` is not.
      cases hp : peekBlanks false (d :: cs) with
      | some e =>
        have : e = c := by simpa [peek, hp] using h
        have hpeek : peekBlanks false (d :: (cs ++ tail)) = some e := peekBlanks_append false hp
        simp [peek, hpeek, this]
      | none =>
        have hd : d = c := by simpa [peek, hp] using h
        subst hd
        simp [peekBlanks, hb, hsharp] at hp

theorem classItem_local : Local v (classItem v) := by
  intro cs x rest h
  unfold classItem at h ⊢
  obtain ⟨⟨first, r⟩, hfirst, h⟩ := Option.bind_eq_some_iff.1 h
  obtain ⟨hs, ha⟩ := classAtom_local hfirst
  dsimp only at h
  split at h
  · exact absurd h (by simp)
  · next after heq =>
    -- A hyphen follows. What is seen behind it tells whether it makes a range.
    have hr : '-' :: after <:+ r := heq ▸ skip_suffix
    have hf : ∀ tail, Follows v r tail := fun _ => .inl (by
      intro he; rw [he] at hr; exact absurd (List.suffix_nil.1 hr) (List.cons_ne_nil _ _))
    have hskip : ∀ tail, skip v (r ++ tail) = '-' :: (after ++ tail) := fun tail => by
      rw [skip_append (.inr (by rw [heq]; exact List.cons_ne_nil _ _)), heq]; rfl
    split at h
    · next hnext =>
      obtain ⟨m, hm, hx⟩ := Option.map_eq_some_iff.1 h
      cases hx
      refine ⟨hr.trans hs, fun tail _ => ?_⟩
      have hpeek : peek v (after ++ tail) = some ']' ∨ peek v (after ++ tail) = some '-' := by
        rcases hnext with h | h
        · exact .inl (peek_append_some h (by decide) (by decide))
        · exact .inr (peek_append_some h (by decide) (by decide))
      simp only [ha tail (hf tail), bind, Option.bind, hskip tail, if_pos hpeek, hm]
      rfl
    · next hnext =>
      obtain ⟨⟨second, r2⟩, hsecond, h⟩ := Option.bind_eq_some_iff.1 h
      obtain ⟨hs2, ha2⟩ := classAtom_local hsecond
      have hafter : skip v after ≠ [] := by
        intro he
        rw [he] at hsecond
        simp [classAtom] at hsecond
      have hpeek : ∀ tail,
          ¬(peek v (after ++ tail) = some ']' ∨ peek v (after ++ tail) = some '-') :=
        fun tail => by rw [peek_append hafter]; exact hnext
      dsimp only at h
      split at h
      · split at h
        · next hle =>
          cases h
          refine ⟨((hs2.trans skip_suffix).trans (List.suffix_cons _ _)).trans (hr.trans hs),
            fun tail hf2 => ?_⟩
          simp only [ha tail (hf tail), bind, Option.bind, hskip tail, if_neg (hpeek tail),
            skip_append (.inr hafter), ha2 tail hf2, if_pos hle]
        · exact absurd h (by simp)
      · exact absurd h (by simp)
  · next hnil hhyphen =>
    -- Something is left that is no hyphen, and more text does not make it one.
    obtain ⟨m, hm, hx⟩ := Option.map_eq_some_iff.1 h
    cases hx
    have hne : skip v r ≠ [] := hnil
    have hf : ∀ tail, Follows v r tail := fun _ => .inl fun he => hne (by rw [he]; cases v <;> rfl)
    refine ⟨skip_suffix.trans hs, fun tail _ => ?_⟩
    simp only [ha tail (hf tail), bind, Option.bind, skip_append (.inr hne)]
    split
    · next heq => exact absurd (List.append_eq_nil_iff.1 heq).1 hne
    · next after heq =>
      have hf' : Follows v (skip v r) tail := .inl hne
      exact absurd heq (hf'.first_ne (List.suffix_refl _) (by decide) hhyphen after)
    · rw [hm]; rfl

/-- A member of a class is read together with what decides that it ends. -/
theorem classItem_two {x : ClassBody} (h : classItem v cs = some (x, rest)) :
    ∃ c d more, cs = c :: d :: more := by
  match cs with
  | c :: d :: more => exact ⟨c, d, more, rfl⟩
  | [] => simp [classItem, classAtom] at h
  | [c] =>
    exfalso
    unfold classItem at h
    obtain ⟨⟨first, r⟩, hfirst, h⟩ := Option.bind_eq_some_iff.1 h
    have hr : r = [] := by
      unfold classAtom at hfirst
      split at hfirst
      · exact absurd hfirst (by simp)
      · next after heq =>
        cases heq
        simp [readEscape] at hfirst
      · next heq =>
        cases heq
        cases hfirst
        rfl
    subst hr
    simp [skip, skipBlanks] at h

theorem setOp?_local : Local v setOp? := by
  intro cs x rest h
  unfold setOp? at h
  split at h
  case h_4 => exact absurd h (by simp)
  all_goals
    cases h
    exact ⟨(List.suffix_cons _ _).trans (List.suffix_cons _ _), fun tail _ => rfl⟩

theorem setOp?_none {c d : Char} {more : List Char} (h : setOp? (c :: d :: more) = none)
    (l : List Char) : setOp? (c :: d :: l) = none := by
  cases hop : setOp? (c :: d :: l) with
  | none => rfl
  | some x =>
    exfalso
    unfold setOp? at hop
    split at hop
    case h_4 => exact absurd hop (by simp)
    all_goals
      next heq =>
        cases heq
        simp [setOp?] at h

/-- One step of reading a class, by what stands in front. -/
theorem classBody_cases {n : Nat} {left : Option (SetOp × ClassBody)} {items : List ClassBody}
    {body : ClassBody} (h : classBody v (n + 1) left items cs = some (body, rest)) :
    (skip v cs = ']' :: rest ∧ body = closeOp left (.ofItems items.reverse)) ∨
    (∃ after item r, skip v cs = '[' :: after ∧ posix? after = some (item, r) ∧
      classBody v n left (item :: items) r = some (body, rest)) ∨
    (∃ after negated start r inner r', skip v cs = '[' :: after ∧ posix? after = none ∧
      classStart v after = some (negated, start, r) ∧
      classBody v n none start.reverse r = some (inner, r') ∧
      classBody v n left (.bracketed negated inner :: items) r' = some (body, rest)) ∨
    (∃ o r, setOp? (skip v cs) = some (o, r) ∧
      classBody v n (some (o, closeOp left (.ofItems items.reverse))) [] r = some (body, rest)) ∨
    ∃ item r, (∀ more, skip v cs ≠ ']' :: more) ∧ (∀ more, skip v cs ≠ '[' :: more) ∧
      setOp? (skip v cs) = none ∧ classItem v (skip v cs) = some (item, r) ∧
      classBody v n left (item :: items) r = some (body, rest) := by
  rw [classBody] at h
  split at h
  · cases h
  · next after heq =>
    cases h
    exact .inl ⟨heq, rfl⟩
  · next after heq =>
    split at h
    · next item r hposix => exact .inr (.inl ⟨after, item, r, heq, hposix, h⟩)
    · next hposix =>
      obtain ⟨⟨negated, start, r⟩, hstart, h⟩ := Option.bind_eq_some_iff.1 h
      obtain ⟨⟨inner, r'⟩, hinner, h⟩ := Option.bind_eq_some_iff.1 h
      exact .inr (.inr (.inl ⟨after, negated, start, r, inner, r', heq, hposix, hstart, hinner, h⟩))
  · next hclose hopen =>
    split at h
    · next o r hop => exact .inr (.inr (.inr (.inl ⟨o, r, hop, h⟩)))
    · next hop =>
      obtain ⟨⟨item, r⟩, hitem, h⟩ := Option.bind_eq_some_iff.1 h
      exact .inr (.inr (.inr (.inr ⟨item, r, hclose, hopen, hop, hitem, h⟩)))

/-- A class that could be read has a closing bracket. -/
theorem classBody_bracket {n : Nat} {left : Option (SetOp × ClassBody)} {items : List ClassBody}
    {body : ClassBody} (h : classBody v n left items cs = some (body, rest)) : ']' ∈ cs := by
  induction n generalizing left items cs body rest with
  | zero => simp [classBody] at h
  | succ n ih =>
    refine (skip_suffix (v := v)).subset ?_
    rcases classBody_cases h with ⟨heq, -⟩ | ⟨after, item, r, heq, hposix, hlater⟩ |
      ⟨after, negated, start, r, inner, r', heq, -, hstart, hinner, -⟩ | ⟨o, r, hop, hlater⟩ |
      ⟨item, r, -, -, -, hitem, hlater⟩
    · rw [heq]
      exact List.mem_cons_self
    · rw [heq]
      exact List.mem_cons_of_mem _ ((posix?_local (v := v) hposix).1.subset (ih hlater))
    · rw [heq]
      exact List.mem_cons_of_mem _ ((classStart_local hstart).1.subset (ih hinner))
    · exact (setOp?_local (v := v) hop).1.subset (ih hlater)
    · exact (classItem_local hitem).1.subset (ih hlater)

theorem classBody_op {n : Nat} {left : Option (SetOp × ClassBody)} {items : List ClassBody}
    {o : SetOp} {r : List Char} (h : setOp? (skip v cs) = some (o, r)) :
    classBody v (n + 1) left items cs =
      classBody v n (some (o, closeOp left (.ofItems items.reverse))) [] r := by
  rw [classBody]
  split
  · next heq => rw [heq] at h; cases h
  · next heq => rw [heq] at h; cases h
  · next heq => rw [heq] at h; cases h
  · rw [h]

theorem classBody_item {n : Nat} {left : Option (SetOp × ClassBody)} {items : List ClassBody}
    (hclose : ∀ more, skip v cs ≠ ']' :: more) (hopen : ∀ more, skip v cs ≠ '[' :: more)
    (hop : setOp? (skip v cs) = none) {item : ClassBody} {r : List Char}
    (hitem : classItem v (skip v cs) = some (item, r)) :
    classBody v (n + 1) left items cs = classBody v n left (item :: items) r := by
  rw [classBody]
  split
  · next heq => rw [heq] at hitem; simp [classItem, classAtom] at hitem
  · next heq => exact absurd heq (hclose _)
  · next heq => exact absurd heq (hopen _)
  · rw [hop, hitem]
    rfl

/-- A class is read the same with more text behind it, and with more steps. -/
theorem classBody_local {n : Nat} {left : Option (SetOp × ClassBody)} {items : List ClassBody}
    {body : ClassBody} (h : classBody v n left items cs = some (body, rest)) :
    rest <:+ cs ∧ ∀ m tail, n ≤ m → Follows v rest tail →
      classBody v m left items (cs ++ tail) = some (body, rest ++ tail) := by
  induction n generalizing left items cs body rest with
  | zero => simp [classBody] at h
  | succ n ih =>
    -- A class does not end with the text, so what is seen in front stays when more follows.
    have hcs : skip v cs ≠ [] := fun he => by simp [classBody, he] at h
    have hskip (tail : List Char) : skip v (cs ++ tail) = skip v cs ++ tail :=
      skip_append (.inr hcs)
    have hbehind {c : Char} {after : List Char} (heq : skip v cs = c :: after) : after <:+ cs :=
      (List.suffix_cons _ _).trans (heq ▸ skip_suffix)
    rcases classBody_cases h with ⟨heq, rfl⟩ | ⟨after, item, r, heq, hposix, hlater⟩ |
      ⟨after, negated, start, r, inner, r', heq, hposix, hstart, hinner, hlater⟩ |
      ⟨o, r, hop, hlater⟩ | ⟨item, r, hclose, hopen, hop, hitem, hlater⟩
    · refine ⟨hbehind heq, fun m tail hm hf => ?_⟩
      obtain ⟨m, rfl⟩ := Nat.exists_eq_add_of_lt hm
      simp only [classBody, hskip, heq, List.cons_append]
    · obtain ⟨hs, ha⟩ := posix?_local (v := v) hposix
      obtain ⟨hs', ha'⟩ := ih hlater
      refine ⟨(hs'.trans hs).trans (hbehind heq), fun m tail hm hf => ?_⟩
      obtain ⟨m, rfl⟩ := Nat.exists_eq_add_of_lt hm
      simp only [classBody, hskip, heq, List.cons_append, ha tail (hf.of_suffix hs'),
        ha' (n + m) tail (by omega) hf]
    · obtain ⟨hs, -, ha⟩ := classStart_local hstart
      obtain ⟨hs', ha'⟩ := ih hinner
      obtain ⟨hs'', ha''⟩ := ih hlater
      -- The inner class has been closed, so its opening bracket starts no named class either way.
      have hnone (tail : List Char) : posix? (after ++ tail) = none :=
        posix?_append_none hposix (hs.subset (classBody_bracket hinner))
      refine ⟨((hs''.trans hs').trans hs).trans (hbehind heq), fun m tail hm hf => ?_⟩
      obtain ⟨m, rfl⟩ := Nat.exists_eq_add_of_lt hm
      simp only [classBody, hskip, heq, List.cons_append, hnone, ha tail, bind, Option.bind,
        ha' (n + m) tail (by omega) (hf.of_suffix hs''), ha'' (n + m) tail (by omega) hf]
    · obtain ⟨hs, ha⟩ := setOp?_local (v := v) hop
      obtain ⟨hs', ha'⟩ := ih hlater
      refine ⟨(hs'.trans hs).trans skip_suffix, fun m tail hm hf => ?_⟩
      obtain ⟨m, rfl⟩ := Nat.exists_eq_add_of_lt hm
      have hop' : setOp? (skip v (cs ++ tail)) = some (o, r ++ tail) := by
        rw [hskip]
        exact ha tail (hf.of_suffix hs')
      rw [classBody_op hop']
      exact ha' (n + m) tail (by omega) hf
    · -- An operator has two characters, and a member is never the last one in a class.
      obtain ⟨c, d, more, htwo⟩ := classItem_two hitem
      obtain ⟨hs, ha⟩ := classItem_local hitem
      obtain ⟨hs', ha'⟩ := ih hlater
      refine ⟨(hs'.trans hs).trans skip_suffix, fun m tail hm hf => ?_⟩
      obtain ⟨m, rfl⟩ := Nat.exists_eq_add_of_lt hm
      have hnone : setOp? (skip v cs ++ tail) = none := by
        rw [htwo] at hop ⊢
        exact setOp?_none hop (more ++ tail)
      have hfirst : Follows v (skip v cs) tail := .inl hcs
      have hclose' := hfirst.first_ne (List.suffix_refl _) (by decide) hclose
      have hopen' := hfirst.first_ne (List.suffix_refl _) (by decide) hopen
      have hitem' := ha tail (hf.of_suffix hs')
      rw [← hskip] at hnone hclose' hopen' hitem'
      rw [classBody_item hclose' hopen' hnone hitem']
      exact ha' (n + m) tail (by omega) hf

theorem readClass_local : Local v (readClass v) := by
  intro cs x rest h
  unfold readClass at h ⊢
  obtain ⟨⟨negated, start, r⟩, hstart, h⟩ := Option.bind_eq_some_iff.1 h
  obtain ⟨⟨body, r2⟩, hbody, h⟩ := Option.bind_eq_some_iff.1 h
  cases h
  obtain ⟨hs, -, ha⟩ := classStart_local hstart
  obtain ⟨hs2, ha2⟩ := classBody_local hbody
  refine ⟨hs2.trans hs, fun tail hf => ?_⟩
  have hlen : cs.length + 1 ≤ (cs ++ tail).length + 1 := by simp
  simp only [ha tail, bind, Option.bind, ha2 _ tail hlen hf]

end HttpRoutes.Expression
