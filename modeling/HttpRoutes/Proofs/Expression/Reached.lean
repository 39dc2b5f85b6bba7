import HttpRoutes.Proofs.Expression.Anchored
import HttpRoutes.Proofs.Expression.Spans

/-!
# A matcher finds every span

A matcher leaves out ways that pass a point of choice twice at one place, and a loop leaves out
places that it has reached before. No place is lost by that: what lies behind a point passed before
is found from where that point was passed first. `Form.matcher_finds` puts this together: the places
that a form's matcher lists are those that the form spans to, and the whole text is matched if and
only if it is spanned (`Form.matchWhole_isSome`).
-/

namespace HttpRoutes.Expression

/-- The place behind the first `n` characters of a text. -/
def Cursor.after (text : List Char) (n : Nat) : Cursor := ⟨(text.take n).getLast?, text.drop n, n⟩

/-- What a matcher does on a text. It leads where `R` leads, except that from a place with a trail
it may leave out what is owed to the trail: that which can be reached from a point passed before. -/
structure Explains (text : List Char) (m : Matcher) (R : Nat → Nat → Prop)
    (owed : Trail → Nat → Nat → Prop) : Prop where
  clear : ∀ i j, ¬ owed .clear i j
  sound : ∀ i t, ∀ o ∈ m (.after text i) t,
    o.cursor = .after text o.cursor.pos ∧ R i o.cursor.pos
  complete : ∀ i j t, R i j → (∃ o ∈ m (.after text i) t, o.cursor.pos = j) ∨ owed t i j
  kept : ∀ i t, ∀ o ∈ m (.after text i) t, ∀ j, owed o.trail o.cursor.pos j → R i j ∨ owed t i j

/-- On the text the matcher finds the places that `R` leads to. -/
def Finds (text : List Char) (m : Matcher) (R : Nat → Nat → Prop) : Prop :=
  ∃ owed, Explains text m R owed

/-- What a trail owes after a step that may have moved is owed without the step, at the place where
nothing moved. -/
theorem Explains.of_keptIf {text : List Char} {m : Matcher} {R : Nat → Nat → Prop}
    {owed : Trail → Nat → Nat → Prop} (h : Explains text m R owed) {t : Trail} {p i j : Nat}
    (howed : owed (t.keptIf (decide (p = i))) p j) : p = i ∧ owed t i j := by
  by_cases hmoved : p = i
  · subst hmoved
    exact ⟨rfl, by simpa [Trail.keptIf] using howed⟩
  · rw [Trail.keptIf, if_neg (by simpa using hmoved)] at howed
    exact absurd howed (h.clear _ _)

theorem Finds.congr {text : List Char} {m : Matcher} {R S : Nat → Nat → Prop}
    (h : Finds text m R) (hRS : ∀ i j, R i j ↔ S i j) : Finds text m S := by
  have hsame : R = S := by
    funext i j
    exact propext (hRS i j)
  exact hsame ▸ h

/-! ## Characters and conditions -/

theorem Cursor.after_succ {text : List Char} {n : Nat} {c : Char} {rest : List Char}
    (h : text.drop n = c :: rest) : Cursor.after text (n + 1) = ⟨some c, rest, n + 1⟩ := by
  have hlt : n < text.length := by
    have hlength := congrArg List.length h
    rw [List.length_drop, List.length_cons] at hlength
    omega
  rw [List.drop_eq_getElem_cons hlt, List.cons.injEq] at h
  obtain ⟨rfl, rfl⟩ := h
  rw [Cursor.after, List.take_succ_eq_append_getElem hlt, List.getLast?_concat]

theorem keepFirst_pos {seen : Positions} {os : List Outcome} {o : Outcome} (h : o ∈ os)
    (hseen : seen.contains o.cursor.pos = false) :
    ∃ o' ∈ keepFirst seen os, o'.cursor.pos = o.cursor.pos := by
  induction os generalizing seen with
  | nil => cases h
  | cons p os ih =>
    rw [keepFirst]
    by_cases hp : seen.contains p.cursor.pos = true
    · rw [if_pos hp]
      rcases List.mem_cons.1 h with rfl | h
      · rw [hseen] at hp; cases hp
      · exact ih h hseen
    · rw [if_neg hp]
      by_cases hsame : p.cursor.pos = o.cursor.pos
      · exact ⟨p, List.mem_cons_self, hsame⟩
      · rcases List.mem_cons.1 h with rfl | h
        · exact absurd rfl hsame
        · have hseen' : (seen.insert p.cursor.pos).contains o.cursor.pos = false := by
            simp [hseen, hsame]
          obtain ⟨o', ho', hpos⟩ := ih h hseen'
          exact ⟨o', List.mem_cons_of_mem _ ho', hpos⟩

/-- Only the places count, so leaving out later ways to a place loses none. -/
theorem exists_keepFirst {os : List Outcome} {j : Nat} (h : ∃ o ∈ os, o.cursor.pos = j) :
    ∃ o ∈ keepFirst .empty os, o.cursor.pos = j := by
  obtain ⟨o, ho, rfl⟩ := h
  exact keepFirst_pos ho (by simp)

namespace Matcher

variable {text : List Char} {a b m : Matcher} {R S : Nat → Nat → Prop}

/-- A matcher without points of choice owes nothing. -/
theorem finds_of_iff (hsound : ∀ i t, ∀ o ∈ m (.after text i) t,
      o.cursor = .after text o.cursor.pos ∧ R i o.cursor.pos)
    (hcomplete : ∀ i j t, R i j → ∃ o ∈ m (.after text i) t, o.cursor.pos = j) :
    Finds text m R := by
  refine ⟨fun _ _ _ => False, fun _ _ h => h, hsound, ?_, fun _ _ _ _ _ h => h.elim⟩
  intro i j t hij
  exact .inl (hcomplete i j t hij)

theorem finds_nothing : Finds text nothing (· = ·) := by
  refine finds_of_iff ?_ ?_
  · intro i t o ho
    rw [List.mem_singleton.1 ho]
    exact ⟨rfl, rfl⟩
  · rintro i j t rfl
    exact ⟨_, List.mem_singleton_self _, rfl⟩

theorem finds_one (test : Char → Bool) :
    Finds text (one test) fun i j => j = i + 1 ∧ ∃ c, text[i]? = some c ∧ test c = true := by
  refine finds_of_iff ?_ ?_
  · intro i t o ho
    unfold one at ho
    split at ho
    · exact absurd ho (by simp)
    · next c rest hrest =>
      have hget : text[i]? = some c := by
        rw [← List.head?_drop]
        exact (congrArg List.head? hrest).trans rfl
      split at ho
      · next htest =>
        rw [List.mem_singleton.1 ho]
        exact ⟨(Cursor.after_succ hrest).symm, rfl, c, hget, htest⟩
      · exact absurd ho (by simp)
  · rintro i j t ⟨rfl, c, hc, htest⟩
    obtain ⟨hlt, rfl⟩ := List.getElem?_eq_some_iff.1 hc
    have hmatch : one test (.after text i) t =
        [⟨⟨some text[i], text.drop (i + 1), i + 1⟩, [], .clear⟩] := by
      have hrest : (Cursor.after text i).rest = text[i] :: text.drop (i + 1) :=
        List.drop_eq_getElem_cons hlt
      unfold one
      rw [hrest]
      exact if_pos htest
    exact ⟨_, hmatch ▸ List.mem_singleton_self _, rfl⟩

theorem advance_eq_some {s : List Char} {i : Nat} {c : Cursor} :
    advance? s (.after text i) = some c ↔
      s <+: text.drop i ∧ c = .after text (i + s.length) := by
  induction s generalizing i with
  | nil => simp [advance?, eq_comm]
  | cons ch s ih =>
    unfold advance?
    cases hrest : text.drop i with
    | nil => simp [Cursor.after, hrest]
    | cons x rest =>
      have hdrop : text.drop (i + 1) = rest := by
        rw [← List.tail_drop, hrest]
        rfl
      have hlength : i + (ch :: s).length = i + 1 + s.length := by
        rw [List.length_cons]
        omega
      simp only [Cursor.after, hrest]
      rw [hlength, List.cons_prefix_cons]
      by_cases hx : ch = x
      · have hstep := Cursor.after_succ hrest
        simp only [Cursor.after] at hstep
        subst hx
        rw [if_pos rfl, ← hstep, ← hdrop]
        simpa [Cursor.after] using ih (i := i + 1)
      · simp [hx]

theorem finds_literal (s : List Char) :
    Finds text (literal s) fun i j => j = i + s.length ∧ s <+: text.drop i := by
  refine finds_of_iff ?_ ?_
  · intro i t o ho
    unfold literal at ho
    split at ho
    · exact absurd ho (by simp)
    · next c hc =>
      obtain ⟨hhead, rfl⟩ := advance_eq_some.1 hc
      rw [List.mem_singleton.1 ho]
      exact ⟨rfl, rfl, hhead⟩
  · rintro i j t ⟨rfl, hhead⟩
    unfold literal
    rw [advance_eq_some.2 ⟨hhead, rfl⟩]
    exact ⟨_, List.mem_singleton_self _, rfl⟩

theorem finds_look (l : Look) :
    Finds text (look l) fun i j =>
      i = j ∧ l.holds (text.take i).getLast? (text.drop i).head? = true := by
  refine finds_of_iff ?_ ?_
  · intro i t o ho
    unfold look at ho
    split at ho
    · next hholds =>
      rw [List.mem_singleton.1 ho]
      exact ⟨rfl, rfl, hholds⟩
    · exact absurd ho (by simp)
  · rintro i j t ⟨rfl, hholds⟩
    have hmatch : look l (.after text i) t = [⟨.after text i, [], t⟩] := if_pos hholds
    exact ⟨_, hmatch ▸ List.mem_singleton_self _, rfl⟩

/-! ## Combinations -/

theorem finds_seq (ha : Finds text a R) (hb : Finds text b S) :
    Finds text (a.seq b) fun i j => ∃ k, R i k ∧ S k j := by
  obtain ⟨P, ha⟩ := ha
  obtain ⟨Q, hb⟩ := hb
  refine ⟨fun t i j => (∃ k, P t.left i k ∧ S k j) ∨ Q t.right i j, ?_, ?_, ?_, ?_⟩
  · rintro i j (⟨k, hk, -⟩ | h)
    · exact ha.clear i k hk
    · exact hb.clear i j h
  · intro i t o ho
    obtain ⟨first, hfirst, ho⟩ := List.mem_flatMap.1 (mem_of_mem_keepFirst ho)
    obtain ⟨second, hsecond, rfl⟩ := List.mem_map.1 ho
    obtain ⟨hcursor, hR⟩ := ha.sound _ _ _ hfirst
    rw [hcursor] at hsecond
    obtain ⟨hcursor', hS⟩ := hb.sound _ _ _ hsecond
    exact ⟨hcursor', _, hR, hS⟩
  · rintro i j t ⟨k, hik, hkj⟩
    rcases ha.complete i k t.left hik with ⟨first, hfirst, rfl⟩ | howed
    · rcases hb.complete _ j (t.right.keptIf (first.cursor.pos = i)) hkj with
        ⟨second, hsecond, rfl⟩ | howed
      · rw [← (ha.sound _ _ _ hfirst).1] at hsecond
        exact .inl (exists_keepFirst ⟨_, List.mem_flatMap.2
          ⟨first, hfirst, List.mem_map_of_mem hsecond⟩, rfl⟩)
      · -- The trail in the second part is kept only where the first part has not moved.
        exact .inr (.inr (hb.of_keptIf howed).2)
    · exact .inr (.inl ⟨k, howed, hkj⟩)
  · intro i t o ho j howed
    obtain ⟨first, hfirst, ho⟩ := List.mem_flatMap.1 (mem_of_mem_keepFirst ho)
    obtain ⟨second, hsecond, rfl⟩ := List.mem_map.1 ho
    obtain ⟨hcursor, hR⟩ := ha.sound _ _ _ hfirst
    rw [hcursor] at hsecond
    rcases howed with ⟨k, howed, hkj⟩ | howed
    · have howed := (ha.of_keptIf howed).2
      rcases ha.kept _ _ _ hfirst k howed with hik | howed
      · exact .inl ⟨k, hik, hkj⟩
      · exact .inr (.inl ⟨k, howed, hkj⟩)
    · rcases hb.kept _ _ _ hsecond j howed with hS | howed
      · exact .inl ⟨_, hR, hS⟩
      · exact .inr (.inr (hb.of_keptIf howed).2)

theorem finds_alt (ha : Finds text a R) (hb : Finds text b S) :
    Finds text (a.alt b) fun i j => R i j ∨ S i j := by
  obtain ⟨P, ha⟩ := ha
  obtain ⟨Q, hb⟩ := hb
  refine ⟨fun t i j => (t.here = true ∧ (R i j ∨ S i j)) ∨ P t.left i j ∨ Q t.right i j,
    ?_, ?_, ?_, ?_⟩
  · rintro i j (⟨h, -⟩ | h | h)
    · cases h
    · exact ha.clear i j h
    · exact hb.clear i j h
  · intro i t o ho
    unfold alt at ho
    split at ho
    · exact absurd ho (by simp)
    · rcases List.mem_append.1 (mem_of_mem_keepFirst ho) with ho | ho
      · obtain ⟨first, hfirst, rfl⟩ := List.mem_map.1 ho
        have hsound := ha.sound _ _ _ hfirst
        exact ⟨hsound.1, .inl hsound.2⟩
      · obtain ⟨second, hsecond, rfl⟩ := List.mem_map.1 ho
        have hsound := hb.sound _ _ _ hsecond
        exact ⟨hsound.1, .inr hsound.2⟩
  · intro i j t hij
    unfold alt
    by_cases hhere : t.here = true
    · exact .inr (.inl ⟨hhere, hij⟩)
    rw [if_neg hhere]
    rcases hij with hij | hij
    · rcases ha.complete i j t.left hij with ⟨first, hfirst, rfl⟩ | howed
      · exact .inl (exists_keepFirst
          ⟨_, List.mem_append_left _ (List.mem_map_of_mem hfirst), rfl⟩)
      · exact .inr (.inr (.inl howed))
    · rcases hb.complete i j t.right hij with ⟨second, hsecond, rfl⟩ | howed
      · exact .inl (exists_keepFirst
          ⟨_, List.mem_append_right _ (List.mem_map_of_mem hsecond), rfl⟩)
      · exact .inr (.inr (.inr howed))
  · intro i t o ho j howed
    unfold alt at ho
    split at ho
    · exact absurd ho (by simp)
    · rcases List.mem_append.1 (mem_of_mem_keepFirst ho) with ho | ho
      · obtain ⟨first, hfirst, rfl⟩ := List.mem_map.1 ho
        rcases howed with ⟨hunmoved, hij⟩ | howed | howed
        · have hpos : first.cursor.pos = i := of_decide_eq_true hunmoved
          exact .inl (hpos ▸ hij)
        · rcases ha.kept _ _ _ hfirst j howed with hR | howed
          · exact .inl (.inl hR)
          · exact .inr (.inr (.inl howed))
        · exact .inr (.inr (.inr (hb.of_keptIf howed).2))
      · obtain ⟨second, hsecond, rfl⟩ := List.mem_map.1 ho
        rcases howed with ⟨hunmoved, hij⟩ | howed | howed
        · have hpos : second.cursor.pos = i := of_decide_eq_true hunmoved
          exact .inl (hpos ▸ hij)
        · exact .inr (.inr (.inl (ha.of_keptIf howed).2))
        · rcases hb.kept _ _ _ hsecond j howed with hS | howed
          · exact .inl (.inr hS)
          · exact .inr (.inr (.inr howed))

theorem finds_capture (group : Nat) (hm : Finds text m R) : Finds text (m.capture group) R := by
  obtain ⟨P, hm⟩ := hm
  refine ⟨P, hm.clear, ?_, ?_, ?_⟩
  · intro i t o ho
    obtain ⟨inner, hinner, rfl⟩ := List.mem_map.1 ho
    exact hm.sound _ _ inner hinner
  · intro i j t hij
    rcases hm.complete i j t hij with ⟨inner, hinner, rfl⟩ | howed
    · exact .inl ⟨_, List.mem_map_of_mem hinner, rfl⟩
    · exact .inr howed
  · intro i t o ho
    obtain ⟨inner, hinner, rfl⟩ := List.mem_map.1 ho
    exact hm.kept _ _ inner hinner

theorem mem_optional {greedy : Bool} {c : Cursor} {t : Trail} {o : Outcome}
    {taken : List Outcome} :
    (o ∈ if greedy = true then taken ++ [⟨c, [], .node true t.left .clear⟩]
      else [⟨c, [], .node true t.left .clear⟩] ++ taken) ↔
    o ∈ taken ∨ o = ⟨c, [], .node true t.left .clear⟩ := by
  cases greedy <;> simp [or_comm]

theorem finds_optional (greedy : Bool) (hm : Finds text m R) :
    Finds text (optional greedy m) fun i j => i = j ∨ R i j := by
  obtain ⟨P, hm⟩ := hm
  refine ⟨fun t i j => (t.here = true ∧ (i = j ∨ R i j)) ∨ P t.left i j, ?_, ?_, ?_, ?_⟩
  · rintro i j (⟨h, -⟩ | h)
    · cases h
    · exact hm.clear i j h
  · intro i t o ho
    unfold optional at ho
    split at ho
    · exact absurd ho (by simp)
    · rcases mem_optional.1 (mem_of_mem_keepFirst ho) with ho | rfl
      · obtain ⟨taken, htaken, rfl⟩ := List.mem_map.1 ho
        have hsound := hm.sound _ _ _ htaken
        exact ⟨hsound.1, .inr hsound.2⟩
      · exact ⟨rfl, .inl rfl⟩
  · intro i j t hij
    unfold optional
    by_cases hhere : t.here = true
    · exact .inr (.inl ⟨hhere, hij⟩)
    rw [if_neg hhere]
    rcases hij with rfl | hij
    · exact .inl (exists_keepFirst ⟨_, mem_optional.2 (.inr rfl), rfl⟩)
    · rcases hm.complete i j t.left hij with ⟨taken, htaken, rfl⟩ | howed
      · exact .inl (exists_keepFirst
          ⟨_, mem_optional.2 (.inl (List.mem_map_of_mem htaken)), rfl⟩)
      · exact .inr (.inr howed)
  · intro i t o ho j howed
    unfold optional at ho
    split at ho
    · exact absurd ho (by simp)
    · rcases mem_optional.1 (mem_of_mem_keepFirst ho) with ho | rfl
      · obtain ⟨taken, htaken, rfl⟩ := List.mem_map.1 ho
        rcases howed with ⟨hunmoved, hij⟩ | howed
        · have hpos : taken.cursor.pos = i := of_decide_eq_true hunmoved
          exact .inl (hpos ▸ hij)
        · rcases hm.kept _ _ _ htaken j howed with hR | howed
          · exact .inl (.inr hR)
          · exact .inr (.inr howed)
      · rcases howed with ⟨-, hij⟩ | howed
        · exact .inl hij
        · exact .inr (.inr howed)

/-! ## Loops -/

/-- So many rounds as one likes. -/
def Star (R : Nat → Nat → Prop) (i j : Nat) : Prop := ∃ n, Rounds R n i j

/-- What has happened to a sweep when a loop's point of choice has been reached from some places,
each with a trail: all it had seen is still seen, every place seen since is left as well, and from
there each round leads to a place seen, or to one that the trail at a start owes. -/
structure Covers (R : Nat → Nat → Prop) (owed : Trail → Nat → Nat → Prop)
    (starts : List (Nat × Trail)) (s s' : Sweep) : Prop where
  visited : ∀ p, s.visited.contains p = true → s'.visited.contains p = true
  found : ∀ o ∈ s.found, o ∈ s'.found
  reached : ∀ x ∈ starts, s'.visited.contains x.1 = true
  left : ∀ p, s'.visited.contains p = true →
    s.visited.contains p = true ∨ ∃ o ∈ s'.found, o.cursor.pos = p
  closed : ∀ p, s'.visited.contains p = true → s.visited.contains p = true ∨
    ∀ k, R p k → s'.visited.contains k = true ∨ ∃ x ∈ starts, owed x.2 x.1 k

namespace Covers

variable {owed : Trail → Nat → Nat → Prop} {starts : List (Nat × Trail)} {s s' s'' : Sweep}

theorem nothing (s : Sweep) : Covers R owed [] s s where
  visited := fun _ h => h
  found := fun _ h => h
  reached := by simp
  left := fun _ h => .inl h
  closed := fun _ h => .inl h

theorem append {more : List (Nat × Trail)} (h : Covers R owed starts s s')
    (h' : Covers R owed more s' s'') : Covers R owed (starts ++ more) s s'' where
  visited := fun p hp => h'.visited p (h.visited p hp)
  found := fun o ho => h'.found o (h.found o ho)
  reached := by
    intro x hx
    rcases List.mem_append.1 hx with hx | hx
    · exact h'.visited _ (h.reached x hx)
    · exact h'.reached x hx
  left := by
    intro p hp
    rcases h'.left p hp with hp | hp
    · rcases h.left p hp with hp | ⟨o, ho, hpos⟩
      · exact .inl hp
      · exact .inr ⟨o, h'.found o ho, hpos⟩
    · exact .inr hp
  closed := by
    intro p hp
    rcases h'.closed p hp with hp | hrounds
    · rcases h.closed p hp with hp | hrounds
      · exact .inl hp
      · right
        intro k hk
        rcases hrounds k hk with hk | ⟨x, hx, howed⟩
        · exact .inl (h'.visited k hk)
        · exact .inr ⟨x, List.mem_append_left _ hx, howed⟩
    · right
      intro k hk
      rcases hrounds k hk with hk | ⟨x, hx, howed⟩
      · exact .inl hk
      · exact .inr ⟨x, List.mem_append_right _ hx, howed⟩

/-- A place that has been reached before is left alone. -/
theorem seen {i : Nat} (t : Trail) (hi : s.visited.contains i = true) :
    Covers R owed [(i, t)] s s where
  visited := fun _ h => h
  found := fun _ h => h
  reached := fun _ hx => List.mem_singleton.1 hx ▸ hi
  left := fun _ h => .inl h
  closed := fun _ h => .inl h

/-- The place and the trail of an outcome. -/
def start (o : Outcome) : Nat × Trail := (o.cursor.pos, o.trail)

/-- Going on from several outcomes, one after the other. -/
theorem foldl {step : Sweep → Outcome → Sweep} {os : List Outcome} (s : Sweep)
    (h : ∀ o ∈ os, ∀ u : Sweep, (∀ p, s.visited.contains p = true → u.visited.contains p = true) →
      Covers R owed [start o] u (step u o)) :
    Covers R owed (os.map start) s (os.foldl step s) := by
  induction os generalizing s with
  | nil => exact nothing s
  | cons o os ih =>
    have hfirst := h o List.mem_cons_self s fun _ hp => hp
    refine hfirst.append (ih (step s o) ?_)
    intro o' ho' u hu
    exact h o' (List.mem_cons_of_mem _ ho') u fun p hp => hu p (hfirst.visited p hp)

variable {t : Trail} {i : Nat}

/-- Where the loop goes on from all outcomes of its body, nothing is owed but what was owed before
the body. -/
theorem of_body (hm : Explains text m R owed)
    (h : Covers R owed ((m (.after text i) t).map start) s s') :
    (∀ k, R i k → s'.visited.contains k = true ∨ owed t i k) ∧
      ∀ p, s'.visited.contains p = true → s.visited.contains p = true ∨
        ∀ k, R p k → s'.visited.contains k = true ∨ owed t i k := by
  have hround : ∀ k, R i k → s'.visited.contains k = true ∨ owed t i k := by
    intro k hk
    rcases hm.complete i k t hk with ⟨o, ho, rfl⟩ | howed
    · exact .inl (h.reached _ (List.mem_map_of_mem ho))
    · exact .inr howed
  refine ⟨hround, ?_⟩
  intro p hp
  rcases h.closed p hp with hp | hrounds
  · exact .inl hp
  · right
    intro k hk
    rcases hrounds k hk with hk | ⟨x, hx, howed⟩
    · exact .inl hk
    · obtain ⟨o, ho, rfl⟩ := List.mem_map.1 hx
      rcases hm.kept i t o ho k howed with hk | howed
      · exact hround k hk
      · exact .inr howed

/-- Reaching a place for the first time, the loop stops there and goes on from all outcomes of its
body, in either order. -/
theorem enter (hm : Explains text m R owed) {entered again after : Sweep}
    (h : Covers R owed ((m (.after text i) t).map start) entered again)
    (hentered : entered.visited = s.visited.insert i) (hkept : ∀ o ∈ s.found, o ∈ entered.found)
    (hafter : after.visited = again.visited) (hfound : ∀ o ∈ again.found, o ∈ after.found)
    (hstop : ∃ o ∈ after.found, o.cursor.pos = i) : Covers R owed [(i, t)] s after := by
  have hinsert (p : Nat) :
      entered.visited.contains p = true ↔ s.visited.contains p = true ∨ i = p := by
    simp [hentered]
  obtain ⟨hround, hclosed⟩ := h.of_body hm
  refine ⟨?_, ?_, ?_, ?_, ?_⟩
  · intro p hp
    exact hafter ▸ h.visited p ((hinsert p).2 (.inl hp))
  · intro o ho
    exact hfound o (h.found o (hkept o ho))
  · intro x hx
    rw [List.mem_singleton.1 hx, hafter]
    exact h.visited i ((hinsert i).2 (.inr rfl))
  · intro p hp
    rw [hafter] at hp
    rcases h.left p hp with hp | ⟨o, ho, hpos⟩
    · rcases (hinsert p).1 hp with hp | rfl
      · exact .inl hp
      · exact .inr hstop
    · exact .inr ⟨o, hfound o ho, hpos⟩
  · intro p hp
    rw [hafter] at hp ⊢
    have hrounds : s.visited.contains p = true ∨
        ∀ k, R p k → again.visited.contains k = true ∨ owed t i k := by
      rcases hclosed p hp with hp | hrounds
      · rcases (hinsert p).1 hp with hp | rfl
        · exact .inl hp
        · exact .inr hround
      · exact .inr hrounds
    simpa using hrounds

end Covers

theorem covers_sweep (greedy : Bool) {owed : Trail → Nat → Nat → Prop}
    (hm : Explains text m R owed) (hR : Forward text.length R) (n : Nat) {i : Nat}
    {captures : List Capture} {t : Trail} {s : Sweep}
    (hfuel : s.visited.contains i = true ∨ text.length < n + i ∧ 0 < n) :
    Covers R owed [(i, t)] s (sweep m greedy n (.after text i) captures t s) := by
  induction n generalizing i captures t s with
  | zero =>
    rcases hfuel with hi | ⟨-, h⟩
    · exact .seen t hi
    · omega
  | succ n ih =>
    rw [sweep]
    by_cases hseen : s.visited.contains (Cursor.after text i).pos = true
    · rw [if_pos hseen]
      exact .seen t hseen
    rw [if_neg hseen]
    have hlength : text.length < n + 1 + i := by
      rcases hfuel with hi | ⟨h, -⟩
      · exact absurd hi hseen
      · exact h
    -- An outcome of the body is at the place that has just been reached, or further on in the text.
    have hround (u : Sweep) (hu : u.visited = s.visited.insert i) :
        Covers R owed ((m (.after text i) t).map Covers.start) u
          ((m (.after text i) t).foldl
            (fun s o => sweep m greedy n o.cursor (o.captures ++ captures) o.trail s) u) := by
      refine Covers.foldl u ?_
      intro o ho v hv
      obtain ⟨hcursor, hstep⟩ := hm.sound i t o ho
      have hforward := hR _ _ hstep
      show Covers R owed [(o.cursor.pos, o.trail)] v
        (sweep m greedy n o.cursor (o.captures ++ captures) o.trail v)
      have hfuel : v.visited.contains o.cursor.pos = true ∨
          text.length < n + o.cursor.pos ∧ 0 < n := by
        by_cases hmoved : o.cursor.pos = i
        · exact .inl (hv _ (by simp [hu, hmoved]))
        · exact .inr ⟨by omega, by omega⟩
      have hsweep : Covers R owed [(o.cursor.pos, o.trail)] v (sweep m greedy n
          (.after text o.cursor.pos) (o.captures ++ captures) o.trail v) := ih hfuel
      rwa [← hcursor] at hsweep
    dsimp only
    split
    · exact (hround ⟨s.visited.insert i, s.found⟩ rfl).enter hm rfl (fun _ ho => ho) rfl
        (fun _ ho => List.mem_cons_of_mem _ ho) ⟨_, List.mem_cons_self, rfl⟩
    · have h := hround ⟨s.visited.insert i,
        ⟨.after text i, captures, .node true t .clear⟩ :: s.found⟩ rfl
      exact h.enter hm rfl (fun _ ho => List.mem_cons_of_mem _ ho) rfl (fun _ ho => ho)
        ⟨_, h.found _ List.mem_cons_self, rfl⟩

/-- What is true of all that is found stays true if every step keeps it so. -/
theorem found_foldl {p : Outcome → Prop} {step : Sweep → Outcome → Sweep} {os : List Outcome}
    (h : ∀ o ∈ os, ∀ u : Sweep, (∀ x ∈ u.found, p x) → ∀ x ∈ (step u o).found, p x) {s : Sweep}
    (hs : ∀ x ∈ s.found, p x) : ∀ x ∈ (os.foldl step s).found, p x := by
  induction os generalizing s with
  | nil => exact hs
  | cons o os ih =>
    exact ih (fun o ho => h o (List.mem_cons_of_mem _ ho)) (h o List.mem_cons_self s hs)

/-- The outcome is a stop of a loop that arrived there, and all that is told of the places and
trails where the loop arrives is true of it. -/
def Stopped (text : List Char) (Arrival : Nat → Trail → Prop) (o : Outcome) : Prop :=
  o.cursor = .after text o.cursor.pos ∧
    ∃ t, Arrival o.cursor.pos t ∧ o.trail = .node true t .clear

theorem found_sweep (greedy : Bool) {Arrival : Nat → Trail → Prop}
    (hstep : ∀ i t, Arrival i t → ∀ o ∈ m (.after text i) t,
      o.cursor = .after text o.cursor.pos ∧ Arrival o.cursor.pos o.trail) (n : Nat) {i : Nat}
    {captures : List Capture} {t : Trail} {s : Sweep} (hi : Arrival i t)
    (hs : ∀ o ∈ s.found, Stopped text Arrival o) :
    ∀ o ∈ (sweep m greedy n (.after text i) captures t s).found, Stopped text Arrival o := by
  induction n generalizing i captures t s with
  | zero => exact hs
  | succ n ih =>
    have hround (u : Sweep) (hu : ∀ o ∈ u.found, Stopped text Arrival o) :
        ∀ o ∈ ((m (.after text i) t).foldl
          (fun s o => sweep m greedy n o.cursor (o.captures ++ captures) o.trail s) u).found,
          Stopped text Arrival o := by
      refine found_foldl ?_ hu
      intro o ho v hv
      obtain ⟨hcursor, harrival⟩ := hstep i t hi o ho
      have hsweep : ∀ x ∈ (sweep m greedy n (.after text o.cursor.pos) (o.captures ++ captures)
          o.trail v).found, Stopped text Arrival x := ih harrival hv
      rwa [← hcursor] at hsweep
    have hstop (u : Sweep) (hu : ∀ o ∈ u.found, Stopped text Arrival o) :
        ∀ o ∈ (⟨.after text i, captures, .node true t .clear⟩ : Outcome) :: u.found,
          Stopped text Arrival o := by
      intro o ho
      rcases List.mem_cons.1 ho with rfl | ho
      · exact ⟨rfl, t, hi, rfl⟩
      · exact hu o ho
    rw [sweep]
    split
    · exact hs
    · dsimp only
      split
      · exact hstop _ (hround ⟨s.visited.insert i, s.found⟩ hs)
      · exact hround _ (hstop ⟨s.visited.insert i, s.found⟩ hs)

/-- What a loop owes a trail: what lies behind its own point of choice if that has been passed, and
what lies behind a place that its body owes. -/
def loopOwed (R : Nat → Nat → Prop) (owed : Trail → Nat → Nat → Prop) (t : Trail) (i j : Nat) :
    Prop :=
  (t.here = true ∧ Star R i j) ∨ ∃ k, owed t.left i k ∧ Star R k j

theorem Star.refl (i : Nat) : Star R i i := ⟨0, rfl⟩

theorem Star.tail {i k j : Nat} (h : Star R i k) (hkj : R k j) : Star R i j := by
  obtain ⟨n, hn⟩ := h
  exact ⟨n + 1, k, hn, hkj⟩

/-- Any number of rounds is none, or a first one and any number behind it. -/
theorem star_iff {i j : Nat} : Star R i j ↔ i = j ∨ ∃ k, R i k ∧ Star R k j := by
  constructor
  · rintro ⟨n, hij⟩
    cases n with
    | zero => exact .inl hij
    | succ n =>
      obtain ⟨k, hik, hkj⟩ := rounds_succ.1 hij
      exact .inr ⟨k, hik, n, hkj⟩
  · rintro (rfl | ⟨k, hik, n, hkj⟩)
    · exact .refl i
    · exact ⟨n + 1, rounds_succ.2 ⟨k, hik, hkj⟩⟩

/-- A number of rounds and any number behind them are at least that number. -/
theorem rounds_star {least i j : Nat} :
    (∃ k, Rounds R least i k ∧ Star R k j) ↔ ∃ n, least ≤ n ∧ Rounds R n i j := by
  constructor
  · rintro ⟨k, hik, l, hkj⟩
    exact ⟨least + l, by omega, rounds_add.2 ⟨k, hik, hkj⟩⟩
  · rintro ⟨n, hleast, hij⟩
    obtain ⟨l, rfl⟩ := Nat.exists_eq_add_of_le hleast
    obtain ⟨k, hik, hkj⟩ := rounds_add.1 hij
    exact ⟨k, hik, l, hkj⟩

/-- The rounds from a place seen lead to places seen, unless they pass a place that is owed. -/
theorem seen_or_owed {owed : Trail → Nat → Nat → Prop} {t : Trail} {i p j : Nat} {s : Sweep}
    (hclosed : ∀ p, s.visited.contains p = true → (t.here = true ∧ p = i) ∨
      ∀ k, R p k → s.visited.contains k = true ∨ owed t.left i k)
    (hp : s.visited.contains p = true ∨ owed t.left i p) (h : Star R p j) :
    s.visited.contains j = true ∨ loopOwed R owed t i j := by
  obtain ⟨n, hn⟩ := h
  induction n generalizing j with
  | zero =>
    obtain rfl : p = j := hn
    rcases hp with hp | howed
    · exact .inl hp
    · exact .inr (.inr ⟨p, howed, .refl p⟩)
  | succ n ih =>
    obtain ⟨k, hk, hkj⟩ := hn
    rcases ih hk with hseen | ⟨hhere, hstar⟩ | ⟨l, howed, hstar⟩
    · rcases hclosed k hseen with ⟨hhere, rfl⟩ | hrounds
      · exact .inr (.inl ⟨hhere, (Star.refl k).tail hkj⟩)
      · rcases hrounds j hkj with hj | howed
        · exact .inl hj
        · exact .inr (.inr ⟨j, howed, .refl j⟩)
    · exact .inr (.inl ⟨hhere, hstar.tail hkj⟩)
    · exact .inr (.inr ⟨l, howed, hstar.tail hkj⟩)

theorem contains_loopStart {t : Trail} {i p : Nat} :
    (loopStart (.after text i) t).visited.contains p = true ↔ t.here = true ∧ p = i := by
  unfold loopStart
  by_cases hhere : t.here = true
  · simp [hhere, Cursor.after, eq_comm]
  · simp [hhere]

/-- Where a loop may arrive when it started at `i` with the trail `t`: at the places that `L` leads
to, where the trail owes no more than it did at the start. -/
def Arrival (L : Nat → Nat → Prop) (owed : Trail → Nat → Nat → Prop) (t : Trail) (i p : Nat)
    (t' : Trail) : Prop :=
  L i p ∧ ∀ k, owed t' p k → L i k ∨ owed t.left i k

theorem Arrival.step {L : Nat → Nat → Prop} {owed : Trail → Nat → Nat → Prop}
    (hm : Explains text m R owed) (hL : ∀ i k j, L i k → R k j → L i j) {t : Trail} {i : Nat} :
    ∀ p t', Arrival L owed t i p t' → ∀ o ∈ m (.after text p) t',
      o.cursor = .after text o.cursor.pos ∧ Arrival L owed t i o.cursor.pos o.trail := by
  rintro p t' ⟨hp, htrail⟩ o ho
  obtain ⟨hcursor, hround⟩ := hm.sound p t' o ho
  refine ⟨hcursor, hL i p _ hp hround, ?_⟩
  intro k howed
  rcases hm.kept p t' o ho k howed with hk | howed
  · exact .inl (hL i p k hp hk)
  · exact htrail k howed

/-- A loop finds what it may arrive at if its sweep has seen all that. -/
theorem finds_loop {loop : Matcher} {L : Nat → Nat → Prop} {owed : Trail → Nat → Nat → Prop}
    (hm : Explains text m R owed) (hL : ∀ i k j, L i k → R k j → L i j)
    (h : ∀ i t, ∃ s starts, loop (.after text i) t = s.found.reverse ∧
      Covers R owed starts (loopStart (.after text i) t) s ∧
      (∀ o ∈ s.found, Stopped text (Arrival L owed t i) o) ∧
      ∀ j, L i j → s.visited.contains j = true ∨ loopOwed R owed t i j) :
    Finds text loop L := by
  refine ⟨loopOwed R owed, ?_, ?_, ?_, ?_⟩
  · rintro i j (⟨h, -⟩ | ⟨k, h, -⟩)
    · cases h
    · exact hm.clear i k h
  · intro i t o ho
    obtain ⟨s, starts, hloop, -, hfound, -⟩ := h i t
    rw [hloop, List.mem_reverse] at ho
    obtain ⟨hcursor, t', harrival, -⟩ := hfound o ho
    exact ⟨hcursor, harrival.1⟩
  · intro i j t hij
    obtain ⟨s, starts, hloop, hcovers, -, hseen⟩ := h i t
    rcases hseen j hij with hj | howed
    · rcases hcovers.left j hj with hj | ⟨o, ho, hpos⟩
      · -- The loop's point of choice was passed here before it was reached at all.
        obtain ⟨hhere, rfl⟩ := contains_loopStart.1 hj
        exact .inr (.inl ⟨hhere, .refl j⟩)
      · exact .inl ⟨o, hloop ▸ List.mem_reverse.2 ho, hpos⟩
    · exact .inr howed
  · intro i t o ho j howed
    obtain ⟨s, starts, hloop, -, hfound, -⟩ := h i t
    rw [hloop, List.mem_reverse] at ho
    obtain ⟨-, t', ⟨hL', htrail⟩, htrail'⟩ := hfound o ho
    have hrounds {k : Nat} (hk : L i k) (hstar : Star R k j) : L i j := by
      obtain ⟨n, hn⟩ := hstar
      clear howed
      induction n generalizing j with
      | zero => exact hn ▸ hk
      | succ n ih =>
        obtain ⟨l, hl, hlj⟩ := hn
        exact hL i l j (ih l hl) hlj
    rw [htrail'] at howed
    rcases howed with ⟨-, hstar⟩ | ⟨k, howed, hstar⟩
    · exact .inl (hrounds hL' hstar)
    · rcases htrail k howed with hk | howed
      · exact .inl (hrounds hk hstar)
      · exact .inr (.inr ⟨k, howed, hstar⟩)

theorem finds_many (greedy : Bool) (hm : Finds text m R) (hR : Forward text.length R) :
    Finds text (many greedy m) (Star R) := by
  obtain ⟨owed, hm⟩ := hm
  have hL : ∀ i k j, Star R i k → R k j → Star R i j := fun _ _ _ => Star.tail
  refine finds_loop hm hL fun i t => ?_
  have hfuel : text.length < (Cursor.after text i).rest.length + 1 + i := by
    simp only [Cursor.after, List.length_drop]
    omega
  have hcovers : Covers R owed [(i, t.left)] (loopStart (.after text i) t)
      (sweep m greedy ((Cursor.after text i).rest.length + 1) (.after text i) [] t.left
        (loopStart (.after text i) t)) :=
    covers_sweep greedy hm hR _ (.inr ⟨hfuel, by omega⟩)
  refine ⟨_, _, rfl, hcovers, ?_, ?_⟩
  · refine found_sweep greedy (Arrival.step hm hL) _ ⟨.refl i, fun k howed => .inr howed⟩ ?_
    simp [loopStart]
  · intro j hj
    refine seen_or_owed ?_ (.inl (hcovers.reached _ (List.mem_singleton_self _))) hj
    intro p hp
    rcases hcovers.closed p hp with hp | hrounds
    · exact .inl (contains_loopStart.1 hp)
    · right
      simpa using hrounds

theorem finds_atLeastOnce (greedy : Bool) (hm : Finds text m R) (hR : Forward text.length R) :
    Finds text (atLeastOnce greedy m) fun i j => ∃ k, R i k ∧ Star R k j := by
  obtain ⟨owed, hm⟩ := hm
  have hL : ∀ i k j, (∃ l, R i l ∧ Star R l k) → R k j → ∃ l, R i l ∧ Star R l j := by
    rintro i k j ⟨l, hl, hstar⟩ hkj
    exact ⟨l, hl, hstar.tail hkj⟩
  refine finds_loop hm hL fun i t => ?_
  -- The loop starts behind each first round.
  have hfirst (o : Outcome) (ho : o ∈ m (.after text i) t.left) :
      o.cursor = .after text o.cursor.pos ∧
        Arrival (fun i j => ∃ k, R i k ∧ Star R k j) owed t i o.cursor.pos o.trail := by
    obtain ⟨hcursor, hround⟩ := hm.sound _ _ o ho
    refine ⟨hcursor, ⟨_, hround, .refl _⟩, ?_⟩
    intro k howed
    rcases hm.kept _ _ o ho k howed with hk | howed
    · exact .inl ⟨k, hk, .refl k⟩
    · exact .inr howed
  have hcovers : Covers R owed ((m (.after text i) t.left).map Covers.start)
      (loopStart (.after text i) t) ((m (.after text i) t.left).foldl (fun s o =>
        sweep m greedy ((Cursor.after text i).rest.length + 1) o.cursor o.captures o.trail s)
        (loopStart (.after text i) t)) := by
    refine Covers.foldl _ ?_
    intro o ho u hu
    have hforward := hR _ _ (hm.sound _ _ o ho).2
    have hfuel : text.length < (Cursor.after text i).rest.length + 1 + o.cursor.pos := by
      simp only [Cursor.after, List.length_drop]
      omega
    have hsweep : Covers R owed [(o.cursor.pos, o.trail)] u (sweep m greedy
        ((Cursor.after text i).rest.length + 1) (.after text o.cursor.pos) o.captures o.trail u) :=
      covers_sweep greedy hm hR _ (.inr ⟨hfuel, by omega⟩)
    rwa [← (hfirst o ho).1] at hsweep
  refine ⟨_, _, rfl, hcovers, ?_, ?_⟩
  · refine found_foldl ?_ (by simp [loopStart])
    intro o ho u hu
    have hsweep : ∀ x ∈ (sweep m greedy ((Cursor.after text i).rest.length + 1)
        (.after text o.cursor.pos) o.captures o.trail u).found, Stopped text _ x :=
      found_sweep greedy (Arrival.step hm hL) _ (hfirst o ho).2 hu
    rwa [← (hfirst o ho).1] at hsweep
  · rintro j ⟨k, hk, hstar⟩
    obtain ⟨hround, hclosed⟩ := hcovers.of_body hm
    refine seen_or_owed ?_ (hround k hk) hstar
    intro p hp
    rcases hclosed p hp with hp | hrounds
    · exact .inl (contains_loopStart.1 hp)
    · exact .inr hrounds

/-! ## Repetition -/

theorem finds_times (hm : Finds text m R) (n : Nat) : Finds text (m.times n) (Rounds R n) := by
  induction n with
  | zero => exact finds_nothing
  | succ n ih =>
    cases n with
    | zero => exact hm.congr fun i j => rounds_one.symm
    | succ n => exact finds_seq ih hm

theorem finds_upTo (greedy : Bool) (hm : Finds text m R) (n : Nat) :
    Finds text (m.upTo greedy n) fun i j => ∃ l ≤ n, Rounds R l i j := by
  induction n with
  | zero => exact finds_nothing.congr fun i j => by simp [Rounds]
  | succ n ih =>
    refine (finds_optional greedy (finds_seq hm ih)).congr ?_
    intro i j
    constructor
    · rintro (rfl | ⟨k, hik, l, hl, hkj⟩)
      · exact ⟨0, by omega, rfl⟩
      · exact ⟨l + 1, by omega, rounds_succ.2 ⟨k, hik, hkj⟩⟩
    · rintro ⟨l, hl, hij⟩
      cases l with
      | zero => exact .inl hij
      | succ l =>
        obtain ⟨k, hik, hkj⟩ := rounds_succ.1 hij
        exact .inr ⟨k, hik, l, by omega, hkj⟩

/-- A number of rounds and any number behind them, whichever way the rounds are counted out. -/
theorem finds_from (least : Nat) (greedy consumes : Bool) (hm : Finds text m R)
    (hR : Forward text.length R) :
    Finds text (m.repeated least none greedy consumes)
      fun i j => ∃ k, Rounds R least i k ∧ Star R k j := by
  have hplus := finds_atLeastOnce greedy hm hR
  unfold repeated
  match least with
  | 0 =>
    have hnone (i j : Nat) : Star R i j ↔ ∃ k, Rounds R 0 i k ∧ Star R k j := by simp [Rounds]
    refine Finds.congr ?_ hnone
    dsimp only
    split
    · exact finds_many greedy hm hR
    · exact (finds_optional greedy hplus).congr fun i j => star_iff.symm
  | 1 =>
    refine hplus.congr fun i j => ?_
    simp only [rounds_one]
  | n + 2 =>
    refine (finds_seq (finds_times hm (n + 1)) hplus).congr ?_
    intro i j
    constructor
    · rintro ⟨k, hik, l, hkl, hlj⟩
      exact ⟨l, ⟨k, hik, hkl⟩, hlj⟩
    · rintro ⟨l, ⟨k, hik, hkl⟩, hlj⟩
      exact ⟨k, hik, l, hkl, hlj⟩

theorem finds_repeated (least : Nat) (most : Option Nat) (greedy consumes : Bool)
    (hm : Finds text m R) (hR : Forward text.length R) :
    Finds text (m.repeated least most greedy consumes) fun i j =>
      ∃ n, least ≤ n ∧ (∀ limit ∈ most, n ≤ max least limit) ∧ Rounds R n i j := by
  cases most with
  | some limit =>
    refine (finds_seq (finds_times hm least) (finds_upTo greedy hm (limit - least))).congr ?_
    intro i j
    constructor
    · rintro ⟨k, hik, l, hl, hkj⟩
      refine ⟨least + l, by omega, ?_, rounds_add.2 ⟨k, hik, hkj⟩⟩
      rintro limit' ⟨⟩
      omega
    · rintro ⟨n, hleast, hmost, hij⟩
      have hmost := hmost limit rfl
      obtain ⟨l, rfl⟩ := Nat.exists_eq_add_of_le hleast
      obtain ⟨k, hik, hkj⟩ := rounds_add.1 hij
      exact ⟨k, hik, l, by omega, hkj⟩
  | none =>
    refine (finds_from least greedy consumes hm hR).congr fun i j => ?_
    simpa using rounds_star

end Matcher

open Matcher

/-- A form's matcher finds what the form spans. -/
theorem Form.matcher_finds (text : List Char) (f : Form) :
    Finds text f.matcher (f.Spans text) := by
  induction f with
  | empty => exact finds_nothing
  | literal s => exact finds_literal s
  | chars _ set => exact finds_one set.contains
  | look l => exact finds_look l
  | repetition least most greedy body ih =>
    exact finds_repeated least most greedy _ ih (body.spans_forward text)
  | capture index body ih => exact finds_capture index ih
  | seq init last ih₁ ih₂ => exact finds_seq ih₁ ih₂
  | alt first rest ih₁ ih₂ => exact finds_alt ih₁ ih₂

/-- The whole text is matched if and only if it is spanned. -/
theorem Form.matchWhole_isSome {f : Form} {text : List Char} :
    (f.matchWhole? text).isSome = true ↔ f.Spans text 0 text.length := by
  obtain ⟨owed, h⟩ := f.matcher_finds text
  have hstart : Cursor.start text = .after text 0 := rfl
  have hend {o : Outcome} (ho : o ∈ f.matcher (.start text) .clear) :
      o.atEnd = true ↔ o.cursor.pos = text.length := by
    obtain ⟨hcursor, hspans⟩ := h.sound 0 .clear o ho
    have hle := (f.spans_forward text _ _ hspans).2
    rw [Outcome.atEnd, hcursor, Cursor.after, List.isEmpty_iff, List.drop_eq_nil_iff]
    dsimp only
    omega
  rw [Form.matchWhole?, Option.isSome_map, List.find?_isSome]
  constructor
  · rintro ⟨o, ho, hatEnd⟩
    exact (hend ho).1 hatEnd ▸ (h.sound 0 .clear o ho).2
  · intro hspans
    rcases h.complete 0 _ .clear hspans with ⟨o, ho, hpos⟩ | howed
    · exact ⟨o, ho, (hend ho).2 hpos⟩
    · exact absurd howed (h.clear _ _)

end HttpRoutes.Expression
