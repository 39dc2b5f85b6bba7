import HttpRoutes.Proofs.Expression.Alternatives

/-!
# Forms of a fixed length

A form whose matches all have one length leads to one place at most, so it can be taken out in front
of a choice: the choice between two sequences that start with it is alike to it followed by the
choice between what is left (`Form.similar_distrib`).
-/

namespace HttpRoutes.Expression

variable {text : List Char}

/-- How many characters every match of the form has, where the form says so. -/
def Form.fixedLength? : Form → Option Nat
  | .empty => some 0
  | .literal s => some s.length
  | .chars _ _ => some 1
  | .look _ => some 0
  | .repetition least most _ body =>
    if most = some least then body.fixedLength?.map (least * ·) else none
  | .capture _ body => body.fixedLength?
  | .seq init last => do some ((← init.fixedLength?) + (← last.fixedLength?))
  | .alt first rest => do
    let n ← first.fixedLength?
    if rest.fixedLength? = some n then some n else none

/-! ## One place at most -/

/-- From trails that `P` admits the matcher lists one place at most, `n` characters on. Whether it
lists it and what it captures on the way depend on the place alone, and where it has moved, it has
a trail that `P` admits. -/
structure Steady (text : List Char) (n : Nat) (P : Trail → Prop) (m : Matcher) : Prop where
  clear : P .clear
  lands : ∀ i t, ∀ o ∈ m (.after text i) t, o.cursor = .after text (i + n)
  step : ∀ i, (∀ t, P t → m (.after text i) t = []) ∨ ∃ captures, ∀ t, P t →
    ∃ t', m (.after text i) t = [⟨.after text (i + n), captures, t'⟩] ∧ (0 < n → P t')

namespace Steady

variable {m a b : Matcher} {n k : Nat} {P Q : Trail → Prop}

theorem keptIf (h : Steady text n P m) {t : Trail} {unmoved : Bool}
    (ht : unmoved = true → P t) : P (t.keptIf unmoved) := by
  cases unmoved
  · exact h.clear
  · exact ht rfl

/-- A matcher that captures nothing and goes on by what the place alone decides. -/
theorem of_if {p : Nat → Prop} [DecidablePred p] {g : Trail → Trail}
    (hm : ∀ i t, m (.after text i) t = if p i then [⟨.after text (i + n), [], g t⟩] else []) :
    Steady text n (fun _ => True) m where
  clear := trivial
  lands i t o ho := by
    rw [hm] at ho
    split at ho
    · rw [List.mem_singleton.1 ho]
    · exact absurd ho (by simp)
  step i := by
    by_cases hi : p i
    · exact .inr ⟨[], fun t _ => ⟨g t, by rw [hm, if_pos hi], fun _ => trivial⟩⟩
    · exact .inl fun t _ => by rw [hm, if_neg hi]

theorem nothing : Steady text 0 (fun _ => True) Matcher.nothing :=
  of_if (p := fun _ => True) (g := id) fun _ _ => (if_pos trivial).symm

theorem capture (index : Nat) (h : Steady text n P m) : Steady text n P (m.capture index) where
  clear := h.clear
  lands i t o ho := by
    obtain ⟨inner, hinner, rfl⟩ := List.mem_map.1 ho
    exact h.lands i t inner hinner
  step i := by
    refine (h.step i).imp ?_ ?_
    · intro hnone t ht
      rw [Matcher.capture, hnone t ht]
      rfl
    · rintro ⟨captures, hone⟩
      refine ⟨⟨index, i, i + n⟩ :: captures, fun t ht => ?_⟩
      obtain ⟨t', hmatch, ht'⟩ := hone t ht
      refine ⟨t', ?_, ht'⟩
      rw [Matcher.capture, hmatch]
      rfl

theorem seq (ha : Steady text n P a) (hb : Steady text k Q b) :
    Steady text (n + k) (fun t => P t.left ∧ (n = 0 → Q t.right)) (a.seq b) where
  clear := ⟨ha.clear, fun _ => hb.clear⟩
  lands i t o ho := by
    obtain ⟨first, hfirst, ho⟩ := List.mem_flatMap.1 (mem_of_mem_keepFirst ho)
    obtain ⟨second, hsecond, rfl⟩ := List.mem_map.1 ho
    rw [ha.lands i _ first hfirst] at hsecond
    rw [← Nat.add_assoc]
    exact hb.lands _ _ second hsecond
  step i := by
    have hunfold (t : Trail) : a.seq b (.after text i) t = keepFirst .empty
        ((a (.after text i) t.left).flatMap fun o =>
          (b o.cursor (t.right.keptIf (o.cursor.pos = i))).map o.andThen) := rfl
    have hright {t : Trail} (ht : n = 0 → Q t.right) : Q (t.right.keptIf (i + n = i)) :=
      hb.keptIf fun hunmoved => ht (by simpa using hunmoved)
    rcases ha.step i with hnone | ⟨captures, hone⟩
    · refine .inl fun t ht => ?_
      rw [hunfold, hnone _ ht.1]
      rfl
    rcases hb.step (i + n) with hnone | ⟨captures', hone'⟩
    · refine .inl fun t ht => ?_
      obtain ⟨t', hmatch, -⟩ := hone _ ht.1
      rw [hunfold, hmatch, List.flatMap_singleton, Cursor.pos_after, hnone _ (hright ht.2)]
      rfl
    · refine .inr ⟨captures' ++ captures, fun t ht => ?_⟩
      obtain ⟨τ, hmatch, hτ⟩ := hone _ ht.1
      obtain ⟨τ', hmatch', hτ'⟩ := hone' _ (hright ht.2)
      refine ⟨.node false (τ.keptIf (i + n + k = i + n)) τ', ?_, fun hmoved => ⟨?_, fun hn => ?_⟩⟩
      · rw [hunfold, hmatch, List.flatMap_singleton, Cursor.pos_after, hmatch', List.map_singleton,
          keepFirst_singleton, ← Nat.add_assoc]
        rfl
      · refine ha.keptIf fun hunmoved => hτ ?_
        have hk : i + n + k = i + n := of_decide_eq_true hunmoved
        omega
      · exact hτ' (by omega)

theorem times (h : Steady text n P m) (count : Nat) :
    ∃ Q, Steady text (count * n) Q (m.times count) := by
  induction count with
  | zero => exact ⟨_, (Nat.zero_mul n).symm ▸ nothing⟩
  | succ count ih =>
    cases count with
    | zero => exact ⟨P, (Nat.one_mul n).symm ▸ h⟩
    | succ count =>
      obtain ⟨Q, hQ⟩ := ih
      exact ⟨_, Nat.succ_mul (count + 1) n ▸ hQ.seq h⟩

end Steady

namespace Form

variable {a b f : Form} {n : Nat} {P Q : Trail → Prop}

theorem steady_alt (ha : Steady text n P a.matcher) (hb : Steady text n Q b.matcher) :
    Steady text n (fun t => t.here = false ∧ P t.left ∧ Q t.right) (Form.alt a b).matcher where
  clear := ⟨rfl, ha.clear, hb.clear⟩
  lands i t o ho := by
    rw [matcher_alt] at ho
    split at ho
    · exact absurd ho (by simp)
    · rcases List.mem_append.1 (mem_of_mem_keepFirst ho) with ho | ho
      · obtain ⟨first, hfirst, rfl⟩ := List.mem_map.1 ho
        exact ha.lands i _ first hfirst
      · obtain ⟨second, hsecond, rfl⟩ := List.mem_map.1 ho
        exact hb.lands i _ second hsecond
  step i := by
    have hunfold {t : Trail} (ht : t.here = false) : (Form.alt a b).matcher (.after text i) t =
        keepFirst .empty ((a.matcher (.after text i) t.left).map (·.asFirst i t.right) ++
          (b.matcher (.after text i) t.right).map (·.asSecond i t.left)) :=
      if_neg (by simp [ht])
    have hmove {m : Nat} (hm : 0 < m) : decide (i + m = i) = false := by
      rw [decide_eq_false_iff_not]
      omega
    rcases ha.step i with hnone | ⟨captures, hone⟩
    · rcases hb.step i with hnone' | ⟨captures, hone⟩
      · refine .inl fun t ht => ?_
        rw [hunfold ht.1, hnone _ ht.2.1, hnone' _ ht.2.2]
        rfl
      · refine .inr ⟨captures, fun t ht => ?_⟩
        obtain ⟨τ, hmatch, hτ⟩ := hone _ ht.2.2
        refine ⟨.node (i + n = i) (t.left.keptIf (i + n = i)) τ, ?_, fun hn => ?_⟩
        · rw [hunfold ht.1, hnone _ ht.2.1, hmatch, List.map_nil, List.nil_append,
            List.map_singleton, keepFirst_singleton]
          rfl
        · rw [hmove hn]
          exact ⟨rfl, ha.clear, hτ hn⟩
    · refine .inr ⟨captures, fun t ht => ?_⟩
      obtain ⟨τ, hmatch, hτ⟩ := hone _ ht.2.1
      refine ⟨.node (i + n = i) τ (t.right.keptIf (i + n = i)), ?_, fun hn => ?_⟩
      · rw [hunfold ht.1, hmatch, List.map_singleton, List.singleton_append,
          keepFirst_cons_of_pos]
        · rfl
        · intro p hp
          obtain ⟨o, ho, rfl⟩ := List.mem_map.1 hp
          exact congrArg Cursor.pos (hb.lands i _ o ho)
      · rw [hmove hn]
        exact ⟨rfl, hτ hn, hb.clear⟩

/-- A form of a fixed length is steady. -/
theorem steady_of_fixedLength (h : f.fixedLength? = some n) : ∃ P, Steady text n P f.matcher := by
  induction f generalizing n with
  | empty =>
    cases h
    exact ⟨_, .nothing⟩
  | literal s =>
    cases h
    exact ⟨_, .of_if fun i t => matcher_literal s i t⟩
  | chars unicode set =>
    cases h
    exact ⟨_, .of_if fun i t => matcher_one set.contains i t⟩
  | look l =>
    cases h
    exact ⟨_, .of_if (p := fun i => l.holds (text.take i).getLast? (text.drop i).head? = true)
      (g := id) fun i t => rfl⟩
  | repetition least most greedy body ih =>
    unfold fixedLength? at h
    split at h
    · next hmost =>
      subst hmost
      obtain ⟨k, hk, rfl⟩ := Option.map_eq_some_iff.1 h
      obtain ⟨P, hP⟩ := ih hk
      obtain ⟨Q, hQ⟩ := hP.times least
      have hnone : Matcher.upTo greedy body.matcher (least - least) = .nothing := by
        rw [Nat.sub_self]
        rfl
      have hmatcher : (Form.repetition least (some least) greedy body).matcher =
          (body.matcher.times least).seq .nothing := by
        rw [← hnone]
        rfl
      exact ⟨_, hmatcher ▸ hQ.seq .nothing⟩
    · cases h
  | capture index body ih =>
    obtain ⟨P, hP⟩ := ih h
    exact ⟨P, hP.capture index⟩
  | seq init last ih₁ ih₂ =>
    obtain ⟨k, hk, h⟩ := Option.bind_eq_some_iff.1 h
    obtain ⟨l, hl, h⟩ := Option.bind_eq_some_iff.1 h
    cases h
    obtain ⟨P, hP⟩ := ih₁ hk
    obtain ⟨Q, hQ⟩ := ih₂ hl
    exact ⟨_, hP.seq hQ⟩
  | alt first rest ih₁ ih₂ =>
    obtain ⟨k, hk, h⟩ := Option.bind_eq_some_iff.1 h
    split at h
    · next hrest =>
      cases h
      obtain ⟨P, hP⟩ := ih₁ hk
      obtain ⟨Q, hQ⟩ := ih₂ hrest
      exact ⟨_, steady_alt hP hQ⟩
    · cases h

end Form

/-! ## Taking out a common start -/

/-- How trails in a choice between two sequences with one start are related to trails in the start
followed by a choice. Behind a start that consumes nothing the one choice is open where the other
is, and a start that consumes something leaves both open. -/
structure TakenOut (n : Nat) (P : Trail → Prop) (t t' : Trail) : Prop where
  moves : 0 < n → t.here = false
  stays : n = 0 → t.here = t'.right.here
  starts : t.here = false → P t.left.left ∧ P t.right.left ∧ P t'.left
  rests : t.here = false → n = 0 → t.left.right = t'.right.left ∧ t.right.right = t'.right.right

namespace TakenOut

variable {m : Matcher} {n i k : Nat} {P : Trail → Prop} {t t' τ τ' inner other other' : Trail}

theorem opened (h : TakenOut n P t t') (hopen : t.here = false) (i : Nat) :
    (t'.right.keptIf (i + n = i)).here = false := by
  rw [Trail.here_keptIf]
  by_cases hn : n = 0
  · simp [← h.stays hn, hopen]
  · simp [hn]

theorem rests_keptIf (h : TakenOut n P t t') (hopen : t.here = false) (i : Nat) :
    t.left.right.keptIf (i + n = i) = t'.right.left.keptIf (i + n = i) ∧
      t.right.right.keptIf (i + n = i) = t'.right.right.keptIf (i + n = i) := by
  by_cases hn : n = 0
  · rw [(h.rests hopen hn).1, (h.rests hopen hn).2]
    exact ⟨rfl, rfl⟩
  · simp [hn]

/-- Trails behind the start and the first branch. -/
theorem first (hm : Steady text n P m) (hτ : 0 < n → P τ) (hτ' : 0 < n → P τ') (hk : i + n ≤ k) :
    TakenOut n P
      (.node (k = i) (.node false (τ.keptIf (k = i + n)) inner) (other.keptIf (k = i)))
      (.node false (τ'.keptIf (k = i + n))
        (.node (k = i + n) inner (other'.keptIf (k = i + n)))) where
  moves hn := decide_eq_false (by omega)
  stays := by
    rintro rfl
    rfl
  starts hmoved := by
    have hne : k ≠ i := of_decide_eq_false hmoved
    have hkept {τ : Trail} (hτ : 0 < n → P τ) : P (τ.keptIf (k = i + n)) := by
      refine hm.keptIf fun hk => hτ ?_
      have hk : k = i + n := of_decide_eq_true hk
      omega
    exact ⟨hkept hτ, by simp [hne, hm.clear], hkept hτ'⟩
  rests hmoved hn := by
    have hne : k ≠ i := of_decide_eq_false hmoved
    simp [hn, hne]

/-- Trails behind the start and the second branch. -/
theorem second (hm : Steady text n P m) (hτ : 0 < n → P τ) (hτ' : 0 < n → P τ')
    (hk : i + n ≤ k) :
    TakenOut n P
      (.node (k = i) (other.keptIf (k = i)) (.node false (τ.keptIf (k = i + n)) inner))
      (.node false (τ'.keptIf (k = i + n))
        (.node (k = i + n) (other'.keptIf (k = i + n)) inner)) := by
  have h : TakenOut n P
      (.node (k = i) (.node false (τ.keptIf (k = i + n)) inner) (other.keptIf (k = i)))
      (.node false (τ'.keptIf (k = i + n))
        (.node (k = i + n) inner (other'.keptIf (k = i + n)))) := first hm hτ hτ' hk
  refine ⟨h.moves, h.stays, fun hmoved => ?_, fun hmoved hn => (h.rests hmoved hn).symm⟩
  obtain ⟨hfirst, hsecond, hstart⟩ := h.starts hmoved
  exact ⟨hsecond, hfirst, hstart⟩

end TakenOut

namespace Form

variable {x : Form} {n : Nat} {P : Trail → Prop}

/-- What a steady form leads on to. -/
theorem ways_of_steady {f : Form} {i : Nat} {t τ : Trail} {captures : List Capture}
    (h : x.matcher (.after text i) t.left = [⟨.after text (i + n), captures, τ⟩]) :
    ways x f (.after text i) t = (f.matcher (.after text (i + n))
      (t.right.keptIf (i + n = i))).map (Outcome.andThen ⟨.after text (i + n), captures, τ⟩) := by
  rw [ways, h, List.flatMap_singleton]
  rfl

/-- Where the one choice has been made already, so has the other, behind the start. -/
theorem ways_of_made (hx : Steady text n P x.matcher) {t t' : Trail} (h : TakenOut n P t t')
    (hmade : t.here = true) (a b : Form) (i : Nat) :
    ways x (.alt a b) (.after text i) t' = [] := by
  have hn : n = 0 := by
    by_contra hne
    rw [h.moves (by omega)] at hmade
    cases hmade
  refine List.flatMap_eq_nil_iff.2 fun o ho => ?_
  have hclosed : (t'.right.keptIf (o.cursor.pos = (Cursor.after text i).pos)).here = true := by
    rw [hx.lands i _ o ho]
    simp [hn, ← h.stays hn, hmade]
  rw [matcher_alt, if_pos hclosed, List.map_nil]

theorem distrib (hx : Steady text n P x.matcher) (a b : Form) :
    Alike text (Form.alt (.seq x a) (.seq x b)).matcher (Form.seq x (.alt a b)).matcher := by
  refine ⟨TakenOut n P, ⟨fun _ => rfl, fun _ => rfl, fun _ => ⟨hx.clear, hx.clear, hx.clear⟩,
    fun _ _ => ⟨rfl, rfl⟩⟩, ?_⟩
  intro i t t' h
  rw [matcher_alt, matcher_seq]
  split
  · next hmade =>
    rw [ways_of_made hx h hmade]
    exact .nil
  next hmade =>
  have hopen : t.here = false := Bool.not_eq_true _ ▸ hmade
  obtain ⟨hP, hP', hP''⟩ := h.starts hopen
  rcases hx.step i with hnone | ⟨captures, hone⟩
  · have hways {f : Form} {t : Trail} (ht : P t.left) : ways x f (.after text i) t = [] := by
      rw [ways, hnone _ ht]
      rfl
    rw [either, matcher_seq, matcher_seq, hways hP, hways hP', hways hP'']
    exact .nil
  obtain ⟨τ₁, hfirst, hτ₁⟩ := hone _ hP
  obtain ⟨τ₂, hsecond, hτ₂⟩ := hone _ hP'
  obtain ⟨τ, hstart, hτ⟩ := hone _ hP''
  have hleft : SameFirst (either (.seq x a) (.seq x b) (.after text i) t)
      (((ways x a (.after text i) t.left).map (·.asFirst i t.right)) ++
        ((ways x b (.after text i) t.right).map (·.asSecond i t.left))) :=
    .append (.map (sameFirst_keepFirst _) fun _ => rfl) (.map (sameFirst_keepFirst _) fun _ => rfl)
  have hright : SameFirst (ways x (.alt a b) (.after text i) t')
      ((either a b (.after text (i + n)) (t'.right.keptIf (i + n = i))).map
        (Outcome.andThen ⟨.after text (i + n), captures, τ⟩)) := by
    rw [ways_of_steady hstart, matcher_alt, if_neg (Bool.eq_false_iff.1 (h.opened hopen i))]
    exact .map (sameFirst_keepFirst _) fun _ => rfl
  refine paired_of_sameFirst hleft hright ?_
  obtain ⟨hrest, hrest'⟩ := h.rests_keptIf hopen i
  rw [ways_of_steady hfirst, ways_of_steady hsecond, hrest, hrest']
  simp only [either, List.map_append, List.map_map, Trail.left_keptIf, Trail.right_keptIf,
    Cursor.pos_after]
  refine List.rel_append (forall₂_map (a.paired_self (i + n) _) ?_)
    (forall₂_map (b.paired_self (i + n) _) ?_)
  · rintro _ _ (@⟨k, captures', τ', _, hk, rfl⟩)
    exact ⟨by omega, .first hx hτ₁ hτ hk⟩
  · rintro _ _ (@⟨k, captures', τ', _, hk, rfl⟩)
    exact ⟨by omega, .second hx hτ₂ hτ hk⟩

/-- A start of a fixed length may be taken out in front of a choice. -/
theorem similar_distrib (hx : x.fixedLength?.isSome) (a b : Form) :
    Similar text (.alt (.seq x a) (.seq x b)) (.seq x (.alt a b)) := by
  obtain ⟨n, hn⟩ := Option.isSome_iff_exists.1 hx
  obtain ⟨P, hP⟩ := steady_of_fixedLength hn
  refine ⟨distrib hP a b, ?_, ?_⟩
  · simp only [minLength]
    cases x.minLength <;> cases a.minLength <;> cases b.minLength <;> simp [Nat.add_min_add_left]
  · simp only [isAlwaysEmpty]
    cases x.isAlwaysEmpty <;> simp

end Form

end HttpRoutes.Expression
