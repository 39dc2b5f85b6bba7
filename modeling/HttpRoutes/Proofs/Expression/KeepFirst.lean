import Mathlib.Data.List.Nodup
import HttpRoutes.Proofs.Expression.Reached

/-!
# Keeping the first way to each place

A matcher lists every place once. So it makes no difference whether later ways to a place are left
out of the parts of a list first or out of the whole list only: `SameFirst` says of two lists that
nothing remains of one that does not remain of the other, whatever has been seen before.
-/

namespace HttpRoutes.Expression

/-! ## Sets of positions -/

namespace Positions

theorem ext_contains {s s' : Positions} (h : ∀ n, s.contains n = s'.contains n) : s = s' := by
  obtain ⟨b⟩ := s
  obtain ⟨b'⟩ := s'
  exact congrArg mk (Nat.eq_of_testBit_eq h)

theorem insert_of_contains {s : Positions} {n : Nat} (h : s.contains n = true) :
    s.insert n = s := by
  refine ext_contains fun m => ?_
  rw [contains_insert]
  by_cases hmn : n = m
  · rw [← hmn, h, Bool.true_or]
  · simp [hmn]

/-- The set with the places of outcomes. -/
def addAll (s : Positions) (os : List Outcome) : Positions :=
  os.foldl (fun s o => s.insert o.cursor.pos) s

theorem contains_addAll {s : Positions} {os : List Outcome} {n : Nat} :
    (s.addAll os).contains n = true ↔ s.contains n = true ∨ ∃ o ∈ os, o.cursor.pos = n := by
  induction os generalizing s with
  | nil => simp [addAll]
  | cons o os ih =>
    show ((s.insert o.cursor.pos).addAll os).contains n = true ↔ _
    rw [ih, contains_insert, Bool.or_eq_true, decide_eq_true_eq, List.exists_mem_cons_iff, or_assoc]

end Positions

variable {seen : Positions} {os xs xs' ys ys' : List Outcome}

/-- Only the places count to what is seen. -/
theorem addAll_keepFirst : seen.addAll (keepFirst seen os) = seen.addAll os := by
  refine Positions.ext_contains fun n => ?_
  rw [Bool.eq_iff_iff, Positions.contains_addAll, Positions.contains_addAll]
  constructor
  · rintro (hn | ⟨o, ho, rfl⟩)
    · exact .inl hn
    · exact .inr ⟨o, mem_of_mem_keepFirst ho, rfl⟩
  · rintro (hn | ⟨o, ho, rfl⟩)
    · exact .inl hn
    · by_cases hseen : seen.contains o.cursor.pos = true
      · exact .inl hseen
      · exact .inr (keepFirst_pos ho (Bool.not_eq_true _ ▸ hseen))

@[simp] theorem keepFirst_singleton (o : Outcome) : keepFirst .empty [o] = [o] := by
  simp [keepFirst]

theorem keepFirst_append :
    keepFirst seen (xs ++ ys) = keepFirst seen xs ++ keepFirst (seen.addAll xs) ys := by
  induction xs generalizing seen with
  | nil => rfl
  | cons o xs ih =>
    have hadd : seen.addAll (o :: xs) = (seen.insert o.cursor.pos).addAll xs := rfl
    rw [List.cons_append, keepFirst, keepFirst, hadd]
    split
    · next hseen => rw [ih, Positions.insert_of_contains hseen]
    · rw [ih, List.cons_append]

theorem keepFirst_of_seen (h : ∀ o ∈ os, seen.contains o.cursor.pos = true) :
    keepFirst seen os = [] := by
  induction os with
  | nil => rfl
  | cons o os ih =>
    obtain ⟨ho, hos⟩ := List.forall_mem_cons.1 h
    rw [keepFirst, if_pos ho, ih hos]

/-- Of ways to one place the first is kept. -/
theorem keepFirst_cons_of_pos {o : Outcome} (h : ∀ p ∈ os, p.cursor.pos = o.cursor.pos) :
    keepFirst .empty (o :: os) = [o] := by
  rw [keepFirst, if_neg (by simp), keepFirst_of_seen]
  intro p hp
  simp [h p hp]

theorem keepFirst_map {f : Outcome → Outcome} (hf : ∀ o, (f o).cursor = o.cursor) :
    keepFirst seen (os.map f) = (keepFirst seen os).map f := by
  induction os generalizing seen with
  | nil => rfl
  | cons o os ih =>
    rw [List.map_cons, keepFirst, keepFirst, hf]
    split
    · exact ih
    · rw [ih, List.map_cons]

/-! ## The same first ways -/

/-- Whatever has been seen before, the same remains of both lists. -/
def SameFirst (xs ys : List Outcome) : Prop := ∀ seen, keepFirst seen xs = keepFirst seen ys

namespace SameFirst

theorem refl (xs : List Outcome) : SameFirst xs xs := fun _ => rfl

theorem addAll_eq (h : SameFirst xs ys) (seen : Positions) : seen.addAll xs = seen.addAll ys := by
  rw [← addAll_keepFirst, h seen, addAll_keepFirst]

theorem append (hxs : SameFirst xs xs') (hys : SameFirst ys ys') :
    SameFirst (xs ++ ys) (xs' ++ ys') := by
  intro seen
  rw [keepFirst_append, keepFirst_append, hxs seen, hxs.addAll_eq, hys]

theorem map (h : SameFirst xs ys) {f : Outcome → Outcome} (hf : ∀ o, (f o).cursor = o.cursor) :
    SameFirst (xs.map f) (ys.map f) := by
  intro seen
  rw [keepFirst_map hf, keepFirst_map hf, h seen]

theorem flatMap {g g' : Outcome → List Outcome} (h : ∀ o ∈ os, SameFirst (g o) (g' o)) :
    SameFirst (os.flatMap g) (os.flatMap g') := by
  induction os with
  | nil => exact refl _
  | cons o os ih =>
    obtain ⟨ho, hos⟩ := List.forall_mem_cons.1 h
    rw [List.flatMap_cons, List.flatMap_cons]
    exact ho.append (ih hos)

end SameFirst

/-- Going on from the places of a list, later ways to a place add nothing if where it goes on to
depends on the place alone. -/
theorem keepFirst_flatMap {g : Outcome → List Outcome} {before : Positions}
    (hbefore : ∀ o ∈ os, before.contains o.cursor.pos = true →
      ∀ x ∈ g o, seen.contains x.cursor.pos = true)
    (hsame : ∀ o ∈ os, ∀ o' ∈ os, o.cursor.pos = o'.cursor.pos →
      ∀ x ∈ g o, ∃ x' ∈ g o', x'.cursor.pos = x.cursor.pos) :
    keepFirst seen ((keepFirst before os).flatMap g) = keepFirst seen (os.flatMap g) := by
  induction os generalizing seen before with
  | nil => rfl
  | cons o os ih =>
    have htail : ∀ a ∈ os, ∀ b ∈ os, a.cursor.pos = b.cursor.pos →
        ∀ x ∈ g a, ∃ x' ∈ g b, x'.cursor.pos = x.cursor.pos := fun a ha b hb =>
      hsame a (List.mem_cons_of_mem _ ha) b (List.mem_cons_of_mem _ hb)
    have hrest : ∀ a ∈ os, before.contains a.cursor.pos = true →
        ∀ x ∈ g a, seen.contains x.cursor.pos = true :=
      fun a ha => hbefore a (List.mem_cons_of_mem _ ha)
    rw [keepFirst, List.flatMap_cons, keepFirst_append]
    split
    · next ho =>
      -- Everything behind `o` has been seen, so leaving it out changes nothing.
      have hseen := hbefore o List.mem_cons_self ho
      have hadd : seen.addAll (g o) = seen := by
        rw [← addAll_keepFirst, keepFirst_of_seen hseen]
        rfl
      rw [keepFirst_of_seen hseen, hadd, List.nil_append, ih hrest htail]
    · rw [List.flatMap_cons, keepFirst_append, ih _ htail]
      intro a ha hpos x hx
      rw [Positions.contains_addAll]
      rw [Positions.contains_insert, Bool.or_eq_true, decide_eq_true_eq] at hpos
      rcases hpos with hpos | hpos
      · exact .inl (hrest a ha hpos x hx)
      · exact .inr (hsame a (List.mem_cons_of_mem _ ha) o List.mem_cons_self hpos.symm x hx)

theorem sameFirst_flatMap {g : Outcome → List Outcome}
    (hsame : ∀ o ∈ os, ∀ o' ∈ os, o.cursor.pos = o'.cursor.pos →
      ∀ x ∈ g o, ∃ x' ∈ g o', x'.cursor.pos = x.cursor.pos) :
    SameFirst ((keepFirst .empty os).flatMap g) (os.flatMap g) :=
  fun _ => keepFirst_flatMap (by simp) hsame

theorem sameFirst_keepFirst (os : List Outcome) : SameFirst (keepFirst .empty os) os := by
  have h : SameFirst ((keepFirst .empty os).flatMap ([·])) (os.flatMap ([·])) :=
    sameFirst_flatMap fun o _ o' _ hpos x hx =>
      ⟨o', by simp, by rw [List.mem_singleton.1 hx, hpos]⟩
  simpa using h

/-! ## Every place once -/

/-- No place is listed twice. -/
def Distinct (os : List Outcome) : Prop := (os.map fun o => o.cursor.pos).Nodup

theorem distinct_keepFirst (seen : Positions) (os : List Outcome) :
    Distinct (keepFirst seen os) ∧
      ∀ o ∈ keepFirst seen os, seen.contains o.cursor.pos = false := by
  induction os generalizing seen with
  | nil => exact ⟨List.nodup_nil, by simp [keepFirst]⟩
  | cons o os ih =>
    rw [keepFirst]
    split
    · exact ih seen
    · next ho =>
      obtain ⟨hdistinct, hnew⟩ := ih (seen.insert o.cursor.pos)
      simp only [Positions.contains_insert, Bool.or_eq_false_iff, decide_eq_false_iff_not] at hnew
      refine ⟨List.nodup_cons.2 ⟨?_, hdistinct⟩,
        List.forall_mem_cons.2 ⟨Bool.not_eq_true _ ▸ ho, fun p hp => (hnew p hp).1⟩⟩
      intro hmem
      obtain ⟨p, hp, hpos⟩ := List.mem_map.1 hmem
      exact (hnew p hp).2 hpos.symm

/-- Where every place is listed once, nothing is left out. -/
theorem keepFirst_of_distinct (h : Distinct os)
    (hnew : ∀ o ∈ os, seen.contains o.cursor.pos = false) : keepFirst seen os = os := by
  induction os generalizing seen with
  | nil => rfl
  | cons o os ih =>
    obtain ⟨ho, hos⟩ := List.nodup_cons.1 h
    obtain ⟨hfirst, hrest⟩ := List.forall_mem_cons.1 hnew
    rw [keepFirst, if_neg (by rw [hfirst]; simp), ih hos]
    intro p hp
    rw [Positions.contains_insert, hrest p hp, Bool.false_or, decide_eq_false_iff_not]
    intro hpos
    exact ho (List.mem_map.2 ⟨p, hp, hpos.symm⟩)

theorem Distinct.keepFirst_eq (h : Distinct os) : keepFirst .empty os = os :=
  keepFirst_of_distinct h (by simp)

theorem Distinct.map (h : Distinct os) {f : Outcome → Outcome} (hf : ∀ o, (f o).cursor = o.cursor) :
    Distinct (os.map f) := by
  unfold Distinct at h ⊢
  simpa [Function.comp_def, hf] using h

theorem distinct_reverse : Distinct os.reverse ↔ Distinct os := by
  rw [Distinct, List.map_reverse, List.nodup_reverse, Distinct]

namespace Matcher

variable {m : Matcher}

/-- Every place that the sweep has found has been visited, and none is found twice. -/
structure Sweep.Spread (s : Sweep) : Prop where
  distinct : Distinct s.found
  visited : ∀ o ∈ s.found, s.visited.contains o.cursor.pos = true

/-- A sweep that goes on from another one: nothing is found where that one has been. -/
structure Sweep.Extends (s s' : Sweep) : Prop where
  visited : ∀ n, s.visited.contains n = true → s'.visited.contains n = true
  spread : s.Spread → s'.Spread
  fresh : ∀ o ∈ s'.found, o ∈ s.found ∨ s.visited.contains o.cursor.pos = false

namespace Sweep.Extends

variable {s s' s'' : Sweep}

theorem refl (s : Sweep) : s.Extends s := ⟨fun _ h => h, id, fun _ h => .inl h⟩

theorem trans (h : s.Extends s') (h' : s'.Extends s'') : s.Extends s'' := by
  refine ⟨fun n hn => h'.visited n (h.visited n hn), fun hs => h'.spread (h.spread hs), ?_⟩
  intro o ho
  rcases h'.fresh o ho with ho | hnew
  · exact h.fresh o ho
  · refine .inr (Bool.eq_false_iff.2 fun hold => ?_)
    rw [h.visited _ hold] at hnew
    cases hnew

theorem foldl {step : Sweep → Outcome → Sweep} (h : ∀ (s : Sweep) o, s.Extends (step s o))
    (s : Sweep) (os : List Outcome) : s.Extends (os.foldl step s) := by
  induction os generalizing s with
  | nil => exact refl s
  | cons o os ih => exact (h s o).trans (ih _)

theorem enter (s : Sweep) (n : Nat) : s.Extends ⟨s.visited.insert n, s.found⟩ := by
  have hmore (k : Nat) (hk : s.visited.contains k = true) :
      (s.visited.insert n).contains k = true := by
    rw [Positions.contains_insert, hk, Bool.true_or]
  exact ⟨hmore, fun h => ⟨h.distinct, fun o ho => hmore _ (h.visited o ho)⟩, fun o ho => .inl ho⟩

end Sweep.Extends

theorem extends_sweep (greedy : Bool) (n : Nat) (c : Cursor) (captures : List Capture) (t : Trail)
    (s : Sweep) : s.Extends (sweep m greedy n c captures t s) := by
  induction n generalizing c captures t s with
  | zero => exact .refl s
  | succ n ih =>
    rw [sweep]
    split
    · exact .refl s
    · next hnew =>
      dsimp only
      have hagain (u : Sweep) := Sweep.Extends.foldl
        (fun s o => ih o.cursor (o.captures ++ captures) o.trail s) u (m c t)
      have henter := Sweep.Extends.enter s c.pos
      -- The loop stops here for the first time, since nothing was found here before it came here.
      have hstop {u : Sweep} (hu : (⟨s.visited.insert c.pos, s.found⟩ : Sweep).Extends u) :
          s.Extends { u with found := ⟨c, captures, .node true t .clear⟩ :: u.found } := by
        refine ⟨(henter.trans hu).visited, fun hs => ?_, List.forall_mem_cons.2
          ⟨.inr (Bool.not_eq_true _ ▸ hnew), (henter.trans hu).fresh⟩⟩
        have hspread := (henter.trans hu).spread hs
        have hhere : u.visited.contains c.pos = true := hu.visited _ (by simp)
        refine ⟨List.nodup_cons.2 ⟨fun hmem => ?_, hspread.distinct⟩,
          List.forall_mem_cons.2 ⟨hhere, hspread.visited⟩⟩
        obtain ⟨o, ho, hpos : o.cursor.pos = c.pos⟩ := List.mem_map.1 hmem
        rcases hu.fresh o ho with ho | hfresh
        · exact hnew (hpos ▸ hs.visited o ho)
        · simp [hpos] at hfresh
      split
      · exact hstop (hagain _)
      · exact (hstop (.refl _)).trans (hagain _)

theorem distinct_loop {s s' : Sweep} (h : s.Extends s') (hs : s.found = []) :
    Distinct s'.found.reverse := by
  refine distinct_reverse.2 (h.spread ⟨?_, ?_⟩).distinct
  · rw [hs]
    exact List.nodup_nil
  · simp [hs]

theorem distinct_many (greedy : Bool) (c : Cursor) (t : Trail) : Distinct (m.many greedy c t) :=
  distinct_loop (extends_sweep greedy _ _ _ _ _) rfl

theorem distinct_atLeastOnce (greedy : Bool) (c : Cursor) (t : Trail) :
    Distinct (m.atLeastOnce greedy c t) :=
  distinct_loop (.foldl (fun s _ => extends_sweep greedy _ _ _ _ s) _ _) rfl

theorem distinct_seq (a b : Matcher) (c : Cursor) (t : Trail) : Distinct (a.seq b c t) :=
  (distinct_keepFirst _ _).1

theorem distinct_optional (greedy : Bool) (c : Cursor) (t : Trail) :
    Distinct (m.optional greedy c t) := by
  unfold optional
  split
  · exact List.nodup_nil
  · exact (distinct_keepFirst _ _).1

end Matcher

open Matcher

/-- A form's matcher lists every place once. -/
theorem Form.distinct (f : Form) (c : Cursor) (t : Trail) : Distinct (f.matcher c t) := by
  have hsingle (o : Outcome) : Distinct [o] := List.nodup_singleton _
  induction f generalizing t with
  | empty => exact hsingle _
  | literal s =>
    rw [matcher, Matcher.literal]
    split
    · exact List.nodup_nil
    · exact hsingle _
  | chars _ set =>
    rw [matcher, Matcher.one]
    split
    · exact List.nodup_nil
    · split
      · exact hsingle _
      · exact List.nodup_nil
  | look l =>
    rw [matcher, Matcher.look]
    split
    · exact hsingle _
    · exact List.nodup_nil
  | repetition least most greedy body ih =>
    unfold matcher Matcher.repeated
    split
    · exact distinct_seq _ _ _ _
    · split
      · split
        · exact distinct_many _ _ _
        · exact distinct_optional _ _ _
      · exact distinct_atLeastOnce _ _ _
      · exact distinct_seq _ _ _ _
  | capture index body ih => exact (ih t).map fun _ => rfl
  | seq init last => exact distinct_seq _ _ _ _
  | alt first rest =>
    rw [matcher, Matcher.alt]
    split
    · exact List.nodup_nil
    · exact (distinct_keepFirst _ _).1

end HttpRoutes.Expression
