import Mathlib.Data.List.Forall2
import HttpRoutes.Proofs.Expression.Reached

/-!
# Matchers that match alike

Two matchers are alike on a text if from every place they list the same places with the same
captures, in the same order. Their trails may have different shapes, so they are compared by a
relation that the two keep up between their trails. Every combination of matchers is alike if its
parts are (`Alike.seq`, `Alike.alt`, `Alike.repeated`), and forms that are alike match the whole
text with the same captures (`Form.matchWhole_of_alike`).
-/

namespace HttpRoutes.Expression

/-! ## Pairs of outcomes -/

/-- Two outcomes at one place of the text, `i` or behind it, with the same captures and with trails
that are related. -/
inductive Paired (text : List Char) (i : Nat) (R : Trail → Trail → Prop) : Outcome → Outcome → Prop
  | intro {k : Nat} {captures : List Capture} {t t' : Trail} (hle : i ≤ k) (ht : R t t') :
    Paired text i R ⟨.after text k, captures, t⟩ ⟨.after text k, captures, t'⟩

/-- From related trails the matchers list outcomes that are paired one by one. -/
structure Simulates (text : List Char) (R : Trail → Trail → Prop) (m m' : Matcher) : Prop where
  clear : R .clear .clear
  step (i : Nat) (t t' : Trail) : R t t' →
    List.Forall₂ (Paired text i R) (m (.after text i) t) (m' (.after text i) t')

/-- On the text the matchers list the same places with the same captures, in the same order. -/
def Alike (text : List Char) (m m' : Matcher) : Prop := ∃ R, Simulates text R m m'

variable {text : List Char} {R S : Trail → Trail → Prop} {i j : Nat}

theorem Paired.trans {o o' o'' : Outcome} (h : Paired text i R o o') (h' : Paired text i S o' o'') :
    Paired text i (fun t t'' => ∃ t', R t t' ∧ S t' t'') o o'' := by
  obtain ⟨hk, hR⟩ := h
  generalize hsame : Outcome.mk _ _ _ = o' at h'
  obtain ⟨-, hS⟩ := h'
  obtain ⟨hcursor, rfl, rfl⟩ := Outcome.mk.injEq .. ▸ hsame
  rw [← hcursor]
  exact ⟨hk, _, hR, hS⟩

theorem forall₂_map {os os' : List Outcome} {f f' : Outcome → Outcome}
    (h : List.Forall₂ (Paired text i R) os os')
    (hf : ∀ o o', Paired text i R o o' → Paired text j S (f o) (f' o')) :
    List.Forall₂ (Paired text j S) (os.map f) (os'.map f') :=
  List.forall₂_map_left_iff.2 (List.forall₂_map_right_iff.2 (h.imp hf))

theorem forall₂_keepFirst {Q : Outcome → Outcome → Prop}
    (hQ : ∀ o o', Q o o' → o'.cursor.pos = o.cursor.pos) {os os' : List Outcome}
    (h : List.Forall₂ Q os os') (seen : Positions) :
    List.Forall₂ Q (keepFirst seen os) (keepFirst seen os') := by
  induction h generalizing seen with
  | nil => exact .nil
  | cons ho _ ih =>
    rw [keepFirst, keepFirst, hQ _ _ ho]
    split
    · exact ih seen
    · exact .cons ho (ih _)

theorem Paired.keepFirst {os os' : List Outcome} (h : List.Forall₂ (Paired text i R) os os')
    (seen : Positions) :
    List.Forall₂ (Paired text i R) (keepFirst seen os) (keepFirst seen os') :=
  forall₂_keepFirst (fun _ _ ⟨_, _⟩ => rfl) h seen

theorem keptIf_related (hclear : R .clear .clear) {t t' : Trail} (h : R t t') (unmoved : Bool) :
    R (t.keptIf unmoved) (t'.keptIf unmoved) := by
  cases unmoved
  · exact hclear
  · exact h

/-- Trails of one shape at the top, related in both parts. -/
def Trail.Both (R S : Trail → Trail → Prop) (t t' : Trail) : Prop :=
  t.here = t'.here ∧ R t.left t'.left ∧ S t.right t'.right

/-! ## An equivalence -/

namespace Alike

variable {m m' m'' a a' b b' : Matcher}

theorem symm (h : Alike text m m') : Alike text m' m := by
  obtain ⟨R, hclear, hstep⟩ := h
  refine ⟨fun t t' => R t' t, hclear, fun i t t' ht => ?_⟩
  refine (hstep i t' t ht).flip.imp ?_
  rintro _ _ ⟨hk, ht⟩
  exact ⟨hk, ht⟩

theorem trans (h : Alike text m m') (h' : Alike text m' m'') : Alike text m m'' := by
  obtain ⟨R, hclear, hstep⟩ := h
  obtain ⟨S, hclear', hstep'⟩ := h'
  refine ⟨fun t t'' => ∃ t', R t t' ∧ S t' t'', ⟨_, hclear, hclear'⟩, ?_⟩
  rintro i t t'' ⟨t', hR, hS⟩
  have hfirst := hstep i t t' hR
  have hsecond := hstep' i t' t'' hS
  generalize m (.after text i) t = os, m' (.after text i) t' = os',
    m'' (.after text i) t'' = os'' at hfirst hsecond ⊢
  induction hfirst generalizing os'' with
  | nil =>
    cases hsecond
    exact .nil
  | cons ho _ ih =>
    cases hsecond with
    | cons ho' hrest => exact .cons (ho.trans ho') (ih _ hrest)

/-! ## Combinations -/

theorem seq (ha : Alike text a a') (hb : Alike text b b') : Alike text (a.seq b) (a'.seq b') := by
  obtain ⟨R, ha⟩ := ha
  obtain ⟨S, hb⟩ := hb
  refine ⟨Trail.Both R S, ⟨rfl, ha.clear, hb.clear⟩, ?_⟩
  rintro i t t' ⟨-, hleft, hright⟩
  refine Paired.keepFirst (List.rel_flatMap (ha.step i _ _ hleft) ?_) _
  rintro _ _ ⟨hk, ht⟩
  refine forall₂_map (hb.step _ _ _ (keptIf_related hb.clear hright _)) ?_
  rintro _ _ ⟨hl, ht'⟩
  exact ⟨hk.trans hl, rfl, keptIf_related ha.clear ht _, ht'⟩

theorem alt (ha : Alike text a a') (hb : Alike text b b') : Alike text (a.alt b) (a'.alt b') := by
  obtain ⟨R, ha⟩ := ha
  obtain ⟨S, hb⟩ := hb
  refine ⟨Trail.Both R S, ⟨rfl, ha.clear, hb.clear⟩, ?_⟩
  rintro i t t' ⟨hhere, hleft, hright⟩
  unfold Matcher.alt
  rw [hhere]
  split
  · exact .nil
  · refine Paired.keepFirst (List.rel_append (forall₂_map (ha.step i _ _ hleft) ?_)
      (forall₂_map (hb.step i _ _ hright) ?_)) _
    · rintro _ _ ⟨hk, ht⟩
      exact ⟨hk, rfl, ht, keptIf_related hb.clear hright _⟩
    · rintro _ _ ⟨hk, ht⟩
      exact ⟨hk, rfl, keptIf_related ha.clear hleft _, ht⟩

theorem capture (index : Nat) (hm : Alike text m m') :
    Alike text (m.capture index) (m'.capture index) := by
  obtain ⟨R, hm⟩ := hm
  refine ⟨R, hm.clear, fun i t t' ht => forall₂_map (hm.step i t t' ht) ?_⟩
  rintro _ _ ⟨hk, ht⟩
  exact ⟨hk, ht⟩

theorem nothing : Alike text Matcher.nothing Matcher.nothing :=
  ⟨fun _ _ => True, trivial, fun _ _ _ _ => .cons ⟨le_rfl, trivial⟩ .nil⟩

theorem optional (greedy : Bool) (hm : Alike text m m') :
    Alike text (m.optional greedy) (m'.optional greedy) := by
  obtain ⟨R, hm⟩ := hm
  refine ⟨Trail.Both R (· = ·), ⟨rfl, hm.clear, rfl⟩, ?_⟩
  rintro i t t' ⟨hhere, hleft, -⟩
  unfold Matcher.optional
  rw [hhere]
  split
  · exact .nil
  · have htaken : List.Forall₂ (Paired text i (Trail.Both R (· = ·)))
        ((m (.after text i) t.left).map fun o =>
          { o with trail := .node (o.cursor.pos = i) o.trail .clear })
        ((m' (.after text i) t'.left).map fun o =>
          { o with trail := .node (o.cursor.pos = i) o.trail .clear }) := by
      refine forall₂_map (hm.step i _ _ hleft) ?_
      rintro _ _ ⟨hk, ht⟩
      exact ⟨hk, rfl, ht, rfl⟩
    have hleft : List.Forall₂ (Paired text i (Trail.Both R (· = ·)))
        [⟨.after text i, [], .node true t.left .clear⟩]
        [⟨.after text i, [], .node true t'.left .clear⟩] := .cons ⟨le_rfl, rfl, hleft, rfl⟩ .nil
    cases greedy
    · exact Paired.keepFirst (List.rel_append hleft htaken) _
    · exact Paired.keepFirst (List.rel_append htaken hleft) _

/-! ## Loops -/

/-- The sweeps have reached the same places and found outcomes that are paired. -/
structure Sweeps (text : List Char) (start : Nat) (R : Trail → Trail → Prop)
    (s s' : Matcher.Sweep) : Prop where
  visited : s'.visited = s.visited
  found : List.Forall₂ (Paired text start (Trail.Both R (· = ·))) s.found s'.found

theorem Sweeps.foldl {os os' : List Outcome} {start : Nat}
    {step step' : Matcher.Sweep → Outcome → Matcher.Sweep}
    (hos : List.Forall₂ (Paired text i R) os os')
    (hstep : ∀ o o', Paired text i R o o' → ∀ s s', Sweeps text start R s s' →
      Sweeps text start R (step s o) (step' s' o')) {s s' : Matcher.Sweep}
    (h : Sweeps text start R s s') :
    Sweeps text start R (os.foldl step s) (os'.foldl step' s') := by
  induction hos generalizing s s' with
  | nil => exact h
  | cons ho _ ih => exact ih (hstep _ _ ho _ _ h)

theorem sweep (greedy : Bool) (hm : Simulates text R m m') (n : Nat) {start : Nat}
    {captures : List Capture} {t t' : Trail} {s s' : Matcher.Sweep} (hle : start ≤ i) (ht : R t t')
    (h : Sweeps text start R s s') :
    Sweeps text start R (Matcher.sweep m greedy n (.after text i) captures t s)
      (Matcher.sweep m' greedy n (.after text i) captures t' s') := by
  induction n generalizing i captures t t' s s' with
  | zero => exact h
  | succ n ih =>
    have hagain {u u' : Matcher.Sweep} (hu : Sweeps text start R u u') :
        Sweeps text start R
          ((m (.after text i) t).foldl (fun s o =>
            Matcher.sweep m greedy n o.cursor (o.captures ++ captures) o.trail s) u)
          ((m' (.after text i) t').foldl (fun s o =>
            Matcher.sweep m' greedy n o.cursor (o.captures ++ captures) o.trail s) u') := by
      refine Sweeps.foldl (hm.step i t t' ht) ?_ hu
      rintro _ _ ⟨hk, ht⟩ v v' hv
      exact ih (hle.trans hk) ht hv
    have hstop {u u' : Matcher.Sweep} (hu : Sweeps text start R u u') :
        Sweeps text start R
          { u with found := ⟨.after text i, captures, .node true t .clear⟩ :: u.found }
          { u' with found := ⟨.after text i, captures, .node true t' .clear⟩ :: u'.found } :=
      ⟨hu.visited, .cons ⟨hle, rfl, ht, rfl⟩ hu.found⟩
    have henter : Sweeps text start R ⟨s.visited.insert i, s.found⟩
        ⟨s'.visited.insert i, s'.found⟩ := ⟨by rw [h.visited], h.found⟩
    rw [Matcher.sweep, Matcher.sweep, h.visited]
    split
    · exact h
    · rw [h.visited] at henter
      dsimp only
      split
      · exact hstop (hagain henter)
      · exact hagain (hstop henter)

theorem loopStart {t t' : Trail} (hhere : t.here = t'.here) :
    Sweeps text i R (Matcher.loopStart (.after text i) t)
      (Matcher.loopStart (.after text i) t') := by
  unfold Matcher.loopStart
  rw [hhere]
  exact ⟨rfl, .nil⟩

theorem many (greedy : Bool) (hm : Alike text m m') :
    Alike text (m.many greedy) (m'.many greedy) := by
  obtain ⟨R, hm⟩ := hm
  refine ⟨Trail.Both R (· = ·), ⟨rfl, hm.clear, rfl⟩, ?_⟩
  rintro i t t' ⟨hhere, hleft, -⟩
  exact List.forall₂_reverse_iff.2 (sweep greedy hm _ le_rfl hleft (loopStart hhere)).found

theorem atLeastOnce (greedy : Bool) (hm : Alike text m m') :
    Alike text (m.atLeastOnce greedy) (m'.atLeastOnce greedy) := by
  obtain ⟨R, hm⟩ := hm
  refine ⟨Trail.Both R (· = ·), ⟨rfl, hm.clear, rfl⟩, ?_⟩
  rintro i t t' ⟨hhere, hleft, -⟩
  refine List.forall₂_reverse_iff.2 (Sweeps.foldl (hm.step i _ _ hleft) ?_
    (loopStart (R := R) hhere)).found
  rintro _ _ ⟨hk, ht⟩ s s' hs
  exact sweep greedy hm _ hk ht hs

/-! ## Repetition -/

theorem times (hm : Alike text m m') (n : Nat) : Alike text (m.times n) (m'.times n) := by
  induction n with
  | zero => exact nothing
  | succ n ih =>
    cases n with
    | zero => exact hm
    | succ n => exact ih.seq hm

theorem upTo (greedy : Bool) (hm : Alike text m m') (n : Nat) :
    Alike text (m.upTo greedy n) (m'.upTo greedy n) := by
  induction n with
  | zero => exact nothing
  | succ n ih => exact (hm.seq ih).optional greedy

theorem repeated (least : Nat) (most : Option Nat) (greedy consumes : Bool)
    (hm : Alike text m m') :
    Alike text (m.repeated least most greedy consumes)
      (m'.repeated least most greedy consumes) := by
  cases most with
  | some most => exact (hm.times _).seq (hm.upTo greedy _)
  | none =>
    match least with
    | 0 =>
      cases consumes with
      | true => exact hm.many greedy
      | false => exact (hm.atLeastOnce greedy).optional greedy
    | 1 => exact hm.atLeastOnce greedy
    | n + 2 => exact (hm.times _).seq (hm.atLeastOnce greedy)

end Alike

/-! ## Forms -/

namespace Form

/-- What a form's matcher lists stays on the text and does not go back. -/
theorem stays (f : Form) {t : Trail} {o : Outcome} (h : o ∈ f.matcher (.after text i) t) :
    ∃ k captures t', i ≤ k ∧ o = ⟨.after text k, captures, t'⟩ := by
  obtain ⟨owed, hfinds⟩ := f.matcher_finds text
  obtain ⟨hcursor, hspans⟩ := hfinds.sound i t o h
  have hle := (f.spans_forward text _ _ hspans).1
  obtain ⟨cursor, captures, t'⟩ := o
  exact ⟨_, captures, t', hle, by rw [← hcursor]⟩

theorem paired_self (f : Form) (i : Nat) (t : Trail) :
    List.Forall₂ (Paired text i (· = ·)) (f.matcher (.after text i) t)
      (f.matcher (.after text i) t) := by
  refine List.forall₂_same.2 fun o ho => ?_
  obtain ⟨k, captures, t', hle, rfl⟩ := f.stays ho
  exact ⟨hle, rfl⟩

theorem alike_self (f : Form) : Alike text f.matcher f.matcher := by
  refine ⟨(· = ·), rfl, ?_⟩
  rintro i t _ rfl
  exact f.paired_self i t

theorem alike_shift {f f' : Form} (d : Nat) (h : Alike text f.matcher f'.matcher) :
    Alike text (f.shift d).matcher (f'.shift d).matcher := by
  obtain ⟨R, h⟩ := h
  refine ⟨R, h.clear, fun i t t' ht => ?_⟩
  rw [f.matcher_shift, f'.matcher_shift]
  refine forall₂_map (h.step i t t' ht) ?_
  rintro _ _ ⟨hk, ht⟩
  exact ⟨hk, ht⟩

/-- Forms that are alike match the whole text with the same captures. -/
theorem matchWhole_of_alike {f f' : Form} (h : Alike text f.matcher f'.matcher) :
    f.matchWhole? text = f'.matchWhole? text := by
  obtain ⟨R, h⟩ := h
  have hstep := h.step 0 .clear .clear h.clear
  show ((f.matcher (.after text 0) .clear).find? Outcome.atEnd).map (·.captures) =
    ((f'.matcher (.after text 0) .clear).find? Outcome.atEnd).map (·.captures)
  generalize f.matcher (.after text 0) .clear = os, f'.matcher (.after text 0) .clear = os'
    at hstep ⊢
  induction hstep with
  | nil => rfl
  | cons ho _ ih =>
    obtain ⟨hk, ht⟩ := ho
    rw [List.find?_cons, List.find?_cons]
    simp only [Outcome.atEnd] at ih ⊢
    split
    · rfl
    · exact ih

end Form

end HttpRoutes.Expression
