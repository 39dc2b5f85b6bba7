import HttpRoutes.Expression.Matcher
import HttpRoutes.Proofs.Expression.FormShift

/-!
# What a match can capture

`Leads` is what every way of matching keeps to: it stays on the text it was given and captures
groups of the form alone. The numbers of the groups play no part in matching: with `d` more groups
in front, the same places are found with the same captures, each under a number `d` higher.
-/

namespace HttpRoutes.Expression

/-! ## Places and groups -/

/-- The way from `c` to `c'` stays on one text and captures only groups among `groups`. -/
structure Leads (groups : List Nat) (c c' : Cursor) (captures : List Capture) : Prop where
  onText : c'.pos + c'.rest.length = c.pos + c.rest.length
  mem : ∀ x ∈ captures, x.group ∈ groups

namespace Leads

variable {groups : List Nat} {a b c : Cursor} {xs ys : List Capture}

theorem refl (c : Cursor) : Leads groups c c [] := ⟨rfl, by simp⟩

theorem trans (hab : Leads groups a b xs) (hbc : Leads groups b c ys) :
    Leads groups a c (ys ++ xs) := by
  refine ⟨hbc.onText.trans hab.onText, fun x hx => ?_⟩
  rcases List.mem_append.1 hx with hx | hx
  · exact hbc.mem x hx
  · exact hab.mem x hx

theorem capture {index : Nat} (h : Leads groups a b xs) (hindex : index ∈ groups) :
    Leads groups a b (⟨index, a.pos, b.pos⟩ :: xs) := by
  refine ⟨h.onText, fun x hx => ?_⟩
  rcases List.mem_cons.1 hx with rfl | hx
  · exact hindex
  · exact h.mem x hx

end Leads

/-- All outcomes of a matcher are led to. -/
def Sound (groups : List Nat) (m : Matcher) : Prop :=
  ∀ c t, ∀ o ∈ m c t, Leads groups c o.cursor o.captures

theorem mem_of_mem_keepFirst {seen : Positions} {os : List Outcome} {o : Outcome}
    (h : o ∈ keepFirst seen os) : o ∈ os := by
  induction os generalizing seen with
  | nil => exact h
  | cons p os ih =>
    rw [keepFirst] at h
    split at h
    · exact List.mem_cons_of_mem _ (ih h)
    · rcases List.mem_cons.1 h with rfl | h
      · exact List.mem_cons_self
      · exact List.mem_cons_of_mem _ (ih h)

namespace Matcher

variable {groups : List Nat} {a b m : Matcher}

theorem sound_nothing : Sound groups nothing := by
  intro c t o ho
  rw [List.mem_singleton.1 ho]
  exact .refl c

theorem sound_one (test : Char → Bool) : Sound groups (one test) := by
  intro c t o ho
  unfold one at ho
  split at ho
  · exact absurd ho (by simp)
  · next ch rest hrest =>
    split at ho
    · rw [List.mem_singleton.1 ho]
      refine ⟨?_, by simp⟩
      rw [hrest, List.length_cons]
      dsimp only
      omega
    · exact absurd ho (by simp)

theorem advance_onText {text : List Char} {c c' : Cursor} (h : advance? text c = some c') :
    c'.pos + c'.rest.length = c.pos + c.rest.length := by
  induction text generalizing c with
  | nil => cases h; rfl
  | cons ch text ih =>
    unfold advance? at h
    split at h
    · exact absurd h (by simp)
    · next x rest hrest =>
      split at h
      · rw [ih h, hrest, List.length_cons]
        dsimp only
        omega
      · exact absurd h (by simp)

theorem sound_literal (text : List Char) : Sound groups (literal text) := by
  intro c t o ho
  unfold literal at ho
  split at ho
  · exact absurd ho (by simp)
  · next c' hc' =>
    rw [List.mem_singleton.1 ho]
    exact ⟨advance_onText hc', by simp⟩

theorem sound_look (l : Look) : Sound groups (look l) := by
  intro c t o ho
  unfold look at ho
  split at ho
  · rw [List.mem_singleton.1 ho]
    exact .refl c
  · exact absurd ho (by simp)

theorem sound_seq (ha : Sound groups a) (hb : Sound groups b) : Sound groups (a.seq b) := by
  intro c t o ho
  obtain ⟨first, hfirst, ho⟩ := List.mem_flatMap.1 (mem_of_mem_keepFirst ho)
  obtain ⟨second, hsecond, rfl⟩ := List.mem_map.1 ho
  exact (ha _ _ _ hfirst).trans (hb _ _ _ hsecond)

theorem sound_alt (ha : Sound groups a) (hb : Sound groups b) : Sound groups (a.alt b) := by
  intro c t o ho
  unfold alt at ho
  split at ho
  · exact absurd ho (by simp)
  · rcases List.mem_append.1 (mem_of_mem_keepFirst ho) with ho | ho
    · obtain ⟨first, hfirst, rfl⟩ := List.mem_map.1 ho
      exact ha c t.left first hfirst
    · obtain ⟨second, hsecond, rfl⟩ := List.mem_map.1 ho
      exact hb c t.right second hsecond

theorem sound_capture {index : Nat} (hm : Sound groups m) (hindex : index ∈ groups) :
    Sound groups (m.capture index) := by
  intro c t o ho
  obtain ⟨inner, hinner, rfl⟩ := List.mem_map.1 ho
  exact (hm _ _ _ hinner).capture hindex

theorem sound_optional (greedy : Bool) (hm : Sound groups m) :
    Sound groups (optional greedy m) := by
  intro c t o ho
  unfold optional at ho
  split at ho
  · exact absurd ho (by simp)
  · replace ho := mem_of_mem_keepFirst ho
    -- Greed changes the order of the two ways alone.
    have hcases : o ∈ (m c t.left).map (fun o =>
        { o with trail := .node (o.cursor.pos = c.pos) o.trail .clear }) ∨
        o = ⟨c, [], .node true t.left .clear⟩ := by
      cases greedy <;> simpa [or_comm] using ho
    rcases hcases with ho | rfl
    · obtain ⟨taken, htaken, rfl⟩ := List.mem_map.1 ho
      exact hm c t.left taken htaken
    · exact .refl c

/-- What a loop has found, and will find, it has been led to from the start. -/
theorem sound_sweep (greedy : Bool) (hm : Sound groups m) {start : Cursor} (n : Nat) {c : Cursor}
    {captures : List Capture} {t : Trail} {s : Sweep} (hc : Leads groups start c captures)
    (hs : ∀ o ∈ s.found, Leads groups start o.cursor o.captures) :
    ∀ o ∈ (sweep m greedy n c captures t s).found, Leads groups start o.cursor o.captures := by
  induction n generalizing c captures t s with
  | zero => exact hs
  | succ n ih =>
    -- A further round starts at each outcome of the body, with what is found so far.
    have hround (s : Sweep) (hs : ∀ o ∈ s.found, Leads groups start o.cursor o.captures)
        (os : List Outcome) (hos : ∀ o ∈ os, Leads groups c o.cursor o.captures) :
        ∀ o ∈ (os.foldl (fun s o => sweep m greedy n o.cursor (o.captures ++ captures) o.trail s)
          s).found, Leads groups start o.cursor o.captures := by
      induction os generalizing s with
      | nil => exact hs
      | cons o os ihos =>
        exact ihos _ (ih (hc.trans (hos o List.mem_cons_self)) hs)
          fun o ho => hos o (List.mem_cons_of_mem _ ho)
    -- Or the loop is left here.
    have hstop (s : Sweep) (hs : ∀ o ∈ s.found, Leads groups start o.cursor o.captures)
        (t : Trail) :
        ∀ o ∈ (⟨c, captures, t⟩ : Outcome) :: s.found, Leads groups start o.cursor o.captures := by
      intro o ho
      rcases List.mem_cons.1 ho with rfl | ho
      · exact hc
      · exact hs o ho
    rw [sweep]
    split
    · exact hs
    · dsimp only
      split
      · exact hstop _ (hround ⟨s.visited.insert c.pos, s.found⟩ hs _ (hm c t)) _
      · exact hround _ (hstop ⟨s.visited.insert c.pos, s.found⟩ hs _) _ (hm c t)

theorem sound_many (greedy : Bool) (hm : Sound groups m) : Sound groups (many greedy m) := by
  intro c t o ho
  exact sound_sweep greedy hm _ (.refl c) (by simp [loopStart]) o (List.mem_reverse.1 ho)

theorem sound_atLeastOnce (greedy : Bool) (hm : Sound groups m) :
    Sound groups (atLeastOnce greedy m) := by
  intro c t o ho
  have hround (os : List Outcome) (hos : ∀ o ∈ os, Leads groups c o.cursor o.captures) (s : Sweep)
      (hs : ∀ o ∈ s.found, Leads groups c o.cursor o.captures) :
      ∀ o ∈ (os.foldl (fun s o => sweep m greedy (c.rest.length + 1) o.cursor o.captures o.trail s)
        s).found, Leads groups c o.cursor o.captures := by
    induction os generalizing s with
    | nil => exact hs
    | cons o os ih =>
      exact ih (fun o ho => hos o (List.mem_cons_of_mem _ ho)) _
        (sound_sweep greedy hm _ (hos o List.mem_cons_self) hs)
  exact hround _ (hm c _) _ (by simp [loopStart]) o (List.mem_reverse.1 ho)

theorem sound_times (hm : Sound groups m) (n : Nat) : Sound groups (m.times n) := by
  induction n with
  | zero => exact sound_nothing
  | succ n ih =>
    cases n with
    | zero => exact hm
    | succ n => exact sound_seq ih hm

theorem sound_upTo (greedy : Bool) (hm : Sound groups m) (n : Nat) :
    Sound groups (m.upTo greedy n) := by
  induction n with
  | zero => exact sound_nothing
  | succ n ih => exact sound_optional greedy (sound_seq hm ih)

theorem sound_repeated (min : Nat) (max : Option Nat) (greedy consumes : Bool)
    (hm : Sound groups m) : Sound groups (m.repeated min max greedy consumes) := by
  cases max with
  | some max => exact sound_seq (sound_times hm _) (sound_upTo greedy hm _)
  | none =>
    match min with
    | 0 =>
      cases consumes with
      | true => exact sound_many greedy hm
      | false => exact sound_optional greedy (sound_atLeastOnce greedy hm)
    | 1 => exact sound_atLeastOnce greedy hm
    | n + 2 => exact sound_seq (sound_times hm _) (sound_atLeastOnce greedy hm)

end Matcher

/-- A form captures its own groups alone. -/
theorem Form.sound {groups : List Nat} (f : Form) (h : ∀ n ∈ f.groups, n ∈ groups) :
    Sound groups f.matcher := by
  induction f with
  | empty => exact Matcher.sound_nothing
  | literal text => exact Matcher.sound_literal text
  | chars _ set => exact Matcher.sound_one _
  | look l => exact Matcher.sound_look l
  | repetition _ _ _ _ ih => exact Matcher.sound_repeated _ _ _ _ (ih h)
  | capture index body ih =>
    exact Matcher.sound_capture (ih fun n hn => h n (List.mem_cons_of_mem _ hn))
      (h index List.mem_cons_self)
  | seq _ _ ih₁ ih₂ =>
    exact Matcher.sound_seq (ih₁ fun n hn => h n (List.mem_append_left _ hn))
      (ih₂ fun n hn => h n (List.mem_append_right _ hn))
  | alt _ _ ih₁ ih₂ =>
    exact Matcher.sound_alt (ih₁ fun n hn => h n (List.mem_append_left _ hn))
      (ih₂ fun n hn => h n (List.mem_append_right _ hn))

/-! ## Groups in front -/

/-- Count `d` more groups in front. -/
def Capture.shift (d : Nat) (x : Capture) : Capture := { x with group := x.group + d }

/-- Count `d` more groups in front. -/
def Outcome.shift (d : Nat) (o : Outcome) : Outcome :=
  { o with captures := o.captures.map (Capture.shift d) }

/-- The second matcher is the first with `d` more groups in front. -/
def Shifts (d : Nat) (m m' : Matcher) : Prop := ∀ c t, m' c t = (m c t).map (Outcome.shift d)

variable {d : Nat}

theorem keepFirst_shift (seen : Positions) (os : List Outcome) :
    keepFirst seen (os.map (Outcome.shift d)) = (keepFirst seen os).map (Outcome.shift d) := by
  induction os generalizing seen with
  | nil => rfl
  | cons o os ih =>
    have hpos : (o.shift d).cursor.pos = o.cursor.pos := rfl
    rw [List.map_cons, keepFirst, keepFirst, ih, ih, hpos]
    split <;> rfl

namespace Matcher

variable {a a' b b' m m' : Matcher}

theorem shifts_nothing : Shifts d nothing nothing := fun _ _ => rfl

theorem shifts_one (test : Char → Bool) : Shifts d (one test) (one test) := by
  intro c t
  unfold one
  split
  · rfl
  · split <;> rfl

theorem shifts_literal (text : List Char) : Shifts d (literal text) (literal text) := by
  intro c t
  unfold literal
  split <;> rfl

theorem shifts_look (l : Look) : Shifts d (look l) (look l) := by
  intro c t
  unfold look
  split <;> rfl

theorem shifts_seq (ha : Shifts d a a') (hb : Shifts d b b') :
    Shifts d (a.seq b) (a'.seq b') := by
  intro c t
  simp only [seq, ha c, hb _, List.flatMap_map, List.map_map, ← keepFirst_shift, List.map_flatMap]
  congr 1
  refine List.flatMap_congr fun o _ => List.map_congr_left fun o' _ => ?_
  simp only [Outcome.shift, Function.comp_apply, List.map_append]
  rfl

theorem shifts_alt (ha : Shifts d a a') (hb : Shifts d b b') :
    Shifts d (a.alt b) (a'.alt b') := by
  intro c t
  simp only [alt, ha c, hb c]
  split
  · rfl
  · rw [← keepFirst_shift, List.map_append, List.map_map, List.map_map, List.map_map, List.map_map]
    rfl

theorem shifts_capture (index : Nat) (hm : Shifts d m m') :
    Shifts d (m.capture index) (m'.capture (index + d)) := by
  intro c t
  simp only [capture, hm c, List.map_map]
  rfl

theorem shifts_optional (greedy : Bool) (hm : Shifts d m m') :
    Shifts d (optional greedy m) (optional greedy m') := by
  intro c t
  simp only [optional, hm c]
  split
  · rfl
  · rw [← keepFirst_shift, List.map_map]
    cases greedy with
    | true =>
      simp only [if_true, List.map_append, List.map_map]
      rfl
    | false =>
      simp only [Bool.false_eq_true, if_false, List.map_append, List.map_map]
      rfl

/-- Count `d` more groups in front. -/
def Sweep.shift (d : Nat) (s : Sweep) : Sweep := { s with found := s.found.map (Outcome.shift d) }

theorem shifts_sweep (greedy : Bool) (hm : Shifts d m m') (n : Nat) (c : Cursor)
    (captures : List Capture) (t : Trail) (s : Sweep) :
    sweep m' greedy n c (captures.map (Capture.shift d)) t (s.shift d) =
      (sweep m greedy n c captures t s).shift d := by
  induction n generalizing c captures t s with
  | zero => rfl
  | succ n ih =>
    have hround (os : List Outcome) (s : Sweep) :
        (os.map (Outcome.shift d)).foldl (fun s o => sweep m' greedy n o.cursor
          (o.captures ++ captures.map (Capture.shift d)) o.trail s) (s.shift d) =
        (os.foldl (fun s o => sweep m greedy n o.cursor (o.captures ++ captures) o.trail s)
          s).shift d := by
      induction os generalizing s with
      | nil => rfl
      | cons o os ihos =>
        rw [List.map_cons, List.foldl_cons, List.foldl_cons, ← ihos, ← ih, List.map_append]
        rfl
    -- The places visited do not depend on numbers, so both loops take the same rounds.
    have hvisited : (s.shift d).visited = s.visited := rfl
    rw [sweep, sweep, hvisited, hm c t]
    split
    · rfl
    · dsimp only
      have hagain := hround (m c t)
      split
      · have h := hagain ⟨s.visited.insert c.pos, s.found⟩
        simp only [Sweep.shift] at h ⊢
        rw [h]
        rfl
      · exact hagain ⟨s.visited.insert c.pos, ⟨c, captures, .node true t .clear⟩ :: s.found⟩

theorem shifts_many (greedy : Bool) (hm : Shifts d m m') :
    Shifts d (many greedy m) (many greedy m') := by
  intro c t
  have h := shifts_sweep greedy hm (c.rest.length + 1) c [] t.left (loopStart c t)
  have hstart : (loopStart c t).shift d = loopStart c t := rfl
  rw [List.map_nil, hstart] at h
  unfold many
  rw [h]
  exact List.map_reverse.symm

theorem shifts_atLeastOnce (greedy : Bool) (hm : Shifts d m m') :
    Shifts d (atLeastOnce greedy m) (atLeastOnce greedy m') := by
  intro c t
  have hround (os : List Outcome) (s : Sweep) :
      (os.map (Outcome.shift d)).foldl (fun s o => sweep m' greedy (c.rest.length + 1) o.cursor
        o.captures o.trail s) (s.shift d) =
      (os.foldl (fun s o => sweep m greedy (c.rest.length + 1) o.cursor o.captures o.trail s)
        s).shift d := by
    induction os generalizing s with
    | nil => rfl
    | cons o os ih =>
      rw [List.map_cons, List.foldl_cons, List.foldl_cons, ← ih, ← shifts_sweep greedy hm]
      rfl
  have hstart : (loopStart c t).shift d = loopStart c t := rfl
  have h := hround (m c t.left) (loopStart c t)
  rw [hstart] at h
  unfold atLeastOnce
  rw [hm c, h]
  exact List.map_reverse.symm

theorem shifts_times (hm : Shifts d m m') (n : Nat) : Shifts d (m.times n) (m'.times n) := by
  induction n with
  | zero => exact shifts_nothing
  | succ n ih =>
    cases n with
    | zero => exact hm
    | succ n => exact shifts_seq ih hm

theorem shifts_upTo (greedy : Bool) (hm : Shifts d m m') (n : Nat) :
    Shifts d (m.upTo greedy n) (m'.upTo greedy n) := by
  induction n with
  | zero => exact shifts_nothing
  | succ n ih => exact shifts_optional greedy (shifts_seq hm ih)

theorem shifts_repeated (min : Nat) (max : Option Nat) (greedy consumes : Bool)
    (hm : Shifts d m m') :
    Shifts d (m.repeated min max greedy consumes) (m'.repeated min max greedy consumes) := by
  cases max with
  | some max => exact shifts_seq (shifts_times hm _) (shifts_upTo greedy hm _)
  | none =>
    match min with
    | 0 =>
      cases consumes with
      | true => exact shifts_many greedy hm
      | false => exact shifts_optional greedy (shifts_atLeastOnce greedy hm)
    | 1 => exact shifts_atLeastOnce greedy hm
    | n + 2 => exact shifts_seq (shifts_times hm _) (shifts_atLeastOnce greedy hm)

end Matcher

/-- More groups in front change the numbers of the captures and nothing else. -/
theorem Form.matcher_shift (f : Form) : Shifts d f.matcher (f.shift d).matcher := by
  induction f with
  | empty => exact Matcher.shifts_nothing
  | literal text => exact Matcher.shifts_literal text
  | chars _ set => exact Matcher.shifts_one _
  | look l => exact Matcher.shifts_look l
  | repetition _ _ _ body ih =>
    rw [shift, matcher, matcher, minLength_shift]
    exact Matcher.shifts_repeated _ _ _ _ ih
  | capture index body ih => exact Matcher.shifts_capture index ih
  | seq _ _ ih₁ ih₂ => exact Matcher.shifts_seq ih₁ ih₂
  | alt _ _ ih₁ ih₂ => exact Matcher.shifts_alt ih₁ ih₂

end HttpRoutes.Expression
