import HttpRoutes.Proofs.Expression.Alike
import HttpRoutes.Proofs.Expression.KeepFirst
import HttpRoutes.Proofs.Expression.Traces

/-!
# Laws of sequences

A sequence may be put together in any order: sequences of three are alike however they nest
(`Form.seq_assoc`), the empty form adds nothing on either side, and two literals in a row are alike
to one. So bringing a sequence into its normal form changes neither where it leads, nor which way is
preferred, nor what it captures (`Form.similar_concat`).
-/

namespace HttpRoutes.Expression

/-! ## Trails -/

namespace Trail

@[simp] theorem here_node (here : Bool) (l r : Trail) : (node here l r).here = here := rfl

@[simp] theorem left_node (here : Bool) (l r : Trail) : (node here l r).left = l := rfl

@[simp] theorem right_node (here : Bool) (l r : Trail) : (node here l r).right = r := rfl

@[simp] theorem here_clear : clear.here = false := rfl

@[simp] theorem left_clear : clear.left = clear := rfl

@[simp] theorem right_clear : clear.right = clear := rfl

@[simp] theorem keptIf_true (t : Trail) : t.keptIf true = t := rfl

@[simp] theorem keptIf_false (t : Trail) : t.keptIf false = .clear := rfl

theorem left_keptIf (t : Trail) (unmoved : Bool) :
    (t.keptIf unmoved).left = t.left.keptIf unmoved := by
  cases unmoved <;> rfl

theorem right_keptIf (t : Trail) (unmoved : Bool) :
    (t.keptIf unmoved).right = t.right.keptIf unmoved := by
  cases unmoved <;> rfl

theorem here_keptIf (t : Trail) (unmoved : Bool) :
    (t.keptIf unmoved).here = (unmoved && t.here) := by
  cases unmoved <;> rfl

/-- Going on in two steps, nothing has moved if it has moved in neither. -/
theorem keptIf_keptIf (t : Trail) {i j k : Nat} (hij : i ≤ j) (hjk : j ≤ k) :
    (t.keptIf (decide (j = i))).keptIf (decide (k = j)) = t.keptIf (decide (k = i)) := by
  by_cases h : k = i
  · obtain rfl : j = i := by omega
    simp [h]
  · by_cases hk : k = j
    · subst hk
      simp [h]
    · simp [h, hk]

end Trail

@[simp] theorem Cursor.pos_after (text : List Char) (i : Nat) : (after text i).pos = i := rfl

/-! ## Ways in a row -/

/-- Two ways in a row as one. -/
def Outcome.andThen (o o' : Outcome) : Outcome :=
  ⟨o'.cursor, o'.captures ++ o.captures,
    .node false (o.trail.keptIf (o'.cursor.pos = o.cursor.pos)) o'.trail⟩

namespace Form

variable {text : List Char} {i : Nat} {t : Trail}

/-- All ways to match one form and then another, also several to one place. -/
def ways (a b : Form) (c : Cursor) (t : Trail) : List Outcome :=
  (a.matcher c t.left).flatMap fun o =>
    (b.matcher o.cursor (t.right.keptIf (o.cursor.pos = c.pos))).map o.andThen

theorem matcher_seq (a b : Form) (c : Cursor) (t : Trail) :
    (Form.seq a b).matcher c t = keepFirst .empty (ways a b c t) := rfl

theorem ways_stays {a b : Form} {o : Outcome} (h : o ∈ ways a b (.after text i) t) :
    o.cursor = .after text o.cursor.pos := by
  obtain ⟨first, hfirst, h⟩ := List.mem_flatMap.1 h
  obtain ⟨second, hsecond, rfl⟩ := List.mem_map.1 h
  obtain ⟨k, captures, t', -, rfl⟩ := a.stays hfirst
  obtain ⟨l, captures', t'', -, rfl⟩ := b.stays hsecond
  rfl

/-- Where a form goes on to depends on the place it starts from, not on the way there. -/
theorem sameFirst_ways (a b c : Form) (i : Nat) (t : Trail) :
    SameFirst (ways (.seq a b) c (.after text i) t)
      ((ways a b (.after text i) t.left).flatMap fun o =>
        (c.matcher o.cursor (t.right.keptIf (o.cursor.pos = i))).map o.andThen) := by
  refine sameFirst_flatMap fun o ho o' ho' hpos x hx => ?_
  have hcursor : o'.cursor = o.cursor := by rw [ways_stays ho, ways_stays ho', hpos]
  obtain ⟨y, hy, rfl⟩ := List.mem_map.1 hx
  exact ⟨o'.andThen y, List.mem_map_of_mem (hcursor ▸ hy), rfl⟩

/-- Lists of ways are paired one by one if they have the same first ways as lists that are. -/
theorem paired_of_sameFirst {R : Trail → Trail → Prop} {xs ys xs' ys' : List Outcome}
    (h : SameFirst xs ys) (h' : SameFirst xs' ys') (hys : List.Forall₂ (Paired text i R) ys ys') :
    List.Forall₂ (Paired text i R) (keepFirst .empty xs) (keepFirst .empty xs') := by
  rw [h, h']
  exact Paired.keepFirst hys _

/-! ## Sequences -/

theorem seq_assoc (a b c : Form) :
    Alike text (Form.seq (.seq a b) c).matcher (Form.seq a (.seq b c)).matcher := by
  refine ⟨fun t t' => t.left.left = t'.left ∧ t.left.right = t'.right.left ∧
    t.right = t'.right.right, ⟨rfl, rfl, rfl⟩, ?_⟩
  rintro i t t' ⟨ha, hb, hc⟩
  have hright : SameFirst (ways a (.seq b c) (.after text i) t')
      ((a.matcher (.after text i) t'.left).flatMap fun o =>
        (ways b c o.cursor (t'.right.keptIf (o.cursor.pos = i))).map o.andThen) :=
    .flatMap fun o _ => (sameFirst_keepFirst _).map fun _ => rfl
  rw [matcher_seq, matcher_seq]
  refine paired_of_sameFirst (sameFirst_ways a b c i t) hright ?_
  simp only [ways, List.flatMap_assoc, List.flatMap_map, List.map_flatMap, List.map_map,
    Trail.left_keptIf, Trail.right_keptIf, ha, hb, hc]
  refine List.rel_flatMap (a.paired_self i _) ?_
  rintro _ _ (@⟨k, captures, τ, _, hk, rfl⟩)
  refine List.rel_flatMap (b.paired_self k _) ?_
  rintro _ _ (@⟨l, captures', τ', _, hl, rfl⟩)
  have hkept (s : Trail) : (s.keptIf (k = i)).keptIf (l = k) = s.keptIf (l = i) :=
    s.keptIf_keptIf hk hl
  show List.Forall₂ _ (List.map _ (c.matcher (.after text l) (t'.right.right.keptIf (l = i))))
    (List.map _ (c.matcher (.after text l) ((t'.right.right.keptIf (k = i)).keptIf (l = k))))
  rw [hkept]
  refine forall₂_map (c.paired_self l _) ?_
  rintro _ _ (@⟨m, captures'', τ'', _, hm, rfl⟩)
  simp only [Outcome.andThen, Function.comp_apply, List.append_assoc]
  exact ⟨hk.trans (hl.trans hm), (Trail.left_keptIf _ _).trans (τ.keptIf_keptIf hl hm),
    Trail.right_keptIf _ _, rfl⟩

/-- A form is alike to a sequence that only passes on what the form lists. -/
theorem paired_passed {R : Trail → Trail → Prop} {g : Outcome → Outcome} (f : Form)
    (hg : ∀ o, (g o).cursor = o.cursor ∧ (g o).captures = o.captures ∧ R (g o).trail o.trail)
    (i : Nat) (t : Trail) :
    List.Forall₂ (Paired text i R) (keepFirst .empty ((f.matcher (.after text i) t).map g))
      (f.matcher (.after text i) t) := by
  rw [((f.distinct _ _).map fun o => (hg o).1).keepFirst_eq]
  refine List.forall₂_map_left_iff.2 ((f.paired_self i t).imp ?_)
  rintro _ _ (@⟨k, captures, τ, _, hk, rfl⟩)
  obtain ⟨hcursor, hcaptures, htrail⟩ := hg ⟨.after text k, captures, τ⟩
  generalize g _ = o at *
  obtain ⟨_, _, τ'⟩ := o
  dsimp only at *
  subst hcursor hcaptures
  exact ⟨hk, htrail⟩

theorem empty_seq (f : Form) : Alike text (Form.seq .empty f).matcher f.matcher := by
  refine ⟨fun t t' => t.right = t', rfl, ?_⟩
  rintro i t _ rfl
  have hways : ways .empty f (.after text i) t =
      (f.matcher (.after text i) t.right).map (Outcome.andThen ⟨.after text i, [], t.left⟩) := by
    simp [ways, matcher, Matcher.nothing, Cursor.after]
  rw [matcher_seq, hways]
  refine f.paired_passed ?_ i _
  exact fun o => ⟨rfl, List.append_nil _, rfl⟩

theorem seq_empty (f : Form) : Alike text (Form.seq f .empty).matcher f.matcher := by
  refine ⟨fun t t' => t.left = t', rfl, ?_⟩
  rintro i t _ rfl
  have hways : ways f .empty (.after text i) t = (f.matcher (.after text i) t.left).map fun o =>
      o.andThen ⟨o.cursor, [], t.right.keptIf (o.cursor.pos = i)⟩ := List.flatMap_pure_eq_map _ _
  rw [matcher_seq, hways]
  refine f.paired_passed ?_ i _
  exact fun o => ⟨rfl, rfl, by simp [Outcome.andThen, Trail.left]⟩

theorem matcher_literal (s : List Char) (i : Nat) (t : Trail) :
    (Form.literal s).matcher (.after text i) t =
      if s <+: text.drop i then [⟨.after text (i + s.length), [], .clear⟩] else [] := by
  unfold matcher Matcher.literal
  split
  · next hnone =>
    rw [if_neg]
    intro h
    rw [Matcher.advance_eq_some.2 ⟨h, rfl⟩] at hnone
    cases hnone
  · next hsome =>
    obtain ⟨h, rfl⟩ := Matcher.advance_eq_some.1 hsome
    rw [if_pos h]

/-- Two literals in a row are alike to one. -/
theorem literal_append (s u : List Char) : Alike text (Form.literal (s ++ u)).matcher
    (Form.seq (.literal s) (.literal u)).matcher := by
  refine ⟨fun _ _ => True, trivial, fun i t t' _ => ?_⟩
  rw [matcher_seq, ways, matcher_literal, matcher_literal]
  by_cases hs : s <+: text.drop i
  · rw [if_pos hs, List.flatMap_singleton, matcher_literal]
    by_cases hu : u <+: text.drop (i + s.length)
    · rw [if_pos hu, if_pos (append_prefix_drop.2 ⟨hs, hu⟩), List.length_append, ← Nat.add_assoc,
        List.map_singleton, keepFirst_singleton]
      exact .cons (.intro (by omega) trivial) .nil
    · rw [if_neg hu, if_neg fun h => hu (append_prefix_drop.1 h).2]
      exact .nil
  · rw [if_neg hs, if_neg fun h => hs (append_prefix_drop.1 h).1]
    exact .nil

/-! ## Similar forms -/

/-- The forms are alike on the text, and what decides how they are repeated is the same. -/
structure Similar (text : List Char) (f f' : Form) : Prop where
  alike : Alike text f.matcher f'.matcher
  minLength : f.minLength = f'.minLength
  isAlwaysEmpty : f.isAlwaysEmpty = f'.isAlwaysEmpty

namespace Similar

variable {f f' g g' h : Form}

theorem refl (f : Form) : Similar text f f := ⟨f.alike_self, rfl, rfl⟩

theorem symm (hf : Similar text f g) : Similar text g f :=
  ⟨hf.alike.symm, hf.minLength.symm, hf.isAlwaysEmpty.symm⟩

theorem trans (hf : Similar text f g) (hg : Similar text g h) : Similar text f h :=
  ⟨hf.alike.trans hg.alike, hf.minLength.trans hg.minLength,
    hf.isAlwaysEmpty.trans hg.isAlwaysEmpty⟩

theorem seq (hf : Similar text f f') (hg : Similar text g g') :
    Similar text (.seq f g) (.seq f' g') :=
  ⟨hf.alike.seq hg.alike, by simp only [Form.minLength, hf.minLength, hg.minLength],
    by simp only [Form.isAlwaysEmpty, hf.isAlwaysEmpty, hg.isAlwaysEmpty]⟩

theorem alt (hf : Similar text f f') (hg : Similar text g g') :
    Similar text (.alt f g) (.alt f' g') :=
  ⟨hf.alike.alt hg.alike, by simp only [Form.minLength, hf.minLength, hg.minLength],
    by simp only [Form.isAlwaysEmpty, hf.isAlwaysEmpty, hg.isAlwaysEmpty]⟩

theorem capture (index : Nat) (hf : Similar text f f') :
    Similar text (.capture index f) (.capture index f') :=
  ⟨hf.alike.capture index, hf.minLength, hf.isAlwaysEmpty⟩

theorem repetition (least : Nat) (most : Option Nat) (greedy : Bool) (hf : Similar text f f') :
    Similar text (.repetition least most greedy f) (.repetition least most greedy f') := by
  refine ⟨?_, by simp only [Form.minLength, hf.minLength],
    by simp only [Form.isAlwaysEmpty, hf.isAlwaysEmpty]⟩
  unfold matcher
  rw [hf.minLength]
  exact hf.alike.repeated least most greedy _

theorem repeated (least : Nat) (most : Option Nat) (greedy : Bool) (hf : Similar text f f') :
    Similar text (.repeated least most greedy f) (.repeated least most greedy f') := by
  have hbounds (a : Nat) (b : Option Nat) :
      Similar text
        (if a = 0 ∧ b = some 0 then .empty
          else if a = 1 ∧ b = some 1 then f else .repetition a b greedy f)
        (if a = 0 ∧ b = some 0 then .empty
          else if a = 1 ∧ b = some 1 then f' else .repetition a b greedy f') := by
    split
    · exact refl _
    · split
      · exact hf
      · exact hf.repetition a b greedy
  unfold Form.repeated
  rw [hf.isAlwaysEmpty]
  exact hbounds _ _

theorem shift (d : Nat) (hf : Similar text f f') : Similar text (f.shift d) (f'.shift d) :=
  ⟨alike_shift d hf.alike, by simp only [minLength_shift, hf.minLength],
    by simp only [isAlwaysEmpty_shift, hf.isAlwaysEmpty]⟩

end Similar

/-! ## Normal form -/

/-- The forms in a row, nested to the right. -/
def chain (forms : List Form) : Form := forms.foldr .seq .empty

theorem similar_assoc (a b c : Form) :
    Similar text (.seq (.seq a b) c) (.seq a (.seq b c)) where
  alike := seq_assoc a b c
  minLength := by
    simp only [minLength]
    cases a.minLength <;> cases b.minLength <;> cases c.minLength <;> simp [Nat.add_assoc]
  isAlwaysEmpty := by simp only [isAlwaysEmpty, Bool.and_assoc]

theorem similar_empty_seq (f : Form) : Similar text (.seq .empty f) f :=
  ⟨empty_seq f, by cases h : f.minLength <;> simp [minLength, h], by simp [isAlwaysEmpty]⟩

theorem similar_seq_empty (f : Form) : Similar text (.seq f .empty) f :=
  ⟨seq_empty f, by cases h : f.minLength <;> simp [minLength, h], by simp [isAlwaysEmpty]⟩

theorem similar_literal_append (s u : List Char) :
    Similar text (.literal (s ++ u)) (.seq (.literal s) (.literal u)) :=
  ⟨literal_append s u, by simp [minLength], by cases s <;> simp [isAlwaysEmpty]⟩

theorem chain_append (fs gs : List Form) :
    Similar text (chain (fs ++ gs)) (.seq (chain fs) (chain gs)) := by
  induction fs with
  | nil => exact (similar_empty_seq _).symm
  | cons f fs ih => exact ((Similar.refl f).seq ih).trans (similar_assoc _ _ _).symm

theorem chain_factorsOnto (f : Form) (rest : List Form) :
    Similar text (chain (f.factorsOnto rest)) (chain (f :: rest)) := by
  induction f generalizing rest with
  | empty => exact (similar_empty_seq _).symm
  | seq init last ih => exact (ih _).trans (similar_assoc _ _ _).symm
  | _ => exact .refl _

theorem chain_factors (f : Form) : Similar text (chain f.factors) f :=
  (chain_factorsOnto f []).trans (similar_seq_empty f)

theorem similar_ofFactors (fs : List Form) : Similar text (ofFactors fs) (chain fs) := by
  cases fs with
  | nil => exact .refl _
  | cons f rest =>
    show Similar text (rest.foldl .seq f) _
    induction rest generalizing f with
    | nil => exact (similar_seq_empty f).symm
    | cons g rest ih => exact (ih (.seq f g)).trans (similar_assoc _ _ _)

theorem chain_consFactor (f : Form) (rest : List Form) :
    Similar text (chain (consFactor f rest)) (chain (f :: rest)) := by
  unfold consFactor
  split
  · exact ((similar_literal_append _ _).seq (.refl _)).trans (similar_assoc _ _ _)
  · exact .refl _

/-- A sequence in normal form is alike to the forms in a row. -/
theorem similar_concat (forms : List Form) : Similar text (concat forms) (chain forms) := by
  have hmerge (fs : List Form) : Similar text (chain (fs.foldr consFactor [])) (chain fs) := by
    induction fs with
    | nil => exact .refl _
    | cons f fs ih => exact (chain_consFactor f _).trans ((Similar.refl f).seq ih)
  have hflat : Similar text (chain (forms.flatMap factors)) (chain forms) := by
    induction forms with
    | nil => exact .refl _
    | cons f forms ih =>
      rw [List.flatMap_cons]
      exact (chain_append _ _).trans ((chain_factors f).seq ih)
  exact (similar_ofFactors _).trans ((hmerge _).trans hflat)

theorem chain_similar {forms forms' : List Form} (h : List.Forall₂ (Similar text) forms forms') :
    Similar text (chain forms) (chain forms') := by
  induction h with
  | nil => exact .refl _
  | cons hf _ ih => exact hf.seq ih

end Form

end HttpRoutes.Expression
