import HttpRoutes.Proofs.Expression.Laws
import HttpRoutes.Proofs.Expression.NormalSpans

/-!
# Laws of choices

A choice may be put together in any order: choices between three are alike however they nest
(`Form.alt_assoc`). A choice between single characters is alike to one set (`OneChar.alt`). So
flattening a choice, and joining branches that are all characters or all sets, changes neither where
it leads, nor which way is preferred.
-/

namespace HttpRoutes

namespace Text.CharSet

theorem isEmpty_insert (s : CharSet) (a b : Nat) : (s.insert a b).isEmpty = false := by
  obtain ⟨l⟩ := s
  show (insertRange a b l).isEmpty = false
  induction l generalizing a b with
  | nil => rfl
  | cons r rest ih =>
    unfold insertRange
    split
    · rfl
    · split
      · rfl
      · exact ih _ _

theorem isEmpty_union (s t : CharSet) : (s.union t).isEmpty = (s.isEmpty && t.isEmpty) := by
  obtain ⟨l⟩ := t
  show (l.foldl (fun acc r => acc.insert r.1 r.2) s).isEmpty = (s.isEmpty && l.isEmpty)
  induction l generalizing s with
  | nil => simp
  | cons r rest ih => simp [ih, isEmpty_insert]

end Text.CharSet

namespace Expression

/-! ## Nested choices -/

namespace Outcome

/-- A way as one of the first branch of a choice, made at a place with a trail in the second. -/
def asFirst (pos : Nat) (second : Trail) (o : Outcome) : Outcome :=
  let unmoved := o.cursor.pos = pos
  { o with trail := .node unmoved o.trail (second.keptIf unmoved) }

/-- A way as one of the second branch of a choice, made at a place with a trail in the first. -/
def asSecond (pos : Nat) (first : Trail) (o : Outcome) : Outcome :=
  let unmoved := o.cursor.pos = pos
  { o with trail := .node unmoved (first.keptIf unmoved) o.trail }

end Outcome

variable {text : List Char}

namespace Form

/-- All ways to match one form or another, also several to one place. -/
def either (a b : Form) (c : Cursor) (t : Trail) : List Outcome :=
  (a.matcher c t.left).map (·.asFirst c.pos t.right) ++
    (b.matcher c t.right).map (·.asSecond c.pos t.left)

theorem matcher_alt (a b : Form) (c : Cursor) (t : Trail) :
    (Form.alt a b).matcher c t = if t.here then [] else keepFirst .empty (either a b c t) := rfl

theorem alt_assoc (a b c : Form) :
    Alike text (Form.alt (.alt a b) c).matcher (Form.alt a (.alt b c)).matcher := by
  -- Where the choice itself may still be made, so may the choice inside it, on either side.
  refine ⟨fun t t' => t.here = t'.here ∧ (t.here = false → t.left.here = false ∧
    t'.right.here = false ∧ t.left.left = t'.left ∧ t.left.right = t'.right.left ∧
      t.right = t'.right.right), ⟨rfl, fun _ => ⟨rfl, rfl, rfl, rfl, rfl⟩⟩, ?_⟩
  rintro i t t' ⟨hhere, hparts⟩
  rw [matcher_alt, matcher_alt, ← hhere]
  split
  · exact .nil
  · next hfresh =>
    obtain ⟨hleft, hright, ha, hb, hc⟩ := hparts (Bool.not_eq_true _ ▸ hfresh)
    have hfirst : SameFirst (either (.alt a b) c (.after text i) t)
        ((either a b (.after text i) t.left).map (·.asFirst i t.right) ++
          (c.matcher (.after text i) t.right).map (·.asSecond i t.left)) := by
      rw [either, matcher_alt, if_neg (by simp [hleft])]
      exact .append (.map (sameFirst_keepFirst _) fun _ => rfl) (.refl _)
    have hsecond : SameFirst (either a (.alt b c) (.after text i) t')
        ((a.matcher (.after text i) t'.left).map (·.asFirst i t'.right) ++
          (either b c (.after text i) t'.right).map (·.asSecond i t'.left)) := by
      rw [either, matcher_alt, if_neg (by simp [hright])]
      exact .append (.refl _) (.map (sameFirst_keepFirst _) fun _ => rfl)
    refine paired_of_sameFirst hfirst hsecond ?_
    simp only [either, List.map_append, List.map_map, List.append_assoc, ha, hb, hc]
    refine List.rel_append (forall₂_map (a.paired_self i _) ?_)
      (List.rel_append (forall₂_map (b.paired_self i _) ?_) (forall₂_map (c.paired_self i _) ?_))
    all_goals
      rintro _ _ (@⟨k, captures, τ, _, hk, rfl⟩)
      refine ⟨hk, rfl, fun hmoved => ?_⟩
      have hne : k ≠ i := of_decide_eq_false hmoved
      simp [Outcome.asFirst, Outcome.asSecond, hne]

theorem similar_alt_assoc (a b c : Form) :
    Similar text (.alt (.alt a b) c) (.alt a (.alt b c)) where
  alike := alt_assoc a b c
  minLength := by
    simp only [minLength]
    cases a.minLength <;> cases b.minLength <;> cases c.minLength <;> simp [Nat.min_assoc]
  isAlwaysEmpty := by simp only [isAlwaysEmpty, Bool.and_assoc]

theorem ofChoices_similar {forms forms' : List Form}
    (h : List.Forall₂ (Similar text) forms forms') :
    Similar text (ofChoices forms) (ofChoices forms') := by
  induction h with
  | nil => exact .refl _
  | cons hf hrest ih =>
    cases hrest with
    | nil => exact hf
    | cons _ _ => exact hf.alt ih

theorem ofChoices_cons (f : Form) {rest : List Form} (h : rest ≠ []) :
    ofChoices (f :: rest) = .alt f (ofChoices rest) := by
  cases rest with
  | nil => exact absurd rfl h
  | cons g rest => rfl

theorem similar_ofChoices_append {fs gs : List Form} (hfs : fs ≠ []) (hgs : gs ≠ []) :
    Similar text (ofChoices (fs ++ gs)) (.alt (ofChoices fs) (ofChoices gs)) := by
  induction fs with
  | nil => exact absurd rfl hfs
  | cons f fs ih =>
    rw [List.cons_append, ofChoices_cons f (by simp [hgs])]
    by_cases hlast : fs = []
    · subst hlast
      exact .refl _
    · rw [ofChoices_cons f hlast]
      exact ((Similar.refl f).alt (ih hlast)).trans (similar_alt_assoc _ _ _).symm

theorem choices_ne_nil (f : Form) : f.choices ≠ [] := by
  cases f <;> exact List.cons_ne_nil _ _

theorem ofChoices_choices (f : Form) : ofChoices f.choices = f := by
  induction f with
  | alt first rest _ ih => rw [choices, ofChoices_cons _ rest.choices_ne_nil, ih]
  | _ => rfl

/-- A choice is alike to the choice between the branches of its branches. -/
theorem similar_flatMap_choices (forms : List Form) :
    Similar text (ofChoices (forms.flatMap choices)) (ofChoices forms) := by
  induction forms with
  | nil => exact .refl _
  | cons f rest ih =>
    rw [List.flatMap_cons]
    cases rest with
    | nil =>
      rw [List.flatMap_nil, List.append_nil, ofChoices_choices]
      exact .refl _
    | cons g rest =>
      have hrest : (g :: rest).flatMap choices ≠ [] := by simp [choices_ne_nil]
      refine (similar_ofChoices_append f.choices_ne_nil hrest).trans ?_
      rw [ofChoices_choices]
      exact (Similar.refl f).alt ih

end Form

/-! ## Single characters -/

/-- The form matches one character that passes the test. -/
structure OneChar (f : Form) (test : Char → Bool) : Prop where
  matcher : f.matcher = .one test
  minLength : f.minLength = some 1
  isAlwaysEmpty : f.isAlwaysEmpty = false

theorem matcher_one (test : Char → Bool) (i : Nat) (t : Trail) :
    Matcher.one test (.after text i) t =
      if (text[i]?).any test then [⟨.after text (i + 1), [], .clear⟩] else [] := by
  unfold Matcher.one
  rw [← List.head?_drop]
  cases hrest : text.drop i with
  | nil => simp [Cursor.after, hrest]
  | cons c rest =>
    rw [Cursor.after_succ hrest]
    simp only [Cursor.after, hrest, List.head?_cons, Option.any_some]
    rfl

theorem any_getElem {p q : Char → Bool} (h : ∀ c ∈ text, p c = q c) (i : Nat) :
    (text[i]?).any p = (text[i]?).any q := by
  cases hc : text[i]? with
  | none => rfl
  | some c => exact h c (List.mem_of_getElem? hc)

/-- Tests that agree on the characters of the text are alike on it. -/
theorem alike_one {p q : Char → Bool} (h : ∀ c ∈ text, p c = q c) :
    Alike text (.one p) (.one q) := by
  refine ⟨fun _ _ => True, trivial, fun i t t' _ => ?_⟩
  rw [matcher_one, matcher_one, any_getElem h]
  split
  · exact .cons (.intro (by omega) trivial) .nil
  · exact .nil

namespace OneChar

variable {f g h : Form} {p q r : Char → Bool}

theorem similar (hf : OneChar f p) (hg : OneChar g q) (hpq : ∀ c ∈ text, p c = q c) :
    Form.Similar text f g where
  alike := by
    rw [hf.matcher, hg.matcher]
    exact alike_one hpq
  minLength := hf.minLength.trans hg.minLength.symm
  isAlwaysEmpty := hf.isAlwaysEmpty.trans hg.isAlwaysEmpty.symm

/-- The choice between two characters is one character. -/
theorem alt (hf : OneChar f p) (hg : OneChar g q) (hh : OneChar h r)
    (hr : ∀ c ∈ text, r c = (p c || q c)) : Form.Similar text (.alt f g) h := by
  refine ⟨⟨fun t _ => t.here = false, rfl, fun i t t' hhere => ?_⟩, ?_, ?_⟩
  · have hsame : (text[i]?).any r = ((text[i]?).any p || (text[i]?).any q) := by
      rw [any_getElem hr]
      cases text[i]? <;> rfl
    rw [Form.matcher_alt, if_neg (by simp [hhere]), Form.either, hf.matcher, hg.matcher, hh.matcher,
      matcher_one, matcher_one, matcher_one, hsame]
    have hfirst : Paired text i (fun t _ => t.here = false)
        (Outcome.asFirst i t.right ⟨.after text (i + 1), [], .clear⟩)
        ⟨.after text (i + 1), [], .clear⟩ := .intro (by omega) (by simp)
    have hsecond : Paired text i (fun t _ => t.here = false)
        (Outcome.asSecond i t.left ⟨.after text (i + 1), [], .clear⟩)
        ⟨.after text (i + 1), [], .clear⟩ := .intro (by omega) (by simp)
    cases (text[i]?).any p <;> cases (text[i]?).any q
    · exact .nil
    · simpa using hsecond
    · simpa using hfirst
    · simpa [keepFirst] using ⟨hfirst, rfl⟩
  · simp [Form.minLength, hf.minLength, hg.minLength, hh.minLength]
  · simp [Form.isAlwaysEmpty, hf.isAlwaysEmpty, hg.isAlwaysEmpty, hh.isAlwaysEmpty]

end OneChar

namespace Form

open Text (CharSet)

theorem oneChar_literal (c : Char) : OneChar (.literal [c]) fun x => decide (c = x) := by
  refine ⟨?_, rfl, rfl⟩
  funext cursor t
  unfold matcher Matcher.literal Matcher.one Matcher.advance?
  cases cursor.rest with
  | nil => rfl
  | cons x rest =>
    by_cases h : c = x
    · simp [h, Matcher.advance?]
    · simp [h]

theorem oneChar_chars (unicode : Bool) {set : CharSet} (h : set.isEmpty = false) :
    OneChar (.chars unicode set) set.contains :=
  ⟨rfl, if_neg (by simp [h]), rfl⟩

theorem oneChar_ofSet (unicode : Bool) {set : CharSet} (hproper : set.Proper)
    (h : set.isEmpty = false) : OneChar (ofSet unicode set) set.contains := by
  unfold ofSet
  rw [if_neg (by simp [h])]
  split
  · next c hc =>
    have hsame : (fun x => decide (c = x)) = set.contains := by
      funext x
      rw [Bool.eq_iff_iff, hproper.contains_iff hc, decide_eq_true_eq, eq_comm]
    exact hsame ▸ oneChar_literal c
  · exact oneChar_chars unicode h

/-- Branches of one character each are alike to the set of their characters. -/
theorem similar_of_singleChars {forms : List Form} {set : CharSet} (hne : forms ≠ [])
    (h : singleChars? forms = some set) :
    set.isEmpty = false ∧ Similar text (ofChoices forms) (.chars true set) := by
  induction forms generalizing set with
  | nil => exact absurd rfl hne
  | cons f rest ih =>
    obtain ⟨c, more, rfl, hmore, rfl⟩ := singleChars_cons h
    have hfull := CharSet.isEmpty_insert more c.toNat c.toNat
    refine ⟨hfull, ?_⟩
    cases rest with
    | nil =>
      cases hmore
      refine (oneChar_literal c).similar (oneChar_chars true hfull) fun x _ => ?_
      rw [CharSet.contains_insert]
      simp [CharSet.contains, CharSet.empty, CharSet.hasCode]
    | cons g rest =>
      obtain ⟨hmoreFull, hsimilar⟩ := ih (List.cons_ne_nil _ _) hmore
      refine ((Similar.refl _).alt hsimilar).trans ?_
      exact (oneChar_literal c).alt (oneChar_chars true hmoreFull) (oneChar_chars true hfull)
        fun x _ => CharSet.contains_insert more c x

/-- Branches that are sets are alike to the union of the sets. -/
theorem similar_of_charSets {forms : List Form} {set : CharSet} (hne : forms ≠ [])
    (h : charSets? forms = some set) (hmatch : ∀ f ∈ forms, f.minLength.isSome) :
    set.isEmpty = false ∧ Similar text (ofChoices forms) (.chars true set) := by
  induction forms generalizing set with
  | nil => exact absurd rfl hne
  | cons f rest ih =>
    obtain ⟨unicode, own, more, rfl, hmore, rfl⟩ := charSets_cons h
    obtain ⟨hown, hrest⟩ := List.forall_mem_cons.1 hmatch
    have hownFull : own.isEmpty = false := by
      simpa [minLength] using hown
    have hfull : (more.union own).isEmpty = false := by simp [CharSet.isEmpty_union, hownFull]
    refine ⟨hfull, ?_⟩
    cases rest with
    | nil =>
      cases hmore
      refine (oneChar_chars unicode hownFull).similar (oneChar_chars true hfull) fun x _ => ?_
      rw [CharSet.contains_union]
      simp [CharSet.contains, CharSet.empty, CharSet.hasCode]
    | cons g rest =>
      obtain ⟨hmoreFull, hsimilar⟩ := ih (List.cons_ne_nil _ _) hmore hrest
      refine ((Similar.refl _).alt hsimilar).trans ?_
      exact (oneChar_chars unicode hownFull).alt (oneChar_chars true hmoreFull)
        (oneChar_chars true hfull) fun x _ => by rw [CharSet.contains_union, Bool.or_comm]

end Form

end Expression

end HttpRoutes
