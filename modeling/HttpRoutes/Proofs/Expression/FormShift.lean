import HttpRoutes.Proofs.Expression.FormGroups
import HttpRoutes.Proofs.Expression.Shift

/-!
# Normal forms and groups in front

The branches of an expression with `d` more groups in front are its branches with every number `d`
higher (`branches_shift`), since no step on the way to the normal form looks at numbers.
-/

namespace HttpRoutes.Expression

namespace Form

/-- Count `d` more groups in front. -/
def shift (d : Nat) : Form → Form
  | .repetition min max greedy body => .repetition min max greedy (body.shift d)
  | .capture index body => .capture (index + d) (body.shift d)
  | .seq init last => .seq (init.shift d) (last.shift d)
  | .alt first rest => .alt (first.shift d) (rest.shift d)
  | f => f

variable {d : Nat}

theorem shift_injective : Function.Injective (shift d) := by
  intro f g h
  induction f generalizing g with
  | capture _ _ ih =>
    cases g <;> simp only [shift, reduceCtorEq, capture.injEq] at h
    obtain ⟨hindex, hbody⟩ := h
    rw [ih hbody, Nat.add_right_cancel hindex]
  | repetition _ _ _ _ ih =>
    cases g <;> simp only [shift, reduceCtorEq, repetition.injEq] at h
    obtain ⟨hmin, hmax, hgreedy, hbody⟩ := h
    rw [hmin, hmax, hgreedy, ih hbody]
  | seq _ _ ih₁ ih₂ =>
    cases g <;> simp only [shift, reduceCtorEq, seq.injEq] at h
    rw [ih₁ h.1, ih₂ h.2]
  | alt _ _ ih₁ ih₂ =>
    cases g <;> simp only [shift, reduceCtorEq, alt.injEq] at h
    rw [ih₁ h.1, ih₂ h.2]
  | _ => cases g <;> simp_all [shift]

/-! ## Measures -/

@[simp] theorem minLength_shift (f : Form) : (f.shift d).minLength = f.minLength := by
  induction f <;> simp [shift, minLength, *]

@[simp] theorem isAlwaysEmpty_shift (f : Form) : (f.shift d).isAlwaysEmpty = f.isAlwaysEmpty := by
  induction f <;> simp [shift, isAlwaysEmpty, *]

@[simp] theorem weight_shift (f : Form) : (f.shift d).weight = f.weight := by
  induction f <;> simp [shift, weight, *]

@[simp] theorem shift_ofSet (unicode : Bool) (set : Text.CharSet) :
    (ofSet unicode set).shift d = ofSet unicode set := by
  unfold ofSet
  split
  · rfl
  · split <;> rfl

/-! ## Sequence -/

theorem factorsOnto_shift (f : Form) (rest : List Form) :
    (f.shift d).factorsOnto (rest.map (shift d)) = (f.factorsOnto rest).map (shift d) := by
  induction f generalizing rest with
  | seq init last ih₁ ih₂ => simpa [shift, factorsOnto] using ih₁ (last :: rest)
  | _ => rfl

theorem factors_shift (f : Form) : (f.shift d).factors = f.factors.map (shift d) :=
  factorsOnto_shift f []

theorem shift_ofFactors (fs : List Form) :
    (ofFactors fs).shift d = ofFactors (fs.map (shift d)) := by
  cases fs with
  | nil => rfl
  | cons f rest =>
    rw [ofFactors, List.map_cons, ofFactors]
    induction rest generalizing f with
    | nil => rfl
    | cons g rest ih => exact ih (.seq f g)

theorem consFactor_shift (f : Form) (rest : List Form) :
    consFactor (f.shift d) (rest.map (shift d)) = (consFactor f rest).map (shift d) := by
  cases f with
  | literal s =>
    cases rest with
    | nil => rfl
    | cons g rest => cases g <;> rfl
  | _ => rfl

theorem shift_concat (forms : List Form) :
    (concat forms).shift d = concat (forms.map (shift d)) := by
  have hmerge (fs : List Form) :
      (fs.map (shift d)).foldr consFactor [] = (fs.foldr consFactor []).map (shift d) := by
    induction fs with
    | nil => rfl
    | cons f fs ih => rw [List.map_cons, List.foldr_cons, ih, consFactor_shift, List.foldr_cons]
  rw [concat, shift_ofFactors, ← hmerge, concat, List.map_flatMap, List.flatMap_map,
    funext factors_shift]

/-! ## Repetition -/

theorem shift_repeated (min : Nat) (max : Option Nat) (greedy : Bool) (body : Form) :
    (repeated min max greedy body).shift d = repeated min max greedy (body.shift d) := by
  unfold repeated
  rw [isAlwaysEmpty_shift]
  split
  split
  · rfl
  · split <;> rfl

/-! ## Choice -/

theorem choices_shift (f : Form) : (f.shift d).choices = f.choices.map (shift d) := by
  induction f with
  | alt first rest _ ih => simp [shift, choices, ih]
  | _ => rfl

theorem shift_ofChoices (forms : List Form) :
    (ofChoices forms).shift d = ofChoices (forms.map (shift d)) := by
  induction forms with
  | nil => rfl
  | cons f rest ih =>
    cases rest with
    | nil => rfl
    | cons g rest => simpa [ofChoices, shift] using ih

theorem singleChars_shift (forms : List Form) :
    singleChars? (forms.map (shift d)) = singleChars? forms := by
  induction forms with
  | nil => rfl
  | cons f rest ih =>
    cases f with
    | literal text =>
      match text with
      | [] => rfl
      | [c] => simp [shift, singleChars?, ih]
      | _ :: _ :: _ => rfl
    | _ => rfl

theorem charSets_shift (forms : List Form) :
    charSets? (forms.map (shift d)) = charSets? forms := by
  induction forms with
  | nil => rfl
  | cons f rest ih =>
    cases f with
    | chars unicode set => simp [shift, charSets?, ih]
    | _ => rfl

theorem sequences_shift (forms : List Form) :
    sequences? (forms.map (shift d)) = (sequences? forms).map (List.map (List.map (shift d))) := by
  induction forms with
  | nil => rfl
  | cons f rest ih =>
    cases f with
    | seq init last =>
      have hfactors := factors_shift (d := d) (.seq init last)
      rw [shift] at hfactors
      simp only [List.map_cons, shift, sequences?, ih, Option.map_map, hfactors]
      rfl
    | _ => rfl

theorem commonStart_shift (as bs : List Form) :
    commonStart (as.map (shift d)) (bs.map (shift d)) = (commonStart as bs).map (shift d) := by
  induction as generalizing bs with
  | nil => rfl
  | cons a as ih =>
    cases bs with
    | nil => rfl
    | cons b bs =>
      simp only [List.map_cons, commonStart, shift_injective.eq_iff, ih]
      split <;> rfl

theorem foldl_commonStart_shift (first : List Form) (rest : List (List Form)) :
    (rest.map (List.map (shift d))).foldl commonStart (first.map (shift d)) =
      (rest.foldl commonStart first).map (shift d) := by
  induction rest generalizing first with
  | nil => rfl
  | cons next rest ih => rw [List.map_cons, List.foldl_cons, commonStart_shift, ih, List.foldl_cons]

theorem shift_dropEach (k : Nat) (seqs : List (List Form)) :
    (seqs.map fun parts => concat (parts.drop k)).map (shift d) =
      (seqs.map (List.map (shift d))).map fun parts => concat (parts.drop k) := by
  rw [List.map_map, List.map_map]
  refine List.map_congr_left fun parts _ => ?_
  simp only [Function.comp_apply, shift_concat, List.map_drop]

theorem shift_chooseAmong (n : Nat) (forms : List Form) :
    (chooseAmong n forms).shift d = chooseAmong n (forms.map (shift d)) := by
  induction n generalizing forms with
  | zero => exact shift_ofChoices forms
  | succ n ih =>
    -- Every test that `chooseAmong` makes has the same outcome with other numbers.
    have hchoices : (forms.map (shift d)).flatMap choices =
        (forms.flatMap choices).map (shift d) := by
      rw [List.flatMap_map, List.map_flatMap, funext choices_shift]
    unfold chooseAmong
    rw [hchoices]
    generalize forms.flatMap choices = branches
    rcases branches with - | ⟨f, - | ⟨g, more⟩⟩
    · rfl
    · rfl
    · have hsingle := singleChars_shift (d := d) (f :: g :: more)
      have hsets := charSets_shift (d := d) (f :: g :: more)
      have hseqs := sequences_shift (d := d) (f :: g :: more)
      simp only [List.map_cons] at hsingle hsets hseqs ⊢
      rw [hsingle, hsets, hseqs]
      cases singleChars? (f :: g :: more) with
      | some set => exact shift_ofSet true set
      | none =>
        cases charSets? (f :: g :: more) with
        | some set => exact shift_ofSet true set
        | none =>
          have hplain := shift_ofChoices (d := d) (f :: g :: more)
          cases sequences? (f :: g :: more) with
          | none => exact hplain
          | some seqs =>
            cases seqs with
            | nil => exact hplain
            | cons first rest =>
              have hstart := foldl_commonStart_shift (d := d) first rest
              simp only [Option.map_some, List.map_cons, hstart, List.isEmpty_map, List.length_map]
              split
              · exact hplain
              · rw [shift_concat, List.map_append, List.map_singleton, ih]
                exact congrArg (fun left => concat (_ ++ [chooseAmong n left]))
                  (shift_dropEach _ (first :: rest))

theorem shift_choose (forms : List Form) :
    (choose forms).shift d = choose (forms.map (shift d)) := by
  have hweight : ((forms.map (shift d)).map weight) = forms.map weight := by
    rw [List.map_map]
    exact List.map_congr_left fun f _ => weight_shift f
  rw [choose, shift_chooseAmong, choose, hweight]

end Form

/-! ## Terms -/

variable {d : Nat} {m : Modes}

theorem shift_charForm {l : Literal} {f : Form} (h : m.charForm? l = some f) : f.shift d = f := by
  rcases m.charForm_cases h with rfl | ⟨set, rfl⟩
  · rfl
  · exact Form.shift_ofSet _ set

theorem shift_dotForm {f : Form} (h : m.dotForm? = some f) : f.shift d = f := by
  obtain ⟨set, rfl⟩ := m.dotForm_cases h
  rfl

/-- The branches of a term with `d` more groups in front. -/
def shiftBranches (d : Nat) (r : List Form × Modes) : List Form × Modes :=
  (r.1.map (Form.shift d), r.2)

theorem branches_shift (t : Term) (m : Modes) :
    (t.shift d).branches? m = (t.branches? m).map (shiftBranches d) := by
  induction t generalizing m with
  | empty | setFlags | assertion => rfl
  | char l =>
    rw [Term.shift_eq_self rfl, Term.branches?]
    cases h : m.charForm? l with
    | none => rfl
    | some f => simp [shiftBranches, shift_charForm h]
  | dot =>
    rw [Term.shift_eq_self rfl, Term.branches?]
    cases h : m.dotForm? with
    | none => rfl
    | some f => simp [shiftBranches, shift_dotForm h]
  | escaped k negated =>
    rw [Term.shift_eq_self rfl, Term.branches?]
    cases m.negate? negated (k.set m.unicode) <;> simp [shiftBranches]
  | property q negated =>
    rw [Term.shift_eq_self rfl, Term.branches?]
    cases m.propertySet? q negated <;> simp [shiftBranches]
  | bracketed negated body =>
    rw [Term.shift_eq_self rfl, Term.branches?]
    cases body.set? m with
    | none => rfl
    | some set => cases hset : m.negate? negated (m.fold set) <;> simp [shiftBranches, hset]
  | repetition min max greedy body ih =>
    simp only [Term.shift, Term.branches?, ih]
    cases body.branches? m with
    | none => rfl
    | some r => simp [shiftBranches, Form.shift_repeated, Form.shift_choose]
  | capture index name body ih =>
    simp only [Term.shift, Term.branches?, ih]
    cases body.branches? m with
    | none => rfl
    | some r => simp [shiftBranches, Form.shift, Form.shift_choose]
  | «scoped» settings body ih =>
    simp only [Term.shift, Term.branches?, ih]
    cases body.branches? (m.set settings) with
    | none => rfl
    | some r => simp [shiftBranches, Form.shift_choose]
  | seq first rest ih₁ ih₂ =>
    simp only [Term.shift, Term.branches?, ih₁]
    cases first.branches? m with
    | none => rfl
    | some r =>
      simp only [Option.map_some, shiftBranches, Option.bind_eq_bind, Option.bind_some, ih₂]
      cases rest.branches? r.2 with
      | none => rfl
      | some r' => simp [shiftBranches, Form.shift_concat, Form.shift_choose]
  | alt first rest ih₁ ih₂ =>
    simp only [Term.shift, Term.branches?, ih₁]
    cases first.branches? m with
    | none => rfl
    | some r =>
      simp only [Option.map_some, shiftBranches, Option.bind_eq_bind, Option.bind_some, ih₂]
      cases rest.branches? r.2 with
      | none => rfl
      | some r' => simp [shiftBranches, Form.shift_choose]

end HttpRoutes.Expression
