import Mathlib.Data.List.Pairwise
import HttpRoutes.Proofs.Expression.Openings
import HttpRoutes.Proofs.Expression.Shapes

/-!
# Groups in normal form

Bringing an expression into its normal form keeps its groups, with one exception: a repetition that
may happen zero times only is dropped, together with the groups in it. The common start of several
branches is no exception, because groups have different numbers and so never stand in a common
start.
-/

namespace HttpRoutes.Expression

/-- No number of an ascending list is greater than the last. -/
theorem le_getLastD {numbers : List Nat} (h : numbers.Pairwise (· < ·)) {n : Nat}
    (hn : n ∈ numbers) : n ≤ numbers.getLastD 0 := by
  have hle := (h.imp Nat.le_of_lt).rel_getLast hn
  rwa [List.getLastD_eq_getLast?, List.getLast?_eq_some_getLast (List.ne_nil_of_mem hn)]

namespace Form

/-- The numbers of the groups, in order. -/
def groups : Form → List Nat
  | .repetition _ _ _ body => body.groups
  | .capture index body => index :: body.groups
  | .seq init last => init.groups ++ last.groups
  | .alt first rest => first.groups ++ rest.groups
  | _ => []

theorem le_topGroup {f : Form} {n : Nat} (h : n ∈ f.groups) : n ≤ f.topGroup := by
  induction f with
  | repetition _ _ _ _ ih => exact ih h
  | capture index body ih =>
    rcases List.mem_cons.1 h with rfl | h
    · exact Nat.le_max_left _ _
    · exact (ih h).trans (Nat.le_max_right _ _)
  | seq _ _ ih₁ ih₂ | alt _ _ ih₁ ih₂ =>
    rcases List.mem_append.1 h with h | h
    · exact (ih₁ h).trans (Nat.le_max_left _ _)
    · exact (ih₂ h).trans (Nat.le_max_right _ _)
  | _ => simp [groups] at h

theorem topGroup_mem (f : Form) : f.topGroup = 0 ∨ f.topGroup ∈ f.groups := by
  induction f with
  | repetition _ _ _ _ ih => exact ih
  | capture index body ih =>
    rw [topGroup, groups]
    rcases Nat.le_total index body.topGroup with hle | hle
    · rw [Nat.max_eq_right hle]
      exact ih.imp_right (List.mem_cons_of_mem _)
    · rw [Nat.max_eq_left hle]
      exact .inr List.mem_cons_self
  | seq a b ih₁ ih₂ | alt a b ih₁ ih₂ =>
    rw [topGroup, groups]
    rcases Nat.le_total a.topGroup b.topGroup with hle | hle
    · rw [Nat.max_eq_right hle]
      exact ih₂.imp_right (List.mem_append_right _)
    · rw [Nat.max_eq_left hle]
      exact ih₁.imp_right (List.mem_append_left _)
  | _ => exact .inl rfl

/-- Where the numbers ascend, the last is the highest. -/
theorem topGroup_eq_last {f : Form} (h : f.groups.Pairwise (· < ·)) :
    f.topGroup = f.groups.getLastD 0 := by
  refine Nat.le_antisymm ?_ ?_
  · rcases f.topGroup_mem with hzero | hmem
    · omega
    · exact le_getLastD h hmem
  · rcases List.mem_cons.1 (List.getLastD_mem_cons (l := f.groups) (a := 0)) with hzero | hmem
    · omega
    · exact le_topGroup hmem

theorem groups_ofSet (unicode : Bool) (set : Text.CharSet) : (ofSet unicode set).groups = [] := by
  unfold ofSet
  split
  · rfl
  · split <;> rfl

/-! ## Sequence -/

theorem groups_factorsOnto (f : Form) (rest : List Form) :
    (f.factorsOnto rest).flatMap groups = f.groups ++ rest.flatMap groups := by
  induction f generalizing rest with
  | seq init last ih₁ ih₂ => simp [factorsOnto, groups, ih₁]
  | _ => simp [factorsOnto, groups]

theorem groups_factors (f : Form) : f.factors.flatMap groups = f.groups := by
  simp [factors, groups_factorsOnto]

theorem groups_ofFactors (factors : List Form) :
    (ofFactors factors).groups = factors.flatMap groups := by
  cases factors with
  | nil => rfl
  | cons f rest =>
    rw [ofFactors, List.flatMap_cons]
    induction rest generalizing f with
    | nil => simp
    | cons g rest ih => simpa [groups] using ih (.seq f g)

theorem groups_consFactor (f : Form) (rest : List Form) :
    (consFactor f rest).flatMap groups = f.groups ++ rest.flatMap groups := by
  unfold consFactor
  split <;> simp [groups]

theorem groups_concat (forms : List Form) : (concat forms).groups = forms.flatMap groups := by
  have hmerge (fs : List Form) : (fs.foldr consFactor []).flatMap groups = fs.flatMap groups := by
    induction fs with
    | nil => rfl
    | cons f fs ih => rw [List.foldr_cons, groups_consFactor, ih, List.flatMap_cons]
  rw [concat, groups_ofFactors, hmerge, List.flatMap_assoc, funext groups_factors]

/-! ## Repetition -/

theorem groups_repeated (min : Nat) (max : Option Nat) (greedy : Bool) (body : Form) :
    (repeated min max greedy body).groups =
      if min = 0 ∧ max = some 0 then [] else body.groups := by
  have hbounds (a : Nat) (b : Option Nat) :
      (if a = 0 ∧ b = some 0 then .empty
        else if a = 1 ∧ b = some 1 then body else Form.repetition a b greedy body).groups =
        if a = 0 ∧ b = some 0 then [] else body.groups := by
    split
    · rfl
    · split <;> rfl
  unfold repeated
  by_cases hempty : body.isAlwaysEmpty
  · simp only [hempty, if_true, hbounds]
    have hmax : Nat.min (max.getD 1) 1 = 0 ↔ max = some 0 := by
      cases max with
      | none => simp
      | some m => simp [Nat.min_eq_min]
    have hmin : Nat.min min 1 = 0 ↔ min = 0 := by simp [Nat.min_eq_min]
    simp only [Option.some.injEq, hmin, hmax]
  · simp only [hempty, hbounds]
    rfl

/-! ## Choice -/

theorem groups_choices (f : Form) : f.choices.flatMap groups = f.groups := by
  induction f with
  | alt first rest _ ih => simp [choices, groups, ih]
  | _ => simp [choices]

theorem groups_ofChoices (forms : List Form) : (ofChoices forms).groups = forms.flatMap groups := by
  induction forms with
  | nil => rfl
  | cons f rest ih =>
    cases rest with
    | nil => simp [ofChoices]
    | cons g rest => simp [ofChoices, groups, ih]

theorem groups_of_singleChars {forms : List Form} {set : Text.CharSet}
    (h : singleChars? forms = some set) : forms.flatMap groups = [] := by
  induction forms generalizing set with
  | nil => rfl
  | cons f rest ih =>
    obtain ⟨c, more, rfl, hmore, -⟩ := singleChars_cons h
    rw [List.flatMap_cons, ih hmore]
    rfl

theorem groups_of_charSets {forms : List Form} {set : Text.CharSet}
    (h : charSets? forms = some set) : forms.flatMap groups = [] := by
  induction forms generalizing set with
  | nil => rfl
  | cons f rest ih =>
    obtain ⟨unicode, own, more, rfl, hmore, -⟩ := charSets_cons h
    rw [List.flatMap_cons, ih hmore]
    rfl

/-- Groups that are all different do not stand in a common start, so they stand behind it. -/
theorem groups_takenOut {branches start : List Form} (hstart : SharedStart branches start)
    (h : (branches.flatMap groups).Nodup) : start.flatMap groups = [] ∧
      (branches.map (behind start)).flatMap groups = branches.flatMap groups := by
  have hsplit {f : Form} (hf : f ∈ branches) :
      f.groups = start.flatMap groups ++ (behind start f).groups := by
    rw [← groups_factors f, hstart.factors_eq hf, List.flatMap_append, behind, groups_concat]
  have hnone : start.flatMap groups = [] := by
    -- A group of the start would be a group of the first and of the second branch.
    match branches, hstart.several with
    | f :: g :: more, _ =>
      rw [List.eq_nil_iff_forall_not_mem]
      intro n hn
      rw [List.flatMap_cons, List.flatMap_cons, hsplit (f := f) (by simp),
        hsplit (f := g) (by simp)] at h
      exact (List.nodup_append.1 h).2.2 n (by simp [hn]) n (by simp [hn]) rfl
  refine ⟨hnone, ?_⟩
  rw [List.flatMap_map]
  refine List.flatMap_congr fun f hf => ?_
  rw [hsplit hf, hnone, List.nil_append]

theorem groups_chooseAmong (n : Nat) (forms : List Form) (h : (forms.flatMap groups).Nodup) :
    (chooseAmong n forms).groups = forms.flatMap groups := by
  induction n generalizing forms with
  | zero => exact groups_ofChoices forms
  | succ n ih =>
    -- Branches that are choices themselves are spread out first, which keeps the groups.
    have hchoices : (forms.flatMap choices).flatMap groups = forms.flatMap groups := by
      rw [List.flatMap_assoc, funext groups_choices]
    rw [← hchoices] at h ⊢
    have hchosen := chosen_chooseAmong n forms
    generalize chooseAmong (n + 1) forms = chosen at hchosen ⊢
    cases hchosen with
    | asTheyAre => exact groups_ofChoices _
    | chars _ hset => rw [groups_ofSet, groups_of_singleChars hset]
    | sets _ hset => rw [groups_ofSet, groups_of_charSets hset]
    | takenOut hstart =>
      obtain ⟨hnone, hbehind⟩ := groups_takenOut hstart h
      rw [groups_concat, List.flatMap_append, hnone, List.nil_append, List.flatMap_singleton,
        ih _ (hbehind ▸ h), hbehind]

/-- Choosing keeps groups that are all different. -/
theorem groups_choose (forms : List Form) (h : (forms.flatMap groups).Nodup) :
    (choose forms).groups = forms.flatMap groups := groups_chooseAmong _ forms h

end Form

/-! ## Terms -/

/-- The numbers of the groups that do not stand in a repetition of zero times. -/
def Term.keptGroups : Term → List Nat
  | .repetition min max _ body => if min = 0 ∧ max = some 0 then [] else body.keptGroups
  | .capture index _ body => index :: body.keptGroups
  | .scoped _ body => body.keptGroups
  | .seq first rest => first.keptGroups ++ rest.keptGroups
  | .alt first rest => first.keptGroups ++ rest.keptGroups
  | _ => []

namespace Term

theorem keptGroups_sublist (t : Term) : t.keptGroups.Sublist t.groups := by
  induction t with
  | repetition min max greedy body ih =>
    rw [keptGroups]
    split
    · exact List.nil_sublist _
    · exact ih
  | capture index name body ih => exact ih.cons_cons index
  | «scoped» _ _ ih => exact ih
  | seq _ _ ih₁ ih₂ | alt _ _ ih₁ ih₂ =>
    rw [groups, openings, List.filterMap_append]
    exact ih₁.append ih₂
  | _ => exact List.nil_sublist _

theorem keptGroups_ofParts (parts : List Term) :
    (ofParts parts).keptGroups = parts.flatMap keptGroups := by
  induction parts with
  | nil => rfl
  | cons part rest ih =>
    cases rest with
    | nil => simp [ofParts]
    | cons next rest => simp [ofParts, keptGroups, ih]

theorem keptGroups_ofBranches (branches : List Term) :
    (ofBranches branches).keptGroups = branches.flatMap keptGroups := by
  induction branches with
  | nil => rfl
  | cons branch rest ih =>
    cases rest with
    | nil => simp [ofBranches]
    | cons next rest => simp [ofBranches, keptGroups, ih]

theorem groups_charForm {m : Modes} {l : Literal} {f : Form} (h : m.charForm? l = some f) :
    f.groups = [] := by
  rcases m.charForm_cases h with rfl | ⟨set, rfl⟩
  · rfl
  · exact Form.groups_ofSet _ set

theorem groups_dotForm {m : Modes} {f : Form} (h : m.dotForm? = some f) : f.groups = [] := by
  obtain ⟨set, rfl⟩ := m.dotForm_cases h
  rfl

/-- The normal form has the groups of the expression that do not stand in a repetition of zero
times. -/
theorem groups_branches {t : Term} {m m' : Modes} {forms : List Form}
    (h : t.branches? m = some (forms, m')) (hnodup : t.keptGroups.Nodup) :
    forms.flatMap Form.groups = t.keptGroups := by
  have hchoose {forms : List Form} {t : Term} (hgroups : forms.flatMap Form.groups = t.keptGroups)
      (hnodup : t.keptGroups.Nodup) : (Form.choose forms).groups = t.keptGroups := by
    rw [Form.groups_choose forms (hgroups ▸ hnodup), hgroups]
  rw [branches_eq_some] at h
  induction h with
  | repetition _ ih =>
    rw [List.flatMap_singleton, Form.groups_repeated]
    -- Both sides drop the body in the same case, and else it is as for a group.
    rw [keptGroups] at hnodup ⊢
    split
    · rfl
    · next hzero =>
      rw [if_neg hzero] at hnodup
      exact hchoose (ih hnodup) hnodup
  | capture _ ih =>
    have hbody := (List.nodup_cons.1 hnodup).2
    rw [List.flatMap_singleton, Form.groups, hchoose (ih hbody) hbody, keptGroups]
  | «scoped» _ ih => rw [List.flatMap_singleton, hchoose (ih hnodup) hnodup, keptGroups]
  | seq _ _ ih₁ ih₂ =>
    obtain ⟨hn₁, hn₂, -⟩ := List.nodup_append.1 hnodup
    rw [List.flatMap_singleton, Form.groups_concat, List.flatMap_cons, List.flatMap_singleton,
      hchoose (ih₁ hn₁) hn₁, hchoose (ih₂ hn₂) hn₂, keptGroups]
  | alt _ _ ih₁ ih₂ =>
    obtain ⟨hn₁, hn₂, -⟩ := List.nodup_append.1 hnodup
    rw [List.flatMap_cons, hchoose (ih₁ hn₁) hn₁, ih₂ hn₂, keptGroups]
  | char hf =>
    rw [List.flatMap_singleton, groups_charForm hf]
    rfl
  | dot hf =>
    rw [List.flatMap_singleton, groups_dotForm hf]
    rfl
  | escaped | property | bracketed =>
    rw [List.flatMap_singleton, Form.groups_ofSet]
    rfl
  | empty | setFlags | assertion => rfl

theorem groups_form {t : Term} {f : Form} (h : t.form? = some f) (hnodup : t.keptGroups.Nodup) :
    f.groups = t.keptGroups := by
  obtain ⟨⟨forms, m⟩, hforms, rfl⟩ := Option.map_eq_some_iff.1 h
  have hgroups := groups_branches hforms hnodup
  rw [Form.groups_choose forms (hgroups ▸ hnodup), hgroups]

end Term

end HttpRoutes.Expression
