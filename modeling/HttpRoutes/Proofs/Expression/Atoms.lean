import HttpRoutes.Proofs.Expression.FormGroups

/-!
# What forms are made of

An atom is a form without parts. Bringing an expression into its normal form makes new atoms in
three ways only: neighbouring literals become one, branches that are characters or sets become one
set, and what happens zero times becomes nothing. So whatever holds of all atoms at first, and of
these, holds of all atoms of the normal form (`Form.madeOf_choose`, `Form.madeOf_concat`).
-/

namespace HttpRoutes.Expression.Form

/-- All atoms of the form have the property. -/
def MadeOf (p : Form → Prop) : Form → Prop
  | .repetition _ _ _ body => body.MadeOf p
  | .capture _ body => body.MadeOf p
  | .seq init last => init.MadeOf p ∧ last.MadeOf p
  | .alt first rest => first.MadeOf p ∧ rest.MadeOf p
  | f => p f

/-- The property holds of the atoms that a normal form adds: of nothing, of every literal, and of
what becomes of branches with the property that are all characters or all sets. -/
structure Lasting (p : Form → Prop) : Prop where
  empty : p .empty
  literal (text : List Char) : p (.literal text)
  chars {forms : List Form} {set : Text.CharSet} : singleChars? forms = some set →
    (ofSet true set).MadeOf p
  sets {forms : List Form} {set : Text.CharSet} : charSets? forms = some set →
    (∀ f ∈ forms, p f) → (ofSet true set).MadeOf p

variable {p : Form → Prop}

/-! ## Sequence -/

theorem madeOf_factorsOnto {f : Form} {rest : List Form} (hf : f.MadeOf p)
    (h : ∀ g ∈ rest, g.MadeOf p) : ∀ g ∈ f.factorsOnto rest, g.MadeOf p := by
  induction f generalizing rest with
  | empty => exact h
  | seq init last ih₁ ih₂ => exact ih₁ hf.1 (List.forall_mem_cons.2 ⟨hf.2, h⟩)
  | _ => exact List.forall_mem_cons.2 ⟨hf, h⟩

theorem madeOf_factors {f : Form} (hf : f.MadeOf p) : ∀ g ∈ f.factors, g.MadeOf p :=
  madeOf_factorsOnto hf (by simp)

theorem madeOf_ofFactors (hp : Lasting p) {factors : List Form} (h : ∀ g ∈ factors, g.MadeOf p) :
    (ofFactors factors).MadeOf p := by
  cases factors with
  | nil => exact hp.empty
  | cons f rest =>
    show (rest.foldl .seq f).MadeOf p
    induction rest generalizing f with
    | nil => exact h f List.mem_cons_self
    | cons g rest ih =>
      obtain ⟨hf, hg, hrest⟩ : f.MadeOf p ∧ g.MadeOf p ∧ ∀ g ∈ rest, g.MadeOf p := by
        simpa using h
      exact ih (.seq f g) (List.forall_mem_cons.2 ⟨⟨hf, hg⟩, hrest⟩)

theorem madeOf_consFactor (hp : Lasting p) {f : Form} {rest : List Form}
    (h : ∀ g ∈ f :: rest, g.MadeOf p) : ∀ g ∈ consFactor f rest, g.MadeOf p := by
  unfold consFactor
  split
  · next s t rest =>
    refine List.forall_mem_cons.2 ⟨hp.literal (s ++ t), fun g hg => h g ?_⟩
    exact List.mem_cons_of_mem _ (List.mem_cons_of_mem _ hg)
  · exact h

theorem madeOf_concat (hp : Lasting p) {forms : List Form} (h : ∀ f ∈ forms, f.MadeOf p) :
    (concat forms).MadeOf p := by
  have hflat : ∀ g ∈ forms.flatMap factors, g.MadeOf p := by
    intro g hg
    obtain ⟨f, hf, hg⟩ := List.mem_flatMap.1 hg
    exact madeOf_factors (h f hf) g hg
  refine madeOf_ofFactors hp ?_
  generalize forms.flatMap factors = parts at hflat
  induction parts with
  | nil => simp
  | cons f rest ih =>
    obtain ⟨hf, hrest⟩ := List.forall_mem_cons.1 hflat
    exact madeOf_consFactor hp (List.forall_mem_cons.2 ⟨hf, ih hrest⟩)

/-! ## Repetition -/

theorem madeOf_repeated (hp : Lasting p) {min : Nat} {max : Option Nat} {greedy : Bool}
    {body : Form} (h : body.MadeOf p) : (repeated min max greedy body).MadeOf p := by
  have hbounds (a : Nat) (b : Option Nat) : (if a = 0 ∧ b = some 0 then .empty
      else if a = 1 ∧ b = some 1 then body
      else Form.repetition a b greedy body).MadeOf p := by
    split
    · exact hp.empty
    · split
      · exact h
      · exact h
  exact hbounds _ _

/-! ## Choice -/

theorem madeOf_choices {f : Form} (h : f.MadeOf p) : ∀ g ∈ f.choices, g.MadeOf p := by
  induction f with
  | alt first rest _ ih => exact List.forall_mem_cons.2 ⟨h.1, ih h.2⟩
  | _ => exact List.forall_mem_singleton.2 h

theorem madeOf_fail (hp : Lasting p) : fail.MadeOf p := by
  have hnone : ∀ f ∈ ([] : List Form), p f := by simp
  exact hp.sets rfl hnone

theorem madeOf_ofChoices (hp : Lasting p) {forms : List Form} (h : ∀ f ∈ forms, f.MadeOf p) :
    (ofChoices forms).MadeOf p := by
  induction forms with
  | nil => exact madeOf_fail hp
  | cons f rest ih =>
    obtain ⟨hf, hrest⟩ := List.forall_mem_cons.1 h
    cases rest with
    | nil => exact hf
    | cons g rest => exact ⟨hf, ih hrest⟩

/-- Branches that are all sets are atoms. -/
theorem of_madeOf_charSets {forms : List Form} {set : Text.CharSet}
    (hset : charSets? forms = some set) (h : ∀ f ∈ forms, f.MadeOf p) : ∀ f ∈ forms, p f := by
  induction forms generalizing set with
  | nil => simp
  | cons f rest ih =>
    obtain ⟨hf, hrest⟩ := List.forall_mem_cons.1 h
    obtain ⟨unicode, own, more, rfl, hmore, -⟩ := charSets_cons hset
    exact List.forall_mem_cons.2 ⟨hf, ih hmore hrest⟩

theorem madeOf_behind (hp : Lasting p) (start : List Form) {f : Form} (h : f.MadeOf p) :
    (behind start f).MadeOf p :=
  madeOf_concat hp fun g hg => madeOf_factors h g (List.mem_of_mem_drop hg)

theorem madeOf_chooseAmong (hp : Lasting p) (n : Nat) {forms : List Form}
    (h : ∀ f ∈ forms, f.MadeOf p) : (chooseAmong n forms).MadeOf p := by
  induction n generalizing forms with
  | zero => exact madeOf_ofChoices hp h
  | succ n ih =>
    have hbranches : ∀ f ∈ forms.flatMap choices, f.MadeOf p :=
      List.forall_mem_flatMap.2 fun f hf => madeOf_choices (h f hf)
    have hchosen := chosen_chooseAmong n forms
    generalize chooseAmong (n + 1) forms = chosen at hchosen ⊢
    cases hchosen with
    | asTheyAre => exact madeOf_ofChoices hp hbranches
    | chars _ hset => exact hp.chars hset
    | sets _ hset => exact hp.sets hset (of_madeOf_charSets hset hbranches)
    | takenOut hstart =>
      -- Both the common start and what is left behind it are pieces of the branches.
      obtain ⟨f, hf⟩ := List.exists_mem_of_ne_nil _ hstart.ne_nil
      refine madeOf_concat hp (List.forall_mem_append.2 ⟨fun g hg => ?_, ?_⟩)
      · exact madeOf_factors (hbranches f hf) g ((hstart.isPrefix f hf).subset hg)
      · refine List.forall_mem_singleton.2 (ih (List.forall_mem_map.2 fun f hf => ?_))
        exact madeOf_behind hp _ (hbranches f hf)

theorem madeOf_choose (hp : Lasting p) {forms : List Form} (h : ∀ f ∈ forms, f.MadeOf p) :
    (choose forms).MadeOf p := madeOf_chooseAmong hp _ h

end HttpRoutes.Expression.Form
