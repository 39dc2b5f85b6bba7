import HttpRoutes.Proofs.Expression.Steady

/-!
# Choices that keep their order

Taking the common start out of a choice may change which of several matches is preferred. It does
not where every start that is taken out has a fixed length (`Form.keepsOrder`): such a choice is
alike to the choice between its branches as they stand (`Form.similar_choose`).
-/

namespace HttpRoutes.Expression.Form

variable {text : List Char}

/-- Whether every common start that is taken out of the choice has a fixed length. The first
argument bounds how often one is taken out. -/
def fixedStarts : Nat → List Form → Bool
  | 0, _ => true
  | n + 1, forms =>
    let branches := forms.flatMap choices
    branches.length ≤ 1 || (singleChars? branches).isSome || (charSets? branches).isSome ||
      match sequences? branches with
      | some (first :: rest) =>
        let start := rest.foldl commonStart first
        start.isEmpty || (start.all (·.fixedLength?.isSome) &&
          fixedStarts n ((first :: rest).map fun parts => concat (parts.drop start.length)))
      | _ => true

/-- Whether the choice is made in the order of the branches: each of them can match, and whatever is
taken out in front has a fixed length. -/
def keepsOrder (forms : List Form) : Bool :=
  forms.all (·.minLength.isSome) && fixedStarts (total (forms.map weight) + 1) forms

theorem fixedLength_chain {forms : List Form} (h : ∀ f ∈ forms, f.fixedLength?.isSome) :
    (chain forms).fixedLength?.isSome := by
  induction forms with
  | nil => rfl
  | cons f rest ih =>
    obtain ⟨hf, hrest⟩ := List.forall_mem_cons.1 h
    obtain ⟨n, hn⟩ := Option.isSome_iff_exists.1 hf
    obtain ⟨k, hk⟩ := Option.isSome_iff_exists.1 (ih hrest)
    show (Option.bind _ fun _ => Option.bind (chain rest).fixedLength? _).isSome
    simp [hn, hk]

/-- A start of a fixed length may be taken out in front of a choice between any number of
branches. -/
theorem similar_ofChoices_seq {x : Form} (hx : x.fixedLength?.isSome) {rests : List Form}
    (hne : rests ≠ []) :
    Similar text (ofChoices (rests.map (.seq x))) (.seq x (ofChoices rests)) := by
  induction rests with
  | nil => exact absurd rfl hne
  | cons f rests ih =>
    by_cases hlast : rests = []
    · subst hlast
      exact .refl _
    · rw [List.map_cons, ofChoices_cons _ (by simpa using hlast), ofChoices_cons _ hlast]
      exact ((Similar.refl _).alt (ih hlast)).trans (similar_distrib hx _ _)

theorem minLength_choices {f : Form} (h : f.minLength.isSome) :
    ∀ g ∈ f.choices, g.minLength.isSome := by
  induction f with
  | alt first rest _ ih =>
    obtain ⟨n, hn⟩ := Option.isSome_iff_exists.1 h
    obtain ⟨k, hk, hn⟩ := Option.bind_eq_some_iff.1 hn
    obtain ⟨l, hl, -⟩ := Option.bind_eq_some_iff.1 hn
    exact List.forall_mem_cons.2 ⟨by rw [hk]; rfl, ih (by rw [hl]; rfl)⟩
  | _ => exact List.forall_mem_singleton.2 h

theorem minLength_of_seq {x f g : Form} (h : Similar text f (.seq x g)) (hf : f.minLength.isSome) :
    g.minLength.isSome := by
  rw [h.minLength] at hf
  obtain ⟨n, hn⟩ := Option.isSome_iff_exists.1 hf
  obtain ⟨k, -, hn⟩ := Option.bind_eq_some_iff.1 hn
  obtain ⟨l, hl, -⟩ := Option.bind_eq_some_iff.1 hn
  rw [hl]
  rfl

/-- A branch is alike to the common start followed by what is left behind it. -/
theorem similar_split {branches start : List Form} (hstart : SharedStart branches start) {f : Form}
    (hf : f ∈ branches) : Similar text f (.seq (chain start) (behind start f)) := by
  refine (chain_factors f).symm.trans ?_
  rw [hstart.factors_eq hf]
  exact (chain_append _ _).trans ((Similar.refl _).seq (similar_concat _).symm)

/-- A common start of a fixed length may be taken out in front of the choice. -/
theorem similar_takenOut {branches start : List Form} (hstart : SharedStart branches start)
    (hfixed : ∀ f ∈ start, f.fixedLength?.isSome) {rest : Form}
    (hrest : Similar text rest (ofChoices (branches.map (behind start)))) :
    Similar text (concat (start ++ [rest])) (ofChoices branches) := by
  have hbranches : Similar text
      (ofChoices ((branches.map (behind start)).map (.seq (chain start)))) (ofChoices branches) := by
    rw [List.map_map]
    refine ofChoices_similar (List.forall₂_map_left_iff.2 (List.forall₂_same.2 fun f hf => ?_))
    exact (similar_split hstart hf).symm
  have hne : branches.map (behind start) ≠ [] := by simpa using hstart.ne_nil
  refine (similar_concat _).trans ((chain_append _ _).trans ?_)
  refine ((Similar.refl _).seq ((similar_seq_empty rest).trans hrest)).trans ?_
  exact (similar_ofChoices_seq (fixedLength_chain hfixed) hne).symm.trans hbranches

theorem similar_ofSet {set : Text.CharSet} (hproper : set.Proper) (hfull : set.isEmpty = false) :
    Similar text (ofSet true set) (.chars true set) :=
  (oneChar_ofSet true hproper hfull).similar (oneChar_chars true hfull) fun _ _ => rfl

theorem fixedStarts_takenOut {n : Nat} {forms start : List Form}
    (hstart : SharedStart (forms.flatMap choices) start) (h : fixedStarts (n + 1) forms = true) :
    (∀ f ∈ start, f.fixedLength?.isSome) ∧
      fixedStarts n ((forms.flatMap choices).map (behind start)) = true := by
  obtain ⟨first, rest, hseqs, rfl⟩ := hstart.longest
  unfold fixedStarts at h
  simp only [Nat.not_le.2 hstart.several, hstart.no_chars, hstart.no_sets, hseqs, hstart.nonempty,
    decide_false, Option.isSome_none, Bool.false_or, Bool.and_eq_true, List.all_eq_true] at h
  rw [sequences_eq_some hseqs, List.map_map] at h
  exact h

theorem similar_chooseAmong (n : Nat) {forms : List Form} (hproper : ∀ f ∈ forms, f.Proper)
    (hmatch : ∀ f ∈ forms, f.minLength.isSome) (hstarts : fixedStarts n forms = true) :
    Similar text (chooseAmong n forms) (ofChoices forms) := by
  induction n generalizing forms with
  | zero => exact .refl _
  | succ n ih =>
    refine .trans ?_ (similar_flatMap_choices forms)
    have hproper : ∀ f ∈ forms.flatMap choices, f.Proper :=
      List.forall_mem_flatMap.2 fun f hf => madeOf_choices (hproper f hf)
    have hmatch : ∀ f ∈ forms.flatMap choices, f.minLength.isSome :=
      List.forall_mem_flatMap.2 fun f hf => minLength_choices (hmatch f hf)
    have hchosen := chosen_chooseAmong n forms
    generalize chooseAmong (n + 1) forms = chosen at hchosen ⊢
    cases hchosen with
    | asTheyAre => exact .refl _
    | @chars set hne hset =>
      obtain ⟨hfull, hsimilar⟩ : set.isEmpty = false ∧ Similar text _ (.chars true set) :=
        similar_of_singleChars hne hset
      exact (similar_ofSet (proper_of_singleChars hset) hfull).trans hsimilar.symm
    | @sets set hne hset =>
      obtain ⟨hfull, hsimilar⟩ : set.isEmpty = false ∧ Similar text _ (.chars true set) :=
        similar_of_charSets hne hset hmatch
      have hsetProper := proper_of_charSets hset (of_madeOf_charSets hset hproper)
      exact (similar_ofSet hsetProper hfull).trans hsimilar.symm
    | takenOut hstart =>
      obtain ⟨hfixed, hstarts⟩ := fixedStarts_takenOut hstart hstarts
      refine similar_takenOut hstart hfixed (ih ?_ ?_ hstarts)
      · exact List.forall_mem_map.2 fun f hf => madeOf_behind lasting_setProper _ (hproper f hf)
      · refine List.forall_mem_map.2 fun f hf => ?_
        have hsplit : Similar text f _ := similar_split hstart hf
        exact minLength_of_seq hsplit (hmatch f hf)

theorem minLength_of_keepsOrder {forms : List Form} (h : keepsOrder forms = true) :
    ∀ f ∈ forms, f.minLength.isSome :=
  List.all_eq_true.1 (Bool.and_eq_true_iff.1 h).1

theorem similar_choose {forms : List Form} (hproper : ∀ f ∈ forms, f.Proper)
    (h : keepsOrder forms = true) : Similar text (choose forms) (ofChoices forms) := by
  exact similar_chooseAmong _ hproper (minLength_of_keepsOrder h) (Bool.and_eq_true_iff.1 h).2

end HttpRoutes.Expression.Form
