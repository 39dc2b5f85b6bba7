import HttpRoutes.Proofs.Expression.Anchored
import HttpRoutes.Proofs.Route.Numbering

/-!
# What a combined expression means

The normal form of a combined expression is a choice between anchors. Each branch is the form that
its entry has alone, with the groups of the entries before it counted in front. For an engine that
takes no more memory for one branch than for the choice, whatever fits into the limits together fits
into them alone.
-/

namespace HttpRoutes

open Expression

variable {α : Type}

/-! ## Choices between groups -/

/-- The form is a group. -/
def Expression.Form.IsCapture : Form → Prop
  | .capture _ _ => True
  | _ => False

namespace Expression.Form

theorem choices_of_isCapture {f : Form} (h : f.IsCapture) : f.choices = [f] := by
  cases f with
  | capture => rfl
  | _ => exact h.elim

theorem flatMap_choices {forms : List Form} (h : ∀ f ∈ forms, f.IsCapture) :
    forms.flatMap choices = forms := by
  induction forms with
  | nil => rfl
  | cons f rest ih =>
    rw [List.flatMap_cons, choices_of_isCapture (h f List.mem_cons_self),
      ih fun g hg => h g (List.mem_cons_of_mem _ hg)]
    rfl

/-- Groups are neither characters nor sequences, so the choice between them stays as it is. -/
theorem chooseAmong_captures (n : Nat) {forms given : List Form} (hne : forms ≠ [])
    (h : ∀ f ∈ forms, f.IsCapture) (hgiven : given.flatMap choices = forms) :
    chooseAmong (n + 1) given = ofChoices forms := by
  unfold chooseAmong
  rw [hgiven]
  cases forms with
  | nil => exact absurd rfl hne
  | cons f rest =>
    cases rest with
    | nil => rfl
    | cons g rest =>
      have hf : f.IsCapture := h f List.mem_cons_self
      cases f with
      | capture index body => rfl
      | _ => exact hf.elim

theorem choose_captures {forms : List Form} (hne : forms ≠ []) (h : ∀ f ∈ forms, f.IsCapture) :
    choose forms = ofChoices forms :=
  chooseAmong_captures _ hne h (flatMap_choices h)

theorem choices_ofChoices {forms : List Form} (hne : forms ≠ []) (h : ∀ f ∈ forms, f.IsCapture) :
    (ofChoices forms).choices = forms := by
  induction forms with
  | nil => exact absurd rfl hne
  | cons f rest ih =>
    cases rest with
    | nil => exact choices_of_isCapture (h f List.mem_cons_self)
    | cons g rest =>
      have hi := ih (List.cons_ne_nil _ _) fun g hg => h g (List.mem_cons_of_mem _ hg)
      rw [ofChoices, choices, hi]
      exact List.cons_ne_nil _ _

theorem choose_ofChoices {forms : List Form} (hne : forms ≠ []) (h : ∀ f ∈ forms, f.IsCapture) :
    choose [ofChoices forms] = ofChoices forms := by
  refine chooseAmong_captures _ hne h ?_
  rw [List.flatMap_singleton, choices_ofChoices hne h]

theorem factorsOnto_ofChoices {forms : List Form} (hne : forms ≠ [])
    (h : ∀ f ∈ forms, f.IsCapture) (rest : List Form) :
    (ofChoices forms).factorsOnto rest = ofChoices forms :: rest := by
  cases forms with
  | nil => exact absurd rfl hne
  | cons f more =>
    cases more with
    | nil =>
      have hf : f.IsCapture := h f List.mem_cons_self
      cases f with
      | capture index body => rfl
      | _ => exact hf.elim
    | cons g more => rfl

/-- A choice of groups between anchors is in normal form. -/
theorem choose_anchored {forms : List Form} (hne : forms ≠ []) (h : ∀ f ∈ forms, f.IsCapture) :
    choose [concat [choose [.look .start],
      choose [concat [choose [choose forms], choose [.look .stop]]]]] =
      (ofChoices forms).anchored := by
  have hlook (l : Look) : choose [.look l] = .look l := rfl
  have hseq (init last : Form) : choose [.seq init last] = .seq init last := rfl
  -- Only that the choice is no literal and no sequence matters from here on.
  rw [choose_captures hne h, choose_ofChoices hne h, hlook, hlook]
  have hfactors := factorsOnto_ofChoices hne h
  generalize ofChoices forms = choice at hfactors ⊢
  have hmerge : consFactor choice [.look .stop] = [choice, .look .stop] := by
    cases choice <;> rfl
  have hinner : concat [choice, .look .stop] = .seq choice (.look .stop) := by
    have hflat : [choice, .look .stop].flatMap factors = [choice, .look .stop] := by
      rw [List.flatMap_cons, factors, hfactors]
      rfl
    rw [concat, hflat]
    exact congrArg ofFactors hmerge
  have houter : concat [.look .start, .seq choice (.look .stop)] = choice.anchored := by
    have hflat : [.look .start, .seq choice (.look .stop)].flatMap factors =
        [.look .start, choice, .look .stop] := by
      rw [List.flatMap_cons, List.flatMap_singleton]
      exact congrArg (Form.look .start :: ·) (hfactors [.look .stop])
    rw [concat, hflat]
    exact congrArg (fun parts => ofFactors (consFactor (.look .start) parts)) hmerge
  rw [hinner, hseq, houter]
  rfl

end Expression.Form

/-! ## Forms of entries -/

/-- The form that the entry has alone. -/
def Entry.form? (e : Entry α) : Option Form :=
  ((Term.ofParts (partTerms 1 e.pattern.parts)).branches? .initial).map fun r =>
    .capture 1 (.choose r.1)

/-- The captures of the entry alone on a text, if it matches. -/
def Entry.matchAlone? (e : Entry α) (text : List Char) : Option (List Capture) :=
  e.form?.bind (·.matchWhole? text)

/-- The forms of entries behind `before` groups. -/
def entryForms? (before : Nat) : List (Entry α) → Option (List Form)
  | [] => some []
  | e :: rest => do
    let f ← e.form?
    let forms ← entryForms? (before + e.opened) rest
    some (f.shift before :: forms)

theorem Expression.Term.shift_shift (t : Term) (c d : Nat) :
    (t.shift c).shift d = t.shift (c + d) := by
  induction t with
  | capture index name body ih => rw [shift, shift, shift, ih, Nat.add_assoc]
  | repetition _ _ _ _ ih | «scoped» _ _ ih => rw [shift, shift, shift, ih]
  | seq _ _ ih₁ ih₂ | alt _ _ ih₁ ih₂ => rw [shift, shift, shift, ih₁, ih₂]
  | _ => rfl

theorem partTerms_shift (before d : Nat) (parts : List PatternPart) :
    partTerms (before + d) parts = (partTerms before parts).map (Term.shift d) := by
  induction parts generalizing before with
  | nil => rfl
  | cons part rest ih =>
    have hnext : before + d + part.opened = before + part.opened + d := by omega
    rw [partTerms, partTerms, List.map_cons, hnext, ih]
    cases part with
    | char c => rfl
    | placeholder p =>
      have hindex : before + d + 1 = before + 1 + d := by omega
      rw [PatternPart.termAfter, PatternPart.termAfter, Term.shift, Term.shift_shift, hindex]

theorem termAfter_eq_shift (before : Nat) (e : Entry α) :
    e.termAfter before = (e.termAfter 0).shift before := by
  have hparts := partTerms_shift 1 before e.pattern.parts
  rw [Entry.termAfter, Entry.termAfter, Term.shift, Term.shift_ofParts, Nat.zero_add, ← hparts,
    Nat.add_comm]

theorem branches_termAfter (before : Nat) (e : Entry α) :
    (e.termAfter before).branches? .initial =
      e.form?.map fun f => ([f.shift before], .initial) := by
  rw [termAfter_eq_shift, branches_shift]
  unfold Entry.termAfter Entry.form?
  rw [Term.branches?]
  cases (Term.ofParts (partTerms 1 e.pattern.parts)).branches? .initial <;> rfl

theorem isCapture_of_form {e : Entry α} {f : Form} (h : e.form? = some f) (before : Nat) :
    (f.shift before).IsCapture := by
  obtain ⟨r, -, rfl⟩ := Option.map_eq_some_iff.1 h
  trivial

theorem isCapture_of_entryForms {before : Nat} {entries : List (Entry α)} {forms : List Form}
    (h : entryForms? before entries = some forms) : ∀ f ∈ forms, f.IsCapture := by
  induction entries generalizing before forms with
  | nil => cases h; simp
  | cons e rest ih =>
    obtain ⟨f, hf, h⟩ := Option.bind_eq_some_iff.1 h
    obtain ⟨later, hlater, h⟩ := Option.bind_eq_some_iff.1 h
    cases h
    intro g hg
    rcases List.mem_cons.1 hg with rfl | hg
    · exact isCapture_of_form hf before
    · exact ih hlater g hg

theorem branches_entryTerms (before : Nat) {entries : List (Entry α)} (hne : entries ≠ []) :
    (Term.ofBranches (entryTerms before entries)).branches? .initial =
      (entryForms? before entries).map fun forms => (forms, .initial) := by
  induction entries generalizing before with
  | nil => exact absurd rfl hne
  | cons e rest ih =>
    cases rest with
    | nil =>
      rw [entryTerms, entryTerms, Term.ofBranches, branches_termAfter, entryForms?]
      cases e.form? <;> rfl
    | cons next rest =>
      have hrest := ih (before + e.opened) (List.cons_ne_nil _ _)
      have hterm : Term.ofBranches (entryTerms before (e :: next :: rest)) =
          .alt (e.termAfter before)
            (Term.ofBranches (entryTerms (before + e.opened) (next :: rest))) := rfl
      rw [hterm, Term.branches?, branches_termAfter, entryForms?]
      cases hf : e.form? with
      | none => rfl
      | some f =>
        simp only [Option.map_some, Option.bind_eq_bind, Option.bind_some, hrest]
        cases hforms : entryForms? (before + e.opened) (next :: rest) with
        | none => rfl
        | some forms =>
          have hchoose : Form.choose [f.shift before] = f.shift before :=
            Form.choose_captures (by simp) (by simpa using isCapture_of_form hf before)
          simp [hchoose]

/-- The form of a combined expression. -/
theorem form_combinedTerm {entries : List (Entry α)} (hne : entries ≠ []) :
    (combinedTerm entries).form? =
      (entryForms? 0 entries).map fun forms => (Form.ofChoices forms).anchored := by
  have hset : Modes.initial.set [] = .initial := rfl
  rw [Term.form?, combinedTerm]
  simp only [Term.branches?, Option.bind_eq_bind, Option.bind_some, hset,
    branches_entryTerms 0 hne]
  cases hforms : entryForms? 0 entries with
  | none => rfl
  | some forms =>
    have hne' : forms ≠ [] := by
      rintro rfl
      cases entries with
      | nil => exact hne rfl
      | cons e rest =>
        obtain ⟨f, -, h⟩ := Option.bind_eq_some_iff.1 hforms
        obtain ⟨later, -, h⟩ := Option.bind_eq_some_iff.1 h
        cases h
    exact congrArg some (Form.choose_anchored hne' (isCapture_of_entryForms hforms))

/-! ## Names and measures -/

theorem Expression.Term.names_shift (d : Nat) (t : Term) : (t.shift d).names = t.names := by
  induction t with
  | repetition _ _ _ _ ih | capture _ _ _ ih | «scoped» _ _ ih => simp [shift, names, ih]
  | seq _ _ ih₁ ih₂ | alt _ _ ih₁ ih₂ => simp [shift, names, ih₁, ih₂]
  | _ => rfl

theorem Expression.Term.depth_shift (d : Nat) (t : Term) : (t.shift d).depth = t.depth := by
  induction t with
  | repetition _ _ _ _ ih | capture _ _ _ ih | «scoped» _ _ ih => simp [shift, depth, ih]
  | seq first rest ih₁ ih₂ =>
    -- Only a chain of parts counts the rest without one level more.
    cases rest with
    | seq => exact congrArg₂ max (congrArg (· + 1) ih₁) ih₂
    | _ => exact congrArg₂ max (congrArg (· + 1) ih₁) (congrArg (· + 1) ih₂)
  | alt first rest ih₁ ih₂ =>
    cases rest with
    | alt => exact congrArg₂ max (congrArg (· + 1) ih₁) ih₂
    | _ => exact congrArg₂ max (congrArg (· + 1) ih₁) (congrArg (· + 1) ih₂)
  | _ => rfl

theorem Expression.Term.depth_le_alt (first rest : Term) :
    first.depth ≤ (Term.alt first rest).depth ∧ rest.depth ≤ (Term.alt first rest).depth := by
  cases rest <;> simp only [depth] <;> omega

theorem Expression.Term.names_ofParts (ts : List Term) : (ofParts ts).names = ts.flatMap names := by
  rw [names_eq, openings_ofParts, List.filterMap_flatMap]
  exact List.flatMap_congr fun t _ => (names_eq t).symm

theorem Expression.Term.names_ofBranches (ts : List Term) :
    (ofBranches ts).names = ts.flatMap names := by
  rw [names_eq, openings_ofBranches, List.filterMap_flatMap]
  exact List.flatMap_congr fun t _ => (names_eq t).symm

/-- The names of the groups inside the entry's placeholders. -/
def Entry.innerNames (e : Entry α) : List String :=
  (placeholders e.pattern.parts).flatMap (·.term.names)

theorem names_partTerms (before : Nat) {parts : List PatternPart}
    (h : ∀ p, .placeholder p ∈ parts → p.Emits) :
    (partTerms before parts).flatMap Term.names = (placeholders parts).flatMap (·.term.names) := by
  induction parts generalizing before with
  | nil => rfl
  | cons part rest ih =>
    have hrest := ih (before + part.opened) fun p hp => h p (List.mem_cons_of_mem _ hp)
    rw [partTerms, List.flatMap_cons, hrest]
    cases part with
    | char c => rfl
    | placeholder p =>
      rw [PatternPart.termAfter, Term.names, Term.names_shift, (h p List.mem_cons_self).names,
        placeholders, List.flatMap_cons]
      rfl

/-- The names of the groups in a combined expression. -/
theorem names_combinedTerm {entries : List (Entry α)} (h : ∀ e ∈ entries, e.pattern.Emits) :
    (combinedTerm entries).names = entries.flatMap Entry.innerNames := by
  have hentries (before : Nat) :
      (entryTerms before entries).flatMap Term.names = entries.flatMap Entry.innerNames := by
    induction entries generalizing before with
    | nil => rfl
    | cons e rest ih =>
      rw [entryTerms, List.flatMap_cons, ih (fun e' he' => h e' (List.mem_cons_of_mem _ he')),
        Entry.termAfter, Term.names, Term.names_ofParts, names_partTerms _ (h e List.mem_cons_self),
        List.flatMap_cons]
      rfl
  simp [combinedTerm, Term.names, Term.names_ofBranches, hentries]

theorem depth_le_ofBranches {t : Term} {ts : List Term} (h : t ∈ ts) :
    t.depth ≤ (Term.ofBranches ts).depth := by
  induction ts with
  | nil => exact absurd h (by simp)
  | cons first rest ih =>
    cases rest with
    | nil =>
      rw [List.mem_singleton.1 h]
      exact le_rfl
    | cons next rest =>
      have halt : Term.ofBranches (first :: next :: rest) =
          .alt first (Term.ofBranches (next :: rest)) := rfl
      obtain ⟨hfirst, hrest⟩ := Term.depth_le_alt first (Term.ofBranches (next :: rest))
      rw [halt]
      rcases List.mem_cons.1 h with rfl | h
      · exact hfirst
      · exact (ih h).trans hrest

theorem depth_combinedTerm (entries : List (Entry α)) :
    (combinedTerm entries).depth = (Term.ofBranches (entryTerms 0 entries)).depth + 2 := by
  simp only [combinedTerm, Term.depth]
  omega

/-! ## Building -/

/-- An engine for which one branch alone takes no more memory than a choice that it stands in, with
whatever numbers its groups have there. -/
class Engine.Monotone [Engine] : Prop where
  size_le {f : Form} {d : Nat} {forms : List Form} (h : f.shift d ∈ forms) :
    Engine.size f.anchored ≤ Engine.size (Form.ofChoices forms).anchored

/-- When the routes of a verb can be combined, and what their expression then means. -/
theorem ofText_sourceOf [Engine] {limit : Nat} {entries : List (Entry α)} (hne : entries ≠ [])
    (h : ∀ e ∈ entries, e.pattern.Emits) {x : Expression} :
    Expression.ofText? limit (Combined.sourceOf entries) = some x ↔
      ((entries.flatMap Entry.innerNames).Nodup ∧ (combinedTerm entries).depth ≤ depthLimit) ∧
        ∃ forms, entryForms? 0 entries = some forms ∧
          x = ⟨Combined.sourceOf entries, (Form.ofChoices forms).anchored⟩ ∧
          Engine.size x.form ≤ limit := by
  rw [ofText_eq_some, ← names_combinedTerm h]
  constructor
  · rintro ⟨t, ht, hok, hform, hsize, hsource⟩
    cases (parse_sourceOf h).symm.trans ht
    rw [form_combinedTerm hne] at hform
    obtain ⟨forms, hforms, hx⟩ := Option.map_eq_some_iff.1 hform
    refine ⟨hok, forms, hforms, ?_, hsize⟩
    rw [hx, ← hsource]
  · rintro ⟨hok, forms, hforms, rfl, hsize⟩
    refine ⟨combinedTerm entries, parse_sourceOf h, hok, ?_, hsize, rfl⟩
    rw [form_combinedTerm hne, hforms]
    rfl

theorem mem_entryForms {before : Nat} {entries : List (Entry α)} {forms : List Form}
    (h : entryForms? before entries = some forms) {e : Entry α} (he : e ∈ entries) :
    ∃ f n, e.form? = some f ∧ f.shift n ∈ forms := by
  induction entries generalizing before forms with
  | nil => exact absurd he (by simp)
  | cons first rest ih =>
    obtain ⟨f, hf, h⟩ := Option.bind_eq_some_iff.1 h
    obtain ⟨later, hlater, h⟩ := Option.bind_eq_some_iff.1 h
    cases h
    rcases List.mem_cons.1 he with rfl | he
    · exact ⟨f, before, hf, List.mem_cons_self⟩
    · obtain ⟨g, n, hg, hmem⟩ := ih hlater he
      exact ⟨g, n, hg, List.mem_cons_of_mem _ hmem⟩

theorem mem_entryTerms (before : Nat) {entries : List (Entry α)} {e : Entry α} (he : e ∈ entries) :
    ∃ n, (e.termAfter 0).shift n ∈ entryTerms before entries := by
  induction entries generalizing before with
  | nil => exact absurd he (by simp)
  | cons first rest ih =>
    rcases List.mem_cons.1 he with rfl | he
    · exact ⟨before, by rw [entryTerms, ← termAfter_eq_shift]; exact List.mem_cons_self⟩
    · obtain ⟨n, hmem⟩ := ih (before + first.opened) he
      exact ⟨n, List.mem_cons_of_mem _ hmem⟩

theorem Expression.Form.shift_zero (f : Form) : f.shift 0 = f := by
  induction f with
  | repetition _ _ _ _ ih => rw [shift, ih]
  | capture _ _ ih => rw [shift, ih, Nat.add_zero]
  | seq _ _ ih₁ ih₂ | alt _ _ ih₁ ih₂ => rw [shift, ih₁, ih₂]
  | _ => rfl

theorem exists_form_of_build [Engine] {v : Verb} {entries : List (Entry α)} {c : Combined α}
    (h : ∀ e ∈ entries, e.pattern.Emits) (hbuild : Combined.build v entries = .ok c) {e : Entry α}
    (he : e ∈ entries) : ∃ f, e.form? = some f := by
  obtain ⟨-, forms, hforms, -⟩ :=
    (ofText_sourceOf (List.ne_nil_of_mem he) h).1 (build_eq_ok hbuild).1
  obtain ⟨f, -, hf, -⟩ := mem_entryForms hforms he
  exact ⟨f, hf⟩

/-- What can be combined can be built alone. -/
theorem build_alone [Engine] [Engine.Monotone] {v : Verb} {entries : List (Entry α)}
    {c : Combined α} (h : ∀ e ∈ entries, e.pattern.Emits)
    (hbuild : Combined.build v entries = .ok c) {e : Entry α} (he : e ∈ entries) :
    ∃ f, e.form? = some f ∧
      Combined.build v [e] = .ok ⟨v, ⟨Combined.sourceOf [e], f.anchored⟩, [⟨1, e⟩]⟩ := by
  have hne : entries ≠ [] := List.ne_nil_of_mem he
  obtain ⟨⟨hnames, hdepth⟩, forms, hforms, hx, hsize⟩ :=
    (ofText_sourceOf hne h).1 (build_eq_ok hbuild).1
  obtain ⟨f, n, hf, hmem⟩ := mem_entryForms hforms he
  -- Names, depth and size of the one entry are those of a part of the whole.
  have hsublist : e.innerNames.Sublist (entries.flatMap Entry.innerNames) := by
    obtain ⟨before, after, rfl⟩ := List.append_of_mem he
    simp
  have hdepth' : (combinedTerm [e]).depth ≤ depthLimit := by
    obtain ⟨m, hterm⟩ := mem_entryTerms 0 he
    have hle := depth_le_ofBranches hterm
    rw [Term.depth_shift] at hle
    rw [depth_combinedTerm] at hdepth ⊢
    exact (Nat.add_le_add_right hle 2).trans hdepth
  have hsize' : Engine.size f.anchored ≤ Combined.memoryLimit := by
    rw [hx] at hsize
    exact (Engine.Monotone.size_le hmem).trans hsize
  have hsingle : entryForms? 0 [e] = some [f] := by
    simp [entryForms?, hf, Form.shift_zero]
  refine ⟨f, hf, ?_⟩
  have htext : Expression.ofText? Combined.memoryLimit (Combined.sourceOf [e]) =
      some ⟨Combined.sourceOf [e], f.anchored⟩ := by
    refine (ofText_sourceOf (by simp) (by simpa using h e he)).2
      ⟨⟨by simpa using hsublist.nodup hnames, hdepth'⟩, [f], hsingle, rfl, hsize'⟩
  rw [Combined.build, htext]
  rfl

/-! ## Within the limits -/

/-- The expression that a text writes, if it writes one, is not nested too deeply, and its automaton
takes at most `limit` bytes. -/
def Expression.WithinLimits [Engine] (limit : Nat) (source : String) : Prop :=
  ∀ t, Term.parse? source.toList = some t →
    t.depth ≤ depthLimit ∧ ∀ f, t.form? = some f → Engine.size f ≤ limit

instance [Engine] (limit : Nat) (source : String) :
    Decidable (Expression.WithinLimits limit source) :=
  inferInstanceAs (Decidable (∀ t ∈ Term.parse? source.toList,
    t.depth ≤ depthLimit ∧ ∀ f ∈ t.form?, Engine.size f ≤ limit))

theorem modesAfter_termAfter (before : Nat) {part : PatternPart}
    (h : ∀ p, part = .placeholder p → p.Checked ∧ p.Emits) :
    (part.termAfter before).modesAfter? .initial = some .initial := by
  cases part with
  | char c => rfl
  | placeholder p =>
    obtain ⟨hchecked, hemits⟩ := h p rfl
    have hmodes := hemits.modes.trans hchecked.modes
    rw [Term.modesAfter?, Option.isSome_map] at hmodes
    obtain ⟨r, hr⟩ := Option.isSome_iff_exists.1 hmodes
    rw [PatternPart.termAfter, Term.modesAfter?, Term.branches?, branches_shift, hr]
    rfl

/-- An entry with placeholders that have been checked has a form. -/
theorem exists_form {e : Entry α}
    (h : ∀ p, .placeholder p ∈ e.pattern.parts → p.Checked ∧ p.Emits) :
    ∃ f, e.form? = some f := by
  have hparts (before : Nat) (parts : List PatternPart)
      (hplaceholders : ∀ p, .placeholder p ∈ parts → p.Checked ∧ p.Emits) :
      (partTerms before parts).foldlM Term.modesAfter? .initial = some .initial := by
    induction parts generalizing before with
    | nil => rfl
    | cons part rest ih =>
      have hpart := modesAfter_termAfter before fun p hp =>
        hplaceholders p (hp ▸ List.mem_cons_self)
      have hrest := ih (before + part.opened) fun p hp =>
        hplaceholders p (List.mem_cons_of_mem _ hp)
      rw [partTerms, List.foldlM_cons, hpart]
      exact hrest
  have hmodes := hparts 1 e.pattern.parts h
  rw [← Term.modesAfter_ofParts, Term.modesAfter?] at hmodes
  obtain ⟨r, hr, -⟩ := Option.map_eq_some_iff.1 hmodes
  exact ⟨_, by rw [Entry.form?, hr]; rfl⟩

theorem exists_entryForms (before : Nat) {entries : List (Entry α)}
    (h : ∀ e ∈ entries, ∀ p, .placeholder p ∈ e.pattern.parts → p.Checked ∧ p.Emits) :
    ∃ forms, entryForms? before entries = some forms := by
  induction entries generalizing before with
  | nil => exact ⟨[], rfl⟩
  | cons e rest ih =>
    obtain ⟨f, hf⟩ := exists_form (h e List.mem_cons_self)
    obtain ⟨forms, hforms⟩ := ih (before + e.opened) fun d hd => h d (List.mem_cons_of_mem _ hd)
    exact ⟨f.shift before :: forms, by simp [entryForms?, hf, hforms]⟩

/-- Within the limits, checked routes can be combined if and only if no name is given to two groups
inside their placeholders. -/
theorem build_succeeds [Engine] {v : Verb} {entries : List (Entry α)} (hne : entries ≠ [])
    (h : ∀ e ∈ entries, ∀ p, .placeholder p ∈ e.pattern.parts → p.Checked ∧ p.Emits)
    (hlimits : Expression.WithinLimits Combined.memoryLimit (Combined.sourceOf entries)) :
    (∃ c, Combined.build v entries = .ok c) ↔ (entries.flatMap Entry.innerNames).Nodup := by
  have hemits : ∀ e ∈ entries, e.pattern.Emits := fun e he p hp => (h e he p hp).2
  constructor
  · rintro ⟨c, hbuild⟩
    exact ((ofText_sourceOf hne hemits).1 (build_eq_ok hbuild).1).1.1
  · intro hnames
    obtain ⟨forms, hforms⟩ := exists_entryForms 0 h
    obtain ⟨hdepth, hsize⟩ := hlimits _ (parse_sourceOf hemits)
    have hform : (combinedTerm entries).form? = some (Form.ofChoices forms).anchored := by
      rw [form_combinedTerm hne, hforms]
      rfl
    have htext : Expression.ofText? Combined.memoryLimit (Combined.sourceOf entries) =
        some ⟨Combined.sourceOf entries, (Form.ofChoices forms).anchored⟩ :=
      (ofText_sourceOf hne hemits).2 ⟨⟨hnames, hdepth⟩, forms, hforms, rfl, hsize _ hform⟩
    exact ⟨⟨v, ⟨_, _⟩, Combined.alternativesFrom 1 entries⟩, by rw [Combined.build, htext]⟩

end HttpRoutes
