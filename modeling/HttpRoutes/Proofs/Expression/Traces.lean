import HttpRoutes.Proofs.Expression.Reached

/-!
# Traces of a match

`Form.Traces` says what the groups along a sequence capture when the sequence matches: each group
captures the piece of text that it spans.
-/

namespace HttpRoutes.Expression

/-! ## Traces -/

namespace Form

/-- The form can match the text from `i` to `j` with these captures, the latest first. -/
def Traces (text : List Char) : Form → Nat → Nat → List Capture → Prop
  | .seq init last => fun i j captures => ∃ k later earlier, captures = later ++ earlier ∧
    init.Traces text i k earlier ∧ last.Traces text k j later
  | .capture index body => fun i j captures =>
    ∃ inner, captures = ⟨index, i, j⟩ :: inner ∧ body.Traces text i j inner
  | f => fun i j captures => f.Spans text i j ∧ ∀ x ∈ captures, x.group ∈ f.groups

variable {text : List Char} {f : Form} {i j : Nat} {captures : List Capture}

/-- What a matcher lists is traced. -/
theorem traces_of_mem {t : Trail} {o : Outcome} (h : o ∈ f.matcher (.after text i) t) :
    f.Traces text i o.cursor.pos o.captures := by
  have hwhole {f : Form} {i : Nat} {t : Trail} {o : Outcome}
      (h : o ∈ f.matcher (.after text i) t) :
      f.Spans text i o.cursor.pos ∧ ∀ x ∈ o.captures, x.group ∈ f.groups := by
    obtain ⟨owed, hfinds⟩ := f.matcher_finds text
    exact ⟨(hfinds.sound i t o h).2, (f.sound (fun _ hn => hn) _ _ o h).mem⟩
  induction f generalizing i t o with
  | seq init last ih₁ ih₂ =>
    obtain ⟨first, hfirst, h⟩ := List.mem_flatMap.1 (mem_of_mem_keepFirst h)
    obtain ⟨second, hsecond, rfl⟩ := List.mem_map.1 h
    obtain ⟨owed, hfinds⟩ := init.matcher_finds text
    rw [(hfinds.sound i _ first hfirst).1] at hsecond
    exact ⟨_, _, _, rfl, ih₁ hfirst, ih₂ hsecond⟩
  | capture index body ih =>
    obtain ⟨inner, hinner, rfl⟩ := List.mem_map.1 h
    exact ⟨inner.captures, rfl, ih hinner⟩
  | _ => exact hwhole h

theorem traces_of_matchWhole (h : f.matchWhole? text = some captures) :
    f.Traces text 0 text.length captures := by
  obtain ⟨o, ho, rfl⟩ := Option.map_eq_some_iff.1 h
  have hmem : o ∈ f.matcher (.after text 0) .clear := List.mem_of_find?_eq_some ho
  obtain ⟨owed, hfinds⟩ := f.matcher_finds text
  obtain ⟨hcursor, hspans⟩ := hfinds.sound 0 .clear o hmem
  have hle := (f.spans_forward text _ _ hspans).2
  have hend : o.cursor.pos = text.length := by
    have hatEnd := List.find?_some ho
    rw [Outcome.atEnd, hcursor, Cursor.after, List.isEmpty_iff, List.drop_eq_nil_iff] at hatEnd
    omega
  exact hend ▸ traces_of_mem hmem

/-- A form spans what it has a trace on. -/
theorem spans_iff_traces : f.Spans text i j ↔ ∃ captures, f.Traces text i j captures := by
  induction f generalizing i j with
  | seq init last ih₁ ih₂ =>
    constructor
    · rintro ⟨k, hik, hkj⟩
      obtain ⟨earlier, hearlier⟩ := ih₁.1 hik
      obtain ⟨later, hlater⟩ := ih₂.1 hkj
      exact ⟨_, k, later, earlier, rfl, hearlier, hlater⟩
    · rintro ⟨_, k, later, earlier, -, hearlier, hlater⟩
      exact ⟨k, ih₁.2 ⟨earlier, hearlier⟩, ih₂.2 ⟨later, hlater⟩⟩
  | capture index body ih =>
    constructor
    · intro h
      obtain ⟨inner, hinner⟩ := ih.1 h
      exact ⟨_, inner, rfl, hinner⟩
    · rintro ⟨_, inner, -, h⟩
      exact ih.2 ⟨inner, h⟩
  | _ =>
    constructor
    · intro h
      exact ⟨[], h, by simp⟩
    · rintro ⟨captures, h, -⟩
      exact h

theorem groups_of_traces (h : f.Traces text i j captures) : ∀ x ∈ captures, x.group ∈ f.groups := by
  induction f generalizing i j captures with
  | seq init last ih₁ ih₂ =>
    obtain ⟨k, later, earlier, rfl, hinit, hlast⟩ := h
    intro x hx
    rcases List.mem_append.1 hx with hx | hx
    · exact List.mem_append_right _ (ih₂ hlast x hx)
    · exact List.mem_append_left _ (ih₁ hinit x hx)
  | capture index body ih =>
    obtain ⟨inner, rfl, hinner⟩ := h
    intro x hx
    rcases List.mem_cons.1 hx with rfl | hx
    · exact List.mem_cons_self
    · exact List.mem_cons_of_mem _ (ih hinner x hx)
  | _ => exact h.2

/-! ## Sequences -/

/-- The forms can match one after the other, with these captures. -/
def TracesAll (text : List Char) : List Form → Nat → Nat → List Capture → Prop
  | [] => fun i j captures => i = j ∧ captures = []
  | f :: rest => fun i j captures => ∃ k later earlier, captures = later ++ earlier ∧
    f.Traces text i k earlier ∧ TracesAll text rest k j later

theorem tracesAll_append {fs gs : List Form} : TracesAll text (fs ++ gs) i j captures ↔
    ∃ k later earlier, captures = later ++ earlier ∧
      TracesAll text fs i k earlier ∧ TracesAll text gs k j later := by
  induction fs generalizing i captures with
  | nil =>
    constructor
    · intro h
      exact ⟨i, captures, [], (List.append_nil _).symm, ⟨rfl, rfl⟩, h⟩
    · rintro ⟨k, later, earlier, rfl, ⟨rfl, rfl⟩, h⟩
      rwa [List.append_nil]
  | cons f fs ih =>
    constructor
    · rintro ⟨k, later, earlier, rfl, hf, hrest⟩
      obtain ⟨l, last, middle, rfl, hfs, hgs⟩ := ih.1 hrest
      exact ⟨l, last, middle ++ earlier, List.append_assoc _ _ _,
        ⟨k, middle, earlier, rfl, hf, hfs⟩, hgs⟩
    · rintro ⟨l, last, _, rfl, ⟨k, middle, earlier, rfl, hf, hfs⟩, hgs⟩
      exact ⟨k, last ++ middle, earlier, (List.append_assoc _ _ _).symm, hf,
        ih.2 ⟨l, last, middle, rfl, hfs, hgs⟩⟩

theorem tracesAll_singleton : TracesAll text [f] i j captures ↔ f.Traces text i j captures := by
  constructor
  · rintro ⟨k, later, earlier, rfl, h, rfl, rfl⟩
    exact h
  · intro h
    exact ⟨j, [], captures, rfl, h, rfl, rfl⟩

theorem tracesAll_seq {init last : Form} {rest : List Form} :
    TracesAll text (.seq init last :: rest) i j captures ↔
      TracesAll text (init :: last :: rest) i j captures := by
  constructor
  · rintro ⟨l, later, _, rfl, ⟨k, middle, earlier, rfl, hinit, hlast⟩, hrest⟩
    exact ⟨k, later ++ middle, earlier, (List.append_assoc _ _ _).symm, hinit, l, later, middle,
      rfl, hlast, hrest⟩
  · rintro ⟨k, _, earlier, rfl, hinit, l, later, middle, rfl, hlast, hrest⟩
    exact ⟨l, later, middle ++ earlier, List.append_assoc _ _ _,
      ⟨k, middle, earlier, rfl, hinit, hlast⟩, hrest⟩

theorem tracesAll_factorsOnto (f : Form) (rest : List Form) :
    TracesAll text (f.factorsOnto rest) i j captures ↔ TracesAll text (f :: rest) i j captures := by
  induction f generalizing i j captures rest with
  | empty =>
    constructor
    · intro h
      exact ⟨i, captures, [], (List.append_nil _).symm, ⟨rfl, by simp⟩, h⟩
    · rintro ⟨k, later, earlier, rfl, ⟨rfl, hearlier⟩, h⟩
      obtain rfl : earlier = [] := List.eq_nil_iff_forall_not_mem.2 fun x hx => by
        exact absurd (hearlier x hx) (by simp [groups])
      rwa [factorsOnto, List.append_nil]
  | seq init last ih₁ =>
    rw [factorsOnto, ih₁, tracesAll_seq]
  | _ => exact Iff.rfl

theorem tracesAll_factors (f : Form) :
    TracesAll text f.factors i j captures ↔ f.Traces text i j captures :=
  (tracesAll_factorsOnto f []).trans tracesAll_singleton

theorem traces_ofFactors (factors : List Form) :
    (ofFactors factors).Traces text i j captures ↔ TracesAll text factors i j captures := by
  cases factors with
  | nil =>
    show (i = j ∧ ∀ x ∈ captures, x.group ∈ ([] : List Nat)) ↔ i = j ∧ captures = []
    simp [List.eq_nil_iff_forall_not_mem]
  | cons f rest =>
    show (rest.foldl .seq f).Traces text i j captures ↔ _
    induction rest generalizing f with
    | nil => exact tracesAll_singleton.symm
    | cons g rest ih =>
      rw [List.foldl_cons, ih (.seq f g)]
      exact tracesAll_seq

theorem append_prefix_drop {s t : List Char} : s ++ t <+: text.drop i ↔
    s <+: text.drop i ∧ t <+: text.drop (i + s.length) := by
  rw [← List.drop_drop]
  constructor
  · rintro ⟨u, hu⟩
    rw [← hu, List.append_assoc, List.drop_left]
    exact ⟨List.prefix_append _ _, List.prefix_append _ _⟩
  · rintro ⟨⟨u, hu⟩, ht⟩
    rw [← hu, List.drop_left] at ht
    rw [← hu]
    exact (List.prefix_append_right_inj s).2 ht

/-- Two neighbouring literals match as one. -/
theorem tracesAll_consFactor (f : Form) (rest : List Form) :
    TracesAll text (consFactor f rest) i j captures ↔ TracesAll text (f :: rest) i j captures := by
  unfold consFactor
  split
  · next s t rest =>
    have hmerge {k : Nat} {captures : List Capture} :
        (Form.literal (s ++ t)).Traces text i k captures ↔
          (Form.seq (.literal s) (.literal t)).Traces text i k captures := by
      have hnone {captures : List Capture} :
          (∀ x ∈ captures, x.group ∈ ([] : List Nat)) ↔ captures = [] := by
        simp [List.eq_nil_iff_forall_not_mem]
      simp only [Traces, Spans, groups, hnone, append_prefix_drop, List.length_append]
      constructor
      · rintro ⟨⟨rfl, hs, ht⟩, rfl⟩
        exact ⟨_, [], [], rfl, ⟨⟨rfl, hs⟩, rfl⟩, ⟨by omega, ht⟩, rfl⟩
      · rintro ⟨_, _, _, rfl, ⟨⟨rfl, hs⟩, rfl⟩, ⟨rfl, ht⟩, rfl⟩
        exact ⟨⟨by omega, hs, ht⟩, rfl⟩
    exact (exists_congr fun k => by simp only [hmerge]).trans tracesAll_seq
  · exact Iff.rfl

theorem traces_concat (forms : List Form) :
    (concat forms).Traces text i j captures ↔ TracesAll text forms i j captures := by
  have hmerge (fs : List Form) {i j : Nat} {captures : List Capture} :
      TracesAll text (fs.foldr consFactor []) i j captures ↔ TracesAll text fs i j captures := by
    induction fs generalizing i j captures with
    | nil => exact Iff.rfl
    | cons f fs ih =>
      rw [List.foldr_cons, tracesAll_consFactor]
      simp only [TracesAll, ih]
  have hflat {i j : Nat} {captures : List Capture} :
      TracesAll text (forms.flatMap factors) i j captures ↔
        TracesAll text forms i j captures := by
    induction forms generalizing i j captures with
    | nil => exact Iff.rfl
    | cons f forms ih =>
      rw [List.flatMap_cons, tracesAll_append]
      simp only [TracesAll, ih, tracesAll_factors]
  rw [concat, traces_ofFactors, hmerge, hflat]

/-! ## Forms that are no choice -/

/-- No factor of the form is a choice. -/
def NoChoice : Form → Prop
  | .seq init last => init.NoChoice ∧ last.NoChoice
  | .alt _ _ => False
  | _ => True

theorem choose_singleton (h : f.NoChoice) : choose [f] = f := by
  have hchoices : [f].flatMap choices = [f] := by
    rw [List.flatMap_singleton]
    cases f with
    | alt => exact h.elim
    | _ => rfl
  rw [choose, chooseAmong, hchoices]

theorem noChoice_factorsOnto {rest : List Form} (hf : f.NoChoice) (h : ∀ g ∈ rest, g.NoChoice) :
    ∀ g ∈ f.factorsOnto rest, g.NoChoice := by
  induction f generalizing rest with
  | empty => exact h
  | seq init last ih₁ ih₂ =>
    refine ih₁ hf.1 ?_
    intro g hg
    rcases List.mem_cons.1 hg with rfl | hg
    · exact hf.2
    · exact h g hg
  | _ =>
    intro g hg
    rcases List.mem_cons.1 hg with rfl | hg
    · exact hf
    · exact h g hg

theorem noChoice_ofFactors {factors : List Form} (h : ∀ g ∈ factors, g.NoChoice) :
    (ofFactors factors).NoChoice := by
  cases factors with
  | nil => trivial
  | cons f rest =>
    show (rest.foldl .seq f).NoChoice
    induction rest generalizing f with
    | nil => exact h f List.mem_cons_self
    | cons g rest ih =>
      refine ih (.seq f g) ?_
      intro g' hg'
      rcases List.mem_cons.1 hg' with rfl | hg'
      · exact ⟨h f (by simp), h g (by simp)⟩
      · exact h g' (by simp [hg'])

theorem noChoice_concat {forms : List Form} (h : ∀ f ∈ forms, f.NoChoice) :
    (concat forms).NoChoice := by
  have hflat : ∀ g ∈ forms.flatMap factors, g.NoChoice := by
    intro g hg
    obtain ⟨f, hf, hg⟩ := List.mem_flatMap.1 hg
    exact noChoice_factorsOnto (h f hf) (by simp) g hg
  refine noChoice_ofFactors ?_
  generalize forms.flatMap factors = parts at hflat
  induction parts with
  | nil => simp
  | cons f rest ih =>
    have hrest := ih fun g hg => hflat g (List.mem_cons_of_mem _ hg)
    rw [List.foldr_cons]
    unfold consFactor
    split
    · next s t later heq =>
      intro g hg
      rcases List.mem_cons.1 hg with rfl | hg
      · trivial
      · exact hrest g (heq ▸ List.mem_cons_of_mem _ hg)
    · intro g hg
      rcases List.mem_cons.1 hg with rfl | hg
      · exact hflat g List.mem_cons_self
      · exact hrest g hg

end Form

end HttpRoutes.Expression
