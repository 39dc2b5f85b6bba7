import HttpRoutes.Proofs.Expression.Atoms
import HttpRoutes.Proofs.Expression.Traces

/-!
# What normal forms span

Bringing an expression into its normal form may change which of several matches is preferred, but
not from where to where it can match: a sequence spans what its parts span in a row
(`Form.spans_concat`), a repetition what its rounds span (`Form.spans_repeated`), and a choice what
any of its branches spans (`Form.spans_choose`).
-/

namespace HttpRoutes

/-! ## Sets of characters -/

/-- Everything in the set is a character. -/
def Text.CharSet.Proper (set : Text.CharSet) : Prop :=
  ∀ n, set.hasCode n = true → ∃ c : Char, c.toNat = n

namespace Text.CharSet

variable {set : CharSet}

theorem hasCode_of_isEmpty (h : set.isEmpty = true) (n : Nat) : set.hasCode n = false := by
  rw [hasCode, List.isEmpty_iff.1 h]
  rfl

theorem contains_insert (s : CharSet) (c d : Char) :
    (s.insert c.toNat c.toNat).contains d = (decide (c = d) || s.contains d) := by
  rw [contains, hasCode_insert, ← Bool.decide_and, ← contains]
  congr 2
  rw [← Char.toNat_inj, eq_iff_iff]
  omega

theorem contains_union (s t : CharSet) (d : Char) :
    (s.union t).contains d = (s.contains d || t.contains d) := hasCode_union s t d.toNat

theorem Proper.insert (h : set.Proper) (c : Char) : (set.insert c.toNat c.toNat).Proper := by
  intro n hn
  rw [hasCode_insert, Bool.or_eq_true, Bool.and_eq_true, decide_eq_true_eq,
    decide_eq_true_eq] at hn
  rcases hn with ⟨hge, hle⟩ | hn
  · exact ⟨c, Nat.le_antisymm hge hle⟩
  · exact h n hn

theorem Proper.union {other : CharSet} (h : set.Proper) (h' : other.Proper) :
    (set.union other).Proper := by
  intro n hn
  rw [hasCode_union, Bool.or_eq_true] at hn
  exact hn.elim (h n) (h' n)

theorem proper_empty : empty.Proper := by
  intro n hn
  cases hn

/-- The only member of a set is its only member. -/
theorem Proper.contains_iff (h : set.Proper) {c : Char} (hc : set.onlyMember? = some c)
    (d : Char) : set.contains d = true ↔ d = c := by
  unfold onlyMember? at hc
  split at hc
  · next lo hi hranges =>
    split at hc
    · next heq =>
      subst heq
      have hcode (n : Nat) : set.hasCode n = true ↔ n = lo := by
        simp only [hasCode, hranges, List.any_cons, List.any_nil, Bool.or_false, Bool.and_eq_true,
          decide_eq_true_eq]
        omega
      obtain ⟨x, rfl⟩ := h lo ((hcode lo).2 rfl)
      rw [Char.ofNat_toNat] at hc
      cases hc
      rw [contains, hcode, Char.toNat_inj]
    · cases hc
  · cases hc

end Text.CharSet

namespace Expression.Form

variable {text : List Char} {i j : Nat}

/-- Where the form is a set, everything in it is a character. -/
def SetProper : Form → Prop
  | .chars _ set => set.Proper
  | _ => True

/-- Every set in the form has nothing in it but characters. -/
abbrev Proper (f : Form) : Prop := f.MadeOf SetProper

theorem proper_ofSet (unicode : Bool) {set : Text.CharSet} (h : set.Proper) :
    (ofSet unicode set).Proper := by
  unfold ofSet
  split
  · exact Text.CharSet.proper_empty
  · split
    · trivial
    · exact h

/-- A set of one character spans what the character spans. -/
theorem spans_ofSet (unicode : Bool) {set : Text.CharSet} (h : set.Proper) :
    (ofSet unicode set).Spans text i j ↔ (Form.chars unicode set).Spans text i j := by
  unfold ofSet
  split
  · next hempty =>
    have hnone (c : Char) : set.contains c = false := Text.CharSet.hasCode_of_isEmpty hempty _
    show (j = i + 1 ∧ ∃ c, text[i]? = some c ∧ false = true) ↔
      j = i + 1 ∧ ∃ c, text[i]? = some c ∧ set.contains c = true
    simp [hnone]
  · split
    · next c hc =>
      show (j = i + 1 ∧ [c] <+: text.drop i) ↔
        j = i + 1 ∧ ∃ d, text[i]? = some d ∧ set.contains d = true
      simp only [h.contains_iff hc, exists_eq_right, ← List.head?_drop]
      cases text.drop i <;> simp [eq_comm]
    · exact Iff.rfl

/-! ## Sequence -/

/-- The forms can match one after the other from `i` to `j`. -/
def SpansAll (text : List Char) : List Form → Nat → Nat → Prop
  | [] => fun i j => i = j
  | f :: rest => fun i j => ∃ k, f.Spans text i k ∧ SpansAll text rest k j

theorem spansAll_iff_tracesAll {forms : List Form} :
    SpansAll text forms i j ↔ ∃ captures, TracesAll text forms i j captures := by
  induction forms generalizing i with
  | nil => simp [SpansAll, TracesAll]
  | cons f rest ih =>
    simp only [SpansAll, TracesAll, spans_iff_traces, ih]
    constructor
    · rintro ⟨k, ⟨earlier, hearlier⟩, later, hlater⟩
      exact ⟨_, k, later, earlier, rfl, hearlier, hlater⟩
    · rintro ⟨_, k, later, earlier, -, hearlier, hlater⟩
      exact ⟨k, ⟨earlier, hearlier⟩, later, hlater⟩

theorem spansAll_append {fs gs : List Form} :
    SpansAll text (fs ++ gs) i j ↔ ∃ k, SpansAll text fs i k ∧ SpansAll text gs k j := by
  induction fs generalizing i with
  | nil => simp [SpansAll]
  | cons f fs ih =>
    simp only [List.cons_append, SpansAll, ih]
    constructor
    · rintro ⟨k, hf, l, hfs, hgs⟩
      exact ⟨l, ⟨k, hf, hfs⟩, hgs⟩
    · rintro ⟨l, ⟨k, hf, hfs⟩, hgs⟩
      exact ⟨k, hf, l, hfs, hgs⟩

theorem spansAll_factors (f : Form) : SpansAll text f.factors i j ↔ f.Spans text i j := by
  simp only [spansAll_iff_tracesAll, tracesAll_factors, spans_iff_traces]

theorem spans_concat (forms : List Form) :
    (concat forms).Spans text i j ↔ SpansAll text forms i j := by
  simp only [spansAll_iff_tracesAll, spans_iff_traces, traces_concat]

/-! ## Repetition -/

theorem eq_of_spans {f : Form} (hempty : f.isAlwaysEmpty = true) (h : f.Spans text i j) :
    i = j := by
  induction f generalizing i j with
  | empty => exact h
  | literal s =>
    rw [isAlwaysEmpty, List.isEmpty_iff] at hempty
    rw [h.1, hempty]
    rfl
  | chars => cases hempty
  | look l => exact h.1
  | repetition least most greedy body ih =>
    rw [isAlwaysEmpty, Bool.and_eq_true] at hempty
    obtain ⟨n, -, -, hrounds⟩ := h
    induction n generalizing j with
    | zero => exact hrounds
    | succ n ihn =>
      obtain ⟨k, hrounds, hbody⟩ := hrounds
      exact (ihn hrounds).trans (ih hempty.2 hbody)
  | capture index body ih => exact ih hempty h
  | seq init last ih₁ ih₂ =>
    rw [isAlwaysEmpty, Bool.and_eq_true] at hempty
    obtain ⟨k, hinit, hlast⟩ := h
    exact (ih₁ hempty.1 hinit).trans (ih₂ hempty.2 hlast)
  | alt first rest ih₁ ih₂ =>
    rw [isAlwaysEmpty, Bool.and_eq_true] at hempty
    exact h.elim (ih₁ hempty.1) (ih₂ hempty.2)

/-- Repeating what matches the empty text alone matches it as soon as once is enough. -/
theorem spans_repetition_of_empty {body : Form} (hempty : body.isAlwaysEmpty = true)
    (least : Nat) (most : Option Nat) (greedy : Bool) :
    (Form.repetition least most greedy body).Spans text i j ↔
      i = j ∧ (least = 0 ∨ body.Spans text i i) := by
  have hstay {n : Nat} (h : Rounds (body.Spans text) n i j) :
      i = j ∧ (n = 0 ∨ body.Spans text i i) := by
    induction n generalizing j with
    | zero => exact ⟨h, .inl rfl⟩
    | succ n ih =>
      obtain ⟨k, hrounds, hbody⟩ := h
      obtain ⟨rfl, -⟩ := ih hrounds
      obtain rfl := eq_of_spans hempty hbody
      exact ⟨rfl, .inr hbody⟩
  constructor
  · rintro ⟨n, hleast, -, hrounds⟩
    obtain ⟨rfl, hn⟩ := hstay hrounds
    exact ⟨rfl, hn.imp_left fun hzero => by omega⟩
  · rintro ⟨rfl, hbody⟩
    refine ⟨least, le_rfl, fun limit _ => le_max_left _ _, ?_⟩
    rcases hbody with rfl | hbody
    · rfl
    · clear hstay
      induction least with
      | zero => rfl
      | succ n ih => exact ⟨i, ih, hbody⟩

theorem spans_repeated (least : Nat) (most : Option Nat) (greedy : Bool) (body : Form) :
    (repeated least most greedy body).Spans text i j ↔
      (Form.repetition least most greedy body).Spans text i j := by
  have hbounds (a : Nat) (b : Option Nat) :
      (if a = 0 ∧ b = some 0 then .empty
        else if a = 1 ∧ b = some 1 then body else Form.repetition a b greedy body).Spans text i j ↔
        (Form.repetition a b greedy body).Spans text i j := by
    split
    · next h =>
      obtain ⟨rfl, rfl⟩ := h
      simp [Spans, Rounds]
    · split
      · next h =>
        obtain ⟨rfl, rfl⟩ := h
        have hone (n : Nat) : (1 ≤ n ∧ n ≤ 1) ↔ n = 1 := by omega
        simp [Spans, ← and_assoc, hone, rounds_one]
      · exact Iff.rfl
  unfold repeated
  by_cases hempty : body.isAlwaysEmpty = true
  · have hzero : Nat.min least 1 = 0 ↔ least = 0 := by simp [Nat.min_eq_min]
    rw [if_pos hempty, spans_repetition_of_empty hempty]
    refine (hbounds _ _).trans ?_
    rw [spans_repetition_of_empty hempty, hzero]
  · rw [if_neg hempty]
    exact hbounds _ _

/-! ## Choice -/

theorem spans_choices (f : Form) :
    (∃ g ∈ f.choices, g.Spans text i j) ↔ f.Spans text i j := by
  induction f with
  | alt first rest _ ih =>
    rw [choices, List.exists_mem_cons_iff]
    exact or_congr Iff.rfl ih
  | _ => simp [choices]

theorem spans_ofChoices (forms : List Form) :
    (ofChoices forms).Spans text i j ↔ ∃ f ∈ forms, f.Spans text i j := by
  induction forms with
  | nil =>
    show (j = i + 1 ∧ ∃ c, text[i]? = some c ∧ false = true) ↔ _
    simp
  | cons f rest ih =>
    cases rest with
    | nil => simp [ofChoices]
    | cons g rest =>
      rw [List.exists_mem_cons_iff, ← ih]
      exact Iff.rfl

theorem proper_of_singleChars {forms : List Form} {set : Text.CharSet}
    (h : singleChars? forms = some set) : set.Proper := by
  induction forms generalizing set with
  | nil =>
    cases h
    exact Text.CharSet.proper_empty
  | cons f rest ih =>
    obtain ⟨c, more, rfl, hmore, rfl⟩ := singleChars_cons h
    exact (ih hmore).insert c

theorem proper_of_charSets {forms : List Form} {set : Text.CharSet}
    (h : charSets? forms = some set) (hforms : ∀ f ∈ forms, f.SetProper) : set.Proper := by
  induction forms generalizing set with
  | nil =>
    cases h
    exact Text.CharSet.proper_empty
  | cons f rest ih =>
    obtain ⟨unicode, own, more, rfl, hmore, rfl⟩ := charSets_cons h
    obtain ⟨hown, hrest⟩ := List.forall_mem_cons.1 hforms
    exact (ih hmore hrest).union hown

/-- Branches that are one character each span what the set of their characters spans. -/
theorem spans_of_singleChars {forms : List Form} {set : Text.CharSet}
    (h : singleChars? forms = some set) :
    (Form.chars true set).Spans text i j ↔ ∃ f ∈ forms, f.Spans text i j := by
  induction forms generalizing set with
  | nil =>
    cases h
    show (j = i + 1 ∧ ∃ c, text[i]? = some c ∧ false = true) ↔ _
    simp
  | cons f rest ih =>
    obtain ⟨c, more, rfl, hmore, rfl⟩ := singleChars_cons h
    have hsingle : (Form.literal [c]).Spans text i j ↔ j = i + 1 ∧ text[i]? = some c := by
      simp only [Spans, List.length_singleton, ← List.head?_drop]
      cases text.drop i <;> simp [eq_comm]
    rw [List.exists_mem_cons_iff, ← ih hmore, hsingle]
    simp only [Spans, Text.CharSet.contains_insert, Bool.or_eq_true, decide_eq_true_eq]
    constructor
    · rintro ⟨hj, d, hd, rfl | hd'⟩
      · exact .inl ⟨hj, hd⟩
      · exact .inr ⟨hj, d, hd, hd'⟩
    · rintro (⟨hj, hc⟩ | ⟨hj, d, hd, hd'⟩)
      · exact ⟨hj, c, hc, .inl rfl⟩
      · exact ⟨hj, d, hd, .inr hd'⟩

/-- Branches that are sets span what the union of the sets spans. -/
theorem spans_of_charSets {forms : List Form} {set : Text.CharSet}
    (h : charSets? forms = some set) :
    (Form.chars true set).Spans text i j ↔ ∃ f ∈ forms, f.Spans text i j := by
  induction forms generalizing set with
  | nil =>
    cases h
    show (j = i + 1 ∧ ∃ c, text[i]? = some c ∧ false = true) ↔ _
    simp
  | cons f rest ih =>
    obtain ⟨unicode, own, more, rfl, hmore, rfl⟩ := charSets_cons h
    rw [List.exists_mem_cons_iff, ← ih hmore]
    simp only [Spans, Text.CharSet.contains_union, Bool.or_eq_true]
    constructor
    · rintro ⟨hj, d, hd, hd' | hd'⟩
      · exact .inr ⟨hj, d, hd, hd'⟩
      · exact .inl ⟨hj, d, hd, hd'⟩
    · rintro (⟨hj, d, hd, hd'⟩ | ⟨hj, d, hd, hd'⟩)
      · exact ⟨hj, d, hd, .inr hd'⟩
      · exact ⟨hj, d, hd, .inl hd'⟩

theorem lasting_setProper : Lasting SetProper where
  empty := trivial
  literal _ := trivial
  chars h := proper_ofSet _ (proper_of_singleChars h)
  sets h hforms := proper_ofSet _ (proper_of_charSets h hforms)

/-- A branch spans what the common start and what is left behind it span in a row. -/
theorem spans_split {branches start : List Form} (hstart : SharedStart branches start) {f : Form}
    (hf : f ∈ branches) : f.Spans text i j ↔
      ∃ k, SpansAll text start i k ∧ (behind start f).Spans text k j := by
  rw [← spansAll_factors, hstart.factors_eq hf, spansAll_append]
  simp only [behind, spans_concat]

theorem spans_chooseAmong (n : Nat) {forms : List Form} (h : ∀ f ∈ forms, f.Proper) :
    (chooseAmong n forms).Spans text i j ↔ ∃ f ∈ forms, f.Spans text i j := by
  induction n generalizing forms i with
  | zero => exact spans_ofChoices forms
  | succ n ih =>
    have hflat : (∃ f ∈ forms.flatMap choices, f.Spans text i j) ↔
        ∃ f ∈ forms, f.Spans text i j := by
      constructor
      · rintro ⟨g, hg, hspans⟩
        obtain ⟨f, hf, hg⟩ := List.mem_flatMap.1 hg
        exact ⟨f, hf, (spans_choices f).1 ⟨g, hg, hspans⟩⟩
      · rintro ⟨f, hf, hspans⟩
        obtain ⟨g, hg, hspans⟩ := (spans_choices f).2 hspans
        exact ⟨g, List.mem_flatMap.2 ⟨f, hf, hg⟩, hspans⟩
    have hbranches : ∀ f ∈ forms.flatMap choices, f.Proper :=
      List.forall_mem_flatMap.2 fun f hf => madeOf_choices (h f hf)
    have hchosen := chosen_chooseAmong n forms
    rw [← hflat]
    generalize chooseAmong (n + 1) forms = chosen at hchosen ⊢
    cases hchosen with
    | asTheyAre => exact spans_ofChoices _
    | chars _ hset => rw [spans_ofSet _ (proper_of_singleChars hset), spans_of_singleChars hset]
    | sets _ hset =>
      have hproper := proper_of_charSets hset (of_madeOf_charSets hset hbranches)
      rw [spans_ofSet _ hproper, spans_of_charSets hset]
    | @takenOut start hstart =>
      have hbehind : ∀ g ∈ (forms.flatMap choices).map (behind start), g.Proper :=
        List.forall_mem_map.2 fun f hf => madeOf_behind lasting_setProper _ (hbranches f hf)
      simp only [spans_concat, spansAll_append, SpansAll, ih hbehind, exists_eq_right, List.mem_map,
        exists_exists_and_eq_and]
      constructor
      · rintro ⟨k, hk, f, hf, hrest⟩
        exact ⟨f, hf, (spans_split hstart hf).2 ⟨k, hk, hrest⟩⟩
      · rintro ⟨f, hf, hspans⟩
        obtain ⟨k, hk, hrest⟩ := (spans_split hstart hf).1 hspans
        exact ⟨k, hk, f, hf, hrest⟩

theorem spans_choose {forms : List Form} (h : ∀ f ∈ forms, f.Proper) :
    (choose forms).Spans text i j ↔ ∃ f ∈ forms, f.Spans text i j := spans_chooseAmong _ h

end Expression.Form

end HttpRoutes
