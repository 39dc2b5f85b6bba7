import HttpRoutes.Expression.Denote
import Mathlib.Data.List.Basic

/-!
# Shapes of normal forms

The normal form said by the shapes of terms and forms. A term has its branches by a relation with a
case for each kind of term (`Term.branches_eq_some`). Choosing between branches either leaves them
as they are, joins them to one set, or takes their common start out in front
(`Form.chosen_chooseAmong`); what is shown of these outcomes is then shown of a choice by induction
on how often a start may be taken out.
-/

namespace HttpRoutes.Expression

/-! ## Terms -/

/-- The branches of a term under the flags in front of it, and the flags behind it, by the shape of
the term. -/
inductive Term.Denotes : Modes → Term → List Form → Modes → Prop
  | empty {m : Modes} : Denotes m .empty [.empty] m
  | setFlags {m : Modes} {settings : List FlagSetting} :
      Denotes m (.setFlags settings) [.empty] (m.set settings)
  | char {m : Modes} {l : Literal} {f : Form} (h : m.charForm? l = some f) :
      Denotes m (.char l) [f] m
  | dot {m : Modes} {f : Form} (h : m.dotForm? = some f) : Denotes m .dot [f] m
  | assertion {m : Modes} {a : Assertion} : Denotes m (.assertion a) [.look (m.look a)] m
  | escaped {m : Modes} {k : EscapedClass} {negated : Bool} {set : Text.CharSet}
      (h : m.negate? negated (k.set m.unicode) = some set) :
      Denotes m (.escaped k negated) [.ofSet m.unicode set] m
  | property {m : Modes} {q : PropertyQuery} {negated : Bool} {set : Text.CharSet}
      (h : m.propertySet? q negated = some set) :
      Denotes m (.property q negated) [.ofSet true set] m
  | bracketed {m : Modes} {negated : Bool} {body : ClassBody} {listed set : Text.CharSet}
      (hbody : body.set? m = some listed) (h : m.negate? negated (m.fold listed) = some set) :
      Denotes m (.bracketed negated body) [.ofSet m.unicode set] m
  | repetition {m m' : Modes} {least : Nat} {most : Option Nat} {greedy : Bool} {body : Term}
      {forms : List Form} (h : Denotes m body forms m') :
      Denotes m (.repetition least most greedy body)
        [.repeated least most (greedy != m.swapGreed) (.choose forms)] m
  | capture {m m' : Modes} {index : Nat} {name : Option String} {body : Term} {forms : List Form}
      (h : Denotes m body forms m') :
      Denotes m (.capture index name body) [.capture index (.choose forms)] m
  | «scoped» {m m' : Modes} {settings : List FlagSetting} {body : Term} {forms : List Form}
      (h : Denotes (m.set settings) body forms m') :
      Denotes m (.scoped settings body) [.choose forms] m
  | seq {m m₁ m₂ : Modes} {first rest : Term} {as bs : List Form} (h₁ : Denotes m first as m₁)
      (h₂ : Denotes m₁ rest bs m₂) :
      Denotes m (.seq first rest) [.concat [.choose as, .choose bs]] m₂
  | alt {m m₁ m₂ : Modes} {first rest : Term} {as bs : List Form} (h₁ : Denotes m first as m₁)
      (h₂ : Denotes m₁ rest bs m₂) : Denotes m (.alt first rest) (.choose as :: bs) m₂

theorem Term.denotes_of_branches {t : Term} {m m' : Modes} {forms : List Form}
    (h : t.branches? m = some (forms, m')) : Denotes m t forms m' := by
  induction t generalizing m m' forms with
  | empty =>
    cases h
    exact .empty
  | setFlags settings =>
    cases h
    exact .setFlags
  | assertion a =>
    cases h
    exact .assertion
  | char l =>
    obtain ⟨f, hf, h⟩ := Option.bind_eq_some_iff.1 h
    cases h
    exact .char hf
  | dot =>
    obtain ⟨f, hf, h⟩ := Option.bind_eq_some_iff.1 h
    cases h
    exact .dot hf
  | escaped k negated =>
    obtain ⟨set, hset, h⟩ := Option.bind_eq_some_iff.1 h
    cases h
    exact .escaped hset
  | property q negated =>
    obtain ⟨set, hset, h⟩ := Option.bind_eq_some_iff.1 h
    cases h
    exact .property hset
  | bracketed negated body =>
    obtain ⟨listed, hlisted, h⟩ := Option.bind_eq_some_iff.1 h
    obtain ⟨set, hset, h⟩ := Option.bind_eq_some_iff.1 h
    cases h
    exact .bracketed hlisted hset
  | repetition least most greedy body ih =>
    obtain ⟨⟨forms, _⟩, hforms, h⟩ := Option.bind_eq_some_iff.1 h
    cases h
    exact .repetition (ih hforms)
  | capture index name body ih =>
    obtain ⟨⟨forms, _⟩, hforms, h⟩ := Option.bind_eq_some_iff.1 h
    cases h
    exact .capture (ih hforms)
  | «scoped» settings body ih =>
    obtain ⟨⟨forms, _⟩, hforms, h⟩ := Option.bind_eq_some_iff.1 h
    cases h
    exact .scoped (ih hforms)
  | seq first rest ih₁ ih₂ =>
    obtain ⟨⟨as, m₁⟩, has, h⟩ := Option.bind_eq_some_iff.1 h
    obtain ⟨⟨bs, m₂⟩, hbs, h⟩ := Option.bind_eq_some_iff.1 h
    cases h
    exact .seq (ih₁ has) (ih₂ hbs)
  | alt first rest ih₁ ih₂ =>
    obtain ⟨⟨as, m₁⟩, has, h⟩ := Option.bind_eq_some_iff.1 h
    obtain ⟨⟨bs, m₂⟩, hbs, h⟩ := Option.bind_eq_some_iff.1 h
    cases h
    exact .alt (ih₁ has) (ih₂ hbs)

theorem Term.branches_eq_some {t : Term} {m m' : Modes} {forms : List Form} :
    t.branches? m = some (forms, m') ↔ Denotes m t forms m' := by
  refine ⟨denotes_of_branches, fun h => ?_⟩
  induction h with
  | empty | setFlags | assertion => rfl
  | char h | dot h | escaped h | property h => simp [branches?, h]
  | bracketed hbody h => simp [branches?, hbody, h]
  | repetition _ ih | capture _ ih | «scoped» _ ih => simp [branches?, ih]
  | seq _ _ ih₁ ih₂ | alt _ _ ih₁ ih₂ => simp [branches?, ih₁, ih₂]

theorem Modes.charForm_cases {m : Modes} {l : Literal} {f : Form} (h : m.charForm? l = some f) :
    f = .literal [l.char] ∨ ∃ set, f = .ofSet m.unicode set := by
  unfold charForm? at h
  split at h
  · cases h
  · split at h
    · exact .inr ⟨_, (Option.some.inj h).symm⟩
    · exact .inl (Option.some.inj h).symm

theorem Modes.charForm_of_case {m : Modes} (hcase : m.ignoreCase = false) {l : Literal} {f : Form}
    (h : m.charForm? l = some f) : f = .literal [l.char] := by
  unfold charForm? at h
  split at h
  · cases h
  · rw [if_neg (by simp [hcase])] at h
    exact (Option.some.inj h).symm

theorem Modes.dotForm_cases {m : Modes} {f : Form} (h : m.dotForm? = some f) :
    ∃ set, f = .chars true set := by
  unfold dotForm? at h
  split at h
  · cases h
  · split at h
    · exact ⟨_, (Option.some.inj h).symm⟩
    · split at h
      · exact ⟨_, (Option.some.inj h).symm⟩
      · exact ⟨_, (Option.some.inj h).symm⟩

namespace Form

/-! ## Branches that are characters, sets or sequences -/

theorem singleChars_cons {f : Form} {rest : List Form} {set : Text.CharSet}
    (h : singleChars? (f :: rest) = some set) : ∃ c more, f = .literal [c] ∧
      singleChars? rest = some more ∧ set = more.insert c.toNat c.toNat := by
  unfold singleChars? at h
  split at h
  · next heq => cases heq
  · next c rest' heq =>
    cases heq
    obtain ⟨more, hmore, rfl⟩ := Option.map_eq_some_iff.1 h
    exact ⟨c, more, rfl, hmore, rfl⟩
  · cases h

theorem charSets_cons {f : Form} {rest : List Form} {set : Text.CharSet}
    (h : charSets? (f :: rest) = some set) : ∃ unicode own more, f = .chars unicode own ∧
      charSets? rest = some more ∧ set = more.union own := by
  unfold charSets? at h
  split at h
  · next heq => cases heq
  · next unicode own rest' heq =>
    cases heq
    obtain ⟨more, hmore, rfl⟩ := Option.map_eq_some_iff.1 h
    exact ⟨unicode, own, more, rfl, hmore, rfl⟩
  · cases h

/-- If all branches are sequences, `sequences?` gives the parts of each. -/
theorem sequences_eq_some {forms : List Form} {parts : List (List Form)}
    (h : sequences? forms = some parts) : parts = forms.map factors := by
  induction forms generalizing parts with
  | nil => cases h; rfl
  | cons f rest ih =>
    unfold sequences? at h
    split at h
    · next heq => exact absurd heq (by simp)
    · next heq =>
      cases heq
      obtain ⟨more, hmore, rfl⟩ := Option.map_eq_some_iff.1 h
      rw [ih hmore, List.map_cons]
    · exact absurd h (by simp)

/-! ## Common starts -/

theorem prefix_commonStart (as bs : List Form) :
    commonStart as bs <+: as ∧ commonStart as bs <+: bs := by
  induction as generalizing bs with
  | nil => exact ⟨List.nil_prefix, List.nil_prefix⟩
  | cons a as ih =>
    cases bs with
    | nil => exact ⟨List.nil_prefix, List.nil_prefix⟩
    | cons b bs =>
      rw [commonStart]
      split
      · next hab =>
        subst hab
        exact ⟨List.cons_prefix_cons.2 ⟨rfl, (ih bs).1⟩, List.cons_prefix_cons.2 ⟨rfl, (ih bs).2⟩⟩
      · exact ⟨List.nil_prefix, List.nil_prefix⟩

/-- What is common to all is a start of each. -/
theorem prefix_foldl_commonStart (first : List Form) (rest : List (List Form)) :
    ∀ parts ∈ first :: rest, rest.foldl commonStart first <+: parts := by
  induction rest generalizing first with
  | nil => simp
  | cons next rest ih =>
    intro parts hmem
    rw [List.foldl_cons]
    have hstart := ih (commonStart first next) _ List.mem_cons_self
    rcases List.mem_cons.1 hmem with rfl | hmem
    · exact hstart.trans (prefix_commonStart _ _).1
    · rcases List.mem_cons.1 hmem with rfl | hmem
      · exact hstart.trans (prefix_commonStart _ _).2
      · exact ih _ _ (List.mem_cons_of_mem _ hmem)

/-- What is left of a branch behind a start of it. -/
def behind (start : List Form) (f : Form) : Form := concat (f.factors.drop start.length)

/-- The start is what is taken out in front of a choice between the branches: there are several,
they are sequences, and it is the longest start that they share. -/
structure SharedStart (branches start : List Form) : Prop where
  several : 1 < branches.length
  no_chars : singleChars? branches = none
  no_sets : charSets? branches = none
  longest : ∃ first rest, sequences? branches = some (first :: rest) ∧
    start = rest.foldl commonStart first
  nonempty : start.isEmpty = false

namespace SharedStart

variable {branches start : List Form}

theorem ne_nil (h : SharedStart branches start) : branches ≠ [] :=
  List.length_pos_iff.1 (Nat.lt_of_succ_lt h.several)

/-- Every branch begins with the start. -/
theorem isPrefix (h : SharedStart branches start) : ∀ f ∈ branches, start <+: f.factors := by
  obtain ⟨first, rest, hseqs, rfl⟩ := h.longest
  intro f hf
  refine prefix_foldl_commonStart first rest _ ?_
  rw [sequences_eq_some hseqs]
  exact List.mem_map_of_mem hf

/-- A branch has the parts of the start and then what is left behind it. -/
theorem factors_eq (h : SharedStart branches start) {f : Form} (hf : f ∈ branches) :
    f.factors = start ++ f.factors.drop start.length := by
  obtain ⟨left, hleft⟩ := h.isPrefix f hf
  rw [← hleft, List.drop_left]

end SharedStart

/-! ## Outcomes -/

/-- What may become of the branches, none of which is a choice itself, if a common start may be
taken out of what is left of them `n` more times. -/
inductive Chosen (n : Nat) (branches : List Form) : Form → Prop
  | asTheyAre : Chosen n branches (ofChoices branches)
  | chars {set : Text.CharSet} (hne : branches ≠ []) (hset : singleChars? branches = some set) :
      Chosen n branches (ofSet true set)
  | sets {set : Text.CharSet} (hne : branches ≠ []) (hset : charSets? branches = some set) :
      Chosen n branches (ofSet true set)
  | takenOut {start : List Form} (h : SharedStart branches start) :
      Chosen n branches (concat (start ++ [chooseAmong n (branches.map (behind start))]))

theorem chosen_chooseAmong (n : Nat) (forms : List Form) :
    Chosen n (forms.flatMap choices) (chooseAmong (n + 1) forms) := by
  unfold chooseAmong
  generalize forms.flatMap choices = branches
  rcases branches with - | ⟨f, - | ⟨g, more⟩⟩
  · exact .asTheyAre
  · exact .asTheyAre
  · dsimp only
    split
    · next set hset => exact .chars (List.cons_ne_nil _ _) hset
    · next hchars =>
      split
      · next set hset => exact .sets (List.cons_ne_nil _ _) hset
      · next hsets =>
        split
        · next first rest hseqs =>
          split
          · exact .asTheyAre
          · next hstart =>
            rw [sequences_eq_some hseqs, List.map_map]
            refine .takenOut ⟨by simp, hchars, hsets, ⟨first, rest, hseqs, rfl⟩, ?_⟩
            exact Bool.eq_false_iff.2 hstart
        · exact .asTheyAre

end Form

end HttpRoutes.Expression
