import HttpRoutes.Proofs.Expression.LookFree
import HttpRoutes.Proofs.Expression.Traces
import HttpRoutes.Proofs.Route.Precedence

/-!
# Patterns with values filled in

A path that an entry matches is the pattern of the entry with a value in the place of each
placeholder, and each value is what the group around its placeholder captures
(`Entry.values_of_matchAlone`). The other way round, filling in values that match by themselves
gives a path that the entry matches (`Entry.matchAlone_of_filled`).
-/

namespace HttpRoutes

open Expression

variable {α : Type}

/-! ## Filling in -/

/-- The text of tokens with the next value in the place of each placeholder. -/
def fillTokens : List PatternToken → List String → List Char
  | [], _ => []
  | .char c :: rest, values => c :: fillTokens rest values
  | .braced _ :: rest, value :: values => value.toList ++ fillTokens rest values
  | .braced _ :: rest, [] => fillTokens rest []
  | .fault _ :: rest, values => fillTokens rest values

/-- The pattern, without the slashes at its ends, with a value in the place of each placeholder. -/
def Pattern.filled (p : Pattern) (values : List String) : String :=
  String.ofList (fillTokens (patternTokens 0 p.literal.toList) values)

/-- The text of parts with the next value in the place of each placeholder. -/
def fillParts : List PatternPart → List String → List Char
  | [], _ => []
  | .char c :: rest, values => c :: fillParts rest values
  | .placeholder _ :: rest, value :: values => value.toList ++ fillParts rest values
  | .placeholder _ :: rest, [] => fillParts rest []

/-- The value by itself is a match of what the placeholder emits. -/
def Placeholder.Matches (p : Placeholder) (value : String) : Prop :=
  (p.body.form?.bind fun f => f.matchWhole? value.toList).isSome = true

instance (p : Placeholder) (value : String) : Decidable (p.Matches value) :=
  inferInstanceAs (Decidable (_ = true))

/-- The named placeholders with their values, in order. -/
def namedValues (named : List Placeholder) (values : List String) : List (String × String) :=
  (named.zip values).filterMap fun (p, value) => p.name.map fun name => (name, value)

theorem fillTokens_eq [Engine] {pattern : String} {seen : List String} {tokens : List PatternToken}
    {parts : List PatternPart} (h : patternParts pattern seen tokens = .ok parts)
    (values : List String) : fillTokens tokens values = fillParts parts values := by
  induction tokens generalizing seen parts values with
  | nil =>
    cases h
    rfl
  | cons t rest ih =>
    obtain ⟨part, later, hpart, hlater, rfl⟩ := patternParts_cons_eq_ok h
    cases t with
    | char c =>
      cases hpart
      exact congrArg (c :: ·) (ih hlater values)
    | fault f => cases hpart
    | braced body =>
      have hplaceholder : ∃ p, part = .placeholder p := by
        simp only [PatternPart.ofToken] at hpart
        split at hpart
        · cases hpart
        · split at hpart
          · next p hp =>
            cases hpart
            exact ⟨p, rfl⟩
          · cases hpart
      obtain ⟨p, rfl⟩ := hplaceholder
      cases values with
      | nil => exact ih hlater []
      | cons value values => exact congrArg (value.toList ++ ·) (ih hlater values)

theorem Pattern.toList_filled [Engine] {p : Pattern} (hcompiled : compile p.text = .ok p)
    (values : List String) : (p.filled values).toList = fillParts p.parts values := by
  rw [filled, String.toList_ofList, literal, fillTokens_eq (compile_eq_ok hcompiled).2]

/-- What stands between braces, with its braces. -/
def PatternToken.written? : PatternToken → Option String
  | .braced body => some (String.ofList ('\x7b' :: body ++ ['\x7d']))
  | _ => none

/-- The tokens are the text of the pattern: with its own text in the place of each placeholder a
pattern is filled to what it was. -/
theorem Pattern.filled_written [Engine] {p : Pattern} (hcompiled : compile p.text = .ok p) :
    p.filled ((patternTokens 0 p.literal.toList).filterMap PatternToken.written?) = p.literal := by
  have hparts : patternParts p.text [] (patternTokens 0 p.literal.toList) = .ok p.parts :=
    (compile_eq_ok hcompiled).2
  rw [filled, ← String.toList_inj, String.toList_ofList]
  have hfault {f : BraceFault} {seen : List String} {parts : List PatternPart}
      (h : patternParts p.text seen [.fault f] = .ok parts) : False := by
    obtain ⟨part, later, hpart, -, -⟩ := patternParts_cons_eq_ok h
    cases hpart
  generalize p.literal.toList = cs, p.parts = parts, 0 = offset, ([] : List String) = seen
    at hparts ⊢
  fun_induction patternTokens offset cs generalizing seen parts with
  | case1 => rfl
  | case2 => exact (hfault hparts).elim
  | case3 => exact (hfault hparts).elim
  | case4 offset rest b body after hclose ih =>
    obtain ⟨part, later, -, hlater, -⟩ := patternParts_cons_eq_ok hparts
    have hrest := ih _ _ hlater
    rw [eq_of_closeBrace hclose]
    simp [PatternToken.written?, fillTokens, hrest]
  | case5 => exact (hfault hparts).elim
  | case6 offset c rest hc hclose ih =>
    obtain ⟨part, later, -, hlater, -⟩ := patternParts_cons_eq_ok hparts
    exact congrArg (c :: ·) (ih _ _ hlater)

/-! ## Forms of parts -/

/-- The form of a part behind `before` groups. -/
def PatternPart.formAfter? (before : Nat) : PatternPart → Option Form
  | .char c => some (.literal [c])
  | .placeholder p => p.body.form?.map fun f => .capture (before + 1) (f.shift (before + 1))

/-- The forms of parts behind `before` groups. -/
def partForms? (before : Nat) : List PatternPart → Option (List Form)
  | [] => some []
  | part :: rest => do
    let f ← part.formAfter? before
    let forms ← partForms? (before + part.opened) rest
    some (f :: forms)

theorem branches_part (before : Nat) (part : PatternPart) :
    (part.termAfter before).branches? .initial =
      (part.formAfter? before).map fun f => ([f], .initial) := by
  cases part with
  | char c => simp [PatternPart.termAfter, PatternPart.formAfter?, Term.branches?, Modes.charForm?,
      Modes.initial]
  | placeholder p =>
    rw [PatternPart.termAfter, PatternPart.formAfter?, Term.branches?, branches_shift,
      Term.form?]
    cases p.body.branches? .initial with
    | none => rfl
    | some r => simp [shiftBranches, Form.shift_choose]

theorem noChoice_part {before : Nat} {part : PatternPart} {f : Form}
    (h : part.formAfter? before = some f) : f.NoChoice := by
  cases part with
  | char c =>
    cases h
    trivial
  | placeholder p =>
    obtain ⟨g, -, rfl⟩ := Option.map_eq_some_iff.1 h
    trivial

theorem noChoice_partForms {before : Nat} {parts : List PatternPart} {forms : List Form}
    (h : partForms? before parts = some forms) : ∀ f ∈ forms, f.NoChoice := by
  induction parts generalizing before forms with
  | nil =>
    cases h
    simp
  | cons part rest ih =>
    obtain ⟨f, hf, h⟩ := Option.bind_eq_some_iff.1 h
    obtain ⟨later, hlater, h⟩ := Option.bind_eq_some_iff.1 h
    cases h
    exact List.forall_mem_cons.2 ⟨noChoice_part hf, ih hlater⟩

/-- The form of a sequence that is put together from its end. -/
def Expression.Form.row : List Form → Form
  | [] => .empty
  | [f] => f
  | f :: rest => .concat [f, row rest]

theorem Expression.Form.noChoice_row {forms : List Form} (h : ∀ f ∈ forms, f.NoChoice) :
    (row forms).NoChoice := by
  induction forms with
  | nil => trivial
  | cons f rest ih =>
    obtain ⟨hf, hrest⟩ := List.forall_mem_cons.1 h
    cases rest with
    | nil => exact hf
    | cons g rest => exact noChoice_concat (by simpa using ⟨hf, ih hrest⟩)

/-- A sequence matches what its forms match in a row. -/
theorem Expression.Form.traces_row (forms : List Form) {text : List Char} {i j : Nat}
    {captures : List Capture} :
    (row forms).Traces text i j captures ↔ TracesAll text forms i j captures := by
  induction forms generalizing i captures with
  | nil => exact traces_ofFactors []
  | cons f rest ih =>
    cases rest with
    | nil => exact tracesAll_singleton.symm
    | cons g rest =>
      show (concat [f, row (g :: rest)]).Traces text i j captures ↔ _
      rw [traces_concat]
      exact exists_congr fun k => exists_congr fun later => exists_congr fun earlier =>
        and_congr_right fun _ => and_congr_right fun _ => tracesAll_singleton.trans ih

/-- The parts of a pattern make one form. -/
theorem branches_partTerms {before : Nat} {parts : List PatternPart} {branches : List Form}
    {m : Modes} (h : (Term.ofParts (partTerms before parts)).branches? .initial =
      some (branches, m)) :
    ∃ forms, branches = [.row forms] ∧ m = .initial ∧ partForms? before parts = some forms := by
  induction parts generalizing before branches m with
  | nil =>
    cases h
    exact ⟨[], rfl, rfl, rfl⟩
  | cons part rest ih =>
    cases rest with
    | nil =>
      have hpart : (part.termAfter before).branches? .initial = some (branches, m) := h
      rw [branches_part] at hpart
      obtain ⟨f, hf, heq⟩ := Option.map_eq_some_iff.1 hpart
      cases heq
      refine ⟨[f], rfl, rfl, ?_⟩
      rw [partForms?, hf]
      rfl
    | cons next rest =>
      have hseq : Term.ofParts (partTerms before (part :: next :: rest)) =
          .seq (part.termAfter before)
            (Term.ofParts (partTerms (before + part.opened) (next :: rest))) := rfl
      rw [hseq] at h
      obtain ⟨⟨as, m₁⟩, ha, h⟩ := Option.bind_eq_some_iff.1 h
      obtain ⟨⟨bs, m₂⟩, hb, h⟩ := Option.bind_eq_some_iff.1 h
      rw [branches_part] at ha
      obtain ⟨f, hf, heq⟩ := Option.map_eq_some_iff.1 ha
      cases heq
      obtain ⟨forms, rfl, rfl, hforms⟩ := ih hb
      cases h
      rw [Form.choose_singleton (noChoice_part hf),
        Form.choose_singleton (Form.noChoice_row (noChoice_partForms hforms))]
      refine ⟨f :: forms, ?_, rfl, ?_⟩
      · obtain ⟨g, later, rfl⟩ : ∃ g later, forms = g :: later := by
          obtain ⟨g, -, hrest⟩ := Option.bind_eq_some_iff.1 hforms
          obtain ⟨later, -, hrest⟩ := Option.bind_eq_some_iff.1 hrest
          exact ⟨g, later, (Option.some.inj hrest).symm⟩
        rfl
      · rw [partForms?, hf, Option.bind_eq_bind, Option.bind_some, hforms]
        rfl

/-- The form of an entry is a group around the forms of its parts in a row. -/
theorem Entry.form_eq_some {e : Entry α} {f : Form} (h : e.form? = some f) :
    ∃ forms, f = .capture 1 (.row forms) ∧ partForms? 1 e.pattern.parts = some forms := by
  obtain ⟨⟨branches, m⟩, hbranches, rfl⟩ := Option.map_eq_some_iff.1 h
  obtain ⟨forms, rfl, -, hforms⟩ := branches_partTerms hbranches
  exact ⟨forms, congrArg _ (Form.choose_singleton (Form.noChoice_row (noChoice_partForms hforms))),
    hforms⟩

/-! ## Values -/

/-- The parts fit the text from `i` to `j`, with these values in the places of the placeholders. -/
def Fits (text : List Char) : List PatternPart → Nat → Nat → List String → Prop
  | [] => fun i j values => i = j ∧ values = []
  | .char c :: rest => fun i j values => text[i]? = some c ∧ Fits text rest (i + 1) j values
  | .placeholder p :: rest => fun i j values => ∃ k value later f, values = value :: later ∧
    p.body.form? = some f ∧ f.Spans text i k ∧ value.toList = (text.drop i).take (k - i) ∧
    Fits text rest k j later

variable {text : List Char} {parts : List PatternPart} {i j : Nat} {values : List String}

/-- A text from `i` on is its piece up to `k` and what follows. -/
theorem drop_eq_take_append (text : List Char) {i k : Nat} (h : i ≤ k) :
    text.drop i = (text.drop i).take (k - i) ++ text.drop k := by
  have hdrop : text.drop k = (text.drop i).drop (k - i) := by
    rw [List.drop_drop]
    congr 1
    omega
  rw [hdrop, List.take_append_drop]

/-- What fits is the text. -/
theorem fillParts_of_fits (h : Fits text parts i j values) :
    text.drop i = fillParts parts values ++ text.drop j := by
  induction parts generalizing i values with
  | nil =>
    obtain ⟨rfl, rfl⟩ := h
    rfl
  | cons part rest ih =>
    cases part with
    | char c =>
      obtain ⟨hc, hrest⟩ := h
      obtain ⟨hlt, rfl⟩ := List.getElem?_eq_some_iff.1 hc
      rw [fillParts, List.cons_append, ← ih hrest, List.drop_eq_getElem_cons hlt]
    | placeholder p =>
      obtain ⟨k, value, later, f, rfl, hf, hspans, hvalue, hrest⟩ := h
      have hle := (f.spans_forward text _ _ hspans).1
      rw [fillParts, List.append_assoc, ← ih hrest, hvalue]
      exact drop_eq_take_append text hle

/-- A value of a placeholder that looks around nowhere is a match by itself. -/
theorem matches_of_fits (h : Fits text parts i j values) (hi : i ≤ text.length) :
    List.Forall₂ (fun p value => p.body.looksAround = false → p.Matches value)
      (placeholders parts) values := by
  induction parts generalizing i values with
  | nil =>
    obtain ⟨-, rfl⟩ := h
    exact .nil
  | cons part rest ih =>
    cases part with
    | char c =>
      obtain ⟨hc, hrest⟩ := h
      have hlt := (List.getElem?_eq_some_iff.1 hc).1
      exact ih hrest hlt
    | placeholder p =>
      obtain ⟨k, value, later, f, rfl, hf, hspans, hvalue, hrest⟩ := h
      have hle := f.spans_forward text _ _ hspans
      refine .cons ?_ (ih hrest (by omega))
      intro hlook
      have hlength : value.toList.length = k - i := by
        rw [hvalue, List.length_take, List.length_drop]
        omega
      -- The piece of the text that the placeholder spans, cut out, is spanned as well.
      have htext : text.take i ++ value.toList ++ text.drop k = text := by
        rw [hvalue, List.append_assoc, ← drop_eq_take_append text hle.1, List.take_append_drop]
      have hwithin := Form.spans_within (i := 0) (j := value.toList.length)
        (Term.looksAround_form hf hlook) (text.take i) value.toList (text.drop k)
        (Nat.zero_le _) le_rfl
      rw [htext, List.length_take, hlength] at hwithin
      have hends : min i text.length + 0 = i ∧ min i text.length + (k - i) = k := by omega
      rw [hends.1, hends.2] at hwithin
      rw [Placeholder.Matches, hf, Option.bind_some, Form.matchWhole_isSome, hlength]
      exact hwithin.1 hspans

/-- Values that match by themselves fit in where they are filled in. -/
theorem fits_fillParts (before : List Char)
    (h : List.Forall₂ (fun p value => p.body.looksAround = false ∧ p.Matches value)
      (placeholders parts) values) :
    Fits (before ++ fillParts parts values) parts before.length
      (before ++ fillParts parts values).length values := by
  induction parts generalizing before values with
  | nil =>
    cases h
    exact ⟨by simp [fillParts], rfl⟩
  | cons part rest ih =>
    cases part with
    | char c =>
      have hrest := ih (before ++ [c]) h
      rw [List.append_assoc, List.length_append] at hrest
      exact ⟨by simp [fillParts], hrest⟩
    | placeholder p =>
      cases h with
      | cons hmatch hlater =>
        rename_i value later
        have hrest := ih (before ++ value.toList) hlater
        obtain ⟨f, hf, hwhole⟩ : ∃ f, p.body.form? = some f ∧
            (f.matchWhole? value.toList).isSome = true := by
          obtain ⟨captures, hcaptures⟩ := Option.isSome_iff_exists.1 hmatch.2
          obtain ⟨f, hf, hwhole⟩ := Option.bind_eq_some_iff.1 hcaptures
          exact ⟨f, hf, by rw [hwhole]; rfl⟩
        have hspans := (Form.spans_within (i := 0) (Term.looksAround_form hf hmatch.1) before
          value.toList (fillParts rest later) (Nat.zero_le _) le_rfl).2
          (Form.matchWhole_isSome.1 hwhole)
        rw [List.append_assoc, List.length_append] at hrest
        rw [List.append_assoc] at hspans
        refine ⟨_, value, later, f, rfl, hf, hspans, ?_, hrest⟩
        rw [fillParts, List.drop_left, Nat.add_sub_cancel_left]
        exact List.take_left.symm

/-! ## Captures -/

theorem Expression.Form.le_of_mem_groups_shift {f : Form} {d n : Nat}
    (h : n ∈ (f.shift d).groups) : d ≤ n := by
  induction f with
  | repetition _ _ _ _ ih => exact ih h
  | capture index body ih =>
    rcases List.mem_cons.1 h with rfl | h
    · exact Nat.le_add_left d index
    · exact ih h
  | seq _ _ ih₁ ih₂ | alt _ _ ih₁ ih₂ =>
    rcases List.mem_append.1 h with h | h
    · exact ih₁ h
    · exact ih₂ h
  | _ => exact absurd h (by simp [Form.shift, Form.groups])

theorem group_append_left {later earlier : List Capture} {n : Nat} {value : String}
    (h : Expression.Match.group? ⟨text, later⟩ n = some value) :
    Expression.Match.group? ⟨text, later ++ earlier⟩ n = some value := by
  obtain ⟨x, hx, rfl⟩ := Option.map_eq_some_iff.1 h
  have hfind : later.find? (fun x => decide (x.group = n)) = some x := hx
  rw [Expression.Match.group?, Expression.Match.capture?, List.find?_append, hfind]
  rfl

theorem group_append_right {later earlier : List Capture} {n : Nat}
    (h : ∀ x ∈ later, x.group ≠ n) :
    Expression.Match.group? ⟨text, later ++ earlier⟩ n =
      Expression.Match.group? ⟨text, earlier⟩ n := by
  have hnone : later.find? (fun x => decide (x.group = n)) = none :=
    List.find?_eq_none.2 fun x hx => by simpa using h x hx
  rw [Expression.Match.group?, Expression.Match.capture?, List.find?_append, hnone]
  rfl

/-- Where the forms of parts match in a row, the parts fit, and the group around each placeholder
captures its value. -/
theorem fits_of_traces {before : Nat} {forms : List Form} {captures : List Capture}
    (hforms : partForms? before parts = some forms)
    (h : Form.TracesAll text forms i j captures) :
    ∃ values, Fits text parts i j values ∧ (∀ x ∈ captures, before < x.group) ∧
      List.Forall₂ (fun n value => Expression.Match.group? ⟨text, captures⟩ n = some value)
        (slotNumbers Placeholder.openedInside before parts) values := by
  induction parts generalizing before forms i captures with
  | nil =>
    cases hforms
    obtain ⟨rfl, rfl⟩ := h
    exact ⟨[], ⟨rfl, rfl⟩, by simp, .nil⟩
  | cons part rest ih =>
    obtain ⟨f, hf, hforms⟩ := Option.bind_eq_some_iff.1 hforms
    obtain ⟨later, hlater, hforms⟩ := Option.bind_eq_some_iff.1 hforms
    cases hforms
    obtain ⟨k, after, earlier, rfl, htrace, hrest⟩ := h
    obtain ⟨values, hfits, hbounds, hvalues⟩ := ih hlater hrest
    cases part with
    | char c =>
      cases hf
      obtain ⟨⟨rfl, hprefix⟩, hnone⟩ := htrace
      obtain rfl : earlier = [] := List.eq_nil_iff_forall_not_mem.2 fun x hx => by
        exact absurd (hnone x hx) (by simp [Form.groups])
      rw [List.append_nil]
      refine ⟨values, ⟨?_, hfits⟩, hbounds, hvalues⟩
      obtain ⟨tail, htail⟩ := hprefix
      rw [← List.head?_drop, ← htail]
      rfl
    | placeholder p =>
      obtain ⟨body, hbody, rfl⟩ := Option.map_eq_some_iff.1 hf
      obtain ⟨inner, rfl, hinner⟩ := htrace
      have hspans := Form.spans_iff_traces.2 ⟨inner, hinner⟩
      rw [Form.spans_shift] at hspans
      have hopened : (PatternPart.placeholder p).opened = p.openedInside + 1 := rfl
      rw [hopened] at hbounds hvalues
      refine ⟨String.ofList ((text.drop i).take (k - i)) :: values, ?_, ?_, ?_⟩
      · exact ⟨k, _, values, body, rfl, hbody, hspans, String.toList_ofList, hfits⟩
      · intro x hx
        rcases List.mem_append.1 hx with hx | hx
        · have hgt := hbounds x hx
          omega
        · rcases List.mem_cons.1 hx with rfl | hx
          · exact Nat.lt_succ_self before
          · exact Form.le_of_mem_groups_shift (Form.groups_of_traces hinner x hx)
      · refine .cons ?_ (hvalues.imp fun n value h => group_append_left h)
        rw [group_append_right]
        · simp [Expression.Match.group?, Expression.Match.capture?]
        · intro x hx
          have hgt := hbounds x hx
          omega

/-- Where parts fit, their forms match in a row. -/
theorem traces_of_fits {before : Nat} {forms : List Form}
    (hforms : partForms? before parts = some forms) (h : Fits text parts i j values) :
    ∃ captures, Form.TracesAll text forms i j captures := by
  induction parts generalizing before forms i values with
  | nil =>
    cases hforms
    exact ⟨[], h.1, rfl⟩
  | cons part rest ih =>
    obtain ⟨f, hf, hforms⟩ := Option.bind_eq_some_iff.1 hforms
    obtain ⟨later, hlater, hforms⟩ := Option.bind_eq_some_iff.1 hforms
    cases hforms
    cases part with
    | char c =>
      cases hf
      obtain ⟨hc, hrest⟩ := h
      obtain ⟨captures, hcaptures⟩ := ih hlater hrest
      obtain ⟨hlt, rfl⟩ := List.getElem?_eq_some_iff.1 hc
      refine ⟨captures, i + 1, captures, [], (List.append_nil _).symm, ⟨⟨rfl, ?_⟩, by simp⟩,
        hcaptures⟩
      rw [List.drop_eq_getElem_cons hlt]
      exact ⟨_, rfl⟩
    | placeholder p =>
      obtain ⟨body, hbody, rfl⟩ := Option.map_eq_some_iff.1 hf
      obtain ⟨k, value, values, g, rfl, hg, hspans, -, hrest⟩ := h
      cases hbody.symm.trans hg
      obtain ⟨captures, hcaptures⟩ := ih hlater hrest
      rw [← Form.spans_shift text (before + 1) body] at hspans
      obtain ⟨inner, hinner⟩ := Form.spans_iff_traces.1 hspans
      exact ⟨_, k, captures, _, rfl, ⟨inner, rfl, hinner⟩, hcaptures⟩

/-! ## Entries -/

/-- A path that an entry matches is its pattern with a value for each placeholder, which the group
around the placeholder captures. What a placeholder does not look around for matches by itself. -/
theorem Entry.values_of_matchAlone [Engine] {e : Entry α}
    (hcompiled : Pattern.compile e.pattern.text = .ok e.pattern) {path : String}
    {captures : List Capture} (h : e.matchAlone? path.toList = some captures) :
    ∃ values, e.pattern.filled values = path ∧
      List.Forall₂ (fun p value => p.body.looksAround = false → p.Matches value)
        (placeholders e.pattern.parts) values ∧
      List.Forall₂ (fun n value =>
          Expression.Match.group? ⟨path.toList, captures⟩ n = some value)
        (slotNumbers Placeholder.openedInside 1 e.pattern.parts) values := by
  obtain ⟨f, hf, hmatch⟩ := Option.bind_eq_some_iff.1 h
  obtain ⟨forms, rfl, hforms⟩ := e.form_eq_some hf
  obtain ⟨inner, rfl, hinner⟩ := Form.traces_of_matchWhole hmatch
  obtain ⟨values, hfits, hbounds, hvalues⟩ :=
    fits_of_traces hforms ((Form.traces_row forms).1 hinner)
  refine ⟨values, ?_, matches_of_fits hfits (Nat.zero_le _), ?_⟩
  · have htext := fillParts_of_fits hfits
    rw [List.drop_zero, List.drop_length, List.append_nil] at htext
    exact String.toList_inj.1 (by rw [Pattern.toList_filled hcompiled, htext])
  · refine hvalues.imp fun n value hvalue => ?_
    -- The group around the entry is none of its placeholders.
    obtain ⟨x, hx, -⟩ := Option.map_eq_some_iff.1 hvalue
    replace hx : inner.find? (fun x => decide (x.group = n)) = some x := hx
    have hgt := hbounds x (List.mem_of_find?_eq_some hx)
    have hgroup : x.group = n := by simpa using List.find?_some hx
    have houter : ∀ y ∈ [(⟨1, 0, path.toList.length⟩ : Capture)], y.group ≠ n := by
      intro y hy
      rw [List.mem_singleton.1 hy]
      show 1 ≠ n
      omega
    exact (group_append_right houter).trans hvalue

/-- Values that match by themselves, filled in, give a path that the entry matches. -/
theorem Entry.matchAlone_of_filled [Engine] {e : Entry α}
    (hcompiled : Pattern.compile e.pattern.text = .ok e.pattern) {f : Form}
    (hf : e.form? = some f) {values : List String}
    (hvalues : List.Forall₂ (fun p value => p.body.looksAround = false ∧ p.Matches value)
      (placeholders e.pattern.parts) values) :
    (e.matchAlone? (e.pattern.filled values).toList).isSome = true := by
  have hfits := fits_fillParts [] hvalues
  rw [List.nil_append, ← Pattern.toList_filled hcompiled] at hfits
  obtain ⟨forms, rfl, hforms⟩ := e.form_eq_some hf
  obtain ⟨captures, hcaptures⟩ := traces_of_fits hforms hfits
  rw [Entry.matchAlone?, hf, Option.bind_some, Form.matchWhole_isSome]
  exact Form.spans_iff_traces.2 ⟨_, captures, rfl, (Form.traces_row forms).2 hcaptures⟩

/-! ## Parameters -/

/-- Only placeholders that keep their last groups stand in front of a named one. -/
def Pattern.KeepsNumbers (p : Pattern) : Prop :=
  (placeholders p.parts).Pairwise fun q named => named.name.isSome = true → q.KeepsLastGroup

instance (p : Pattern) : Decidable p.KeepsNumbers :=
  inferInstanceAs (Decidable (List.Pairwise _ _))

/-- What is read at the recorded numbers from `slot` on are the named values, if `slot` is the
number that the next group really has. It need not be where no name follows. -/
theorem namedValues_of_slots {m : Expression.Match} {parts : List PatternPart} {before slot : Nat}
    {values : List String} (hchecked : ∀ p, .placeholder p ∈ parts → p.Checked)
    (hkeeps : (placeholders parts).Pairwise fun q named =>
      named.name.isSome = true → q.KeepsLastGroup)
    (hvalues : List.Forall₂ (fun n value => m.group? n = some value)
      (slotNumbers Placeholder.openedInside before parts) values)
    (hslot : slot = before ∨ ∀ p ∈ placeholders parts, p.name = none) :
    ((Pattern.slotsFrom slot parts).filterMap fun q =>
        q.2.name.map fun name => (name, (m.group? (1 + q.1)).getD "")) =
      namedValues (placeholders parts) values := by
  induction parts generalizing before slot values with
  | nil => rfl
  | cons part rest ih =>
    have hchecked' : ∀ p, .placeholder p ∈ rest → p.Checked :=
      fun p hp => hchecked p (List.mem_cons_of_mem _ hp)
    cases part with
    | char c => exact ih hchecked' hkeeps hvalues hslot
    | placeholder p =>
      cases hvalues with
      | @cons _ value _ later hvalue hlater =>
        obtain ⟨hfirst, hrest⟩ := List.pairwise_cons.1 hkeeps
        have hnext : slot + 1 + p.innerGroups = before + (p.openedInside + 1) ∨
            ∀ q ∈ placeholders rest, q.name = none := by
          rcases hslot with rfl | hnone
          · by_cases hkept : p.KeepsLastGroup
            · left
              rw [(keepsLastGroup_iff (hchecked p List.mem_cons_self)).2 hkept]
              omega
            · -- Behind a placeholder that loses its last group none has a name.
              right
              intro q hq
              by_contra hname
              exact hkept (hfirst q hq (Option.isSome_iff_ne_none.2 hname))
          · exact .inr fun q hq => hnone q (List.mem_cons_of_mem _ hq)
        have hown : (p.name.map fun name => (name, (m.group? (1 + slot)).getD "")) =
            p.name.map fun name => (name, value) := by
          rcases hslot with rfl | hnone
          · rw [Nat.add_comm, hvalue]
            rfl
          · rw [hnone p List.mem_cons_self]
            rfl
        have hih := ih hchecked' hrest hlater hnext
        rw [namedValues] at hih ⊢
        simp only [Pattern.slotsFrom, placeholders, List.zip_cons_cons, List.filterMap_cons, hih,
          hown]

/-- The parameters are the named values if the numbers recorded for the named placeholders are those
of their groups. -/
theorem params_eq {e : Entry α} {m : Expression.Match} {values : List String}
    (hchecked : ∀ p, .placeholder p ∈ e.pattern.parts → p.Checked) (hkeeps : e.pattern.KeepsNumbers)
    (hvalues : List.Forall₂ (fun n value => m.group? n = some value)
      (slotNumbers Placeholder.openedInside 1 e.pattern.parts) values) :
    (Combined.params ⟨1, e⟩ m).pairs = namedValues (placeholders e.pattern.parts) values :=
  namedValues_of_slots hchecked hkeeps hvalues (.inl rfl)

end HttpRoutes
