import HttpRoutes.Proofs.Expression.LeadingFlags
import HttpRoutes.Route.Pattern

/-!
# Placeholders as fragments

What compiling a placeholder has made sure of about its expression, and what the text that the
placeholder emits then reads as inside the parentheses of its group.
-/

namespace HttpRoutes

open Expression

/-! ## Numbers of groups -/

/-- The groups of an expression are numbered from one. -/
theorem Expression.groups_of_parse {text : List Char} {t : Term} (h : Term.parse? text = some t) :
    t.groups = List.range' 1 t.groups.length := by
  obtain ⟨pieces, q, hread, ht⟩ := parse_eq_some.1 h
  have hnumbers := (readPieces_numbers hread).2
  rw [← openings_assemble ht] at hnumbers
  have hgroups : t.groups = List.range' 1 q.groups := hnumbers
  rw [hgroups, List.length_range']

theorem Expression.keptGroups_ascend {text : List Char} {t : Term} (h : Term.parse? text = some t) :
    t.keptGroups.Pairwise (· < ·) := by
  refine List.Pairwise.sublist t.keptGroups_sublist ?_
  rw [groups_of_parse h]
  exact List.pairwise_lt_range'

/-- What it takes for a text to be an expression. -/
theorem Expression.ofText_eq_some [Engine] {limit : Nat} {source : String} {e : Expression} :
    Expression.ofText? limit source = some e ↔
      ∃ t, Term.parse? source.toList = some t ∧ (t.names.Nodup ∧ t.depth ≤ depthLimit) ∧
        t.form? = some e.form ∧ Engine.size e.form ≤ limit ∧ e.source = source := by
  unfold Expression.ofText? Term.read
  constructor
  · intro h
    obtain ⟨t, ht, h⟩ := Option.bind_eq_some_iff.1 h
    obtain ⟨f, hf, h⟩ := Option.bind_eq_some_iff.1 h
    obtain ⟨hparse, hok⟩ := Option.filter_eq_some_iff.1 ht
    split at h
    · next hsize =>
      cases h
      exact ⟨t, hparse, of_decide_eq_true hok, hf, hsize, rfl⟩
    · exact absurd h (by simp)
  · rintro ⟨t, hparse, hok, hf, hsize, rfl⟩
    rw [hparse, Option.filter_some, if_pos (decide_eq_true hok)]
    simp [hf, hsize]

/-- The numbers that the groups of an expression take, read off its term. -/
theorem Expression.groupCount_eq_last [Engine] {limit : Nat} {source : String} {e : Expression}
    (h : Expression.ofText? limit source = some e) {t : Term}
    (ht : Term.parse? source.toList = some t) : e.groupCount = t.keptGroups.getLastD 0 := by
  obtain ⟨t', hparse, -, hform, -, -⟩ := ofText_eq_some.1 h
  cases ht.symm.trans hparse
  have hascend := keptGroups_ascend ht
  have hgroups := Term.groups_form hform (hascend.imp Nat.ne_of_lt)
  rw [Expression.groupCount, Form.topGroup_eq_last (hgroups ▸ hascend), hgroups]

namespace Placeholder

/-! ## Compiled placeholders -/

/-- The text that is tried when the placeholder is compiled. -/
def tried (p : Placeholder) : String := if p.ascii then "(?-u)" ++ p.expression else p.expression

/-- The expression as a term, with the flag in front that it is tried with. -/
def term (p : Placeholder) : Term := (Term.parse? p.tried.toList).getD .empty

/-- What compiling a placeholder has made sure of. -/
structure Checked (p : Placeholder) : Prop where
  parse : Term.parse? p.tried.toList = some p.term
  names : p.term.names.Nodup
  modes : (p.term.modesAfter? .initial).isSome
  last : p.term.keptGroups.getLastD 0 = p.innerGroups

theorem checked_of_ofText [Engine] {p : Placeholder} {e : Expression}
    (h : Expression.ofText? placeholderLimit p.tried = some e)
    (hgroups : e.groupCount = p.innerGroups) :
    p.Checked := by
  obtain ⟨t, hparse, ⟨hnames, -⟩, hform, -, -⟩ := ofText_eq_some.1 h
  have hterm : p.term = t := by rw [term, hparse]; rfl
  refine ⟨by rw [hterm, hparse], hterm ▸ hnames, ?_, ?_⟩
  · obtain ⟨r, hr, -⟩ := Option.map_eq_some_iff.1 hform
    rw [hterm, Term.modesAfter?, hr]
    rfl
  · rw [← hgroups, groupCount_eq_last h hparse, hterm]

theorem checked_of_ofExpression [Engine] {name : Option String} {expression : String}
    {p : Placeholder} (h : ofExpression? name expression = some p) : p.Checked := by
  unfold ofExpression? at h
  split at h
  · next e he =>
    cases h
    exact checked_of_ofText he rfl
  · obtain ⟨e, he, rfl⟩ := Option.map_eq_some_iff.1 h
    exact checked_of_ofText he rfl

end Placeholder

theorem PatternPart.checked_of_ofToken [Engine] {pattern : String} {seen : List String}
    {t : PatternToken} {p : Placeholder} (h : ofToken pattern seen t = .ok (.placeholder p)) :
    p.Checked := by
  cases t with
  | char c => cases h
  | fault f => cases h
  | braced body =>
    simp only [ofToken] at h
    split at h
    · cases h
    · split at h
      · next hp =>
        cases h
        exact Placeholder.checked_of_ofExpression hp
      · cases h

theorem patternParts_cons_eq_ok [Engine] {pattern : String} {seen : List String} {t : PatternToken}
    {rest : List PatternToken} {parts : List PatternPart}
    (h : patternParts pattern seen (t :: rest) = .ok parts) :
    ∃ part later, PatternPart.ofToken pattern seen t = .ok part ∧
      patternParts pattern (seen ++ part.name?.toList) rest = .ok later ∧
      parts = part :: later := by
  rw [patternParts] at h
  cases hpart : PatternPart.ofToken pattern seen t with
  | error e => rw [hpart] at h; cases h
  | ok part =>
    rw [hpart] at h
    cases hlater : patternParts pattern (seen ++ part.name?.toList) rest with
    | error e => simp only [bind, Except.bind, hlater] at h; cases h
    | ok later =>
      simp only [bind, Except.bind, hlater] at h
      cases h
      exact ⟨part, later, rfl, hlater, rfl⟩

theorem checked_of_patternParts [Engine] {pattern : String} {seen : List String}
    {tokens : List PatternToken} {parts : List PatternPart}
    (h : patternParts pattern seen tokens = .ok parts) {p : Placeholder}
    (hp : .placeholder p ∈ parts) : p.Checked := by
  induction tokens generalizing seen parts with
  | nil =>
    cases h
    exact absurd hp (by simp)
  | cons t rest ih =>
    obtain ⟨part, later, hpart, hlater, rfl⟩ := patternParts_cons_eq_ok h
    rcases List.mem_cons.1 hp with rfl | hp
    · exact PatternPart.checked_of_ofToken hpart
    · exact ih hlater hp

namespace Pattern

theorem compile_eq_ok [Engine] {text : String} {p : Pattern} (h : compile text = .ok p) :
    p.text = text ∧
      patternParts text [] (patternTokens 0 (trimSlashes text).toList) = .ok p.parts := by
  rw [compile] at h
  cases hparts : patternParts text [] (patternTokens 0 (trimSlashes text).toList) with
  | error e => rw [hparts] at h; cases h
  | ok parts => rw [hparts] at h; cases h; exact ⟨rfl, rfl⟩

/-- Every placeholder of a compiled pattern has been checked. -/
theorem checked_of_compile [Engine] {text : String} {pattern : Pattern}
    (h : compile text = .ok pattern) {p : Placeholder} (hp : .placeholder p ∈ pattern.parts) :
    p.Checked :=
  checked_of_patternParts (compile_eq_ok h).2 hp

end Pattern

/-! ## What a placeholder emits -/

namespace Placeholder

/-- The text that the placeholder emits, as a term. -/
def body (p : Placeholder) : Term := (Term.parse? p.emitted.toList).getD .empty

/-- The emitted text reads as a term inside parentheses that has the groups and the names of the
expression. -/
structure Emits (p : Placeholder) : Prop where
  reads : ∃ pieces after, Reads ⟨0, false⟩ (p.emitted.toList ++ [')']) pieces after [')'] ∧
    assemble pieces = some p.body
  names : p.body.names = p.term.names
  groups : p.body.groups = p.term.groups
  keptGroups : p.body.keptGroups = p.term.keptGroups
  modes : (p.body.modesAfter? .initial).isSome = (p.term.modesAfter? .initial).isSome

/-- With the Unicode flag off, the placeholder emits a group around what its expression reads as
inside parentheses. -/
theorem spells_of_ascii {p : Placeholder} (ha : p.ascii = true) {pieces : List Piece}
    {after : Progress} {t : Term}
    (hreads : Reads ⟨0, false⟩ (p.expression.toList ++ [')']) pieces after [')'])
    (ht : assemble pieces = some t) :
    Spells ⟨0, false⟩ p.emitted.toList [.part (.scoped [⟨.unicode, false⟩] t)]
      { after with verbose := false } := by
  have hemitted : p.emitted.toList =
      '(' :: (['?', '-', 'u', ':'] ++ p.expression.toList ++ [')']) := by
    rw [emitted, if_pos ha, String.toList_append, String.toList_append]
    rfl
  have hopen (tail : List Char) :
      readOpening ⟨0, false⟩ (['?', '-', 'u', ':'] ++ (p.expression.toList ++ ')' :: tail)) =
        some (.scoped [⟨.unicode, false⟩], ⟨0, false⟩, p.expression.toList ++ ')' :: tail) := rfl
  rw [hemitted]
  exact spells_group (by simp) rfl hopen hreads ht

theorem body_of_spells {p : Placeholder} {q : Progress} {t : Term}
    (h : Spells ⟨0, false⟩ p.emitted.toList [.part t] q) : p.body = t := by
  rw [body, h.parse rfl]
  rfl

theorem toList_tried {p : Placeholder} (ha : p.ascii = true) :
    p.tried.toList = '(' :: (['?', '-', 'u', ')'] ++ p.expression.toList) := by
  rw [tried, if_pos ha, String.toList_append]
  rfl

theorem readOpening_unicode_off (tail : List Char) :
    readOpening ⟨0, false⟩ (['?', '-', 'u', ')'] ++ tail) =
      some (.flags [⟨.unicode, false⟩], ⟨0, false⟩, tail) := rfl

theorem emits_of_ascii {p : Placeholder} (ha : p.ascii = true)
    (hparse : Term.parse? p.tried.toList = some p.term) (hin : ReadsInside p.tried.toList) :
    p.Emits := by
  obtain ⟨pieces, after, hreads, hpieces⟩ := reads_inside hin hparse
  rw [toList_tried ha, List.cons_append, List.append_assoc] at hreads
  obtain ⟨later, rfl, hlater⟩ := reads_flags rfl readOpening_unicode_off hreads
  obtain ⟨t, ht, hprefixed⟩ := assemble_flags hpieces
  have hspells := spells_of_ascii ha hlater ht
  have hbody := body_of_spells hspells
  refine ⟨⟨_, _, hspells.reads_close, by rw [hbody]; rfl⟩, ?_, ?_, ?_, ?_⟩
  · rw [hbody, Term.names_eq, Term.names_eq, hprefixed.openings]
    rfl
  · rw [hbody, Term.groups, Term.groups, hprefixed.openings]
    rfl
  · rw [hbody, hprefixed.keptGroups, Term.keptGroups]
  · rw [hbody, hprefixed.modesAfter]
    simp only [Term.modesAfter?, Term.branches?]
    cases t.branches? (Modes.initial.set [⟨.unicode, false⟩]) <;> rfl

theorem emits_of_not_ascii {p : Placeholder} (ha : p.ascii = false)
    (hparse : Term.parse? p.tried.toList = some p.term) (hin : ReadsInside p.tried.toList) :
    p.Emits := by
  have htried : p.emitted = p.tried := by
    rw [tried, emitted, ha]
    rfl
  have hbody : p.body = p.term := by rw [body, htried, term]
  obtain ⟨pieces, after, hreads, hpieces⟩ := reads_inside hin hparse
  refine ⟨⟨pieces, after, ?_, ?_⟩, ?_, ?_, ?_, ?_⟩
  · rwa [htried]
  all_goals rw [hbody]
  exact hpieces

/-- A placeholder that reads inside parentheses as it reads alone emits a text that does so too. -/
theorem Checked.emits {p : Placeholder} (hc : p.Checked) (hin : ReadsInside p.tried.toList) :
    p.Emits := by
  cases ha : p.ascii with
  | true => exact emits_of_ascii ha hc.parse hin
  | false => exact emits_of_not_ascii ha hc.parse hin

end Placeholder

end HttpRoutes
