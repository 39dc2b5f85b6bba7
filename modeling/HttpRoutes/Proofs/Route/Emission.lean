import HttpRoutes.Proofs.Expression.AsciiMode
import HttpRoutes.Proofs.Route.Filling

/-!
# Two ways to emit a placeholder

Placeholders are emitted with the Unicode flag off wherever that is possible. `Entry.inUnicode` is
the entry that emits all of them as they are written. If their expressions set no flags, both ways
open the same groups, and on a path of ASCII characters the same entries match.
-/

namespace HttpRoutes

open Expression

variable {α : Type}

/-! ## Placeholders -/

/-- The placeholder with its expression emitted as it is written. -/
def Placeholder.inUnicode (p : Placeholder) : Placeholder := { p with ascii := false }

/-- The part with its expression emitted as it is written. -/
def PatternPart.inUnicode : PatternPart → PatternPart
  | .char c => .char c
  | .placeholder p => .placeholder p.inUnicode

/-- The pattern with all expressions emitted as they are written. -/
def Pattern.inUnicode (p : Pattern) : Pattern := { p with parts := p.parts.map .inUnicode }

/-- The entry with all expressions emitted as they are written. -/
def Entry.inUnicode (e : Entry α) : Entry α := { e with pattern := e.pattern.inUnicode }

/-- A term that sets no flags turns none on. -/
theorem Expression.Term.turnsOn_of_setsFlags {t : Term} (h : t.setsFlags = false) (flag : Flag) :
    t.turnsOn flag = false := by
  unfold turnsOn
  induction t with
  | setFlags settings => cases h
  | repetition _ _ _ body ih => exact ih h
  | capture index name body ih => exact ih h
  | «scoped» settings body ih =>
    rw [setsFlags, Bool.or_eq_false_iff, Bool.not_eq_false', List.isEmpty_iff] at h
    obtain ⟨rfl, hbody⟩ := h
    exact ih hbody
  | seq first rest ih₁ ih₂ | alt first rest ih₁ ih₂ =>
    rw [setsFlags, Bool.or_eq_false_iff] at h
    rw [openings, List.any_append, ih₁ h.1, ih₂ h.2]
    rfl
  | _ => rfl

namespace Placeholder

/-- The expression reads as a term that sets no flags. -/
def Flagless (p : Placeholder) : Prop := p.inUnicode.term.setsFlags = false

instance (p : Placeholder) : Decidable p.Flagless := inferInstanceAs (Decidable (_ = false))

theorem inUnicode_of_not_ascii {p : Placeholder} (ha : p.ascii = false) : p.inUnicode = p := by
  cases p
  cases ha
  rfl

/-- The expression reads as it does behind the flag that it is tried with. -/
theorem Checked.parse_expression {p : Placeholder} (h : p.Checked) (ha : p.ascii = true) :
    Term.parse? p.expression.toList = some p.inUnicode.term ∧
      Prefixed [⟨.unicode, false⟩] p.term p.inUnicode.term := by
  obtain ⟨pieces, q, hreads, hpieces⟩ := parse_eq_some.1 h.parse
  rw [toList_tried ha] at hreads
  obtain ⟨later, rfl, hlater⟩ := reads_flags rfl readOpening_unicode_off hreads
  obtain ⟨t, ht, hprefixed⟩ := assemble_flags hpieces
  have hparse : Term.parse? p.expression.toList = some t := parse_eq_some.2 ⟨_, _, hlater, ht⟩
  have hterm : p.inUnicode.term = t := by
    show (Term.parse? p.expression.toList).getD .empty = t
    rw [hparse]
    rfl
  rw [hterm]
  exact ⟨hparse, hprefixed⟩

theorem Checked.openings_term {p : Placeholder} (h : p.Checked) :
    p.term.openings = p.inUnicode.term.openings ∨
      p.term.openings = .flags [⟨.unicode, false⟩] :: p.inUnicode.term.openings := by
  cases ha : p.ascii with
  | true => exact .inr (h.parse_expression ha).2.openings
  | false => exact .inl (by rw [inUnicode_of_not_ascii ha])

theorem Checked.groups_inUnicode {p : Placeholder} (h : p.Checked) :
    p.inUnicode.term.groups = p.term.groups := by
  rw [Term.groups, Term.groups]
  rcases h.openings_term with ho | ho <;> rw [ho]
  rfl

theorem Checked.keptGroups_inUnicode {p : Placeholder} (h : p.Checked) :
    p.inUnicode.term.keptGroups = p.term.keptGroups := by
  cases ha : p.ascii with
  | true => exact (h.parse_expression ha).2.keptGroups.symm
  | false => rw [inUnicode_of_not_ascii ha]

theorem Checked.parse_inUnicode {p : Placeholder} (h : p.Checked) :
    Term.parse? p.inUnicode.tried.toList = some p.inUnicode.term := by
  cases ha : p.ascii with
  | true => exact (h.parse_expression ha).1
  | false =>
    rw [inUnicode_of_not_ascii ha]
    exact h.parse

theorem Checked.names_inUnicode {p : Placeholder} (h : p.Checked) :
    p.inUnicode.term.names = p.term.names := by
  rw [Term.names_eq, Term.names_eq]
  rcases h.openings_term with ho | ho <;> rw [ho]
  rfl

/-- Verbose mode is off in an expression that sets no flags, however it is emitted. -/
theorem Checked.verbose_off {p : Placeholder} (h : p.Checked) (hflags : p.Flagless) :
    p.term.turnsOn .verbose = false := by
  have hoff := Term.turnsOn_of_setsFlags hflags .verbose
  unfold Term.turnsOn at hoff ⊢
  rcases h.openings_term with ho | ho <;> rw [ho]
  · exact hoff
  · rw [List.any_cons, hoff]
    rfl

theorem Checked.emits_inUnicode {p : Placeholder} (h : p.Checked) (hflags : p.Flagless) :
    p.inUnicode.Emits :=
  emits_of_not_ascii rfl h.parse_inUnicode
    (readsInside_of_verbose_off h.parse_inUnicode (Term.turnsOn_of_setsFlags hflags .verbose))

theorem body_inUnicode (p : Placeholder) : p.inUnicode.body = p.inUnicode.term := rfl

/-- With the Unicode flag off, what is emitted is a group around the expression. -/
theorem Checked.body_of_ascii {p : Placeholder} (h : p.Checked) (ha : p.ascii = true)
    (hflags : p.Flagless) :
    p.body = .scoped [⟨.unicode, false⟩] p.inUnicode.body := by
  obtain ⟨hparse, -⟩ := h.parse_expression ha
  have hin := readsInside_of_verbose_off hparse (Term.turnsOn_of_setsFlags hflags .verbose)
  obtain ⟨pieces, after, hreads, hpieces⟩ := reads_inside hin hparse
  exact body_of_spells (spells_of_ascii ha hreads hpieces)

theorem keepsLastGroup_inUnicode {p : Placeholder} (h : p.Checked) :
    p.inUnicode.KeepsLastGroup ↔ p.KeepsLastGroup := by
  rw [KeepsLastGroup, KeepsLastGroup, h.groups_inUnicode, h.keptGroups_inUnicode]

/-- Both ways to emit the placeholder span the same on a text of ASCII characters. -/
theorem Checked.spans_inUnicode {p : Placeholder} (h : p.Checked) (hflags : p.Flagless)
    {text : List Char} (htext : IsAscii text) {f f' : Form} (hf : p.body.form? = some f)
    (hf' : p.inUnicode.body.form? = some f') (i j : Nat) :
    f.Spans text i j ↔ f'.Spans text i j := by
  cases ha : p.ascii with
  | true =>
    rw [h.body_of_ascii ha hflags] at hf
    exact (Term.spanAlike_form htext hflags hf hf').spans i j
  | false =>
    rw [inUnicode_of_not_ascii ha] at hf'
    cases hf.symm.trans hf'
    exact Iff.rfl

end Placeholder

/-! ## Parts -/

theorem placeholders_inUnicode (parts : List PatternPart) :
    placeholders (parts.map .inUnicode) = (placeholders parts).map .inUnicode := by
  induction parts with
  | nil => rfl
  | cons part rest ih => cases part <;> simp [placeholders, PatternPart.inUnicode, ih]

theorem slotsFrom_inUnicode (slot : Nat) (parts : List PatternPart) :
    Pattern.slotsFrom slot (parts.map .inUnicode) =
      (Pattern.slotsFrom slot parts).map fun s => (s.1, s.2.inUnicode) := by
  induction parts generalizing slot with
  | nil => rfl
  | cons part rest ih => cases part <;> simp [Pattern.slotsFrom, PatternPart.inUnicode, ih,
      Placeholder.inUnicode]

theorem opened_inUnicode {part : PatternPart} (h : ∀ p, part = .placeholder p → p.Checked) :
    part.inUnicode.opened = part.opened := by
  cases part with
  | char c => rfl
  | placeholder p =>
    rw [PatternPart.inUnicode, PatternPart.opened, PatternPart.opened, (h p rfl).groups_inUnicode]

/-- What relates both ways to emit each placeholder relates the forms of the parts one by one. -/
theorem related_partForms {R : Form → Form → Prop} (hchar : ∀ c, R (.literal [c]) (.literal [c]))
    {parts : List PatternPart} (hchecked : ∀ p, .placeholder p ∈ parts → p.Checked)
    (hrelated : ∀ p, .placeholder p ∈ parts → ∀ index f f', p.body.form? = some f →
      p.inUnicode.body.form? = some f' →
        R (.capture index (f.shift index)) (.capture index (f'.shift index)))
    {before : Nat} {forms forms' : List Form} (h : partForms? before parts = some forms)
    (h' : partForms? before (parts.map .inUnicode) = some forms') :
    List.Forall₂ R forms forms' := by
  induction parts generalizing before forms forms' with
  | nil =>
    cases h
    cases h'
    exact .nil
  | cons part rest ih =>
    obtain ⟨f, hf, h⟩ := Option.bind_eq_some_iff.1 h
    obtain ⟨later, hlater, h⟩ := Option.bind_eq_some_iff.1 h
    obtain ⟨f', hf', h'⟩ := Option.bind_eq_some_iff.1 h'
    obtain ⟨later', hlater', h'⟩ := Option.bind_eq_some_iff.1 h'
    cases h
    cases h'
    rw [opened_inUnicode fun p hp => hchecked p (hp ▸ List.mem_cons_self)] at hlater'
    refine .cons ?_ (ih (fun p hp => hchecked p (List.mem_cons_of_mem _ hp))
      (fun p hp => hrelated p (List.mem_cons_of_mem _ hp)) hlater hlater')
    cases part with
    | char c =>
      cases hf
      cases hf'
      exact hchar c
    | placeholder p =>
      obtain ⟨g, hg, rfl⟩ := Option.map_eq_some_iff.1 hf
      obtain ⟨g', hg', rfl⟩ := Option.map_eq_some_iff.1 hf'
      exact hrelated p List.mem_cons_self _ g g' hg hg'

theorem spansAll_congr {text : List Char} {forms forms' : List Form} {i j : Nat}
    (h : List.Forall₂ (fun f f' => ∀ i j, f.Spans text i j ↔ f'.Spans text i j) forms forms') :
    Form.SpansAll text forms i j ↔ Form.SpansAll text forms' i j := by
  induction h generalizing i with
  | nil => exact Iff.rfl
  | cons hf _ ih => simp only [Form.SpansAll, hf, ih]

/-! ## Entries -/

namespace Entry

variable {e : Entry α}

/-- The expressions of the entry's placeholders set no flags. -/
def Flagless (e : Entry α) : Prop := ∀ p ∈ placeholders e.pattern.parts, p.Flagless

instance (e : Entry α) : Decidable e.Flagless :=
  inferInstanceAs (Decidable (∀ p ∈ placeholders e.pattern.parts, p.Flagless))

theorem opened_inUnicode (hchecked : ∀ p, .placeholder p ∈ e.pattern.parts → p.Checked) :
    e.inUnicode.opened = e.opened := by
  show 1 + total ((e.pattern.parts.map PatternPart.inUnicode).map PatternPart.opened) = _
  rw [Entry.opened, List.map_map]
  congr 2
  refine List.map_congr_left fun part hpart => ?_
  exact HttpRoutes.opened_inUnicode fun p hp => hchecked p (hp ▸ hpart)

theorem groupCount_inUnicode (e : Entry α) :
    e.inUnicode.pattern.groupCount = e.pattern.groupCount := by
  show total ((e.pattern.parts.map PatternPart.inUnicode).map PatternPart.groupCount) = _
  rw [Pattern.groupCount, List.map_map]
  congr 1
  refine List.map_congr_left fun part _ => ?_
  cases part <;> rfl

theorem keepsLastGroups_inUnicode (hchecked : ∀ p, .placeholder p ∈ e.pattern.parts → p.Checked) :
    e.inUnicode.KeepsLastGroups ↔ e.KeepsLastGroups := by
  show (∀ p, PatternPart.placeholder p ∈ e.pattern.parts.map .inUnicode → p.KeepsLastGroup) ↔ _
  simp only [← mem_placeholders, placeholders_inUnicode, List.forall_mem_map, Entry.KeepsLastGroups]
  exact forall₂_congr fun p hp =>
    Placeholder.keepsLastGroup_inUnicode (hchecked p (mem_placeholders.1 hp))

/-- Only the names of the placeholders matter to what their values are reported as. -/
theorem params_inUnicode (n : Nat) (e : Entry α) (m : Expression.Match) :
    Combined.params ⟨n, e.inUnicode⟩ m = Combined.params ⟨n, e⟩ m := by
  have hslots : e.inUnicode.pattern.slots =
      e.pattern.slots.map fun s => (s.1, s.2.inUnicode) := slotsFrom_inUnicode 1 _
  rw [Combined.params, Combined.params, hslots, List.filterMap_map]
  rfl

/-- Both ways to emit the placeholders match the same texts of ASCII characters. -/
theorem matchAlone_inUnicode_eq_none
    (hchecked : ∀ p, .placeholder p ∈ e.pattern.parts → p.Checked) (hflags : e.Flagless)
    {f f' : Form} (hf : e.form? = some f) (hf' : e.inUnicode.form? = some f') {text : List Char}
    (htext : IsAscii text) : e.inUnicode.matchAlone? text = none ↔ e.matchAlone? text = none := by
  obtain ⟨forms, rfl, hforms⟩ := form_eq_some hf
  obtain ⟨forms', rfl, hforms'⟩ := form_eq_some hf'
  have hrelated := related_partForms
    (R := fun f f' => ∀ i j, f.Spans text i j ↔ f'.Spans text i j) (fun _ _ _ => Iff.rfl) hchecked
    (fun p hp index g g' hg hg' i j => by
      simp only [Form.Spans, Form.spans_shift]
      exact (hchecked p hp).spans_inUnicode (hflags p (mem_placeholders.2 hp)) htext hg hg' i j)
    hforms hforms'
  have hspans : (Form.row forms).Spans text 0 text.length ↔
      (Form.row forms').Spans text 0 text.length := by
    rw [Form.spans_iff_traces, Form.spans_iff_traces]
    simp only [Form.traces_row, ← Form.spansAll_iff_tracesAll]
    exact spansAll_congr hrelated
  have hnone {g : Form} (e : Entry α) (hg : e.form? = some (.capture 1 g)) :
      e.matchAlone? text = none ↔ ¬ g.Spans text 0 text.length := by
    rw [matchAlone?, hg, Option.bind_some, ← Option.not_isSome_iff_eq_none, Form.matchWhole_isSome]
    exact Iff.rfl
  rw [hnone _ hf, hnone _ hf', hspans]

end Entry

/-! ## Combined expressions -/

theorem isAscii_trimSlashes {path : String} (h : IsAscii path.toList) :
    IsAscii (trimSlashes path).toList := by
  intro c hc
  rw [trimSlashes, String.toList_ofList, Text.trimBoth, List.mem_reverse] at hc
  have hmem := (List.dropWhile_sublist _).mem hc
  exact h c ((List.dropWhile_sublist _).mem (List.mem_reverse.1 hmem))

theorem exists_form_of_partForms {before : Nat} {parts : List PatternPart} {forms : List Form}
    (h : partForms? before parts = some forms) {p : Placeholder}
    (hp : .placeholder p ∈ parts) : ∃ f, p.body.form? = some f := by
  induction parts generalizing before forms with
  | nil => exact absurd hp (by simp)
  | cons part rest ih =>
    obtain ⟨f, hf, h⟩ := Option.bind_eq_some_iff.1 h
    obtain ⟨later, hlater, h⟩ := Option.bind_eq_some_iff.1 h
    rcases List.mem_cons.1 hp with rfl | hp
    · obtain ⟨g, hg, -⟩ := Option.map_eq_some_iff.1 hf
      exact ⟨g, hg⟩
    · exact ih hlater hp

/-- The alternative with all expressions emitted as they are written. -/
def Alternative.inUnicode (a : Alternative α) : Alternative α :=
  { a with entry := a.entry.inUnicode }

namespace Combined

theorem alternativesFrom_inUnicode (next : Nat) (entries : List (Entry α)) :
    alternativesFrom next (entries.map .inUnicode) =
      (alternativesFrom next entries).map .inUnicode := by
  induction entries generalizing next with
  | nil => rfl
  | cons e rest ih =>
    rw [List.map_cons, alternativesFrom, alternativesFrom, Entry.groupCount_inUnicode, ih]
    rfl

/-- The same groups locate the same alternative, however placeholders are emitted. -/
theorem locate_inUnicode {c c' : Combined α} {m : Expression.Match} {path : String}
    (halternatives : c'.alternatives = c.alternatives.map .inUnicode)
    (hfirst : c'.firstGroup? m = c.firstGroup? m) : c'.locate m path = c.locate m path := by
  have houter : c'.alternatives.map (·.outerGroup) = c.alternatives.map (·.outerGroup) := by
    rw [halternatives, List.map_map]
    rfl
  have hliteral : positionOfLiteral? c'.alternatives path =
      positionOfLiteral? c.alternatives path := by
    rw [positionOfLiteral?, halternatives, List.findIdx?_map]
    refine congrArg (fun test => c.alternatives.findIdx? test) (funext fun a => ?_)
    have hslots : a.entry.inUnicode.pattern.slots =
        a.entry.pattern.slots.map fun s => (s.1, s.2.inUnicode) := slotsFrom_inUnicode 1 _
    simp only [Function.comp_apply, Alternative.inUnicode, Pattern.isLiteral, hslots,
      List.isEmpty_map]
    rfl
  have hposition : positionOfGroup? c'.alternatives = positionOfGroup? c.alternatives := by
    funext group
    rw [positionOfGroup?, positionOfGroup?, houter]
  rw [locate, locate, hliteral, hfirst, hposition, firedGroups, firedGroups, houter]

theorem resolve_inUnicode_of_find {c c' : Combined α} {path : String} {m : Expression.Match}
    (halternatives : c'.alternatives = c.alternatives.map .inUnicode)
    (hfind : c.expression.find? (trimSlashes path) = some m)
    (hfind' : c'.expression.find? (trimSlashes path) = some m)
    (hfirst : c'.firstGroup? m = c.firstGroup? m) : c'.resolve path = c.resolve path := by
  simp only [resolve, hfind, hfind', locate_inUnicode halternatives hfirst]
  simp only [halternatives, List.isEmpty_map, List.getElem?_map]
  split
  · rfl
  · split
    · rfl
    · next position _ =>
      cases c.alternatives[position]? with
      | none => rfl
      | some a =>
        obtain ⟨n, e⟩ := a
        simp only [Option.map_some, Alternative.inUnicode, Entry.params_inUnicode]
        rfl

namespace Emitted

variable [Engine] {v : Verb} {entries : List (Entry α)} {c c' : Combined α} {path : String}

/-- Entries that set no flags can be emitted as they are written if that can be combined. -/
theorem inUnicode (h : Emitted v entries c) (hflags : ∀ e ∈ entries, e.Flagless)
    (hbuild : Combined.build v (entries.map .inUnicode) = .ok c') :
    Emitted v (entries.map .inUnicode) c' := by
  have hparts {e : Entry α} {q : Placeholder} (hq : .placeholder q ∈ e.inUnicode.pattern.parts) :
      ∃ p, .placeholder p ∈ e.pattern.parts ∧ q = p.inUnicode := by
    have hmem : q ∈ placeholders (e.pattern.parts.map .inUnicode) := mem_placeholders.2 hq
    rw [placeholders_inUnicode, List.mem_map] at hmem
    obtain ⟨p, hp, rfl⟩ := hmem
    exact ⟨p, mem_placeholders.1 hp, rfl⟩
  have hemits : ∀ e ∈ entries.map Entry.inUnicode, e.pattern.Emits := by
    intro e' he' q hq
    obtain ⟨e, he, rfl⟩ := List.mem_map.1 he'
    obtain ⟨p, hp, rfl⟩ := hparts hq
    exact (h.checked e he p hp).emits_inUnicode (hflags e he p (mem_placeholders.2 hp))
  refine ⟨fun e' he' q hq => ?_, hemits, hbuild⟩
  -- What could be combined has a form, so each of its placeholders has one.
  obtain ⟨f, hf⟩ := exists_form_of_build hemits hbuild he'
  obtain ⟨forms, -, hforms⟩ := Entry.form_eq_some hf
  obtain ⟨g, hg⟩ := exists_form_of_partForms hforms hq
  obtain ⟨e, he, rfl⟩ := List.mem_map.1 he'
  obtain ⟨p, hp, rfl⟩ := hparts hq
  have hchecked := h.checked e he p hp
  refine ⟨hchecked.parse_inUnicode, hchecked.names_inUnicode ▸ hchecked.names, ?_, ?_⟩
  · obtain ⟨r, hr, -⟩ := Option.map_eq_some_iff.1 hg
    rw [← Placeholder.body_inUnicode, Term.modesAfter?, hr]
    rfl
  · rw [hchecked.keptGroups_inUnicode]
    exact hchecked.last

theorem openedBy_inUnicode (h : Emitted v entries c) {tried : List (Entry α)}
    (htried : ∀ d ∈ tried, d ∈ entries) :
    openedBy (tried.map .inUnicode) = openedBy tried := by
  rw [openedBy, openedBy, List.map_map]
  refine congrArg total (List.map_congr_left fun d hd => ?_)
  exact Entry.opened_inUnicode (h.checked d (htried d hd))

section

variable (h : Emitted v entries c) (h' : Emitted v (entries.map .inUnicode) c')

include h h'

theorem matchAlone_inUnicode_eq_none (hflags : ∀ e ∈ entries, e.Flagless) {text : List Char}
    (htext : IsAscii text) {e : Entry α} (he : e ∈ entries) :
    e.inUnicode.matchAlone? text = none ↔ e.matchAlone? text = none := by
  obtain ⟨f, hf⟩ := h.exists_form he
  obtain ⟨f', hf'⟩ := h'.exists_form (List.mem_map_of_mem he)
  exact Entry.matchAlone_inUnicode_eq_none (h.checked e he) (hflags e he) hf hf' htext

/-- On a path of ASCII characters the same entry is the first to match, if there is one. -/
theorem first_inUnicode (hflags : ∀ e ∈ entries, e.Flagless) (hpath : IsAscii path.toList) :
    (c.resolve path = .ok none ∧ c'.resolve path = .ok none) ∨
      ∃ tried e rest captures captures', entries = tried ++ e :: rest ∧
        (∀ d ∈ tried, d.matchAlone? (trimSlashes path).toList = none ∧
          d.inUnicode.matchAlone? (trimSlashes path).toList = none) ∧
        e.matchAlone? (trimSlashes path).toList = some captures ∧
        e.inUnicode.matchAlone? (trimSlashes path).toList = some captures' := by
  have hsame {e : Entry α} (he : e ∈ entries) :=
    h.matchAlone_inUnicode_eq_none h' hflags (isAscii_trimSlashes hpath) he
  rcases exists_first entries path with hnone | ⟨tried, e, rest, captures, rfl, htried, he⟩
  · refine .inl ⟨h.resolve_of_none hnone, h'.resolve_of_none fun d hd => ?_⟩
    obtain ⟨e, he, rfl⟩ := List.mem_map.1 hd
    exact (hsame he).2 (hnone e he)
  · refine .inr ⟨tried, e, rest, captures, ?_⟩
    have hmatch : e.inUnicode.matchAlone? (trimSlashes path).toList ≠ none := by
      rw [Ne, hsame (by simp), he]
      exact Option.some_ne_none _
    obtain ⟨captures', he'⟩ := Option.ne_none_iff_exists'.1 hmatch
    exact ⟨captures', rfl, fun d hd => ⟨htried d hd, (hsame (by simp [hd])).2 (htried d hd)⟩,
      he, he'⟩

end

end Emitted

end Combined

end HttpRoutes
