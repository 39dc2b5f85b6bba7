import HttpRoutes.Proofs.Route.Estimate
import HttpRoutes.Proofs.Route.Literal
import HttpRoutes.Proofs.Route.Locating

/-!
# The earliest route wins

Resolving a path against a combined expression gives what trying its entries one by one gives, each
against the expression built of it alone. The route is found by the numbers of groups, so every
placeholder of an entry but the last must keep the last group that it opens.
-/

namespace HttpRoutes

open Expression

variable {α : Type}

/-! ## One by one -/

/-- Try entries in order, each against the expression built of it alone. -/
def resolveInTurn [Engine] (v : Verb) (path : String) :
    List (Entry α) → Except RouteError (Option (RouteMatch α))
  | [] => .ok none
  | e :: rest =>
    match Combined.build v [e] with
    | .error error => .error error
    | .ok alone =>
      match alone.expression.find? (trimSlashes path) with
      | none => resolveInTurn v path rest
      | some m =>
        .ok (some ⟨e.index, e.pattern.text, e.handler, Combined.params ⟨1, e⟩ m⟩)

theorem find_anchored {x : Expression} {f : Form} (hx : x.form = f.anchored) (text : String) :
    x.find? text = (f.matchWhole? text.toList).map fun captures => ⟨text.toList, captures⟩ := by
  rw [Expression.find?, hx, ← search_anchored, Option.map_map]
  rfl

/-- An entry that matches is answered with, and else the next ones are tried. -/
theorem resolveInTurn_cons [Engine] {v : Verb} {path : String} {e : Entry α} {rest : List (Entry α)}
    {f : Form} (hf : e.form? = some f) (hbuild : Combined.build v [e] =
      .ok ⟨v, ⟨Combined.sourceOf [e], f.anchored⟩, [⟨1, e⟩]⟩) :
    resolveInTurn v path (e :: rest) =
      match e.matchAlone? (trimSlashes path).toList with
      | none => resolveInTurn v path rest
      | some captures => .ok (some ⟨e.index, e.pattern.text, e.handler,
          Combined.params ⟨1, e⟩ ⟨(trimSlashes path).toList, captures⟩⟩) := by
  show (match Combined.build v [e] with
    | .error error => Except.error error
    | .ok alone =>
      match alone.expression.find? (trimSlashes path) with
      | none => resolveInTurn v path rest
      | some m => .ok (some ⟨e.index, e.pattern.text, e.handler, Combined.params ⟨1, e⟩ m⟩)) = _
  rw [hbuild, Entry.matchAlone?, hf, Option.bind_some]
  dsimp only
  rw [find_anchored rfl]
  cases f.matchWhole? (trimSlashes path).toList <;> rfl

/-- Entries in front that do not match make no difference. -/
theorem resolveInTurn_of_first [Engine] {v : Verb} {path : String} {tried rest : List (Entry α)}
    {e : Entry α} {captures : List Capture}
    (halone : ∀ e' ∈ tried ++ e :: rest, ∃ f, e'.form? = some f ∧
      Combined.build v [e'] = .ok ⟨v, ⟨Combined.sourceOf [e'], f.anchored⟩, [⟨1, e'⟩]⟩)
    (htried : ∀ e' ∈ tried, e'.matchAlone? (trimSlashes path).toList = none)
    (he : e.matchAlone? (trimSlashes path).toList = some captures) :
    resolveInTurn v path (tried ++ e :: rest) = .ok (some ⟨e.index, e.pattern.text, e.handler,
      Combined.params ⟨1, e⟩ ⟨(trimSlashes path).toList, captures⟩⟩) := by
  induction tried with
  | nil =>
    obtain ⟨f, hf, hbuild⟩ := halone e (by simp)
    rw [List.nil_append, resolveInTurn_cons hf hbuild, he]
  | cons first tried ih =>
    obtain ⟨f, hf, hbuild⟩ := halone first (by simp)
    rw [List.cons_append, resolveInTurn_cons hf hbuild, htried first List.mem_cons_self]
    exact ih (fun e' he' => halone e' (List.mem_cons_of_mem _ he'))
      fun e' he' => htried e' (List.mem_cons_of_mem _ he')

theorem resolveInTurn_of_none [Engine] {v : Verb} {path : String} {entries : List (Entry α)}
    (halone : ∀ e ∈ entries, ∃ f, e.form? = some f ∧
      Combined.build v [e] = .ok ⟨v, ⟨Combined.sourceOf [e], f.anchored⟩, [⟨1, e⟩]⟩)
    (hnone : ∀ e ∈ entries, e.matchAlone? (trimSlashes path).toList = none) :
    resolveInTurn v path entries = .ok none := by
  induction entries with
  | nil => rfl
  | cons e rest ih =>
    obtain ⟨f, hf, hbuild⟩ := halone e List.mem_cons_self
    rw [resolveInTurn_cons hf hbuild, hnone e List.mem_cons_self]
    exact ih (fun e' he' => halone e' (List.mem_cons_of_mem _ he'))
      fun e' he' => hnone e' (List.mem_cons_of_mem _ he')

/-! ## All at once -/

/-- No placeholder of the entry loses its last group to a repetition of zero times. -/
def Entry.KeepsLastGroups (e : Entry α) : Prop :=
  ∀ p, .placeholder p ∈ e.pattern.parts → p.KeepsLastGroup

instance (e : Entry α) : Decidable e.KeepsLastGroups :=
  decidable_of_iff (∀ p ∈ placeholders e.pattern.parts, p.KeepsLastGroup)
    (forall_congr' fun _ => by rw [mem_placeholders])

/-- Nothing that the entry captures alone takes a number that is recorded for a later entry. -/
def Entry.ClearOf (e : Entry α) (rest : List (Entry α)) (m : Expression.Match) : Prop :=
  ∀ n ∈ Combined.outerGroups (2 + e.pattern.groupCount) rest, m.isDefined n = false

/-- The groups that entries open. -/
def openedBy (entries : List (Entry α)) : Nat := total (entries.map Entry.opened)

/-- The entry is found among those that it stands between: the entries in front of it keep their
last groups and it takes no number of a later one, or it is literal and the number that the group
around it has is recorded for no entry. -/
def Entry.Located (tried : List (Entry α)) (e : Entry α) (rest : List (Entry α))
    (m : Expression.Match) : Prop :=
  ((∀ d ∈ tried, d.KeepsLastGroups) ∧ e.ClearOf rest m) ∨
    (e.pattern.isLiteral = true ∧
      openedBy tried + 1 ∉ Combined.outerGroups 1 (tried ++ e :: rest))

theorem findSome_entryForms {before : Nat} {e : Entry α} {rest : List (Entry α)} {forms : List Form}
    (hforms : entryForms? before (e :: rest) = some forms) (text : List Char) :
    ∃ later, entryForms? (before + e.opened) rest = some later ∧
      (Form.ofChoices forms).matchWhole? text =
        ((e.matchAlone? text).map (List.map (Capture.shift before))).or
          ((Form.ofChoices later).matchWhole? text) := by
  obtain ⟨f, hf, hforms⟩ := Option.bind_eq_some_iff.1 hforms
  obtain ⟨later, hlater, hforms⟩ := Option.bind_eq_some_iff.1 hforms
  cases hforms
  refine ⟨later, hlater, ?_⟩
  rw [matchWhole_ofChoices, List.findSome?_cons, matchWhole_shift, Entry.matchAlone?, hf,
    Option.bind_some, matchWhole_ofChoices]
  cases f.matchWhole? text <;> rfl

/-- The choice between the forms of entries does not match where no entry matches alone. -/
theorem matchWhole_of_none {before : Nat} {entries : List (Entry α)} {forms : List Form}
    (hforms : entryForms? before entries = some forms) {text : List Char}
    (hnone : ∀ e ∈ entries, e.matchAlone? text = none) :
    (Form.ofChoices forms).matchWhole? text = none := by
  induction entries generalizing before forms with
  | nil =>
    cases hforms
    rw [matchWhole_ofChoices]
    rfl
  | cons e rest ih =>
    obtain ⟨later, hlater, hmatch⟩ := findSome_entryForms hforms text
    rw [hmatch, hnone e List.mem_cons_self,
      ih hlater fun d hd => hnone d (List.mem_cons_of_mem _ hd)]
    rfl

/-- The choice between the forms of entries matches like the first entry that matches alone. -/
theorem matchWhole_of_first {before : Nat} {tried rest : List (Entry α)} {e : Entry α}
    {forms : List Form} (hforms : entryForms? before (tried ++ e :: rest) = some forms)
    {text : List Char} (htried : ∀ d ∈ tried, d.matchAlone? text = none) {captures : List Capture}
    (he : e.matchAlone? text = some captures) :
    (Form.ofChoices forms).matchWhole? text =
      some (captures.map (Capture.shift (before + openedBy tried))) := by
  induction tried generalizing before forms with
  | nil =>
    obtain ⟨later, -, hmatch⟩ := findSome_entryForms hforms text
    rw [hmatch, he]
    rfl
  | cons first tried ih =>
    obtain ⟨later, hlater, hmatch⟩ := findSome_entryForms hforms text
    have hopened : before + openedBy (first :: tried) = before + first.opened + openedBy tried := by
      simp [openedBy, Nat.add_assoc]
    rw [hmatch, htried first List.mem_cons_self, hopened,
      ih hlater fun d hd => htried d (List.mem_cons_of_mem _ hd)]
    rfl

/-! ## Groups of an entry -/

theorem groups_termAfter {e : Entry α} (h : e.pattern.Emits) (before : Nat) :
    (e.termAfter before).groups = List.range' (before + 1) e.opened := by
  have hnumbers := (readPieces_numbers (spells_entry h before).reads).2
  rw [List.flatMap_singleton] at hnumbers
  rw [Nat.add_sub_cancel_left] at hnumbers
  exact hnumbers

/-- The groups that an entry captures alone are among those it opens. -/
theorem groups_form_bounds {e : Entry α} (h : e.pattern.Emits) {f : Form} (hf : e.form? = some f)
    {n : Nat} (hn : n ∈ f.groups) : 1 ≤ n ∧ n ≤ e.opened := by
  have hgroups := groups_termAfter h 0
  have hsublist := (e.termAfter 0).keptGroups_sublist
  have hbranches := branches_termAfter 0 e
  rw [hf, Option.map_some, Form.shift_zero] at hbranches
  have hnodup : (e.termAfter 0).keptGroups.Nodup :=
    hsublist.nodup (by rw [hgroups]; exact List.nodup_range')
  have hkept := Term.groups_branches hbranches hnodup
  rw [List.flatMap_singleton] at hkept
  have hmem := hsublist.mem (hkept ▸ hn)
  rw [hgroups, List.mem_range'_1] at hmem
  omega

/-- The group around an entry is captured. -/
theorem outer_mem {e : Entry α} {text : List Char} {captures : List Capture}
    (h : e.matchAlone? text = some captures) : ∃ x ∈ captures, x.group = 1 := by
  obtain ⟨f, hf, hmatch⟩ := Option.bind_eq_some_iff.1 h
  obtain ⟨r, -, rfl⟩ := Option.map_eq_some_iff.1 hf
  obtain ⟨o, ho, rfl⟩ := Option.map_eq_some_iff.1 hmatch
  obtain ⟨inner, -, rfl⟩ := List.mem_map.1 (List.mem_of_find?_eq_some ho)
  exact ⟨_, List.mem_cons_self, rfl⟩

theorem captures_bounds {e : Entry α} (he : e.pattern.Emits) {text : List Char}
    {captures : List Capture} (h : e.matchAlone? text = some captures) {x : Capture}
    (hx : x ∈ captures) : 1 ≤ x.group ∧ x.group ≤ e.opened := by
  obtain ⟨f, hf, hmatch⟩ := Option.bind_eq_some_iff.1 h
  exact groups_form_bounds he hf (mem_groups_of_matchWhole hmatch x hx)

/-! ## Groups that are kept -/

theorem counted_le_opened {parts : List PatternPart}
    (hchecked : ∀ p, .placeholder p ∈ parts → p.Checked) :
    ∀ p ∈ placeholders parts, p.innerGroups + 1 ≤ p.openedInside + 1 :=
  fun p hp => Nat.add_le_add_right (innerGroups_le (hchecked p (mem_placeholders.1 hp))) 1

/-- An entry opens no fewer groups than its pattern counts. -/
theorem groupCount_le {e : Entry α}
    (hchecked : ∀ p, .placeholder p ∈ e.pattern.parts → p.Checked) :
    1 + e.pattern.groupCount ≤ e.opened := by
  rw [Entry.opened, opened_eq_countGroups, groupCount_eq_countGroups, countGroups, countGroups]
  exact Nat.add_le_add_left (total_le (counted_le_opened hchecked)) 1

/-- It opens as many if and only if none of its placeholders loses its last group. -/
theorem groupCount_eq_opened_iff {e : Entry α}
    (hchecked : ∀ p, .placeholder p ∈ e.pattern.parts → p.Checked) :
    1 + e.pattern.groupCount = e.opened ↔ e.KeepsLastGroups := by
  rw [Entry.opened, opened_eq_countGroups, groupCount_eq_countGroups, countGroups, countGroups,
    Nat.add_left_cancel_iff, total_eq_iff (counted_le_opened hchecked)]
  refine forall_congr' fun p => ?_
  rw [mem_placeholders, Nat.add_right_cancel_iff]
  exact forall_congr' fun hp => keepsLastGroup_iff (hchecked p hp)

/-- Entries open the groups recorded for them if and only if each of them keeps its last groups. -/
theorem openedBy_eq_iff {entries : List (Entry α)}
    (hchecked : ∀ e ∈ entries, ∀ p, .placeholder p ∈ e.pattern.parts → p.Checked) :
    openedBy entries = Combined.groupsOf entries ↔ ∀ e ∈ entries, e.KeepsLastGroups := by
  rw [openedBy, Combined.groupsOf, eq_comm,
    total_eq_iff fun e he => groupCount_le (hchecked e he)]
  exact forall₂_congr fun e he => groupCount_eq_opened_iff (hchecked e he)

/-! ## Resolving -/

/-- What the numbers of groups rest on: placeholders that have been checked, and the expression
built. -/
structure Combined.Emitted [Engine] (v : Verb) (entries : List (Entry α)) (c : Combined α) :
    Prop where
  checked : ∀ e ∈ entries, ∀ p, .placeholder p ∈ e.pattern.parts → p.Checked
  emits : ∀ e ∈ entries, e.pattern.Emits
  build : Combined.build v entries = .ok c

/-- What resolving rests on: the numbers of groups, and patterns that are what their texts say. -/
structure Combined.Ready [Engine] (v : Verb) (entries : List (Entry α)) (c : Combined α) : Prop
    extends Combined.Emitted v entries c where
  compiled : ∀ e ∈ entries, Pattern.compile e.pattern.text = .ok e.pattern

/-- Compiled entries that do not turn on verbose mode are ready once they are combined. -/
theorem ready_of_build [Engine] {v : Verb} {entries : List (Entry α)} {c : Combined α}
    (hcompiled : ∀ e ∈ entries, Pattern.compile e.pattern.text = .ok e.pattern)
    (hverbose : ∀ e ∈ entries, ∀ p, .placeholder p ∈ e.pattern.parts →
      p.term.turnsOn .verbose = false)
    (hbuild : Combined.build v entries = .ok c) : Combined.Ready v entries c := by
  have hplaceholders := checked_emits hcompiled fun e he p hp =>
    readsInside_of_verbose_off (Pattern.checked_of_compile (hcompiled e he) hp).parse
      (hverbose e he p hp)
  exact ⟨⟨fun e he p hp => (hplaceholders e he p hp).1,
    fun e he p hp => (hplaceholders e he p hp).2, hbuild⟩, hcompiled⟩

/-- Different indices tell positions apart. -/
theorem position_of_index {alternatives : List (Alternative α)}
    (hnodup : (alternatives.map (·.entry.index)).Nodup) {i j : Nat} {a b : Alternative α}
    (ha : alternatives[i]? = some a) (hb : alternatives[j]? = some b)
    (h : a.entry.index = b.entry.index) : i = j := by
  have hi : (alternatives.map (·.entry.index))[i]? = some a.entry.index := by
    rw [List.getElem?_map, ha]
    rfl
  have hj : (alternatives.map (·.entry.index))[j]? = some a.entry.index := by
    rw [List.getElem?_map, hb, h]
    rfl
  obtain ⟨hlt, -⟩ := List.getElem?_eq_some_iff.1 hi
  exact (List.getElem?_inj hlt hnodup).1 (hi.trans hj.symm)

section

variable [Engine] {v : Verb} {c : Combined α} {tried rest : List (Entry α)} {e : Entry α}
  {path : String} {captures : List Capture}

namespace Combined.Emitted

theorem exists_form {entries : List (Entry α)} (h : Emitted v entries c) {e : Entry α}
    (he : e ∈ entries) : ∃ f, e.form? = some f := exists_form_of_build h.emits h.build he

theorem alone [Engine.Monotone] {entries : List (Entry α)} (h : Emitted v entries c) {d : Entry α}
    (hd : d ∈ entries) :
    ∃ f, d.form? = some f ∧
      Combined.build v [d] = .ok ⟨v, ⟨sourceOf [d], f.anchored⟩, [⟨1, d⟩]⟩ :=
  build_alone h.emits h.build hd

theorem alternatives {entries : List (Entry α)} (h : Emitted v entries c) :
    c.alternatives = alternativesFrom 1 entries := (build_eq_ok h.build).2.2

theorem form {entries : List (Entry α)} (h : Emitted v entries c) (hne : entries ≠ []) :
    ∃ forms, entryForms? 0 entries = some forms ∧
      c.expression.form = (Form.ofChoices forms).anchored := by
  obtain ⟨-, forms, hforms, hx, -⟩ := (ofText_sourceOf hne h.emits).1 (build_eq_ok h.build).1
  exact ⟨forms, hforms, by rw [hx]⟩

/-- Where nothing matches, nothing is resolved. -/
theorem resolve_of_none {entries : List (Entry α)} (h : Emitted v entries c)
    (hnone : ∀ d ∈ entries, d.matchAlone? (trimSlashes path).toList = none) :
    c.resolve path = .ok none := by
  by_cases hne : entries = []
  · rw [resolve, h.alternatives, hne]
    rfl
  · obtain ⟨forms, hforms, hform⟩ := h.form hne
    refine resolve_of_find_none ?_
    rw [find_anchored hform, matchWhole_of_none hforms hnone]
    rfl

variable (h : Emitted v (tried ++ e :: rest) c)
  (htried : ∀ d ∈ tried, d.matchAlone? (trimSlashes path).toList = none)
  (he : e.matchAlone? (trimSlashes path).toList = some captures)

include h he

/-- Where the groups in front are those recorded, the outer groups that fire are the one of the
entry and those of later entries whose numbers it takes. -/
theorem fired_of_first :
    c.firedGroups ⟨(trimSlashes path).toList, captures.map (Capture.shift (groupsOf tried))⟩ =
      (1 + groupsOf tried) :: ((outerGroups (2 + e.pattern.groupCount) rest).filter
        (Expression.Match.isDefined ⟨(trimSlashes path).toList, captures⟩)).map
          (· + groupsOf tried) :=
  firedGroups_eq h.alternatives (fun x hx => (captures_bounds (h.emits e (by simp)) he hx).1)
    (outer_mem he)

/-- An entry that keeps its last groups takes no number of a later one. -/
theorem clear_of_kept (hkept : rest ≠ [] → e.KeepsLastGroups) :
    e.ClearOf rest ⟨(trimSlashes path).toList, captures⟩ := by
  intro n hn
  rw [← Bool.not_eq_true, isDefined_iff]
  rintro ⟨x, hx, rfl⟩
  have hrest : rest ≠ [] := by
    rintro rfl
    exact absurd hn (by simp [outerGroups])
  have hopened := (groupCount_eq_opened_iff (h.checked e (by simp))).2 (hkept hrest)
  have hle := (captures_bounds (h.emits e (by simp)) he hx).2
  have hge := (mem_outerGroups hn).1
  omega

/-- A literal entry makes one outer group fire at most. -/
theorem fired_of_literal (hliteral : e.pattern.isLiteral = true) (k : Nat) :
    (c.firedGroups
      ⟨(trimSlashes path).toList, captures.map (Capture.shift k)⟩).length ≤ 1 := by
  have hopened : e.opened = 1 := by
    rw [Entry.opened, opened_eq_countGroups, countGroups,
      Pattern.placeholders_of_isLiteral hliteral]
    rfl
  have hfired : ∀ n ∈ c.firedGroups
      ⟨(trimSlashes path).toList, captures.map (Capture.shift k)⟩, n = k + 1 := by
    intro n hn
    obtain ⟨x, hx, rfl⟩ := isDefined_shift.1 (List.mem_filter.1 hn).2
    have hbounds := captures_bounds (h.emits e (by simp)) he hx
    omega
  have hnodup : (c.firedGroups
      ⟨(trimSlashes path).toList, captures.map (Capture.shift k)⟩).Nodup := by
    rw [firedGroups, h.alternatives, map_outerGroup]
    exact List.filter_sublist.nodup ((outerGroups_ascending 1 _).imp Nat.ne_of_lt)
  rw [List.eq_replicate_of_mem hfired] at hnodup
  exact List.nodup_replicate.1 hnodup

include htried

/-- What is found are the captures of the first entry that matches, behind the groups that those in
front of it open. -/
theorem find_of_first :
    c.expression.find? (trimSlashes path) =
        some ⟨(trimSlashes path).toList, captures.map (Capture.shift (openedBy tried))⟩ ∧
      c.firstGroup?
          ⟨(trimSlashes path).toList, captures.map (Capture.shift (openedBy tried))⟩ =
        some (openedBy tried + 1) := by
  obtain ⟨forms, hforms, hform⟩ := h.form (by simp)
  have hmatch := matchWhole_of_first hforms htried he
  rw [Nat.zero_add] at hmatch
  refine ⟨by rw [find_anchored hform, hmatch]; rfl, ?_⟩
  have houter := outer_mem he
  refine firstGroup_eq_some (fun x hx => (captures_bounds (h.emits e (by simp)) he hx).1) houter ?_
  -- The group around `e` is captured, so the form has it.
  obtain ⟨x, hx, hone⟩ := houter
  have hmem := mem_groups_of_matchWhole hmatch _ (List.mem_map_of_mem hx)
  have hgroup : (x.shift (openedBy tried)).group = openedBy tried + 1 := by
    simp only [Capture.shift]
    omega
  rw [hgroup] at hmem
  rw [Combined.groupCount, Expression.groupCount, hform]
  refine Form.le_topGroup ?_
  simpa [Form.anchored, Form.groups] using hmem

/-- The first entry that matches is resolved if the entries in front of it keep their last groups
and it takes no number of a later one. -/
theorem resolve_of_kept (hkept : ∀ d ∈ tried, d.KeepsLastGroups)
    (hclear : e.ClearOf rest ⟨(trimSlashes path).toList, captures⟩) :
    c.resolve path = .ok (some ⟨e.index, e.pattern.text, e.handler,
      params ⟨1, e⟩ ⟨(trimSlashes path).toList, captures⟩⟩) := by
  obtain ⟨hfind, hfirst⟩ := h.find_of_first htried he
  have hget := getElem_alternativesFrom 1 tried rest e
  rw [← h.alternatives] at hget
  -- The groups in front of `e` are those recorded, so its own are numbered as recorded.
  have hopened : openedBy tried = groupsOf tried :=
    (openedBy_eq_iff fun d hd => h.checked d (List.mem_append_left _ hd)).2 hkept
  have hfired := h.fired_of_first he
  rw [List.filter_eq_nil_iff.2 fun n hn => Bool.not_eq_true _ ▸ hclear n hn] at hfired
  rw [hopened] at hfind hfirst
  rw [Nat.add_comm] at hfirst
  have hlocate := locate_eq_ok (trimSlashes path) h.alternatives hfirst hfired
  rw [Nat.add_comm] at hget
  rw [(resolve_eq_some hfind).2 ⟨tried.length, _, hlocate, hget, rfl⟩, params_shift]

end Combined.Emitted

namespace Combined.Ready

variable (h : Ready v (tried ++ e :: rest) c)
  (htried : ∀ d ∈ tried, d.matchAlone? (trimSlashes path).toList = none)
  (he : e.matchAlone? (trimSlashes path).toList = some captures)

include h he htried

/-- The first entry that matches is resolved if it is located. -/
theorem resolve_of_located (hlocated : e.Located tried rest ⟨(trimSlashes path).toList, captures⟩) :
    c.resolve path = .ok (some ⟨e.index, e.pattern.text, e.handler,
      params ⟨1, e⟩ ⟨(trimSlashes path).toList, captures⟩⟩) := by
  rcases hlocated with ⟨hkept, hclear⟩ | ⟨hliteral, hfree⟩
  · exact h.resolve_of_kept htried he hkept hclear
  · obtain ⟨hfind, hfirst⟩ := h.find_of_first htried he
    have hget := getElem_alternativesFrom 1 tried rest e
    rw [← h.alternatives] at hget
    -- A literal entry in front that is the path would have matched it.
    have hmatches {d : Entry α} (hd : d ∈ tried ++ e :: rest) (hl : d.pattern.isLiteral = true) :=
      matchAlone_of_isLiteral (h.compiled d hd) hl (trimSlashes path).toList
    have hpath : e.pattern.literal = trimSlashes path :=
      (String.toList_inj.1 ((hmatches (by simp) hliteral).1 (by rw [he]; rfl))).symm
    have hothers : ∀ d ∈ tried, d.pattern.isLiteral = true →
        d.pattern.literal ≠ trimSlashes path := by
      intro d hd hl heq
      have hsome := (hmatches (List.mem_append_left _ hd) hl).2 (by rw [heq])
      rw [htried d hd] at hsome
      cases hsome
    have hlocate := locate_of_notMem h.alternatives hfirst (h.fired_of_literal he hliteral _) hfree
      hliteral hpath hothers
    rw [(resolve_eq_some hfind).2 ⟨tried.length, _, hlocate, hget, rfl⟩]
    -- Without placeholders there are no values to be told apart by numbers.
    simp [params, List.isEmpty_iff.1 hliteral]

/-- The first entry that matches is resolved only if it is located. -/
theorem located_of_resolve (hindex : ((tried ++ e :: rest).map (·.index)).Nodup)
    {r : RouteMatch α} (hr : r.index = e.index) (hresolve : c.resolve path = .ok (some r)) :
    e.Located tried rest ⟨(trimSlashes path).toList, captures⟩ := by
  obtain ⟨hfind, hfirst⟩ := h.find_of_first htried he
  obtain ⟨position, a, hlocate, ha, rfl⟩ := (resolve_eq_some hfind).1 hresolve
  have hopened := openedBy_eq_iff fun d hd => h.checked d (List.mem_append_left _ hd)
  by_cases hkept : ∀ d ∈ tried, d.KeepsLastGroups
  · refine .inl ⟨hkept, fun n hn => ?_⟩
    rw [hopened.2 hkept, locate, h.fired_of_first he] at hlocate
    -- A second outer group that fires would have been reported.
    by_contra hdefined
    have hmem := List.mem_filter.2 ⟨hn, Bool.not_eq_false _ ▸ hdefined⟩
    rw [if_pos ?_] at hlocate
    · cases hlocate
    · rw [List.length_cons, List.length_map]
      exact Nat.succ_lt_succ (List.length_pos_of_mem hmem)
  · refine .inr ?_
    by_contra hnot
    have hrecorded : e.pattern.isLiteral = true →
        openedBy tried + 1 ∈ outerGroups 1 (tried ++ e :: rest) := fun hliteral =>
      by_contra fun hfree => hnot ⟨hliteral, hfree⟩
    -- The group that fires is not the one recorded for `e`, so another alternative is located, and
    -- the indices tell the two apart.
    have hother := locate_ne_ok (trimSlashes path) h.alternatives hfirst
      (fun heq => hkept (hopened.1 (by omega))) hrecorded
    refine hother (hlocate.trans (congrArg _ ?_))
    have hget := getElem_alternativesFrom 1 tried rest e
    rw [← h.alternatives] at hget
    refine position_of_index ?_ ha hget hr
    have hentries := entries_alternativesFrom 1 (tried ++ e :: rest)
    rwa [← hentries, ← h.alternatives, List.map_map] at hindex

end Combined.Ready

end

/-- Either no entry matches alone, or one is the first to do so. -/
theorem exists_first (entries : List (Entry α)) (path : String) :
    (∀ e ∈ entries, e.matchAlone? (trimSlashes path).toList = none) ∨
      ∃ tried e rest captures, entries = tried ++ e :: rest ∧
        (∀ d ∈ tried, d.matchAlone? (trimSlashes path).toList = none) ∧
        e.matchAlone? (trimSlashes path).toList = some captures := by
  induction entries with
  | nil => exact .inl (by simp)
  | cons first entries ih =>
    cases hfirst : first.matchAlone? (trimSlashes path).toList with
    | some captures => exact .inr ⟨[], first, entries, captures, rfl, by simp, hfirst⟩
    | none =>
      rcases ih with hnone | ⟨tried, e, rest, captures, rfl, htried, he⟩
      · exact .inl (List.forall_mem_cons.2 ⟨hfirst, hnone⟩)
      · exact .inr ⟨first :: tried, e, rest, captures, rfl,
          List.forall_mem_cons.2 ⟨hfirst, htried⟩, he⟩

/-- Whether an entry is passed over is told by what it captures alone. -/
theorem resolveInTurn_single [Engine] {v : Verb} {path : String} {e : Entry α} {f : Form}
    (hf : e.form? = some f)
    (halone : Combined.build v [e] = .ok ⟨v, ⟨Combined.sourceOf [e], f.anchored⟩, [⟨1, e⟩]⟩) :
    resolveInTurn v path [e] = .ok none ↔ e.matchAlone? (trimSlashes path).toList = none := by
  rw [resolveInTurn_cons hf halone]
  cases e.matchAlone? (trimSlashes path).toList with
  | none => exact iff_of_true rfl rfl
  | some captures =>
    refine iff_of_false (fun h => ?_) (Option.some_ne_none captures)
    cases h

/-- Resolving never fails and gives what trying the entries one by one gives, each against the
expression built of it alone, if every entry but the last keeps the last groups of its placeholders;
no placeholder turns on verbose mode. Where no entry matches alone, nothing is ever resolved. On a
path that one is the first to match, the two agree exactly if it is located among the others. -/
theorem resolve_eq_resolveInTurn [Engine] [Engine.Monotone] {v : Verb} {entries : List (Entry α)}
    {c : Combined α} (hcompiled : ∀ e ∈ entries, Pattern.compile e.pattern.text = .ok e.pattern)
    (hverbose : ∀ e ∈ entries, ∀ p, .placeholder p ∈ e.pattern.parts →
      p.term.turnsOn .verbose = false)
    (hbuild : Combined.build v entries = .ok c) :
    ((∀ e ∈ entries.dropLast, e.KeepsLastGroups) → ∀ path,
      c.resolve path = resolveInTurn v path entries ∧ ∃ r, c.resolve path = .ok r) ∧
    (∀ path, resolveInTurn v path entries = .ok none → c.resolve path = .ok none) ∧
    ((entries.map (·.index)).Nodup → ∀ tried e rest alone path m, entries = tried ++ e :: rest →
      (∀ d ∈ tried, resolveInTurn v path [d] = .ok none) → Combined.build v [e] = .ok alone →
      alone.expression.find? (trimSlashes path) = some m →
      (c.resolve path = resolveInTurn v path entries ↔ e.Located tried rest m)) := by
  have h := ready_of_build hcompiled hverbose hbuild
  have halone := fun d (hd : d ∈ entries) => h.alone hd
  refine ⟨fun hkept path => ?_, fun path hnone => ?_, ?_⟩
  · rcases exists_first entries path with hnone | ⟨tried, e, rest, captures, rfl, htried, he⟩
    · have hresolve := h.resolve_of_none hnone
      exact ⟨hresolve.trans (resolveInTurn_of_none halone hnone).symm, none, hresolve⟩
    · have hdrop : (tried ++ e :: rest).dropLast = tried ++ (e :: rest).dropLast :=
        List.dropLast_append_cons
      rw [hdrop] at hkept
      have hown : rest ≠ [] → e.KeepsLastGroups := fun hrest =>
        hkept e (List.mem_append_right _ (by simp [List.dropLast_cons_of_ne_nil hrest]))
      have hresolve := h.resolve_of_located htried he
        (.inl ⟨fun d hd => hkept d (List.mem_append_left _ hd), h.clear_of_kept he hown⟩)
      exact ⟨hresolve.trans (resolveInTurn_of_first halone htried he).symm, _, hresolve⟩
  · rcases exists_first entries path with hmatches | ⟨tried, e, rest, captures, rfl, htried, he⟩
    · exact h.resolve_of_none hmatches
    · rw [resolveInTurn_of_first halone htried he] at hnone
      cases hnone
  · rintro hindex tried e rest alone path m rfl htried hbuilt hfind
    have hnone : ∀ d ∈ tried, d.matchAlone? (trimSlashes path).toList = none := by
      intro d hd
      obtain ⟨f, hf, hd'⟩ := halone d (List.mem_append_left _ hd)
      exact (resolveInTurn_single hf hd').1 (htried d hd)
    obtain ⟨f, hf, he'⟩ := halone e (by simp)
    obtain rfl := Except.ok.inj (he'.symm.trans hbuilt)
    rw [find_anchored rfl] at hfind
    obtain ⟨captures, hcaptures, rfl⟩ := Option.map_eq_some_iff.1 hfind
    have he : e.matchAlone? (trimSlashes path).toList = some captures := by
      rw [Entry.matchAlone?, hf, Option.bind_some, hcaptures]
    rw [resolveInTurn_of_first halone hnone he]
    exact ⟨fun hresolve => h.located_of_resolve hnone he hindex rfl hresolve,
      fun hlocated => h.resolve_of_located hnone he hlocated⟩

theorem resolve_pages_in_turn :
    let page : Entry String :=
      ⟨⟨"/{n:(2){0}(0|1)+}", [.placeholder ⟨some "n", "(2){0}(0|1)+", true, 2⟩]⟩, "page", 0⟩
    let slug : Entry String := ⟨⟨"/{s:}", [.placeholder ⟨some "s", "\\w+", true, 0⟩]⟩, "slug", 1⟩
    ∃ c, Combined.build .get [page, slug] = .ok c ∧
      (∀ path, c.resolve path = resolveInTurn .get path [page, slug] ∧
        ∃ r, c.resolve path = .ok r) ∧
      ∃ alone m, Combined.build .get [slug] = .ok alone ∧ alone.expression.find? "a" = some m ∧
        (c.resolve "/a" = resolveInTurn .get "/a" [page, slug] ↔ slug.Located [page] [] m) := by
  intro page slug
  obtain ⟨c, hbuild, -⟩ : ∃ c, Combined.build .get [page, slug] = .ok c ∧ c.verb = .get :=
    exists_of_map_eq_ok (by decide +kernel)
  obtain ⟨alone, halone, hfound⟩ : ∃ alone, Combined.build .get [slug] = .ok alone ∧
      (alone.expression.find? "a").isSome = true := exists_of_map_eq_ok (by decide +kernel)
  obtain ⟨m, hm⟩ := Option.isSome_iff_exists.1 hfound
  have hverbose : ∀ e ∈ [page, slug], ∀ p ∈ placeholders e.pattern.parts,
      p.term.turnsOn .verbose = false := by decide +kernel
  obtain ⟨hequal, -, hexact⟩ := resolve_eq_resolveInTurn (by decide +kernel)
    (fun e he p hp => hverbose e he p (mem_placeholders.2 hp)) hbuild
  exact ⟨c, hbuild, hequal (by decide +kernel), alone, m, halone, hm,
    hexact (by decide +kernel) [page] slug [] alone "/a" m rfl (by decide +kernel) halone hm⟩

/-- A group that is repeated zero times in front shifts the numbers of the route behind it. -/
theorem unresolvable_behind_repeated_zero :
    let entries : List (Entry String) :=
      [⟨⟨"/{(a){0}}", [.placeholder ⟨none, "(a){0}", true, 0⟩]⟩, "first", 0⟩,
        ⟨⟨"/b/{y:}", [.char 'b', .char '/', .placeholder ⟨some "y", "\\w+", true, 0⟩]⟩,
          "second", 1⟩]
    (∀ e ∈ entries, Pattern.compile e.pattern.text = .ok e.pattern) ∧
      (∀ e ∈ entries, ∀ p, .placeholder p ∈ e.pattern.parts → p.term.turnsOn .verbose = false) ∧
      ∃ c, Combined.build .get entries = .ok c ∧
        c.resolve "/b/c" = .error (.unresolvable "b/c") ∧
        resolveInTurn .get "/b/c" entries =
          .ok (some ⟨1, "/b/{y:}", "second", ⟨[("y", "c")]⟩⟩) := by
  intro entries
  have hverbose : ∀ e ∈ entries, ∀ p ∈ placeholders e.pattern.parts,
      p.term.turnsOn .verbose = false := by decide +kernel
  obtain ⟨c, hbuild, hresolve⟩ : ∃ c, Combined.build .get entries = .ok c ∧
      c.resolve "/b/c" = .error (.unresolvable "b/c") := exists_of_map_eq_ok (by decide +kernel)
  exact ⟨by decide +kernel, fun e he p hp => hverbose e he p (mem_placeholders.2 hp), c, hbuild,
    hresolve, by decide +kernel⟩

end HttpRoutes
