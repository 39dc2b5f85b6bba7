import HttpRoutes.Proofs.Expression.AsciiAlike
import HttpRoutes.Proofs.Route.Emission

/-!
# Resolving paths of ASCII characters

A placeholder is emitted with the Unicode flag off wherever that is possible. On a path of ASCII
characters this makes no difference to whether an entry matches, so the same routes are tried in
vain. It makes no difference to the values of the placeholders either where every choice in their
expressions keeps its order or comes out the same (`Combined.resolve_inUnicode`). Else the values
may differ, since a start that branches have in common is taken out of a choice: with the flag off,
more sets are the same.
-/

namespace HttpRoutes

open Expression

variable {α : Type}

/-! ## Values -/

/-- Whether emitting the placeholder with the Unicode flag off makes no difference to a choice in
its expression. -/
def Placeholder.evenChoices (p : Placeholder) : Bool := !p.ascii || p.inUnicode.term.evenChoices

/-- Whether emitting placeholders with the Unicode flag off makes no difference to a choice. -/
def Entry.evenChoices (e : Entry α) : Bool := (placeholders e.pattern.parts).all (·.evenChoices)

/-- Both ways to emit the placeholder are alike on a text of ASCII characters. -/
theorem Placeholder.Checked.similar_inUnicode {p : Placeholder} (h : p.Checked)
    (hflags : p.Flagless) (heven : p.evenChoices = true) {text : List Char} (htext : IsAscii text)
    {f f' : Form} (hf : p.body.form? = some f) (hf' : p.inUnicode.body.form? = some f') :
    Form.Similar text f f' := by
  cases ha : p.ascii with
  | true =>
    rw [evenChoices, ha, Bool.not_true, Bool.false_or] at heven
    rw [h.body_of_ascii ha hflags] at hf
    exact Term.similar_form htext hflags heven hf hf'
  | false =>
    rw [inUnicode_of_not_ascii ha] at hf'
    cases hf.symm.trans hf'
    exact .refl _

/-- A sequence put together from its end is alike to its forms in a row. -/
theorem Expression.Form.similar_row {text : List Char} (forms : List Form) :
    Similar text (row forms) (chain forms) := by
  induction forms with
  | nil => exact .refl _
  | cons f rest ih =>
    cases rest with
    | nil => exact (similar_seq_empty f).symm
    | cons g rest =>
      refine (similar_concat _).trans ((Similar.refl f).seq ?_)
      exact (similar_seq_empty _).trans ih

/-- Both ways to emit the placeholders of an entry match a text of ASCII characters with the same
captures. -/
theorem Entry.matchAlone_inUnicode {e : Entry α}
    (hchecked : ∀ p, .placeholder p ∈ e.pattern.parts → p.Checked) (hflags : e.Flagless)
    (heven : e.evenChoices = true) {f f' : Form} (hf : e.form? = some f)
    (hf' : e.inUnicode.form? = some f') {text : List Char} (htext : IsAscii text) :
    e.inUnicode.matchAlone? text = e.matchAlone? text := by
  obtain ⟨forms, rfl, hforms⟩ := form_eq_some hf
  obtain ⟨forms', rfl, hforms'⟩ := form_eq_some hf'
  have hliteral (c : Char) : Form.Similar text (.literal [c]) (.literal [c]) := .refl _
  have hrelated : List.Forall₂ (Form.Similar text) forms forms' := by
    refine related_partForms hliteral hchecked ?_ hforms hforms'
    intro p hp index g g' hg hg'
    have hmem := mem_placeholders.2 hp
    have hbody := (hchecked p hp).similar_inUnicode (hflags p hmem)
      (List.all_eq_true.1 heven p hmem) htext hg hg'
    exact (hbody.shift index).capture index
  have hrow : Form.Similar text (.row forms) (.row forms') :=
    (Form.similar_row forms).trans
      ((Form.chain_similar hrelated).trans (Form.similar_row forms').symm)
  rw [matchAlone?, matchAlone?, hf, hf', Option.bind_some, Option.bind_some]
  exact (Form.matchWhole_of_alike (hrow.capture 1).alike).symm

/-! ## Resolving -/

/-- The route that a match leads to, without the values of its placeholders. -/
def RouteMatch.route (r : RouteMatch α) : Nat × String × α := (r.index, r.pattern, r.handler)

namespace Combined.Emitted

variable [Engine] {v : Verb} {c c' : Combined α} {tried rest : List (Entry α)} {e : Entry α}
  {path : String} {captures captures' : List Capture}

section

variable (h : Emitted v (tried ++ e :: rest) c)
  (h' : Emitted v (tried.map .inUnicode ++ e.inUnicode :: rest.map .inUnicode) c')
  (htried : ∀ d ∈ tried, d.matchAlone? (trimSlashes path).toList = none)
  (htried' : ∀ d ∈ tried.map Entry.inUnicode, d.matchAlone? (trimSlashes path).toList = none)
  (he : e.matchAlone? (trimSlashes path).toList = some captures)
  (he' : e.inUnicode.matchAlone? (trimSlashes path).toList = some captures')

include h h' htried htried' he he'

/-- Where entries keep their last groups, the first one to match is resolved both ways. -/
theorem route_inUnicode (hkept : ∀ d ∈ (tried ++ e :: rest).dropLast, d.KeepsLastGroups) :
    ∃ r r', c.resolve path = .ok r ∧ c'.resolve path = .ok r' ∧
      r'.map RouteMatch.route = r.map RouteMatch.route := by
  rw [List.dropLast_append_cons] at hkept
  have hfront : ∀ d ∈ tried, d.KeepsLastGroups := fun d hd => hkept d (List.mem_append_left _ hd)
  have hown : rest ≠ [] → e.KeepsLastGroups := fun hrest =>
    hkept e (List.mem_append_right _ (by simp [List.dropLast_cons_of_ne_nil hrest]))
  have hresolve := h.resolve_of_kept htried he hfront (h.clear_of_kept he hown)
  have hkeeps {d : Entry α} (hd : d ∈ tried ++ e :: rest) :=
    Entry.keepsLastGroups_inUnicode (h.checked d hd)
  have hfront' : ∀ d ∈ tried.map Entry.inUnicode, d.KeepsLastGroups := by
    intro d' hd'
    obtain ⟨d, hd, rfl⟩ := List.mem_map.1 hd'
    exact (hkeeps (List.mem_append_left _ hd)).2 (hfront d hd)
  have hown' : rest.map Entry.inUnicode ≠ [] → e.inUnicode.KeepsLastGroups := fun hrest =>
    (hkeeps (by simp)).2 (hown (by simpa using hrest))
  exact ⟨_, _, hresolve, h'.resolve_of_kept htried' he' hfront' (h'.clear_of_kept he' hown'), rfl⟩

/-- Where the first entry to match captures the same both ways, the same is resolved. -/
theorem resolve_inUnicode_of_captures (hcaptures : captures' = captures) :
    c'.resolve path = c.resolve path := by
  subst hcaptures
  obtain ⟨hfind, hfirst⟩ := h.find_of_first htried he
  obtain ⟨hfind', hfirst'⟩ := h'.find_of_first htried' he'
  rw [h.openedBy_inUnicode fun d hd => List.mem_append_left _ hd] at hfind' hfirst'
  have halternatives : c'.alternatives = c.alternatives.map .inUnicode := by
    rw [h.alternatives, h'.alternatives, ← alternativesFrom_inUnicode, List.map_append,
      List.map_cons]
  exact resolve_inUnicode_of_find halternatives hfind hfind' (hfirst'.trans hfirst.symm)

end

end Combined.Emitted

/-- Resolving a path of ASCII characters, it makes no difference to whether anything is resolved how
the placeholders are emitted. It makes none to the route either if the groups are where they have
been recorded, and none to the values as well if every choice keeps its order or comes out the same.
-/
theorem Combined.resolve_inUnicode [Engine] {v : Verb} {entries : List (Entry α)}
    {c c' : Combined α} (hcompiled : ∀ e ∈ entries, Pattern.compile e.pattern.text = .ok e.pattern)
    (hflags : ∀ e ∈ entries, e.Flagless) (hbuild : Combined.build v entries = .ok c)
    (hbuild' : Combined.build v (entries.map .inUnicode) = .ok c') {path : String}
    (hpath : IsAscii path.toList) :
    (c'.resolve path = .ok none ↔ c.resolve path = .ok none) ∧
      ((∀ e ∈ entries.dropLast, e.KeepsLastGroups) → ∃ r r', c.resolve path = .ok r ∧
        c'.resolve path = .ok r' ∧ r'.map RouteMatch.route = r.map RouteMatch.route) ∧
      ((∀ e ∈ entries, e.evenChoices = true) → c'.resolve path = c.resolve path) := by
  have h : Emitted v entries c := (ready_of_build hcompiled (fun e he p hp =>
    (Pattern.checked_of_compile (hcompiled e he) hp).verbose_off
      (hflags e he p (mem_placeholders.2 hp))) hbuild).toEmitted
  have h' := h.inUnicode hflags hbuild'
  rcases h.first_inUnicode h' hflags hpath with ⟨hnone, hnone'⟩ |
    ⟨tried, e, rest, captures, captures', rfl, htried, he, he'⟩
  · exact ⟨iff_of_true hnone' hnone, fun _ => ⟨none, none, hnone, hnone', rfl⟩,
      fun _ => hnone'.trans hnone.symm⟩
  have hform := h.exists_form (e := e) (by simp)
  have hform' := h'.exists_form (e := e.inUnicode) (by simp)
  rw [List.map_append, List.map_cons] at h'
  have hfront : ∀ d ∈ tried, d.matchAlone? (trimSlashes path).toList = none :=
    fun d hd => (htried d hd).1
  have hfront' : ∀ d ∈ tried.map Entry.inUnicode,
      d.matchAlone? (trimSlashes path).toList = none := by
    simpa using fun d hd => (htried d hd).2
  have hsome {entries : List (Entry α)} {c : Combined α} {m : Expression.Match}
      (h : Emitted v entries c) (hne : entries ≠ [])
      (hfind : c.expression.find? (trimSlashes path) = some m) : c.resolve path ≠ .ok none := by
    refine resolve_ne_none ?_ hfind
    rw [h.alternatives]
    cases entries with
    | nil => exact absurd rfl hne
    | cons => exact List.cons_ne_nil _ _
  refine ⟨iff_of_false (hsome h' (by simp) (h'.find_of_first hfront' he').1)
    (hsome h (by simp) (h.find_of_first hfront he).1),
    h.route_inUnicode h' hfront hfront' he he', fun heven => ?_⟩
  refine h.resolve_inUnicode_of_captures h' hfront hfront' he he' ?_
  obtain ⟨f, hf⟩ := hform
  obtain ⟨f', hf'⟩ := hform'
  have hmatch := Entry.matchAlone_inUnicode (h.checked e (by simp)) (hflags e (by simp))
    (heven e (by simp)) hf hf' (isAscii_trimSlashes hpath)
  exact Option.some.inj (he'.symm.trans (hmatch.trans he))

theorem resolve_mixed_inUnicode :
    let number : Entry String :=
      ⟨⟨"/\x7bn:(x)\x7b0\x7d(\\d)+\x7d",
        [.placeholder ⟨some "n", "(x)\x7b0\x7d(\\d)+", true, 2⟩]⟩, "number", 0⟩
    let word : Entry String := ⟨⟨"/\x7bw:\\w\\d|\\w_\x7d-\x7bs:[^/]*\x7d",
      [.placeholder ⟨some "w", "\\w\\d|\\w_", true, 0⟩, .char '-',
        .placeholder ⟨some "s", "[^/]*", false, 0⟩]⟩, "word", 1⟩
    ∃ c c', Combined.build .get [number, word] = .ok c ∧
      Combined.build .get [number.inUnicode, word.inUnicode] = .ok c' ∧
      c.resolve "/a_-b" = .ok (some ⟨1, word.pattern.text, "word", ⟨[("w", "a_"), ("s", "b")]⟩⟩) ∧
      c'.resolve "/a_-b" = c.resolve "/a_-b" ∧
      (c'.resolve "/a_" = .ok none ↔ c.resolve "/a_" = .ok none) ∧
      ∃ r r', c.resolve "/7" = .ok r ∧ c'.resolve "/7" = .ok r' ∧
        r'.map RouteMatch.route = r.map RouteMatch.route := by
  intro number word
  obtain ⟨c, hbuild, hresolve⟩ : ∃ c, Combined.build .get [number, word] = .ok c ∧
      c.resolve "/a_-b" = .ok (some ⟨1, word.pattern.text, "word",
        ⟨[("w", "a_"), ("s", "b")]⟩⟩) := exists_of_map_eq_ok (by decide +kernel)
  obtain ⟨c', hbuild', -⟩ : ∃ c', Combined.build .get [number.inUnicode, word.inUnicode] = .ok c' ∧
      c'.verb = .get := exists_of_map_eq_ok (by decide +kernel)
  have hcompiled : ∀ e ∈ [number, word], Pattern.compile e.pattern.text = .ok e.pattern := by
    decide +kernel
  have hsame {path : String} (hpath : IsAscii path.toList) :=
    Combined.resolve_inUnicode hcompiled (by decide +kernel) hbuild hbuild' hpath
  exact ⟨c, c', hbuild, hbuild', hresolve, (hsame (by decide)).2.2 (by decide +kernel),
    (hsame (by decide)).1, (hsame (by decide)).2.1 (by decide +kernel)⟩

/-- With the flag off the start that both branches have is taken out, so the shorter match is
preferred. -/
theorem resolve_inUnicode_other_values :
    let text := "/\x7ba:(?:\\d*?1|[0-9]*?0)\x7d\x7bb:\\w*\x7d"
    let e : Entry String := ⟨⟨text, [.placeholder ⟨some "a", "(?:\\d*?1|[0-9]*?0)", true, 0⟩,
      .placeholder ⟨some "b", "\\w*", true, 0⟩]⟩, "H0", 0⟩
    Pattern.compile e.pattern.text = .ok e.pattern ∧ e.Flagless ∧ IsAscii "/01".toList ∧
      (∃ c, Combined.build .get [e] = .ok c ∧
        c.resolve "/01" = .ok (some ⟨0, text, "H0", ⟨[("a", "0"), ("b", "1")]⟩⟩)) ∧
      ∃ c', Combined.build .get [e.inUnicode] = .ok c' ∧
        c'.resolve "/01" = .ok (some ⟨0, text, "H0", ⟨[("a", "01"), ("b", "")]⟩⟩) := by
  intro text e
  exact ⟨by decide +kernel, by decide +kernel, by decide,
    exists_of_map_eq_ok (by decide +kernel), exists_of_map_eq_ok (by decide +kernel)⟩

/-- A set that is left without members makes a difference too: a loop around it is not known to
consume anything. -/
example :
    let text := "/\x7bx:(?:(?:[\\d--[0-9]]|a)*?)+\x7d\x7bb:\\Ba*\x7d"
    let e : Entry String := ⟨⟨text, [.placeholder ⟨some "x", "(?:(?:[\\d--[0-9]]|a)*?)+", true, 0⟩,
      .placeholder ⟨some "b", "\\Ba*", true, 0⟩]⟩, "H0", 0⟩
    (Combined.build .get [e]).map (·.resolve "/aaaaa") =
        .ok (.ok (some ⟨0, text, "H0", ⟨[("x", "aaaa"), ("b", "a")]⟩⟩)) ∧
      (Combined.build .get [e.inUnicode]).map (·.resolve "/aaaaa") =
        .ok (.ok (some ⟨0, text, "H0", ⟨[("x", "a"), ("b", "aaaa")]⟩⟩)) := by
  decide +kernel

end HttpRoutes
