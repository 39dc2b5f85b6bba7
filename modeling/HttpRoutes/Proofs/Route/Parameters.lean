import HttpRoutes.Proofs.Route.Syntax
import HttpRoutes.Proofs.Route.Values
import Mathlib.Data.List.ReduceOption

/-!
# Parameters of a match

A match carries one parameter for every named placeholder of its route and none for the others, in
the order of declaration (`Router.resolved_params`). No name is declared twice in a pattern that
compiles, so looking a name up finds the value of its placeholder. None of this depends on what the
expressions of the placeholders are, nor on the numbers of their groups.
-/

namespace HttpRoutes

variable {α : Type}

/-! ## Looking names up -/

namespace Params

variable {p : Params} {name : String}

theorem isSome_get? : (p.get? name).isSome = true ↔ name ∈ p.names := by
  rw [get?, Option.isSome_map, List.find?_isSome, names, List.mem_map]
  simp only [decide_eq_true_eq]

/-- The value that is found stands in a pair of its name. -/
theorem mem_of_get? {value : String} (h : p.get? name = some value) : (name, value) ∈ p.pairs := by
  obtain ⟨pair, hfind, rfl⟩ := Option.map_eq_some_iff.1 h
  have hname : pair.1 = name := by simpa using List.find?_some hfind
  rw [← hname]
  exact List.mem_of_find?_eq_some hfind

/-- Where no name occurs twice, the pair that is found is the only one of its name. -/
theorem get?_eq_some_iff (hnames : p.names.Nodup) {value : String} :
    p.get? name = some value ↔ (name, value) ∈ p.pairs := by
  constructor
  · exact mem_of_get?
  · intro hmem
    have hsome : (p.get? name).isSome = true := isSome_get?.2 (List.mem_map_of_mem hmem)
    obtain ⟨found, hget⟩ := Option.isSome_iff_exists.1 hsome
    have hpair : (name, found) = (name, value) :=
      List.inj_on_of_nodup_map hnames (mem_of_get? hget) hmem rfl
    rw [hget, (Prod.mk.inj hpair).2]

end Params

/-! ## Names of a pattern -/

/-- The names of the placeholders that have one are the names that the parts declare. -/
theorem reduceOption_names_slotsFrom (slot : Nat) (parts : List PatternPart) :
    ((Pattern.slotsFrom slot parts).map (·.2.name)).reduceOption = declaredNames parts := by
  induction parts generalizing slot with
  | nil => rfl
  | cons part rest ih =>
    cases part with
    | char c => exact ih slot
    | placeholder p =>
      rw [Pattern.slotsFrom, List.map_cons, declaredNames, List.filterMap_cons, PatternPart.name?]
      cases hname : p.name with
      | none => exact ih _
      | some name => exact congrArg (name :: ·) (ih _)

/-- A pattern that compiles has a split in good order, which tells its names, and no name occurs
twice in it. -/
theorem Pattern.split_of_compile [Engine] {text : String} {p : Pattern} (h : compile text = .ok p) :
    (∃ tokens, InOrder tokens ∧ tokensText tokens = (trimSlashes text).toList ∧
        List.Forall₂ (fun body name => ∃ expression, Declares body name expression)
          (tokens.filterMap PatternToken.body?) p.names) ∧
      p.names.reduceOption.Nodup := by
  obtain ⟨tokens, horder, htext⟩ := exists_compile_iff.1 ⟨p, h⟩
  obtain ⟨parts, hparts, hnodup⟩ := horder.yields
  obtain rfl : p = ⟨text, parts⟩ :=
    Except.ok.inj (h.symm.trans (compile_of_yields hparts hnodup htext))
  refine ⟨⟨tokens, horder, htext, names_of_yields hparts 1⟩, ?_⟩
  rw [names, slots, reduceOption_names_slotsFrom]
  exact hnodup

/-- The names of the parameters are those of the placeholders that have one, whatever the groups of
the match are. -/
theorem Combined.names_params (a : Alternative α) (m : Expression.Match) :
    (params a m).names = a.entry.pattern.names.reduceOption := by
  rw [params, Params.names, Pattern.names, List.reduceOption, List.map_filterMap,
    List.filterMap_map]
  refine List.filterMap_congr fun q _ => ?_
  simp [Option.map_map, Function.comp_def]

/-- No name occurs twice among the parameters of a pattern that compiles. -/
theorem Combined.nodup_names_params [Engine] {a : Alternative α} {text : String}
    (h : Pattern.compile text = .ok a.entry.pattern) (m : Expression.Match) :
    (params a m).names.Nodup := by
  rw [names_params]
  exact (Pattern.split_of_compile h).2

namespace Router

/-- What a consistent router resolves is the entry at the index of the match, with the parameters
that the expression of the verb has captured for it. -/
theorem Consistent.entry_of_resolve [Engine] {r : Router α} (hr : r.Consistent) {v : Verb}
    {path : String} {m : RouteMatch α} (h : r.resolve v path = .ok (some m)) :
    ∃ a found, (r.table.value v)[m.index]? = some a.entry ∧
      m = ⟨a.entry.index, a.entry.pattern.text, a.entry.handler, Combined.params a found⟩ := by
  have hne : r.table.value v ≠ [] := by
    intro hnil
    rw [resolve, snapshot?, hr.absent v hnil] at h
    cases h
  obtain ⟨c, hsnapshot, hbuild⟩ := hr.built v hne
  obtain ⟨-, -, halternatives⟩ := build_eq_ok hbuild
  rw [resolve_of_snapshot hsnapshot] at h
  cases hfind : c.expression.find? (trimSlashes path) with
  | none =>
    rw [Combined.resolve_of_find_none hfind] at h
    cases h
  | some found =>
    obtain ⟨i, a, -, ha, rfl⟩ := (Combined.resolve_eq_some hfind).1 h
    have hentry : (r.table.value v)[i]? = some a.entry := by
      rw [← entries_alternativesFrom 1 (r.table.value v), ← halternatives, List.getElem?_map, ha]
      rfl
    refine ⟨a, found, ?_, rfl⟩
    show (r.table.value v)[a.entry.index]? = some a.entry
    rw [hr.index hentry, hentry]

/-- After any calls, a match carries the named placeholders of the route at its index, each once and
in the order in which the text of the pattern declares them. A name has a value exactly if it is
declared, and the value is the one of its pair. -/
theorem resolved_params [Engine] (calls : List (AddCall α)) {v : Verb} {path : String}
    {m : RouteMatch α} (h : (after calls).resolve v path = .ok (some m)) :
    ∃ e, ((after calls).table.value v)[m.index]? = some e ∧ e.pattern.text = m.pattern ∧
      e.handler = m.handler ∧
      (∃ tokens, InOrder tokens ∧ tokensText tokens = (trimSlashes m.pattern).toList ∧
        List.Forall₂ (fun body name => ∃ expression, Declares body name expression)
          (tokens.filterMap PatternToken.body?) e.pattern.names) ∧
      m.params.names = e.pattern.names.reduceOption ∧ m.params.names.Nodup ∧
      (∀ name, (m.params.get? name).isSome = true ↔ some name ∈ e.pattern.names) ∧
      ∀ name value, m.params.get? name = some value ↔ (name, value) ∈ m.params.pairs := by
  have hr := after_consistent calls
  obtain ⟨a, found, hentry, hm⟩ := hr.entry_of_resolve h
  have hcompiled := hr.compiled v a.entry (List.mem_of_getElem? hentry)
  obtain ⟨hsplit, -⟩ := Pattern.split_of_compile hcompiled
  have htext : a.entry.pattern.text = m.pattern := by rw [hm]
  have hnames : m.params.names = a.entry.pattern.names.reduceOption := by
    rw [hm]
    exact Combined.names_params a found
  have hnodup : m.params.names.Nodup := by
    rw [hm]
    exact Combined.nodup_names_params hcompiled found
  refine ⟨a.entry, hentry, htext, by rw [hm], htext ▸ hsplit, hnames, hnodup, ?_, ?_⟩
  · intro name
    rw [Params.isSome_get?, hnames, List.reduceOption_mem_iff]
  · intro name value
    exact Params.get?_eq_some_iff hnodup

/-- Two named placeholders with one between them that has no name. -/
theorem resolved_params_between :
    let calls : List (AddCall String) :=
      [.under .get "/about" "about", .under .get "/{s:}/{[a-z]+}.{e:}" "article"]
    let m : RouteMatch String :=
      ⟨1, "/{s:}/{[a-z]+}.{e:}", "article", ⟨[("s", "news"), ("e", "html")]⟩⟩
    (after calls).resolve .get "/news/item.html" = .ok (some m) ∧
      ∃ e, ((after calls).table.value .get)[1]? = some e ∧
        m.params.names = e.pattern.names.reduceOption ∧ m.params.names.Nodup ∧
        ∀ name, (m.params.get? name).isSome = true ↔ some name ∈ e.pattern.names := by
  intro calls m
  have hresolve : (after calls).resolve .get "/news/item.html" = .ok (some m) := by
    decide +kernel
  obtain ⟨e, hentry, -, -, -, hnames, hnodup, hget, -⟩ := resolved_params calls hresolve
  exact ⟨hresolve, e, hentry, hnames, hnodup, hget⟩

end Router

end HttpRoutes
