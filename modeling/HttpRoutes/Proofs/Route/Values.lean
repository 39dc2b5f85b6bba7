import HttpRoutes.Proofs.Route.Batches
import HttpRoutes.Proofs.Route.Filling

/-!
# Values of placeholders

A path that is resolved is the pattern of its route with the values of the placeholders filled in
(`Router.resolved_is_filled`), and a path made by filling values into the pattern of a route is
resolved to that route (`Router.resolve_filled`). Where a last group is repeated zero times the
numbers that values are read by may be wrong, so both rest on placeholders that keep theirs.
-/

namespace HttpRoutes

open Expression

variable {α : Type}

/-! ## Slashes at the ends -/

theorem trimSlashes_of_slashes {text : List Char} (hfirst : text.head? ≠ some '/')
    (hlast : text.getLast? ≠ some '/') (left right : Nat) :
    trimSlashes (String.ofList (List.replicate left '/' ++ text ++ List.replicate right '/')) =
      String.ofList text := by
  have hslashes (n : Nat) (xs : List Char) :
      (List.replicate n '/' ++ xs).dropWhile (· = '/') = xs.dropWhile (· = '/') := by
    induction n with
    | zero => rfl
    | succ n ih => simp [List.replicate_succ, ih]
  have hstop {xs : List Char} (h : xs.head? ≠ some '/') : xs.dropWhile (· = '/') = xs := by
    cases xs with
    | nil => rfl
    | cons c xs =>
      have hc : c ≠ '/' := fun heq => h (by rw [heq]; rfl)
      simp [hc]
  rw [trimSlashes, Text.trimBoth, String.toList_ofList, List.append_assoc, hslashes]
  by_cases hempty : text = []
  · subst hempty
    have hright := hslashes right []
    rw [List.append_nil] at hright
    simp [hright]
  · have hhead : (text ++ List.replicate right '/').head? ≠ some '/' := by
      rwa [List.head?_append_of_ne_nil _ hempty]
    have hreverse : text.reverse.head? ≠ some '/' := by rwa [List.head?_reverse]
    rw [hstop hhead, List.reverse_append, List.reverse_replicate, hslashes, hstop hreverse,
      List.reverse_reverse]

/-! ## Where a route is located -/

theorem Combined.locate_iff {c : Combined α} {m : Expression.Match} {path : String} {i : Nat} :
    c.locate m path = .ok i ↔ (c.firedGroups m).length ≤ 1 ∧
      ((c.firstGroup? m).bind (positionOfGroup? c.alternatives)).or
        (positionOfLiteral? c.alternatives path) = some i := by
  rw [locate]
  by_cases hfired : 1 < (c.firedGroups m).length
  · rw [if_pos hfired]
    exact iff_of_false (by simp) fun h => by omega
  · rw [if_neg hfired]
    have hle : (c.firedGroups m).length ≤ 1 := by omega
    cases ((c.firstGroup? m).bind (positionOfGroup? c.alternatives)).or
        (positionOfLiteral? c.alternatives path) with
    | none => simp
    | some j => simp [hle]

/-- Entries open no fewer groups than are recorded for them. -/
theorem groupsOf_le_openedBy {entries : List (Entry α)}
    (hchecked : ∀ e ∈ entries, ∀ p, .placeholder p ∈ e.pattern.parts → p.Checked) :
    Combined.groupsOf entries ≤ openedBy entries :=
  total_le fun e he => groupCount_le (hchecked e he)

namespace Combined.Ready

section

variable [Engine] {v : Verb} {c : Combined α} {tried rest : List (Entry α)} {e : Entry α}
  {path : String} {captures : List Capture} (h : Combined.Ready v (tried ++ e :: rest) c)
  (htried : ∀ d ∈ tried, d.matchAlone? (trimSlashes path).toList = none)
  (he : e.matchAlone? (trimSlashes path).toList = some captures)

include h htried he

/-- Nothing in front of the first entry that matches is ever located: the groups in front of it are
no fewer than recorded, and no literal entry there is the path. -/
theorem le_of_locate {i : Nat} (hlocate : c.locate
    ⟨(trimSlashes path).toList, captures.map (Capture.shift (openedBy tried))⟩ (trimSlashes path) =
      .ok i) : tried.length ≤ i := by
  obtain ⟨-, hfirst⟩ := h.find_of_first htried he
  by_contra hlt
  obtain ⟨a, ha, hmem, houter⟩ : ∃ a, c.alternatives[i]? = some a ∧ a.entry ∈ tried ∧
      a.outerGroup < 1 + groupsOf tried := by
    have hi : i < (alternativesFrom 1 tried).length := by
      rw [length_alternativesFrom]
      omega
    refine ⟨(alternativesFrom 1 tried)[i], ?_, ?_, ?_⟩
    · rw [h.alternatives, alternativesFrom_append, List.getElem?_append_left hi,
        List.getElem?_eq_getElem hi]
    · have hmem : _ ∈ (alternativesFrom 1 tried).map (·.entry) :=
        List.mem_map_of_mem (List.getElem_mem hi)
      rwa [entries_alternativesFrom] at hmem
    · have hmem : _ ∈ (alternativesFrom 1 tried).map (·.outerGroup) :=
        List.mem_map_of_mem (List.getElem_mem hi)
      rw [map_outerGroup] at hmem
      exact (mem_outerGroups hmem).2
  have hle := groupsOf_le_openedBy fun d hd => h.checked d (List.mem_append_left _ hd)
  obtain ⟨-, hposition⟩ := locate_iff.1 hlocate
  rw [hfirst, Option.bind_some] at hposition
  rcases Option.or_eq_some_iff.1 hposition with hgroup | ⟨-, hliteral⟩
  · obtain ⟨a', ha', hnumber⟩ := getElem_of_positionOfGroup hgroup
    cases ha.symm.trans ha'
    omega
  · obtain ⟨hi, hmatch, -⟩ := List.findIdx?_eq_some_iff_getElem.1 hliteral
    rw [List.getElem?_eq_getElem hi, Option.some.injEq] at ha
    rw [ha, Bool.and_eq_true, decide_eq_true_eq] at hmatch
    have hsome := (matchAlone_of_isLiteral (h.compiled a.entry (List.mem_append_left _ hmem))
      hmatch.1 (trimSlashes path).toList).2 (by rw [hmatch.2])
    rw [htried a.entry hmem] at hsome
    cases hsome

/-- If all entries in front of the first entry that matches keep their last groups, nothing else is
located. -/
theorem locate_of_kept (hkept : ∀ d ∈ tried, d.KeepsLastGroups) {i : Nat} (hlocate : c.locate
    ⟨(trimSlashes path).toList, captures.map (Capture.shift (openedBy tried))⟩ (trimSlashes path) =
      .ok i) : i = tried.length := by
  obtain ⟨-, hfirst⟩ := h.find_of_first htried he
  have hopened := (openedBy_eq_iff fun d hd => h.checked d (List.mem_append_left _ hd)).2 hkept
  have hposition := (locate_iff.1 hlocate).2
  rw [hfirst, Option.bind_some, hopened, Nat.add_comm, h.alternatives, positionOfGroup_eq_some,
    Option.some_or] at hposition
  exact (Option.some.inj hposition).symm

end

end Combined.Ready

namespace Router

/-! ## Routers -/

theorem resolve_of_snapshot {r : Router α} {v : Verb} {c : Combined α}
    (h : r.snapshot? v = some c) (path : String) : r.resolve v path = c.resolve path := by
  rw [resolve, h]

section

variable [Engine]

/-- A verb of a router with entries has an expression, and resolving rests on it. -/
theorem Consistent.ready {r : Router α} (hr : r.Consistent) {v : Verb}
    (hverbose : ∀ e ∈ r.table.value v, ∀ p ∈ placeholders e.pattern.parts,
      p.term.turnsOn .verbose = false) (hne : r.table.value v ≠ []) :
    ∃ c, r.snapshot? v = some c ∧ Combined.Ready v (r.table.value v) c := by
  obtain ⟨c, hsnapshot, hbuild⟩ := hr.built v hne
  exact ⟨c, hsnapshot, ready_of_build (hr.compiled v)
    (fun e he p hp => hverbose e he p (mem_placeholders.2 hp)) hbuild⟩

/-- What a router resolves is an entry of the expression of the verb, at the place of its index, and
some entry is the first to match the path. -/
theorem Consistent.resolve_eq_some {r : Router α} (hr : r.Consistent) {v : Verb}
    (hverbose : ∀ e ∈ r.table.value v, ∀ p ∈ placeholders e.pattern.parts,
      p.term.turnsOn .verbose = false) {path : String} {m : RouteMatch α}
    (h : r.resolve v path = .ok (some m)) :
    ∃ c tried e rest captures, r.snapshot? v = some c ∧ r.table.value v = tried ++ e :: rest ∧
      Combined.Ready v (tried ++ e :: rest) c ∧
      (∀ d ∈ tried, d.matchAlone? (trimSlashes path).toList = none) ∧
      e.matchAlone? (trimSlashes path).toList = some captures ∧
      ∃ a, c.alternatives[m.index]? = some a ∧ c.locate ⟨(trimSlashes path).toList,
          captures.map (Capture.shift (openedBy tried))⟩ (trimSlashes path) = .ok m.index ∧
        m = ⟨a.entry.index, a.entry.pattern.text, a.entry.handler, Combined.params a
          ⟨(trimSlashes path).toList, captures.map (Capture.shift (openedBy tried))⟩⟩ := by
  have hne : r.table.value v ≠ [] := by
    intro hnil
    rw [resolve, snapshot?, hr.absent v hnil] at h
    cases h
  obtain ⟨c, hsnapshot, hready⟩ := hr.ready hverbose hne
  rw [resolve_of_snapshot hsnapshot] at h
  rcases exists_first (r.table.value v) path with
    hnone | ⟨tried, e, rest, captures, htable, htried, he⟩
  · rw [hready.resolve_of_none hnone] at h
    cases h
  · rw [htable] at hready
    obtain ⟨hfind, -⟩ := hready.find_of_first htried he
    obtain ⟨i, a, hlocate, ha, rfl⟩ := (Combined.resolve_eq_some hfind).1 h
    have hindex : a.entry.index = i := by
      refine hr.index (v := v) ?_
      rw [htable, ← entries_alternativesFrom 1 (tried ++ e :: rest), ← hready.alternatives,
        List.getElem?_map, ha]
      rfl
    refine ⟨c, tried, e, rest, captures, hsnapshot, htable, hready, htried, he, a, ?_, ?_, rfl⟩
    · exact hindex ▸ ha
    · exact hindex ▸ hlocate

/-- The entries in front of the first one that matches are in front of the one that is resolved. -/
theorem Consistent.kept_in_front {r : Router α} (hr : r.Consistent) {v : Verb}
    {c : Combined α} {tried rest : List (Entry α)} {e : Entry α} {path : String}
    {captures : List Capture} (htable : r.table.value v = tried ++ e :: rest)
    (hready : Combined.Ready v (tried ++ e :: rest) c)
    (htried : ∀ d ∈ tried, d.matchAlone? (trimSlashes path).toList = none)
    (he : e.matchAlone? (trimSlashes path).toList = some captures) {i : Nat}
    (hlocate : c.locate ⟨(trimSlashes path).toList, captures.map (Capture.shift (openedBy tried))⟩
      (trimSlashes path) = .ok i)
    (hfront : ∀ d ∈ r.table.value v, d.index < i → d.KeepsLastGroups) :
    ∀ d ∈ tried, d.KeepsLastGroups := by
  intro d hd
  have hlt := hr.index_lt htable hd
  have hle := hready.le_of_locate htried he hlocate
  exact hfront d (htable ▸ List.mem_append_left _ hd) (by omega)

/-- What a consistent router resolves is the first entry that matches, with what the entry captures
alone, if the routes in front keep their last groups. -/
theorem Consistent.captures_of_resolve {r : Router α} (hr : r.Consistent) {v : Verb}
    (hverbose : ∀ e ∈ r.table.value v, ∀ p ∈ placeholders e.pattern.parts,
      p.term.turnsOn .verbose = false) {path : String} {m : RouteMatch α}
    (hfront : ∀ d ∈ r.table.value v, d.index < m.index → d.KeepsLastGroups)
    (h : r.resolve v path = .ok (some m)) :
    ∃ c e captures, e ∈ r.table.value v ∧ Combined.Ready v (r.table.value v) c ∧
      e.matchAlone? (trimSlashes path).toList = some captures ∧
      m = ⟨e.index, e.pattern.text, e.handler,
        Combined.params ⟨1, e⟩ ⟨(trimSlashes path).toList, captures⟩⟩ := by
  obtain ⟨c, tried, e, rest, captures, -, htable, hready, htried, he, a, ha, hlocate, hm⟩ :=
    hr.resolve_eq_some hverbose h
  -- The groups in front are numbered as recorded, so the first entry that matches is located.
  have hkept := hr.kept_in_front htable hready htried he hlocate hfront
  have hopened := (openedBy_eq_iff fun d hd =>
    hready.checked d (List.mem_append_left _ hd)).2 hkept
  rw [hready.locate_of_kept htried he hkept hlocate, hready.alternatives,
    Combined.getElem_alternativesFrom] at ha
  cases ha
  rw [hopened, Nat.add_comm, Combined.params_shift] at hm
  exact ⟨c, e, captures, by simp [htable], htable ▸ hready, he, hm⟩

end

/-- A path that is resolved is the pattern of its route with values filled in, and the value of a
placeholder that looks around nowhere is a match by itself. The parameters are the values of the
named placeholders if no placeholder in front of a named one loses its last group. No placeholder
turns on verbose mode, and those of the routes in front keep their last groups. -/
theorem resolved_is_filled [Engine] (calls : List (AddCall α)) {v : Verb} {path : String}
    {m : RouteMatch α}
    (hverbose : ∀ e ∈ (after calls).table.value v, ∀ p ∈ placeholders e.pattern.parts,
      p.term.turnsOn .verbose = false)
    (hfront : ∀ d ∈ (after calls).table.value v, d.index < m.index → d.KeepsLastGroups)
    (hresolve : (after calls).resolve v path = .ok (some m)) :
    ∃ e ∈ (after calls).table.value v, e.index = m.index ∧ e.pattern.text = m.pattern ∧
      e.handler = m.handler ∧ Pattern.compile m.pattern = .ok e.pattern ∧ ∃ values,
        e.pattern.filled values = trimSlashes path ∧
        List.Forall₂ (fun p value => p.body.looksAround = false → p.Matches value)
          (placeholders e.pattern.parts) values ∧
        (e.pattern.KeepsNumbers →
          m.params.pairs = namedValues (placeholders e.pattern.parts) values) := by
  have hr := after_consistent calls
  obtain ⟨c, e, captures, hmem, hready, he, rfl⟩ :=
    hr.captures_of_resolve hverbose hfront hresolve
  have hcompiled := hr.compiled v e hmem
  obtain ⟨values, hfilled, hmatches, hvalues⟩ := e.values_of_matchAlone hcompiled he
  refine ⟨e, hmem, rfl, rfl, rfl, hcompiled, values, hfilled, hmatches, ?_⟩
  intro hnumbers
  exact params_eq (hready.checked e hmem) hnumbers hvalues

theorem resolved_article_is_filled :
    let calls : List (AddCall String) :=
      [.route [.get] "/{n:(2){0}(0|1)+}" "page", .under .get "/{s:}/{[a-z]+}.{e:}" "article"]
    let m : RouteMatch String :=
      ⟨1, "/{s:}/{[a-z]+}.{e:}", "article", ⟨[("s", "news"), ("e", "html")]⟩⟩
    (after calls).resolve .get "//news/item.html/" = .ok (some m) ∧
      ∃ e ∈ (after calls).table.value .get, e.index = 1 ∧ ∃ values,
        e.pattern.filled values = "news/item.html" ∧
        List.Forall₂ (fun p value => p.body.looksAround = false → p.Matches value)
          (placeholders e.pattern.parts) values ∧
        m.params.pairs = namedValues (placeholders e.pattern.parts) values := by
  intro calls m
  have hresolve : (after calls).resolve .get "//news/item.html/" = .ok (some m) := by
    decide +kernel
  have hkeeps : ∀ e ∈ (after calls).table.value .get, e.pattern.KeepsNumbers := by decide +kernel
  obtain ⟨e, he, hindex, -, -, -, values, hfilled, hmatches, hparams⟩ :=
    resolved_is_filled calls (v := .get) (m := m) (by decide +kernel) (by decide +kernel) hresolve
  have htrim : trimSlashes "//news/item.html/" = "news/item.html" := by decide +kernel
  exact ⟨hresolve, e, he, hindex, values, hfilled.trans htrim, hmatches, hparams (hkeeps e he)⟩

/-- Behind a group that is repeated zero times a path can lead to another route. -/
theorem resolved_is_not_filled :
    let calls : List (AddCall String) := [.under .get "/{(a){0}}" "first",
      .under .get "/x" "second", .under .get "/y" "third"]
    (∀ e ∈ (after calls).table.value .get, ∀ p ∈ placeholders e.pattern.parts,
        p.term.turnsOn .verbose = false) ∧
      (after calls).resolve .get "/x" = .ok (some ⟨2, "/y", "third", .empty⟩) ∧
      ∃ p, Pattern.compile "/y" = .ok p ∧ ∀ values, p.filled values ≠ trimSlashes "/x" := by
  intro calls
  refine ⟨by decide +kernel, by decide +kernel, ⟨"/y", [.char 'y']⟩, by decide +kernel, ?_⟩
  intro values hfilled
  have htext := Pattern.toList_filled (p := ⟨"/y", [.char 'y']⟩) (by decide +kernel) values
  have htrim : trimSlashes "/x" = "x" := by decide +kernel
  rw [hfilled, htrim] at htext
  exact absurd htext (by simp [fillParts])

/-! ## Filled paths -/

theorem addRoute_eq_ok [Engine] {r r' : Router α} {route : Route α}
    (h : r.addRoute route = .ok r') :
    ∃ checked, route.check = .ok checked ∧ (r.registerChecked [checked]).failure = none ∧
      (r.registerChecked [checked]).router = r' := by
  obtain ⟨checked, hchecked, hfailure, hrouter⟩ := addRoutes_eq_ok.1 h
  cases forall₂_of_mapM hchecked with
  | cons hcheck hnil =>
    cases hnil
    exact ⟨_, hcheck, hfailure, hrouter⟩

/-- A router with one route has it as the only entry of each of its verbs. -/
theorem table_of_addRoute [Engine] {verbs : List Verb} {text : String} {handler : α} {r : Router α}
    (h : empty.addRoute ⟨verbs, text, handler⟩ = .ok r) {v : Verb} (hv : v ∈ verbs) :
    r.Consistent ∧ ∃ p, Pattern.compile text = .ok p ∧
      r.table.value v = [⟨p, handler, 0⟩] := by
  obtain ⟨checked, hcheck, hfailure, rfl⟩ := addRoute_eq_ok h
  have hsound : ∀ d ∈ [checked], d.Sound := by
    intro d hd
    rw [List.mem_singleton.1 hd]
    exact Route.sound_of_check hcheck
  obtain ⟨hverbs, hcompiled, hhandler⟩ := Route.check_eq_ok hcheck
  refine ⟨registerChecked_consistent empty_consistent hsound hfailure, checked.pattern, hcompiled,
    ?_⟩
  have hunder : v ∈ checked.verbs := by
    rw [hverbs]
    exact Verb.mem_distinct.2 hv
  rw [(registerChecked_of_none (fun d hd => (hsound d hd).verbs) hfailure v).1, entriesWith_empty,
    entriesUnder, if_pos hunder, entriesUnder, hhandler]

/-- In a router with one route, values filled into its pattern give a path that leads to it, with
any number of slashes at the ends. The parameters are the named values if no other values give the
path and the placeholders in front of a named one keep their last groups. -/
theorem resolve_filled [Engine] {verbs : List Verb} {text : String} {handler : α} {p : Pattern}
    {r : Router α} {values : List String} {v : Verb} (hcompiled : Pattern.compile text = .ok p)
    (hplain : ∀ q ∈ placeholders p.parts,
      q.body.looksAround = false ∧ q.term.turnsOn .verbose = false)
    (hregister : empty.addRoute ⟨verbs, text, handler⟩ = .ok r) (hv : v ∈ verbs)
    (hvalues : List.Forall₂ Placeholder.Matches (placeholders p.parts) values)
    (hfirst : (p.filled values).toList.head? ≠ some '/')
    (hlast : (p.filled values).toList.getLast? ≠ some '/') (left right : Nat) :
    ∃ params, r.resolve v (String.ofList (List.replicate left '/' ++ (p.filled values).toList ++
        List.replicate right '/')) = .ok (some ⟨0, text, handler, params⟩) ∧
      (p.KeepsNumbers → (∀ others,
          List.Forall₂ Placeholder.Matches (placeholders p.parts) others →
          p.filled others = p.filled values → others = values) →
        params.pairs = namedValues (placeholders p.parts) values) := by
  obtain ⟨hr, p', hcompiled', htable⟩ := table_of_addRoute hregister hv
  cases hcompiled.symm.trans hcompiled'
  obtain rfl := (Pattern.compile_eq_ok hcompiled).1
  have hverbose : ∀ e ∈ r.table.value v, ∀ q ∈ placeholders e.pattern.parts,
      q.term.turnsOn .verbose = false := by
    intro e he q hq
    rw [htable, List.mem_singleton] at he
    subst he
    exact (hplain q hq).2
  obtain ⟨c, hsnapshot, hready⟩ := hr.ready hverbose (by rw [htable]; simp)
  rw [htable] at hready
  have htrim := trimSlashes_of_slashes hfirst hlast left right
  rw [String.ofList_toList] at htrim
  generalize String.ofList (List.replicate left '/' ++ (p.filled values).toList ++
    List.replicate right '/') = path at htrim ⊢
  -- The path is matched, because there is a way to match it: by the values.
  have hfree : ∀ q ∈ placeholders p.parts, q.body.looksAround = false :=
    fun q hq => (hplain q hq).1
  obtain ⟨f, hf⟩ := hready.exists_form (List.mem_singleton_self _)
  have hlook : List.Forall₂ (fun q value => q.body.looksAround = false ∧ q.Matches value)
      (placeholders p.parts) values :=
    (List.forall₂_and_left _ _).2 ⟨hfree, hvalues⟩
  obtain ⟨captures, hcaptures⟩ :=
    Option.isSome_iff_exists.1 (Entry.matchAlone_of_filled hcompiled hf hlook)
  rw [← htrim] at hcaptures
  replace hready : Combined.Ready v ([] ++ ⟨p, handler, 0⟩ :: []) c := hready
  have hresolve := hready.resolve_of_located (by simp) hcaptures
    (.inl ⟨by simp, fun n hn => absurd hn (by simp [Combined.outerGroups])⟩)
  refine ⟨_, (resolve_of_snapshot hsnapshot path).trans hresolve, ?_⟩
  intro hnumbers hunique
  obtain ⟨found, hfilled, hmatches, hcaptured⟩ := Entry.values_of_matchAlone hcompiled hcaptures
  have hfound : List.Forall₂ Placeholder.Matches (placeholders p.parts) found :=
    ((List.forall₂_and_left _ _).2 ⟨hfree, hmatches⟩).imp fun q value h => h.2 h.1
  have hsame : found = values := hunique found hfound (hfilled.trans htrim)
  have hchecked : ∀ q, .placeholder q ∈ p.parts → q.Checked :=
    fun q hq => Pattern.checked_of_compile hcompiled hq
  rw [params_eq hchecked hnumbers hcaptured, hsame]

theorem resolve_filled_numbered :
    let p : Pattern := ⟨"/{(x){0}([0-9])+}/{file:(a|b)+}",
      [.placeholder ⟨none, "(x){0}([0-9])+", true, 2⟩, .char '/',
        .placeholder ⟨some "file", "(a|b)+", true, 1⟩]⟩
    ∃ r params, empty.addRoute ⟨[.get, .head], p.text, "file"⟩ = .ok r ∧
      r.resolve .head (String.ofList (List.replicate 2 '/' ++ (p.filled ["10", "ab"]).toList ++
        List.replicate 1 '/')) = .ok (some ⟨0, p.text, "file", params⟩) ∧
      params.pairs = [("file", "ab")] := by
  intro p
  obtain ⟨r, hregister, -⟩ : ∃ r, empty.addRoute ⟨[.get, .head], p.text, "file"⟩ = .ok r ∧
      r.routeCount .head = 1 := exists_of_map_eq_ok (by decide +kernel)
  have hcompiled : Pattern.compile p.text = .ok p := by decide +kernel
  have hvalues : List.Forall₂ Placeholder.Matches (placeholders p.parts) ["10", "ab"] := by
    decide +kernel
  obtain ⟨params, hresolve, hparams⟩ := resolve_filled (v := .head) hcompiled (by decide +kernel)
    hregister (by decide) hvalues (by decide +kernel) (by decide +kernel) 2 1
  refine ⟨r, params, hregister, hresolve, hparams (by decide +kernel) ?_⟩
  intro others hothers hfilled
  obtain ⟨x, y, rfl⟩ := List.length_eq_two.1 hothers.length_eq.symm
  have htext := congrArg String.toList hfilled
  rw [Pattern.toList_filled hcompiled, Pattern.toList_filled hcompiled] at htext
  have hsplit : ['1', '0'] ++ '/' :: ['a', 'b'] = x.toList ++ '/' :: y.toList := by
    simpa [p, fillParts] using htext.symm
  -- There is one slash only where the path can be split.
  obtain ⟨hx, -, hy⟩ := (List.append_cons_inj_of_notMem (by simp) (by simp)).1 hsplit
  have hx' : "10" = x := String.toList_inj.1 hx
  have hy' : "ab" = y := String.toList_inj.1 hy
  rw [hx', hy']

/-- Behind a group that is repeated zero times a value can be lost. -/
theorem filled_value_lost :
    let text := "/v{x:(a){0}b}/{y:[0-9]+}"
    let p : Pattern := ⟨text, [.char 'v', .placeholder ⟨some "x", "(a){0}b", true, 0⟩, .char '/',
      .placeholder ⟨some "y", "[0-9]+", true, 0⟩]⟩
    Pattern.compile text = .ok p ∧
      (∀ q ∈ placeholders p.parts, q.body.looksAround = false ∧ q.term.turnsOn .verbose = false) ∧
      List.Forall₂ Placeholder.Matches (placeholders p.parts) ["b", "7"] ∧
      (∀ others, List.Forall₂ Placeholder.Matches (placeholders p.parts) others →
        p.filled others = p.filled ["b", "7"] → others = ["b", "7"]) ∧
      ∃ r, empty.addRoute ⟨[.get], text, "page"⟩ = .ok r ∧
        r.resolve .get (p.filled ["b", "7"]) =
          .ok (some ⟨0, text, "page", ⟨[("x", "b"), ("y", "")]⟩⟩) := by
  intro text p
  have hcompiled : Pattern.compile p.text = .ok p := by decide +kernel
  refine ⟨hcompiled, by decide +kernel, by decide +kernel, ?_, ?_⟩
  · intro others hothers hfilled
    obtain ⟨x, y, rfl⟩ := List.length_eq_two.1 hothers.length_eq.symm
    have htext := congrArg String.toList hfilled
    rw [Pattern.toList_filled hcompiled, Pattern.toList_filled hcompiled] at htext
    have hsplit : ['b'] ++ '/' :: ['7'] = x.toList ++ '/' :: y.toList := by
      simpa [p, fillParts] using htext.symm
    -- There is one slash only where the path can be split.
    obtain ⟨hx, -, hy⟩ := (List.append_cons_inj_of_notMem (by simp) (by simp)).1 hsplit
    have hx' : "b" = x := String.toList_inj.1 hx
    have hy' : "7" = y := String.toList_inj.1 hy
    rw [hx', hy']
  · exact exists_of_map_eq_ok (by decide +kernel)

end Router

end HttpRoutes
