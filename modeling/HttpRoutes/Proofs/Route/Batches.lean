import HttpRoutes.Proofs.Route.Registration

/-!
# Batches of routes

Routes registered one batch after the other give the router that they give as a single batch,
however it is divided (`Router.divided_batch`). A table grows at its end alone, and where table and
expressions are in step the table determines the expressions, so it is enough that the two ways give
one table.
-/

namespace HttpRoutes

variable {α : Type}

theorem mapM_append_eq_ok {β γ ε : Type} {f : β → Except ε γ} {first second : List β}
    {results : List γ} : (first ++ second).mapM f = .ok results ↔ ∃ rs rs',
      first.mapM f = .ok rs ∧ second.mapM f = .ok rs' ∧ results = rs ++ rs' := by
  rw [List.mapM_append]
  cases first.mapM f with
  | error e => simp [bind, Except.bind]
  | ok rs =>
    cases second.mapM f with
    | error e => simp [bind, Except.bind]
    | ok rs' => simp [bind, Except.bind, pure, Except.pure, eq_comm]

namespace Router

/-! ## Tables -/

theorem entriesUnder_append (v : Verb) (start : Nat) (first second : List (CheckedRoute α)) :
    entriesUnder v start (first ++ second) = entriesUnder v start first ++
      entriesUnder v (start + (entriesUnder v start first).length) second := by
  induction first generalizing start with
  | nil => rfl
  | cons r rest ih =>
    rw [List.cons_append, entriesUnder, entriesUnder]
    split
    · rw [ih, List.length_cons, List.cons_append, Nat.add_right_comm, Nat.add_assoc]
    · exact ih start

section

variable [Engine]

/-- The entries that routes add under a verb are the routes of the verb, in order. -/
theorem entriesUnder_of_check {routes : List (Route α)} {checked : List (CheckedRoute α)}
    (h : routes.mapM Route.check = .ok checked) (v : Verb) (start : Nat) :
    (entriesUnder v start checked).map (fun e => (e.pattern.text, e.handler)) =
      (routes.filter fun r => r.verbs.contains v).map fun r => (r.pattern, r.handler) := by
  have hchecks := forall₂_of_mapM h
  clear h
  induction hchecks generalizing start with
  | nil => rfl
  | @cons r first routes later hr _ ih =>
    obtain ⟨-, hpattern, hhandler⟩ := Route.check_eq_ok hr
    have hmem := Route.mem_verbs_of_check hr v
    rw [entriesUnder, List.filter_cons]
    by_cases hv : v ∈ first.verbs
    · rw [if_pos hv, if_pos (hmem.1 hv), List.map_cons, List.map_cons, ih, hhandler,
        (Pattern.compile_eq_ok hpattern).1]
    · rw [if_neg hv, if_neg (mt hmem.2 hv), ih]

/-- Entries of tables in step are determined by the texts of their patterns and their handlers. -/
theorem Consistent.entries_eq {r r' : Router α} (hr : r.Consistent) (hr' : r'.Consistent)
    {v : Verb} (h : (r.table.value v).map (fun e => (e.pattern.text, e.handler)) =
      (r'.table.value v).map fun e => (e.pattern.text, e.handler)) :
    r.table.value v = r'.table.value v := by
  have hlength := congrArg List.length h
  rw [List.length_map, List.length_map] at hlength
  refine List.ext_getElem hlength fun i hi hi' => ?_
  have hget : (r.table.value v)[i]? = some (r.table.value v)[i] := List.getElem?_eq_getElem hi
  have hget' : (r'.table.value v)[i]? = some (r'.table.value v)[i] := List.getElem?_eq_getElem hi'
  have hboth := congrArg (·[i]?) h
  simp only [List.getElem?_map, hget, hget', Option.map_some, Option.some.injEq,
    Prod.mk.injEq] at hboth
  have hpattern := hr.compiled v _ (List.getElem_mem hi)
  rw [hboth.1, hr'.compiled v _ (List.getElem_mem hi')] at hpattern
  have hindex := (hr.index hget).trans (hr'.index hget').symm
  generalize (r.table.value v)[i] = e at hboth hpattern hindex
  generalize (r'.table.value v)[i] = e' at hboth hpattern hindex
  cases e
  cases e'
  simp only [Entry.mk.injEq]
  exact ⟨(Except.ok.inj hpattern).symm, hboth.2, hindex⟩

/-- Where table and expressions are in step, the entries of a verb determine its expression. -/
theorem Consistent.snapshots_eq {r r' : Router α} (hr : r.Consistent) (hr' : r'.Consistent)
    {v : Verb} (h : r.table.value v = r'.table.value v) :
    r.snapshots.value v = r'.snapshots.value v := by
  by_cases hnone : r.table.value v = []
  · rw [hr.absent v hnone, hr'.absent v (h ▸ hnone)]
  · obtain ⟨c, hc, hbuild⟩ := hr.built v hnone
    obtain ⟨c', hc', hbuild'⟩ := hr'.built v (h ▸ hnone)
    rw [← h, hbuild] at hbuild'
    cases hbuild'
    rw [hc, hc']

/-- Table and expressions in step are determined by the table. -/
theorem Consistent.eq_of_table {r r' : Router α} (hr : r.Consistent) (hr' : r'.Consistent)
    (h : ∀ v, r.table.value v = r'.table.value v) : r = r' := by
  have hsnapshots (v : Verb) := hr.snapshots_eq hr' (h v)
  cases r
  cases r'
  rw [mk.injEq]
  exact ⟨PerVerb.ext_value h, PerVerb.ext_value hsnapshots⟩

end

section

variable [Engine] {r : Router α} {first second : List (CheckedRoute α)}
  (hfirst : ∀ d ∈ first, d.Sound) (hsecond : ∀ d ∈ second, d.Sound)
  (h : (r.registerChecked first).failure = none)

include hfirst h

theorem routeCount_registered (v : Verb) : (r.registerChecked first).router.routeCount v =
    r.routeCount v + (entriesUnder v (r.routeCount v) first).length := by
  rw [routeCount, (registerChecked_of_none (fun d hd => (hfirst d hd).verbs) h v).1, entriesWith,
    List.length_append]
  rfl

/-- The entries of a second batch come behind those of the first. -/
theorem entriesWith_registered (v : Verb) :
    (r.registerChecked first).router.entriesWith second v = r.entriesWith (first ++ second) v := by
  rw [entriesWith, (registerChecked_of_none (fun d hd => (hfirst d hd).verbs) h v).1,
    routeCount_registered hfirst h, entriesWith, entriesWith, entriesUnder_append,
    List.append_assoc]

include hsecond

/-- After a first batch of checked routes, a second one succeeds exactly if both together do. -/
theorem failure_append :
    ((r.registerChecked first).router.registerChecked second).failure = none ↔
      (r.registerChecked (first ++ second)).failure = none := by
  have hboth : ∀ d ∈ first ++ second, d.Sound := List.forall_mem_append.2 ⟨hfirst, hsecond⟩
  rw [registerChecked_succeeds fun d hd => (hsecond d hd).verbs,
    registerChecked_succeeds fun d hd => (hboth d hd).verbs]
  constructor
  · intro h' v hnew
    -- A verb was combined last in the second batch if that touches it, and else in the first.
    rw [← entriesWith_registered hfirst h]
    by_cases hlater : entriesUnder v ((r.registerChecked first).router.routeCount v) second = []
    · have hverbs := fun d hd => (hfirst d hd).verbs
      rw [entriesUnder_append, ← routeCount_registered hfirst h, hlater, List.append_nil] at hnew
      rw [entriesWith, hlater, List.append_nil, (registerChecked_of_none hverbs h v).1]
      exact (registerChecked_succeeds hverbs).1 h v hnew
    · exact h' v hlater
  · intro h' v hnew
    rw [entriesWith_registered hfirst h]
    refine h' v fun hnone => hnew ?_
    rw [entriesUnder_append, ← routeCount_registered hfirst h] at hnone
    exact (List.append_eq_nil_iff.1 hnone).2

/-- Two batches of checked routes that are registered after each other make the router of both
together. -/
theorem router_append (hr : r.Consistent)
    (h' : ((r.registerChecked first).router.registerChecked second).failure = none) :
    ((r.registerChecked first).router.registerChecked second).router =
      (r.registerChecked (first ++ second)).router := by
  have hboth : ∀ d ∈ first ++ second, d.Sound := List.forall_mem_append.2 ⟨hfirst, hsecond⟩
  have hnone := (failure_append hfirst hsecond h).1 h'
  have hconsistent := registerChecked_consistent hr hfirst h
  refine (registerChecked_consistent hconsistent hsecond h').eq_of_table
    (registerChecked_consistent hr hboth hnone) fun v => ?_
  rw [(registerChecked_of_none (fun d hd => (hsecond d hd).verbs) h' v).1,
    entriesWith_registered hfirst h,
    (registerChecked_of_none (fun d hd => (hboth d hd).verbs) hnone v).1]

end

/-! ## Routes that have not been checked -/

section

variable [Engine]

theorem addRoutes_eq_ok_iff {r r' : Router α} {routes : List (Route α)} :
    r.addRoutes routes = .ok r' ↔
      (r.register routes).failure = none ∧ (r.register routes).router = r' := by
  rw [addRoutes]
  cases (r.register routes).failure with
  | some e => simp
  | none => simp

/-- A batch is added if every route passes its check and every verb can be combined. -/
theorem addRoutes_eq_ok {r r' : Router α} {routes : List (Route α)} :
    r.addRoutes routes = .ok r' ↔ ∃ checked, routes.mapM Route.check = .ok checked ∧
      (r.registerChecked checked).failure = none ∧ (r.registerChecked checked).router = r' := by
  rw [addRoutes_eq_ok_iff, register]
  cases routes.mapM Route.check with
  | error e => simp
  | ok checked => simp

theorem addRoutes_consistent {r r' : Router α} {routes : List (Route α)}
    (hr : r.Consistent) (h : r.addRoutes routes = .ok r') : r'.Consistent := by
  obtain ⟨checked, hchecked, hfailure, rfl⟩ := addRoutes_eq_ok.1 h
  exact registerChecked_consistent hr (sound_of_mapM_check hchecked) hfailure

/-- After a first batch, a second one does what both together do. -/
theorem addRoutes_append {r r' r'' : Router α} {first second : List (Route α)}
    (hr : r.Consistent) (h : r.addRoutes first = .ok r') :
    r'.addRoutes second = .ok r'' ↔ r.addRoutes (first ++ second) = .ok r'' := by
  obtain ⟨checked, hchecked, hfailure, rfl⟩ := addRoutes_eq_ok.1 h
  have hsound := sound_of_mapM_check hchecked
  rw [addRoutes_eq_ok, addRoutes_eq_ok]
  constructor
  · rintro ⟨checked', hchecked', hnone, rfl⟩
    have hsound' := sound_of_mapM_check hchecked'
    exact ⟨checked ++ checked',
      mapM_append_eq_ok.2 ⟨checked, checked', hchecked, hchecked', rfl⟩,
      (failure_append hsound hsound' hfailure).1 hnone,
      (router_append hsound hsound' hfailure hr hnone).symm⟩
  · rintro ⟨all, hall, hnone, rfl⟩
    obtain ⟨checked₁, checked', hchecked₁, hchecked', rfl⟩ := mapM_append_eq_ok.1 hall
    cases hchecked.symm.trans hchecked₁
    have hsound' := sound_of_mapM_check hchecked'
    have hlater := (failure_append hsound hsound' hfailure).2 hnone
    exact ⟨checked', hchecked', hlater, router_append hsound hsound' hfailure hr hlater⟩

/-! ## Batches that are divided -/

theorem addRoutes_nil (r : Router α) : r.addRoutes [] = .ok r := rfl

/-- Batches can be added after each other exactly if the first of them, however many, can always be
added at once, and then all of them at once make the same router. -/
theorem foldlM_addRoutes {r r' : Router α} {batches : List (List (Route α))}
    (hr : r.Consistent) :
    batches.foldlM addRoutes r = .ok r' ↔ r.addRoutes batches.flatten = .ok r' ∧
      ∀ n, ∃ s, r.addRoutes (batches.take n).flatten = .ok s := by
  induction batches generalizing r with
  | nil => simp [addRoutes_nil, pure, Except.pure]
  | cons first rest ih =>
    rw [List.foldlM_cons, List.flatten_cons]
    cases hfirst : r.addRoutes first with
    | error e =>
      refine iff_of_false (by simp [bind, Except.bind]) fun ⟨_, hprefixes⟩ => ?_
      obtain ⟨s, hs⟩ := hprefixes 1
      rw [List.take_succ_cons, List.take_zero, List.flatten_singleton, hfirst] at hs
      cases hs
    | ok next =>
      show rest.foldlM addRoutes next = .ok r' ↔ _
      rw [ih (addRoutes_consistent hr hfirst), addRoutes_append hr hfirst]
      refine and_congr_right fun _ => ⟨fun hprefixes n => ?_, fun hprefixes n => ?_⟩
      · cases n with
        | zero => exact ⟨r, addRoutes_nil r⟩
        | succ n =>
          obtain ⟨s, hs⟩ := hprefixes n
          exact ⟨s, (addRoutes_append hr hfirst).1 hs⟩
      · obtain ⟨s, hs⟩ := hprefixes (n + 1)
        exact ⟨s, (addRoutes_append hr hfirst).2 hs⟩

/-- Routes that are added one by one are one batch. -/
theorem addRoutes_of_addRoute {r r' : Router α} {routes : List (Route α)}
    (hr : r.Consistent) (h : routes.foldlM addRoute r = .ok r') : r.addRoutes routes = .ok r' := by
  have hflatten : (routes.map fun route => [route]).flatten = routes := by
    rw [← List.flatMap_def, List.flatMap_singleton']
  rw [← hflatten]
  refine ((foldlM_addRoutes hr).1 ?_).1
  rw [List.foldlM_map]
  exact h

end

/-- However a batch is divided, if its parts can be added one after the other then the batch can be
added at once, and the router is the same either way: it has the same entries with the same indices
and the same expressions. What keeps a batch that can be added at once from being added in parts is
only that some of its first parts make expressions that cannot be built. -/
theorem divided_batch [Engine] (calls : List (AddCall α)) (parts : List (List (Route α)))
    (r : Router α) :
    parts.foldlM addRoutes (after calls) = .ok r ↔
      (after calls).addRoutes parts.flatten = .ok r ∧
        ∀ n, ∃ s, (after calls).addRoutes (parts.take n).flatten = .ok s :=
  foldlM_addRoutes (after_consistent calls)

theorem divided_batch_of_pages :
    let calls : List (AddCall String) := [.under .get "/{n:[0-9]+}" "page", .route [] "/" "none"]
    let parts : List (List (Route String)) :=
      [[⟨[.post, .get, .post], "/{s:}", "slug"⟩], [],
        [⟨[.put], "/{s:}", "slug"⟩, ⟨[.get, .put], "/about", "about"⟩]]
    ∃ r, parts.foldlM addRoutes (after calls) = .ok r ∧
      (after calls).addRoutes parts.flatten = .ok r ∧
      Verb.all.map r.routeCount = [3, 1, 2, 0, 0, 0, 0] := by
  intro calls parts
  obtain ⟨r, hr, hcounts⟩ : ∃ r, parts.foldlM addRoutes (after calls) = .ok r ∧
      Verb.all.map r.routeCount = [3, 1, 2, 0, 0, 0, 0] :=
    exists_of_map_eq_ok (by decide +kernel)
  exact ⟨r, hr, ((divided_batch calls parts r).1 hr).1, hcounts⟩

/-- A batch can succeed whose first route fails alone: the comment that the route leaves open is
closed by the line break in the next one. -/
example :
    let routes : List (Route String) :=
      [⟨[.get], "/{(?x)a#}", "comment"⟩, ⟨[.get], "/\x7b\n\x7d", "line"⟩]
    (empty.addRoutes routes).toOption.isSome ∧
      (routes.foldlM addRoute empty).toOption = none := by
  decide +kernel

end Router

end HttpRoutes
