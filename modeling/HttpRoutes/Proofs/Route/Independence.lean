import HttpRoutes.Proofs.Route.Batches

/-!
# Verbs kept apart

One call can register routes under several verbs, and a batch stages all of them before any verb is
built. Still every verb is on its own: what it has after a run is what it would have in a router
that has been given, by the calls that succeeded, the routes of this verb alone
(`Router.verb_on_its_own`). Verbs meet only in whether a call succeeds: a call that fails for one of
them fails for all.
-/

namespace HttpRoutes

variable {α : Type}

/-! ## Routes of one verb -/

/-- The routes of a batch that name a verb, each under that verb alone. -/
def routesUnder (v : Verb) (routes : List (Route α)) : List (Route α) :=
  (routes.filter fun r => r.verbs.contains v).map fun r => { r with verbs := [v] }

/-- Two routes that differ in the order and the repetition of their verbs at most. -/
structure Route.Alike (r r' : Route α) : Prop where
  verbs : ∀ v, v ∈ r.verbs ↔ v ∈ r'.verbs
  pattern : r.pattern = r'.pattern
  handler : r.handler = r'.handler

theorem Route.Alike.check_eq [Engine] {r r' : Route α} (h : r.Alike r') : r.check = r'.check := by
  rw [check, check, Verb.distinct_congr h.verbs, h.pattern, h.handler]

/-- A route that passes its check also passes it under one verb alone. -/
theorem Route.check_under [Engine] {r : Route α} {checked : CheckedRoute α}
    (h : r.check = .ok checked) (v : Verb) :
    ({ r with verbs := [v] } : Route α).check = .ok { checked with verbs := [v] } := by
  obtain ⟨-, hpattern, hhandler⟩ := Route.check_eq_ok h
  rw [check, Verb.distinct_singleton, hpattern, hhandler]
  rfl

namespace Router

section

variable [Engine]

/-- The routes of a verb add under it what the whole batch adds, and nothing under other verbs. -/
theorem entriesUnder_routesUnder {routes : List (Route α)}
    {checked : List (CheckedRoute α)} (h : routes.mapM Route.check = .ok checked) (v : Verb) :
    ∃ only, (routesUnder v routes).mapM Route.check = .ok only ∧ ∀ w start,
      entriesUnder w start only = if w = v then entriesUnder v start checked else [] := by
  have hchecks := forall₂_of_mapM h
  clear h
  induction hchecks with
  | nil => exact ⟨[], rfl, fun w start => by split <;> rfl⟩
  | @cons r first rest later hr _ ih =>
    obtain ⟨only, honly, hentries⟩ := ih
    have hmem := Route.mem_verbs_of_check hr v
    rw [routesUnder, List.filter_cons]
    by_cases hv : v ∈ first.verbs
    · rw [if_pos (hmem.1 hv), List.map_cons, List.mapM_cons, Route.check_under hr v]
      rw [routesUnder] at honly
      rw [honly]
      refine ⟨{ first with verbs := [v] } :: only, rfl, fun w start => ?_⟩
      rw [entriesUnder, entriesUnder, if_pos hv, hentries, hentries]
      by_cases hw : w = v <;> simp [hw]
    · rw [if_neg (mt hmem.2 hv)]
      refine ⟨only, honly, fun w start => ?_⟩
      rw [hentries, entriesUnder, if_neg hv]

/-! ## One call -/

/-- A batch that succeeds also succeeds with the routes of one verb alone, in every router that has
the same entries for that verb, and it gives the verb the same entries. -/
theorem addRoutes_routesUnder {r r' alone : Router α} {routes : List (Route α)} {v : Verb}
    (h : r.addRoutes routes = .ok r') (htable : alone.table.value v = r.table.value v) :
    ∃ alone', alone.addRoutes (routesUnder v routes) = .ok alone' ∧
      alone'.table.value v = r'.table.value v := by
  obtain ⟨checked, hchecked, hfailure, rfl⟩ := addRoutes_eq_ok.1 h
  obtain ⟨only, honly, hentries⟩ := entriesUnder_routesUnder hchecked v
  have hverbs := fun d hd => (sound_of_mapM_check hchecked d hd).verbs
  have hverbs' := fun d hd => (sound_of_mapM_check honly d hd).verbs
  have hcount : alone.routeCount v = r.routeCount v := congrArg List.length htable
  have hsame : alone.entriesWith only v = r.entriesWith checked v := by
    rw [entriesWith, entriesWith, htable, hcount, hentries, if_pos rfl]
  have hsucceeds : (alone.registerChecked only).failure = none := by
    refine (registerChecked_succeeds hverbs').2 fun w hnew => ?_
    rw [hentries] at hnew
    -- No other verb has new entries, and this one has been built from the same ones.
    by_cases hw : w = v
    · subst hw
      rw [if_pos rfl, hcount] at hnew
      rw [hsame]
      exact (registerChecked_succeeds hverbs).1 hfailure w hnew
    · rw [if_neg hw] at hnew
      exact absurd rfl hnew
  refine ⟨_, addRoutes_eq_ok.2 ⟨only, honly, hsucceeds, rfl⟩, ?_⟩
  rw [(registerChecked_of_none hverbs' hsucceeds v).1, hsame,
    (registerChecked_of_none hverbs hfailure v).1]

/-- A call with routes of other verbs adds nothing for a verb, whether it fails or not. -/
theorem register_of_others (r : Router α) {routes : List (Route α)} {v : Verb}
    (h : ∀ route ∈ routes, v ∉ route.verbs) :
    (r.register routes).router.table.value v = r.table.value v := by
  by_cases hfailure : (r.register routes).failure = none
  · have hnone : routesUnder v routes = [] := by
      rw [routesUnder, List.map_eq_nil_iff, List.filter_eq_nil_iff]
      exact fun route hroute => mt List.contains_iff_mem.1 (h route hroute)
    have hown : r.table.value v = r.table.value v := rfl
    obtain ⟨next, hnext, htable⟩ :=
      addRoutes_routesUnder (addRoutes_eq_ok_iff.2 ⟨hfailure, rfl⟩) hown
    rw [hnone, addRoutes_nil] at hnext
    cases hnext
    exact htable.symm
  · rw [register_of_failure hfailure]

/-! ## Runs -/

/-- The calls that succeed when they are made one after the other. -/
def succeeded (r : Router α) : List (AddCall α) → List (AddCall α)
  | [] => []
  | call :: rest =>
    let registration := r.register call.batch
    let later := registration.router.succeeded rest
    if registration.failure.isNone then call :: later else later

end

/-- Two routers are the same as far as a verb is concerned. -/
structure SameUnder (v : Verb) (r r' : Router α) : Prop where
  entries : r.table.value v = r'.table.value v
  snapshot : r.snapshot? v = r'.snapshot? v
  resolve : ∀ path, r.resolve v path = r'.resolve v path

section

variable [Engine]

theorem Consistent.sameUnder {r r' : Router α} (hr : r.Consistent) (hr' : r'.Consistent)
    {v : Verb} (h : r.table.value v = r'.table.value v) : r.SameUnder v r' := by
  have hsnapshot : r.snapshot? v = r'.snapshot? v := hr.snapshots_eq hr' h
  refine ⟨h, hsnapshot, fun path => ?_⟩
  rw [resolve, resolve, hsnapshot]

/-- The calls of a run that succeed, with the routes of one verb alone, succeed in every router that
has the same entries for that verb. -/
theorem exists_alone (calls : List (AddCall α)) {r alone : Router α} {v : Verb}
    (htable : alone.table.value v = r.table.value v) :
    ∃ alone', ((r.succeeded calls).map fun call => routesUnder v call.batch).foldlM addRoutes
        alone = .ok alone' ∧
      alone'.table.value v =
        (calls.foldl (fun r call => (r.register call.batch).router) r).table.value v := by
  induction calls generalizing r alone with
  | nil => exact ⟨alone, rfl, htable⟩
  | cons call rest ih =>
    rw [succeeded, List.foldl_cons]
    cases hfailure : (r.register call.batch).failure with
    | some e =>
      rw [register_of_failure (hfailure.trans_ne (Option.some_ne_none e))]
      exact ih htable
    | none =>
      obtain ⟨next, hnext, hentries⟩ :=
        addRoutes_routesUnder (addRoutes_eq_ok_iff.2 ⟨hfailure, rfl⟩) htable
      obtain ⟨alone', halone, hresult⟩ := ih hentries
      refine ⟨alone', ?_, hresult⟩
      rw [Option.isNone_none, if_pos rfl, List.map_cons, List.foldlM_cons, hnext]
      exact halone

/-- What a verb has after a run is what the routes of this verb alone make. -/
theorem sameUnder_alone (v : Verb) (calls : List (AddCall α)) :
    ∃ alone, ((empty.succeeded calls).map fun call => routesUnder v call.batch).foldlM addRoutes
        empty = .ok alone ∧ (after calls).SameUnder v alone := by
  have hempty : (empty : Router α).table.value v = empty.table.value v := rfl
  obtain ⟨alone, halone, htable⟩ := exists_alone calls hempty
  have hbatch := ((foldlM_addRoutes empty_consistent).1 halone).1
  have hconsistent := addRoutes_consistent empty_consistent hbatch
  exact ⟨alone, halone, (after_consistent calls).sameUnder hconsistent htable.symm⟩

/-- Runs that give a verb the same routes by the calls that succeed are the same for the verb. -/
theorem sameUnder_of_routes {v : Verb} {calls calls' : List (AddCall α)}
    (h : (empty.succeeded calls').flatMap (fun call => routesUnder v call.batch) =
      (empty.succeeded calls).flatMap fun call => routesUnder v call.batch) :
    (after calls').SameUnder v (after calls) := by
  obtain ⟨alone, halone, hsame⟩ := sameUnder_alone v calls
  obtain ⟨alone', halone', hsame'⟩ := sameUnder_alone v calls'
  have hbatch := ((foldlM_addRoutes empty_consistent).1 halone).1
  have hbatch' := ((foldlM_addRoutes empty_consistent).1 halone').1
  rw [← List.flatMap_def] at hbatch hbatch'
  rw [h, hbatch] at hbatch'
  cases hbatch'
  exact (after_consistent calls').sameUnder (after_consistent calls)
    (hsame'.entries.trans hsame.entries.symm)

/-- Calls with routes of other verbs leave a verb as it is. -/
theorem sameUnder_of_others {v : Verb} (calls : List (AddCall α))
    {others : List (AddCall α)} (h : ∀ call ∈ others, ∀ route ∈ call.batch, v ∉ route.verbs) :
    (after (calls ++ others)).SameUnder v (after calls) := by
  refine (after_consistent _).sameUnder (after_consistent calls) ?_
  rw [after_concat]
  generalize after calls = r
  induction others generalizing r with
  | nil => rfl
  | cons call rest ih =>
    rw [List.foldl_cons, ih (fun d hd => h d (List.mem_cons_of_mem _ hd)),
      register_of_others r (h call List.mem_cons_self)]

end

/-- Two calls whose routes differ in the order and the repetition of their verbs at most. -/
def AddCall.Alike (call call' : AddCall α) : Prop := List.Forall₂ Route.Alike call.batch call'.batch

theorem register_of_alike [Engine] (r : Router α) {routes routes' : List (Route α)}
    (h : List.Forall₂ Route.Alike routes routes') : r.register routes = r.register routes' := by
  have hchecks : routes.mapM Route.check = routes'.mapM Route.check := by
    induction h with
    | nil => rfl
    | cons hr _ ih => rw [List.mapM_cons, List.mapM_cons, hr.check_eq, ih]
  rw [register, register, hchecks]

theorem after_of_alike [Engine] {calls calls' : List (AddCall α)}
    (h : List.Forall₂ AddCall.Alike calls calls') : after calls = after calls' := by
  rw [after, after]
  generalize empty = r
  induction h generalizing r with
  | nil => rfl
  | cons hcall _ ih =>
    rw [List.foldl_cons, List.foldl_cons, register_of_alike r hcall, ih]

/-- After any run a verb has the entries, the expression and the resolutions of a fresh router that
is given the calls that succeeded, each with its routes of this verb alone, all of which succeed. So
the order and the repetition of verbs do not count, calls with routes of other verbs change nothing
for the verb, and runs are the same for the verb if the calls that succeed have the same routes of
it. -/
theorem verb_on_its_own [Engine] (v : Verb) (calls : List (AddCall α)) :
    (∃ alone, ((empty.succeeded calls).map fun call => routesUnder v call.batch).foldlM addRoutes
        empty = .ok alone ∧ (after calls).SameUnder v alone) ∧
      (∀ calls', List.Forall₂ AddCall.Alike calls calls' → after calls = after calls') ∧
      (∀ others : List (AddCall α), (∀ call ∈ others, ∀ route ∈ call.batch, v ∉ route.verbs) →
        (after (calls ++ others)).SameUnder v (after calls)) ∧
      ∀ calls', (empty.succeeded calls').flatMap (fun call => routesUnder v call.batch) =
          (empty.succeeded calls).flatMap (fun call => routesUnder v call.batch) →
        (after calls').SameUnder v (after calls) :=
  ⟨sameUnder_alone v calls, fun _ => after_of_alike, fun _ => sameUnder_of_others calls,
    fun _ => sameUnder_of_routes⟩

theorem get_on_its_own :
    let calls : List (AddCall String) := [.under .get "/{n:[0-9]+}" "page",
      .routes [⟨[.post, .get, .post], "/{s:}", "slug"⟩, ⟨[.put], "/x", "x"⟩],
      .route [.get] "/\x7b" "broken"]
    let turned : List (AddCall String) := [.route [.get, .get] "/{n:[0-9]+}" "page",
      .routes [⟨[.get, .post], "/{s:}", "slug"⟩, ⟨[.put, .put], "/x", "x"⟩],
      .route [.get] "/\x7b" "broken"]
    let others : List (AddCall String) :=
      [.under .put "/{t:}" "put", .route [.post, .head] "/" "root"]
    let plain : List (AddCall String) :=
      [.under .get "/{n:[0-9]+}" "page", .under .get "/{s:}" "slug"]
    after calls = after turned ∧ (after (calls ++ others)).SameUnder .get (after calls) ∧
      (after plain).SameUnder .get (after calls) ∧
      (after calls).resolve .get "/7" = .ok (some ⟨0, "/{n:[0-9]+}", "page", ⟨[("n", "7")]⟩⟩) := by
  intro calls turned others plain
  obtain ⟨-, hturned, hothers, hplain⟩ := verb_on_its_own .get calls
  have hverbs (verbs verbs' : List Verb) (h : ∀ v ∈ Verb.all, v ∈ verbs ↔ v ∈ verbs')
      (pattern handler : String) :
      Route.Alike ⟨verbs, pattern, handler⟩ ⟨verbs', pattern, handler⟩ :=
    ⟨fun v => h v (Verb.mem_all v), rfl, rfl⟩
  have halike : List.Forall₂ AddCall.Alike calls turned :=
    .cons (.cons (hverbs _ _ (by decide) _ _) .nil)
      (.cons (.cons (hverbs _ _ (by decide) _ _) (.cons (hverbs _ _ (by decide) _ _) .nil))
        (.cons (.cons (hverbs _ _ (by decide) _ _) .nil) .nil))
  exact ⟨hturned turned halike, hothers others (by decide), hplain plain (by decide +kernel),
    by decide +kernel⟩

/-- A route of another verb can make a later call fail that is also one of this verb. -/
example :
    let both : AddCall String := .route [.get, .post] "/a/{(?P<n>x)}" "both"
    (after [both]).routeCount .get = 1 ∧
      (after [.under .post "/b/{(?P<n>x)}" "other", both]).routeCount .get = 0 := by
  decide +kernel

end Router

end HttpRoutes
