import HttpRoutes.Proofs.Route.Numbering
import HttpRoutes.Route.Router

/-!
# Tables and snapshots

A router keeps its routes twice: in a table that grows, and in combined expressions that are built
anew. A batch of routes is staged onto copies of the table, and what is committed is the part of a
copy behind the present entries. The two stay in step (`Router.Consistent`) whatever is registered:
one registration keeps them so, and so does every sequence of them.
-/

namespace HttpRoutes

variable {α : Type}

/-! ## Checked routes -/

theorem Verb.nodup_distinct (verbs : List Verb) : (distinct verbs).Nodup :=
  List.filter_sublist.nodup (by decide)

section

variable [Engine]

/-- A route that passes its check has its own verbs, each once, and a compiled pattern. -/
theorem Route.check_eq_ok {r : Route α} {checked : CheckedRoute α}
    (h : r.check = .ok checked) :
    checked.verbs = Verb.distinct r.verbs ∧ Pattern.compile r.pattern = .ok checked.pattern ∧
      checked.handler = r.handler := by
  simp only [Route.check] at h
  split at h
  · cases h
  · cases hpattern : Pattern.compile r.pattern with
    | error e => rw [hpattern] at h; cases h
    | ok p => rw [hpattern] at h; cases h; exact ⟨rfl, rfl, rfl⟩

/-- A checked route names the verbs that the route names. -/
theorem Route.mem_verbs_of_check {r : Route α} {checked : CheckedRoute α}
    (h : r.check = .ok checked) (v : Verb) : v ∈ checked.verbs ↔ r.verbs.contains v = true := by
  rw [(Route.check_eq_ok h).1, Verb.mem_distinct, List.contains_iff_mem]

/-- What routes need for being staged: their verbs are distinct, and their patterns are compiled. -/
structure CheckedRoute.Sound (r : CheckedRoute α) : Prop where
  verbs : r.verbs.Nodup
  compiled : Pattern.compile r.pattern.text = .ok r.pattern

theorem Route.sound_of_check {r : Route α} {checked : CheckedRoute α}
    (h : r.check = .ok checked) : checked.Sound := by
  obtain ⟨hverbs, hpattern, -⟩ := Route.check_eq_ok h
  exact ⟨hverbs ▸ Verb.nodup_distinct _, by
    rw [(Pattern.compile_eq_ok hpattern).1, hpattern]⟩

end

/-- Every item has been read if a whole list has. -/
theorem forall₂_of_mapM {β γ ε : Type} {f : β → Except ε γ} {items : List β} {results : List γ}
    (h : items.mapM f = .ok results) : List.Forall₂ (fun b c => f b = .ok c) items results := by
  induction items generalizing results with
  | nil => cases h; exact .nil
  | cons b rest ih =>
    rw [List.mapM_cons] at h
    cases hb : f b with
    | error e => rw [hb] at h; cases h
    | ok c =>
      cases hrest : rest.mapM f with
      | error e => rw [hb, hrest] at h; cases h
      | ok later => rw [hb, hrest] at h; cases h; exact .cons hb (ih hrest)

theorem sound_of_mapM_check [Engine] {routes : List (Route α)} {checked : List (CheckedRoute α)}
    (h : routes.mapM Route.check = .ok checked) : ∀ r ∈ checked, r.Sound := by
  have hchecks := forall₂_of_mapM h
  clear h
  induction hchecks with
  | nil => simp
  | cons hr _ ih => exact List.forall_mem_cons.2 ⟨Route.sound_of_check hr, ih⟩

namespace Router

/-! ## Staging -/

/-- The entries that routes add under a verb, the first of which has the index `start`. -/
def entriesUnder (v : Verb) (start : Nat) : List (CheckedRoute α) → List (Entry α)
  | [] => []
  | r :: rest =>
    if v ∈ r.verbs then ⟨r.pattern, r.handler, start⟩ :: entriesUnder v (start + 1) rest
    else entriesUnder v start rest

/-- A verb is staged if there are new entries for it. -/
def stagedOnto (present : List (Entry α)) : List (Entry α) → Option (List (Entry α))
  | [] => none
  | e :: rest => some (present ++ e :: rest)

theorem stagedOnto_getD (present new : List (Entry α)) :
    (stagedOnto present new).getD present = present ++ new := by
  cases new <;> simp [stagedOnto]

theorem stagedOnto_eq_some {present new entries : List (Entry α)} :
    stagedOnto present new = some entries ↔ new ≠ [] ∧ present ++ new = entries := by
  cases new <;> simp [stagedOnto]

theorem stagedOnto_concat (present new : List (Entry α)) (e : Entry α) :
    stagedOnto present (new ++ [e]) = some (present ++ new ++ [e]) := by
  cases new <;> simp [stagedOnto]

/-- Staging one route changes the verbs of the route alone. -/
theorem stageFor_foldl (table : RouteTable α) (r : CheckedRoute α) (staged : Staged α) (v : Verb)
    {verbs : List Verb} (h : verbs.Nodup) :
    (verbs.foldl (stageFor table r) staged).value v =
      if v ∈ verbs then
        let entries := (staged.value v).getD (table.value v)
        some (entries ++ [⟨r.pattern, r.handler, entries.length⟩])
      else staged.value v := by
  induction verbs generalizing staged with
  | nil => rfl
  | cons w rest ih =>
    obtain ⟨hw, hrest⟩ := List.nodup_cons.1 h
    rw [List.foldl_cons, ih _ hrest]
    by_cases hv : v = w
    · subst hv
      simp [hw, stageFor]
    · simp [hv, stageFor]

theorem stage_foldl (table : RouteTable α) {routes : List (CheckedRoute α)}
    (h : ∀ r ∈ routes, r.verbs.Nodup) (v : Verb) {staged : Staged α} {done : List (Entry α)}
    (hstaged : staged.value v = stagedOnto (table.value v) done) :
    (routes.foldl (fun staged r => r.verbs.foldl (stageFor table r) staged) staged).value v =
      stagedOnto (table.value v)
        (done ++ entriesUnder v ((table.value v).length + done.length) routes) := by
  induction routes generalizing staged done with
  | nil => rw [entriesUnder, List.append_nil]; exact hstaged
  | cons r rest ih =>
    have hrest := fun d hd => h d (List.mem_cons_of_mem _ hd)
    have hroute := stageFor_foldl table r staged v (h r List.mem_cons_self)
    rw [hstaged, stagedOnto_getD] at hroute
    rw [List.foldl_cons, entriesUnder]
    split
    · next hv =>
      rw [if_pos hv] at hroute
      -- The new entry is counted among those done, so the next index is one higher.
      rw [ih hrest (hroute.trans (stagedOnto_concat _ _ _).symm)]
      simp [Nat.add_assoc]
    · next hv =>
      rw [if_neg hv] at hroute
      exact ih hrest hroute

/-- What is staged for a verb: its present entries and behind them those of the routes. -/
theorem stage_value (table : RouteTable α) {routes : List (CheckedRoute α)}
    (h : ∀ r ∈ routes, r.verbs.Nodup) (v : Verb) :
    (stage table routes).value v =
      stagedOnto (table.value v) (entriesUnder v (table.value v).length routes) := by
  have hempty : (PerVerb.const none : Staged α).value v = stagedOnto (table.value v) [] := by
    rw [PerVerb.value_const, stagedOnto]
  exact stage_foldl table h v hempty

/-! ## Building and committing -/

/-- Every expression that is built is that of a staged verb. -/
theorem mem_built [Engine] {staged : Staged α} {verbs : List Verb} {c : Combined α}
    (h : c ∈ (rebuild staged verbs).built) :
    ∃ entries, staged.value c.verb = some entries ∧ Combined.build c.verb entries = .ok c := by
  induction verbs with
  | nil => exact absurd h (by simp [rebuild])
  | cons v rest ih =>
    rw [rebuild] at h
    split at h
    · exact ih h
    · next entries hentries =>
      split at h
      · exact absurd h (by simp)
      · next first hfirst =>
        rcases List.mem_cons.1 h with rfl | h
        · obtain ⟨-, rfl, -⟩ := build_eq_ok hfirst
          exact ⟨entries, hentries, hfirst⟩
        · exact ih h

/-- If nothing fails, expressions are built for the staged verbs, in order. -/
theorem verbs_built [Engine] {staged : Staged α} {verbs : List Verb}
    (h : (rebuild staged verbs).failure = none) :
    (rebuild staged verbs).built.map (·.verb) =
      verbs.filter fun v => (staged.value v).isSome := by
  induction verbs with
  | nil => rfl
  | cons v rest ih =>
    rw [rebuild] at h ⊢
    cases hentries : staged.value v with
    | none =>
      rw [hentries] at h
      simpa [hentries] using ih h
    | some entries =>
      rw [hentries] at h
      dsimp only at h ⊢
      cases hbuild : Combined.build v entries with
      | error e => rw [hbuild] at h; cases h
      | ok c =>
        rw [hbuild] at h
        obtain ⟨-, rfl, -⟩ := build_eq_ok hbuild
        simpa [hentries] using ih h

/-- Nothing fails if and only if every staged verb can be combined. -/
theorem failure_rebuild [Engine] {staged : Staged α} {verbs : List Verb} :
    (rebuild staged verbs).failure = none ↔
      ∀ v ∈ verbs, ∀ entries, staged.value v = some entries →
        ∃ c, Combined.build v entries = .ok c := by
  induction verbs with
  | nil => simp [rebuild]
  | cons v rest ih =>
    rw [rebuild, List.forall_mem_cons, ← ih]
    cases hentries : staged.value v with
    | none => simp
    | some entries =>
      cases hbuild : Combined.build v entries with
      | error e => simp [hbuild]
      | ok c => simp [hbuild]

/-- Verbs for which nothing was built stay as they are. -/
theorem commit_of_notMem (staged : Staged α) {built : List (Combined α)} {v : Verb}
    (h : v ∉ built.map (·.verb)) (r : Router α) :
    (built.foldl (commit staged) r).table.value v = r.table.value v ∧
      (built.foldl (commit staged) r).snapshots.value v = r.snapshots.value v := by
  induction built generalizing r with
  | nil => exact ⟨rfl, rfl⟩
  | cons c rest ih =>
    rw [List.map_cons, List.mem_cons, not_or] at h
    obtain ⟨htable, hsnapshots⟩ := ih h.2 (commit staged r c)
    rw [List.foldl_cons, htable, hsnapshots]
    simp [commit, h.1]

/-- A verb for which an expression was built gets its additions and the expression. -/
theorem commit_of_mem (staged : Staged α) {built : List (Combined α)} {c : Combined α}
    (hnodup : (built.map (·.verb)).Nodup) (h : c ∈ built) (r : Router α) :
    (built.foldl (commit staged) r).table.value c.verb =
        r.table.value c.verb ++ additions r.table staged c.verb ∧
      (built.foldl (commit staged) r).snapshots.value c.verb = some c := by
  induction built generalizing r with
  | nil => exact absurd h (by simp)
  | cons first rest ih =>
    rw [List.map_cons, List.nodup_cons] at hnodup
    rw [List.foldl_cons]
    rcases List.mem_cons.1 h with rfl | h
    · obtain ⟨htable, hsnapshots⟩ := commit_of_notMem staged hnodup.1 (commit staged r c)
      rw [htable, hsnapshots]
      simp [commit]
    · have hne : c.verb ≠ first.verb := fun heq =>
        hnodup.1 (heq ▸ List.mem_map_of_mem h)
      obtain ⟨htable, hsnapshots⟩ := ih hnodup.2 h (commit staged r first)
      rw [htable, hsnapshots]
      simp [commit, additions, hne]

/-! ## One registration -/

/-- The entries that a verb has with routes added. -/
def entriesWith (r : Router α) (routes : List (CheckedRoute α)) (v : Verb) : List (Entry α) :=
  r.table.value v ++ entriesUnder v (r.routeCount v) routes

@[simp] theorem routeCount_empty (v : Verb) : (empty : Router α).routeCount v = 0 := by
  simp [empty, routeCount]

@[simp] theorem entriesWith_empty (routes : List (CheckedRoute α)) (v : Verb) :
    empty.entriesWith routes v = entriesUnder v 0 routes := by
  rw [entriesWith, routeCount_empty]
  simp [empty]

theorem staged_eq_some {r : Router α} {routes : List (CheckedRoute α)}
    (hverbs : ∀ d ∈ routes, d.verbs.Nodup) {v : Verb} {entries : List (Entry α)} :
    (stage r.table routes).value v = some entries ↔
      entriesUnder v (r.routeCount v) routes ≠ [] ∧ r.entriesWith routes v = entries := by
  rw [stage_value r.table hverbs, stagedOnto_eq_some]
  rfl

theorem additions_stage {r : Router α} {routes : List (CheckedRoute α)}
    (hverbs : ∀ d ∈ routes, d.verbs.Nodup) (v : Verb) :
    additions r.table (stage r.table routes) v = entriesUnder v (r.routeCount v) routes := by
  rw [additions, stage_value r.table hverbs, routeCount]
  cases entriesUnder v (r.table.value v).length routes <;> simp [stagedOnto]

section

variable [Engine]

theorem failure_registerChecked (r : Router α) (routes : List (CheckedRoute α)) :
    (r.registerChecked routes).failure = (rebuild (stage r.table routes) Verb.all).failure := by
  rw [registerChecked]
  dsimp only
  split <;> next h => rw [h]

/-- A registration that succeeds adds the entries of the routes to the table and builds the
expressions of the verbs that have new ones. -/
theorem registerChecked_of_none {r : Router α} {routes : List (CheckedRoute α)}
    (hverbs : ∀ d ∈ routes, d.verbs.Nodup) (h : (r.registerChecked routes).failure = none)
    (v : Verb) :
    (r.registerChecked routes).router.table.value v = r.entriesWith routes v ∧
      (entriesUnder v (r.routeCount v) routes = [] ∧
          (r.registerChecked routes).router.snapshots.value v = r.snapshots.value v ∨
        entriesUnder v (r.routeCount v) routes ≠ [] ∧ ∃ c,
          (r.registerChecked routes).router.snapshots.value v = some c ∧
          Combined.build v (r.entriesWith routes v) = .ok c) := by
  rw [failure_registerChecked] at h
  have hrouter : (r.registerChecked routes).router =
      (rebuild (stage r.table routes) Verb.all).built.foldl (commit (stage r.table routes)) r := by
    rw [registerChecked]
    dsimp only
    rw [h]
  have hbuilt := verbs_built h
  rw [hrouter]
  -- An expression is built for a verb exactly if it has new entries.
  by_cases hmem : v ∈ (rebuild (stage r.table routes) Verb.all).built.map (·.verb)
  · have hnodup : ((rebuild (stage r.table routes) Verb.all).built.map (·.verb)).Nodup := by
      rw [hbuilt]
      exact List.filter_sublist.nodup (by decide)
    obtain ⟨c, hc, rfl⟩ := List.mem_map.1 hmem
    obtain ⟨htable, hsnapshot⟩ := commit_of_mem (stage r.table routes) hnodup hc r
    obtain ⟨entries, hentries, hbuild⟩ := mem_built hc
    obtain ⟨hnew, rfl⟩ := (staged_eq_some hverbs).1 hentries
    exact ⟨by rw [htable, additions_stage hverbs]; rfl, .inr ⟨hnew, c, hsnapshot, hbuild⟩⟩
  · obtain ⟨htable, hsnapshot⟩ := commit_of_notMem (stage r.table routes) hmem r
    have hnone : entriesUnder v (r.routeCount v) routes = [] := by
      by_contra hnew
      refine hmem ?_
      rw [hbuilt, List.mem_filter, (staged_eq_some hverbs).2 ⟨hnew, rfl⟩]
      exact ⟨Verb.mem_all v, rfl⟩
    exact ⟨by rw [htable, entriesWith, hnone, List.append_nil], .inl ⟨hnone, hsnapshot⟩⟩

/-- A registration succeeds if and only if every verb with new entries can be combined. -/
theorem registerChecked_succeeds {r : Router α} {routes : List (CheckedRoute α)}
    (hverbs : ∀ d ∈ routes, d.verbs.Nodup) :
    (r.registerChecked routes).failure = none ↔
      ∀ v, entriesUnder v (r.routeCount v) routes ≠ [] →
        ∃ c, Combined.build v (r.entriesWith routes v) = .ok c := by
  rw [failure_registerChecked, failure_rebuild]
  constructor
  · intro h v hnew
    exact h v (Verb.mem_all v) _ ((staged_eq_some hverbs).2 ⟨hnew, rfl⟩)
  · intro h v _ entries hentries
    obtain ⟨hnew, rfl⟩ := (staged_eq_some hverbs).1 hentries
    exact h v hnew

/-- A registration that fails leaves the router as it was. -/
theorem register_of_failure {r : Router α} {routes : List (Route α)}
    (h : (r.register routes).failure ≠ none) : (r.register routes).router = r := by
  rw [register] at h ⊢
  split
  · rfl
  · next checked hchecked =>
    rw [hchecked] at h
    dsimp only at h
    rw [registerChecked] at h ⊢
    dsimp only at h ⊢
    split
    · rfl
    · next hnone => rw [hnone] at h; exact absurd rfl h

/-! ## Every sequence of registrations -/

/-- The table and the expressions of a router are in step: the entries of a verb are numbered in
order, and its expression is the one built of them. -/
structure Consistent (r : Router α) : Prop where
  indexed : ∀ v, (r.table.value v).map (·.index) = List.range (r.routeCount v)
  compiled : ∀ v, ∀ e ∈ r.table.value v, Pattern.compile e.pattern.text = .ok e.pattern
  absent : ∀ v, r.table.value v = [] → r.snapshots.value v = none
  built : ∀ v, r.table.value v ≠ [] →
    ∃ c, r.snapshots.value v = some c ∧ Combined.build v (r.table.value v) = .ok c

/-- The index of an entry is its place in the table. -/
theorem Consistent.index {r : Router α} (hr : r.Consistent) {v : Verb} {k : Nat}
    {e : Entry α} (he : (r.table.value v)[k]? = some e) : e.index = k := by
  have hindex : ((r.table.value v).map (·.index))[k]? = some e.index := by
    rw [List.getElem?_map, he]
    rfl
  rw [hr.indexed v] at hindex
  exact (List.getElem_of_getElem? hindex).elim fun hlt heq => by
    rw [← heq, List.getElem_range]

theorem Consistent.index_lt {r : Router α} (hr : r.Consistent) {v : Verb}
    {tried rest : List (Entry α)} (htable : r.table.value v = tried ++ rest) {d : Entry α}
    (hd : d ∈ tried) : d.index < tried.length := by
  obtain ⟨k, hk, rfl⟩ := List.mem_iff_getElem.1 hd
  have hget : (r.table.value v)[k]? = some tried[k] := by
    rw [htable, List.getElem?_append_left hk, List.getElem?_eq_getElem hk]
  rw [hr.index hget]
  exact hk

end

theorem index_entriesUnder (v : Verb) (start : Nat) (routes : List (CheckedRoute α)) :
    (entriesUnder v start routes).map (·.index) =
      List.range' start (entriesUnder v start routes).length := by
  induction routes generalizing start with
  | nil => rfl
  | cons r rest ih =>
    rw [entriesUnder]
    split
    · rw [List.map_cons, ih, List.length_cons, List.range'_succ]
    · exact ih start

theorem exists_of_mem_entriesUnder {v : Verb} {start : Nat} {routes : List (CheckedRoute α)}
    {e : Entry α} (h : e ∈ entriesUnder v start routes) : ∃ r ∈ routes, e.pattern = r.pattern := by
  induction routes generalizing start with
  | nil => exact absurd h (by simp [entriesUnder])
  | cons r rest ih =>
    rw [entriesUnder] at h
    split at h
    · rcases List.mem_cons.1 h with rfl | h
      · exact ⟨r, List.mem_cons_self, rfl⟩
      · obtain ⟨d, hd, he⟩ := ih h
        exact ⟨d, List.mem_cons_of_mem _ hd, he⟩
    · obtain ⟨d, hd, he⟩ := ih h
      exact ⟨d, List.mem_cons_of_mem _ hd, he⟩

theorem empty_consistent [Engine] : (empty : Router α).Consistent where
  indexed v := by rw [routeCount_empty]; simp [empty]
  compiled v := by simp [empty]
  absent v _ := by simp [empty]
  built v h := absurd (by simp [empty]) h

theorem registerChecked_consistent [Engine] {r : Router α} (hr : r.Consistent)
    {routes : List (CheckedRoute α)} (hsound : ∀ d ∈ routes, d.Sound)
    (h : (r.registerChecked routes).failure = none) :
    (r.registerChecked routes).router.Consistent := by
  have hspec := registerChecked_of_none (fun d hd => (hsound d hd).verbs) h
  constructor
  · intro v
    have happend := List.range'_append_1 (s := 0) (m := r.routeCount v)
      (n := (entriesUnder v (r.routeCount v) routes).length)
    rw [Nat.zero_add] at happend
    rw [routeCount, (hspec v).1, entriesWith, List.map_append, hr.indexed, index_entriesUnder,
      List.length_append, List.range_eq_range', List.range_eq_range', happend]
    rfl
  · intro v e he
    rw [(hspec v).1, entriesWith, List.mem_append] at he
    rcases he with he | he
    · exact hr.compiled v e he
    · obtain ⟨d, hd, hpattern⟩ := exists_of_mem_entriesUnder he
      rw [hpattern]
      exact (hsound d hd).compiled
  · intro v hnone
    -- A verb without entries has none added, so its expression is the old one, which is none.
    obtain ⟨htable, ⟨-, hsnapshot⟩ | ⟨hnew, -⟩⟩ := hspec v
    · rw [htable, entriesWith, List.append_eq_nil_iff] at hnone
      rw [hsnapshot, hr.absent v hnone.1]
    · rw [htable, entriesWith, List.append_eq_nil_iff] at hnone
      exact absurd hnone.2 hnew
  · intro v hne
    obtain ⟨htable, ⟨hnew, hsnapshot⟩ | ⟨-, c, hsnapshot, hbuild⟩⟩ := hspec v
    · rw [entriesWith, hnew, List.append_nil] at htable
      rw [htable] at hne ⊢
      rw [hsnapshot]
      exact hr.built v hne
    · exact ⟨c, hsnapshot, by rwa [htable]⟩

/-- One registration, whether it fails or not, keeps the table and the expressions in step. -/
theorem register_consistent [Engine] {r : Router α} (hr : r.Consistent) (routes : List (Route α)) :
    (r.register routes).router.Consistent := by
  by_cases hfailure : (r.register routes).failure = none
  · rw [register] at hfailure ⊢
    split
    · exact hr
    · next checked hchecked =>
      rw [hchecked] at hfailure
      exact registerChecked_consistent hr (sound_of_mapM_check hchecked) hfailure
  · rwa [register_of_failure hfailure]

/-- A call that adds routes: a batch, one route, or one route under a single verb. -/
inductive AddCall (α : Type)
  | routes (batch : List (Route α))
  | route (verbs : List Verb) (pattern : String) (handler : α)
  | under (v : Verb) (pattern : String) (handler : α)

/-- The routes that a call registers. -/
def AddCall.batch : AddCall α → List (Route α)
  | routes batch => batch
  | route verbs pattern handler => [⟨verbs, pattern, handler⟩]
  | under v pattern handler => [⟨[v], pattern, handler⟩]

/-- The router after calls, some of which may have failed. -/
def after [Engine] (calls : List (AddCall α)) : Router α :=
  calls.foldl (fun r call => (r.register call.batch).router) empty

theorem after_concat [Engine] (calls more : List (AddCall α)) : after (calls ++ more) =
    more.foldl (fun r call => (r.register call.batch).router) (after calls) :=
  List.foldl_append

theorem after_consistent [Engine] (calls : List (AddCall α)) : (after calls).Consistent := by
  have hrun (r : Router α) (hr : r.Consistent) :
      (calls.foldl (fun r call => (r.register call.batch).router) r).Consistent := by
    induction calls generalizing r with
    | nil => exact hr
    | cons call rest ih => exact ih _ (register_consistent hr call.batch)
  exact hrun empty empty_consistent

/-- After any calls the entries of a verb are numbered in order, a verb has an expression exactly if
it has entries, and the expression is the one built of them: its alternatives are the entries. -/
theorem snapshots_follow_table [Engine] (calls : List (AddCall α)) (v : Verb) :
    ((after calls).table.value v).map (·.index) = List.range ((after calls).routeCount v) ∧
      (((after calls).snapshot? v).isSome ↔ (after calls).table.value v ≠ []) ∧
      ∀ c, (after calls).snapshot? v = some c →
        Combined.build v ((after calls).table.value v) = .ok c ∧
          c.alternatives.map (·.entry) = (after calls).table.value v ∧
          (after calls).routeCount v = c.alternatives.length := by
  have hrouter := after_consistent calls
  refine ⟨hrouter.indexed v, ?_, fun c hc => ?_⟩
  · by_cases hne : (after calls).table.value v = []
    · simp [snapshot?, hrouter.absent v hne, hne]
    · obtain ⟨c, hc, -⟩ := hrouter.built v hne
      simp [snapshot?, hc, hne]
  · have hne : (after calls).table.value v ≠ [] := by
      intro hnil
      rw [snapshot?, hrouter.absent v hnil] at hc
      cases hc
    obtain ⟨c', hc', hbuild⟩ := hrouter.built v hne
    obtain rfl : c' = c := Option.some.inj (hc'.symm.trans hc)
    obtain ⟨-, -, halternatives⟩ := build_eq_ok hbuild
    have hentries : c'.alternatives.map (·.entry) = (after calls).table.value v := by
      rw [halternatives, entries_alternativesFrom]
    refine ⟨hbuild, hentries, ?_⟩
    rw [routeCount, ← hentries, List.length_map]

theorem snapshots_follow_table_of_pages :
    let calls : List (AddCall String) := [.route [.post, .get, .get] "/a" "first",
      .routes [⟨[.get], "/b", "lost"⟩, ⟨[], "/c", "none"⟩], .under .get "/\x7bn:" "broken",
      .routes [⟨[.get], "/{n:(0|1)+}", "second"⟩]]
    ∃ c, (after calls).snapshot? .get = some c ∧
      Combined.build .get ((after calls).table.value .get) = .ok c ∧
      c.alternatives.map (·.entry.handler) = ["first", "second"] ∧ c.alternatives.length = 2 := by
  intro calls
  obtain ⟨-, hbuilt, hsnapshots⟩ := snapshots_follow_table calls .get
  obtain ⟨c, hc⟩ := Option.isSome_iff_exists.1 (hbuilt.2 (by decide +kernel))
  obtain ⟨hbuild, hentries, hcount⟩ := hsnapshots c hc
  refine ⟨c, hc, hbuild, ?_, hcount.symm.trans (by decide +kernel)⟩
  have hhandlers := congrArg (List.map (·.handler)) hentries
  rw [List.map_map] at hhandlers
  exact hhandlers.trans (by decide +kernel)

end Router

end HttpRoutes
