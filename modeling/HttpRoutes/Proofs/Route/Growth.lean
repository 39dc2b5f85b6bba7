import HttpRoutes.Proofs.Route.Values

/-!
# Routers that grow

Registering adds entries behind the present ones and never changes those (`Router.after_append`), so
the first entry that matches a path stays the first. What a path is resolved to stays as well
(`Router.resolved_stays`), as long as no number recorded for a new entry is one that the match has
captured: only an entry that loses the last group of a placeholder can capture such a number.
-/

namespace HttpRoutes

open Expression

variable {α : Type}

namespace Combined

/-! ## New entries behind the others -/

/-- New entries do not disturb a match: the match has captured no number that is recorded for them,
or it has captured one such number alone, which is not its first, and no number of the others. -/
def Undisturbed (c : Combined α) (m : Expression.Match) (added : List (Entry α)) : Prop :=
  let taken := (outerGroups (1 + groupsOf (c.alternatives.map (·.entry))) added).filter m.isDefined
  taken = [] ∨ c.firedGroups m = [] ∧ ∃ n, taken = [n] ∧ c.firstGroup? m ≠ some n

section

variable {entries added : List (Entry α)} {path : String} {i n : Nat}

/-- The number of an entry is found whatever is added. -/
theorem positionOfGroup_append (added : List (Entry α)) (h : n ∈ outerGroups 1 entries) :
    ∃ i, positionOfGroup? (alternativesFrom 1 entries) n = some i ∧
      positionOfGroup? (alternativesFrom 1 (entries ++ added)) n = some i := by
  rw [← map_outerGroup] at h
  obtain ⟨a, ha, hgroup⟩ := List.mem_map.1 h
  obtain ⟨i, hi⟩ := List.getElem?_of_mem ha
  have hi' : (alternativesFrom 1 (entries ++ added))[i]? = some a := by
    rwa [alternativesFrom_append,
      List.getElem?_append_left (List.getElem?_eq_some_iff.1 hi).1]
  refine ⟨i, ?_, ?_⟩
  · exact (positionOfGroup_eq_some_iff (alternativesFrom_ascending 1 _)).2 ⟨a, hi, hgroup⟩
  · exact (positionOfGroup_eq_some_iff (alternativesFrom_ascending 1 _)).2 ⟨a, hi', hgroup⟩

/-- The number of a new entry is found behind the others. -/
theorem position_of_new (hold : n ∉ outerGroups 1 entries)
    (hnew : n ∈ outerGroups (1 + groupsOf entries) added) :
    ∃ j, positionOfGroup? (alternativesFrom 1 (entries ++ added)) n = some j ∧
      entries.length ≤ j := by
  have hmem : n ∈ outerGroups 1 (entries ++ added) := by
    rw [outerGroups_append]
    exact List.mem_append_right _ hnew
  obtain ⟨j, hj, -⟩ := positionOfGroup_append [] hmem
  refine ⟨j, hj, ?_⟩
  obtain ⟨a, ha, rfl⟩ := getElem_of_positionOfGroup hj
  by_contra hlt
  have hi : j < (alternativesFrom 1 entries).length := by
    rw [length_alternativesFrom]
    omega
  rw [alternativesFrom_append, List.getElem?_append_left hi] at ha
  refine hold ?_
  rw [← map_outerGroup]
  exact List.mem_map_of_mem (List.mem_of_getElem? ha)

/-- Other numbers are not found. -/
theorem position_of_other (hold : n ∉ outerGroups 1 entries)
    (hnew : n ∉ outerGroups (1 + groupsOf entries) added) :
    positionOfGroup? (alternativesFrom 1 (entries ++ added)) n = none := by
  rw [positionOfGroup_eq_none_iff_notMem, outerGroups_append, List.mem_append]
  exact not_or.2 ⟨hold, hnew⟩

theorem lt_of_positionOfLiteral
    (h : positionOfLiteral? (alternativesFrom 1 entries) path = some i) : i < entries.length := by
  have hi := (List.findIdx?_eq_some_iff_getElem.1 h).1
  rwa [length_alternativesFrom] at hi

theorem positionOfLiteral_append (added : List (Entry α))
    (h : positionOfLiteral? (alternativesFrom 1 entries) path = some i) :
    positionOfLiteral? (alternativesFrom 1 (entries ++ added)) path = some i := by
  rw [positionOfLiteral?, alternativesFrom_append, List.findIdx?_append]
  rw [positionOfLiteral?] at h
  rw [h]
  rfl

variable {c c' : Combined α} {m : Expression.Match}
  (hc : c.alternatives = alternativesFrom 1 entries)
  (hc' : c'.alternatives = alternativesFrom 1 (entries ++ added))

include hc hc'

theorem firedGroups_append : c'.firedGroups m = c.firedGroups m ++
    (outerGroups (1 + groupsOf (c.alternatives.map (·.entry))) added).filter m.isDefined := by
  rw [firedGroups, firedGroups, hc', hc, map_outerGroup, map_outerGroup, outerGroups_append,
    List.filter_append, entries_alternativesFrom]

/-- What is located stays located exactly if the match is not disturbed. -/
theorem locate_append (hfirst : c.firstGroup? m = some n) (hfirst' : c'.firstGroup? m = some n)
    (hlocate : c.locate m path = .ok i) :
    c'.locate m path = .ok i ↔ c.Undisturbed m added := by
  obtain ⟨hfired, hposition⟩ := locate_iff.1 hlocate
  have hdefined : m.isDefined n = true := (List.find?_some hfirst)
  rw [locate_iff, firedGroups_append hc hc', hfirst', Option.bind_some, Undisturbed, hfirst]
  rw [hfirst, Option.bind_some] at hposition
  have hmem : n ∈ c.firedGroups m ↔ n ∈ outerGroups 1 entries := by
    rw [firedGroups, hc, map_outerGroup, List.mem_filter]
    exact and_iff_left hdefined
  have htaken : n ∈ (outerGroups (1 + groupsOf (c.alternatives.map (·.entry))) added).filter
      m.isDefined ↔ n ∈ outerGroups (1 + groupsOf entries) added := by
    rw [hc, entries_alternativesFrom, List.mem_filter]
    exact and_iff_left hdefined
  generalize (outerGroups (1 + groupsOf (c.alternatives.map (·.entry))) added).filter
    m.isDefined = taken at htaken ⊢
  rw [List.length_append]
  by_cases hown : n ∈ outerGroups 1 entries
  · -- The number is an old one, so it locates what it did before.
    obtain ⟨k, hk, hk'⟩ := positionOfGroup_append added hown
    rw [hc, hk, Option.some_or] at hposition
    rw [hc', hk', Option.some_or, hposition]
    have hpos := List.length_pos_of_mem (hmem.2 hown)
    have hsome : c.firedGroups m ≠ [] := List.ne_nil_of_mem (hmem.2 hown)
    constructor
    · rintro ⟨hle, -⟩
      exact .inl (List.eq_nil_of_length_eq_zero (by omega))
    · rintro (hnone | ⟨hnone, -⟩)
      · rw [hnone]
        exact ⟨hfired, rfl⟩
      · exact absurd hnone hsome
  · have hnone : positionOfGroup? c.alternatives n = none := by
      rw [hc, positionOfGroup_eq_none_iff_notMem]
      exact hown
    rw [hnone, Option.none_or, hc] at hposition
    rw [hc', positionOfLiteral_append added hposition]
    by_cases hnew : n ∈ outerGroups (1 + groupsOf entries) added
    · -- The number is one of a new entry, so the new entry is located.
      obtain ⟨j, hj, hle⟩ := position_of_new hown hnew
      have hlt := lt_of_positionOfLiteral hposition
      rw [hj, Option.some_or, Option.some.injEq]
      refine iff_of_false (fun h => by omega) ?_
      rintro (hnone | ⟨-, k, hk, hne⟩)
      · exact absurd (htaken.2 hnew) (by simp [hnone])
      · rw [hk, List.mem_singleton] at htaken
        exact hne (congrArg some (htaken.2 hnew))
    · rw [position_of_other hown hnew, Option.none_or]
      constructor
      · rintro ⟨hle, -⟩
        rcases Nat.eq_zero_or_pos taken.length with hzero | hpos
        · exact .inl (List.eq_nil_of_length_eq_zero hzero)
        · obtain ⟨k, hk⟩ := List.length_eq_one_iff.1 (show taken.length = 1 by omega)
          refine .inr ⟨List.eq_nil_of_length_eq_zero (by omega), k, hk, ?_⟩
          rintro ⟨⟩
          exact hnew (htaken.1 (by simp [hk]))
      · rintro (hnone | ⟨hnone, k, hk, -⟩)
        · rw [hnone]
          exact ⟨hfired, rfl⟩
        · rw [hnone, hk]
          exact ⟨le_rfl, rfl⟩

end

end Combined

namespace Router

/-! ## Runs -/

section

variable [Engine]

/-- One registration, whether it fails or not, adds entries behind the present ones. -/
theorem register_extends (r : Router α) (routes : List (Route α)) (v : Verb) :
    ∃ added, (r.register routes).router.table.value v = r.table.value v ++ added := by
  by_cases hfailure : (r.register routes).failure = none
  · rw [register] at hfailure ⊢
    split
    · exact ⟨[], (List.append_nil _).symm⟩
    · next checked hchecked =>
      rw [hchecked] at hfailure
      have hverbs := fun d hd => (sound_of_mapM_check hchecked d hd).verbs
      exact ⟨_, (registerChecked_of_none hverbs hfailure v).1⟩
  · rw [register_of_failure hfailure]
    exact ⟨[], (List.append_nil _).symm⟩

/-- Later registrations add entries behind the present ones. -/
theorem after_append (calls more : List (AddCall α)) (v : Verb) :
    ∃ added, (after (calls ++ more)).table.value v = (after calls).table.value v ++ added := by
  have hrun (r : Router α) : ∃ added,
      (more.foldl (fun r call => (r.register call.batch).router) r).table.value v =
        r.table.value v ++ added := by
    induction more generalizing r with
    | nil => exact ⟨[], (List.append_nil _).symm⟩
    | cons call rest ih =>
      obtain ⟨first, hfirst⟩ := register_extends r call.batch v
      obtain ⟨later, hlater⟩ := ih (r.register call.batch).router
      exact ⟨first ++ later, by rw [List.foldl_cons, hlater, hfirst, List.append_assoc]⟩
  rw [after_concat]
  exact hrun (after calls)

/-- Where a path is resolved to nothing, no entry matches it. -/
theorem Consistent.passed_of_none {r : Router α} (hr : r.Consistent) {v : Verb}
    (hverbose : ∀ e ∈ r.table.value v, ∀ p ∈ placeholders e.pattern.parts,
      p.term.turnsOn .verbose = false) {path : String} (h : r.resolve v path = .ok none) :
    ∀ d ∈ r.table.value v, d.matchAlone? (trimSlashes path).toList = none := by
  by_cases hne : r.table.value v = []
  · rw [hne]
    simp
  obtain ⟨c, hsnapshot, hready⟩ := hr.ready hverbose hne
  rw [resolve_of_snapshot hsnapshot] at h
  rcases exists_first (r.table.value v) path with
    hnone | ⟨tried, e, rest, captures, htable, htried, he⟩
  · exact hnone
  · rw [htable] at hready
    have hsome : c.alternatives ≠ [] := by
      rw [hready.alternatives]
      exact List.ne_nil_of_mem
        (List.mem_of_getElem? (Combined.getElem_alternativesFrom 1 tried rest e))
    exact absurd h (Combined.resolve_ne_none hsome (hready.find_of_first htried he).1)

/-- A path that was resolved to nothing can later lead to a new route alone. -/
theorem le_index_of_added {calls more : List (AddCall α)} {v : Verb} {path : String}
    {m : RouteMatch α}
    (hverbose : ∀ e ∈ (after (calls ++ more)).table.value v, ∀ p ∈ placeholders e.pattern.parts,
      p.term.turnsOn .verbose = false)
    (hnone : (after calls).resolve v path = .ok none)
    (hresolve : (after (calls ++ more)).resolve v path = .ok (some m)) :
    (after calls).routeCount v ≤ m.index := by
  obtain ⟨added, hadded⟩ := after_append calls more v
  obtain ⟨c, tried, e, rest, captures, -, htable, hready, htried, he, a, -, hlocate, -⟩ :=
    (after_consistent (calls ++ more)).resolve_eq_some hverbose hresolve
  have hpassed := (after_consistent calls).passed_of_none
    (fun d hd => hverbose d (hadded ▸ List.mem_append_left _ hd)) hnone
  have hle := hready.le_of_locate htried he hlocate
  rw [routeCount]
  -- The first entry that matches is none of the old ones.
  by_contra hlt
  have hget : ((after calls).table.value v)[tried.length]? = some e := by
    have hlt' : tried.length < ((after calls).table.value v).length := by omega
    rw [← List.getElem?_append_left hlt', ← hadded, htable]
    simp
  rw [hpassed e (List.mem_of_getElem? hget)] at he
  cases he

/-- A match that was resolved stays exactly if the entries added do not disturb it. -/
theorem stays_iff {calls more : List (AddCall α)} {v : Verb} {path : String}
    {m : RouteMatch α}
    (hverbose : ∀ e ∈ (after (calls ++ more)).table.value v, ∀ p ∈ placeholders e.pattern.parts,
      p.term.turnsOn .verbose = false)
    (hresolve : (after calls).resolve v path = .ok (some m)) {added : List (Entry α)}
    (hadded : (after (calls ++ more)).table.value v = (after calls).table.value v ++ added) :
    ∃ c found, (after calls).snapshot? v = some c ∧
      c.expression.find? (trimSlashes path) = some found ∧
      ((after (calls ++ more)).resolve v path = .ok (some m) ↔ c.Undisturbed found added) := by
  have hr' := after_consistent (calls ++ more)
  obtain ⟨c, tried, e, rest, captures, hsnapshot, htable, hready, htried, he, a, ha, hlocate, hm⟩ :=
    (after_consistent calls).resolve_eq_some
      (fun d hd => hverbose d (hadded ▸ List.mem_append_left _ hd)) hresolve
  have htable' : (after (calls ++ more)).table.value v = tried ++ e :: (rest ++ added) := by
    rw [hadded, htable, List.append_assoc, List.cons_append]
  obtain ⟨c', hsnapshot', hready'⟩ := hr'.ready hverbose (by rw [htable']; simp)
  rw [htable'] at hready'
  obtain ⟨hfind, hfirst⟩ := hready.find_of_first htried he
  obtain ⟨hfind', hfirst'⟩ := hready'.find_of_first htried he
  refine ⟨c, _, hsnapshot, hfind, ?_⟩
  have halternatives' : c'.alternatives =
      Combined.alternativesFrom 1 ((tried ++ e :: rest) ++ added) := by
    rw [hready'.alternatives, List.append_assoc, List.cons_append]
  rw [← Combined.locate_append hready.alternatives halternatives' hfirst hfirst' hlocate,
    resolve_of_snapshot hsnapshot', Combined.resolve_eq_some hfind']
  constructor
  · rintro ⟨i, a', hlocate', ha', rfl⟩
    have hindex : a'.entry.index = i := by
      refine hr'.index (v := v) ?_
      rw [htable', ← entries_alternativesFrom 1 (tried ++ e :: (rest ++ added)),
        ← hready'.alternatives, List.getElem?_map, ha']
      rfl
    rw [hindex]
    exact hlocate'
  · intro hlocate'
    refine ⟨m.index, a, hlocate', ?_, hm⟩
    obtain ⟨hi, -⟩ := List.getElem?_eq_some_iff.1 ha
    rw [halternatives', Combined.alternativesFrom_append, ← hready.alternatives,
      List.getElem?_append_left hi, ha]

/-- Where the entries up to the one that was resolved keep their last groups, no entry added
disturbs the match. -/
theorem undisturbed_of_kept {calls : List (AddCall α)} {v : Verb} {path : String}
    {m : RouteMatch α}
    (hverbose : ∀ e ∈ (after calls).table.value v, ∀ p ∈ placeholders e.pattern.parts,
      p.term.turnsOn .verbose = false)
    (hresolve : (after calls).resolve v path = .ok (some m))
    (hkept : ∀ d ∈ (after calls).table.value v, d.index ≤ m.index → d.KeepsLastGroups)
    {c : Combined α} {found : Expression.Match} (hsnapshot : (after calls).snapshot? v = some c)
    (hfind : c.expression.find? (trimSlashes path) = some found) (added : List (Entry α)) :
    c.Undisturbed found added := by
  have hr := after_consistent calls
  obtain ⟨c', tried, e, rest, captures, hsnapshot', htable, hready, htried, he, a, -, hlocate,
    hm⟩ := hr.resolve_eq_some hverbose hresolve
  cases hsnapshot.symm.trans hsnapshot'
  cases hfind.symm.trans (hready.find_of_first htried he).1
  have hle := hready.le_of_locate htried he hlocate
  have htriedKept := hr.kept_in_front htable hready htried he hlocate
    fun d hd hlt => hkept d hd (Nat.le_of_lt hlt)
  have hownKept : e.KeepsLastGroups := by
    have hindex : e.index = tried.length := hr.index (v := v) (by simp [htable])
    exact hkept e (by simp [htable]) (by omega)
  have hopened := (openedBy_eq_iff fun d hd =>
    hready.checked d (List.mem_append_left _ hd)).2 htriedKept
  have hown := (groupCount_eq_opened_iff (hready.checked e (by simp))).2 hownKept
  -- The groups of `e` end in front of every number that can be recorded for a new entry.
  refine .inl (List.filter_eq_nil_iff.2 fun n hn => ?_)
  rw [Combined.isDefined_shift]
  rintro ⟨x, hx, rfl⟩
  have hbound := (captures_bounds (hready.emits e (by simp)) he hx).2
  have hnumber := (Combined.mem_outerGroups hn).1
  rw [hready.alternatives, entries_alternativesFrom] at hnumber
  simp only [Combined.groupsOf, List.map_append, List.map_cons, total_append, total_cons]
    at hnumber hopened
  omega

end

/-- Whatever is registered later, a path that was resolved to nothing can lead to a new route alone,
and a path that was resolved to a match keeps the match exactly if the new entries do not disturb
it; they do not if the routes up to the one that matched keep their last groups. No placeholder
turns on verbose mode. -/
theorem resolved_stays [Engine] (calls more : List (AddCall α)) {v : Verb} {path : String}
    (hverbose : ∀ e ∈ (after (calls ++ more)).table.value v, ∀ p ∈ placeholders e.pattern.parts,
      p.term.turnsOn .verbose = false) :
    ((after calls).resolve v path = .ok none → ∀ m,
      (after (calls ++ more)).resolve v path = .ok (some m) →
        (after calls).routeCount v ≤ m.index) ∧
    ∀ m, (after calls).resolve v path = .ok (some m) →
      ((∀ d ∈ (after calls).table.value v, d.index ≤ m.index → d.KeepsLastGroups) →
        (after (calls ++ more)).resolve v path = .ok (some m)) ∧
      ∃ c found, (after calls).snapshot? v = some c ∧
        c.expression.find? (trimSlashes path) = some found ∧
        ((after (calls ++ more)).resolve v path = .ok (some m) ↔ c.Undisturbed found
          (((after (calls ++ more)).table.value v).drop ((after calls).routeCount v))) := by
  obtain ⟨added, hadded⟩ := after_append calls more v
  have hdrop : ((after (calls ++ more)).table.value v).drop ((after calls).routeCount v) =
      added := by
    rw [hadded, routeCount, List.drop_left]
  refine ⟨fun hnone m hresolve => le_index_of_added hverbose hnone hresolve, fun m hresolve => ?_⟩
  obtain ⟨c, found, hsnapshot, hfind, hiff⟩ := stays_iff hverbose hresolve hadded
  refine ⟨fun hkept => ?_, c, found, hsnapshot, hfind, hdrop ▸ hiff⟩
  exact hiff.2 (undisturbed_of_kept (fun d hd => hverbose d (hadded ▸ List.mem_append_left _ hd))
    hresolve hkept hsnapshot hfind added)

theorem resolved_page_stays :
    let calls : List (AddCall String) := [.under .get "/{n:(2){0}(0|1)+}" "page"]
    let more : List (AddCall String) :=
      [.routes [⟨[.get, .post], "/{s:}", "slug"⟩, ⟨[.get], "/1", "one"⟩], .route [] "/" "none"]
    let m : RouteMatch String := ⟨0, "/{n:(2){0}(0|1)+}", "page", ⟨[("n", "1")]⟩⟩
    (after calls).resolve .get "/1" = .ok (some m) ∧
      (after (calls ++ more)).resolve .get "/1" = .ok (some m) ∧
      (after calls).resolve .get "/a" = .ok none ∧
      ∀ m, (after (calls ++ more)).resolve .get "/a" = .ok (some m) → 1 ≤ m.index := by
  intro calls more m
  have hverbose : ∀ e ∈ (after (calls ++ more)).table.value .get,
      ∀ p ∈ placeholders e.pattern.parts, p.term.turnsOn .verbose = false := by decide +kernel
  have hresolve : (after calls).resolve .get "/1" = .ok (some m) := by decide +kernel
  have hnone : (after calls).resolve .get "/a" = .ok none := by decide +kernel
  obtain ⟨-, hkept⟩ := resolved_stays calls more hverbose
  obtain ⟨hstays, -⟩ := hkept m hresolve
  have hcount : (after calls).routeCount .get = 1 := by decide +kernel
  refine ⟨hresolve, hstays (by decide +kernel), hnone, fun m' hm' => ?_⟩
  rw [← hcount]
  exact (resolved_stays calls more hverbose).1 hnone m' hm'

/-- Behind a group that is repeated zero times a new route can take a path away. -/
theorem resolved_can_change :
    let calls : List (AddCall String) :=
      [.under .get "/{(a){0}}" "first", .under .get "/b" "second"]
    let more : List (AddCall String) := [.under .get "/c" "third"]
    (∀ e ∈ (after (calls ++ more)).table.value .get, ∀ p ∈ placeholders e.pattern.parts,
        p.term.turnsOn .verbose = false) ∧
      (after calls).resolve .get "/b" = .ok (some ⟨1, "/b", "second", .empty⟩) ∧
      (after (calls ++ more)).resolve .get "/b" = .ok (some ⟨2, "/c", "third", .empty⟩) := by
  decide +kernel

end Router

end HttpRoutes
