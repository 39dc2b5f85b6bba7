import Mathlib.Data.List.Nodup
import HttpRoutes.Proofs.Expression.Outcomes
import HttpRoutes.Proofs.Route.Numbering
import HttpRoutes.Route.Resolution

/-!
# Locating an alternative

The alternative that matched is found by a binary search for the first group that was captured among
the numbers recorded for the groups around alternatives. These ascend, so an alternative is found by
its own number and by no other (`Combined.positionOfGroup_eq_some_iff`). If that is the first number
captured, the alternative is located (`Combined.locate_eq_ok`); if it is another, only a literal one
can be (`Combined.locate_ne_ok`).
-/

namespace HttpRoutes

open Expression

variable {α : Type}

/-! ## Recorded numbers -/

namespace Combined

/-- The numbers recorded for the groups around entries, the first of which is `next`. -/
def outerGroups (next : Nat) : List (Entry α) → List Nat
  | [] => []
  | e :: rest => next :: outerGroups (next + 1 + e.pattern.groupCount) rest

theorem map_outerGroup (next : Nat) (entries : List (Entry α)) :
    (alternativesFrom next entries).map (·.outerGroup) = outerGroups next entries := by
  induction entries generalizing next with
  | nil => rfl
  | cons e rest ih => simp [alternativesFrom, outerGroups, ih]

theorem alternativesFrom_append (next : Nat) (xs ys : List (Entry α)) :
    alternativesFrom next (xs ++ ys) =
      alternativesFrom next xs ++ alternativesFrom (next + groupsOf xs) ys := by
  induction xs generalizing next with
  | nil => rfl
  | cons e rest ih =>
    have hnext : next + 1 + e.pattern.groupCount + groupsOf rest = next + groupsOf (e :: rest) := by
      simp only [groupsOf, List.map_cons, total_cons]
      omega
    rw [List.cons_append, alternativesFrom, ih, alternativesFrom, hnext, List.cons_append]

theorem mem_outerGroups {next n : Nat} {entries : List (Entry α)}
    (h : n ∈ outerGroups next entries) :
    next ≤ n ∧ n < next + groupsOf entries := by
  induction entries generalizing next with
  | nil => exact absurd h (by simp [outerGroups])
  | cons e rest ih =>
    simp only [groupsOf, List.map_cons, total_cons]
    rcases List.mem_cons.1 h with rfl | h
    · omega
    · have hrest := ih h
      simp only [groupsOf] at hrest
      omega

theorem outerGroups_ascending (next : Nat) (entries : List (Entry α)) :
    (outerGroups next entries).Pairwise (· < ·) := by
  induction entries generalizing next with
  | nil => exact .nil
  | cons e rest ih =>
    refine .cons (fun n hn => ?_) (ih _)
    have hbounds := mem_outerGroups hn
    omega

theorem length_outerGroups (next : Nat) (entries : List (Entry α)) :
    (outerGroups next entries).length = entries.length := by
  induction entries generalizing next with
  | nil => rfl
  | cons e rest ih => simp [outerGroups, ih]

theorem outerGroups_append (next : Nat) (xs ys : List (Entry α)) :
    outerGroups next (xs ++ ys) = outerGroups next xs ++ outerGroups (next + groupsOf xs) ys := by
  rw [← map_outerGroup, alternativesFrom_append, List.map_append, map_outerGroup, map_outerGroup]

theorem length_alternativesFrom (next : Nat) (entries : List (Entry α)) :
    (alternativesFrom next entries).length = entries.length := by
  rw [← length_outerGroups next entries, ← map_outerGroup, List.length_map]

theorem getElem_alternativesFrom (next : Nat) (tried rest : List (Entry α)) (e : Entry α) :
    (alternativesFrom next (tried ++ e :: rest))[tried.length]? =
      some ⟨next + groupsOf tried, e⟩ := by
  rw [alternativesFrom_append, ← length_alternativesFrom next tried,
    List.getElem?_append_right le_rfl, Nat.sub_self]
  rfl

theorem alternativesFrom_ascending (next : Nat) (entries : List (Entry α)) :
    (alternativesFrom next entries).Pairwise fun a b => a.outerGroup < b.outerGroup := by
  have hnumbers := outerGroups_ascending next entries
  rwa [← map_outerGroup, List.pairwise_map] at hnumbers

/-! ## The search -/

/-- In an ascending list the search finds what is there. -/
theorem bisect_eq_some {groups : Array Nat}
    (hsorted : ∀ a b, a < b → b < groups.size → groups.getD a 0 < groups.getD b 0)
    {i low high : Nat} (hlow : low ≤ i) (hhigh : i < high) (hsize : high ≤ groups.size) :
    bisect groups (groups.getD i 0) low high = some i := by
  fun_induction bisect groups (groups.getD i 0) low high with
  | case1 low high hlt middle found hfound =>
    have hmiddle : middle < high := by omega
    rcases Nat.lt_trichotomy middle i with hm | hm | hm
    · have := hsorted middle i hm (by omega)
      omega
    · rw [hm]
    · have := hsorted i middle hm (by omega)
      omega
  | case2 low high hlt middle found hne hless ih =>
    refine ih ?_ hhigh hsize
    by_contra hle
    rcases Nat.lt_or_eq_of_le (show i ≤ middle by omega) with hm | rfl
    · have := hsorted i middle hm (by omega)
      omega
    · omega
  | case3 low high hlt middle found hne hless ih =>
    refine ih hlow ?_ (by omega)
    by_contra hle
    rcases Nat.lt_or_eq_of_le (show middle ≤ i by omega) with hm | hm
    · have := hsorted middle i hm (by omega)
      omega
    · exact hne (by rw [← hm])
  | case4 low high hlt => omega

theorem bisect_sound {groups : Array Nat} {group i low high : Nat}
    (h : bisect groups group low high = some i) : groups.getD i 0 = group ∧ i < high := by
  fun_induction bisect groups group low high with
  | case1 low high hlt middle found hfound =>
    rw [← Option.some.inj h]
    exact ⟨hfound, by omega⟩
  | case2 low high hlt middle found hne hless ih => exact ih h
  | case3 low high hlt middle found hne hless ih =>
    obtain ⟨hgroup, hi⟩ := ih h
    exact ⟨hgroup, by omega⟩
  | case4 low high hlt => cases h

/-- What a number locates is an alternative with that number. -/
theorem getElem_of_positionOfGroup {alternatives : List (Alternative α)} {group i : Nat}
    (h : positionOfGroup? alternatives group = some i) :
    ∃ a, alternatives[i]? = some a ∧ a.outerGroup = group := by
  obtain ⟨hgroup, hi⟩ := bisect_sound h
  have hlt : i < alternatives.length := by simpa using hi
  refine ⟨alternatives[i], List.getElem?_eq_getElem hlt, ?_⟩
  simpa [hlt] using hgroup

/-- Where the numbers of the outer groups ascend, an alternative is found by its own. -/
theorem positionOfGroup_of_ascending {alternatives : List (Alternative α)}
    (hascending : alternatives.Pairwise fun a b => a.outerGroup < b.outerGroup) {i : Nat}
    (hi : i < alternatives.length) :
    positionOfGroup? alternatives alternatives[i].outerGroup = some i := by
  have hget {j : Nat} (hj : j < alternatives.length) :
      (alternatives.map (·.outerGroup)).toArray.getD j 0 = alternatives[j].outerGroup := by
    simp [hj]
  rw [positionOfGroup?, ← hget hi]
  refine bisect_eq_some (fun a b hab hb => ?_) (Nat.zero_le _) (by simpa using hi) le_rfl
  have hb' : b < alternatives.length := by simpa using hb
  rw [hget (hab.trans hb'), hget hb']
  exact List.pairwise_iff_getElem.1 hascending a b (hab.trans hb') hb' hab

/-- Where the numbers of the outer groups ascend, an alternative is found by its own number and by
no other. One position at most is right, so it does not matter where the search looks first. -/
theorem positionOfGroup_eq_some_iff {alternatives : List (Alternative α)}
    (hascending : alternatives.Pairwise fun a b => a.outerGroup < b.outerGroup) {group i : Nat} :
    positionOfGroup? alternatives group = some i ↔
      ∃ a, alternatives[i]? = some a ∧ a.outerGroup = group := by
  refine ⟨getElem_of_positionOfGroup, ?_⟩
  rintro ⟨a, ha, rfl⟩
  obtain ⟨hi, rfl⟩ := List.getElem?_eq_some_iff.1 ha
  exact positionOfGroup_of_ascending hascending hi

theorem positionOfGroup_eq_none_iff {alternatives : List (Alternative α)}
    (hascending : alternatives.Pairwise fun a b => a.outerGroup < b.outerGroup) {group : Nat} :
    positionOfGroup? alternatives group = none ↔ ∀ a ∈ alternatives, a.outerGroup ≠ group := by
  rw [Option.eq_none_iff_forall_ne_some]
  constructor
  · intro hnone a ha hgroup
    obtain ⟨i, hi⟩ := List.getElem?_of_mem ha
    exact hnone i ((positionOfGroup_eq_some_iff hascending).2 ⟨a, hi, hgroup⟩)
  · intro hother i hi
    obtain ⟨a, ha, hgroup⟩ := getElem_of_positionOfGroup hi
    exact hother a (List.mem_of_getElem? ha) hgroup

/-- An alternative is found by the number recorded for the group around it. -/
theorem positionOfGroup_eq_some (next : Nat) (tried rest : List (Entry α)) (e : Entry α) :
    positionOfGroup? (alternativesFrom next (tried ++ e :: rest)) (next + groupsOf tried) =
      some tried.length := by
  rw [positionOfGroup_eq_some_iff (alternativesFrom_ascending next _)]
  exact ⟨_, getElem_alternativesFrom next tried rest e, rfl⟩

/-- Nothing is found by the numbers that are not recorded for entries. -/
theorem positionOfGroup_eq_none_iff_notMem {next group : Nat} {entries : List (Entry α)} :
    positionOfGroup? (alternativesFrom next entries) group = none ↔
      group ∉ outerGroups next entries := by
  rw [positionOfGroup_eq_none_iff (alternativesFrom_ascending next entries), ← map_outerGroup,
    List.mem_map]
  exact ⟨fun h ⟨a, ha, hgroup⟩ => h a ha hgroup, fun h a ha hgroup => h ⟨a, ha, hgroup⟩⟩

/-- The first literal pattern that is the path is found. -/
theorem positionOfLiteral_eq_some {path : String} {tried rest : List (Entry α)} {e : Entry α}
    (next : Nat) (hliteral : e.pattern.isLiteral = true) (hpath : e.pattern.literal = path)
    (htried : ∀ d ∈ tried, d.pattern.isLiteral = true → d.pattern.literal ≠ path) :
    positionOfLiteral? (alternativesFrom next (tried ++ e :: rest)) path = some tried.length := by
  have hentries : positionOfLiteral? (alternativesFrom next (tried ++ e :: rest)) path =
      (tried ++ e :: rest).findIdx? fun d => d.pattern.isLiteral && d.pattern.literal = path := by
    rw [← entries_alternativesFrom next (tried ++ e :: rest), List.findIdx?_map,
      entries_alternativesFrom]
    rfl
  have hnone : (tried.findIdx? fun d => d.pattern.isLiteral && d.pattern.literal = path) = none :=
    List.findIdx?_eq_none_iff.2 fun d hd => by simpa using htried d hd
  rw [hentries, List.findIdx?_append, hnone, List.findIdx?_cons]
  simp [hliteral, hpath]

/-! ## Groups that are captured -/

theorem isDefined_iff {m : Expression.Match} {n : Nat} :
    m.isDefined n = true ↔ ∃ x ∈ m.captures, x.group = n := by
  simp [Expression.Match.isDefined, Expression.Match.capture?]

theorem group_shift (k n : Nat) (text : List Char) (captures : List Capture) :
    Expression.Match.group? ⟨text, captures.map (Capture.shift k)⟩ (n + k) =
      Expression.Match.group? ⟨text, captures⟩ n := by
  have hsame : (fun x : Capture => decide (x.group = n + k)) ∘ Capture.shift k =
      fun x => decide (x.group = n) := by
    funext x
    simp [Capture.shift]
  rw [Expression.Match.group?, Expression.Match.capture?, List.find?_map, hsame, Option.map_map]
  rfl

/-- More groups in front make no difference to the values of placeholders. -/
theorem params_shift (k : Nat) (e : Entry α) (text : List Char) (captures : List Capture) :
    params ⟨k + 1, e⟩ ⟨text, captures.map (Capture.shift k)⟩ = params ⟨1, e⟩ ⟨text, captures⟩ := by
  have hgroup (slot : Nat) : Expression.Match.group? ⟨text, captures.map (Capture.shift k)⟩
      (k + 1 + slot) = Expression.Match.group? ⟨text, captures⟩ (1 + slot) := by
    have hslot : k + 1 + slot = 1 + slot + k := by omega
    rw [hslot, group_shift]
  simp only [params, hgroup]

theorem isDefined_shift {k n : Nat} {text : List Char} {captures : List Capture} :
    Expression.Match.isDefined ⟨text, captures.map (Capture.shift k)⟩ n = true ↔
      ∃ x ∈ captures, x.group + k = n := by
  rw [isDefined_iff]
  simp [Capture.shift]

/-- The first group that is captured is the one around the entry that matched. -/
theorem firstGroup_eq_some {c : Combined α} {k : Nat} {text : List Char}
    {captures : List Capture} (hbounds : ∀ x ∈ captures, 1 ≤ x.group)
    (houter : ∃ x ∈ captures, x.group = 1) (htop : k + 1 ≤ c.groupCount) :
    c.firstGroup? ⟨text, captures.map (Capture.shift k)⟩ = some (k + 1) := by
  refine List.find?_range'_eq_some.2 ⟨isDefined_shift.2 ?_, ?_, fun n _ hn => ?_⟩
  · obtain ⟨x, hx, hone⟩ := houter
    exact ⟨x, hx, by omega⟩
  · rw [List.mem_range'_1]
    omega
  · rw [Bool.not_eq_true', ← Bool.not_eq_true, isDefined_shift]
    rintro ⟨x, hx, rfl⟩
    have hle := hbounds x hx
    omega

theorem outerGroups_add (k next : Nat) (entries : List (Entry α)) :
    outerGroups (next + k) entries = (outerGroups next entries).map (· + k) := by
  induction entries generalizing next with
  | nil => rfl
  | cons e rest ih =>
    have hnext : next + k + 1 + e.pattern.groupCount = next + 1 + e.pattern.groupCount + k := by
      omega
    rw [outerGroups, outerGroups, List.map_cons, hnext, ih]

/-- The outer groups that fire: the one of the entry that matched, and those of later entries whose
recorded numbers the groups of the entry have taken. -/
theorem firedGroups_eq {c : Combined α} {tried rest : List (Entry α)} {e : Entry α}
    {text : List Char} {captures : List Capture}
    (halternatives : c.alternatives = alternativesFrom 1 (tried ++ e :: rest))
    (hbounds : ∀ x ∈ captures, 1 ≤ x.group) (houter : ∃ x ∈ captures, x.group = 1) :
    c.firedGroups ⟨text, captures.map (Capture.shift (groupsOf tried))⟩ =
      (1 + groupsOf tried) :: ((outerGroups (2 + e.pattern.groupCount) rest).filter
        (Expression.Match.isDefined ⟨text, captures⟩)).map (· + groupsOf tried) := by
  have hown : ∃ x ∈ captures, x.group + groupsOf tried = 1 + groupsOf tried := by
    obtain ⟨x, hx, hone⟩ := houter
    exact ⟨x, hx, by omega⟩
  -- Numbers recorded in front are too low for what is captured.
  have hbefore : (outerGroups 1 tried).filter (Expression.Match.isDefined
      ⟨text, captures.map (Capture.shift (groupsOf tried))⟩) = [] := by
    refine List.filter_eq_nil_iff.2 fun n hn => ?_
    rw [isDefined_shift]
    rintro ⟨x, hx, rfl⟩
    have hlt := (mem_outerGroups hn).2
    have hle := hbounds x hx
    omega
  have hsame : (Expression.Match.isDefined
      ⟨text, captures.map (Capture.shift (groupsOf tried))⟩) ∘ (· + groupsOf tried) =
        Expression.Match.isDefined ⟨text, captures⟩ := by
    funext n
    rw [Function.comp_apply, Bool.eq_iff_iff, isDefined_shift, isDefined_iff]
    simp
  have hnext : 1 + groupsOf tried + 1 + e.pattern.groupCount =
      2 + e.pattern.groupCount + groupsOf tried := by omega
  rw [firedGroups, halternatives, map_outerGroup, outerGroups_append, List.filter_append, hbefore,
    outerGroups, List.filter_cons_of_pos (isDefined_shift.2 hown), hnext, outerGroups_add,
    List.filter_map, hsame]
  rfl

/-- The alternative that matched is located by the number of the group around it. -/
theorem locate_eq_ok {c : Combined α} {tried rest : List (Entry α)} {e : Entry α}
    {m : Expression.Match} (path : String)
    (halternatives : c.alternatives = alternativesFrom 1 (tried ++ e :: rest))
    (hfirst : c.firstGroup? m = some (1 + groupsOf tried))
    (hfired : c.firedGroups m = [1 + groupsOf tried]) : c.locate m path = .ok tried.length := by
  rw [locate, hfired, hfirst, Option.bind_some, halternatives, positionOfGroup_eq_some]
  rfl

/-! ## Numbers that are wrong -/

/-- An entry is not located by a number that is not recorded for it, unless it is literal and the
number is recorded for no entry. -/
theorem locate_ne_ok {c : Combined α} {tried rest : List (Entry α)} {e : Entry α}
    {m : Expression.Match} {group : Nat} (path : String)
    (halternatives : c.alternatives = alternativesFrom 1 (tried ++ e :: rest))
    (hfirst : c.firstGroup? m = some group) (hgroup : group ≠ 1 + groupsOf tried)
    (hnot : e.pattern.isLiteral = true → group ∈ outerGroups 1 (tried ++ e :: rest)) :
    c.locate m path ≠ .ok tried.length := by
  have hget := getElem_alternativesFrom 1 tried rest e
  rw [← halternatives] at hget
  intro h
  rw [locate, hfirst, Option.bind_some] at h
  split at h
  · cases h
  · cases hpos : positionOfGroup? c.alternatives group with
    | some i =>
      rw [hpos] at h
      cases h
      obtain ⟨a, ha, houter⟩ := getElem_of_positionOfGroup hpos
      rw [hget] at ha
      cases ha
      exact hgroup houter.symm
    | none =>
      have hplaceholders : ¬ e.pattern.isLiteral = true := by
        intro hliteral
        rw [halternatives, positionOfGroup_eq_none_iff_notMem] at hpos
        exact hpos (hnot hliteral)
      rw [hpos, Option.none_or] at h
      cases hlit : positionOfLiteral? c.alternatives path with
      | none => rw [hlit] at h; cases h
      | some i =>
        rw [hlit] at h
        cases h
        obtain ⟨hi, hmatch, -⟩ := List.findIdx?_eq_some_iff_getElem.1 hlit
        rw [List.getElem?_eq_getElem hi] at hget
        rw [Option.some.inj hget, Bool.and_eq_true] at hmatch
        exact hplaceholders hmatch.1

/-- Where the number is recorded for no entry, the path tells which literal entry matched. -/
theorem locate_of_notMem {c : Combined α} {tried rest : List (Entry α)} {e : Entry α}
    {m : Expression.Match} {group : Nat} {path : String}
    (halternatives : c.alternatives = alternativesFrom 1 (tried ++ e :: rest))
    (hfirst : c.firstGroup? m = some group) (hfired : (c.firedGroups m).length ≤ 1)
    (hgroup : group ∉ outerGroups 1 (tried ++ e :: rest)) (hliteral : e.pattern.isLiteral = true)
    (hpath : e.pattern.literal = path)
    (htried : ∀ d ∈ tried, d.pattern.isLiteral = true → d.pattern.literal ≠ path) :
    c.locate m path = .ok tried.length := by
  have hpos : positionOfGroup? c.alternatives group = none := by
    rw [halternatives, positionOfGroup_eq_none_iff_notMem]
    exact hgroup
  rw [locate, if_neg (Nat.not_lt.2 hfired), hfirst, Option.bind_some, hpos, Option.none_or,
    halternatives, positionOfLiteral_eq_some 1 hliteral hpath htried]

/-! ## What is resolved -/

theorem resolve_of_find_none {c : Combined α} {path : String}
    (hfind : c.expression.find? (trimSlashes path) = none) : c.resolve path = .ok none := by
  rw [resolve]
  split
  · rfl
  · simp [hfind]

theorem resolve_ne_none {c : Combined α} {path : String} {m : Expression.Match}
    (hne : c.alternatives ≠ []) (hfind : c.expression.find? (trimSlashes path) = some m) :
    c.resolve path ≠ .ok none := by
  rw [resolve, if_neg (by simpa using hne)]
  dsimp only
  rw [hfind]
  dsimp only
  cases c.locate m (trimSlashes path) with
  | error e => simp
  | ok i =>
    dsimp only
    cases c.alternatives[i]? <;> simp

/-- What is resolved is the route of the alternative that is located. -/
theorem resolve_eq_some {c : Combined α} {path : String} {m : Expression.Match}
    (hfind : c.expression.find? (trimSlashes path) = some m) {r : RouteMatch α} :
    c.resolve path = .ok (some r) ↔
      ∃ i a, c.locate m (trimSlashes path) = .ok i ∧ c.alternatives[i]? = some a ∧
        r = ⟨a.entry.index, a.entry.pattern.text, a.entry.handler, params a m⟩ := by
  rw [resolve]
  constructor
  · intro h
    split at h
    · cases h
    · simp only [hfind] at h
      split at h
      · cases h
      · next i hlocate =>
        split at h
        · cases h
        · next a ha => exact ⟨i, a, hlocate, ha, (Option.some.inj (Except.ok.inj h)).symm⟩
  · rintro ⟨i, a, hlocate, ha, rfl⟩
    have hsome : c.alternatives.isEmpty = false := by
      rw [List.isEmpty_eq_false_iff]
      rintro hnil
      rw [hnil] at ha
      cases ha
    simp only [hsome, Bool.false_eq_true, if_false, hfind, hlocate, ha]

end Combined

end HttpRoutes
