import Mathlib.Data.List.Flatten
import HttpRoutes.Proofs.Route.Locating

/-!
# Ranges of recorded numbers

Every alternative of a combined expression has a range of numbers: the one recorded for the group
around it, and one for each group of its pattern. `Combined.recorded_in_order` says that the ranges
follow one another from one on without a gap, and that placeholders are numbered in the order of
their declaration inside the ranges of their alternatives. The search for an outer group rests on
that: it finds an alternative by the number recorded for it and by no other. All of this is a matter
of counting and holds whatever numbers the groups have in the expression as it is read.
-/

namespace HttpRoutes

variable {α : Type}

/-- The last number in the range of an alternative. -/
def Alternative.lastGroup (a : Alternative α) : Nat := a.outerGroup + a.entry.pattern.groupCount

/-- The numbers recorded for alternatives and for their placeholders are in order. -/
structure Numbered (alternatives : List (Alternative α)) : Prop where
  /-- The first range starts at one. -/
  first : ∀ a ∈ alternatives.head?, a.outerGroup = 1
  /-- Later alternatives have greater outer groups. -/
  ascending : alternatives.Pairwise fun a b => a.outerGroup < b.outerGroup
  /-- A range ends just in front of the next. -/
  adjacent : alternatives.IsChain fun a b => a.lastGroup + 1 = b.outerGroup
  /-- The group around a placeholder, and those inside it, are in the range of the alternative. -/
  inside : ∀ a ∈ alternatives, ∀ s ∈ a.entry.pattern.slots,
    a.outerGroup < a.outerGroup + s.1 ∧ a.outerGroup + s.1 + s.2.innerGroups ≤ a.lastGroup
  /-- Placeholders that are declared later have greater numbers. -/
  declared : (alternatives.flatMap (·.numbers.2)).Pairwise (· < ·)

/-! ## Placeholders -/

/-- The numbers of placeholders, and of the groups inside them, are among those counted for the
parts. -/
theorem slot_bounds {slot : Nat} {parts : List PatternPart} {s : Nat × Placeholder}
    (h : s ∈ Pattern.slotsFrom slot parts) :
    slot ≤ s.1 ∧ s.1 + s.2.innerGroups < slot + total (parts.map PatternPart.groupCount) := by
  induction parts generalizing slot with
  | nil => cases h
  | cons part rest ih =>
    rw [List.map_cons, total_cons]
    cases part with
    | char c =>
      obtain ⟨hlow, hhigh⟩ := ih h
      rw [PatternPart.groupCount]
      omega
    | placeholder p =>
      rw [PatternPart.groupCount]
      rcases List.mem_cons.1 h with rfl | h
      · dsimp only
        omega
      · obtain ⟨hlow, hhigh⟩ := ih h
        omega

theorem lt_of_mem_numberFrom {before n : Nat} {sizes : List Nat} (h : n ∈ numberFrom before sizes) :
    before < n := by
  induction sizes generalizing before with
  | nil => cases h
  | cons inner rest ih =>
    rcases List.mem_cons.1 h with rfl | h
    · omega
    · have hlow := ih h
      omega

theorem numberFrom_ascending (before : Nat) (sizes : List Nat) :
    (numberFrom before sizes).Pairwise (· < ·) := by
  induction sizes generalizing before with
  | nil => exact .nil
  | cons inner rest ih =>
    refine .cons (fun n hn => ?_) (ih _)
    have hlow := lt_of_mem_numberFrom hn
    omega

namespace Combined

/-- All recorded numbers ascend in the order in which the groups are written. -/
theorem numbers_ascending (before : Nat) (entries : List (Entry α)) :
    ((alternativesFrom (before + 1) entries).flatMap fun a => a.numbers.1 :: a.numbers.2).Pairwise
      (· < ·) := by
  have hflat := flat_entryNumbers Placeholder.innerGroups before entries
  rw [← numbers_alternativesFrom, List.flatMap_map] at hflat
  rw [hflat]
  exact numberFrom_ascending _ _

/-! ## Alternatives -/

/-- Every range ends where the counter of groups stands for the next alternative. -/
theorem alternativesFrom_adjacent (next : Nat) (entries : List (Entry α)) :
    (alternativesFrom next entries).IsChain fun a b => a.lastGroup + 1 = b.outerGroup := by
  induction entries generalizing next with
  | nil => exact .nil
  | cons e rest ih =>
    cases rest with
    | nil => exact .singleton _
    | cons d rest =>
      refine .cons_cons ?_ (ih _)
      show next + e.pattern.groupCount + 1 = next + 1 + e.pattern.groupCount
      omega

theorem alternativesFrom_numbered (entries : List (Entry α)) :
    Numbered (alternativesFrom 1 entries) where
  first := by
    cases entries with
    | nil => simp [alternativesFrom]
    | cons e rest => simp [alternativesFrom]
  ascending := alternativesFrom_ascending 1 entries
  adjacent := alternativesFrom_adjacent 1 entries
  inside := by
    intro a _ s hs
    obtain ⟨hlow, hhigh⟩ := slot_bounds hs
    rw [Alternative.lastGroup, Pattern.groupCount]
    omega
  declared := by
    -- Without the numbers of outer groups, those of placeholders still ascend.
    have hsublist (a : Alternative α) : a.numbers.2.Sublist (a.numbers.1 :: a.numbers.2) :=
      List.sublist_cons_self _ _
    exact (numbers_ascending 0 entries).sublist
      (List.Sublist.flatMap_right _ fun a _ => hsublist a)

/-- The alternatives of a combined expression are its entries in their order, and the recorded
numbers are in order too. An alternative is found by the number recorded for its outer group, and by
any other number nothing is found. -/
theorem recorded_in_order [Engine] {v : Verb} {entries : List (Entry α)} {c : Combined α}
    (hbuild : build v entries = .ok c) :
    c.alternatives.map (·.entry) = entries ∧ Numbered c.alternatives ∧
      ∀ group,
        (∀ i, positionOfGroup? c.alternatives group = some i ↔
          ∃ a, c.alternatives[i]? = some a ∧ a.outerGroup = group) ∧
        (positionOfGroup? c.alternatives group = none ↔
          ∀ a ∈ c.alternatives, a.outerGroup ≠ group) := by
  obtain ⟨-, -, halternatives⟩ := build_eq_ok hbuild
  have hnumbered : Numbered c.alternatives := by
    rw [halternatives]
    exact alternativesFrom_numbered entries
  refine ⟨?_, hnumbered, fun group => ⟨fun i => ?_, ?_⟩⟩
  · rw [halternatives, entries_alternativesFrom]
  · exact positionOfGroup_eq_some_iff hnumbered.ascending
  · exact positionOfGroup_eq_none_iff hnumbered.ascending

/-- A last group that is repeated zero times is not counted, and the recorded numbers are in order
all the same. -/
theorem recorded_in_order_nested :
    let entries : List (Entry String) :=
      [⟨⟨"/p{x:(a){0}}/{y:}", [.char 'p', .placeholder ⟨some "x", "(a){0}", true, 0⟩,
          .char '/', .placeholder ⟨some "y", "\\w+", true, 0⟩]⟩, "first", 0⟩,
        ⟨⟨"/{k:(c|d)(s)?}/{z:}", [.placeholder ⟨some "k", "(c|d)(s)?", true, 2⟩,
          .char '/', .placeholder ⟨some "z", "\\w+", true, 0⟩]⟩, "second", 1⟩,
        ⟨⟨"/q", [.char 'q']⟩, "third", 2⟩]
    (∀ e ∈ entries, Pattern.compile e.pattern.text = .ok e.pattern) ∧
      ∃ c, build .get entries = .ok c ∧ Numbered c.alternatives ∧
        c.alternatives.map Alternative.numbers = [(1, [2, 3]), (4, [5, 8]), (9, [])] ∧
        positionOfGroup? c.alternatives 4 = some 1 ∧ positionOfGroup? c.alternatives 5 = none := by
  intro entries
  obtain ⟨c, hbuild, hnumbers⟩ : ∃ c, build .get entries = .ok c ∧
      c.alternatives.map Alternative.numbers = [(1, [2, 3]), (4, [5, 8]), (9, [])] :=
    exists_of_map_eq_ok (by decide +kernel)
  obtain ⟨-, hnumbered, hfound⟩ := recorded_in_order hbuild
  have halternatives := (build_eq_ok hbuild).2.2
  refine ⟨by decide +kernel, c, hbuild, hnumbered, hnumbers, ?_, ?_⟩
  · refine ((hfound 4).1 1).2 ⟨⟨4, entries[1]⟩, ?_, rfl⟩
    rw [halternatives]
    rfl
  · refine (hfound 5).2.2 ?_
    rw [halternatives]
    decide

end Combined

end HttpRoutes
