import HttpRoutes.Expression.Estimate
import HttpRoutes.Proofs.Route.Source

/-!
# The numbers of groups in a combined expression

A combined expression records, while it is built, how many groups it has and which of them stand
around its alternatives and around the placeholders in them. A group in a repetition of zero times
is lost, and how many groups a placeholder contains is taken from the highest number that is left,
so groups go uncounted exactly if the last one is lost. `build_numbers` says when the records agree
with the expression as it is read: if no placeholder in front of another group loses its last group.
What a placeholder contains must read alike inside parentheses.
-/

namespace HttpRoutes

open Expression

variable {α : Type}

/-! ## Numbers read and numbers recorded -/

namespace Expression.Term

/-- The parts of a sequence. -/
def parts : Term → List Term
  | .empty => []
  | .seq first rest => first :: rest.parts
  | t => [t]

/-- The branches of an alternation. -/
def branches : Term → List Term
  | .alt first rest => first :: rest.branches
  | t => [t]

/-- The number of a group that captures. -/
def index? : Term → Option Nat
  | .capture index _ _ => some index
  | _ => none

/-- The number of a group, with the numbers of the groups that are parts of what is in it. -/
def wrapping? : Term → Option (Nat × List Nat)
  | .capture index _ body => some (index, body.parts.filterMap index?)
  | _ => none

/-- In an alternation between anchors, the numbers of the groups around the alternatives, each with
the numbers of the groups around its placeholders. -/
def numbers : Term → List (Nat × List Nat)
  | .seq _ (.seq (.scoped _ alternatives) _) => alternatives.branches.filterMap wrapping?
  | _ => []

end Expression.Term

/-- The recorded number of the group around an alternative, with those of the groups around its
placeholders. -/
def Alternative.numbers (a : Alternative α) : Nat × List Nat :=
  (a.outerGroup, a.entry.pattern.slots.map fun s => a.outerGroup + s.1)

/-- The last group of the placeholder's expression, if it has groups, does not stand in a repetition
of zero times. -/
def Placeholder.KeepsLastGroup (p : Placeholder) : Prop :=
  ∀ n ∈ p.term.groups.getLast?, n ∈ p.term.keptGroups

instance (p : Placeholder) : Decidable p.KeepsLastGroup :=
  inferInstanceAs (Decidable (∀ n ∈ p.term.groups.getLast?, n ∈ p.term.keptGroups))

/-- The placeholders among parts. -/
def placeholders : List PatternPart → List Placeholder
  | [] => []
  | .char _ :: rest => placeholders rest
  | .placeholder p :: rest => p :: placeholders rest

/-- The groups written around an entry and around its placeholders, in order. -/
def Entry.written (e : Entry α) : List (Option Placeholder) :=
  none :: (placeholders e.pattern.parts).map some

/-- The placeholders behind which another group is written. -/
def Followed (entries : List (Entry α)) (p : Placeholder) : Prop :=
  some p ∈ (entries.flatMap Entry.written).dropLast

/-! ## Numbering by sizes -/

section Sizes

variable (size size' : Placeholder → Nat)

/-- Number the groups around placeholders, given how many groups each has inside. -/
def slotNumbers (before : Nat) : List PatternPart → List Nat
  | [] => []
  | .char _ :: rest => slotNumbers before rest
  | .placeholder p :: rest => (before + 1) :: slotNumbers (before + (size p + 1)) rest

/-- How many groups the parts have. -/
def countGroups (parts : List PatternPart) : Nat := total ((placeholders parts).map (size · + 1))

/-- Number the groups around entries and placeholders. -/
def entryNumbers (before : Nat) : List (Entry α) → List (Nat × List Nat)
  | [] => []
  | e :: rest => (before + 1, slotNumbers size (before + 1) e.pattern.parts) ::
      entryNumbers (before + (1 + countGroups size e.pattern.parts)) rest

/-- Number groups, given how many groups each has inside that are not numbered here. -/
def numberFrom (before : Nat) : List Nat → List Nat
  | [] => []
  | inner :: rest => (before + 1) :: numberFrom (before + (inner + 1)) rest

theorem numberFrom_cons (before inner : Nat) (rest : List Nat) :
    numberFrom before (inner :: rest) =
      (before + 1) :: numberFrom (before + (inner + 1)) rest := rfl

theorem numberFrom_append (before : Nat) (xs ys : List Nat) :
    numberFrom before (xs ++ ys) =
      numberFrom before xs ++ numberFrom (before + total (xs.map (· + 1))) ys := by
  induction xs generalizing before with
  | nil => simp [numberFrom]
  | cons x xs ih => simp [numberFrom, ih, Nat.add_assoc]

/-- The numbers depend on the sizes of all groups but the last. -/
theorem numberFrom_eq_iff {xs ys : List Nat} (hlen : xs.length = ys.length) (before : Nat) :
    numberFrom before xs = numberFrom before ys ↔ xs.dropLast = ys.dropLast := by
  induction xs generalizing ys before with
  | nil => cases ys with
    | nil => simp
    | cons y ys => simp at hlen
  | cons x xs ih =>
    cases ys with
    | nil => simp at hlen
    | cons y ys =>
      cases xs with
      | nil =>
        obtain rfl : ys = [] := List.eq_nil_of_length_eq_zero (by simpa using hlen.symm)
        simp [numberFrom]
      | cons x' xs =>
        cases ys with
        | nil => simp at hlen
        | cons y' ys =>
          have hlen' : (x' :: xs).length = (y' :: ys).length := by simpa using hlen
          rw [List.dropLast_cons_cons, List.dropLast_cons_cons, List.cons.injEq]
          constructor
          · intro h
            -- The second number tells how many groups the first has inside.
            have hxy : x = y := by
              simp only [numberFrom, List.cons.injEq] at h
              omega
            subst hxy
            exact ⟨rfl, (ih hlen' _).1 (List.cons.inj h).2⟩
          · rintro ⟨rfl, h⟩
            exact congrArg ((before + 1) :: ·) ((ih hlen' _).2 h)

/-- The size of a written group. -/
def writtenSize (w : Option Placeholder) : Nat := w.elim 0 size

theorem slotNumbers_eq (before : Nat) (parts : List PatternPart) :
    slotNumbers size before parts = numberFrom before ((placeholders parts).map size) := by
  induction parts generalizing before with
  | nil => rfl
  | cons part rest ih => cases part <;> simp [slotNumbers, placeholders, numberFrom, ih]

/-- All numbers of entries in a row. -/
theorem flat_entryNumbers (before : Nat) (entries : List (Entry α)) :
    (entryNumbers size before entries).flatMap (fun n => n.1 :: n.2) =
      numberFrom before ((entries.flatMap Entry.written).map (writtenSize size)) := by
  induction entries generalizing before with
  | nil => rfl
  | cons e rest ih =>
    have hsum : ((placeholders e.pattern.parts).map size).map (· + 1) =
        (placeholders e.pattern.parts).map (size · + 1) := by rw [List.map_map]; rfl
    have hwritten : (Entry.written e).map (writtenSize size) =
        0 :: (placeholders e.pattern.parts).map size := by
      rw [Entry.written, List.map_cons, List.map_map]
      rfl
    rw [entryNumbers, List.flatMap_cons, ih, List.flatMap_cons, List.map_append, hwritten,
      List.cons_append, List.cons_append, numberFrom_cons, numberFrom_append, hsum, slotNumbers_eq,
      countGroups, Nat.zero_add, Nat.add_assoc]

theorem shape_entryNumbers (before : Nat) (entries : List (Entry α)) :
    (entryNumbers size before entries).map (·.2.length) =
      entries.map fun e => (placeholders e.pattern.parts).length := by
  have hlength (before : Nat) (sizes : List Nat) :
      (numberFrom before sizes).length = sizes.length := by
    induction sizes generalizing before with
    | nil => rfl
    | cons x xs ih => simp [numberFrom, ih]
  induction entries generalizing before with
  | nil => rfl
  | cons e rest ih => simp [entryNumbers, slotNumbers_eq, hlength, ih]

/-- Lists of one shape with the same numbers in a row are the same. -/
theorem eq_of_flat_eq {xs ys : List (Nat × List Nat)}
    (hshape : xs.map (·.2.length) = ys.map (·.2.length))
    (h : xs.flatMap (fun n => n.1 :: n.2) = ys.flatMap fun n => n.1 :: n.2) : xs = ys := by
  induction xs generalizing ys with
  | nil => exact (List.map_eq_nil_iff.1 hshape.symm).symm
  | cons x xs ih =>
    cases ys with
    | nil => exact absurd hshape (by simp)
    | cons y ys =>
      rw [List.map_cons, List.map_cons, List.cons.injEq] at hshape
      rw [List.flatMap_cons, List.flatMap_cons] at h
      obtain ⟨hhead, htail⟩ := List.append_inj h (by simp [hshape.1])
      rw [ih hshape.2 htail, Prod.ext_iff.2 (List.cons.inj hhead)]

/-- The numbers depend on the sizes of the placeholders behind which a group is written. -/
theorem entryNumbers_eq_iff (before : Nat) (entries : List (Entry α)) :
    entryNumbers size before entries = entryNumbers size' before entries ↔
      ∀ p, Followed entries p → size p = size' p := by
  -- In a row the numbers are sums of the sizes in front, and the shape does not depend on sizes.
  have hflat : entryNumbers size before entries = entryNumbers size' before entries ↔
      (entryNumbers size before entries).flatMap (fun n => n.1 :: n.2) =
        (entryNumbers size' before entries).flatMap fun n => n.1 :: n.2 :=
    ⟨fun h => by rw [h], eq_of_flat_eq (by rw [shape_entryNumbers, shape_entryNumbers])⟩
  rw [hflat, flat_entryNumbers, flat_entryNumbers, numberFrom_eq_iff (by simp), ← List.map_dropLast,
    ← List.map_dropLast, List.map_inj_left]
  refine ⟨fun h p hp => h (some p) hp, fun h w hw => ?_⟩
  cases w with
  | none => rfl
  | some p => exact h p hw

end Sizes

/-! ## The numbers of an expression -/

namespace Expression.Term

theorem parts_ofParts {ts : List Term} (h : ∀ t ∈ ts, t.parts = [t]) : (ofParts ts).parts = ts := by
  induction ts with
  | nil => rfl
  | cons t rest ih =>
    cases rest with
    | nil => exact h t List.mem_cons_self
    | cons next rest =>
      have hi := ih fun t ht => h t (List.mem_cons_of_mem _ ht)
      rw [ofParts, parts, hi]
      exact List.cons_ne_nil _ _

theorem branches_ofBranches {ts : List Term} (hne : ts ≠ []) (h : ∀ t ∈ ts, t.branches = [t]) :
    (ofBranches ts).branches = ts := by
  induction ts with
  | nil => exact absurd rfl hne
  | cons t rest ih =>
    cases rest with
    | nil => exact h t List.mem_cons_self
    | cons next rest =>
      have hi := ih (List.cons_ne_nil _ _) fun t ht => h t (List.mem_cons_of_mem _ ht)
      rw [ofBranches, branches, hi]
      exact List.cons_ne_nil _ _

end Expression.Term

/-- How many groups a placeholder's expression opens. -/
def Placeholder.openedInside (p : Placeholder) : Nat := p.term.groups.length

theorem parts_of_mem_partTerms {before : Nat} {parts : List PatternPart} {t : Term}
    (h : t ∈ partTerms before parts) : t.parts = [t] := by
  induction parts generalizing before with
  | nil => exact absurd h (by simp [partTerms])
  | cons part rest ih =>
    rcases List.mem_cons.1 h with rfl | h
    · cases part <;> rfl
    · exact ih h

theorem indices_partTerms (before : Nat) (parts : List PatternPart) :
    (Term.ofParts (partTerms before parts)).parts.filterMap Term.index? =
      slotNumbers Placeholder.openedInside before parts := by
  rw [Term.parts_ofParts fun _ => parts_of_mem_partTerms]
  induction parts generalizing before with
  | nil => rfl
  | cons part rest ih =>
    cases part with
    | char c => exact ih before
    | placeholder p => exact congrArg ((before + 1) :: ·) (ih _)

theorem opened_eq_countGroups (parts : List PatternPart) :
    total (parts.map PatternPart.opened) = countGroups Placeholder.openedInside parts := by
  induction parts with
  | nil => rfl
  | cons part rest ih =>
    cases part <;>
      simp [PatternPart.opened, countGroups, placeholders, Placeholder.openedInside, ih]

theorem branches_of_mem_entryTerms {before : Nat} {entries : List (Entry α)} {t : Term}
    (h : t ∈ entryTerms before entries) : t.branches = [t] := by
  induction entries generalizing before with
  | nil => exact absurd h (by simp [entryTerms])
  | cons e rest ih =>
    rcases List.mem_cons.1 h with rfl | h
    · rfl
    · exact ih h

/-- The numbers of a combined expression as it is read. -/
theorem numbers_combinedTerm (entries : List (Entry α)) :
    (combinedTerm entries).numbers = entryNumbers Placeholder.openedInside 0 entries := by
  have hwrapping (before : Nat) (entries : List (Entry α)) :
      (entryTerms before entries).filterMap Term.wrapping? =
        entryNumbers Placeholder.openedInside before entries := by
    induction entries generalizing before with
    | nil => rfl
    | cons e rest ih =>
      rw [entryTerms, entryNumbers, List.filterMap_cons_some, ih, Entry.opened,
        opened_eq_countGroups]
      rw [Entry.termAfter, Term.wrapping?, indices_partTerms]
  cases entries with
  | nil => rfl
  | cons e rest =>
    have hne : entryTerms 0 (e :: rest) ≠ [] := List.cons_ne_nil _ _
    rw [combinedTerm, Term.numbers,
      Term.branches_ofBranches hne fun _ => branches_of_mem_entryTerms]
    exact hwrapping 0 (e :: rest)

theorem numbers_slotsFrom (outer slot : Nat) (parts : List PatternPart) :
    (Pattern.slotsFrom (slot + 1) parts).map (fun s => outer + s.1) =
      slotNumbers Placeholder.innerGroups (outer + slot) parts := by
  induction parts generalizing slot with
  | nil => rfl
  | cons part rest ih =>
    cases part with
    | char c => exact ih slot
    | placeholder p =>
      have hnext : slot + 1 + 1 + p.innerGroups = slot + (p.innerGroups + 1) + 1 := by omega
      rw [Pattern.slotsFrom, List.map_cons, hnext, ih, slotNumbers, Nat.add_assoc, Nat.add_assoc]

theorem groupCount_eq_countGroups (p : Pattern) :
    p.groupCount = countGroups Placeholder.innerGroups p.parts := by
  rw [Pattern.groupCount]
  induction p.parts with
  | nil => rfl
  | cons part rest ih =>
    cases part <;> simp [PatternPart.groupCount, countGroups, placeholders, ih]

/-- The numbers recorded for alternatives. -/
theorem numbers_alternativesFrom (before : Nat) (entries : List (Entry α)) :
    (Combined.alternativesFrom (before + 1) entries).map Alternative.numbers =
      entryNumbers Placeholder.innerGroups before entries := by
  induction entries generalizing before with
  | nil => rfl
  | cons e rest ih =>
    have hnext : before + 1 + 1 + e.pattern.groupCount =
        before + (1 + countGroups Placeholder.innerGroups e.pattern.parts) + 1 := by
      rw [groupCount_eq_countGroups]
      omega
    rw [Combined.alternativesFrom, List.map_cons, hnext, ih, entryNumbers, Alternative.numbers,
      Pattern.slots, numbers_slotsFrom _ 0]

/-! ## The count of groups -/

theorem keptGroups_shift (d : Nat) (t : Term) :
    (t.shift d).keptGroups = t.keptGroups.map (· + d) := by
  induction t with
  | repetition min max greedy body ih =>
    rw [Term.shift, Term.keptGroups, Term.keptGroups, ih]
    split <;> rfl
  | capture index name body ih =>
    rw [Term.shift, Term.keptGroups, Term.keptGroups, ih, List.map_cons]
  | «scoped» settings body ih => exact ih
  | seq first rest ih₁ ih₂ | alt first rest ih₁ ih₂ =>
    rw [Term.shift, Term.keptGroups, Term.keptGroups, ih₁, ih₂, List.map_append]
  | _ => rfl

/-- The groups that are kept of what is written behind `before` groups: the one around it and those
inside. -/
def keptFrom (before : Nat) : List (Option Placeholder) → List Nat
  | [] => []
  | w :: rest =>
    (before + 1) :: ((w.elim [] (·.term.keptGroups)).map (· + (before + 1)) ++
      keptFrom (before + (writtenSize Placeholder.openedInside w + 1)) rest)

theorem keptFrom_append (before : Nat) (xs ys : List (Option Placeholder)) :
    keptFrom before (xs ++ ys) = keptFrom before xs ++
      keptFrom (before + total (xs.map (writtenSize Placeholder.openedInside · + 1))) ys := by
  induction xs generalizing before with
  | nil => simp [keptFrom]
  | cons x xs ih => simp [keptFrom, ih, Nat.add_assoc]

theorem keptGroups_partTerms (before : Nat) {parts : List PatternPart}
    (h : ∀ p, .placeholder p ∈ parts → p.Emits) :
    (partTerms before parts).flatMap Term.keptGroups =
      keptFrom before ((placeholders parts).map some) := by
  induction parts generalizing before with
  | nil => rfl
  | cons part rest ih =>
    have hrest := ih (before + part.opened) fun p hp => h p (List.mem_cons_of_mem _ hp)
    rw [partTerms, List.flatMap_cons, hrest]
    cases part with
    | char c => rfl
    | placeholder p =>
      rw [PatternPart.termAfter, Term.keptGroups, keptGroups_shift,
        (h p List.mem_cons_self).keptGroups]
      rfl

/-- The groups that a combined expression keeps. -/
theorem keptGroups_combinedTerm {entries : List (Entry α)}
    (h : ∀ e ∈ entries, e.pattern.Emits) :
    (combinedTerm entries).keptGroups = keptFrom 0 (entries.flatMap Entry.written) := by
  have hentries (before : Nat) : (entryTerms before entries).flatMap Term.keptGroups =
      keptFrom before (entries.flatMap Entry.written) := by
    induction entries generalizing before with
    | nil => rfl
    | cons e rest ih =>
      have hrest := ih (fun e' he' => h e' (List.mem_cons_of_mem _ he')) (before + e.opened)
      have hopened : e.opened =
          total ((Entry.written e).map (writtenSize Placeholder.openedInside · + 1)) := by
        rw [Entry.opened, opened_eq_countGroups, countGroups, Entry.written, List.map_cons,
          total_cons, List.map_map]
        rfl
      rw [entryTerms, List.flatMap_cons, hrest, List.flatMap_cons, keptFrom_append, ← hopened,
        Entry.termAfter, Term.keptGroups, Term.keptGroups_ofParts,
        keptGroups_partTerms _ (h e List.mem_cons_self)]
      rfl
  rw [← hentries]
  simp [combinedTerm, Term.keptGroups, Term.keptGroups_ofBranches]

/-- The last group that is kept lies in what is written last. -/
theorem last_keptFrom (before : Nat) {ws : List (Option Placeholder)}
    (h : ∀ p, some p ∈ ws → p.Checked) : (keptFrom before ws).getLastD before =
      before + (total (ws.dropLast.map (writtenSize Placeholder.openedInside · + 1)) +
        total (ws.getLast?.toList.map (writtenSize Placeholder.innerGroups · + 1))) := by
  induction ws generalizing before with
  | nil => rfl
  | cons w rest ih =>
    cases rest with
    | nil =>
      have hinside : (w.elim [] (·.term.keptGroups)).getLastD 0 =
          writtenSize Placeholder.innerGroups w := by
        cases w with
        | none => rfl
        | some p => exact (h p List.mem_cons_self).last
      have hshift (numbers : List Nat) : (numbers.map (· + (before + 1))).getLastD (before + 1) =
          numbers.getLastD 0 + (before + 1) := by
        rw [List.getLastD_eq_getLast?, List.getLast?_map, List.getLastD_eq_getLast?]
        cases numbers.getLast? <;> simp
      rw [keptFrom, keptFrom, List.append_nil, List.getLastD_cons, hshift, hinside]
      show _ = before + (0 + (writtenSize Placeholder.innerGroups w + 1 + 0))
      omega
    | cons next rest =>
      have hrest := ih (before + (writtenSize Placeholder.openedInside w + 1))
        fun p hp => h p (List.mem_cons_of_mem _ hp)
      -- More is written behind, so what is kept of `w` is not last.
      rw [keptFrom, List.getLastD_cons, List.getLastD_eq_getLast?, List.getLast?_append]
      rw [keptFrom, List.getLastD_cons, List.getLastD_eq_getLast?] at hrest
      rw [keptFrom, List.getLast?_cons, Option.some_or, Option.getD_some, hrest,
        List.dropLast_cons_cons, List.map_cons, total_cons, List.getLast?_cons_cons]
      omega

/-! ## Recorded numbers -/

theorem exists_of_map_eq_ok {ε β γ : Type} {x : Except ε β} {f : β → γ} {y : γ}
    (h : x.map f = .ok y) : ∃ b, x = .ok b ∧ f b = y := by
  cases x with
  | error e => cases h
  | ok b => exact ⟨b, rfl, Except.ok.inj h⟩

theorem build_eq_ok [Engine] {v : Verb} {entries : List (Entry α)} {c : Combined α}
    (h : Combined.build v entries = .ok c) :
    Expression.ofText? Combined.memoryLimit (Combined.sourceOf entries) = some c.expression ∧
      c.verb = v ∧ c.alternatives = Combined.alternativesFrom 1 entries := by
  unfold Combined.build at h
  split at h
  · next e he =>
    cases h
    exact ⟨he, rfl, rfl⟩
  · cases h

theorem entries_alternativesFrom (next : Nat) (entries : List (Entry α)) :
    (Combined.alternativesFrom next entries).map (·.entry) = entries := by
  induction entries generalizing next with
  | nil => rfl
  | cons e rest ih => rw [Combined.alternativesFrom, List.map_cons, ih]

theorem innerGroups_le {p : Placeholder} (h : p.Checked) : p.innerGroups ≤ p.openedInside := by
  rw [← h.last]
  rcases List.mem_cons.1 (List.getLastD_mem_cons (l := p.term.keptGroups) (a := 0)) with
    hzero | hmem
  · omega
  · have hopened := p.term.keptGroups_sublist.mem hmem
    rw [groups_of_parse h.parse, List.mem_range'_1] at hopened
    rw [Placeholder.openedInside]
    omega

/-- A placeholder counts the groups that it opens if and only if it keeps the last of them. -/
theorem keepsLastGroup_iff {p : Placeholder} (h : p.Checked) :
    p.innerGroups = p.openedInside ↔ p.KeepsLastGroup := by
  have hle := innerGroups_le h
  rw [Placeholder.openedInside] at hle ⊢
  rw [Placeholder.KeepsLastGroup, groups_of_parse h.parse, List.getLast?_range', List.length_range']
  split
  · next hnone => exact iff_of_true (by omega) (by simp)
  · next hsome =>
    have hlast : 1 + p.term.groups.length - 1 = p.term.groups.length := by omega
    simp only [hlast, Option.mem_def, Option.some.injEq, forall_eq']
    constructor
    · intro heq
      rw [← heq] at hsome ⊢
      rw [← h.last] at hsome ⊢
      exact (List.mem_cons.1 List.getLastD_mem_cons).resolve_left hsome
    · intro hmem
      have hge := le_getLastD (keptGroups_ascend h.parse) hmem
      rw [h.last] at hge
      omega

theorem mem_placeholders {parts : List PatternPart} {p : Placeholder} :
    p ∈ placeholders parts ↔ .placeholder p ∈ parts := by
  induction parts with
  | nil => simp [placeholders]
  | cons part rest ih => cases part <;> simp [placeholders, ih]

theorem exists_of_written {entries : List (Entry α)} {p : Placeholder}
    (h : some p ∈ entries.flatMap Entry.written) :
    ∃ e ∈ entries, .placeholder p ∈ e.pattern.parts := by
  obtain ⟨e, he, hp⟩ := List.mem_flatMap.1 h
  refine ⟨e, he, mem_placeholders.1 ?_⟩
  simpa [Entry.written] using hp

theorem exists_of_followed {entries : List (Entry α)} {p : Placeholder}
    (h : Followed entries p) : ∃ e ∈ entries, .placeholder p ∈ e.pattern.parts :=
  exists_of_written ((List.dropLast_sublist _).mem h)

/-- The placeholders of compiled entries that read alike inside parentheses. -/
theorem checked_emits [Engine] {entries : List (Entry α)}
    (hcompiled : ∀ e ∈ entries, Pattern.compile e.pattern.text = .ok e.pattern)
    (hinside : ∀ e ∈ entries, ∀ p, .placeholder p ∈ e.pattern.parts → ReadsInside p.tried.toList) :
    ∀ e ∈ entries, ∀ p, .placeholder p ∈ e.pattern.parts → p.Checked ∧ p.Emits := by
  intro e he p hp
  have hchecked := Pattern.checked_of_compile (hcompiled e he) hp
  exact ⟨hchecked, hchecked.emits (hinside e he p hp)⟩

/-- How many numbers the groups of a combined expression take: behind what is written last no group
is left to tell of those that were lost. -/
theorem groupCount_of_build [Engine] {v : Verb} {entries : List (Entry α)} {c : Combined α}
    (h : ∀ e ∈ entries, ∀ p, .placeholder p ∈ e.pattern.parts → p.Checked ∧ p.Emits)
    (hbuild : Combined.build v entries = .ok c) : c.groupCount =
      total ((entries.flatMap Entry.written).dropLast.map
          (writtenSize Placeholder.openedInside · + 1)) +
        total ((entries.flatMap Entry.written).getLast?.toList.map
          (writtenSize Placeholder.innerGroups · + 1)) := by
  have hparse := parse_sourceOf fun e he p hp => (h e he p hp).2
  rw [Combined.groupCount, groupCount_eq_last (build_eq_ok hbuild).1 hparse,
    keptGroups_combinedTerm fun e he p hp => (h e he p hp).2, last_keptFrom 0, Nat.zero_add]
  intro p hp
  obtain ⟨e, he, hmem⟩ := exists_of_written hp
  exact (h e he p hmem).1

/-- The count of groups that is recorded, by what is written. -/
theorem groupsOf_eq (entries : List (Entry α)) : Combined.groupsOf entries =
    total ((entries.flatMap Entry.written).map (writtenSize Placeholder.innerGroups · + 1)) := by
  induction entries with
  | nil => rfl
  | cons e rest ih =>
    rw [Combined.groupsOf, List.map_cons, total_cons, ← Combined.groupsOf, ih, List.flatMap_cons,
      List.map_append, total_append, groupCount_eq_countGroups, countGroups, Entry.written,
      List.map_cons, total_cons, List.map_map]
    rfl

/-- The count of groups is the recorded one if and only if no placeholder behind which another group
is written loses its last group. -/
theorem groupCount_eq_iff [Engine] {v : Verb} {entries : List (Entry α)} {c : Combined α}
    (h : ∀ e ∈ entries, ∀ p, .placeholder p ∈ e.pattern.parts → p.Checked ∧ p.Emits)
    (hbuild : Combined.build v entries = .ok c) :
    c.groupCount = Combined.groupsOf entries ↔ ∀ p, Followed entries p → p.KeepsLastGroup := by
  have hsplit (ws : List (Option Placeholder)) : ws.dropLast ++ ws.getLast?.toList = ws := by
    cases hlast : ws.getLast? with
    | none => simp [List.getLast?_eq_none_iff.1 hlast]
    | some w => exact List.dropLast_append_getLast? w hlast
  have hchecked {p : Placeholder} (hp : Followed entries p) : p.Checked := by
    obtain ⟨e, he, hmem⟩ := exists_of_followed hp
    exact (h e he p hmem).1
  have hle : ∀ w ∈ (entries.flatMap Entry.written).dropLast,
      writtenSize Placeholder.innerGroups w + 1 ≤ writtenSize Placeholder.openedInside w + 1 := by
    intro w hw
    cases w with
    | none => exact Nat.le_refl _
    | some p => exact Nat.add_le_add_right (innerGroups_le (hchecked hw)) 1
  -- What is written last is counted alike on both sides.
  have htotal := total_eq_iff hle
  rw [groupCount_of_build h hbuild, groupsOf_eq, ← hsplit (entries.flatMap Entry.written),
    List.map_append, total_append, hsplit, Nat.add_right_cancel_iff, eq_comm, htotal]
  constructor
  · intro hall p hp
    exact (keepsLastGroup_iff (hchecked hp)).1 (Nat.add_right_cancel (hall (some p) hp))
  · intro hall w hw
    cases w with
    | none => rfl
    | some p =>
      exact congrArg (· + 1) ((keepsLastGroup_iff (hchecked hw)).2 (hall p hw))

/-- A combined expression is read as one tree of its entries. The count of its groups is the
recorded one, and the recorded numbers are the numbers that the groups have in the tree, if and only
if no placeholder behind which another group is written loses its last group to a repetition of zero
times. -/
theorem build_numbers [Engine] {v : Verb} {entries : List (Entry α)} {c : Combined α}
    (hcompiled : ∀ e ∈ entries, Pattern.compile e.pattern.text = .ok e.pattern)
    (hinside : ∀ e ∈ entries, ∀ p, .placeholder p ∈ e.pattern.parts → ReadsInside p.tried.toList)
    (hbuild : Combined.build v entries = .ok c) :
    Term.read c.source.toList = some (combinedTerm entries) ∧
      (c.groupCount = Combined.groupsOf entries ↔
        ∀ p, Followed entries p → p.KeepsLastGroup) ∧
      (c.alternatives.map Alternative.numbers = (combinedTerm entries).numbers ↔
        ∀ p, Followed entries p → p.KeepsLastGroup) := by
  obtain ⟨htext, -, halternatives⟩ := build_eq_ok hbuild
  have hplaceholders := checked_emits hcompiled hinside
  have hparse := parse_sourceOf fun e he p hp => (hplaceholders e he p hp).2
  refine ⟨?_, groupCount_eq_iff hplaceholders hbuild, ?_⟩
  · obtain ⟨t, ht, hok, -, -, hsource⟩ := ofText_eq_some.1 htext
    -- The text of the expression is its source, so it reads as the same tree.
    cases hparse.symm.trans ht
    rw [Combined.source, hsource, Term.read, hparse, Option.filter_some,
      if_pos (decide_eq_true hok)]
  · rw [halternatives, numbers_alternativesFrom 0, numbers_combinedTerm, entryNumbers_eq_iff]
    refine forall₂_congr fun p hp => ?_
    obtain ⟨e, he, hmem⟩ := exists_of_followed hp
    exact keepsLastGroup_iff (hplaceholders e he p hmem).1

theorem build_numbers_nested :
    let entries : List (Entry String) :=
      [⟨⟨"/a/{x:((c))(?i:[(]b)*}", [.char 'a', .char '/',
          .placeholder ⟨some "x", "((c))(?i:[(]b)*", true, 2⟩]⟩, "first", 0⟩,
        ⟨⟨"/{(c){0}(?P<k>c)|d}/{y:}", [.placeholder ⟨none, "(c){0}(?P<k>c)|d", true, 2⟩, .char '/',
          .placeholder ⟨some "y", "\\w+", true, 0⟩]⟩, "second", 1⟩]
    ∃ c, Combined.build .get entries = .ok c ∧ c.groupCount = Combined.groupsOf entries ∧
      c.alternatives.map Alternative.numbers = (combinedTerm entries).numbers := by
  intro entries
  obtain ⟨c, hbuild, -⟩ : ∃ c, Combined.build .get entries = .ok c ∧ c.verb = .get :=
    exists_of_map_eq_ok (by decide +kernel)
  have hinside : ∀ e ∈ entries, ∀ p ∈ placeholders e.pattern.parts, ReadsInside p.tried.toList := by
    decide +kernel
  have hkept : ∀ e ∈ entries, ∀ p ∈ placeholders e.pattern.parts, p.KeepsLastGroup := by
    decide +kernel
  have hfollowed (p : Placeholder) (hp : Followed entries p) : p.KeepsLastGroup := by
    obtain ⟨e, he, hmem⟩ := exists_of_followed hp
    exact hkept e he p (mem_placeholders.2 hmem)
  obtain ⟨-, hcount, hnumbers⟩ := build_numbers (by decide +kernel)
    (fun e he p hp => hinside e he p (mem_placeholders.2 hp)) hbuild
  exact ⟨c, hbuild, hcount.2 hfollowed, hnumbers.2 hfollowed⟩

/-- Where the last group is repeated zero times, the count falls short and the numbers behind are
shifted. An open comment takes a group away. -/
theorem numbers_can_differ :
    let repeated : List (Entry String) :=
      [⟨⟨"/p{x:(a){0}}/{y:}", [.char 'p', .placeholder ⟨some "x", "(a){0}", true, 0⟩,
          .char '/', .placeholder ⟨some "y", "\\w+", true, 0⟩]⟩, "first", 0⟩]
    let commented : List (Entry String) :=
      [⟨⟨"/{(?x)a#}/\x7b\n\x7d", [.placeholder ⟨none, "(?x)a#", true, 0⟩, .char '/',
          .placeholder ⟨none, "\n", true, 0⟩]⟩, "first", 0⟩]
    (∀ e ∈ repeated ++ commented, Pattern.compile e.pattern.text = .ok e.pattern) ∧
      (∃ c, Combined.build .get repeated = .ok c ∧ c.groupCount = 4 ∧
        Combined.groupsOf repeated = 3 ∧ c.alternatives.map Alternative.numbers = [(1, [2, 3])] ∧
        (Term.read c.source.toList).map Term.numbers = some [(1, [2, 4])]) ∧
      ∃ c, Combined.build .get commented = .ok c ∧ c.groupCount = 2 ∧
        Combined.groupsOf commented = 3 := by
  intro repeated commented
  obtain ⟨c, hbuild, h⟩ : ∃ c, Combined.build .get repeated = .ok c ∧
      (c.groupCount, c.alternatives.map Alternative.numbers,
        (Term.read c.source.toList).map Term.numbers) =
        (4, [(1, [2, 3])], some [(1, [2, 4])]) := exists_of_map_eq_ok (by decide +kernel)
  obtain ⟨hcount, h⟩ := Prod.mk.inj h
  obtain ⟨hnumbers, hread⟩ := Prod.mk.inj h
  obtain ⟨c', hbuild', hcount'⟩ : ∃ c, Combined.build .get commented = .ok c ∧ c.groupCount = 2 :=
    exists_of_map_eq_ok (by decide +kernel)
  exact ⟨by decide +kernel, ⟨c, hbuild, hcount, by decide +kernel, hnumbers, hread⟩, c', hbuild',
    hcount', by decide +kernel⟩

end HttpRoutes
