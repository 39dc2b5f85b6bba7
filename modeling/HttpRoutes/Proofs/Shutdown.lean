import HttpRoutes.Shutdown
import HttpRoutes.Total
import Mathlib.Data.List.GetD
import Mathlib.Data.List.Induction

/-!
# Signals and subscribers

Handles and subscribers come and go in any order, and the signal is given any number of times while
only the latest one is kept. Still every subscriber can account for each signal since it joined: it
has received it, it has been told that it missed it, or it is still owed it
(`Shutdown.triggers_accounted`). What it finds when it looks depends on how many signals it is owed,
and on whether a handle is left if there are none.

One lemma says what an action does to one subscriber (`Shutdown.step_cases`). The account is kept by
every action and so by every run.
-/

namespace HttpRoutes

/-- How many signals a subscriber is told that it missed. -/
def Reception.missed : Reception → Nat
  | .lagged n => n
  | .pending | .signal | .closed => 0

/-- How many signals have been received or have been told to be missed. -/
def accountedFor (found : List Reception) : Nat :=
  found.count .signal + total (found.map Reception.missed)

theorem accountedFor_append (found later : List Reception) :
    accountedFor (found ++ later) = accountedFor found + accountedFor later := by
  rw [accountedFor, accountedFor, accountedFor, List.count_append, List.map_append, total_append]
  omega

namespace Shutdown

/-! ## Actions -/

/-- What can be done with handles and subscribers. -/
inductive Action
  | subscribe (handle : Nat)
  | clone (handle : Nat)
  | trigger (handle : Nat)
  | drop (handle : Nat)
  | unsubscribe (subscriber : Nat)
  | receive (subscriber : Nat)
deriving DecidableEq, Repr

/-- What an action does. A handle that is gone can do nothing. -/
def step (s : Shutdown) : Action → Shutdown
  | .subscribe h => if s.hasHandle h then s.subscribe else s
  | .clone h => s.cloneHandle h
  | .trigger h => if s.hasHandle h then s.trigger else s
  | .drop h => s.dropHandle h
  | .unsubscribe i => s.unsubscribe i
  | .receive i => (s.receive i).2

/-- How often an action gives the signal. -/
def triggersBy (s : Shutdown) : Action → Nat
  | .trigger h => if s.hasHandle h then 1 else 0
  | .subscribe _ | .clone _ | .drop _ | .unsubscribe _ | .receive _ => 0

/-- What a subscriber finds by an action. -/
def foundBy (s : Shutdown) (i : Nat) (a : Action) : List Reception :=
  if a = .receive i then (s.receive i).1.toList else []

/-- The handles and subscribers after actions. -/
def run (s : Shutdown) (actions : List Action) : Shutdown := actions.foldl step s

/-- How often the signal is given in the course of actions, through any handle. -/
def triggers (s : Shutdown) : List Action → Nat
  | [] => 0
  | a :: rest => s.triggersBy a + (s.step a).triggers rest

/-- What a subscriber finds in the course of actions, in order. -/
def found (s : Shutdown) (i : Nat) : List Action → List Reception
  | [] => []
  | a :: rest => s.foundBy i a ++ (s.step a).found i rest

/-- How many signals a subscriber is done with, if it is there. -/
def done? (s : Shutdown) (i : Nat) : Option Nat := s.subscribers.getD i none

/-- Whether a subscriber is there. -/
def hasSubscriber (s : Shutdown) (i : Nat) : Bool := (s.done? i).isSome

/-- How many of the signals that have been given a subscriber is not done with. -/
def owed (s : Shutdown) (i : Nat) : Nat := s.given - (s.done? i).getD s.given

theorem isOpen_iff {s : Shutdown} : s.isOpen = true ↔ ∃ h, s.hasHandle h = true := by
  rw [isOpen, List.contains_iff_mem, List.mem_iff_getElem?]
  refine exists_congr fun h => ?_
  rw [hasHandle, List.getD_eq_getElem?_getD]
  cases s.handles[h]? <;> simp

/-! ## Looking -/

section Look

variable {s : Shutdown} {i done : Nat}

theorem receive_of_done (h : s.done? i = some done) :
    s.receive i = (some (s.look done).1,
      { s with subscribers := s.subscribers.set i (some (s.look done).2) }) := by
  rw [done?] at h
  simp only [receive, h]

/-- A look accounts for as many signals as the subscriber is then done with. -/
theorem look_accounts (hdone : done ≤ s.given) :
    accountedFor [(s.look done).1] + done = (s.look done).2 ∧ (s.look done).2 ≤ s.given := by
  rw [look]
  split
  · split <;> exact ⟨Nat.zero_add _, hdone⟩
  · split
    · next hone => exact ⟨Nat.add_comm 1 done, hone ▸ Nat.le_refl _⟩
    · next hmore hone =>
      refine ⟨?_, Nat.sub_le _ _⟩
      show 0 + (s.given - 1 - done + 0) + done = s.given - 1
      omega

/-- What a subscriber finds is decided by how many signals it is owed, and by the handles that are
left if there are none. -/
theorem receive_iff (h : s.done? i = some done) (hdone : done ≤ s.given) :
    ((s.receive i).1 = some .pending ↔ s.owed i = 0 ∧ ∃ h, s.hasHandle h = true) ∧
    ((s.receive i).1 = some .closed ↔ s.owed i = 0 ∧ ∀ h, s.hasHandle h = false) ∧
    ((s.receive i).1 = some .signal ↔ s.owed i = 1) ∧
    ∀ n, (s.receive i).1 = some (.lagged n) ↔ 0 < n ∧ s.owed i = n + 1 := by
  have howed : s.owed i = s.given - done := by rw [owed, h, Option.getD_some]
  have hclosed : (∀ h, s.hasHandle h = false) ↔ ¬ s.isOpen = true := by
    rw [isOpen_iff]
    simp
  rw [receive_of_done h, howed, ← isOpen_iff, hclosed]
  dsimp only
  rw [look]
  by_cases hnone : s.given ≤ done
  · have hzero : s.given - done = 0 := by omega
    rw [if_pos hnone, hzero]
    cases hopen : s.isOpen <;> simp
  · rw [if_neg hnone]
    by_cases hone : s.given = done + 1
    · have hsub : s.given - done = 1 := by omega
      rw [if_pos hone, hsub]
      refine ⟨by simp, by simp, by simp, ?_⟩
      intro n
      simp only [Option.some.injEq, reduceCtorEq, false_iff]
      omega
    · rw [if_neg hone]
      simp only [Option.some.injEq, Reception.lagged.injEq, reduceCtorEq, false_iff]
      refine ⟨?_, ?_, ?_, fun n => ?_⟩ <;> omega

end Look

/-! ## One action -/

section Step

variable {s : Shutdown} {i done : Nat}

theorem lt_of_done (h : s.done? i = some done) : i < s.subscribers.length := by
  by_contra hge
  rw [done?, List.getD_eq_default _ _ (Nat.le_of_not_lt hge)] at h
  cases h

/-- A subscriber is counted while it is there. -/
theorem subscriberCount_ne_zero (h : s.done? i = some done) : s.subscriberCount ≠ 0 := by
  have hmem : some done ∈ s.subscribers := by
    rw [done?, List.getD_eq_getElem _ _ (lt_of_done h)] at h
    exact h ▸ List.getElem_mem _
  exact Nat.pos_iff_ne_zero.1 (List.countP_pos_iff.2 ⟨_, hmem, rfl⟩)

theorem done_set (hlt : i < s.subscribers.length) (j : Nat) (value : Option Nat) :
    done? { s with subscribers := s.subscribers.set j value } i =
      if j = i then value else s.done? i := by
  rw [done?, done?, List.getD_eq_getElem?_getD, List.getD_eq_getElem?_getD, List.getElem?_set]
  by_cases hj : j = i
  · rw [if_pos hj, if_pos hj, hj, if_pos hlt, Option.getD_some]
  · rw [if_neg hj, if_neg hj]

/-- An action changes what a subscriber is done with only if it is its own: it leaves, or it looks.
Nobody takes the place of one that has left. -/
theorem done_step (hlt : i < s.subscribers.length) (a : Action) :
    (s.step a).done? i =
      if a = .unsubscribe i then none
      else if a = .receive i then (s.done? i).map fun done => (s.look done).2
      else s.done? i := by
  cases a with
  | subscribe handle =>
    rw [if_neg Action.noConfusion, if_neg Action.noConfusion, step]
    split
    · exact List.getD_append _ _ _ _ hlt
    · rfl
  | clone handle => rfl
  | trigger handle =>
    rw [if_neg Action.noConfusion, if_neg Action.noConfusion, step, trigger]
    split
    · split <;> rfl
    · rfl
  | drop handle => rfl
  | unsubscribe j =>
    rw [step, unsubscribe, done_set hlt]
    by_cases hj : j = i <;> simp [hj]
  | receive j =>
    rw [step, if_neg Action.noConfusion]
    by_cases hj : j = i
    · rw [hj, if_pos rfl]
      cases h : s.done? i with
      | none =>
        rw [done?] at h
        simp only [receive, h]
        exact h
      | some done =>
        rw [receive_of_done h, done_set hlt, if_pos rfl]
        rfl
    · rw [if_neg (by simpa using hj), receive]
      split
      · rfl
      · rw [done_set hlt, if_neg hj]

/-- While a subscriber is there, no signal is refused. -/
theorem given_step (h : s.done? i = some done) (a : Action) :
    (s.step a).given = s.given + s.triggersBy a := by
  cases a with
  | subscribe handle =>
    rw [step]
    split <;> rfl
  | clone handle => rfl
  | trigger handle =>
    rw [step, triggersBy, trigger, if_neg (subscriberCount_ne_zero h)]
    split <;> rfl
  | drop handle => rfl
  | unsubscribe j => rfl
  | receive j =>
    rw [step, receive]
    split <;> rfl

/-- What a subscriber finds by an action accounts for as many signals as it is then done with. -/
theorem step_accounts (h : s.done? i = some done) (hdone : done ≤ s.given) {a : Action}
    {after : Nat} (hafter : (s.step a).done? i = some after) :
    accountedFor (s.foundBy i a) + done = after ∧ after ≤ (s.step a).given := by
  rw [given_step h]
  rw [done_step (lt_of_done h)] at hafter
  split at hafter
  · cases hafter
  · split at hafter
    · next hreceive =>
      rw [h] at hafter
      cases hafter
      rw [foundBy, if_pos hreceive, receive_of_done h, Option.toList_some]
      obtain ⟨haccounts, hle⟩ := look_accounts hdone
      exact ⟨haccounts, Nat.le_add_right_of_le hle⟩
    · next hreceive =>
      cases h.symm.trans hafter
      rw [foundBy, if_neg hreceive]
      exact ⟨Nat.zero_add _, Nat.le_add_right_of_le hdone⟩

/-- Only subscribing makes a place for a subscriber, and it makes one. -/
theorem length_step (s : Shutdown) (a : Action) :
    (s.step a).subscribers.length = s.subscribers.length ∨
    ∃ handle, a = .subscribe handle ∧ s.hasHandle handle = true ∧
      (s.step a).subscribers.length = s.subscribers.length + 1 := by
  cases a with
  | subscribe handle =>
    by_cases hhandle : s.hasHandle handle = true
    · refine .inr ⟨handle, rfl, hhandle, ?_⟩
      rw [step, if_pos hhandle, subscribe, List.length_append, List.length_singleton]
    · refine .inl ?_
      rw [step, if_neg hhandle]
  | clone handle => exact .inl rfl
  | trigger handle =>
    refine .inl ?_
    rw [step, trigger]
    split
    · split <;> rfl
    · rfl
  | drop handle => exact .inl rfl
  | unsubscribe j => exact .inl List.length_set
  | receive j =>
    refine .inl ?_
    rw [step, receive]
    split
    · rfl
    · exact List.length_set

theorem length_le_step (s : Shutdown) (a : Action) :
    s.subscribers.length ≤ (s.step a).subscribers.length := by
  rcases s.length_step a with heq | ⟨-, -, -, hsucc⟩
  · exact Nat.le_of_eq heq.symm
  · omega

end Step

/-! ## Runs -/

section Run

variable {s : Shutdown} {i done : Nat}

theorem run_concat (s : Shutdown) (before : List Action) (a : Action) :
    s.run (before ++ [a]) = (s.run before).step a := by
  rw [run, run, List.foldl_append, List.foldl_cons, List.foldl_nil]

/-- A subscriber that has left stays away. -/
theorem done_run_eq_none (hlt : i < s.subscribers.length) (h : s.done? i = none)
    (later : List Action) : (s.run later).done? i = none := by
  induction later generalizing s with
  | nil => exact h
  | cons a rest ih =>
    refine ih (Nat.lt_of_lt_of_le hlt (s.length_le_step a)) ?_
    rw [done_step hlt, h, Option.map_none, ite_self, ite_self]

/-- The account of a subscriber that is still there after a run: what it has found makes up for what
it is done with, and all signals have been given to it. -/
theorem run_accounts (h : s.done? i = some done) (hdone : done ≤ s.given) (later : List Action)
    {after : Nat} (hafter : (s.run later).done? i = some after) :
    accountedFor (s.found i later) + done = after ∧ after ≤ (s.run later).given ∧
      (s.run later).given = s.given + s.triggers later := by
  induction later generalizing s done with
  | nil =>
    cases h.symm.trans hafter
    exact ⟨Nat.zero_add _, hdone, rfl⟩
  | cons a rest ih =>
    cases hnext : (s.step a).done? i with
    | none =>
      have hlt := Nat.lt_of_lt_of_le (lt_of_done h) (s.length_le_step a)
      cases (done_run_eq_none hlt hnext rest).symm.trans hafter
    | some next =>
      obtain ⟨hstep, hle⟩ := step_accounts h hdone hnext
      obtain ⟨hrun, hafterle, hgiven⟩ := ih hnext hle hafter
      have hgivenstep := given_step h a
      have hsplit : accountedFor (s.found i (a :: rest)) =
          accountedFor (s.foundBy i a) + accountedFor ((s.step a).found i rest) :=
        accountedFor_append _ _
      have htriggers : s.triggers (a :: rest) = s.triggersBy a + (s.step a).triggers rest := rfl
      have hruns : s.run (a :: rest) = (s.step a).run rest := rfl
      refine ⟨?_, hruns ▸ hafterle, ?_⟩
      · omega
      · rw [hruns]
        omega

/-- In a run from the start, subscriber `i` joins between these actions. -/
structure Joins (i : Nat) (actions before : List Action) (handle : Nat) (later : List Action) :
    Prop where
  split : actions = before ++ .subscribe handle :: later
  hasHandle : (new.run before).hasHandle handle = true
  place : (new.run before).subscribers.length = i

/-- Every subscriber has joined. -/
theorem exists_joins {actions : List Action} (h : (new.run actions).hasSubscriber i = true) :
    ∃ before handle later, Joins i actions before handle later := by
  induction actions using List.reverseRecOn with
  | nil => cases h
  | append_singleton before a ih =>
    rw [run_concat] at h
    obtain ⟨done, hdone⟩ := Option.isSome_iff_exists.1 h
    have hlt := lt_of_done hdone
    by_cases hold : i < (new.run before).subscribers.length
    · have hthere : (new.run before).hasSubscriber i = true := by
        rw [hasSubscriber]
        by_contra hgone
        rw [done_step hold, Option.not_isSome_iff_eq_none.1 hgone, Option.map_none, ite_self,
          ite_self] at hdone
        cases hdone
      obtain ⟨earlier, handle, later, hjoins⟩ := ih hthere
      refine ⟨earlier, handle, later ++ [a], ?_, hjoins.hasHandle, hjoins.place⟩
      rw [hjoins.split, List.append_assoc]
      rfl
    · rcases (new.run before).length_step a with heq | ⟨handle, rfl, hhandle, hsucc⟩
      · exact absurd (heq ▸ hlt) hold
      · exact ⟨before, handle, [], rfl, hhandle, by omega⟩

namespace Joins

variable {actions before later : List Action} {handle : Nat}

/-- When it joins, a subscriber is done with all signals that have been given. -/
theorem done_eq (h : Joins i actions before handle later) :
    (new.run (before ++ [.subscribe handle])).done? i =
      some (new.run (before ++ [.subscribe handle])).given := by
  rw [run_concat, step, if_pos h.hasHandle, subscribe, done?, ← h.place,
    List.getD_eq_getElem _ _ (by simp), List.getElem_concat_length rfl]

theorem run_later (h : Joins i actions before handle later) :
    (new.run (before ++ [.subscribe handle])).run later = new.run actions := by
  rw [run, run, ← List.foldl_append, List.append_assoc, run, h.split]
  rfl

end Joins

/-- In every run and for every subscriber that is there after it, the signals that have been given
since it joined, through whatever handle, are those that it has received, those that it has been
told it missed, and those that it is still owed. What it finds next is decided by how many it is
owed: it must wait only if there are none and a handle is left, and the signal is closed for it only
if there are none and no handle is left. -/
theorem triggers_accounted (actions : List Action) {i : Nat}
    (h : (new.run actions).hasSubscriber i = true) :
    let s := new.run actions
    (∃ before handle later, Joins i actions before handle later) ∧
    (∀ before handle later, Joins i actions before handle later →
      let joined := new.run (before ++ [.subscribe handle])
      joined.triggers later =
        (joined.found i later).count .signal +
          total ((joined.found i later).map Reception.missed) + s.owed i) ∧
    ((s.receive i).1 = some .pending ↔ s.owed i = 0 ∧ ∃ handle, s.hasHandle handle = true) ∧
    ((s.receive i).1 = some .closed ↔ s.owed i = 0 ∧ ∀ handle, s.hasHandle handle = false) ∧
    ((s.receive i).1 = some .signal ↔ s.owed i = 1) ∧
    ∀ n, (s.receive i).1 = some (.lagged n) ↔ 0 < n ∧ s.owed i = n + 1 := by
  intro s
  obtain ⟨done, hdone⟩ := Option.isSome_iff_exists.1 h
  have howed : s.owed i = s.given - done := by rw [owed, hdone, Option.getD_some]
  have haccount {before later : List Action} {handle : Nat}
      (hjoins : Joins i actions before handle later) :
      let joined := new.run (before ++ [.subscribe handle])
      accountedFor (joined.found i later) + joined.given = done ∧ done ≤ s.given ∧
        s.given = joined.given + joined.triggers later := by
    have hafter := hdone
    rw [← hjoins.run_later] at hafter
    have hrun := run_accounts hjoins.done_eq (Nat.le_refl _) later hafter
    rwa [hjoins.run_later] at hrun
  obtain ⟨before, handle, later, hjoins⟩ := exists_joins h
  refine ⟨⟨before, handle, later, hjoins⟩, ?_, receive_iff hdone (haccount hjoins).2.1⟩
  intro before handle later hjoins joined
  obtain ⟨haccounts, hle, hgiven⟩ :
      accountedFor (joined.found i later) + joined.given = done ∧ done ≤ s.given ∧
        s.given = joined.given + joined.triggers later := haccount hjoins
  show joined.triggers later = accountedFor (joined.found i later) + s.owed i
  omega

/-- A subscriber joins in the middle, lags behind twice, and is still owed signals when the last
handle is dropped. It gets them before the signal is closed for it. -/
theorem triggers_accounted_behind_dropped_handles :
    let before : List Action := [.subscribe 0, .trigger 0, .clone 0]
    let later : List Action := [.trigger 1, .trigger 0, .receive 1, .trigger 1, .trigger 0,
      .drop 0, .unsubscribe 0, .drop 1]
    let actions := before ++ .subscribe 1 :: later
    let joined := new.run (before ++ [.subscribe 1])
    let s := new.run actions
    let emptied := new.run (actions ++ [.receive 1, .receive 1])
    s.hasSubscriber 1 = true ∧ Joins 1 actions before 1 later ∧
      joined.triggers later = 4 ∧ joined.found 1 later = [.lagged 1] ∧ s.owed 1 = 3 ∧
      joined.triggers later = (joined.found 1 later).count .signal +
        total ((joined.found 1 later).map Reception.missed) + s.owed 1 ∧
      (s.receive 1).1 = some (.lagged 2) ∧ (emptied.receive 1).1 = some .closed ∧
      emptied.owed 1 = 0 ∧ ∀ handle, emptied.hasHandle handle = false := by
  intro before later actions joined s emptied
  have hthere : s.hasSubscriber 1 = true := by decide
  have hjoins : Joins 1 actions before 1 later := ⟨rfl, by decide, by decide⟩
  have howed : s.owed 1 = 3 := by decide
  have hclosed : (emptied.receive 1).1 = some .closed := by decide
  obtain ⟨-, haccount, -, -, -, hlagged⟩ := triggers_accounted actions hthere
  obtain ⟨-, -, -, hclosediff, -, -⟩ :=
    triggers_accounted (actions ++ [.receive 1, .receive 1]) (i := 1) (by decide)
  obtain ⟨hempty, hnohandle⟩ := hclosediff.1 hclosed
  exact ⟨hthere, hjoins, by decide, by decide, howed, haccount _ _ _ hjoins,
    (hlagged 2).2 ⟨by decide, howed⟩, hclosed, hempty, hnohandle⟩

end Run

end Shutdown

end HttpRoutes
