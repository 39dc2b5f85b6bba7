/-!
# Totals

Sizes are added up over lists, and the numbers of groups are totals of sizes.
-/

namespace HttpRoutes

variable {β : Type}

/-- The sum of numbers. -/
def total : List Nat → Nat
  | [] => 0
  | n :: rest => n + total rest

@[simp] theorem total_nil : total [] = 0 := rfl

@[simp] theorem total_cons (n : Nat) (rest : List Nat) : total (n :: rest) = n + total rest := rfl

@[simp] theorem total_append (xs ys : List Nat) : total (xs ++ ys) = total xs + total ys := by
  induction xs with
  | nil => simp
  | cons x xs ih => simp [ih, Nat.add_assoc]

theorem total_le {f g : β → Nat} {xs : List β} (h : ∀ x ∈ xs, f x ≤ g x) :
    total (xs.map f) ≤ total (xs.map g) := by
  induction xs with
  | nil => exact Nat.le_refl _
  | cons x xs ih =>
    have hrest := ih fun y hy => h y (List.mem_cons_of_mem _ hy)
    exact Nat.add_le_add (h x List.mem_cons_self) hrest

/-- Where nothing gets less, the total stays the same only if everything does. -/
theorem total_eq_iff {f g : β → Nat} {xs : List β} (h : ∀ x ∈ xs, f x ≤ g x) :
    total (xs.map f) = total (xs.map g) ↔ ∀ x ∈ xs, f x = g x := by
  induction xs with
  | nil => simp
  | cons x xs ih =>
    obtain ⟨hhead, hrest⟩ := List.forall_mem_cons.1 h
    have hle := total_le hrest
    rw [List.forall_mem_cons, ← ih hrest, List.map_cons, List.map_cons, total_cons, total_cons]
    omega

end HttpRoutes
