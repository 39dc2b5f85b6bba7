import HttpRoutes.Expression.Estimate
import HttpRoutes.Proofs.Route.CombinedForm

/-!
# The estimate is monotone

The engine that the program runs with meets what is asked of engines: its estimate does not look at
the numbers of groups, and that of a choice is a sum over its branches.
-/

namespace HttpRoutes

namespace Expression.Form

@[simp] theorem estimate_shift (d : Nat) (f : Form) : (f.shift d).estimate = f.estimate := by
  induction f <;> simp [shift, estimate, *]

theorem estimate_le_ofChoices {f : Form} {forms : List Form} (h : f ∈ forms) :
    f.estimate ≤ (ofChoices forms).estimate := by
  induction forms with
  | nil => exact absurd h (by simp)
  | cons first rest ih =>
    cases rest with
    | nil =>
      rw [List.mem_singleton.1 h]
      exact le_rfl
    | cons next rest =>
      rw [ofChoices, estimate]
      · rcases List.mem_cons.1 h with rfl | h
        · omega
        · have hrest := ih h
          omega
      · exact List.cons_ne_nil _ _

end Expression.Form

open Expression

instance : Engine.Monotone where
  size_le {f d forms} h := by
    have hle := Form.estimate_le_ofChoices h
    rw [Form.estimate_shift] at hle
    show f.anchored.estimate ≤ (Form.ofChoices forms).anchored.estimate
    simp only [Form.anchored, Form.estimate]
    omega

end HttpRoutes
