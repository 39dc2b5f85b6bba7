import HttpRoutes.Proofs.Expression.Atoms
import HttpRoutes.Proofs.Expression.Spans

/-!
# Expressions that look around nowhere

An expression without assertions has a normal form without conditions on the text around a place, so
what it matches depends on the matched piece of text alone.
-/

namespace HttpRoutes.Expression

namespace Form

/-- No atom of the form looks around. -/
abbrev LookFree (f : Form) : Prop := f.MadeOf fun g => g.looksAround = false

theorem lookFree_iff {f : Form} : f.LookFree ↔ f.looksAround = false := by
  induction f <;> simp [MadeOf, looksAround, *]

theorem lookFree_ofSet (unicode : Bool) (set : Text.CharSet) : (ofSet unicode set).LookFree := by
  unfold ofSet
  split
  · rfl
  · split <;> rfl

theorem lasting_lookFree : Lasting fun f => f.looksAround = false where
  empty := rfl
  literal _ := rfl
  chars _ := lookFree_ofSet _ _
  sets _ _ := lookFree_ofSet _ _

end Form

/-! ## Terms -/

namespace Term

/-- Whether an assertion is written in the term. -/
def looksAround : Term → Bool
  | .assertion _ => true
  | .repetition _ _ _ body => body.looksAround
  | .capture _ _ body => body.looksAround
  | .scoped _ body => body.looksAround
  | .seq first rest => first.looksAround || rest.looksAround
  | .alt first rest => first.looksAround || rest.looksAround
  | _ => false

theorem lookFree_branches {t : Term} {m m' : Modes} {forms : List Form}
    (h : t.branches? m = some (forms, m')) (hlook : t.looksAround = false) :
    ∀ f ∈ forms, f.LookFree := by
  have hchoose {forms : List Form} : (∀ f ∈ forms, f.LookFree) → (Form.choose forms).LookFree :=
    Form.madeOf_choose Form.lasting_lookFree
  rw [branches_eq_some] at h
  induction h with
  | repetition _ ih =>
    exact List.forall_mem_singleton.2
      (Form.madeOf_repeated Form.lasting_lookFree (hchoose (ih hlook)))
  | capture _ ih | «scoped» _ ih => exact List.forall_mem_singleton.2 (hchoose (ih hlook))
  | seq _ _ ih₁ ih₂ =>
    obtain ⟨hfirst, hrest⟩ := Bool.or_eq_false_iff.1 hlook
    refine List.forall_mem_singleton.2 (Form.madeOf_concat Form.lasting_lookFree ?_)
    exact List.forall_mem_cons.2
      ⟨hchoose (ih₁ hfirst), List.forall_mem_singleton.2 (hchoose (ih₂ hrest))⟩
  | alt _ _ ih₁ ih₂ =>
    obtain ⟨hfirst, hrest⟩ := Bool.or_eq_false_iff.1 hlook
    exact List.forall_mem_cons.2 ⟨hchoose (ih₁ hfirst), ih₂ hrest⟩
  | char hf =>
    refine List.forall_mem_singleton.2 ?_
    rcases Modes.charForm_cases hf with rfl | ⟨set, rfl⟩
    · rfl
    · exact Form.lookFree_ofSet _ set
  | dot hf =>
    obtain ⟨set, rfl⟩ := Modes.dotForm_cases hf
    exact List.forall_mem_singleton.2 rfl
  | escaped | property | bracketed => exact List.forall_mem_singleton.2 (Form.lookFree_ofSet _ _)
  | assertion => cases hlook
  | empty | setFlags => exact List.forall_mem_singleton.2 rfl

/-- An expression without assertions has a form that looks around nowhere. -/
theorem looksAround_form {t : Term} {f : Form} (h : t.form? = some f)
    (hlook : t.looksAround = false) : f.looksAround = false := by
  obtain ⟨⟨forms, m⟩, hforms, rfl⟩ := Option.map_eq_some_iff.1 h
  exact Form.lookFree_iff.1
    (Form.madeOf_choose Form.lasting_lookFree (lookFree_branches hforms hlook))

end Term

end HttpRoutes.Expression
