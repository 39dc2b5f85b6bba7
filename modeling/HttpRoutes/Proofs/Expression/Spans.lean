import HttpRoutes.Expression.Matcher
import HttpRoutes.Proofs.Expression.FormShift

/-!
# Spans of text

`Form.Spans` says, without any order of preference, from where to where a form can match. Numbers of
groups play no part in it (`Form.spans_shift`), and a form that looks around nowhere matches a piece
of text wherever that piece stands (`Form.spans_within`).
-/

namespace HttpRoutes.Expression

/-! ## Rounds -/

/-- So many steps, one after the other. -/
def Rounds (R : Nat → Nat → Prop) : Nat → Nat → Nat → Prop
  | 0, i, j => i = j
  | n + 1, i, j => ∃ k, Rounds R n i k ∧ R k j

variable {R S : Nat → Nat → Prop} {m n i j k : Nat}

theorem rounds_one : Rounds R 1 i j ↔ R i j := by
  simp [Rounds]

theorem rounds_add : Rounds R (m + n) i j ↔ ∃ k, Rounds R m i k ∧ Rounds R n k j := by
  induction n generalizing j with
  | zero => simp [Rounds]
  | succ n ih =>
    show (∃ k, Rounds R (m + n) i k ∧ R k j) ↔ ∃ k, Rounds R m i k ∧ ∃ l, Rounds R n k l ∧ R l j
    constructor
    · rintro ⟨l, hl, hlj⟩
      obtain ⟨k, hk, hkl⟩ := ih.1 hl
      exact ⟨k, hk, l, hkl, hlj⟩
    · rintro ⟨k, hk, l, hkl, hlj⟩
      exact ⟨l, ih.2 ⟨k, hk, hkl⟩, hlj⟩

/-- The first step can be told apart as well as the last. -/
theorem rounds_succ : Rounds R (n + 1) i j ↔ ∃ k, R i k ∧ Rounds R n k j := by
  rw [Nat.add_comm, rounds_add]
  simp only [rounds_one]

/-- A relation that leads forward within a text, and nowhere from behind the text. -/
def Forward (length : Nat) (R : Nat → Nat → Prop) : Prop :=
  ∀ i j, R i j → i ≤ j ∧ j ≤ max length i

theorem Forward.rounds {length : Nat} (h : Forward length R) (n : Nat) :
    Forward length (Rounds R n) := by
  induction n with
  | zero =>
    rintro i j rfl
    exact ⟨le_rfl, le_max_right _ _⟩
  | succ n ih =>
    rintro i j ⟨k, hik, hkj⟩
    have hfirst := ih i k hik
    have hlast := h k j hkj
    omega

/-! ## Spans -/

namespace Form

/-- The form can match the text from `i` to `j`. -/
def Spans (text : List Char) : Form → Nat → Nat → Prop
  | .empty => fun i j => i = j
  | .literal s => fun i j => j = i + s.length ∧ s <+: text.drop i
  | .chars _ set => fun i j => j = i + 1 ∧ ∃ c, text[i]? = some c ∧ set.contains c = true
  | .look l => fun i j =>
    i = j ∧ l.holds (text.take i).getLast? (text.drop i).head? = true
  | .repetition least most _ body => fun i j =>
    ∃ n, least ≤ n ∧ (∀ limit ∈ most, n ≤ max least limit) ∧ Rounds (body.Spans text) n i j
  | .capture _ body => body.Spans text
  | .seq init last => fun i j => ∃ k, init.Spans text i k ∧ last.Spans text k j
  | .alt first rest => fun i j => first.Spans text i j ∨ rest.Spans text i j

/-- A match ends behind its start and within the text. -/
theorem spans_forward (text : List Char) (f : Form) : Forward text.length (f.Spans text) := by
  induction f with
  | empty =>
    rintro i j rfl
    exact ⟨le_rfl, le_max_right _ _⟩
  | literal s =>
    rintro i j ⟨rfl, hprefix⟩
    have hlength := hprefix.length_le
    rw [List.length_drop] at hlength
    omega
  | chars _ set =>
    rintro i j ⟨rfl, c, hc, -⟩
    have hlt := (List.getElem?_eq_some_iff.1 hc).1
    omega
  | look l =>
    rintro i j ⟨rfl, -⟩
    exact ⟨le_rfl, le_max_right _ _⟩
  | repetition least most greedy body ih =>
    rintro i j ⟨n, -, -, hrounds⟩
    exact ih.rounds n i j hrounds
  | capture index body ih => exact ih
  | seq init last ih₁ ih₂ =>
    rintro i j ⟨k, hik, hkj⟩
    have hfirst := ih₁ i k hik
    have hlast := ih₂ k j hkj
    omega
  | alt first rest ih₁ ih₂ =>
    rintro i j (h | h)
    · exact ih₁ i j h
    · exact ih₂ i j h

/-- The numbers of groups play no part. -/
theorem spans_shift (text : List Char) (d : Nat) (f : Form) :
    (f.shift d).Spans text = f.Spans text := by
  induction f with
  | repetition _ _ _ _ ih | capture _ _ ih => simp only [shift, Spans, ih]
  | seq _ _ ih₁ ih₂ | alt _ _ ih₁ ih₂ => simp only [shift, Spans, ih₁, ih₂]
  | _ => rfl

/-! ## Looking around -/

/-- Whether the form has a condition on the text around a place. -/
def looksAround : Form → Bool
  | .look _ => true
  | .repetition _ _ _ body => body.looksAround
  | .capture _ body => body.looksAround
  | .seq init last => init.looksAround || last.looksAround
  | .alt first rest => first.looksAround || rest.looksAround
  | _ => false

theorem rounds_within {length within d : Nat} (hR : Forward within R) (hS : Forward length S)
    (hsame : ∀ i j, i ≤ within → j ≤ within → (S (d + i) (d + j) ↔ R i j)) (n : Nat)
    (hj : j ≤ within) : Rounds S n (d + i) (d + j) ↔ Rounds R n i j := by
  induction n generalizing j with
  | zero => simp [Rounds]
  | succ n ih =>
    constructor
    · rintro ⟨k, hk, hkj⟩
      -- Between two places of the piece there are only places of the piece.
      have hge := (hS.rounds n _ _ hk).1
      have hle := (hS _ _ hkj).1
      obtain ⟨l, rfl⟩ := Nat.exists_eq_add_of_le (show d ≤ k by omega)
      exact ⟨l, (ih (by omega)).1 hk, (hsame l j (by omega) hj).1 hkj⟩
    · rintro ⟨k, hk, hkj⟩
      have hle := (hR _ _ hkj).1
      exact ⟨d + k, (ih (by omega)).2 hk, (hsame k j (by omega) hj).2 hkj⟩

/-- A form that looks around nowhere matches a piece of text wherever the piece stands. -/
theorem spans_within {f : Form} (h : f.looksAround = false) (before text after : List Char)
    (hi : i ≤ text.length) (hj : j ≤ text.length) :
    f.Spans (before ++ text ++ after) (before.length + i) (before.length + j) ↔
      f.Spans text i j := by
  have hdrop (i : Nat) (hi : i ≤ text.length) :
      (before ++ text ++ after).drop (before.length + i) = text.drop i ++ after := by
    rw [List.append_assoc, List.drop_length_add_append, List.drop_append_of_le_length hi]
  induction f generalizing i j with
  | empty => simp [Spans]
  | literal s =>
    simp only [Spans, hdrop i hi]
    constructor
    · rintro ⟨hlength, hprefix⟩
      refine ⟨by omega, ?_⟩
      exact List.prefix_of_prefix_length_le hprefix (List.prefix_append _ _)
        (by rw [List.length_drop]; omega)
    · rintro ⟨hlength, hprefix⟩
      exact ⟨by omega, hprefix.trans (List.prefix_append _ _)⟩
  | chars _ set =>
    simp only [Spans]
    by_cases hlt : i < text.length
    · have hget : (before ++ text ++ after)[before.length + i]? = text[i]? := by
        rw [List.append_assoc, List.getElem?_append_right (by omega), Nat.add_sub_cancel_left,
          List.getElem?_append_left hlt]
      rw [hget]
      exact and_congr_left' (by omega)
    · exact iff_of_false (by rintro ⟨hlength, -⟩; omega) (by rintro ⟨hlength, -⟩; omega)
  | look l => exact absurd h (by simp [looksAround])
  | repetition least most greedy body ih =>
    have hrounds (n : Nat) := rounds_within (i := i) (body.spans_forward text)
      (body.spans_forward _) (fun i j hi hj => ih h hi hj) n hj
    simp only [Spans, hrounds]
  | capture index body ih => exact ih h hi hj
  | seq init last ih₁ ih₂ =>
    rw [looksAround, Bool.or_eq_false_iff] at h
    constructor
    · rintro ⟨k, hik, hkj⟩
      have hge := (init.spans_forward _ _ _ hik).1
      have hle := (last.spans_forward _ _ _ hkj).1
      obtain ⟨l, rfl⟩ := Nat.exists_eq_add_of_le (show before.length ≤ k by omega)
      exact ⟨l, (ih₁ h.1 hi (by omega)).1 hik, (ih₂ h.2 (by omega) hj).1 hkj⟩
    · rintro ⟨k, hik, hkj⟩
      have hle := (last.spans_forward _ _ _ hkj).1
      exact ⟨before.length + k, (ih₁ h.1 hi (by omega)).2 hik, (ih₂ h.2 (by omega) hj).2 hkj⟩
  | alt first rest ih₁ ih₂ =>
    rw [looksAround, Bool.or_eq_false_iff] at h
    exact or_congr (ih₁ h.1 hi hj) (ih₂ h.2 hi hj)

end Form

end HttpRoutes.Expression
