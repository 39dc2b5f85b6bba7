import HttpRoutes.Handler.Basic
import Mathlib.Data.List.Basic
import Mathlib.Data.List.TakeWhile

/-!
# Reading and writing references

Which texts refer to a controller, said without the reader (`Refers`): the first separator divides
the text, and each part is a name between blanks. `ControllerRef.parse` gives exactly the reference
that a text stands for, and a reference as it is written stands for itself, so it is read back with
the same separator (`Handler.parse_reference`). The separator may be a blank.
-/

namespace HttpRoutes.Text

variable {α : Type} {p : α → Bool}

/-! ## Trimming -/

/-- Neither end satisfies the test. -/
structure Trimmed (p : α → Bool) (xs : List α) : Prop where
  first : ∀ x, xs.head? = some x → p x = false
  last : ∀ x, xs.getLast? = some x → p x = false

instance (p : α → Bool) (xs : List α) : Decidable (Trimmed p xs) :=
  decidable_of_iff ((∀ x ∈ xs.head?, p x = false) ∧ ∀ x ∈ xs.getLast?, p x = false)
    ⟨fun h => ⟨h.1, h.2⟩, fun h => ⟨h.first, h.last⟩⟩

theorem head?_dropWhile_not (xs : List α) : ∀ x, (xs.dropWhile p).head? = some x → p x = false := by
  intro x hx
  have h := List.head?_dropWhile_not p xs
  rw [hx] at h
  exact h

theorem dropWhile_of_head {xs : List α} (h : ∀ x, xs.head? = some x → p x = false) :
    xs.dropWhile p = xs := by
  cases xs with
  | nil => rfl
  | cons x xs => rw [List.dropWhile_cons_of_neg (by simp [h x rfl])]

/-- What is left between two ends that satisfy the test. -/
theorem trimBoth_append {left xs right : List α} (hleft : ∀ x ∈ left, p x = true)
    (htrimmed : Trimmed p xs) (hright : ∀ x ∈ right, p x = true) :
    trimBoth p (left ++ xs ++ right) = xs := by
  have hreverse : ∀ x ∈ right.reverse, p x = true := fun x hx => hright x (List.mem_reverse.1 hx)
  have hlast : ∀ x, xs.reverse.head? = some x → p x = false := by
    rw [List.head?_reverse]
    exact htrimmed.last
  rw [trimBoth, List.append_assoc, List.dropWhile_append_of_pos hleft]
  by_cases hempty : xs = []
  · subst hempty
    rw [List.nil_append, List.dropWhile_eq_nil_iff.2 hright]
    rfl
  · have hfirst : ∀ x, (xs ++ right).head? = some x → p x = false := by
      rw [List.head?_append_of_ne_nil _ hempty]
      exact htrimmed.first
    rw [dropWhile_of_head hfirst, List.reverse_append, List.dropWhile_append_of_pos hreverse,
      dropWhile_of_head hlast, List.reverse_reverse]

theorem trimBoth_of_trimmed {xs : List α} (h : Trimmed p xs) : trimBoth p xs = xs := by
  have happend : trimBoth p ([] ++ xs ++ []) = xs := trimBoth_append (by simp) h (by simp)
  rwa [List.nil_append, List.append_nil] at happend

/-- Trimming leaves a part whose ends do not satisfy the test, and all around it does. -/
theorem exists_trimBoth (p : α → Bool) (xs : List α) : Trimmed p (trimBoth p xs) ∧
    ∃ left right, (∀ x ∈ left, p x = true) ∧ (∀ x ∈ right, p x = true) ∧
      xs = left ++ trimBoth p xs ++ right := by
  have hleft := List.takeWhile_append_dropWhile (p := p) (l := xs)
  have hright := List.takeWhile_append_dropWhile (p := p) (l := (xs.dropWhile p).reverse)
  have hrest : trimBoth p xs ++ ((xs.dropWhile p).reverse.takeWhile p).reverse =
      xs.dropWhile p := by
    rw [trimBoth, ← List.reverse_append, hright, List.reverse_reverse]
  refine ⟨⟨?_, ?_⟩, xs.takeWhile p, ((xs.dropWhile p).reverse.takeWhile p).reverse, ?_, ?_, ?_⟩
  · intro x hx
    -- The first of what is left is the first behind the blanks in front.
    refine head?_dropWhile_not xs x ?_
    rw [← hrest, List.head?_append, hx]
    rfl
  · intro x hx
    rw [trimBoth, List.getLast?_reverse] at hx
    exact head?_dropWhile_not _ x hx
  · exact fun x hx => List.mem_takeWhile_imp hx
  · exact fun x hx => List.mem_takeWhile_imp (List.mem_reverse.1 hx)
  · rw [List.append_assoc, hrest, hleft]

theorem trimBoth_eq_self_iff {xs : List α} : trimBoth p xs = xs ↔ Trimmed p xs := by
  constructor
  · intro h
    rw [← h]
    exact (exists_trimBoth p xs).1
  · exact trimBoth_of_trimmed

/-- Nothing is left exactly if all satisfies the test. -/
theorem trimBoth_eq_nil_iff {xs : List α} : trimBoth p xs = [] ↔ ∀ x ∈ xs, p x = true := by
  rw [trimBoth, List.reverse_eq_nil_iff, List.dropWhile_eq_nil_iff]
  constructor
  · intro h
    have hnil : xs.dropWhile p = [] := by
      by_contra hne
      have hhead := List.head?_eq_some_head hne
      have htrue := h _ (List.mem_reverse.2 (List.head_mem hne))
      rw [head?_dropWhile_not xs _ hhead] at htrue
      cases htrue
    exact List.dropWhile_eq_nil_iff.1 hnil
  · intro h x hx
    exact h x ((List.dropWhile_suffix p).subset (List.mem_reverse.1 hx))

end HttpRoutes.Text

namespace HttpRoutes

open HttpRoutes.Text

/-! ## Names and references -/

/-- A name that is not empty, has no blanks at its ends, and stands between blanks. -/
structure HoldsName (cs : List Char) (name : String) : Prop where
  nonempty : name ≠ ""
  trimmed : Trimmed isBlank name.toList
  between : ∃ left right, (∀ c ∈ left, isBlank c = true) ∧ (∀ c ∈ right, isBlank c = true) ∧
    cs = left ++ name.toList ++ right

/-- The reference that a text stands for: the first separator divides the names. -/
inductive Refers (separator : Char) : List Char → ControllerRef → Prop
  | controller {text identifier} : separator ∉ text → HoldsName text identifier →
      Refers separator text ⟨identifier, none, separator⟩
  | method {before after identifier method} : separator ∉ before → HoldsName before identifier →
      HoldsName after method →
      Refers separator (before ++ separator :: after) ⟨identifier, some method, separator⟩

namespace HoldsName

variable {cs : List Char} {name : String}

theorem iff_trimBoth : HoldsName cs name ↔ trimBoth isBlank cs ≠ [] ∧
    name = String.ofList (trimBoth isBlank cs) := by
  constructor
  · rintro ⟨hne, htrimmed, left, right, hleft, hright, rfl⟩
    rw [trimBoth_append hleft htrimmed hright, String.ofList_toList]
    exact ⟨fun hnil => hne (String.toList_eq_nil_iff.1 hnil), rfl⟩
  · rintro ⟨hne, rfl⟩
    obtain ⟨htrimmed, hbetween⟩ := exists_trimBoth isBlank cs
    rw [← String.toList_ofList (l := trimBoth isBlank cs)] at htrimmed hbetween
    refine ⟨?_, htrimmed, ?_⟩
    · intro hempty
      exact hne (by rw [← String.toList_ofList (l := trimBoth isBlank cs), hempty]; rfl)
    · simpa using hbetween

/-- A text has a name in it exactly if it is not all blanks. -/
theorem exists_iff : (∃ name, HoldsName cs name) ↔ ∃ c ∈ cs, isBlank c = false := by
  have hblank : trimBoth isBlank cs ≠ [] ↔ ∃ c ∈ cs, isBlank c = false := by
    rw [Ne, trimBoth_eq_nil_iff]
    simp
  rw [← hblank]
  constructor
  · rintro ⟨name, hname⟩
    exact (iff_trimBoth.1 hname).1
  · intro hne
    exact ⟨_, iff_trimBoth.2 ⟨hne, rfl⟩⟩

/-- A name is the name of its own text. -/
theorem refl (h : HoldsName cs name) : HoldsName name.toList name where
  nonempty := h.nonempty
  trimmed := h.trimmed
  between := ⟨[], [], by simp, by simp, by simp⟩

theorem subset (h : HoldsName cs name) : name.toList ⊆ cs := by
  obtain ⟨left, right, -, -, rfl⟩ := h.between
  intro c hc
  simp [hc]

end HoldsName

/-! ## Reading -/

/-- A text has no separator in it, or a first one. -/
theorem separated (separator : Char) (text : List Char) : separator ∉ text ∨
    ∃ before after, separator ∉ before ∧ text = before ++ separator :: after := by
  by_cases hmem : separator ∈ text
  · obtain ⟨before, after, htext, hbefore⟩ := List.eq_append_cons_of_mem hmem
    exact .inr ⟨before, after, hbefore, htext⟩
  · exact .inl hmem

namespace ControllerRef

variable {separator : Char}

theorem parse_of_notMem {text : String} (h : separator ∉ text.toList) : parse text separator =
    if trimBoth isBlank text.toList = [] then .error (.emptyIdentifier text)
    else .ok ⟨String.ofList (trimBoth isBlank text.toList), none, separator⟩ := by
  have hall : ∀ c ∈ text.toList, (c != separator) = true := by
    intro c hc
    simpa using fun heq : c = separator => h (heq ▸ hc)
  rw [parse, List.takeWhile_eq_self_iff.2 hall, List.dropWhile_eq_nil_iff.2 hall]
  simp

theorem parse_of_first {text : String} {before after : List Char} (h : separator ∉ before)
    (htext : text.toList = before ++ separator :: after) : parse text separator =
      if trimBoth isBlank after = [] then .error (.emptyMethod text)
      else if trimBoth isBlank before = [] then .error (.emptyIdentifier text)
      else .ok ⟨String.ofList (trimBoth isBlank before),
        some (String.ofList (trimBoth isBlank after)), separator⟩ := by
  have hall : ∀ c ∈ before, (c != separator) = true := by
    intro c hc
    simpa using fun heq : c = separator => h (heq ▸ hc)
  rw [parse, htext, List.takeWhile_append_of_pos hall, List.dropWhile_append_of_pos hall]
  simp

/-- Reading gives the reference that the text stands for, and no other. -/
theorem parse_eq_ok {text : String} {r : ControllerRef} :
    parse text separator = .ok r ↔ Refers separator text.toList r := by
  constructor
  · intro hparse
    rcases separated separator text.toList with hnone | ⟨before, after, hbefore, htext⟩
    · rw [parse_of_notMem hnone] at hparse
      split at hparse
      · cases hparse
      · next hname =>
        cases hparse
        exact .controller hnone (HoldsName.iff_trimBoth.2 ⟨hname, rfl⟩)
    · rw [parse_of_first hbefore htext] at hparse
      rw [htext]
      split at hparse
      · cases hparse
      · next hmethod =>
        split at hparse
        · cases hparse
        · next hname =>
          cases hparse
          exact .method hbefore (HoldsName.iff_trimBoth.2 ⟨hname, rfl⟩)
            (HoldsName.iff_trimBoth.2 ⟨hmethod, rfl⟩)
  · intro hrefers
    generalize htext : text.toList = cs at hrefers
    cases hrefers with
    | controller hnone hname =>
      obtain ⟨hne, rfl⟩ := HoldsName.iff_trimBoth.1 hname
      rw [← htext] at hnone hne ⊢
      rw [parse_of_notMem hnone, if_neg hne]
    | method hbefore hname hmethod =>
      obtain ⟨hne, rfl⟩ := HoldsName.iff_trimBoth.1 hname
      obtain ⟨hne', rfl⟩ := HoldsName.iff_trimBoth.1 hmethod
      rw [parse_of_first hbefore htext, if_neg hne', if_neg hne]

/-- A text is refused exactly if a part of it has no name. -/
theorem exists_refers_iff {text : List Char} : (∃ r, Refers separator text r) ↔
    (separator ∉ text ∧ ∃ c ∈ text, isBlank c = false) ∨
      ∃ before after, separator ∉ before ∧ text = before ++ separator :: after ∧
        (∃ c ∈ before, isBlank c = false) ∧ ∃ c ∈ after, isBlank c = false := by
  simp only [← HoldsName.exists_iff]
  constructor
  · rintro ⟨r, hrefers⟩
    cases hrefers with
    | controller hnone hname => exact .inl ⟨hnone, _, hname⟩
    | method hbefore hname hmethod =>
      exact .inr ⟨_, _, hbefore, rfl, ⟨_, hname⟩, ⟨_, hmethod⟩⟩
  · rintro (⟨hnone, name, hname⟩ | ⟨before, after, hbefore, rfl, ⟨name, hname⟩, method, hmethod⟩)
    · exact ⟨_, .controller hnone hname⟩
    · exact ⟨_, .method hbefore hname hmethod⟩

/-! ## Writing -/

/-- A reference as it is written stands for itself. -/
theorem refers_text {text : List Char} {r : ControllerRef} (h : Refers separator text r) :
    Refers separator r.text.toList r := by
  cases h with
  | controller hnone hname =>
    exact .controller (fun hmem => hnone (hname.subset hmem)) hname.refl
  | method hbefore hname hmethod =>
    rename_i before after identifier method
    have htext : (⟨identifier, some method, separator⟩ : ControllerRef).text.toList =
        identifier.toList ++ separator :: method.toList := by
      simp [ControllerRef.text]
    rw [htext]
    exact .method (fun hmem => hbefore (hname.subset hmem)) hname.refl hmethod.refl

end ControllerRef

namespace Handler

theorem parse_eq_ok {text : String} {separator : Char} {handler : Handler} :
    parse text separator = .ok handler ↔
      ∃ r, Refers separator text.toList r ∧ handler = .controller r := by
  simp only [← ControllerRef.parse_eq_ok]
  rw [parse]
  cases ControllerRef.parse text separator with
  | error e => simp [Except.map]
  | ok r => simp [Except.map, eq_comm]

/-- A text refers to a controller exactly if the part in front of its first separator and, if there
is one, the part behind have something besides blanks. The names that are read are not empty and
have no blanks at their ends, the separator is not in the first, and the reference as it is written
is read back. -/
theorem parse_reference (text : String) (separator : Char) :
    ((∃ handler, parse text separator = .ok handler) ↔
      (separator ∉ text.toList ∧ ∃ c ∈ text.toList, isBlank c = false) ∨
        ∃ before after, separator ∉ before ∧ text.toList = before ++ separator :: after ∧
          (∃ c ∈ before, isBlank c = false) ∧ ∃ c ∈ after, isBlank c = false) ∧
    ∀ handler, parse text separator = .ok handler → ∃ r, handler = .controller r ∧
      Refers separator text.toList r ∧ r.separator = separator ∧
      r.identifier ≠ "" ∧ Trimmed isBlank r.identifier.toList ∧
      separator ∉ r.identifier.toList ∧
      (∀ method, r.method = some method → method ≠ "" ∧ Trimmed isBlank method.toList) ∧
      parse handler.text separator = .ok handler := by
  constructor
  · rw [← ControllerRef.exists_refers_iff]
    constructor
    · rintro ⟨handler, hparse⟩
      obtain ⟨r, hrefers, -⟩ := parse_eq_ok.1 hparse
      exact ⟨r, hrefers⟩
    · rintro ⟨r, hrefers⟩
      exact ⟨.controller r, parse_eq_ok.2 ⟨r, hrefers, rfl⟩⟩
  · intro handler hparse
    obtain ⟨r, hrefers, rfl⟩ := parse_eq_ok.1 hparse
    have hwritten : parse (Handler.controller r).text separator = .ok (.controller r) :=
      parse_eq_ok.2 ⟨r, ControllerRef.refers_text hrefers, rfl⟩
    refine ⟨r, rfl, hrefers, ?_⟩
    generalize text.toList = cs at hrefers
    cases hrefers with
    | controller hnone hname =>
      exact ⟨rfl, hname.nonempty, hname.trimmed, fun hmem => hnone (hname.subset hmem), by simp,
        hwritten⟩
    | method hbefore hname hmethod =>
      refine ⟨rfl, hname.nonempty, hname.trimmed, fun hmem => hbefore (hname.subset hmem), ?_,
        hwritten⟩
      intro method hsome
      cases hsome
      exact ⟨hmethod.nonempty, hmethod.trimmed⟩

/-- A method with a separator in it, between blanks, and a separator that is a blank itself. -/
theorem parse_reference_nested :
    let shown : Handler := .controller ⟨"users", some "show@all", '@'⟩
    (parse " users\t@ show@all " '@' = .ok shown ∧ shown.text = "users@show@all" ∧
        parse shown.text '@' = .ok shown) ∧
      ¬ ∃ handler, parse " users" ' ' = .ok handler := by
  intro shown
  refine ⟨?_, ?_⟩
  · have hparse : parse " users\t@ show@all " '@' = .ok shown :=
      parse_eq_ok.2 ⟨_, ControllerRef.parse_eq_ok.1 (by decide +kernel), rfl⟩
    obtain ⟨r, -, -, -, -, -, -, -, hwritten⟩ :=
      (parse_reference " users\t@ show@all " '@').2 shown hparse
    exact ⟨hparse, by decide +kernel, hwritten⟩
  · rw [(parse_reference " users" ' ').1]
    rintro (⟨hnone, -⟩ | ⟨before, after, hbefore, htext, ⟨c, hc, -⟩, -⟩)
    · exact hnone (by decide)
    · -- The separator is the first character, so nothing is in front of it.
      cases before with
      | nil => cases hc
      | cons d before =>
        have hd : ' ' = d := (List.cons.inj htext).1
        exact hbefore (hd ▸ List.mem_cons_self)

end Handler

end HttpRoutes
