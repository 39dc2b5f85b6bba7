import HttpRoutes.Proofs.Expression.Outcomes

/-!
# Matching whole texts

Searching for a form between anchors gives the preferred one of its matches that reach from one end
of the text to the other. A choice between forms gives the match of the first form that has one.
-/

namespace HttpRoutes.Expression

/-! ## The preferred way to a place -/

/-- Leaving out what leads to the same place as something earlier does not change the first outcome
of a kind that depends on the place. -/
theorem find_keepFirst {p : Outcome → Bool} {os : List Outcome} (seen : Positions)
    (hp : ∀ o ∈ os, ∀ o' ∈ os, o.cursor.pos = o'.cursor.pos → p o = p o')
    (hseen : ∀ o ∈ os, seen.contains o.cursor.pos → p o = false) :
    (keepFirst seen os).find? p = os.find? p := by
  induction os generalizing seen with
  | nil => rfl
  | cons o os ih =>
    have hp' : ∀ a ∈ os, ∀ b ∈ os, a.cursor.pos = b.cursor.pos → p a = p b := fun a ha b hb =>
      hp a (List.mem_cons_of_mem _ ha) b (List.mem_cons_of_mem _ hb)
    have hseen' : ∀ a ∈ os, seen.contains a.cursor.pos → p a = false := fun a ha =>
      hseen a (List.mem_cons_of_mem _ ha)
    rw [keepFirst]
    split
    · next hc =>
      rw [ih seen hp' hseen', List.find?_cons, hseen o List.mem_cons_self hc]
    · rw [List.find?_cons, List.find?_cons]
      cases hpo : p o with
      | true => rfl
      | false =>
        -- Whatever leads to the place of `o` later is as little of the kind as `o` is.
        refine ih _ hp' fun a ha hc => ?_
        rw [Positions.contains_insert, Bool.or_eq_true, decide_eq_true_eq] at hc
        rcases hc with hc | hc
        · exact hseen' a ha hc
        · rw [← hp o List.mem_cons_self a (List.mem_cons_of_mem _ ha) hc, hpo]

theorem head_keepFirst (os : List Outcome) : (keepFirst .empty os).head? = os.head? := by
  cases os with
  | nil => rfl
  | cons o os => simp [keepFirst]

/-- Whether the outcome is at the end of the text. -/
def Outcome.atEnd (o : Outcome) : Bool := o.cursor.rest.isEmpty

/-- On one text the position tells whether a place is at the end. -/
theorem Leads.atEnd_eq {groups groups' : List Nat} {c : Cursor} {o o' : Outcome}
    {xs ys : List Capture} (h : Leads groups c o.cursor xs) (h' : Leads groups' c o'.cursor ys)
    (hpos : o.cursor.pos = o'.cursor.pos) : o.atEnd = o'.atEnd := by
  have hlen : o.cursor.rest.length = o'.cursor.rest.length := by
    have hs := h.onText
    have hs' := h'.onText
    omega
  rw [Outcome.atEnd, Outcome.atEnd, Bool.eq_iff_iff, List.isEmpty_iff_length_eq_zero, hlen,
    ← List.isEmpty_iff_length_eq_zero]

/-! ## Whole texts -/

/-- The captures of the preferred match that is the whole text. -/
def Form.matchWhole? (f : Form) (text : List Char) : Option (List Capture) :=
  ((f.matcher (.start text) .clear).find? Outcome.atEnd).map (·.captures)

/-- The form between anchors at both ends. -/
def Form.anchored (f : Form) : Form := .seq (.seq (.look .start) f) (.look .stop)

/-- The end anchor lets through what is at the end of the text. -/
theorem head_seq_stop (m : Matcher) (c : Cursor) (t : Trail) :
    ((m.seq (.look .stop)) c t).head?.map (·.captures) =
      ((m c t.left).find? Outcome.atEnd).map (·.captures) := by
  rw [Matcher.seq, head_keepFirst, List.head?_flatMap]
  generalize m c t.left = os
  induction os with
  | nil => rfl
  | cons o os ih =>
    rw [List.findSome?_cons, List.find?_cons]
    have hholds : Look.stop.holds o.cursor.before o.cursor.rest.head? = o.atEnd := by
      rw [Look.holds, Outcome.atEnd]
      cases o.cursor.rest <;> rfl
    unfold Matcher.look
    rw [hholds]
    cases o.atEnd with
    | true => rfl
    | false => exact ih

/-- At the start of the text the start anchor changes nothing. -/
theorem find_start_seq {groups : List Nat} {m : Matcher} (hm : Sound groups m) (text : List Char) :
    ((((Matcher.look .start).seq m) (.start text) .clear).find? Outcome.atEnd).map (·.captures) =
      ((m (.start text) .clear).find? Outcome.atEnd).map (·.captures) := by
  have hsound : Sound groups ((Matcher.look .start).seq m) :=
    Matcher.sound_seq (Matcher.sound_look _) hm
  have hlook : Matcher.look .start (.start text) Trail.clear.left =
      [⟨.start text, [], .clear⟩] := rfl
  -- Behind the anchor no outcome may be left out wrongly: whether it is at the end of the text
  -- depends on its place.
  rw [Matcher.seq, hlook, List.flatMap_singleton, find_keepFirst, List.find?_map]
  · rw [Option.map_map]
    exact congrArg₂ Option.map (funext fun o => List.append_nil _) rfl
  · intro o ho o' ho' hpos
    obtain ⟨a, ha, rfl⟩ := List.mem_map.1 ho
    obtain ⟨b, hb, rfl⟩ := List.mem_map.1 ho'
    exact (hm _ _ a ha).atEnd_eq (hm _ _ b hb) hpos
  · simp

/-- Behind the start of the text the start anchor lets nothing through. -/
theorem search_started (f : Form) (ch : Char) (pos : Nat) (text : List Char) :
    search f.anchored.matcher (some ch) pos text = none := by
  have hnone (ch : Char) (pos : Nat) (text : List Char) :
      f.anchored.matcher ⟨some ch, text, pos⟩ .clear = [] := rfl
  induction text generalizing ch pos with
  | nil => rw [search, hnone, List.head?_nil]
  | cons next text ih => rw [search, hnone]; exact ih next (pos + 1)

/-- Searching between anchors finds the preferred match of the whole text. -/
theorem search_anchored (f : Form) (text : List Char) :
    (search f.anchored.matcher none 0 text).map (·.captures) = f.matchWhole? text := by
  have hhead : (f.anchored.matcher (.start text) .clear).head?.map (·.captures) =
      f.matchWhole? text := by
    rw [Form.anchored, Form.matcher, Form.matcher, Form.matcher, Form.matcher, head_seq_stop]
    exact find_start_seq (f.sound fun _ hn => hn) text
  cases text with
  | nil => exact hhead
  | cons ch rest =>
    rw [← hhead, search]
    split
    · next o os heq => rw [Cursor.start, heq]; rfl
    -- The search goes on behind the start, where the anchor holds nowhere.
    · next heq => rw [Cursor.start, heq, search_started]; rfl

/-! ## Groups in front -/

theorem matchWhole_shift (f : Form) (d : Nat) (text : List Char) :
    (f.shift d).matchWhole? text = (f.matchWhole? text).map (List.map (Capture.shift d)) := by
  rw [Form.matchWhole?, Form.matcher_shift, List.find?_map, Option.map_map, Form.matchWhole?,
    Option.map_map]
  rfl

/-! ## Choices -/

theorem leads_of_mem_branches {a b : Form} {c : Cursor} {t t' : Trail} {o : Outcome}
    {mark mark' : Outcome → Outcome}
    (h : o ∈ (a.matcher c t).map mark ++ (b.matcher c t').map mark')
    (hmark : ∀ o, (mark o).cursor = o.cursor) (hmark' : ∀ o, (mark' o).cursor = o.cursor) :
    ∃ groups xs, Leads groups c o.cursor xs := by
  rcases List.mem_append.1 h with h | h
  · obtain ⟨p, hp, rfl⟩ := List.mem_map.1 h
    exact ⟨_, _, hmark p ▸ a.sound (fun _ hn => hn) _ _ p hp⟩
  · obtain ⟨p, hp, rfl⟩ := List.mem_map.1 h
    exact ⟨_, _, hmark' p ▸ b.sound (fun _ hn => hn) _ _ p hp⟩

theorem matchWhole_alt (a b : Form) (text : List Char) :
    (Form.alt a b).matchWhole? text = (a.matchWhole? text).or (b.matchWhole? text) := by
  have hhere : Trail.clear.here = false := rfl
  simp only [Form.matchWhole?, Form.matcher, Matcher.alt, hhere, Bool.false_eq_true, if_false]
  rw [find_keepFirst, List.find?_append, List.find?_map, List.find?_map, Option.map_or,
    Option.map_map, Option.map_map]
  · rfl
  · intro o ho o' ho' hpos
    obtain ⟨_, _, h⟩ := leads_of_mem_branches ho (fun _ => rfl) fun _ => rfl
    obtain ⟨_, _, h'⟩ := leads_of_mem_branches ho' (fun _ => rfl) fun _ => rfl
    exact h.atEnd_eq h' hpos
  · simp

theorem matchWhole_ofChoices (forms : List Form) (text : List Char) :
    (Form.ofChoices forms).matchWhole? text = forms.findSome? (·.matchWhole? text) := by
  induction forms with
  | nil => cases text <;> rfl
  | cons f rest ih =>
    cases rest with
    | nil => simp [Form.ofChoices]
    | cons g rest =>
      rw [Form.ofChoices, matchWhole_alt, ih, List.findSome?_cons (a := f)]
      · cases f.matchWhole? text <;> rfl
      · exact List.cons_ne_nil _ _

/-- What a whole match captures are groups of the form. -/
theorem mem_groups_of_matchWhole {f : Form} {text : List Char} {captures : List Capture}
    (h : f.matchWhole? text = some captures) : ∀ x ∈ captures, x.group ∈ f.groups := by
  obtain ⟨o, ho, rfl⟩ := Option.map_eq_some_iff.1 h
  exact (f.sound (fun _ hn => hn) _ _ o (List.mem_of_find?_eq_some ho)).mem

end HttpRoutes.Expression
