import HttpRoutes.Proofs.Expression.AsciiMode
import HttpRoutes.Proofs.Expression.EvenChoice

/-!
# ASCII mode keeps the preferred match

With the Unicode flag off a choice may be simplified in another way than with the flag on, since
more of its branches may start with the same set. Where every choice either keeps its order with
the flag on and off, or is simplified to the same form up to what makes no difference between ASCII
characters (`Term.evenChoices`), an expression that sets no flags is alike with the flag off and
on: on a text of ASCII characters it leads to the same places with the same captures, in the same
order of preference (`Term.similar_form`).
-/

namespace HttpRoutes.Expression

variable {text : List Char}

/-! ## Forms that agree on ASCII characters -/

/-- Whether the forms differ only in members of sets that are no ASCII characters, and in what makes
a word. -/
def Form.agreesOnAscii : Form → Form → Bool
  | .empty, .empty => true
  | .literal s, .literal s' => s = s'
  | .chars _ set, .chars _ set' =>
    set.isEmpty = set'.isEmpty && (List.range 128).all fun n => set.hasCode n = set'.hasCode n
  | .look l, .look l' => l.inAscii = l'.inAscii
  | .repetition least most greedy body, .repetition least' most' greedy' body' =>
    least = least' && most = most' && greedy = greedy' && body.agreesOnAscii body'
  | .capture index body, .capture index' body' => index = index' && body.agreesOnAscii body'
  | .seq init last, .seq init' last' => init.agreesOnAscii init' && last.agreesOnAscii last'
  | .alt first rest, .alt first' rest' => first.agreesOnAscii first' && rest.agreesOnAscii rest'
  | _, _ => false

theorem alike_look (htext : IsAscii text) {l l' : Look} (h : l.inAscii = l'.inAscii) :
    Alike text (.look l) (.look l') := by
  refine ⟨(· = ·), rfl, ?_⟩
  rintro i t _ rfl
  have hsame : Matcher.look l (.after text i) t = Matcher.look l' (.after text i) t := by
    show (if l.holds (text.take i).getLast? (text.drop i).head? then [_] else []) =
      if l'.holds (text.take i).getLast? (text.drop i).head? then [_] else []
    rw [← holds_inAscii (htext.before i) (htext.after i), h,
      holds_inAscii (htext.before i) (htext.after i)]
  rw [hsame]
  exact (Form.look l').paired_self i t

/-- Forms that agree on ASCII characters are alike on a text of ASCII characters. -/
theorem Form.similar_of_agrees (htext : IsAscii text) {f f' : Form}
    (h : f.agreesOnAscii f' = true) : Similar text f f' := by
  induction f generalizing f' with
  | empty =>
    cases f' with
    | empty => exact .refl _
    | _ => cases h
  | literal s =>
    cases f' with
    | literal s' =>
      obtain rfl : s = s' := of_decide_eq_true h
      exact .refl _
    | _ => cases h
  | chars unicode set =>
    cases f' with
    | chars unicode' set' =>
      simp only [agreesOnAscii, Bool.and_eq_true, decide_eq_true_eq, List.all_eq_true,
        List.mem_range] at h
      exact ⟨alike_one fun c hc => h.2 _ (htext c hc), by simp only [minLength, h.1], rfl⟩
    | _ => cases h
  | look l =>
    cases f' with
    | look l' => exact ⟨alike_look htext (of_decide_eq_true h), rfl, rfl⟩
    | _ => cases h
  | repetition least most greedy body ih =>
    cases f' with
    | repetition least' most' greedy' body' =>
      simp only [agreesOnAscii, Bool.and_eq_true, decide_eq_true_eq] at h
      obtain ⟨⟨⟨rfl, rfl⟩, rfl⟩, hbody⟩ := h
      exact (ih hbody).repetition least most greedy
    | _ => cases h
  | capture index body ih =>
    cases f' with
    | capture index' body' =>
      simp only [agreesOnAscii, Bool.and_eq_true, decide_eq_true_eq] at h
      obtain ⟨rfl, hbody⟩ := h
      exact (ih hbody).capture index
    | _ => cases h
  | seq init last ih₁ ih₂ =>
    cases f' with
    | seq init' last' =>
      obtain ⟨hinit, hlast⟩ := Bool.and_eq_true_iff.1 h
      exact (ih₁ hinit).seq (ih₂ hlast)
    | _ => cases h
  | alt first rest ih₁ ih₂ =>
    cases f' with
    | alt first' rest' =>
      obtain ⟨hfirst, hrest⟩ := Bool.and_eq_true_iff.1 h
      exact (ih₁ hfirst).alt (ih₂ hrest)
    | _ => cases h

/-! ## Choices -/

namespace Term

/-- Whether the Unicode flag makes no difference to the preferred branches of the term: between the
branches it has with the flag off and on, a choice keeps their order or comes out the same. -/
def chosenAlike (t : Term) : Bool :=
  match t.branches? .ascii, t.branches? .initial with
  | some (forms, _), some (forms', _) =>
    (Form.keepsOrder forms && Form.keepsOrder forms') ||
      (Form.choose forms).agreesOnAscii (.choose forms')
  | _, _ => true

/-- Whether the Unicode flag makes no difference to any choice in the term, nor does putting the
term into a group with the flag off. -/
def evenChoices (t : Term) : Bool :=
  (t :: t.innerChoices).all chosenAlike &&
    ((Term.scoped [⟨.unicode, false⟩] t).branches? .initial).all fun forms =>
      Form.keepsOrder forms.1

end Term

/-- The forms are made of sets of characters, and those that can match are alike on the text. -/
structure BranchAlike (text : List Char) (f f' : Form) : Prop where
  proper : f.Proper
  proper' : f'.Proper
  similar : f.minLength.isSome → f'.minLength.isSome → Form.Similar text f f'

/-- The forms are made of sets of characters and alike on the text. -/
structure ChosenAlike (text : List Char) (f f' : Form) : Prop where
  proper : f.Proper
  proper' : f'.Proper
  similar : Form.Similar text f f'

theorem isEmpty_of_minLength {unicode : Bool} {set : Text.CharSet}
    (h : (Form.ofSet unicode set).minLength.isSome) : set.isEmpty = false := by
  unfold Form.ofSet at h
  split at h
  · cases h
  · next hfull => exact Bool.not_eq_true _ ▸ hfull

theorem compositional_alike (htext : IsAscii text) :
    Compositional (BranchAlike text) (ChosenAlike text) where
  branch h := ⟨h.proper, h.proper', fun _ _ => h.similar⟩
  empty := ⟨trivial, trivial, .refl _⟩
  char c := ⟨trivial, trivial, .refl _⟩
  look a := ⟨trivial, trivial, alike_look htext (inAscii_look a), rfl, rfl⟩
  set h := by
    refine ⟨Form.proper_ofSet _ h.proper_left, Form.proper_ofSet _ h.proper, fun hs hs' => ?_⟩
    exact (Form.oneChar_ofSet _ h.proper_left (isEmpty_of_minLength hs)).similar
      (Form.oneChar_ofSet _ h.proper (isEmpty_of_minLength hs')) fun c hc =>
        h.contains_eq (htext c hc)
  repeated least most greedy f f' h :=
    ⟨Form.madeOf_repeated Form.lasting_setProper h.proper,
      Form.madeOf_repeated Form.lasting_setProper h.proper', h.similar.repeated least most greedy⟩
  capture index f f' h := ⟨h.proper, h.proper', h.similar.capture index⟩
  concat hf hg := by
    refine ⟨Form.madeOf_concat Form.lasting_setProper (by simp [hf.proper, hg.proper]),
      Form.madeOf_concat Form.lasting_setProper (by simp [hf.proper', hg.proper']), ?_⟩
    have hchain := Form.chain_similar (.cons hf.similar (.cons hg.similar .nil))
    exact (Form.similar_concat _).trans (hchain.trans (Form.similar_concat _).symm)

theorem proper_of_branches {forms forms' : List Form}
    (h : List.Forall₂ (BranchAlike text) forms forms') :
    (∀ f ∈ forms, f.Proper) ∧ ∀ f ∈ forms', f.Proper := by
  induction h with
  | nil => simp
  | cons hf _ ih =>
    exact ⟨List.forall_mem_cons.2 ⟨hf.proper, ih.1⟩, List.forall_mem_cons.2 ⟨hf.proper', ih.2⟩⟩

theorem forall₂_similar {forms forms' : List Form}
    (h : List.Forall₂ (BranchAlike text) forms forms')
    (hmatch : ∀ f ∈ forms, f.minLength.isSome) (hmatch' : ∀ f ∈ forms', f.minLength.isSome) :
    List.Forall₂ (Form.Similar text) forms forms' := by
  induction h with
  | nil => exact .nil
  | cons hf _ ih =>
    obtain ⟨hfirst, hrest⟩ := List.forall_mem_cons.1 hmatch
    obtain ⟨hfirst', hrest'⟩ := List.forall_mem_cons.1 hmatch'
    exact .cons (hf.similar hfirst hfirst') (ih hrest hrest')

theorem Term.chooses_of_chosenAlike (htext : IsAscii text) {t : Term} (h : t.chosenAlike = true) :
    t.Chooses (BranchAlike text) (ChosenAlike text) := by
  intro forms forms' m m' hforms hforms' hbranches
  obtain ⟨hproper, hproper'⟩ := proper_of_branches hbranches
  refine ⟨Form.madeOf_choose Form.lasting_setProper hproper,
    Form.madeOf_choose Form.lasting_setProper hproper', ?_⟩
  unfold chosenAlike at h
  rw [hforms, hforms'] at h
  rcases Bool.or_eq_true_iff.1 h with h | h
  · obtain ⟨hkeeps, hkeeps'⟩ := Bool.and_eq_true_iff.1 h
    have hsimilar := forall₂_similar hbranches (Form.minLength_of_keepsOrder hkeeps)
      (Form.minLength_of_keepsOrder hkeeps')
    exact (Form.similar_choose hproper hkeeps).trans
      ((Form.ofChoices_similar hsimilar).trans (Form.similar_choose hproper' hkeeps').symm)
  · exact Form.similar_of_agrees htext h

/-- On a text of ASCII characters, a term that sets no flags and whose choices keep their order is
alike with the Unicode flag off and on. -/
theorem Term.similar_form (htext : IsAscii text) {t : Term} (hflags : t.setsFlags = false)
    (heven : t.evenChoices = true) {f f' : Form}
    (h : (Term.scoped [⟨.unicode, false⟩] t).form? = some f) (h' : t.form? = some f') :
    Form.Similar text f f' := by
  obtain ⟨⟨outer, m⟩, houter, rfl⟩ := Option.map_eq_some_iff.1 h
  obtain ⟨hsites, hgroup⟩ := Bool.and_eq_true_iff.1 heven
  rw [houter, Option.all_some] at hgroup
  obtain ⟨⟨forms, n⟩, hforms, heq⟩ := Option.bind_eq_some_iff.1 houter
  obtain ⟨⟨forms', m'⟩, hforms', rfl⟩ := Option.map_eq_some_iff.1 h'
  cases heq
  obtain ⟨htop, hinner⟩ := List.forall_mem_cons.1 (List.all_eq_true.1 hsites)
  have hbranches := (related_branches (compositional_alike htext) hflags
    (fun s hs => chooses_of_chosenAlike htext (hinner s hs)) hforms hforms').2.2
  have hchosen := chooses_of_chosenAlike htext htop _ _ _ _ hforms hforms' hbranches
  exact (Form.similar_choose (by simpa using hchosen.proper) hgroup).trans hchosen.similar

end HttpRoutes.Expression
