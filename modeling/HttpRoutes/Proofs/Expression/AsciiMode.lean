import HttpRoutes.Proofs.Expression.NormalSpans

/-!
# Reading classes as ASCII

An expression that sets no flags itself has a meaning with the Unicode flag on and may have one
with the flag off. Where it has both, the two are put together alike, from sets that have the same
ASCII members and conditions that agree between ASCII characters (`Term.related_branches`). So on a
text of ASCII characters the expression spans the same with the flag on and off
(`Term.spanAlike_form`).
-/

namespace HttpRoutes

open Text

/-! ## Sets of characters -/

namespace Text.CharSet

/-- The first set has the ASCII members of the second and no others, and everything in the second is
a character. -/
structure Restricts (s s' : CharSet) : Prop where
  iff (n : Nat) : s.hasCode n = true ↔ n < 128 ∧ s'.hasCode n = true
  proper : s'.Proper

variable {s s' t t' : CharSet}

theorem Restricts.proper_left (h : Restricts s s') : s.Proper :=
  fun n hn => h.proper n ((h.iff n).1 hn).2

theorem Restricts.hasCode_eq (h : Restricts s s') {n : Nat} (hn : n < 128) :
    s.hasCode n = s'.hasCode n := by
  rw [Bool.eq_iff_iff, h.iff, and_iff_right hn]

theorem Restricts.contains_eq (h : Restricts s s') {c : Char} (hc : c.toNat < 128) :
    s.contains c = s'.contains c := h.hasCode_eq hc

theorem Restricts.hasCode_of_le (h : Restricts s s') {n : Nat} (hn : 128 ≤ n) :
    s.hasCode n = false := by
  rw [← Bool.not_eq_true, h.iff]
  omega

theorem lt_of_isAscii (h : s.isAscii = true) {n : Nat} (hn : s.hasCode n = true) : n < 128 := by
  obtain ⟨r, hr, hle⟩ := List.any_eq_true.1 hn
  have hmax := List.all_eq_true.1 h r hr
  simp only [Bool.and_eq_true, decide_eq_true_eq] at hle hmax
  omega

theorem exists_char {n : Nat} (h : n.isValidChar) : ∃ c : Char, c.toNat = n :=
  ⟨Char.ofNatAux n h, rfl⟩

theorem proper_of_lt (h : ∀ n, s.hasCode n = true → n < 128) : s.Proper :=
  fun n hn => exists_char (.inl ((h n hn).trans (by decide)))

/-- The ranges that start above the ASCII characters have no say in which of these are members. -/
theorem hasCode_filter (s : CharSet) {n : Nat} (hn : n < 128) :
    CharSet.hasCode ⟨s.ranges.filter (·.1 < 128)⟩ n = s.hasCode n := by
  simp only [hasCode, List.any_filter]
  congr 1
  funext r
  by_cases hr : r.1 < 128
  · simp [hr]
  · simp [hr, show ¬ r.1 ≤ n by omega]

/-- A set of ASCII characters is its own restriction. -/
theorem restricts_self (h : ∀ n, s.hasCode n = true → n < 128) : Restricts s s :=
  ⟨fun n => ⟨fun hn => ⟨h n hn, hn⟩, And.right⟩, proper_of_lt h⟩

theorem Restricts.union (hs : Restricts s s') (ht : Restricts t t') :
    Restricts (s.union t) (s'.union t') := by
  refine ⟨fun n => ?_, hs.proper.union ht.proper⟩
  simp only [hasCode_union, Bool.or_eq_true, hs.iff, ht.iff, and_or_left]

theorem hasCode_compl (n : Nat) :
    s.compl.hasCode n = (decide (n ≤ 0x10FFFF) && !s.hasCode n) := by
  rw [compl, hasCode_diff]
  simp [full, hasCode]

theorem Restricts.diff (hs : Restricts s s') (ht : Restricts t t') :
    Restricts (s.diff t) (s'.diff t') := by
  refine ⟨fun n => ?_, fun n hn => ?_⟩
  · by_cases hn : n < 128
    · simp only [hasCode_diff, hs.hasCode_eq hn, ht.hasCode_eq hn, hn, true_and]
    · simp [hasCode_diff, hs.hasCode_of_le (Nat.not_lt.1 hn), hn]
  · rw [hasCode_diff, Bool.and_eq_true] at hn
    exact hs.proper n hn.1

theorem Restricts.inter (hs : Restricts s s') (ht : Restricts t t') :
    Restricts (s.inter t) (s'.inter t') := by
  refine ⟨fun n => ?_, fun n hn => ?_⟩
  · by_cases hn : n < 128
    · simp only [CharSet.inter, hasCode_diff, hasCode_compl, hs.hasCode_eq hn, ht.hasCode_eq hn, hn,
        true_and]
    · simp [CharSet.inter, hasCode_diff, hs.hasCode_of_le (Nat.not_lt.1 hn), hn]
  · rw [CharSet.inter, hasCode_diff, Bool.and_eq_true] at hn
    exact hs.proper n hn.1

end Text.CharSet

namespace Expression

open CharSet (Restricts)

theorem SetOp.restricts (o : SetOp) {s s' t t' : CharSet} (hs : Restricts s s')
    (ht : Restricts t t') : Restricts (o.apply s t) (o.apply s' t') := by
  cases o with
  | inter => exact hs.inter ht
  | diff => exact hs.diff ht
  | symmDiff => exact (hs.diff ht).union (ht.diff hs)

theorem EscapedClass.restricts (k : EscapedClass) : Restricts (k.set false) (k.set true) := by
  have hascii : (k.set false).isAscii = true := by cases k <;> decide
  have hstarts : (k.set true).ranges.filter (·.1 < 128) = (k.set false).ranges := by
    cases k <;> decide +kernel
  have hsame {n : Nat} (hn : n < 128) : (k.set false).hasCode n = (k.set true).hasCode n := by
    rw [← CharSet.hasCode_filter (k.set true) hn, hstarts]
  have hranges : ∀ r ∈ (k.set true).ranges, r.2 < 0xD800 ∨ 0xDFFF < r.1 ∧ r.2 < 0x110000 := by
    cases k <;> decide +kernel
  refine ⟨fun n => ?_, fun n hn => ?_⟩
  · constructor
    · intro hn
      have hlt := CharSet.lt_of_isAscii hascii hn
      exact ⟨hlt, hsame hlt ▸ hn⟩
    · rintro ⟨hlt, hn⟩
      exact (hsame hlt).trans hn
  · obtain ⟨r, hr, hle⟩ := List.any_eq_true.1 hn
    simp only [Bool.and_eq_true, decide_eq_true_eq] at hle
    refine CharSet.exists_char ?_
    show n < 0xD800 ∨ 0xDFFF < n ∧ n < 0x110000
    have hvalid := hranges r hr
    omega

theorem PosixClass.restricts (k : PosixClass) : Restricts k.set k.set := by
  have hascii : k.set.isAscii = true := by cases k <;> decide
  exact CharSet.restricts_self fun n => CharSet.lt_of_isAscii hascii

/-! ## Classes -/

/-- The flags of an expression that only turns the Unicode flag off. -/
def Modes.ascii : Modes := ⟨false, false, false, false, false, false⟩

/-- With the Unicode flag off nothing is negated. -/
theorem Modes.negate_ascii {negated : Bool} {s r : CharSet}
    (h : Modes.ascii.negate? negated s = some r) : negated = false ∧ r = s := by
  cases negated with
  | false => exact ⟨rfl, (Option.some.inj h).symm⟩
  | true => cases h

theorem Modes.restricts_negate {negated : Bool} {s s' r r' : CharSet} (hs : Restricts s s')
    (h : Modes.ascii.negate? negated s = some r) (h' : Modes.initial.negate? negated s' = some r') :
    Restricts r r' := by
  obtain ⟨rfl, rfl⟩ := negate_ascii h
  cases h'
  exact hs

theorem Modes.classChar_ascii {l : Literal} {n : Nat} (h : Modes.ascii.classChar? l = some n) :
    n < 128 ∧ n = l.char.toNat := by
  unfold classChar? at h
  split at h
  · next hchar =>
    cases h
    exact ⟨hchar.resolve_left (by decide), rfl⟩
  · cases h

theorem restricts_range {lo hi : Nat} (h : hi < 128) :
    Restricts (CharSet.range lo hi) (CharSet.range lo hi) := by
  refine CharSet.restricts_self fun n hn => ?_
  simp only [CharSet.range, CharSet.hasCode, List.any_cons, List.any_nil, Bool.or_false,
    Bool.and_eq_true, decide_eq_true_eq] at hn
  omega

/-- What the body of a class lists with the Unicode flag off are the ASCII characters among what it
lists with the flag on. -/
theorem ClassBody.restricts {body : ClassBody} {s s' : CharSet}
    (h : body.set? .ascii = some s) (h' : body.set? .initial = some s') : Restricts s s' := by
  induction body generalizing s s' with
  | nothing =>
    cases h
    cases h'
    exact CharSet.restricts_self (by simp [CharSet.empty, CharSet.hasCode])
  | char l =>
    obtain ⟨n, hn, h⟩ := Option.bind_eq_some_iff.1 h
    cases h
    cases (show some (CharSet.range l.char.toNat l.char.toNat) = some s' from h')
    obtain ⟨hlt, rfl⟩ := Modes.classChar_ascii hn
    exact restricts_range hlt
  | range lo hi =>
    obtain ⟨a, ha, h⟩ := Option.bind_eq_some_iff.1 h
    obtain ⟨b, hb, h⟩ := Option.bind_eq_some_iff.1 h
    cases h
    cases (show some (CharSet.range lo.char.toNat hi.char.toNat) = some s' from h')
    obtain ⟨-, rfl⟩ := Modes.classChar_ascii ha
    obtain ⟨hlt, rfl⟩ := Modes.classChar_ascii hb
    exact restricts_range hlt
  | posix k negated => exact Modes.restricts_negate k.restricts h h'
  | escaped k negated => exact Modes.restricts_negate k.restricts h h'
  | property q negated => cases h
  | bracketed negated body ih =>
    obtain ⟨t, ht, h⟩ := Option.bind_eq_some_iff.1 h
    obtain ⟨t', ht', h'⟩ := Option.bind_eq_some_iff.1 h'
    exact Modes.restricts_negate (ih ht ht') h h'
  | items first rest ih₁ ih₂ =>
    obtain ⟨a, ha, h⟩ := Option.bind_eq_some_iff.1 h
    obtain ⟨b, hb, h⟩ := Option.bind_eq_some_iff.1 h
    obtain ⟨a', ha', h'⟩ := Option.bind_eq_some_iff.1 h'
    obtain ⟨b', hb', h'⟩ := Option.bind_eq_some_iff.1 h'
    cases h
    cases h'
    exact (ih₁ ha ha').union (ih₂ hb hb')
  | op o left right ih₁ ih₂ =>
    obtain ⟨a, ha, h⟩ := Option.bind_eq_some_iff.1 h
    obtain ⟨b, hb, h⟩ := Option.bind_eq_some_iff.1 h
    obtain ⟨a', ha', h'⟩ := Option.bind_eq_some_iff.1 h'
    obtain ⟨b', hb', h'⟩ := Option.bind_eq_some_iff.1 h'
    cases h
    cases h'
    exact o.restricts (ih₁ ha ha') (ih₂ hb hb')

/-! ## Terms -/

/-- Whether the term sets flags anywhere, for a group or for what follows. -/
def Term.setsFlags : Term → Bool
  | .setFlags _ => true
  | .scoped settings body => !settings.isEmpty || body.setsFlags
  | .repetition _ _ _ body => body.setsFlags
  | .capture _ _ body => body.setsFlags
  | .seq first rest => first.setsFlags || rest.setsFlags
  | .alt first rest => first.setsFlags || rest.setsFlags
  | _ => false

/-- The terms in a term, the term itself apart, between whose branches a choice is made. -/
def Term.innerChoices : Term → List Term
  | .repetition _ _ _ body => body :: body.innerChoices
  | .capture _ _ body => body :: body.innerChoices
  | .scoped _ body => body :: body.innerChoices
  | .seq first rest => first :: first.innerChoices ++ rest :: rest.innerChoices
  | .alt first rest => first :: first.innerChoices ++ rest.innerChoices
  | _ => []

/-- Relations between the forms of a term with the Unicode flag off and on: `Branch` between single
branches, `Chosen` between choices. They hold of the parts that are not put together, and what is
put together of related choices is related. -/
structure Compositional (Branch Chosen : Form → Form → Prop) : Prop where
  branch {f f' : Form} : Chosen f f' → Branch f f'
  empty : Chosen .empty .empty
  char (c : Char) : Chosen (.literal [c]) (.literal [c])
  look (a : Assertion) : Chosen (.look (Modes.ascii.look a)) (.look (Modes.initial.look a))
  set {s s' : CharSet} : Restricts s s' → Branch (.ofSet false s) (.ofSet true s')
  repeated (least : Nat) (most : Option Nat) (greedy : Bool) {f f' : Form} : Chosen f f' →
    Chosen (.repeated least most greedy f) (.repeated least most greedy f')
  capture (index : Nat) {f f' : Form} : Chosen f f' → Chosen (.capture index f) (.capture index f')
  concat {f f' g g' : Form} : Chosen f f' → Chosen g g' →
    Chosen (.concat [f, g]) (.concat [f', g'])

/-- Where the term has branches with the Unicode flag off and on, related branches make related
choices. -/
def Term.Chooses (Branch Chosen : Form → Form → Prop) (t : Term) : Prop :=
  ∀ forms forms' m m', t.branches? .ascii = some (forms, m) →
    t.branches? .initial = some (forms', m') → List.Forall₂ Branch forms forms' →
      Chosen (.choose forms) (.choose forms')

/-- A term that sets no flags has related branches with the Unicode flag off and on if all choices
inside it are made alike. -/
theorem Term.related_branches {Branch Chosen : Form → Form → Prop}
    (hrelated : Compositional Branch Chosen) {t : Term} (hflags : t.setsFlags = false)
    (hinner : ∀ s ∈ t.innerChoices, s.Chooses Branch Chosen) {forms forms' : List Form}
    {m m' : Modes} (h : t.branches? .ascii = some (forms, m))
    (h' : t.branches? .initial = some (forms', m')) :
    m = .ascii ∧ m' = .initial ∧ List.Forall₂ Branch forms forms' := by
  have hone {f f' : Form} (hf : Branch f f') : List.Forall₂ Branch [f] [f'] := .cons hf .nil
  have hchooses {s : Term} (hs : s.Chooses Branch Chosen) {fs fs' : List Form} {a a' : Modes}
      (hfs : Denotes .ascii s fs a) (hfs' : Denotes .initial s fs' a')
      (hall : List.Forall₂ Branch fs fs') : Chosen (.choose fs) (.choose fs') :=
    hs _ _ _ _ (branches_eq_some.2 hfs) (branches_eq_some.2 hfs') hall
  rw [branches_eq_some] at h h'
  induction t generalizing forms forms' m m' with
  | empty =>
    match h, h' with
    | .empty, .empty => exact ⟨rfl, rfl, hone (hrelated.branch hrelated.empty)⟩
  | setFlags settings => cases hflags
  | char l =>
    match h, h' with
    | .char hf, .char hf' =>
      rw [Modes.charForm_of_case rfl hf, Modes.charForm_of_case rfl hf']
      exact ⟨rfl, rfl, hone (hrelated.branch (hrelated.char l.char))⟩
  | dot =>
    match h with
    | .dot hf => cases hf
  | assertion a =>
    match h, h' with
    | .assertion, .assertion => exact ⟨rfl, rfl, hone (hrelated.branch (hrelated.look a))⟩
  | escaped k negated =>
    match h, h' with
    | .escaped hs, .escaped hs' =>
      exact ⟨rfl, rfl, hone (hrelated.set (Modes.restricts_negate k.restricts hs hs'))⟩
  | property q negated =>
    match h with
    | .property hs => cases hs
  | bracketed negated body =>
    match h, h' with
    | .bracketed ht hs, .bracketed ht' hs' =>
      have hbody := ClassBody.restricts ht ht'
      exact ⟨rfl, rfl, hone (hrelated.set (Modes.restricts_negate hbody hs hs'))⟩
  | repetition least most greedy body ih =>
    match h, h' with
    | .repetition hfs, .repetition hfs' =>
      obtain ⟨hbody, hinner⟩ := List.forall_mem_cons.1 hinner
      have hchosen := hchooses hbody hfs hfs' (ih hflags hinner hfs hfs').2.2
      exact ⟨rfl, rfl, hone (hrelated.branch (hrelated.repeated _ _ _ hchosen))⟩
  | capture index name body ih =>
    match h, h' with
    | .capture hfs, .capture hfs' =>
      obtain ⟨hbody, hinner⟩ := List.forall_mem_cons.1 hinner
      have hchosen := hchooses hbody hfs hfs' (ih hflags hinner hfs hfs').2.2
      exact ⟨rfl, rfl, hone (hrelated.branch (hrelated.capture index hchosen))⟩
  | «scoped» settings body ih =>
    rw [setsFlags, Bool.or_eq_false_iff, Bool.not_eq_false', List.isEmpty_iff] at hflags
    obtain ⟨rfl, hflags⟩ := hflags
    match h, h' with
    | .scoped hfs, .scoped hfs' =>
      obtain ⟨hbody, hinner⟩ := List.forall_mem_cons.1 hinner
      have hchosen := hchooses hbody hfs hfs' (ih hflags hinner hfs hfs').2.2
      exact ⟨rfl, rfl, hone (hrelated.branch hchosen)⟩
  | seq first rest ih₁ ih₂ =>
    rw [setsFlags, Bool.or_eq_false_iff] at hflags
    obtain ⟨hfirst, hrest⟩ := List.forall_mem_append.1 hinner
    obtain ⟨hchoice, hfirst⟩ := List.forall_mem_cons.1 hfirst
    obtain ⟨hchoice', hrest⟩ := List.forall_mem_cons.1 hrest
    match h, h' with
    | .seq ha hb, .seq ha' hb' =>
      obtain ⟨rfl, rfl, has⟩ := ih₁ hflags.1 hfirst ha ha'
      obtain ⟨rfl, rfl, hbs⟩ := ih₂ hflags.2 hrest hb hb'
      have hconcat := hrelated.concat (hchooses hchoice ha ha' has) (hchooses hchoice' hb hb' hbs)
      exact ⟨rfl, rfl, hone (hrelated.branch hconcat)⟩
  | alt first rest ih₁ ih₂ =>
    rw [setsFlags, Bool.or_eq_false_iff] at hflags
    obtain ⟨hfirst, hrest⟩ := List.forall_mem_append.1 hinner
    obtain ⟨hchoice, hfirst⟩ := List.forall_mem_cons.1 hfirst
    match h, h' with
    | .alt ha hb, .alt ha' hb' =>
      obtain ⟨rfl, rfl, has⟩ := ih₁ hflags.1 hfirst ha ha'
      obtain ⟨rfl, rfl, hbs⟩ := ih₂ hflags.2 hrest hb hb'
      exact ⟨rfl, rfl, .cons (hrelated.branch (hchooses hchoice ha ha' has)) hbs⟩

/-! ## Texts of ASCII characters -/

/-- All characters of the text are ASCII characters. -/
def IsAscii (text : List Char) : Prop := ∀ c ∈ text, c.toNat < 128

instance (text : List Char) : Decidable (IsAscii text) :=
  List.decidableBAll _ text

theorem isWord_ascii {c : Option Char} (h : ∀ x ∈ c, x.toNat < 128) :
    Matcher.isWord false c = Matcher.isWord true c := by
  cases c with
  | none => rfl
  | some x => exact (EscapedClass.restricts .word).contains_eq (h x rfl)

/-- The condition with words made of ASCII characters. -/
def Look.inAscii : Look → Look
  | .boundary _ => .boundary false
  | .notBoundary _ => .notBoundary false
  | .wordStart _ => .wordStart false
  | .wordEnd _ => .wordEnd false
  | .wordStartHalf _ => .wordStartHalf false
  | .wordEndHalf _ => .wordEndHalf false
  | l => l

/-- Between ASCII characters it makes no difference what makes a word. -/
theorem holds_inAscii {before after : Option Char} (hbefore : ∀ x ∈ before, x.toNat < 128)
    (hafter : ∀ x ∈ after, x.toNat < 128) (l : Look) :
    l.inAscii.holds before after = l.holds before after := by
  have hword {c : Option Char} (hc : ∀ x ∈ c, x.toNat < 128) (u : Bool) :
      Matcher.isWord u c = Matcher.isWord false c := by
    cases u
    · rfl
    · exact (isWord_ascii hc).symm
  cases l <;> simp [Look.inAscii, Look.holds, hword hbefore, hword hafter]

theorem inAscii_look (a : Assertion) :
    (Modes.ascii.look a).inAscii = (Modes.initial.look a).inAscii := by
  cases a <;> rfl

namespace IsAscii

variable {text : List Char}

theorem before (h : IsAscii text) (i : Nat) : ∀ x ∈ (text.take i).getLast?, x.toNat < 128 :=
  fun x hx => h x (List.mem_of_mem_take (List.mem_of_getLast? hx))

theorem after (h : IsAscii text) (i : Nat) : ∀ x ∈ (text.drop i).head?, x.toNat < 128 :=
  fun x hx => h x (List.mem_of_mem_drop (List.mem_of_mem_head? hx))

end IsAscii

/-- The forms span the same on the text, and everything in their sets is a character. -/
structure SpanAlike (text : List Char) (f f' : Form) : Prop where
  proper : f.Proper
  proper' : f'.Proper
  spans (i j : Nat) : f.Spans text i j ↔ f'.Spans text i j

variable {text : List Char}

theorem compositional_spanAlike (htext : IsAscii text) :
    Compositional (SpanAlike text) (SpanAlike text) where
  branch h := h
  empty := ⟨trivial, trivial, fun _ _ => Iff.rfl⟩
  char c := ⟨trivial, trivial, fun _ _ => Iff.rfl⟩
  look a := by
    have hspans (l : Look) (i j : Nat) : (Form.look l).Spans text i j ↔
        i = j ∧ l.holds (text.take i).getLast? (text.drop i).head? = true := Iff.rfl
    refine ⟨trivial, trivial, fun i j => ?_⟩
    rw [hspans, hspans, ← holds_inAscii (htext.before i) (htext.after i), inAscii_look,
      holds_inAscii (htext.before i) (htext.after i)]
  set h := by
    refine ⟨Form.proper_ofSet _ h.proper_left, Form.proper_ofSet _ h.proper, fun i j => ?_⟩
    rw [Form.spans_ofSet _ h.proper_left, Form.spans_ofSet _ h.proper]
    refine and_congr_right fun _ => exists_congr fun c => and_congr_right fun hc => ?_
    rw [h.contains_eq (htext c (List.mem_of_getElem? hc))]
  repeated least most greedy f f' h := by
    refine ⟨Form.madeOf_repeated Form.lasting_setProper h.proper,
      Form.madeOf_repeated Form.lasting_setProper h.proper', fun i j => ?_⟩
    have hbody : f.Spans text = f'.Spans text := by
      funext i j
      exact propext (h.spans i j)
    simp only [Form.spans_repeated, Form.Spans, hbody]
  capture index f f' h := ⟨h.proper, h.proper', h.spans⟩
  concat hf hg := by
    refine ⟨Form.madeOf_concat Form.lasting_setProper (by simp [hf.proper, hg.proper]),
      Form.madeOf_concat Form.lasting_setProper (by simp [hf.proper', hg.proper']), fun i j => ?_⟩
    simp only [Form.spans_concat, Form.SpansAll, hf.spans, hg.spans]

theorem spanAlike_choose {forms forms' : List Form}
    (h : List.Forall₂ (SpanAlike text) forms forms') :
    SpanAlike text (.choose forms) (.choose forms') := by
  have hproper : (∀ f ∈ forms, f.Proper) ∧ (∀ f ∈ forms', f.Proper) ∧
      ∀ i j, (∃ f ∈ forms, f.Spans text i j) ↔ ∃ f ∈ forms', f.Spans text i j := by
    induction h with
    | nil => simp
    | cons hf _ ih =>
      obtain ⟨hleft, hright, hspans⟩ := ih
      refine ⟨List.forall_mem_cons.2 ⟨hf.proper, hleft⟩,
        List.forall_mem_cons.2 ⟨hf.proper', hright⟩, fun i j => ?_⟩
      rw [List.exists_mem_cons_iff, List.exists_mem_cons_iff, hf.spans, hspans]
  obtain ⟨hleft, hright, hspans⟩ := hproper
  refine ⟨Form.madeOf_choose Form.lasting_setProper hleft,
    Form.madeOf_choose Form.lasting_setProper hright, fun i j => ?_⟩
  rw [Form.spans_choose hleft, Form.spans_choose hright, hspans]

/-- On a text of ASCII characters, a term that sets no flags spans the same with the Unicode flag
off and on. -/
theorem Term.spanAlike_form (htext : IsAscii text) {t : Term} (hflags : t.setsFlags = false)
    {f f' : Form} (h : (Term.scoped [⟨.unicode, false⟩] t).form? = some f)
    (h' : t.form? = some f') : SpanAlike text f f' := by
  obtain ⟨⟨outer, m⟩, houter, rfl⟩ := Option.map_eq_some_iff.1 h
  obtain ⟨⟨forms, n⟩, hforms, heq⟩ := Option.bind_eq_some_iff.1 houter
  obtain ⟨⟨forms', m'⟩, hforms', rfl⟩ := Option.map_eq_some_iff.1 h'
  cases heq
  have hbranches := (related_branches (compositional_spanAlike htext) hflags
    (fun s _ _ _ _ _ _ _ h => spanAlike_choose h) hforms hforms').2.2
  have hchosen := spanAlike_choose hbranches
  refine ⟨Form.madeOf_choose Form.lasting_setProper (by simpa using hchosen.proper),
    hchosen.proper', fun i j => ?_⟩
  rw [Form.spans_choose (by simpa using hchosen.proper)]
  simpa using hchosen.spans i j

end Expression

end HttpRoutes
