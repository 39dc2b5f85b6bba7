import HttpRoutes.Proofs.Expression.AsciiMode
import HttpRoutes.Proofs.Expression.LeadingFlags
import HttpRoutes.Proofs.Expression.LookFree

/-!
# Plain expressions

An expression is plain if it is put together from ASCII characters, `\d`, `\w`, `\s` and classes in
brackets, none of them negated, by sequence, choice, groups and repetition. With the Unicode flag
off it always has a meaning and spans ASCII characters alone (`Term.form_of_isPlain`), and it can
be read with the flag in front wherever it can be read (`Term.parse_behind_flags`).
-/

namespace HttpRoutes.Expression

open Text

/-! ## Pieces of a text -/

/-- All characters between two places of the text have the property. -/
def Between (q : Char → Prop) (text : List Char) (i j : Nat) : Prop :=
  ∀ n c, i ≤ n → n < j → text[n]? = some c → q c

section

variable {q : Char → Prop} {text : List Char} {i j k : Nat}

theorem between_self : Between q text i i := by
  intro n c hge hlt
  omega

theorem Between.append (h : Between q text i k) (h' : Between q text k j) :
    Between q text i j := by
  intro n c hge hlt hc
  by_cases hn : n < k
  · exact h n c hge hn hc
  · exact h' n c (Nat.not_lt.1 hn) hlt hc

theorem between_rounds {R : Nat → Nat → Prop} (h : ∀ i j, R i j → Between q text i j) {n : Nat}
    (hrounds : Rounds R n i j) : Between q text i j := by
  induction n generalizing j with
  | zero =>
    cases hrounds
    exact between_self
  | succ n ih =>
    obtain ⟨k, hik, hkj⟩ := hrounds
    exact (ih hik).append (h k j hkj)

/-- Between the ends of a text stand all its characters. -/
theorem between_all : Between q text 0 text.length ↔ ∀ c ∈ text, q c := by
  constructor
  · intro h c hc
    obtain ⟨n, hn⟩ := List.mem_iff_getElem?.1 hc
    exact h n c (Nat.zero_le n) (List.getElem?_eq_some_iff.1 hn).1 hn
  · intro h n c _ _ hc
    exact h c (List.mem_of_getElem? hc)

end

/-! ## Forms -/

namespace Form

/-- Whatever the form spans has nothing in it but characters with the property. -/
structure Over (q : Char → Prop) (f : Form) : Prop where
  proper : f.Proper
  between {text : List Char} {i j : Nat} : f.Spans text i j → Between q text i j

variable {q : Char → Prop} {f g : Form} {forms : List Form}

theorem over_empty : Over q .empty where
  proper := trivial
  between h := by
    cases h
    exact between_self

theorem over_literal {s : List Char} (h : ∀ c ∈ s, q c) : Over q (.literal s) where
  proper := trivial
  between := by
    rintro text i j ⟨rfl, hprefix⟩ n c hge hlt hc
    obtain ⟨rest, hrest⟩ := hprefix
    have hget : (text.drop i)[n - i]? = some c := by
      rw [List.getElem?_drop, Nat.add_sub_cancel' hge, hc]
    rw [← hrest, List.getElem?_append_left (by omega)] at hget
    exact h c (List.mem_of_getElem? hget)

theorem over_chars (unicode : Bool) {set : CharSet} (hproper : set.Proper)
    (h : ∀ c, set.contains c = true → q c) : Over q (.chars unicode set) where
  proper := hproper
  between := by
    rintro text i j ⟨rfl, c, hc, hset⟩ n d hge hlt hd
    obtain rfl : n = i := by omega
    cases hc.symm.trans hd
    exact h c hset

theorem over_ofSet (unicode : Bool) {set : CharSet} (hproper : set.Proper)
    (h : ∀ c, set.contains c = true → q c) : Over q (ofSet unicode set) where
  proper := proper_ofSet unicode hproper
  between hspans := (over_chars unicode hproper h).between ((spans_ofSet unicode hproper).1 hspans)

theorem Over.repeated (h : f.Over q) (least : Nat) (most : Option Nat) (greedy : Bool) :
    (Form.repeated least most greedy f).Over q where
  proper := madeOf_repeated lasting_setProper h.proper
  between hspans := by
    obtain ⟨n, -, -, hrounds⟩ := (spans_repeated least most greedy f).1 hspans
    exact between_rounds (fun _ _ => h.between) hrounds

theorem Over.capture (h : f.Over q) (index : Nat) : (Form.capture index f).Over q :=
  ⟨h.proper, h.between⟩

theorem Over.concat (hf : f.Over q) (hg : g.Over q) : (Form.concat [f, g]).Over q where
  proper := madeOf_concat lasting_setProper (by simp [hf.proper, hg.proper])
  between hspans := by
    obtain ⟨k, hik, l, hkl, rfl⟩ := (spans_concat [f, g]).1 hspans
    exact (hf.between hik).append (hg.between hkl)

theorem over_choose (h : ∀ f ∈ forms, f.Over q) : (choose forms).Over q where
  proper := madeOf_choose lasting_setProper fun f hf => (h f hf).proper
  between hspans := by
    obtain ⟨f, hf, hspans⟩ := (spans_choose fun f hf => (h f hf).proper).1 hspans
    exact (h f hf).between hspans

end Form

/-! ## Plain classes -/

/-- Whether the class lists ASCII characters and classes that nothing negates. -/
def ClassBody.isPlain : ClassBody → Bool
  | .nothing => true
  | .char l => l.char.toNat < 128
  | .range lo hi => lo.char.toNat < 128 && hi.char.toNat < 128
  | .posix _ negated => !negated
  | .escaped _ negated => !negated
  | .property _ _ => false
  | .bracketed negated body => !negated && body.isPlain
  | .items first rest => first.isPlain && rest.isPlain
  | .op _ left right => left.isPlain && right.isPlain

theorem Modes.classChar_of_lt {l : Literal} (h : l.char.toNat < 128) :
    Modes.ascii.classChar? l = some l.char.toNat := if_pos (.inr h)

/-- With the Unicode flag off a plain class has a meaning, and it lists ASCII characters alone. -/
theorem ClassBody.set_of_isPlain {body : ClassBody} (h : body.isPlain = true) :
    ∃ s, body.set? .ascii = some s ∧ s.Restricts s := by
  induction body with
  | nothing => exact ⟨.empty, rfl, CharSet.restricts_self (by simp [CharSet.empty, CharSet.hasCode])⟩
  | char l =>
    have hl : l.char.toNat < 128 := by simpa [isPlain] using h
    exact ⟨_, by rw [set?, Modes.classChar_of_lt hl]; rfl, restricts_range hl⟩
  | range lo hi =>
    obtain ⟨hlo, hhi⟩ : lo.char.toNat < 128 ∧ hi.char.toNat < 128 := by simpa [isPlain] using h
    exact ⟨_, by rw [set?, Modes.classChar_of_lt hlo, Modes.classChar_of_lt hhi]; rfl,
      restricts_range hhi⟩
  | posix k negated =>
    obtain rfl : negated = false := by simpa [isPlain] using h
    exact ⟨k.set, rfl, k.restricts⟩
  | escaped k negated =>
    obtain rfl : negated = false := by simpa [isPlain] using h
    exact ⟨k.set false, rfl, CharSet.restricts_self fun n hn => ((k.restricts.iff n).1 hn).1⟩
  | property q negated => cases h
  | bracketed negated body ih =>
    obtain ⟨rfl, hbody⟩ : negated = false ∧ body.isPlain = true := by simpa [isPlain] using h
    obtain ⟨s, hs, hascii⟩ := ih hbody
    exact ⟨s, by rw [set?, hs]; rfl, hascii⟩
  | items first rest ih₁ ih₂ =>
    obtain ⟨hfirst, hrest⟩ := Bool.and_eq_true_iff.1 h
    obtain ⟨s, hs, hascii⟩ := ih₁ hfirst
    obtain ⟨t, ht, hascii'⟩ := ih₂ hrest
    exact ⟨s.union t, by rw [set?, hs, ht]; rfl, hascii.union hascii'⟩
  | op o left right ih₁ ih₂ =>
    obtain ⟨hleft, hright⟩ := Bool.and_eq_true_iff.1 h
    obtain ⟨s, hs, hascii⟩ := ih₁ hleft
    obtain ⟨t, ht, hascii'⟩ := ih₂ hright
    exact ⟨o.apply s t, by rw [set?, hs, ht]; rfl, o.restricts hascii hascii'⟩

/-! ## Plain terms -/

/-- An ASCII character. -/
def IsAsciiChar (c : Char) : Prop := c.toNat < 128

theorem Form.over_ofSet_of_restricts (unicode : Bool) {set : CharSet} (h : set.Restricts set) :
    (ofSet unicode set).Over IsAsciiChar :=
  over_ofSet unicode h.proper fun c hc => ((h.iff c.toNat).1 hc).1

namespace Term

/-- Whether the term is put together from ASCII characters and classes that nothing negates. -/
def isPlain : Term → Bool
  | .empty => true
  | .char l => l.char.toNat < 128
  | .escaped _ negated => !negated
  | .bracketed negated body => !negated && body.isPlain
  | .repetition _ _ _ body => body.isPlain
  | .capture _ _ body => body.isPlain
  | .scoped settings body => settings.isEmpty && body.isPlain
  | .seq first rest => first.isPlain && rest.isPlain
  | .alt first rest => first.isPlain && rest.isPlain
  | _ => false

variable {t : Term}

theorem setsFlags_of_isPlain (h : t.isPlain = true) : t.setsFlags = false := by
  induction t with
  | repetition _ _ _ _ ih | capture _ _ _ ih => exact ih h
  | «scoped» settings body ih =>
    obtain ⟨hnone, hbody⟩ := Bool.and_eq_true_iff.1 h
    rw [setsFlags, hnone, ih hbody]
    rfl
  | seq first rest ih₁ ih₂ | alt first rest ih₁ ih₂ =>
    obtain ⟨hfirst, hrest⟩ := Bool.and_eq_true_iff.1 h
    rw [setsFlags, ih₁ hfirst, ih₂ hrest]
    rfl
  | setFlags settings => cases h
  | _ => rfl

theorem looksAround_of_isPlain (h : t.isPlain = true) : t.looksAround = false := by
  induction t with
  | repetition _ _ _ _ ih | capture _ _ _ ih => exact ih h
  | «scoped» settings body ih =>
    exact ih (Bool.and_eq_true_iff.1 h).2
  | seq first rest ih₁ ih₂ | alt first rest ih₁ ih₂ =>
    obtain ⟨hfirst, hrest⟩ := Bool.and_eq_true_iff.1 h
    rw [looksAround, ih₁ hfirst, ih₂ hrest]
    rfl
  | assertion a => cases h
  | _ => rfl

/-- With the Unicode flag off a plain term has branches, which span ASCII characters alone. -/
theorem branches_of_isPlain (h : t.isPlain = true) :
    ∃ forms, t.branches? .ascii = some (forms, .ascii) ∧ ∀ f ∈ forms, f.Over IsAsciiChar := by
  simp only [branches_eq_some]
  induction t with
  | empty => exact ⟨_, .empty, List.forall_mem_singleton.2 Form.over_empty⟩
  | char l =>
    have hl : l.char.toNat < 128 := by simpa [isPlain] using h
    have hform : Modes.ascii.charForm? l = some (.literal [l.char]) := by
      rw [Modes.charForm?, if_neg (by omega), if_neg (by simp [Modes.ascii])]
    have hover : (Form.literal [l.char]).Over IsAsciiChar :=
      Form.over_literal (List.forall_mem_singleton.2 hl)
    exact ⟨_, .char hform, List.forall_mem_singleton.2 hover⟩
  | escaped k negated =>
    obtain rfl : negated = false := by simpa [isPlain] using h
    have hascii : (k.set false).Restricts (k.set false) :=
      CharSet.restricts_self fun n hn => ((k.restricts.iff n).1 hn).1
    have hover := Form.over_ofSet_of_restricts false hascii
    exact ⟨_, .escaped rfl, List.forall_mem_singleton.2 hover⟩
  | bracketed negated body =>
    obtain ⟨rfl, hbody⟩ : negated = false ∧ body.isPlain = true := by simpa [isPlain] using h
    obtain ⟨s, hs, hascii⟩ := ClassBody.set_of_isPlain hbody
    have hover := Form.over_ofSet_of_restricts false hascii
    exact ⟨_, .bracketed hs rfl, List.forall_mem_singleton.2 hover⟩
  | repetition least most greedy body ih =>
    obtain ⟨forms, hforms, hover⟩ := ih h
    have hrepeated := (Form.over_choose hover).repeated least most (greedy != false)
    exact ⟨_, .repetition hforms, List.forall_mem_singleton.2 hrepeated⟩
  | capture index name body ih =>
    obtain ⟨forms, hforms, hover⟩ := ih h
    have hcapture := (Form.over_choose hover).capture index
    exact ⟨_, .capture hforms, List.forall_mem_singleton.2 hcapture⟩
  | «scoped» settings body ih =>
    obtain ⟨rfl, hbody⟩ : settings = [] ∧ body.isPlain = true := by simpa [isPlain] using h
    obtain ⟨forms, hforms, hover⟩ := ih hbody
    exact ⟨_, .scoped hforms, List.forall_mem_singleton.2 (Form.over_choose hover)⟩
  | seq first rest ih₁ ih₂ =>
    obtain ⟨hfirst, hrest⟩ := Bool.and_eq_true_iff.1 h
    obtain ⟨as, has, hover⟩ := ih₁ hfirst
    obtain ⟨bs, hbs, hover'⟩ := ih₂ hrest
    have hconcat := (Form.over_choose hover).concat (Form.over_choose hover')
    exact ⟨_, .seq has hbs, List.forall_mem_singleton.2 hconcat⟩
  | alt first rest ih₁ ih₂ =>
    obtain ⟨hfirst, hrest⟩ := Bool.and_eq_true_iff.1 h
    obtain ⟨as, has, hover⟩ := ih₁ hfirst
    obtain ⟨bs, hbs, hover'⟩ := ih₂ hrest
    exact ⟨_, .alt has hbs, List.forall_mem_cons.2 ⟨Form.over_choose hover, hover'⟩⟩
  | _ => cases h

/-- The flags that turn Unicode off. -/
theorem set_unicode_off : Modes.initial.set [⟨.unicode, false⟩] = .ascii := rfl

/-- In a group that turns the Unicode flag off a plain term spans ASCII characters alone. -/
theorem form_of_isPlain (h : t.isPlain = true) :
    ∃ f, (Term.scoped [⟨.unicode, false⟩] t).form? = some f ∧ f.Over IsAsciiChar := by
  obtain ⟨forms, hforms, hover⟩ := branches_of_isPlain h
  refine ⟨.choose [.choose forms], ?_, ?_⟩
  · rw [form?, branches?, set_unicode_off, hforms]
    rfl
  · exact Form.over_choose (List.forall_mem_singleton.2 (Form.over_choose hover))

/-! ## Flags in front -/

theorem depth_ofParts_flags (settings : List FlagSetting) (parts : List Term) :
    (ofParts (.setFlags settings :: parts)).depth ≤ (ofParts parts).depth + 1 := by
  cases parts with
  | nil => simp [ofParts, depth]
  | cons part rest =>
    cases rest with
    | nil => cases part <;> simp only [ofParts, depth] <;> omega
    | cons next rest =>
      simp only [ofParts, depth]
      omega

theorem depth_ofBranches_le {first first' : Term} (h : first'.depth ≤ first.depth + 1)
    (later : List Term) :
    (ofBranches (first' :: later)).depth ≤ (ofBranches (first :: later)).depth + 1 := by
  cases later with
  | nil => exact h
  | cons next later =>
    simp only [ofBranches, depth]
    omega

/-- Flags in front of pieces make one level more at most. -/
theorem assemble_behind_flags (settings : List FlagSetting) {pieces : List Piece} {t : Term}
    (h : assemble pieces = some t) :
    ∃ t', assemble (.part (.setFlags settings) :: pieces) = some t' ∧ Prefixed settings t' t ∧
      t'.depth ≤ t.depth + 1 := by
  obtain ⟨branches, hbranches, rfl⟩ := Option.map_eq_some_iff.1 h
  obtain ⟨first, later, rfl⟩ := List.exists_cons_of_ne_nil (branchesOf_ne_nil hbranches)
  have ht' : assemble (.part (.setFlags settings) :: pieces) =
      some (ofBranches (((.setFlags settings :: first) :: later).map ofParts)) := by
    rw [assemble, branchesOf_part, branchesOf_flags, hbranches]
    rfl
  obtain ⟨t, ht, hprefixed⟩ := assemble_flags ht'
  cases h.symm.trans ht
  refine ⟨_, ht', hprefixed, ?_⟩
  exact depth_ofBranches_le (depth_ofParts_flags settings first) _

end Term

/-- A text reads behind flags as it reads without them. -/
theorem Reads.behind_flags {p q : Progress} {start text rest : List Char}
    {settings : List FlagSetting} {pieces : List Piece} (hp : p.verbose = false)
    (hopen : ∀ tail, readOpening p (start ++ tail) = some (.flags settings, p, tail))
    (h : Reads p text pieces q rest) :
    Reads p ('(' :: (start ++ text)) (.part (.setFlags settings) :: pieces) q rest := by
  have hskip : skip p.verbose ('(' :: (start ++ text)) = '(' :: (start ++ text) := by rw [hp]; rfl
  have hlater : readPieces ('(' :: (start ++ text)).length p text = some (pieces, q, rest) := by
    refine readPieces_steps h ?_
    simp only [List.length_cons, List.length_append]
    omega
  rw [Reads, readPieces_cons _ hskip (by decide), readPiece, if_neg (by decide), if_pos rfl,
    readGroup_flags (hopen text), Option.bind_some]
  show (readPieces ('(' :: (start ++ text)).length p text).bind _ = _
  rw [hlater]
  rfl

/-- What can be read can be read with the Unicode flag turned off in front. -/
theorem Term.parse_behind_flags {text : List Char} {t : Term} (h : Term.parse? text = some t) :
    ∃ t', Term.parse? ("(?-u)".toList ++ text) = some t' ∧ Prefixed [⟨.unicode, false⟩] t' t ∧
      t'.depth ≤ t.depth + 1 := by
  obtain ⟨pieces, q, hreads, hpieces⟩ := parse_eq_some.1 h
  have hopen (tail : List Char) : readOpening ⟨0, false⟩ (['?', '-', 'u', ')'] ++ tail) =
      some (.flags [⟨.unicode, false⟩], ⟨0, false⟩, tail) := rfl
  obtain ⟨t', ht', hprefixed, hdepth⟩ := assemble_behind_flags [⟨.unicode, false⟩] hpieces
  exact ⟨t', parse_eq_some.2 ⟨_, q, hreads.behind_flags rfl hopen, ht'⟩, hprefixed, hdepth⟩

end HttpRoutes.Expression
