import HttpRoutes.Proofs.Expression.PlainAscii
import HttpRoutes.Proofs.Route.Emission
import HttpRoutes.Proofs.Route.Parameters

/-!
# Values of ASCII characters

The value of a placeholder with a plain expression is made of ASCII characters, and the value of
one that gives no expression is an identifier (`Router.resolved_values_ascii`). The expression is
emitted with the Unicode flag off, since it nests no deeper than the combined expression does and
always has a meaning, unless it then takes more memory than a placeholder may; and the value is read
from the group of the placeholder if those in front of it keep their last groups.
-/

namespace HttpRoutes

open Expression

variable {α : Type}

/-! ## Where plain expressions are accepted -/

/-- With the Unicode flag off the expression takes no more memory than a placeholder may. -/
def FitsAscii [Engine] (expression : String) : Prop :=
  ∀ t, Term.parse? ("(?-u)" ++ expression).toList = some t →
    ∀ f, t.form? = some f → Engine.size f ≤ placeholderLimit

instance [Engine] (expression : String) : Decidable (FitsAscii expression) :=
  inferInstanceAs (Decidable (∀ t ∈ Term.parse? ("(?-u)" ++ expression).toList,
    ∀ f ∈ t.form?, Engine.size f ≤ placeholderLimit))

/-- Only memory can keep a plain expression from being taken with the Unicode flag off. -/
theorem acceptedAscii_of_isPlain [Engine] {expression : String} {t : Term}
    (ht : Term.parse? expression.toList = some t) (hplain : t.isPlain = true)
    (hnames : t.names.Nodup) (hdepth : t.depth < depthLimit) (hfits : FitsAscii expression) :
    AcceptedAscii expression := by
  obtain ⟨t', ht', hprefixed, hdepth'⟩ := Term.parse_behind_flags ht
  rw [← String.toList_append] at ht'
  obtain ⟨forms, hforms, -⟩ := Term.branches_of_isPlain hplain
  have hmodes : t'.modesAfter? .initial = some .ascii := by
    rw [hprefixed.modesAfter, Term.set_unicode_off, Term.modesAfter?, hforms]
    rfl
  obtain ⟨r, hr, -⟩ := Option.map_eq_some_iff.1 hmodes
  have hform : t'.form? = some (.choose r.1) := by
    rw [Term.form?, hr]
    rfl
  have hnames' : t'.names = t.names := by
    rw [Term.names_eq, Term.names_eq, hprefixed.openings]
    rfl
  have htext : Expression.ofText? placeholderLimit ("(?-u)" ++ expression) =
      some ⟨"(?-u)" ++ expression, .choose r.1⟩ :=
    ofText_eq_some.2 ⟨t', ht', ⟨hnames' ▸ hnames, by omega⟩, hform, hfits t' ht' _ hform, rfl⟩
  rw [AcceptedAscii, htext]
  rfl

/-! ## How deep placeholders nest -/

theorem depth_le_ofParts {t : Term} {ts : List Term} (h : t ∈ ts) :
    t.depth ≤ (Term.ofParts ts).depth := by
  induction ts with
  | nil => exact absurd h (by simp)
  | cons first rest ih =>
    cases rest with
    | nil =>
      rw [List.mem_singleton.1 h]
      exact le_rfl
    | cons next rest =>
      have hseq : first.depth ≤ (Term.ofParts (first :: next :: rest)).depth ∧
          (Term.ofParts (next :: rest)).depth ≤ (Term.ofParts (first :: next :: rest)).depth := by
        rw [Term.ofParts]
        · cases Term.ofParts (next :: rest) <;> simp only [Term.depth] <;> omega
        · exact List.cons_ne_nil _ _
      rcases List.mem_cons.1 h with rfl | h
      · exact hseq.1
      · exact (ih h).trans hseq.2

theorem mem_partTerms (before : Nat) {parts : List PatternPart} {part : PatternPart}
    (h : part ∈ parts) : ∃ n, part.termAfter n ∈ partTerms before parts := by
  induction parts generalizing before with
  | nil => exact absurd h (by simp)
  | cons first rest ih =>
    rcases List.mem_cons.1 h with rfl | h
    · exact ⟨before, List.mem_cons_self⟩
    · obtain ⟨n, hmem⟩ := ih (before + first.opened) h
      exact ⟨n, List.mem_cons_of_mem _ hmem⟩

/-- Around what a placeholder emits a combined expression has four levels more at least. -/
theorem Combined.Emitted.depth_body [Engine] {v : Verb} {entries : List (Entry α)} {c : Combined α}
    (h : Combined.Emitted v entries c) {e : Entry α} (he : e ∈ entries) {p : Placeholder}
    (hp : .placeholder p ∈ e.pattern.parts) : p.body.depth + 4 ≤ depthLimit := by
  obtain ⟨⟨-, hdepth⟩, -⟩ :=
    (ofText_sourceOf (List.ne_nil_of_mem he) h.emits).1 (build_eq_ok h.build).1
  rw [depth_combinedTerm] at hdepth
  obtain ⟨n, hterm⟩ := mem_entryTerms 0 he
  have hentry := depth_le_ofBranches hterm
  rw [Term.depth_shift, Entry.termAfter, Term.depth] at hentry
  obtain ⟨k, hpart⟩ := mem_partTerms (0 + 1) hp
  have hplaceholder := depth_le_ofParts hpart
  rw [PatternPart.termAfter, Term.depth, Term.depth_shift] at hplaceholder
  omega

/-! ## What plain placeholders match -/

namespace Placeholder

variable {p : Placeholder} {t : Term} {value : String}

theorem term_inUnicode (ht : Term.parse? p.expression.toList = some t) :
    p.inUnicode.term = t := by
  show (Term.parse? p.expression.toList).getD .empty = t
  rw [ht]
  rfl

/-- With the Unicode flag off a plain expression is emitted in a group around it. -/
theorem Checked.body_of_isPlain (h : p.Checked) (ha : p.ascii = true)
    (ht : Term.parse? p.expression.toList = some t) (hplain : t.isPlain = true) :
    p.body = .scoped [⟨.unicode, false⟩] t := by
  have hterm := term_inUnicode ht
  have hflags : p.Flagless := by
    rw [Flagless, hterm]
    exact Term.setsFlags_of_isPlain hplain
  rw [h.body_of_ascii ha hflags, body_inUnicode, hterm]

/-- A plain expression that is emitted with the Unicode flag off matches ASCII characters alone. -/
theorem Checked.isAscii_of_matches (h : p.Checked) (ha : p.ascii = true)
    (ht : Term.parse? p.expression.toList = some t) (hplain : t.isPlain = true)
    (hmatches : p.body.looksAround = false → p.Matches value) : IsAscii value.toList := by
  have hbody := h.body_of_isPlain ha ht hplain
  have hlook : p.body.looksAround = false := by
    rw [hbody, Term.looksAround]
    exact Term.looksAround_of_isPlain hplain
  obtain ⟨f, hf, hover⟩ := Term.form_of_isPlain hplain
  have hspans := hmatches hlook
  rw [Matches, hbody, hf, Option.bind_some, Form.matchWhole_isSome] at hspans
  exact between_all.1 (hover.between hspans)

/-- A plain expression in a combined expression is emitted with the Unicode flag off unless it then
takes too much memory. -/
theorem Checked.ascii_of_isPlain [Engine] (h : p.Checked)
    (haccepted : AcceptedAscii p.expression → p.ascii = true)
    (hdepth : p.body.depth + 4 ≤ depthLimit)
    (ht : Term.parse? p.expression.toList = some t) (hplain : t.isPlain = true)
    (hfits : FitsAscii p.expression) : p.ascii = true := by
  by_contra ha
  rw [Bool.not_eq_true] at ha
  have hbody : p.body = t := by
    rw [← inUnicode_of_not_ascii ha, body_inUnicode, term_inUnicode ht]
  have hterm : p.term = t := by
    rw [← inUnicode_of_not_ascii ha, term_inUnicode ht]
  rw [hbody] at hdepth
  have hascii := haccepted (acceptedAscii_of_isPlain ht hplain (hterm ▸ h.names) (by omega) hfits)
  rw [ha] at hascii
  cases hascii

end Placeholder

/-! ## The implied expression -/

/-- An engine for which the implied expression fits into a placeholder with the Unicode flag off. -/
class Engine.TakesImplied [Engine] : Prop where
  fits : FitsAscii defaultExpression

instance : Engine.TakesImplied := ⟨by decide +kernel⟩

theorem acceptedAscii_defaultExpression [Engine] [Engine.TakesImplied] :
    AcceptedAscii defaultExpression := by
  have hfacts : (Term.parse? defaultExpression.toList).map (fun t =>
      (t.isPlain, decide (t.names.Nodup ∧ t.depth < depthLimit))) = some (true, true) := by
    decide +kernel
  obtain ⟨t, ht, h⟩ := Option.map_eq_some_iff.1 hfacts
  obtain ⟨hplain, hok⟩ := Prod.mk.inj h
  obtain ⟨hnames, hdepth⟩ := of_decide_eq_true hok
  exact acceptedAscii_of_isPlain ht hplain hnames hdepth Engine.TakesImplied.fits

/-- A placeholder with nothing behind the colon takes the implied expression. -/
theorem Declares.eq_defaultExpression {body : List Char} {name expression : String}
    (h : Declares body (some name) expression) (hbody : body = name.toList ++ [':']) :
    expression = defaultExpression := by
  cases h with
  | named hsplit _ hne =>
    rw [hsplit, String.toList_ofList] at hbody
    exact absurd (List.cons.inj (List.append_cancel_left hbody)).2 hne
  | implied _ _ => rfl

theorem word_of_contains {c : Char} (h : Text.asciiWordChars.contains c = true) :
    c.isAlphanum = true ∨ c = '_' := by
  have hranges : (48 ≤ c.toNat ∧ c.toNat ≤ 57) ∨ (65 ≤ c.toNat ∧ c.toNat ≤ 90) ∨
      (95 ≤ c.toNat ∧ c.toNat ≤ 95) ∨ 97 ≤ c.toNat ∧ c.toNat ≤ 122 := by
    simpa [Text.asciiWordChars, Text.CharSet.contains, Text.CharSet.hasCode] using h
  by_cases hline : c.toNat = 95
  · exact .inr (Char.toNat_inj.1 hline)
  · left
    unfold Char.isAlphanum Char.isAlpha Char.isUpper Char.isLower Char.isDigit
    simp only [Bool.or_eq_true, Bool.and_eq_true, decide_eq_true_eq, ge_iff_le,
      UInt32.le_iff_toNat_le]
    show ((65 ≤ c.toNat ∧ c.toNat ≤ 90) ∨ 97 ≤ c.toNat ∧ c.toNat ≤ 122) ∨
      48 ≤ c.toNat ∧ c.toNat ≤ 57
    omega

/-- The value of a placeholder that gives no expression is an identifier. -/
theorem Placeholder.isIdentifier_of_matches {p : Placeholder}
    (hexpression : p.expression = defaultExpression) (ha : p.ascii = true) {value : String}
    (hmatches : p.body.looksAround = false → p.Matches value) : IsIdentifier value.toList := by
  have hemitted : p.emitted = "(?-u:\\w+)" := by
    rw [emitted, if_pos ha, hexpression]
    rfl
  have hlook : p.body.looksAround = false := by
    rw [body, hemitted]
    decide +kernel
  have hform : p.body.form? =
      some (.repetition 1 none true (.chars false Text.asciiWordChars)) := by
    rw [body, hemitted]
    decide +kernel
  have hspans := hmatches hlook
  rw [Matches, hform, Option.bind_some, Form.matchWhole_isSome] at hspans
  obtain ⟨n, hn, -, hrounds⟩ := hspans
  have hword (i j : Nat) (h : (Form.chars false Text.asciiWordChars).Spans value.toList i j) :
      Between (fun c => c.isAlphanum = true ∨ c = '_') value.toList i j := by
    have hproper : Text.asciiWordChars.Proper := (EscapedClass.restricts .word).proper_left
    exact (Form.over_chars false hproper fun c => word_of_contains).between h
  refine ⟨?_, between_all.1 (between_rounds hword hrounds)⟩
  intro hnil
  -- There is one round at least, and the first takes a character.
  obtain ⟨k, rfl⟩ := Nat.exists_eq_add_of_le' hn
  obtain ⟨j, ⟨-, c, hc, -⟩, -⟩ := rounds_succ.1 hrounds
  rw [hnil] at hc
  cases hc

/-! ## The value of one placeholder -/

theorem PatternPart.placeholder_of_ofToken [Engine] {pattern : String} {seen : List String}
    {body : List Char} {part : PatternPart} (h : ofToken pattern seen (.braced body) = .ok part)
    {name : Option String} {expression : String} (hdeclares : Declares body name expression) :
    ∃ p, part = .placeholder p ∧ Placeholder.ofExpression? name expression = some p := by
  rw [ofToken, declares_iff.1 hdeclares] at h
  dsimp only at h
  split at h
  · cases h
  · split at h
    · next p hp =>
      cases h
      exact ⟨p, rfl, hp⟩
    · cases h

/-- A placeholder among tokens is a placeholder at the same place among the parts. -/
theorem patternParts_braced [Engine] {pattern : String} {seen : List String}
    {front later : List PatternToken} {body : List Char} {parts : List PatternPart}
    (h : patternParts pattern seen (front ++ .braced body :: later) = .ok parts)
    {name : Option String} {expression : String} (hdeclares : Declares body name expression) :
    ∃ p rest, parts = parts.take front.length ++ .placeholder p :: rest ∧
      Placeholder.ofExpression? name expression = some p := by
  induction front generalizing seen parts with
  | nil =>
    obtain ⟨part, rest, hpart, -, rfl⟩ := patternParts_cons_eq_ok h
    obtain ⟨p, rfl, hp⟩ := PatternPart.placeholder_of_ofToken hpart hdeclares
    exact ⟨p, rest, rfl, hp⟩
  | cons t front ih =>
    obtain ⟨part, parts, -, hparts, rfl⟩ := patternParts_cons_eq_ok h
    obtain ⟨p, rest, heq, hp⟩ := ih hparts
    exact ⟨p, rest, congrArg (part :: ·) heq, hp⟩

section

variable {front later : List PatternPart} {p : Placeholder}

/-- Where the number of a placeholder is recorded. -/
theorem mem_slotsFrom (slot : Nat) :
    (slot + countGroups (·.innerGroups) front, p) ∈
      Pattern.slotsFrom slot (front ++ .placeholder p :: later) := by
  induction front generalizing slot with
  | nil => exact List.mem_cons_self
  | cons part front ih =>
    cases part with
    | char c => exact ih slot
    | placeholder q =>
      refine List.mem_cons_of_mem _ ?_
      have hnext := ih (slot + 1 + q.innerGroups)
      have hcount : slot + 1 + q.innerGroups + countGroups (·.innerGroups) front =
          slot + countGroups (·.innerGroups) (.placeholder q :: front) := by
        simp only [countGroups, placeholders, List.map_cons, total_cons]
        omega
      rwa [hcount] at hnext

/-- What holds of all placeholders and their values, and of all numbers and their values, holds of
one placeholder. -/
theorem exists_value {size : Placeholder → Nat} {Matches : Placeholder → String → Prop}
    {Captures : Nat → String → Prop} {before : Nat} {values : List String}
    (hmatches : List.Forall₂ Matches (placeholders (front ++ .placeholder p :: later)) values)
    (hcaptures : List.Forall₂ Captures
      (slotNumbers size before (front ++ .placeholder p :: later)) values) :
    ∃ value, Matches p value ∧ Captures (before + countGroups size front + 1) value := by
  induction front generalizing before values with
  | nil =>
    cases hmatches with
    | cons hfirst _ =>
      cases hcaptures with
      | cons hnumber _ => exact ⟨_, hfirst, hnumber⟩
  | cons part front ih =>
    cases part with
    | char c => exact ih hmatches hcaptures
    | placeholder q =>
      cases hmatches with
      | cons _ hmatches =>
        cases hcaptures with
        | cons _ hcaptures =>
          obtain ⟨value, hvalue, hnumber⟩ := ih hmatches hcaptures
          have hcount : before + (size q + 1) + countGroups size front + 1 =
              before + countGroups size (.placeholder q :: front) + 1 := by
            simp only [countGroups, placeholders, List.map_cons, total_cons]
            omega
          exact ⟨value, hvalue, hcount ▸ hnumber⟩

/-- Behind placeholders that keep their last groups a named placeholder has the value that its own
group captures. -/
theorem Entry.value_of_kept [Engine] {e : Entry α}
    (hcompiled : Pattern.compile e.pattern.text = .ok e.pattern)
    (hparts : e.pattern.parts = front ++ .placeholder p :: later) {name : String}
    (hname : p.name = some name) (hkept : ∀ q ∈ placeholders front, q.KeepsLastGroup)
    {path : String} {captures : List Capture} (h : e.matchAlone? path.toList = some captures) :
    ∃ value, (p.body.looksAround = false → p.Matches value) ∧
      (name, value) ∈ (Combined.params ⟨1, e⟩ ⟨path.toList, captures⟩).pairs := by
  obtain ⟨values, -, hmatches, hcaptures⟩ := e.values_of_matchAlone hcompiled h
  rw [hparts] at hmatches hcaptures
  obtain ⟨value, hvalue, hnumber⟩ := exists_value hmatches hcaptures
  refine ⟨value, hvalue, List.mem_filterMap.2 ⟨_, hparts ▸ mem_slotsFrom 1, ?_⟩⟩
  have hcount : countGroups Placeholder.openedInside front =
      countGroups (·.innerGroups) front := by
    refine congrArg total (List.map_congr_left fun q hq => ?_)
    have hchecked : q.Checked := by
      refine Pattern.checked_of_compile hcompiled ?_
      rw [hparts]
      exact List.mem_append_left _ (mem_placeholders.1 hq)
    rw [← (keepsLastGroup_iff hchecked).2 (hkept q hq)]
  rw [hcount, Nat.add_comm] at hnumber
  simp only [hname, Option.map_some, hnumber, Option.getD_some]

end

namespace Router

/-! ## Resolving -/

/-- The values of named placeholders in a match, no placeholder of the verb turning on verbose mode
and those of the routes in front keeping their last groups: behind placeholders that do so too, the
value of a placeholder that gives no expression is an identifier, and the value of one with a plain
expression is made of ASCII characters, unless the expression takes too much memory with the Unicode
flag off. -/
theorem resolved_values_ascii [Engine] [Engine.TakesImplied] (calls : List (AddCall α)) {v : Verb}
    {path : String} {m : RouteMatch α}
    (hverbose : ∀ e ∈ (after calls).table.value v, ∀ p ∈ placeholders e.pattern.parts,
      p.term.turnsOn .verbose = false)
    (hfront : ∀ d ∈ (after calls).table.value v, d.index < m.index → d.KeepsLastGroups)
    (hresolve : (after calls).resolve v path = .ok (some m)) :
    ∃ e ∈ (after calls).table.value v, e.index = m.index ∧ e.pattern.text = m.pattern ∧
      ∀ front body later name expression,
        patternTokens 0 (trimSlashes m.pattern).toList = front ++ .braced body :: later →
        Declares body (some name) expression →
        (∀ q ∈ placeholders (e.pattern.parts.take front.length), q.KeepsLastGroup) →
        ∃ value, m.params.get? name = some value ∧
          (body = name.toList ++ [':'] → IsIdentifier value.toList) ∧
          ∀ t, Term.parse? expression.toList = some t → t.isPlain = true →
            FitsAscii expression → IsAscii value.toList := by
  have hr := after_consistent calls
  obtain ⟨c, e, captures, hmem, hready, he, rfl⟩ :=
    hr.captures_of_resolve hverbose hfront hresolve
  refine ⟨e, hmem, rfl, rfl, ?_⟩
  intro front body later name expression htokens hdeclares hkept
  have hcompiled := hr.compiled v e hmem
  have htext := (Pattern.compile_eq_ok hcompiled).2
  rw [htokens] at htext
  obtain ⟨p, rest, hparts, hp⟩ := patternParts_braced htext hdeclares
  obtain ⟨hname, rfl, hascii⟩ := ofExpression_eq_some hp
  obtain ⟨value, hmatches, hpair⟩ := Entry.value_of_kept hcompiled hparts hname hkept he
  have hpart : .placeholder p ∈ e.pattern.parts := by
    rw [hparts]
    simp
  have hchecked := Pattern.checked_of_compile hcompiled hpart
  have hnames := Combined.nodup_names_params (a := ⟨1, e⟩) hcompiled
    ⟨(trimSlashes path).toList, captures⟩
  refine ⟨value, (Params.get?_eq_some_iff hnames).2 hpair, ?_, ?_⟩
  · intro hbody
    have himplied := hdeclares.eq_defaultExpression hbody
    refine Placeholder.isIdentifier_of_matches himplied (hascii.2 ?_) hmatches
    rw [himplied]
    exact acceptedAscii_defaultExpression
  · intro t ht hplain hfits
    have hdepth := hready.depth_body hmem hpart
    have ha := hchecked.ascii_of_isPlain hascii.2 hdepth ht hplain hfits
    exact hchecked.isAscii_of_matches ha ht hplain hmatches

theorem resolved_article_ascii :
    let calls : List (AddCall String) := [.under .get "/\x7bn:(2)\x7b0\x7d(0|1)+\x7d" "page",
      .under .get "/\x7bs:\x7d/\x7b[^/]*\x7d.\x7be:(?:[a-z]|\\d)+\x7d" "article"]
    let m : RouteMatch String := ⟨1, "/\x7bs:\x7d/\x7b[^/]*\x7d.\x7be:(?:[a-z]|\\d)+\x7d",
      "article", ⟨[("s", "news"), ("e", "html5")]⟩⟩
    (after calls).resolve .get "/news/\u00e9.html5" = .ok (some m) ∧
      (∃ value, m.params.get? "s" = some value ∧ IsIdentifier value.toList) ∧
      ∃ value, m.params.get? "e" = some value ∧ IsAscii value.toList := by
  intro calls m
  have hresolve : (after calls).resolve .get "/news/\u00e9.html5" = .ok (some m) := by
    decide +kernel
  obtain ⟨e, he, -, -, hvalues⟩ :=
    resolved_values_ascii calls (v := .get) (m := m) (by decide +kernel) (by decide +kernel)
      hresolve
  have hkeeps : ∀ e ∈ (after calls).table.value .get, e.KeepsLastGroups := by decide +kernel
  have hfront (n : Nat) : ∀ q ∈ placeholders (e.pattern.parts.take n), q.KeepsLastGroup :=
    fun q hq => hkeeps e he q (List.mem_of_mem_take (mem_placeholders.1 hq))
  refine ⟨hresolve, ?_, ?_⟩
  · obtain ⟨value, hget, hidentifier, -⟩ := hvalues [] "s:".toList
      [.char '/', .braced "[^/]*".toList, .char '.', .braced "e:(?:[a-z]|\\d)+".toList] "s" "\\w+"
      (by decide +kernel) (declares_iff.2 (by decide +kernel)) (hfront 0)
    exact ⟨value, hget, hidentifier (by decide)⟩
  · obtain ⟨value, hget, -, hascii⟩ := hvalues
      [.braced "s:".toList, .char '/', .braced "[^/]*".toList, .char '.']
      "e:(?:[a-z]|\\d)+".toList [] "e" "(?:[a-z]|\\d)+"
      (by decide +kernel) (declares_iff.2 (by decide +kernel)) (hfront 4)
    obtain ⟨t, ht, hplain⟩ :
        ∃ t, Term.parse? "(?:[a-z]|\\d)+".toList = some t ∧ t.isPlain = true :=
      Option.map_eq_some_iff.1 (by decide +kernel)
    exact ⟨value, hget, hascii t ht hplain (by decide +kernel)⟩

/-- Behind a group that is repeated zero times, a placeholder that gives no expression can have an
empty value. -/
theorem resolved_value_not_identifier :
    let calls : List (AddCall String) := [.under .get "/p\x7bx:(a)\x7b0\x7d\x7d/\x7by:\x7d" "page"]
    (∀ e ∈ (after calls).table.value .get, ∀ p ∈ placeholders e.pattern.parts,
        p.term.turnsOn .verbose = false) ∧
      patternTokens 0 (trimSlashes "/p\x7bx:(a)\x7b0\x7d\x7d/\x7by:\x7d").toList =
        [.char 'p', .braced "x:(a)\x7b0\x7d".toList, .char '/', .braced "y:".toList] ∧
      Declares "y:".toList (some "y") "\\w+" ∧
      (after calls).resolve .get "/p/b" = .ok (some
        ⟨0, "/p\x7bx:(a)\x7b0\x7d\x7d/\x7by:\x7d", "page", ⟨[("x", ""), ("y", "")]⟩⟩) ∧
      ¬ IsIdentifier "".toList := by
  intro calls
  exact ⟨by decide +kernel, by decide +kernel, declares_iff.2 (by decide +kernel),
    by decide +kernel, fun h => h.nonempty rfl⟩

/-- With the flag off the long ends of the branches are not all behind one common start, so that
they take too much memory. The expression is then emitted as it is written, and two digits that are
no ASCII characters match. -/
example :
    let expression := "(?:\\d\\d|\\d[0-9]a)a\x7b0,70000\x7d|\\d(?:\\d|[0-9]a)a\x7b0,70000\x7d|" ++
      "\\d(?:\\d|[0-9]a)a\x7b0,70000\x7d"
    let text := "/\x7bx:" ++ expression ++ "\x7d"
    (Term.parse? expression.toList).map (·.isPlain) = some true ∧
      (after [.under .get text "page"]).resolve .get "/\u0663\u0664" =
        .ok (some ⟨0, text, "page", ⟨[("x", "\u0663\u0664")]⟩⟩) := by
  decide +kernel

end Router

end HttpRoutes
