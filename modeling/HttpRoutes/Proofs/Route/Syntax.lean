import HttpRoutes.Proofs.Route.Braces

/-!
# The syntax of patterns

Which texts are patterns, said without the scanner: a text is split into characters and placeholders
whose braces balance, and the split is in good order if every placeholder is. `Pattern.compile`
takes exactly the texts that have such a split, and it refuses any other text for the leftmost token
that is out of order (`Pattern.compile_grammar`).

The scanner is followed in one direction alone, from a split to its result. That every text either
has a split in good order or has a leftmost fault (`split_or_fault`) gives the other direction.
-/

namespace HttpRoutes

open Expression

/-! ## Splits -/

/-- The engine takes the expression with the Unicode flag off. -/
def AcceptedAscii [Engine] (expression : String) : Prop :=
  (Expression.ofText? placeholderLimit ("(?-u)" ++ expression)).isSome = true

instance [Engine] (expression : String) : Decidable (AcceptedAscii expression) :=
  inferInstanceAs (Decidable (_ = true))

/-- The engine takes the expression as it stands. -/
def AcceptedUnicode [Engine] (expression : String) : Prop :=
  (Expression.ofText? placeholderLimit expression).isSome = true

instance [Engine] (expression : String) : Decidable (AcceptedUnicode expression) :=
  inferInstanceAs (Decidable (_ = true))

namespace PatternToken

/-- The text that the token is read from. -/
def text : PatternToken → List Char
  | .char c => [c]
  | .braced body => '\x7b' :: body ++ ['\x7d']
  | .fault _ => []

/-- What stands between the braces of a placeholder. -/
def body? : PatternToken → Option (List Char)
  | .braced body => some body
  | _ => none

/-- A character that is no brace, or a placeholder that ends at the brace that balances its first.
-/
inductive Proper : PatternToken → Prop
  | char {c} : c ≠ '\x7b' → c ≠ '\x7d' → Proper (.char c)
  | braced {body} : Balanced body → Proper (.braced body)

/-- The token is a placeholder of this name. -/
def Names (t : PatternToken) (name : String) : Prop :=
  ∃ body expression, t = .braced body ∧ Declares body (some name) expression

/-- The token is written like this in the expression of its pattern. -/
inductive Writes [Engine] : PatternToken → String → Prop
  | char {c} : Writes (.char c) (escapeChar c)
  | ascii {body name expression} : Declares body name expression → AcceptedAscii expression →
      Writes (.braced body) ("(" ++ ("(?-u:" ++ expression ++ ")") ++ ")")
  | unicode {body name expression} : Declares body name expression → ¬ AcceptedAscii expression →
      Writes (.braced body) ("(" ++ expression ++ ")")

/-- The part that a token in good order stands for. -/
inductive Yields [Engine] : PatternToken → PatternPart → Prop
  | char {c} : c ≠ '\x7b' → c ≠ '\x7d' → Yields (.char c) (.char c)
  | braced {body p} : Balanced body → body ≠ [] → Declares body p.name p.expression →
      Placeholder.ofExpression? p.name p.expression = some p →
      Yields (.braced body) (.placeholder p)

end PatternToken

/-- The text that tokens are read from. -/
def tokensText (tokens : List PatternToken) : List Char := tokens.flatMap PatternToken.text

/-- The names that parts declare. -/
def declaredNames (parts : List PatternPart) : List String := parts.filterMap PatternPart.name?

section

variable [Engine]

/-- Nothing is wrong with the tokens: no placeholder is empty, no name is declared twice, and the
engine takes each expression in one of its modes. -/
structure InOrder (tokens : List PatternToken) : Prop where
  proper : ∀ t ∈ tokens, t.Proper
  filled : .braced [] ∉ tokens
  distinct : tokens.Pairwise fun s t => ∀ name, s.Names name → ¬ t.Names name
  accepted : ∀ body name expression, .braced body ∈ tokens → Declares body name expression →
    AcceptedAscii expression ∨ AcceptedUnicode expression

/-- Behind tokens in good order the text begins with something that is out of order, for which the
pattern is refused with this error. -/
inductive FaultAt (pattern : String) (before : List PatternToken) :
    List Char → RouteError → Prop
  | unmatched {rest} : FaultAt pattern before ('\x7d' :: rest)
      (.malformedPattern pattern (.unmatched (utf8Length (tokensText before))))
  | unterminated {rest} : (∀ body after, Balanced body → rest ≠ body ++ '\x7d' :: after) →
      FaultAt pattern before ('\x7b' :: rest)
        (.malformedPattern pattern (.unterminated (utf8Length (tokensText before))))
  | empty {rest} : FaultAt pattern before ('\x7b' :: '\x7d' :: rest)
      (.malformedPattern pattern .emptyPlaceholder)
  | duplicate {body rest name expression} : Balanced body → body ≠ [] →
      Declares body (some name) expression → (∃ t ∈ before, t.Names name) →
      FaultAt pattern before ('\x7b' :: body ++ '\x7d' :: rest) (.duplicateName pattern name)
  | invalid {body rest name expression} : Balanced body → body ≠ [] →
      Declares body name expression → (∀ t ∈ before, ∀ n, name = some n → ¬ t.Names n) →
      ¬ AcceptedAscii expression → ¬ AcceptedUnicode expression →
      FaultAt pattern before ('\x7b' :: body ++ '\x7d' :: rest) (.invalidSubPattern pattern)

/-! ## From tokens to parts -/

theorem isSome_ofExpression {name : Option String} {expression : String} :
    (Placeholder.ofExpression? name expression).isSome = true ↔
      AcceptedAscii expression ∨ AcceptedUnicode expression := by
  rw [Placeholder.ofExpression?, AcceptedAscii, AcceptedUnicode]
  cases Expression.ofText? placeholderLimit ("(?-u)" ++ expression) <;> simp

/-- What compiling an expression makes of it. -/
theorem ofExpression_eq_some {name : Option String} {expression : String} {p : Placeholder}
    (h : Placeholder.ofExpression? name expression = some p) :
    p.name = name ∧ p.expression = expression ∧ (p.ascii = true ↔ AcceptedAscii expression) := by
  rw [AcceptedAscii]
  unfold Placeholder.ofExpression? at h
  cases hascii : Expression.ofText? placeholderLimit ("(?-u)" ++ expression) with
  | some e =>
    rw [hascii] at h
    cases h
    simp
  | none =>
    rw [hascii] at h
    obtain ⟨e, -, rfl⟩ := Option.map_eq_some_iff.1 h
    simp

end

namespace PatternToken

variable {t : PatternToken} {part : PatternPart}

theorem not_names_char {c : Char} {name : String} : ¬ (char c).Names name := by
  rintro ⟨body, expression, heq, -⟩
  cases heq

theorem names_braced {body : List Char} {name : String} :
    (braced body).Names name ↔ (splitPlaceholder body).1 = some name := by
  constructor
  · rintro ⟨body', expression, heq, hdeclares⟩
    cases heq
    rw [declares_iff.1 hdeclares]
  · intro hname
    refine ⟨body, (splitPlaceholder body).2, rfl, declares_iff.2 ?_⟩
    rw [← hname]

/-- A token yields a part if there is nothing wrong with it. -/
theorem yields_of_accepted [Engine] (hproper : t.Proper) (hfilled : t ≠ .braced [])
    (haccepted : ∀ body name expression, t = .braced body → Declares body name expression →
      AcceptedAscii expression ∨ AcceptedUnicode expression) : ∃ part, t.Yields part := by
  cases hproper with
  | char hopen hclose => exact ⟨_, .char hopen hclose⟩
  | braced hbalanced =>
    rename_i body
    have hdeclares : Declares body (splitPlaceholder body).1 (splitPlaceholder body).2 :=
      declares_iff.2 rfl
    obtain ⟨p, hp⟩ := Option.isSome_iff_exists.1
      (isSome_ofExpression.2 (haccepted body _ _ rfl hdeclares))
    obtain ⟨hname, hexpression, -⟩ := ofExpression_eq_some hp
    refine ⟨.placeholder p, .braced hbalanced (fun h => hfilled (by rw [h])) ?_ ?_⟩
    · rwa [hname, hexpression]
    · rwa [hname, hexpression]

theorem names_iff_of_yields [Engine] (h : t.Yields part) (name : String) :
    t.Names name ↔ part.name? = some name := by
  cases h with
  | char _ _ => exact iff_of_false not_names_char (by simp [PatternPart.name?])
  | braced _ _ hdeclares _ =>
    rw [names_braced, declares_iff.1 hdeclares]
    rfl

theorem writes_of_yields [Engine] (h : t.Yields part) : t.Writes part.source := by
  cases h with
  | char _ _ => exact .char
  | braced _ _ hdeclares hp =>
    rename_i body p _ _
    have hascii := (ofExpression_eq_some hp).2.2
    rw [PatternPart.source, Placeholder.emitted]
    by_cases h : p.ascii = true
    · rw [if_pos h]
      exact .ascii hdeclares (hascii.1 h)
    · rw [if_neg h]
      exact .unicode hdeclares fun haccepted => h (hascii.2 haccepted)

end PatternToken

/-- The names that parts declare are those of their tokens. -/
theorem mem_declaredNames [Engine] {tokens : List PatternToken} {parts : List PatternPart}
    (h : List.Forall₂ PatternToken.Yields tokens parts) (name : String) :
    name ∈ declaredNames parts ↔ ∃ t ∈ tokens, t.Names name := by
  induction h with
  | nil => simp [declaredNames]
  | cons hpart _ ih =>
    rw [declaredNames] at ih ⊢
    rw [List.exists_mem_cons_iff, ← ih, PatternToken.names_iff_of_yields hpart,
      List.mem_filterMap, List.mem_filterMap, List.exists_mem_cons_iff]

/-- Tokens in good order stand for parts whose names are distinct. -/
theorem InOrder.yields [Engine] {tokens : List PatternToken} (h : InOrder tokens) :
    ∃ parts, List.Forall₂ PatternToken.Yields tokens parts ∧ (declaredNames parts).Nodup := by
  induction tokens with
  | nil => exact ⟨[], .nil, List.nodup_nil⟩
  | cons t rest ih =>
    obtain ⟨hfirst, hdistinct⟩ := List.pairwise_cons.1 h.distinct
    obtain ⟨part, hpart⟩ := PatternToken.yields_of_accepted (h.proper t List.mem_cons_self)
      (fun heq => h.filled (heq ▸ List.mem_cons_self))
      fun body name expression heq => h.accepted body name expression (heq ▸ List.mem_cons_self)
    obtain ⟨parts, hparts, hnodup⟩ := ih
      ⟨fun s hs => h.proper s (List.mem_cons_of_mem _ hs),
        fun hs => h.filled (List.mem_cons_of_mem _ hs), hdistinct,
        fun body name expression hs => h.accepted body name expression (List.mem_cons_of_mem _ hs)⟩
    refine ⟨part :: parts, .cons hpart hparts, ?_⟩
    rw [declaredNames, List.filterMap_cons]
    cases hname : part.name? with
    | none => exact hnodup
    | some name =>
      refine List.nodup_cons.2 ⟨?_, hnodup⟩
      intro hmem
      obtain ⟨s, hs, hnames⟩ := (mem_declaredNames hparts name).1 hmem
      exact hfirst s hs name ((PatternToken.names_iff_of_yields hpart name).2 hname) hnames

/-! ## From a split to the result of the scanner -/

theorem utf8Length_append (xs ys : List Char) :
    utf8Length (xs ++ ys) = utf8Length xs + utf8Length ys := by
  simp [utf8Length]

theorem patternTokens_unterminated (offset : Nat) {rest : List Char}
    (h : closeBrace 0 false rest = none) :
    patternTokens offset ('\x7b' :: rest) = [.fault (.unterminated offset)] := by
  rw [patternTokens, if_pos rfl]
  split
  · rfl
  · next hclose => cases h.symm.trans hclose
  · next hclose => cases h.symm.trans hclose

theorem patternTokens_empty (offset : Nat) (rest : List Char) :
    patternTokens offset ('\x7b' :: '\x7d' :: rest) = [.fault .emptyPlaceholder] := by
  have h : closeBrace 0 false ('\x7d' :: rest) = some ([], rest) := by simp [closeBrace]
  rw [patternTokens, if_pos rfl]
  split
  · next hclose => cases h.symm.trans hclose
  · rfl
  · next hclose => cases h.symm.trans hclose

theorem patternTokens_braced (offset : Nat) {body : List Char} (rest : List Char)
    (hbalanced : Balanced body) (hne : body ≠ []) :
    patternTokens offset ('\x7b' :: body ++ '\x7d' :: rest) =
      .braced body :: patternTokens (offset + utf8Length body + 2) rest := by
  have h : closeBrace 0 false (body ++ '\x7d' :: rest) = some (body, rest) :=
    closeBrace_eq_some.2 ⟨hbalanced, rfl⟩
  rw [List.cons_append, patternTokens, if_pos rfl]
  split
  · next hclose => cases h.symm.trans hclose
  · next hclose =>
    cases h.symm.trans hclose
    exact absurd rfl hne
  · next hclose =>
    cases h.symm.trans hclose
    rfl

theorem patternTokens_unmatched (offset : Nat) (rest : List Char) :
    patternTokens offset ('\x7d' :: rest) = [.fault (.unmatched offset)] := by
  rw [patternTokens, if_neg (by decide), if_pos rfl]

theorem patternTokens_char (offset : Nat) {c : Char} (rest : List Char) (hopen : c ≠ '\x7b')
    (hclose : c ≠ '\x7d') :
    patternTokens offset (c :: rest) = .char c :: patternTokens (offset + c.utf8Size) rest := by
  rw [patternTokens, if_neg hopen, if_neg hclose]

section

variable [Engine]

/-- The part of a placeholder whose name is new, or the refusal of its expression. -/
theorem ofToken_braced {pattern : String} {seen : List String} {body : List Char}
    {name : Option String} {expression : String} (hdeclares : Declares body name expression)
    (hnew : ∀ n, name = some n → n ∉ seen) :
    PatternPart.ofToken pattern seen (.braced body) =
      match Placeholder.ofExpression? name expression with
      | some p => .ok (.placeholder p)
      | none => .error (.invalidSubPattern pattern) := by
  have hfilter : name.filter (seen.contains ·) = none := by
    cases name with
    | none => rfl
    | some n => simpa [Option.filter] using hnew n rfl
  rw [PatternPart.ofToken, declares_iff.1 hdeclares]
  cases hpart : Placeholder.ofExpression? name expression <;> simp only [hfilter, hpart]

/-- One token in good order is read as its part, and the reading goes on behind it. -/
theorem patternParts_step {pattern : String} {seen : List String} {t : PatternToken}
    {part : PatternPart} (h : t.Yields part) (hnew : ∀ n, part.name? = some n → n ∉ seen)
    (offset : Nat) (rest : List Char) :
    patternParts pattern seen (patternTokens offset (t.text ++ rest)) =
      (patternParts pattern (seen ++ part.name?.toList)
        (patternTokens (offset + utf8Length t.text) rest)).map (part :: ·) := by
  have hgo {tokens : List PatternToken} (hpart : PatternPart.ofToken pattern seen t = .ok part) :
      patternParts pattern seen (t :: tokens) =
        (patternParts pattern (seen ++ part.name?.toList) tokens).map (part :: ·) := by
    rw [patternParts, hpart]
    cases hrest : patternParts pattern (seen ++ part.name?.toList) tokens <;>
      simp [bind, Except.bind, hrest, Except.map, pure, Except.pure]
  cases h with
  | char hopen hclose =>
    rename_i c
    show patternParts pattern seen (patternTokens offset (c :: rest)) = _
    rw [patternTokens_char offset rest hopen hclose, hgo rfl]
    rfl
  | braced hbalanced hne hdeclares hp =>
    rename_i body p
    have htext : (PatternToken.braced body).text ++ rest = '\x7b' :: body ++ '\x7d' :: rest := by
      simp [PatternToken.text]
    have hlength : utf8Length (PatternToken.braced body).text = utf8Length body + 2 := by
      show utf8Length (['\x7b'] ++ body ++ ['\x7d']) = _
      rw [utf8Length_append, utf8Length_append, Nat.add_comm (utf8Length _)]
      rfl
    have hpart : PatternPart.ofToken pattern seen (.braced body) = .ok (.placeholder p) := by
      rw [ofToken_braced hdeclares hnew, hp]
    rw [htext, patternTokens_braced offset rest hbalanced hne, hgo hpart, hlength, Nat.add_assoc]

/-- Tokens in good order are read as their parts, and the reading goes on behind them. -/
theorem patternParts_run {pattern : String} {tokens : List PatternToken}
    {parts : List PatternPart} (h : List.Forall₂ PatternToken.Yields tokens parts)
    {seen : List String} (hnames : (seen ++ declaredNames parts).Nodup) (offset : Nat)
    (rest : List Char) :
    patternParts pattern seen (patternTokens offset (tokensText tokens ++ rest)) =
      (patternParts pattern (seen ++ declaredNames parts)
        (patternTokens (offset + utf8Length (tokensText tokens)) rest)).map (parts ++ ·) := by
  induction h generalizing seen offset with
  | nil =>
    simp only [tokensText, declaredNames, List.flatMap_nil, List.filterMap_nil, List.nil_append,
      List.append_nil, utf8Length, List.map_nil, total_nil, Nat.add_zero]
    cases patternParts pattern seen (patternTokens offset rest) <;> rfl
  | cons hpart _ ih =>
    rename_i t part tokens parts _
    have hdeclared : declaredNames (part :: parts) = part.name?.toList ++ declaredNames parts := by
      rw [declaredNames, List.filterMap_cons]
      cases part.name? <;> rfl
    rw [hdeclared, ← List.append_assoc] at hnames ⊢
    have hnew : ∀ n, part.name? = some n → n ∉ seen := by
      intro n hn hmem
      rw [List.append_assoc, hn] at hnames
      exact (List.nodup_append.1 hnames).2.2 n hmem n (by simp) rfl
    have htext : tokensText (t :: tokens) ++ rest = t.text ++ (tokensText tokens ++ rest) := by
      rw [tokensText, List.flatMap_cons, List.append_assoc]
      rfl
    have hlength : utf8Length (tokensText (t :: tokens)) =
        utf8Length t.text + utf8Length (tokensText tokens) := by
      rw [← utf8Length_append]
      rfl
    rw [htext, patternParts_step hpart hnew, ih hnames, hlength, Nat.add_assoc]
    cases patternParts pattern _ _ <;> rfl

/-- What is out of order behind tokens in good order is what the reading fails with. -/
theorem patternParts_fault {pattern : String} {before : List PatternToken}
    {parts : List PatternPart} (h : List.Forall₂ PatternToken.Yields before parts)
    {cs : List Char} {e : RouteError} (hfault : FaultAt pattern before cs e) :
    patternParts pattern (declaredNames parts)
      (patternTokens (utf8Length (tokensText before)) cs) = .error e := by
  have hfirst {t : PatternToken} {later : List PatternToken} {e : RouteError}
      (ht : PatternPart.ofToken pattern (declaredNames parts) t = .error e) :
      patternParts pattern (declaredNames parts) (t :: later) = .error e := by
    rw [patternParts, ht]
    rfl
  cases hfault with
  | unmatched =>
    rw [patternTokens_unmatched]
    exact hfirst rfl
  | unterminated hnone =>
    rename_i rest
    have hclose : closeBrace 0 false rest = none := by
      refine Option.eq_none_iff_forall_ne_some.2 ?_
      rintro ⟨body, after⟩ hsome
      obtain ⟨hbalanced, heq⟩ := closeBrace_eq_some.1 hsome
      exact hnone body after hbalanced heq
    rw [patternTokens_unterminated _ hclose]
    exact hfirst rfl
  | empty =>
    rw [patternTokens_empty]
    exact hfirst rfl
  | duplicate hbalanced hne hdeclares hnames =>
    rename_i body rest name expression
    rw [patternTokens_braced _ _ hbalanced hne]
    refine hfirst ?_
    have hseen : name ∈ declaredNames parts := (mem_declaredNames h name).2 hnames
    rw [PatternPart.ofToken, declares_iff.1 hdeclares]
    simp [Option.filter, hseen]
  | invalid hbalanced hne hdeclares hnew hascii hunicode =>
    rename_i body rest name expression
    rw [patternTokens_braced _ _ hbalanced hne]
    refine hfirst ?_
    have hunseen : ∀ n, name = some n → n ∉ declaredNames parts := by
      intro n hn hmem
      obtain ⟨t, ht, hnames⟩ := (mem_declaredNames h n).1 hmem
      exact hnew t ht n hn hnames
    have hrefused : Placeholder.ofExpression? name expression = none := by
      rw [← Option.not_isSome_iff_eq_none, isSome_ofExpression]
      exact not_or.2 ⟨hascii, hunicode⟩
    rw [ofToken_braced hdeclares hunseen, hrefused]

/-! ## Every text has a split or a fault -/

/-- One token in good order behind others in good order, none of which has its name. -/
theorem InOrder.concat {before : List PatternToken} {t : PatternToken} (h : InOrder before)
    (hproper : t.Proper) (hfilled : t ≠ .braced [])
    (hnew : ∀ s ∈ before, ∀ name, s.Names name → ¬ t.Names name)
    (haccepted : ∀ body name expression, t = .braced body → Declares body name expression →
      AcceptedAscii expression ∨ AcceptedUnicode expression) : InOrder (before ++ [t]) := by
  refine ⟨?_, ?_, ?_, ?_⟩
  · intro s hs
    rcases List.mem_append.1 hs with hs | hs
    · exact h.proper s hs
    · exact List.mem_singleton.1 hs ▸ hproper
  · intro hs
    rcases List.mem_append.1 hs with hs | hs
    · exact h.filled hs
    · exact hfilled (List.mem_singleton.1 hs).symm
  · refine List.pairwise_append.2 ⟨h.distinct, List.pairwise_singleton _ _, ?_⟩
    intro s hs t' ht'
    rw [List.mem_singleton.1 ht']
    exact hnew s hs
  · intro body name expression hs
    rcases List.mem_append.1 hs with hs | hs
    · exact h.accepted body name expression hs
    · exact haccepted body name expression (List.mem_singleton.1 hs).symm

/-- What stands between braces is one more token in good order, or at fault. -/
theorem braced_or_fault (pattern : String) {before : List PatternToken}
    (h : InOrder before) {body : List Char} (hbalanced : Balanced body) (after : List Char) :
    InOrder (before ++ [.braced body]) ∨
      ∃ e, FaultAt pattern before ('\x7b' :: body ++ '\x7d' :: after) e := by
  by_cases hempty : body = []
  · subst hempty
    exact .inr ⟨_, .empty⟩
  have hdeclares : Declares body (splitPlaceholder body).1 (splitPlaceholder body).2 :=
    declares_iff.2 rfl
  by_cases hseen : ∃ t ∈ before, ∃ n, (splitPlaceholder body).1 = some n ∧ t.Names n
  · obtain ⟨t, ht, n, hn, hnames⟩ := hseen
    rw [hn] at hdeclares
    exact .inr ⟨_, .duplicate hbalanced hempty hdeclares ⟨t, ht, hnames⟩⟩
  have hnew : ∀ t ∈ before, ∀ n, (splitPlaceholder body).1 = some n → ¬ t.Names n :=
    fun t ht n hn hnames => hseen ⟨t, ht, n, hn, hnames⟩
  by_cases haccepted : AcceptedAscii (splitPlaceholder body).2 ∨
      AcceptedUnicode (splitPlaceholder body).2
  · refine .inl (h.concat (.braced hbalanced) (by simpa using hempty) ?_ ?_)
    · intro s hs name hnames hname
      exact hnew s hs name (PatternToken.names_braced.1 hname) hnames
    · intro body' name expression heq hdeclares'
      cases heq
      rwa [declares_iff.1 hdeclares'] at haccepted
  · obtain ⟨hascii, hunicode⟩ := not_or.1 haccepted
    exact .inr ⟨_, .invalid hbalanced hempty hdeclares hnew hascii hunicode⟩

/-- A text starts with one more token in good order, or with a fault. -/
theorem token_or_fault (pattern : String) {before : List PatternToken} (h : InOrder before)
    (c : Char) (rest : List Char) :
    (∃ t later, t.text ++ later = c :: rest ∧ later.length ≤ rest.length ∧
      InOrder (before ++ [t])) ∨ ∃ e, FaultAt pattern before (c :: rest) e := by
  by_cases hopen : c = '\x7b'
  · subst hopen
    by_cases hclosed : ∃ body after, Balanced body ∧ rest = body ++ '\x7d' :: after
    · obtain ⟨body, after, hbalanced, rfl⟩ := hclosed
      refine (braced_or_fault pattern h hbalanced after).imp_left fun ht => ?_
      refine ⟨.braced body, after, by simp [PatternToken.text], ?_, ht⟩
      rw [List.length_append, List.length_cons]
      omega
    · exact .inr ⟨_, .unterminated fun body after hbalanced heq =>
        hclosed ⟨body, after, hbalanced, heq⟩⟩
  · by_cases hclose : c = '\x7d'
    · subst hclose
      exact .inr ⟨_, .unmatched⟩
    · refine .inl ⟨.char c, rest, rfl, le_rfl, h.concat (.char hopen hclose) (by simp) ?_ ?_⟩
      · exact fun s hs name hnames => PatternToken.not_names_char
      · intro body name expression heq
        cases heq

/-- Behind tokens in good order a text is split into more of them, up to its end or up to the
leftmost fault. -/
theorem split_or_fault (pattern : String) (before : List PatternToken) (cs : List Char)
    (h : InOrder before) :
    (∃ tokens, InOrder (before ++ tokens) ∧ tokensText tokens = cs) ∨
      ∃ tokens rest e, InOrder (before ++ tokens) ∧ tokensText tokens ++ rest = cs ∧
        FaultAt pattern (before ++ tokens) rest e := by
  induction hn : cs.length using Nat.strong_induction_on generalizing before cs with
  | _ n ih =>
    cases cs with
    | nil => exact .inl ⟨[], by rwa [List.append_nil], rfl⟩
    | cons c rest =>
      rcases token_or_fault pattern h c rest with ⟨t, later, htext, hshorter, ht⟩ | ⟨e, hfault⟩
      · -- What is behind the token is split by the induction hypothesis.
        have happend (tokens : List PatternToken) :
            before ++ [t] ++ tokens = before ++ t :: tokens := List.append_assoc before [t] tokens
        have hlt : later.length < n := by
          rw [← hn, List.length_cons]
          omega
        rcases ih later.length hlt (before ++ [t]) later ht rfl with
          ⟨tokens, horder, hlater⟩ | ⟨tokens, left, e, horder, hlater, hfault⟩
        · refine .inl ⟨t :: tokens, happend tokens ▸ horder, ?_⟩
          rw [← htext, ← hlater]
          rfl
        · refine .inr ⟨t :: tokens, left, e, happend tokens ▸ horder, ?_, happend tokens ▸ hfault⟩
          rw [← htext, ← hlater, ← List.append_assoc]
          rfl
      · refine .inr ⟨[], c :: rest, e, ?_, rfl, ?_⟩
        · rwa [List.append_nil]
        · rwa [List.append_nil]

/-! ## Compiling -/

/-- The names of the placeholders among parts are those that their tokens declare. -/
theorem names_of_yields {tokens : List PatternToken} {parts : List PatternPart}
    (h : List.Forall₂ PatternToken.Yields tokens parts) (slot : Nat) :
    List.Forall₂ (fun body name => ∃ expression, Declares body name expression)
      (tokens.filterMap PatternToken.body?) ((Pattern.slotsFrom slot parts).map (·.2.name)) := by
  induction h generalizing slot with
  | nil => exact .nil
  | cons hpart _ ih =>
    cases hpart with
    | char _ _ => exact ih slot
    | braced _ _ hdeclares _ => exact .cons ⟨_, hdeclares⟩ (ih _)

end

namespace Pattern

variable {text : String} {tokens : List PatternToken}

section

variable [Engine]

/-- A text with a split in good order compiles to the parts that the tokens stand for. -/
theorem compile_of_yields {parts : List PatternPart}
    (h : List.Forall₂ PatternToken.Yields tokens parts) (hnames : (declaredNames parts).Nodup)
    (htext : tokensText tokens = (trimSlashes text).toList) :
    compile text = .ok ⟨text, parts⟩ := by
  have hrun := @patternParts_run _ text _ _ h [] hnames 0 []
  rw [List.append_nil, htext] at hrun
  rw [compile, hrun, patternTokens]
  simp [patternParts, bind, Except.bind, Except.map, pure, Except.pure]

theorem compile_of_fault {rest : List Char} {e : RouteError} (h : InOrder tokens)
    (htext : tokensText tokens ++ rest = (trimSlashes text).toList)
    (hfault : FaultAt text tokens rest e) : compile text = .error e := by
  obtain ⟨parts, hparts, hnames⟩ := h.yields
  have hrun := @patternParts_run _ text _ _ hparts [] hnames 0 rest
  rw [htext, Nat.zero_add, List.nil_append, patternParts_fault hparts hfault] at hrun
  rw [compile, hrun]
  rfl

/-- A text is refused for the leftmost token that is out of order, and only for that. -/
theorem compile_eq_error {e : RouteError} : compile text = .error e ↔
    ∃ before rest, InOrder before ∧ tokensText before ++ rest = (trimSlashes text).toList ∧
      FaultAt text before rest e := by
  constructor
  · intro he
    rcases split_or_fault text [] (trimSlashes text).toList ⟨by simp, by simp, .nil, by simp⟩ with
      ⟨tokens, horder, htext⟩ | ⟨before, rest, e', horder, htext, hfault⟩
    · obtain ⟨parts, hparts, hnames⟩ := horder.yields
      rw [compile_of_yields hparts hnames htext] at he
      cases he
    · rw [compile_of_fault horder htext hfault] at he
      cases he
      exact ⟨before, rest, horder, htext, hfault⟩
  · rintro ⟨before, rest, horder, htext, hfault⟩
    exact compile_of_fault horder htext hfault

/-- A text compiles if and only if it has a split in good order. -/
theorem exists_compile_iff : (∃ p, compile text = .ok p) ↔
    ∃ tokens, InOrder tokens ∧ tokensText tokens = (trimSlashes text).toList := by
  constructor
  · rintro ⟨p, hp⟩
    rcases split_or_fault text [] (trimSlashes text).toList ⟨by simp, by simp, .nil, by simp⟩ with
      hsplit | ⟨before, rest, e, hfault⟩
    · exact hsplit
    · rw [compile_eq_error.2 ⟨before, rest, hfault⟩] at hp
      cases hp
  · rintro ⟨tokens, horder, htext⟩
    obtain ⟨parts, hparts, hnames⟩ := horder.yields
    exact ⟨_, compile_of_yields hparts hnames htext⟩

end

/-- Whether a text compiles, what it compiles to, and what it is refused for otherwise. Any split in
good order tells the names of the placeholders and the expression of the pattern, token by token. A
text without one is refused for the leftmost token that is out of order. -/
theorem compile_grammar [Engine] (text : String) :
    ((∃ p, compile text = .ok p) ↔
      ∃ tokens, InOrder tokens ∧ tokensText tokens = (trimSlashes text).toList) ∧
    (∀ p tokens, compile text = .ok p → InOrder tokens →
      tokensText tokens = (trimSlashes text).toList →
        p.literal = trimSlashes text ∧
        List.Forall₂ (fun body name => ∃ expression, Declares body name expression)
          (tokens.filterMap PatternToken.body?) p.names ∧
        ∃ sources, List.Forall₂ PatternToken.Writes tokens sources ∧
          p.source = String.join sources) ∧
    ∀ e, compile text = .error e ↔
      ∃ before rest, InOrder before ∧ tokensText before ++ rest = (trimSlashes text).toList ∧
        FaultAt text before rest e := by
  refine ⟨exists_compile_iff, ?_, fun e => compile_eq_error⟩
  intro p tokens hp horder htext
  obtain ⟨parts, hparts, hnames⟩ := horder.yields
  rw [compile_of_yields hparts hnames htext] at hp
  cases hp
  refine ⟨rfl, names_of_yields hparts 1, parts.map PatternPart.source, ?_, rfl⟩
  exact List.forall₂_map_right_iff.2 (hparts.imp fun _ _ => PatternToken.writes_of_yields)

/-- A brace in an expression is part of it, and an expression that only Unicode mode takes is
written as it stands. -/
theorem compile_grammar_nested_brace :
    let digits := "x:\\d\x7b2\x7d".toList
    let segment := "[^/]+".toList
    ∃ p, compile "/a\x7bx:\\d\x7b2\x7d\x7d\x7b[^/]+\x7d/" = .ok p ∧
      p.literal = "a\x7bx:\\d\x7b2\x7d\x7d\x7b[^/]+\x7d" ∧
      List.Forall₂ (fun body name => ∃ expression, Declares body name expression)
        [digits, segment] p.names ∧
      ∃ sources, List.Forall₂ PatternToken.Writes
          [.char 'a', .braced digits, .braced segment] sources ∧
        p.source = String.join sources := by
  intro digits segment
  have hbalanced {body : List Char}
      (h : closeBrace 0 false (body ++ ['\x7d']) = some (body, [])) : Balanced body :=
    (closeBrace_eq_some.1 h).1
  have horder : InOrder [.char 'a', .braced digits, .braced segment] := by
    refine ⟨?_, by decide, ?_, ?_⟩
    · intro t ht
      simp only [List.mem_cons, List.not_mem_nil, or_false] at ht
      rcases ht with rfl | rfl | rfl
      · exact .char (by decide) (by decide)
      · exact .braced (hbalanced (by decide))
      · exact .braced (hbalanced (by decide))
    · refine .cons ?_ (.cons ?_ (.cons ?_ .nil))
      · intro t _ name hname
        exact absurd hname PatternToken.not_names_char
      · intro t ht name _
        rw [List.mem_singleton.1 ht, PatternToken.names_braced, show (splitPlaceholder segment).1 =
          none by decide]
        simp
      · intro t ht
        cases ht
    · intro body name expression hbody hdeclares
      rw [declares_iff] at hdeclares
      simp only [List.mem_cons, List.not_mem_nil, or_false, reduceCtorEq, false_or,
        PatternToken.braced.injEq] at hbody
      rcases hbody with rfl | rfl
      · cases hdeclares.symm.trans (show _ = (some "x", "\\d\x7b2\x7d") by decide)
        exact .inl (by decide +kernel)
      · cases hdeclares.symm.trans (show _ = (none, "[^/]+") by decide)
        exact .inr (by decide +kernel)
  have htext : tokensText [.char 'a', .braced digits, .braced segment] =
      (trimSlashes "/a\x7bx:\\d\x7b2\x7d\x7d\x7b[^/]+\x7d/").toList := by decide
  obtain ⟨p, hp⟩ := (compile_grammar _).1.2 ⟨_, horder, htext⟩
  obtain ⟨hliteral, hnames, hsource⟩ := (compile_grammar _).2.1 p _ hp horder htext
  have htrim : trimSlashes "/a\x7bx:\\d\x7b2\x7d\x7d\x7b[^/]+\x7d/" =
      "a\x7bx:\\d\x7b2\x7d\x7d\x7b[^/]+\x7d" := by decide +kernel
  exact ⟨p, hp, hliteral.trans htrim, hnames, hsource⟩

end Pattern

end HttpRoutes
