import HttpRoutes.Proofs.Handler.Reference
import HttpRoutes.Proofs.Route.Syntax

/-!
# Where a brace is out of order

A pattern that is refused for one of its braces is told the offset of the brace in bytes. The offset
counts from behind the slashes in front of the pattern, while the pattern that is quoted beside it
has them, so the brace stands as many bytes further on as there are slashes
(`Pattern.brace_at_offset`).

That the brace is without a partner is said of the whole text: a closing brace has no opening one
in front of it with balanced text between, not even one behind a backslash.
-/

namespace HttpRoutes

/-! ## Braces without a partner -/

/-- The brace between two texts has no partner in them. -/
inductive Unpaired : List Char → Char → List Char → Prop
  | opening {before after} : (∀ body later, Balanced body → after ≠ body ++ '\x7d' :: later) →
      Unpaired before '\x7b' after
  | closing {before after} : (∀ front body, Balanced body → before ≠ front ++ '\x7b' :: body) →
      Unpaired before '\x7d' after

/-- The text begins with what stands between an opening brace and the brace that closes it. -/
def ClosesWithin (cs : List Char) : Prop :=
  ∃ body later, Balanced body ∧ cs = body ++ '\x7d' :: later

theorem ClosesWithin.append {cs : List Char} (h : ClosesWithin cs) (more : List Char) :
    ClosesWithin (cs ++ more) := by
  obtain ⟨body, later, hbody, rfl⟩ := h
  exact ⟨body, later ++ more, hbody, by simp⟩

theorem ClosesWithin.not_balanced {cs : List Char} (h : ClosesWithin cs) : ¬ Balanced cs := by
  obtain ⟨body, later, hbody, rfl⟩ := h
  intro hbalanced
  have heq : body ++ '\x7d' :: later ++ '\x7d' :: [] = body ++ '\x7d' :: (later ++ ['\x7d']) := by
    simp
  have hsame := (hbalanced.unique hbody heq).1
  simp at hsame

/-- Where text is split at a brace, the brace is in the first part or in the second. -/
theorem append_eq_around {left right front back : List Char} {c : Char}
    (h : left ++ right = front ++ c :: back) :
    (∃ middle, left = front ++ c :: middle ∧ back = middle ++ right) ∨
    ∃ middle, right = middle ++ c :: back ∧ front = left ++ middle := by
  rcases List.append_eq_append_iff.1 h with ⟨middle, hfront, hright⟩ | ⟨middle, hleft, hback⟩
  · exact .inr ⟨middle, hright, hfront⟩
  · cases middle with
    | nil =>
      rw [List.append_nil] at hleft
      exact .inr ⟨[], hback.symm, by rw [hleft, List.append_nil]⟩
    | cons d middle =>
      rw [List.cons_append] at hback
      obtain ⟨rfl, hrest⟩ := List.cons.inj hback
      exact .inl ⟨middle, hleft, hrest⟩

/-- In balanced text that a brace closes, every opening brace is closed before the text behind it
ends. One behind a backslash is closed by the brace behind the text, if by none before. -/
theorem Balanced.closesWithin {cs front back : List Char} (h : Balanced cs)
    (hcs : cs = front ++ '\x7b' :: back) : ClosesWithin (back ++ ['\x7d']) := by
  induction h generalizing front back with
  | nil => simp at hcs
  | @escaped c rest hrest ih =>
    match front, hcs with
    | [_], hcs =>
      obtain ⟨-, hcs⟩ := List.cons.inj hcs
      obtain ⟨-, rfl⟩ := List.cons.inj hcs
      exact ⟨rest, [], hrest, rfl⟩
    | _ :: _ :: front, hcs =>
      obtain ⟨-, hcs⟩ := List.cons.inj hcs
      exact ih (List.cons.inj hcs).2
  | @plain c rest hslash hopen hclose hrest ih =>
    cases front with
    | nil => exact absurd (List.cons.inj hcs).1 hopen
    | cons d front => exact ih (List.cons.inj hcs).2
  | @nested inner rest hinner hrest ihinner ihrest =>
    cases front with
    | nil =>
      obtain rfl : inner ++ '\x7d' :: rest = back := (List.cons.inj hcs).2
      exact ⟨inner, rest ++ ['\x7d'], hinner, by simp⟩
    | cons d front =>
      have hsplit : inner ++ '\x7d' :: rest = front ++ '\x7b' :: back := (List.cons.inj hcs).2
      rcases append_eq_around hsplit with ⟨middle, hmiddle, rfl⟩ | ⟨middle, hmiddle, -⟩
      · have hwithin := (ihinner hmiddle).append (rest ++ ['\x7d'])
        simpa using hwithin
      · cases middle with
        | nil => cases (List.cons.inj hmiddle).1
        | cons e middle => exact ihrest (List.cons.inj hmiddle).2

/-- Behind every opening brace of proper tokens there is the brace that closes it. -/
theorem closesWithin_of_proper {tokens : List PatternToken} (h : ∀ t ∈ tokens, t.Proper)
    {front back : List Char} (htext : tokensText tokens = front ++ '\x7b' :: back) :
    ClosesWithin back := by
  induction tokens generalizing front with
  | nil => simp [tokensText] at htext
  | cons t rest ih =>
    have hsplit : t.text ++ tokensText rest = front ++ '\x7b' :: back := htext
    rcases append_eq_around hsplit with ⟨middle, hmiddle, rfl⟩ | ⟨middle, hmiddle, -⟩
    · refine ClosesWithin.append ?_ _
      cases h t List.mem_cons_self with
      | @char c hopen hclose =>
        cases front with
        | nil => exact absurd (List.cons.inj hmiddle).1 hopen
        | cons d front => simp [PatternToken.text] at hmiddle
      | @braced body hbody =>
        cases front with
        | nil => exact ⟨body, [], hbody, (List.cons.inj hmiddle).2.symm⟩
        | cons d front =>
          have hinside : body ++ ['\x7d'] = front ++ '\x7b' :: middle := (List.cons.inj hmiddle).2
          rcases append_eq_around hinside with ⟨inner, hinner, rfl⟩ | ⟨inner, hinner, -⟩
          · exact hbody.closesWithin hinner
          · cases inner with
            | nil => cases (List.cons.inj hinner).1
            | cons e inner => simp at hinner
    · exact ih (fun s hs => h s (List.mem_cons_of_mem _ hs)) hmiddle

/-! ## Bytes -/

/-- The bytes of a text are those of its characters. -/
theorem data_toUTF8 (text : String) :
    text.toUTF8.data = (text.toList.flatMap String.utf8EncodeChar).toArray := by
  rw [String.toUTF8_eq_toByteArray, ← String.utf8Encode_toList, List.utf8Encode,
    List.data_toByteArray]

theorem length_flatMap_encode (cs : List Char) :
    (cs.flatMap String.utf8EncodeChar).length = utf8Length cs := by
  induction cs with
  | nil => rfl
  | cons c cs ih =>
    rw [List.flatMap_cons, List.length_append, String.length_utf8EncodeChar, ih]
    rfl

/-- A character that is encoded by one byte stands where the bytes in front of it end. -/
theorem byte_at {text : String} {before after : List Char} {c : Char} {b : UInt8}
    (htext : text.toList = before ++ c :: after) (hc : String.utf8EncodeChar c = [b]) :
    text.toUTF8[utf8Length before]? = some b := by
  have hlength := length_flatMap_encode before
  show text.toUTF8.data[utf8Length before]? = some b
  rw [data_toUTF8, htext, List.flatMap_append, List.flatMap_cons, hc, List.getElem?_toArray,
    List.getElem?_append_right (Nat.le_of_eq hlength), hlength, Nat.sub_self]
  rfl

/-! ## Slashes in front -/

/-- How many slashes a text begins with. -/
def leadingSlashes (text : String) : Nat := (text.toList.takeWhile (· = '/')).length

theorem leadingSlashes_eq_zero {text : String} :
    leadingSlashes text = 0 ↔ text.toList.head? ≠ some '/' := by
  rw [leadingSlashes, List.length_eq_zero_iff]
  cases text.toList with
  | nil => simp
  | cons c rest => by_cases hc : c = '/' <;> simp [hc]

theorem utf8Length_slashes (n : Nat) : utf8Length (List.replicate n '/') = n := by
  induction n with
  | zero => rfl
  | succ n ih =>
    rw [List.replicate_succ]
    show 1 + utf8Length (List.replicate n '/') = n + 1
    rw [ih, Nat.add_comm]

/-- Around a text without the slashes at its ends there are slashes alone. -/
theorem around_trimmed {text : String} {before after : List Char} {c : Char}
    (h : before ++ c :: after = (trimSlashes text).toList) :
    ∃ right, (∀ d ∈ right, d = '/') ∧
      text.toList =
        (List.replicate (leadingSlashes text) '/' ++ before) ++ c :: (after ++ right) := by
  obtain ⟨htrimmed, left, right, hleft, hright, htext⟩ :=
    Text.exists_trimBoth (· = '/') text.toList
  have hmiddle : Text.trimBoth (· = '/') text.toList = before ++ c :: after := by
    rw [h, trimSlashes, String.toList_ofList]
  rw [hmiddle] at htrimmed htext
  have hslashes : text.toList.takeWhile (· = '/') = left := by
    rw [htext, List.append_assoc, List.takeWhile_append_of_pos hleft]
    obtain ⟨d, rest, hfirst⟩ := List.exists_cons_of_ne_nil (l := before ++ c :: after) (by simp)
    rw [hfirst] at htrimmed ⊢
    have hd : ¬ decide (d = '/') = true := by simpa using htrimmed.first d rfl
    rw [List.cons_append, List.takeWhile_cons, if_neg hd, List.append_nil]
  have hreplicate : left = List.replicate (leadingSlashes text) '/' := by
    rw [leadingSlashes, hslashes]
    exact List.eq_replicate_iff.2 ⟨rfl, fun d hd => by simpa using hleft d hd⟩
  refine ⟨right, fun d hd => by simpa using hright d hd, ?_⟩
  rw [htext, hreplicate]
  simp

/-- Slashes around it give a brace no partner. -/
theorem Unpaired.slashes {before after right : List Char} {c : Char} (h : Unpaired before c after)
    (n : Nat) (hright : ∀ d ∈ right, d = '/') :
    Unpaired (List.replicate n '/' ++ before) c (after ++ right) := by
  cases h with
  | opening hnone =>
    refine .opening fun body later hbody heq => ?_
    rcases append_eq_around heq with ⟨middle, hafter, -⟩ | ⟨middle, hslashes, -⟩
    · exact hnone body middle hbody hafter
    · have hbrace : '\x7d' ∈ right := by
        rw [hslashes]
        simp
      cases hright _ hbrace
  | closing hnone =>
    refine .closing fun front body hbody heq => ?_
    rcases append_eq_around heq with ⟨middle, hslashes, -⟩ | ⟨middle, hbefore, -⟩
    · have hbrace : '\x7b' ∈ List.replicate n '/' := by
        rw [hslashes]
        simp
      cases List.eq_of_mem_replicate hbrace
    · exact hnone middle body hbody hbefore

/-! ## Offsets -/

/-- The brace that a fault is about, and the offset that is told of it. -/
def BraceFault.place? : BraceFault → Option (Char × Nat)
  | .unterminated offset => some ('\x7b', offset)
  | .unmatched offset => some ('\x7d', offset)
  | .emptyPlaceholder => none

/-- Behind tokens in good order a fault of a brace is a brace without a partner, and the offset that
is told is how many bytes the tokens take. -/
theorem FaultAt.unpaired [Engine] {pattern quoted : String} {tokens : List PatternToken}
    {rest : List Char} {fault : BraceFault} {brace : Char} {offset : Nat} (horder : InOrder tokens)
    (h : FaultAt pattern tokens rest (.malformedPattern quoted fault))
    (hplace : fault.place? = some (brace, offset)) :
    quoted = pattern ∧ offset = utf8Length (tokensText tokens) ∧
      ∃ after, rest = brace :: after ∧ Unpaired (tokensText tokens) brace after := by
  cases h with
  | unmatched =>
    cases hplace
    refine ⟨rfl, rfl, _, rfl, .closing fun front body hbody heq => ?_⟩
    exact (closesWithin_of_proper horder.proper heq).not_balanced hbody
  | unterminated hnone =>
    cases hplace
    exact ⟨rfl, rfl, _, rfl, .opening hnone⟩
  | empty => cases hplace

namespace Pattern

/-- A pattern that is refused for one of its braces is quoted as it is declared, and the brace has
no partner in it. Everything between the slashes in front and the brace is in good order. The brace
stands at the offset that is told, counted from behind those slashes, so it stands at that offset of
the quoted pattern if the pattern begins with no slash, and only then. -/
theorem brace_at_offset [Engine] {text quoted : String} {fault : BraceFault} {brace : Char}
    {offset : Nat} (h : compile text = .error (.malformedPattern quoted fault))
    (hplace : fault.place? = some (brace, offset)) :
    quoted = text ∧ ∃ tokens after,
      let before := List.replicate (leadingSlashes quoted) '/' ++ tokensText tokens
      InOrder tokens ∧ quoted.toList = before ++ brace :: after ∧ Unpaired before brace after ∧
      utf8Length before = leadingSlashes quoted + offset ∧
      quoted.toUTF8[leadingSlashes quoted + offset]? = some brace.toUInt8 ∧
      (utf8Length before = offset ↔ quoted.toList.head? ≠ some '/') := by
  obtain ⟨tokens, rest, horder, htext, hfault⟩ := compile_eq_error.1 h
  obtain ⟨rfl, rfl, after, rfl, hunpaired⟩ := hfault.unpaired horder hplace
  obtain ⟨right, hright, hquoted⟩ := around_trimmed htext
  have hlength : utf8Length (List.replicate (leadingSlashes quoted) '/' ++ tokensText tokens) =
      leadingSlashes quoted + utf8Length (tokensText tokens) := by
    rw [utf8Length_append, utf8Length_slashes]
  have hbyte : String.utf8EncodeChar brace = [brace.toUInt8] := by
    cases hunpaired with
    | opening _ => decide
    | closing _ => decide
  refine ⟨rfl, tokens, after ++ right, horder, hquoted, hunpaired.slashes _ hright, hlength, ?_, ?_⟩
  · rw [← hlength]
    exact byte_at hquoted hbyte
  · rw [hlength, ← leadingSlashes_eq_zero]
    omega

/-- Two slashes in front, a character of two bytes, and a placeholder with escaped and nested braces
before the brace that closes nothing. -/
theorem brace_at_offset_behind_placeholder :
    let text := "//é/\x7bn:\\\x7d\\d\x7b2\x7d\x7d\x7d/"
    compile text = .error (.malformedPattern text (.unmatched 14)) ∧
      (BraceFault.unmatched 14).place? = some ('\x7d', 14) ∧
      leadingSlashes text = 2 ∧ text.toUTF8[16]? = some '\x7d'.toUInt8 ∧
      ∃ before after, text.toList = before ++ '\x7d' :: after ∧ Unpaired before '\x7d' after ∧
        utf8Length before = 16 := by
  intro text
  have hcompile : compile text = .error (.malformedPattern text (.unmatched 14)) := by
    decide +kernel
  have hslashes : leadingSlashes text = 2 := by decide +kernel
  obtain ⟨-, tokens, after, -, htext, hunpaired, hlength, hbyte, -⟩ :=
    brace_at_offset hcompile rfl
  rw [hslashes] at htext hunpaired hlength hbyte
  exact ⟨hcompile, rfl, hslashes, hbyte, _, after, htext, hunpaired, hlength⟩

/-- Behind a slash in front of the pattern the offset that is told is not that of the brace: the
byte there is a slash. -/
theorem no_brace_at_offset_behind_slash :
    let text := "/a/\x7bid"
    ∃ offset, compile text = .error (.malformedPattern text (.unterminated offset)) ∧
      text.toUTF8[offset]? = some '/'.toUInt8 ∧ text.toUTF8[offset]? ≠ some '\x7b'.toUInt8 := by
  intro text
  refine ⟨2, by decide +kernel, by decide +kernel, by decide +kernel⟩

end Pattern

end HttpRoutes
