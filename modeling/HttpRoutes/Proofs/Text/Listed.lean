import HttpRoutes.Text.ByName
import HttpRoutes.Text.Hex
import HttpRoutes.Text.Json
import Mathlib.Data.List.Nodup
import Mathlib.Data.String.Basic

/-!
# Objects and the order of their fields

Sorting by name keeps all named values, and it leaves a list as it is if and only if the names
ascend (`sortByName_eq_self_iff`). The text of an object tells the order of its fields: texts in
quotes can be read back, so two lists of pairs with one text are the same list
(`render_ofPairs_inj`).
-/

namespace HttpRoutes.Text

variable {α β : Type}

/-! ## Sorting by name -/

/-- Each name is less than all names behind it. -/
def Ascending (named : List (String × α)) : Prop := (named.map (·.1)).Pairwise (· < ·)

instance (named : List (String × α)) : Decidable (Ascending named) :=
  inferInstanceAs (Decidable (List.Pairwise _ _))

theorem mem_names_insertByName {name n : String} {a : α} {named : List (String × α)}
    (h : n ∈ (insertByName name a named).map (·.1)) : n = name ∨ n ∈ named.map (·.1) := by
  induction named with
  | nil => exact .inl (by simpa [insertByName] using h)
  | cons first rest ih =>
    obtain ⟨m, b⟩ := first
    rw [insertByName] at h
    split at h
    · simpa using h
    · split at h
      · next hsame =>
        subst hsame
        exact .inr (by simpa using h)
      · rw [List.map_cons, List.mem_cons] at h ⊢
        rcases h with h | h
        · exact .inr (.inl h)
        · exact (ih h).imp_right .inr

theorem ascending_insertByName {name : String} {a : α} {named : List (String × α)}
    (h : Ascending named) : Ascending (insertByName name a named) := by
  induction named with
  | nil => simp [insertByName, Ascending]
  | cons first rest ih =>
    obtain ⟨m, b⟩ := first
    obtain ⟨hfirst, hrest⟩ := List.pairwise_cons.1 h
    rw [insertByName]
    split
    · next hlt =>
      refine List.pairwise_cons.2 ⟨?_, h⟩
      intro n hn
      rcases List.mem_cons.1 hn with rfl | hn
      · exact hlt
      · exact lt_trans hlt (hfirst n hn)
    · next hnot =>
      split
      · next hsame =>
        rw [hsame]
        exact h
      · next hne =>
        refine List.pairwise_cons.2 ⟨?_, ih hrest⟩
        intro n hn
        rcases mem_names_insertByName hn with rfl | hn
        · exact lt_of_le_of_ne (not_lt.1 hnot) (Ne.symm hne)
        · exact hfirst n hn

/-- A new name takes the place of none. -/
theorem insertByName_perm {name : String} {a : α} {named : List (String × α)}
    (h : name ∉ named.map (·.1)) : (insertByName name a named).Perm ((name, a) :: named) := by
  induction named with
  | nil => exact .refl _
  | cons first rest ih =>
    obtain ⟨m, b⟩ := first
    rw [List.map_cons, List.mem_cons, not_or] at h
    rw [insertByName, if_neg h.1]
    split
    · exact .refl _
    · exact ((ih h.2).cons _).trans (.swap _ _ _)

/-- Sorting starts from nothing and puts in one named value after the other. -/
theorem foldl_insertByName (named before : List (String × α)) (hbefore : Ascending before)
    (hnodup : ((before ++ named).map (·.1)).Nodup) :
    Ascending (named.foldl (fun acc x => insertByName x.1 x.2 acc) before) ∧
      (named.foldl (fun acc x => insertByName x.1 x.2 acc) before).Perm (before ++ named) := by
  induction named generalizing before with
  | nil => exact ⟨hbefore, by rw [List.append_nil]; exact .refl _⟩
  | cons x rest ih =>
    have hnew : x.1 ∉ before.map (·.1) := by
      intro hmem
      rw [List.map_append, List.map_cons] at hnodup
      exact (List.nodup_append.1 hnodup).2.2 _ hmem _ List.mem_cons_self rfl
    have hperm : (insertByName x.1 x.2 before ++ rest).Perm (before ++ x :: rest) :=
      ((insertByName_perm hnew).append_right rest).trans List.perm_middle.symm
    obtain ⟨hascending, hall⟩ := ih _ (ascending_insertByName hbefore)
      ((hperm.map _).nodup_iff.2 hnodup)
    exact ⟨hascending, hall.trans hperm⟩

section Sorted

variable {named : List (String × α)}

theorem ascending_sortByName (hnodup : (named.map (·.1)).Nodup) : Ascending (sortByName named) :=
  (foldl_insertByName named [] .nil hnodup).1

theorem sortByName_perm (hnodup : (named.map (·.1)).Nodup) : (sortByName named).Perm named :=
  (foldl_insertByName named [] .nil hnodup).2

theorem Ascending.nodup (h : Ascending named) : (named.map (·.1)).Nodup :=
  h.imp ne_of_lt

/-- Only one order ascends. -/
theorem sortByName_eq {sorted : List (String × α)} (hperm : sorted.Perm named)
    (h : Ascending sorted) : sortByName named = sorted := by
  have hnodup : (named.map (·.1)).Nodup := (hperm.map _).nodup_iff.1 h.nodup
  refine List.Perm.eq_of_pairwise ?_ (List.pairwise_map.1 (ascending_sortByName hnodup))
    (List.pairwise_map.1 h) ((sortByName_perm hnodup).trans hperm.symm)
  intro p q _ _ hlt hgt
  exact absurd hgt (lt_asymm hlt)

theorem sortByName_eq_self_iff (hnodup : (named.map (·.1)).Nodup) :
    sortByName named = named ↔ Ascending named := by
  constructor
  · intro heq
    rw [← heq]
    exact ascending_sortByName hnodup
  · exact sortByName_eq (.refl _)

end Sorted

/-- Sorting looks at the names alone. -/
theorem sortByName_map (f : α → β) {named : List (String × α)}
    (hnodup : (named.map (·.1)).Nodup) :
    sortByName (named.map fun p => (p.1, f p.2)) =
      (sortByName named).map fun p => (p.1, f p.2) := by
  refine sortByName_eq ((sortByName_perm hnodup).map _) ?_
  rw [Ascending, List.map_map]
  exact ascending_sortByName hnodup

/-! ## Reading quoted texts back -/

/-- The character that is written at the start of a quoted text, and what is behind it. -/
def readQuotedChar : List Char → Option (Char × List Char)
  | [] => none
  | '"' :: _ => none
  | '\\' :: 'u' :: a :: b :: c :: d :: rest => (hexChar? [a, b, c, d]).map fun x => (x, rest)
  | '\\' :: 'n' :: rest => some ('\n', rest)
  | '\\' :: 'r' :: rest => some ('\r', rest)
  | '\\' :: 't' :: rest => some ('\t', rest)
  | '\\' :: 'b' :: rest => some (Char.ofNat 8, rest)
  | '\\' :: 'f' :: rest => some (Char.ofNat 12, rest)
  | '\\' :: c :: rest => some (c, rest)
  | c :: rest => some (c, rest)

theorem hexChar_of_lt : ∀ n < 32, hexChar? ['0', '0', Json.hexDigit (n / 16),
    Json.hexDigit (n % 16)] = some (Char.ofNat n) := by
  decide

/-- A character is read back from what is written for it. -/
theorem readQuotedChar_escapeChar (c : Char) (rest : List Char) :
    readQuotedChar ((Json.escapeChar c).toList ++ rest) = some (c, rest) := by
  unfold Json.escapeChar
  split
  · rfl
  · rfl
  · rfl
  · rfl
  · rfl
  · next hquote hslash _ _ _ =>
    by_cases h8 : c.toNat = 8
    · rw [if_pos h8, ← Char.ofNat_toNat c, h8]
      rfl
    rw [if_neg h8]
    by_cases h12 : c.toNat = 12
    · rw [if_pos h12, ← Char.ofNat_toNat c, h12]
      rfl
    rw [if_neg h12]
    by_cases h32 : c.toNat < 32
    · rw [if_pos h32, String.toList_ofList]
      show (hexChar? ['0', '0', Json.hexDigit (c.toNat / 16),
        Json.hexDigit (c.toNat % 16)]).map (fun x => (x, rest)) = some (c, rest)
      rw [hexChar_of_lt _ h32, Char.ofNat_toNat]
      rfl
    · have htext : c.toString.toList = [c] := by simp
      rw [if_neg h32, htext]
      show readQuotedChar (c :: rest) = some (c, rest)
      unfold readQuotedChar
      split <;> simp_all

/-- What stands between the quotes of a text. -/
def quotedInside (cs : List Char) : List Char := cs.flatMap fun c => (Json.escapeChar c).toList

theorem toList_quote (s : String) :
    (Json.quote s).toList = '"' :: (quotedInside s.toList ++ ['"']) := by
  rw [Json.quote, String.toList_append, String.toList_append, String.toList_join, quotedInside,
    List.flatMap_map]
  rfl

/-- The closing quote is the first that no character is written with. -/
theorem quotedInside_inj {cs ds rest rest' : List Char}
    (h : quotedInside cs ++ '"' :: rest = quotedInside ds ++ '"' :: rest') :
    cs = ds ∧ rest = rest' := by
  have hread (c : Char) (cs rest : List Char) :
      readQuotedChar (quotedInside (c :: cs) ++ rest) = some (c, quotedInside cs ++ rest) := by
    rw [quotedInside, List.flatMap_cons, List.append_assoc, readQuotedChar_escapeChar]
    rfl
  have hend (rest : List Char) : readQuotedChar (quotedInside [] ++ '"' :: rest) = none := rfl
  induction cs generalizing ds with
  | nil =>
    cases ds with
    | nil => exact ⟨rfl, (List.cons.inj h).2⟩
    | cons d ds =>
      have hsame := congrArg readQuotedChar h
      rw [hend, hread] at hsame
      cases hsame
  | cons c cs ih =>
    have hsame := congrArg readQuotedChar h
    cases ds with
    | nil =>
      rw [hend, hread] at hsame
      cases hsame
    | cons d ds =>
      rw [hread, hread] at hsame
      obtain ⟨rfl, hbehind⟩ := Prod.mk.inj (Option.some.inj hsame)
      obtain ⟨rfl, hrest⟩ := ih hbehind
      exact ⟨rfl, hrest⟩

theorem quote_inj {s t : String} {rest rest' : List Char}
    (h : (Json.quote s).toList ++ rest = (Json.quote t).toList ++ rest') :
    s = t ∧ rest = rest' := by
  rw [toList_quote, toList_quote, List.cons_append, List.cons_append, List.append_assoc,
    List.append_assoc] at h
  obtain ⟨htexts, hrest⟩ := quotedInside_inj (List.cons.inj h).2
  exact ⟨String.toList_inj.1 htexts, hrest⟩

/-! ## Objects of texts -/

/-- The object that lists pairs of texts in their order. -/
def Json.ofPairs (pairs : List (String × String)) : Json :=
  .object (pairs.map fun p => (p.1, .text p.2))

/-- What is written of the fields of an object up to its closing brace. -/
def fieldsText (pairs : List (String × String)) : List Char :=
  (Json.renderFields (pairs.map fun p => (p.1, .text p.2))).toList

theorem toList_render_ofPairs (pairs : List (String × String)) :
    (Json.ofPairs pairs).render.toList = '\x7b' :: (fieldsText pairs ++ ['\x7d']) := by
  rw [Json.ofPairs, Json.render, String.toList_append, String.toList_append]
  rfl

theorem fieldsText_cons (p : String × String) (rest : List (String × String)) :
    fieldsText (p :: rest) = (Json.quote p.1).toList ++ ':' :: ((Json.quote p.2).toList ++
      if rest = [] then [] else ',' :: fieldsText rest) := by
  cases rest with
  | nil => simp [fieldsText, Json.renderFields, Json.render]
  | cons q rest => simp [fieldsText, Json.renderFields, Json.render]

theorem fieldsText_inj {pairs others : List (String × String)} {rest rest' : List Char}
    (h : fieldsText pairs ++ '\x7d' :: rest = fieldsText others ++ '\x7d' :: rest') :
    pairs = others := by
  have hquote (p : String × String) (rest : List (String × String)) :
      ∃ behind, fieldsText (p :: rest) = '"' :: behind := by
    rw [fieldsText_cons, toList_quote]
    exact ⟨_, rfl⟩
  induction pairs generalizing others with
  | nil =>
    cases others with
    | nil => rfl
    | cons q others =>
      obtain ⟨behind, hbehind⟩ := hquote q others
      rw [hbehind] at h
      cases (List.cons.inj h).1
  | cons p pairs ih =>
    cases others with
    | nil =>
      obtain ⟨behind, hbehind⟩ := hquote p pairs
      rw [hbehind] at h
      cases (List.cons.inj h).1
    | cons q others =>
      rw [fieldsText_cons, fieldsText_cons, List.append_assoc, List.append_assoc] at h
      obtain ⟨hname, hvalues⟩ := quote_inj h
      have htails :
          ((Json.quote p.2).toList ++ if pairs = [] then [] else ',' :: fieldsText pairs) ++
              '\x7d' :: rest =
            ((Json.quote q.2).toList ++ if others = [] then [] else ',' :: fieldsText others) ++
              '\x7d' :: rest' := (List.cons.inj hvalues).2
      rw [List.append_assoc, List.append_assoc] at htails
      obtain ⟨hvalue, hbehind⟩ := quote_inj htails
      obtain rfl : p = q := Prod.ext hname hvalue
      cases pairs with
      | nil =>
        cases others with
        | nil => rfl
        | cons q others => cases (List.cons.inj hbehind).1
      | cons p' pairs =>
        cases others with
        | nil => cases (List.cons.inj hbehind).1
        | cons q others => exact congrArg (p :: ·) (ih (List.cons.inj hbehind).2)

/-- Two lists of pairs with one text are the same list, in the same order. -/
theorem render_ofPairs_inj {pairs others : List (String × String)} :
    (Json.ofPairs pairs).render = (Json.ofPairs others).render ↔ pairs = others := by
  constructor
  · intro h
    have hlists := congrArg String.toList h
    rw [toList_render_ofPairs, toList_render_ofPairs] at hlists
    exact fieldsText_inj (List.cons.inj hlists).2
  · intro h
    rw [h]

end HttpRoutes.Text
