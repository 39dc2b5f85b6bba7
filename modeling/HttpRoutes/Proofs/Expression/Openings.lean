import HttpRoutes.Proofs.Expression.PieceLocality

/-!
# What an expression opens

`Term.openings` lists what the parentheses of an expression open, from left to right. Everything
that reaches beyond its own group is in that list: the numbers and the names of groups, and the
flags that are set. Reading numbers the groups one after the other, and it leaves the verbose flag
off as long as nothing turns it on.
-/

namespace HttpRoutes.Expression

/-! ## Openings -/

namespace Opening

/-- The number of the group that is opened. -/
def index? : Opening → Option Nat
  | .capture index _ => some index
  | _ => none

/-- The name of the group that is opened. -/
def name? : Opening → Option String
  | .capture _ name => name
  | _ => none

/-- The flags that are set. -/
def settings : Opening → List FlagSetting
  | .flags settings => settings
  | .scoped settings => settings
  | .capture .. => []

/-- Whether a flag is turned on. -/
def turnsOn (flag : Flag) (o : Opening) : Bool := o.settings.any fun s => s.flag = flag && s.on

end Opening

namespace Term

/-- What the parentheses open, in order. -/
def openings : Term → List Opening
  | .setFlags settings => [.flags settings]
  | .repetition _ _ _ body => body.openings
  | .capture index name body => .capture index name :: body.openings
  | .scoped settings body => .scoped settings :: body.openings
  | .seq first rest => first.openings ++ rest.openings
  | .alt first rest => first.openings ++ rest.openings
  | _ => []

/-- The numbers of the groups, in order. -/
def groups (t : Term) : List Nat := t.openings.filterMap Opening.index?

/-- Whether a flag is turned on somewhere. -/
def turnsOn (flag : Flag) (t : Term) : Bool := t.openings.any (Opening.turnsOn flag)

theorem names_eq (t : Term) : t.names = t.openings.filterMap Opening.name? := by
  induction t with
  | capture index name body ih =>
    cases name <;> simp [names, openings, Opening.name?, ih, List.filterMap_cons]
  | repetition _ _ _ _ ih => exact ih
  | «scoped» _ _ ih => exact ih
  | seq _ _ ih₁ ih₂ | alt _ _ ih₁ ih₂ => simp [names, openings, ih₁, ih₂]
  | _ => simp [names, openings, Opening.name?]

theorem openings_ofParts (parts : List Term) :
    (ofParts parts).openings = parts.flatMap openings := by
  induction parts with
  | nil => rfl
  | cons part rest ih =>
    cases rest with
    | nil => simp [ofParts]
    | cons next rest => simp [ofParts, openings, ih]

theorem openings_ofBranches (branches : List Term) :
    (ofBranches branches).openings = branches.flatMap openings := by
  induction branches with
  | nil => rfl
  | cons branch rest ih =>
    cases rest with
    | nil => simp [ofBranches]
    | cons next rest => simp [ofBranches, openings, ih]

end Term

/-- What a piece opens. -/
def Piece.openings : Piece → List Opening
  | .part t => t.openings
  | _ => []

theorem openings_close {o : Opening} {body : Term} (ho : ∀ settings, o ≠ .flags settings) :
    (o.close body).openings = o :: body.openings := by
  cases o with
  | flags settings => exact absurd rfl (ho settings)
  | _ => rfl

/-- Branches hold what their pieces hold. -/
theorem openings_branchesOf {latest : Option Term} {pieces : List Piece}
    {branches : List (List Term)} (h : branchesOf latest pieces = some branches) :
    branches.flatMap (·.flatMap Term.openings) =
      latest.toList.flatMap Term.openings ++ pieces.flatMap Piece.openings := by
  induction pieces generalizing latest branches with
  | nil => cases h; simp
  | cons piece rest ih =>
    cases piece with
    | bar =>
      obtain ⟨later, hlater, rfl⟩ := Option.map_eq_some_iff.1 h
      rw [List.flatMap_cons, ih hlater]
      simp [Piece.openings]
    | part t =>
      obtain ⟨later, hlater, rfl⟩ := Option.map_eq_some_iff.1 h
      have hfront : (later.headD []).flatMap Term.openings ++
          later.tail.flatMap (·.flatMap Term.openings) =
          later.flatMap (·.flatMap Term.openings) := by
        cases later <;> simp
      rw [List.flatMap_cons, List.flatMap_append, List.append_assoc, hfront, ih hlater]
      simp [Piece.openings]
    | repeated times =>
      cases latest with
      | none => exact absurd h (by simp [branchesOf])
      | some part =>
        simp only [branchesOf] at h
        split at h
        · simpa [Piece.openings, Times.apply, Term.openings] using ih h
        · exact absurd h (by simp)

/-- Putting pieces together keeps what they open, and its order. -/
theorem openings_assemble {pieces : List Piece} {t : Term} (h : assemble pieces = some t) :
    t.openings = pieces.flatMap Piece.openings := by
  obtain ⟨branches, hbranches, rfl⟩ := Option.map_eq_some_iff.1 h
  rw [Term.openings_ofBranches, List.flatMap_map, funext Term.openings_ofParts,
    openings_branchesOf hbranches]
  rfl

/-! ## What readers open -/

variable {v : Bool} {p q r : Progress} {cs rest : List Char} {t : Term}

theorem openings_readHex {width : Nat} (h : readHex v width cs = some (t, rest)) :
    t.openings = [] := by
  unfold readHex at h
  split at h
  all_goals
    obtain ⟨⟨ds, r⟩, -, h⟩ := Option.bind_eq_some_iff.1 h
    dsimp only at h
  · split at h
    · exact absurd h (by simp)
    · obtain ⟨c, -, h⟩ := Option.bind_eq_some_iff.1 h
      cases h
      rfl
  · obtain ⟨c, -, h⟩ := Option.bind_eq_some_iff.1 h
    cases h
    rfl

theorem openings_readProperty {negated : Bool} (h : readProperty v negated cs = some (t, rest)) :
    t.openings = [] := by
  unfold readProperty at h
  split at h
  case h_2 =>
    obtain ⟨r, -, heq⟩ := Option.map_eq_some_iff.1 h
    cases heq
    rfl
  all_goals
    cases h
    try rfl

theorem openings_readBoundary (h : readBoundary v cs = some (t, rest)) : t.openings = [] := by
  unfold readBoundary at h
  split at h
  · split at h
    · exact absurd h (by simp)
    · split at h
      · obtain ⟨r, -, h⟩ := Option.bind_eq_some_iff.1 h
        obtain ⟨a, -, h⟩ := Option.bind_eq_some_iff.1 h
        cases h
        rfl
      · cases h
        rfl
  · cases h
    rfl

theorem openings_readEscape (h : readEscape v cs = some (t, rest)) : t.openings = [] := by
  cases cs with
  | nil => simp [readEscape] at h
  | cons c cs =>
    unfold readEscape at h
    dsimp only at h
    split at h
    case h_1 | h_2 | h_3 => exact openings_readHex h
    case h_4 | h_5 => exact openings_readProperty h
    case h_20 => exact openings_readBoundary h
    case h_24 =>
      split at h
      · cases h
        rfl
      · exact absurd h (by simp)
    all_goals
      cases h
      rfl

/-- Parts that are no groups open nothing. -/
theorem openings_readAtom {c : Char} (h : readAtom v c cs = some (t, rest)) : t.openings = [] := by
  unfold readAtom at h
  split at h
  case h_1 => exact openings_readEscape h
  case h_5 =>
    obtain ⟨⟨negated, start, r⟩, -, h⟩ := Option.bind_eq_some_iff.1 h
    obtain ⟨⟨body, r'⟩, -, h⟩ := Option.bind_eq_some_iff.1 h
    cases h
    rfl
  all_goals
    cases h
    rfl

/-! ## Numbers -/

/-- The groups opened on the way from `p` to `q` are numbered one after the other. -/
def Numbers (p q : Progress) (openings : List Opening) : Prop :=
  p.groups ≤ q.groups ∧
    openings.filterMap Opening.index? = List.range' (p.groups + 1) (q.groups - p.groups)

theorem Numbers.none (h : q.groups = p.groups) : Numbers p q [] := by
  simp [Numbers, h]

theorem Numbers.append {xs ys : List Opening} (hx : Numbers p q xs) (hy : Numbers q r ys) :
    Numbers p r (xs ++ ys) := by
  obtain ⟨hpq, hxs⟩ := hx
  obtain ⟨hqr, hys⟩ := hy
  refine ⟨hpq.trans hqr, ?_⟩
  rw [List.filterMap_append, hxs, hys]
  have hsplit : r.groups - p.groups = (q.groups - p.groups) + (r.groups - q.groups) := by omega
  have hstart : q.groups + 1 = p.groups + 1 + (q.groups - p.groups) := by omega
  rw [hsplit, hstart, List.range'_append_1]

theorem Numbers.of_groups_eq {xs : List Opening} (h : Numbers p q xs) (he : r.groups = q.groups) :
    Numbers p r xs := by
  rwa [Numbers, he]

theorem readOpening_numbers {o : Opening} (h : readOpening p cs = some (o, q, rest)) :
    Numbers p q [o] := by
  have hnext (name : Option String) :
      Numbers p { p with groups := p.groups + 1 } [.capture (p.groups + 1) name] :=
    ⟨Nat.le_succ _, by simp [Opening.index?]⟩
  rcases readOpening_cases h with ⟨_, -, hname⟩ | ⟨_, _, -, -, -, hname⟩ |
    ⟨_, _, _, settings, -, -, rfl, ⟨-, rfl⟩ | ⟨-, -, rfl⟩⟩ | ⟨-, -, rfl, rfl⟩
  · obtain ⟨name, rfl, rfl⟩ := readGroupName_eq_some hname
    exact hnext _
  · obtain ⟨name, rfl, rfl⟩ := readGroupName_eq_some hname
    exact hnext _
  · exact ⟨le_rfl, by simp [Opening.index?]⟩
  · exact ⟨le_rfl, by simp [Opening.index?]⟩
  · exact hnext _

variable {inside : PieceReader} {piece : Piece} {pieces : List Piece}

/-- What a group is: a setting of flags, or an opening around pieces that are put together. -/
theorem readGroup_cases (h : readGroup inside p cs = some (piece, q, rest)) :
    (∃ settings, readOpening p cs = some (.flags settings, q, rest) ∧
      piece = .part (.setFlags settings)) ∨
    (∃ o inner tail pieces after body close, readOpening p cs = some (o, inner, tail) ∧
      inside inner tail = some (pieces, after, close :: rest) ∧ assemble pieces = some body ∧
      piece = .part (o.close body) ∧ q = { after with verbose := p.verbose } ∧
      piece.openings = o :: pieces.flatMap Piece.openings) := by
  cases hopen : readOpening p cs with
  | none => simp [readGroup, hopen] at h
  | some r =>
    obtain ⟨o, inner, tail⟩ := r
    by_cases ho : ∃ settings, o = .flags settings
    · obtain ⟨settings, rfl⟩ := ho
      rw [readGroup_flags hopen] at h
      cases h
      exact .inl ⟨settings, rfl, rfl⟩
    · have ho' : ∀ settings, o ≠ .flags settings := fun settings he => ho ⟨settings, he⟩
      obtain ⟨pieces, after, body, close, hin, hbody, rfl, rfl⟩ := readGroup_eq_some ho' hopen h
      refine .inr ⟨o, inner, tail, pieces, after, body, close, rfl, hin, hbody, rfl, rfl, ?_⟩
      rw [Piece.openings, openings_close ho', openings_assemble hbody]

/-- What a piece is: a group, or something that opens nothing and leaves everything as it is. -/
theorem readPiece_cases {c : Char} (h : readPiece inside p c cs = some (piece, q, rest)) :
    (c = '(' ∧ readGroup inside p cs = some (piece, q, rest)) ∨ (q = p ∧ piece.openings = []) := by
  unfold readPiece at h
  split at h
  · cases h
    exact .inr ⟨rfl, rfl⟩
  · split at h
    · next hc => exact .inl ⟨hc, h⟩
    · split at h
      · obtain ⟨r, -, heq⟩ := Option.map_eq_some_iff.1 h
        cases heq
        exact .inr ⟨rfl, rfl⟩
      · obtain ⟨⟨t, r⟩, hr, heq⟩ := Option.map_eq_some_iff.1 h
        cases heq
        exact .inr ⟨rfl, openings_readAtom hr⟩

/-- Groups are numbered one after the other, in the order of their opening parentheses. -/
theorem readPieces_numbers {n : Nat} (h : readPieces n p cs = some (pieces, q, rest)) :
    Numbers p q (pieces.flatMap Piece.openings) := by
  induction n generalizing p q cs rest pieces with
  | zero => simp [readPieces] at h
  | succ n ih =>
    rcases readPieces_cases h with ⟨-, rfl, rfl, -⟩ | ⟨-, -, rfl, rfl, -⟩ |
      ⟨c, more, piece, between, r, later, -, -, hpiece, hlater, rfl⟩
    · exact .none rfl
    · exact .none rfl
    · refine Numbers.append ?_ (ih hlater)
      rcases readPiece_cases hpiece with ⟨-, hgroup⟩ | ⟨rfl, hnone⟩
      · rcases readGroup_cases hgroup with ⟨settings, hopen, rfl⟩ |
          ⟨o, inner, tail, ps, after, body, close, hopen, hin, -, -, rfl, hos⟩
        · exact readOpening_numbers hopen
        -- Leaving a group restores the verbose flag and no number.
        · rw [hos]
          exact ((readOpening_numbers hopen).append (ih hin)).of_groups_eq rfl
      · rw [hnone]
        exact .none rfl

/-! ## The verbose flag -/

theorem value_verbose_off {settings : List FlagSetting} {verbose : Bool} (hv : verbose = false)
    (h : (settings.any fun s => s.flag = .verbose && s.on) = false) :
    (FlagSetting.value? settings .verbose).getD verbose = false := by
  unfold FlagSetting.value?
  cases hfind : settings.find? fun s => s.flag = .verbose with
  | none => exact hv
  | some s =>
    have hmem := List.mem_of_find?_eq_some hfind
    have hflag := List.find?_some hfind
    have hoff := List.any_eq_false.1 h s hmem
    simpa [of_decide_eq_true hflag] using hoff

theorem readOpening_verbose {o : Opening} (h : readOpening p cs = some (o, q, rest))
    (hp : p.verbose = false) (ho : o.turnsOn .verbose = false) : q.verbose = false := by
  rcases readOpening_cases h with ⟨_, -, hname⟩ | ⟨_, _, -, -, -, hname⟩ |
    ⟨_, _, _, settings, -, -, rfl, ⟨-, rfl⟩ | ⟨-, -, rfl⟩⟩ | ⟨-, -, rfl, rfl⟩
  · obtain ⟨name, rfl, rfl⟩ := readGroupName_eq_some hname
    exact hp
  · obtain ⟨name, rfl, rfl⟩ := readGroupName_eq_some hname
    exact hp
  · exact value_verbose_off hp ho
  · exact value_verbose_off hp ho
  · exact hp

/-- The verbose flag stays off unless something turns it on. -/
theorem readPieces_verbose {n : Nat} (h : readPieces n p cs = some (pieces, q, rest))
    (hp : p.verbose = false)
    (hoff : ∀ o ∈ pieces.flatMap Piece.openings, o.turnsOn .verbose = false) :
    q.verbose = false := by
  induction n generalizing p q cs rest pieces with
  | zero => simp [readPieces] at h
  | succ n ih =>
    rcases readPieces_cases h with ⟨-, rfl, rfl, -⟩ | ⟨-, -, rfl, rfl, -⟩ |
      ⟨c, more, piece, between, r, later, -, -, hpiece, hlater, rfl⟩
    · exact hp
    · exact hp
    · rw [List.flatMap_cons] at hoff
      refine ih hlater ?_ fun o ho => hoff o (List.mem_append_right _ ho)
      rcases readPiece_cases hpiece with ⟨-, hgroup⟩ | ⟨rfl, -⟩
      · rcases readGroup_cases hgroup with ⟨settings, hopen, rfl⟩ |
          ⟨o, inner, tail, ps, after, body, close, -, -, -, -, rfl, -⟩
        · exact readOpening_verbose hopen hp
            (hoff _ (List.mem_append_left _ (List.mem_singleton_self _)))
        · exact hp
      · exact hp

end HttpRoutes.Expression
