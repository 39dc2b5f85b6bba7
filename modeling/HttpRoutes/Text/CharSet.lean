/-!
# Sets of characters

A `CharSet` lists closed ranges of code points. The operations keep the list sorted, with a gap
between neighbours, so that two equal sets built by them are equal lists. What each operation means
is said by one lemma through the membership test `hasCode`, and none of these lemmas needs the list
to be sorted.
-/

namespace HttpRoutes.Text

/-- A set of characters as closed ranges of code points. -/
structure CharSet where
  ranges : List (Nat × Nat)
deriving DecidableEq, Repr

namespace CharSet

/-- Whether code point `n` lies in one of the ranges. -/
def hasCode (s : CharSet) (n : Nat) : Bool :=
  s.ranges.any fun r => decide (r.1 ≤ n) && decide (n ≤ r.2)

/-- Whether the character belongs to the set. -/
def contains (s : CharSet) (c : Char) : Bool := s.hasCode c.toNat

/-- The set without characters. -/
def empty : CharSet := ⟨[]⟩

/-- Every character. -/
def full : CharSet := ⟨[(0, 0x10FFFF)]⟩

/-- The characters between `lo` and `hi`, both included. -/
def range (lo hi : Nat) : CharSet := ⟨[(lo, hi)]⟩

/-- The set with one character. -/
def single (c : Char) : CharSet := range c.toNat c.toNat

/-- Whether the set has no characters. -/
def isEmpty (s : CharSet) : Bool := s.ranges.isEmpty

/-- Whether all members are below 128. -/
def isAscii (s : CharSet) : Bool := s.ranges.all fun r => decide (r.2 < 128)

/-- The only member of a set that is written as one range of one code point. -/
def onlyMember? (s : CharSet) : Option Char :=
  match s.ranges with
  | [(lo, hi)] => if lo = hi then some (Char.ofNat lo) else none
  | _ => none

/-! ## Joining -/

/-- Add the range `a` to `b` to a sorted list of ranges, joining what touches. -/
def insertRange (a b : Nat) : List (Nat × Nat) → List (Nat × Nat)
  | [] => [(a, b)]
  | (lo, hi) :: rest =>
    if b + 1 < lo then (a, b) :: (lo, hi) :: rest
    else if hi + 1 < a then (lo, hi) :: insertRange a b rest
    else insertRange (min a lo) (max b hi) rest

theorem any_insertRange (a b n : Nat) (l : List (Nat × Nat)) :
    (insertRange a b l).any (fun r => decide (r.1 ≤ n) && decide (n ≤ r.2)) =
      (decide (a ≤ n) && decide (n ≤ b) ||
        l.any (fun r => decide (r.1 ≤ n) && decide (n ≤ r.2))) := by
  induction l generalizing a b with
  | nil => simp [insertRange]
  | cons r rest ih =>
    obtain ⟨lo, hi⟩ := r
    rw [insertRange]
    split
    · rfl
    · split
      · rw [List.any_cons, ih, List.any_cons, Bool.or_left_comm]
      · rw [ih, List.any_cons, ← Bool.or_assoc]
        congr 1
        rw [Bool.eq_iff_iff]
        simp only [Bool.and_eq_true, Bool.or_eq_true, decide_eq_true_eq]
        omega

/-- The set that also has the characters from `a` to `b`. -/
def insert (s : CharSet) (a b : Nat) : CharSet := ⟨insertRange a b s.ranges⟩

@[simp] theorem hasCode_insert (s : CharSet) (a b n : Nat) :
    (s.insert a b).hasCode n = (decide (a ≤ n) && decide (n ≤ b) || s.hasCode n) :=
  any_insertRange a b n s.ranges

/-- The characters of either set. -/
def union (s t : CharSet) : CharSet := t.ranges.foldl (fun acc r => acc.insert r.1 r.2) s

@[simp] theorem hasCode_union (s t : CharSet) (n : Nat) :
    (s.union t).hasCode n = (s.hasCode n || t.hasCode n) := by
  obtain ⟨l⟩ := t
  show (l.foldl (fun acc r => acc.insert r.1 r.2) s).hasCode n = (s.hasCode n || l.any _)
  induction l generalizing s with
  | nil => simp
  | cons r rest ih =>
    rw [List.foldl_cons, ih, hasCode_insert, List.any_cons, Bool.or_assoc, Bool.or_left_comm]

/-- The set of the listed ranges. -/
def ofRanges (l : List (Nat × Nat)) : CharSet := empty.union ⟨l⟩

/-! ## Taking away -/

/-- Cut the range `a` to `b` out of every range of a list. -/
def cutRange (a b : Nat) : List (Nat × Nat) → List (Nat × Nat)
  | [] => []
  | (lo, hi) :: rest =>
    if hi < a ∨ b < lo then (lo, hi) :: cutRange a b rest
    else
      (if lo < a then [(lo, a - 1)] else []) ++ (if b < hi then [(b + 1, hi)] else []) ++
        cutRange a b rest

theorem any_cutRange (a b n : Nat) (l : List (Nat × Nat)) :
    (cutRange a b l).any (fun r => decide (r.1 ≤ n) && decide (n ≤ r.2)) =
      (l.any (fun r => decide (r.1 ≤ n) && decide (n ≤ r.2)) &&
        !(decide (a ≤ n) && decide (n ≤ b))) := by
  induction l with
  | nil => simp [cutRange]
  | cons r rest ih =>
    obtain ⟨lo, hi⟩ := r
    rw [cutRange, List.any_cons, Bool.and_or_distrib_right, ← ih]
    split
    · rw [List.any_cons]
      congr 1
      rw [Bool.eq_iff_iff]
      simp only [Bool.and_eq_true, Bool.not_eq_true', Bool.and_eq_false_imp, decide_eq_true_eq,
        decide_eq_false_iff_not]
      omega
    · rw [List.any_append]
      congr 1
      by_cases hl : lo < a <;> by_cases hr : b < hi <;> simp [hl, hr] <;> grind

/-- The characters of `s` that are not in `t`. -/
def diff (s t : CharSet) : CharSet := ⟨t.ranges.foldl (fun l r => cutRange r.1 r.2 l) s.ranges⟩

@[simp] theorem hasCode_diff (s t : CharSet) (n : Nat) :
    (s.diff t).hasCode n = (s.hasCode n && !t.hasCode n) := by
  obtain ⟨l⟩ := t
  obtain ⟨k⟩ := s
  show (l.foldl (fun l r => cutRange r.1 r.2 l) k).any _ = (k.any _ && !l.any _)
  induction l generalizing k with
  | nil => simp
  | cons r rest ih =>
    rw [List.foldl_cons, ih, any_cutRange, List.any_cons, Bool.not_or, Bool.and_assoc]

/-- Every character that is not in the set. -/
def compl (s : CharSet) : CharSet := full.diff s

/-- The characters of both sets. -/
def inter (s t : CharSet) : CharSet := s.diff t.compl

/-- The characters of exactly one of the sets. -/
def symmDiff (s t : CharSet) : CharSet := (s.diff t).union (t.diff s)

/-! ## Letters that differ in case only -/

/-- A rule of case pairing: `c` and `c + shift` are forms of one letter, for every `c` from `lo` to
`hi` that lies a multiple of `stride` above `lo`. -/
structure CasePairs where
  lo : Nat
  hi : Nat
  stride : Nat
  shift : Nat
deriving DecidableEq, Repr

/-- The multiples of `stride` above `base` that lie between `x` and `y`, as ranges. A stride of one
gives a single range. -/
def steps (base stride x y : Nat) : List (Nat × Nat) :=
  if stride ≤ 1 then [(x, y)]
  else
    (List.range (y + 1 - x)).filterMap fun i =>
      if (x + i - base) % stride = 0 then some (x + i, x + i) else none

/-- The partners, under one rule, of the characters between `a` and `b`. -/
def CasePairs.partners (p : CasePairs) (a b : Nat) : List (Nat × Nat) :=
  let x := max a p.lo
  let y := min b p.hi
  let x' := max a (p.lo + p.shift)
  let y' := min b (p.hi + p.shift)
  (if x ≤ y then (steps p.lo p.stride x y).map fun r => (r.1 + p.shift, r.2 + p.shift) else []) ++
  (if x' ≤ y' then
    (steps (p.lo + p.shift) p.stride x' y').map fun r => (r.1 - p.shift, r.2 - p.shift)
  else [])

/-- The set with the case partners of its members added. -/
def foldCase (rules : List CasePairs) (s : CharSet) : CharSet :=
  s.union ⟨s.ranges.flatMap fun r => rules.flatMap fun p => p.partners r.1 r.2⟩

/-- Lower and upper case of the letters of ASCII. -/
def asciiCase : List CasePairs := [⟨0x41, 0x5A, 1, 0x20⟩]

end CharSet

end HttpRoutes.Text
