/-
# Sets of code points

A set of code points as the places where membership changes, in ascending order: the first place is
where the set begins, the next one where it leaves off, and so on.  Complement, union and the other
set operations are then one sweep along two lists (`combine`), and a table of a standard is a list
of run lengths (`ofRuns`).
-/

namespace JsonSieve.Unicode

/-! ## 1. Membership -/

/-- A set of code points by the places where membership changes. -/
structure CodeSet where
  changes : List Nat
deriving DecidableEq, Repr

/-- Whether a place is behind an odd number of changes. -/
def inside : List Nat → Nat → Bool
  | [], _ => false
  | b :: bs, n => b ≤ n && !inside bs n

namespace CodeSet

/-- Whether a code point is in the set. -/
def containsCode (s : CodeSet) (n : Nat) : Bool := inside s.changes n

/-- Whether a character is in the set. -/
def contains (s : CodeSet) (c : Char) : Bool := s.containsCode c.toNat

/-! ## 2. Sets given by their runs -/

/-- The set without a member. -/
def empty : CodeSet := ⟨[]⟩

/-- The code points from one to another, both included. -/
def range (first last : Nat) : CodeSet := ⟨[first, last + 1]⟩

/-- One character. -/
def singleton (c : Char) : CodeSet := range c.toNat c.toNat

/-- Runs given by their ends, in ascending order with gaps between them. -/
def ofRanges (runs : List (Nat × Nat)) : CodeSet := ⟨runs.flatMap fun run => [run.1, run.2 + 1]⟩

/-- The running sums of the numbers written in a text with a blank after each. -/
def runningSums : Nat → Nat → List Char → List Nat
  | _, _, [] => []
  | sum, n, c :: s =>
    if c = ' ' then (sum + n) :: runningSums (sum + n) 0 s
    else runningSums sum (10 * n + (c.toNat - '0'.toNat)) s

/-- The set whose run lengths are written in the lines, outside and inside in turn, each number with
a blank after it. -/
def ofRuns (lines : List String) : CodeSet := ⟨runningSums 0 0 (lines.flatMap String.toList)⟩

/-- The changes of the set of the codes in an ascending list, behind a code that is in it. -/
def changesBehind (last : Nat) : List Nat → List Nat
  | [] => [last + 1]
  | n :: ns =>
    if n ≤ last + 1 then changesBehind n ns else (last + 1) :: n :: changesBehind n ns

/-- The set of the codes in a list. -/
def ofCodes (codes : List Nat) : CodeSet :=
  match codes.mergeSort with
  | [] => empty
  | n :: ns => ⟨n :: changesBehind n ns⟩

/-! ## 3. Operations -/

/-- A place in front of the changes behind it, where a condition changes there. -/
def turn (place : Nat) (before behind : Bool) (rest : List Nat) : List Nat :=
  if before == behind then rest else place :: rest

/-- The changes of a condition `f` on membership in two sets, swept from left to right; `p` and `q`
say whether the sweep is inside of each.  Every step passes at least one change. -/
def sweep (f : Bool → Bool → Bool) : Nat → Bool → Bool → List Nat → List Nat → List Nat
  | 0, _, _, _, _ => []
  | fuel + 1, p, q, as, bs =>
    match as, bs with
    | [], [] => []
    | a :: as, [] => turn a (f p q) (f (!p) q) (sweep f fuel (!p) q as [])
    | [], b :: bs => turn b (f p q) (f p (!q)) (sweep f fuel p (!q) [] bs)
    | a :: as, b :: bs =>
      if a < b then turn a (f p q) (f (!p) q) (sweep f fuel (!p) q as (b :: bs))
      else if b < a then turn b (f p q) (f p (!q)) (sweep f fuel p (!q) (a :: as) bs)
      else turn a (f p q) (f (!p) (!q)) (sweep f fuel (!p) (!q) as bs)

/-- The code points on which membership in two sets satisfies `f`, which has to be false where
neither set has a member. -/
def combine (f : Bool → Bool → Bool) (s t : CodeSet) : CodeSet :=
  ⟨sweep f (s.changes.length + t.changes.length) false false s.changes t.changes⟩

/-- The members of either set. -/
def union (s t : CodeSet) : CodeSet := combine (· || ·) s t

/-- The members that two sets share. -/
def inter (s t : CodeSet) : CodeSet := combine (· && ·) s t

/-- The members of one set that are not in another. -/
def diff (s t : CodeSet) : CodeSet := combine (fun p q => p && !q) s t

/-- The members of exactly one of two sets. -/
def symmDiff (s t : CodeSet) : CodeSet := combine (· != ·) s t

/-- All code points that are not in the set. -/
def compl (s : CodeSet) : CodeSet :=
  match s.changes with
  | 0 :: bs => ⟨bs⟩
  | bs => ⟨0 :: bs⟩

/-- The members of any of the sets. -/
def unions (sets : List CodeSet) : CodeSet := sets.foldl union empty

instance : Union CodeSet := ⟨union⟩
instance : Inter CodeSet := ⟨inter⟩
instance : SDiff CodeSet := ⟨diff⟩

/-- The set with one more code point. -/
def insert (s : CodeSet) (n : Nat) : CodeSet := if s.containsCode n then s else s ∪ range n n

/-! ## 4. Membership -/

/-- A run holds the code points between its ends. -/
theorem mem_range (first last n : Nat) :
    (range first last).containsCode n = true ↔ first ≤ n ∧ n ≤ last := by
  simp only [containsCode, range, inside, Bool.and_eq_true, decide_eq_true_eq, Bool.not_false,
    Bool.and_true, Bool.not_eq_true', decide_eq_false_iff_not]
  omega

theorem containsCode_compl (s : CodeSet) (n : Nat) :
    s.compl.containsCode n = !s.containsCode n := by
  obtain ⟨bs⟩ := s
  cases bs with
  | nil => simp [compl, containsCode, inside]
  | cons b bs => cases b <;> simp [compl, containsCode, inside]

end CodeSet
end JsonSieve.Unicode
