/-
# The size of a pattern

A pattern is turned down when the machine that it stands for would need more than ten mebibytes.
The machine reads octets: its states are counted here without being built, so a count of repetitions
multiplies and is not spelled out.

A set of code points beyond ASCII is read as the octets that encode it.  Its members fall into
sequences of octet ranges; sequences that open with the same ranges share the states for them.
-/
import JsonSieve.Pattern.Meaning

namespace JsonSieve.Pattern

open Unicode (CodeSet)

/-! ## 1. Costs -/

/-- What a state takes up, in octets. -/
def stateCost : Nat := 32

/-- What a way out of a state takes up when there are several to choose between. -/
def branchCost : Nat := 4

/-- What a way out of a state that reads a range of octets takes up. -/
def rangeCost : Nat := 8

/-- What a machine may take up. -/
def sizeLimit : Nat := 10 * 2 ^ 20

/-- What every machine needs beside its pattern: a way to start anywhere, and one to end. -/
def frameCost : Nat := 8 * stateCost

/-! ## 2. Octet sequences -/

/-- A sequence of octet ranges, from the first octet of an encoding to its last. -/
abbrev OctetRanges := List (Nat × Nat)

/-- The octets that encode a code point. -/
def octets (n : Nat) : List Nat :=
  if n < 0x80 then [n]
  else if n < 0x800 then [0xC0 + n / 64, 0x80 + n % 64]
  else if n < 0x10000 then [0xE0 + n / 4096, 0x80 + n / 64 % 64, 0x80 + n % 64]
  else [0xF0 + n / 262144, 0x80 + n / 4096 % 64, 0x80 + n / 64 % 64, 0x80 + n % 64]

/-- Where to cut a run of code points so that the parts are nearer to one sequence: at the code
points that no character has, at a change of length, or at a multiple of a power of 64. -/
def cut? (first last : Nat) : Option (Nat × Nat) :=
  let atLength := [0x7F, 0x7FF, 0xFFFF].findSome? fun top =>
    if first ≤ top && top < last then some (top, top + 1) else none
  let atBlock := [64, 4096, 262144].findSome? fun size =>
    if first / size = last / size then none
    else if first % size ≠ 0 then some (first / size * size + size - 1, first / size * size + size)
    else if last % size ≠ size - 1 then some (last / size * size - 1, last / size * size)
    else none
  if first < 0xE000 && 0xD7FF < last then some (0xD7FF, 0xE000)
  else if last < 0x80 then none
  else atLength.or atBlock

/-- The sequences of octet ranges that encode a run of code points. -/
def sequences : Nat → Nat → Nat → List OctetRanges
  | 0, _, _ => []
  | fuel + 1, first, last =>
    if last < first then []
    else match cut? first last with
      | some (before, after) => sequences fuel first before ++ sequences fuel after last
      | none => [(octets first).zip (octets last)]

/-- How many ranges at the front of a sequence are not those of the sequence before it. -/
def unshared : OctetRanges → OctetRanges → Nat
  | r :: rs, q :: qs => if r = q then unshared rs qs else (r :: rs).length
  | rs, _ => rs.length

/-- The runs of a set, by their ends. -/
def runsOf : List Nat → List (Nat × Nat)
  | first :: behind :: s => (first, behind - 1) :: runsOf s
  | [first] => [(first, 0x10FFFF)]
  | [] => []

/-! ## 3. The size of an expression -/

/-- What the machine for a set of code points takes up. -/
def membersCost (s : CodeSet) : Nat :=
  let runs := runsOf s.changes
  match runs with
  | [] => stateCost
  | [(n, m)] => if n = m then (octets n).length * stateCost else wide runs
  | runs => wide runs
where
  /-- What the machine for a set of more than one member takes up. -/
  wide (runs : List (Nat × Nat)) : Nat :=
    if runs.all (·.2 < 0x80) then 2 * stateCost + runs.length * rangeCost
    else
      let all := runs.flatMap fun run => sequences 64 run.1 run.2
      let states := (all.zip ([] :: all)).map fun (s, before) => unshared s before
      (2 + states.foldl (· + ·) 0) * stateCost + all.length * branchCost

/-- Whether an expression may match the empty text. -/
def Expr.isNullable : Expr → Bool
  | empty => true
  | one _ => false
  | place _ _ => true
  | seq e f => e.isNullable && f.isNullable
  | alt e f => e.isNullable || f.isNullable
  | times e least _ => least == 0 || e.isNullable
  | capture e => e.isNullable

/-- What a state with two ways out takes up. -/
def forkCost : Nat := stateCost + 2 * branchCost

/-- What the machine for a repeated expression takes up. -/
def timesCost (cost : Nat) (nullable : Bool) (least : Nat) : Option Nat → Nat
  | none =>
    if least = 0 then cost + forkCost + (if nullable then forkCost + stateCost else 0)
    else least * cost + forkCost
  | some most =>
    least * cost + (if least = most then 0 else (most - least) * (cost + forkCost) + stateCost)

/-- What the machine for an expression takes up. -/
def Expr.cost : Expr → Nat
  | empty => stateCost
  | one s => membersCost s
  | place _ _ => stateCost
  | seq e f => e.cost + f.cost
  | alt e f => e.cost + f.cost + forkCost + stateCost
  | times e least most => timesCost e.cost e.isNullable least most
  | capture e => e.cost + 2 * stateCost

/-- Whether the machine for an expression takes up no more than it may. -/
def Expr.fits (e : Expr) : Bool := frameCost + e.cost ≤ sizeLimit

end JsonSieve.Pattern
