/-
# Binary64 numbers

The numbers of the double format, kept exactly.  A finite number is a sign and a whole count of
the smallest positive number of the format, `2⁻¹⁰⁷⁴`; the counts that the format can hold are
those below `2²⁰⁹⁸` that are divisible by a power of two leaving at most 53 significant bits.
Comparison is then comparison of integers:

* `rank?` puts every number but NaN on one line, the infinities at its two ends;
* `compare?` and `equals` read that line, so both zeros are equal and NaN equals nothing.
-/

-- powers of whole numbers are those of the core library, whatever else a module may import
attribute [instance (high), default_instance (high + 1)] instPowNat

namespace JsonSieve

/-! ## 1. The numbers -/

/-- How many units make up the first power of two that is out of range. -/
@[irreducible] def rangeUnits : Nat := 2 ^ 2098

/-- How many units make up the number one. -/
@[irreducible] def unitsPerOne : Nat := 2 ^ 1074

theorem rangeUnits_pos : 0 < rangeUnits := by decide +kernel

theorem unitsPerOne_pos : 0 < unitsPerOne := by decide +kernel

/-- A count of units of `2⁻¹⁰⁷⁴` that the format holds exactly: at most 53 significant bits, and
below the first power of two that is out of range. -/
structure Magnitude where
  units : Nat
  bounded : units < rangeUnits
  aligned : 2 ^ (units.log2 - 52) ∣ units
deriving DecidableEq

/-- A number of the double format.  The sign of a zero is kept, that of a NaN is not. -/
inductive Binary64 where
  | nan
  | infinite (negative : Bool)
  | finite (negative : Bool) (magnitude : Magnitude)
deriving DecidableEq

namespace Magnitude

/-- The count of no units. -/
def zero : Magnitude := ⟨0, rangeUnits_pos, Nat.dvd_zero _⟩

instance : Inhabited Magnitude := ⟨zero⟩

theorem ext_units {a b : Magnitude} (h : a.units = b.units) : a = b := by
  cases a; cases b; cases h; rfl

/-- Whether the count is a whole number of ones. -/
def isWhole (m : Magnitude) : Bool := m.units % unitsPerOne = 0

/-- The whole number of ones in the count, what is left over dropped. -/
def ones (m : Magnitude) : Nat := m.units / unitsPerOne

end Magnitude

namespace Binary64

/-- Zero, without a minus sign. -/
def zero : Binary64 := .finite false .zero

instance : Inhabited Binary64 := ⟨zero⟩

/-- A count of units with its sign, or the infinity of that sign for a count out of range. -/
def ofMagnitude? (negative : Bool) : Option Magnitude → Binary64
  | some m => .finite negative m
  | none => .infinite negative

/-- Whether the number is one of the real line: neither an infinity nor NaN. -/
def isFinite : Binary64 → Bool
  | .finite _ _ => true
  | _ => false

/-! ## 2. Comparison -/

/-- An integer with the sign that is asked for. -/
def signed (negative : Bool) (n : Nat) : Int := if negative then -(n : Int) else n

/-- The place of a number on the line of all numbers; NaN has none. -/
def rank? : Binary64 → Option Int
  | .nan => none
  | .infinite negative => some (signed negative rangeUnits)
  | .finite negative m => some (signed negative m.units)

/-- The order of two numbers, unless one of them is NaN. -/
def compare? (x y : Binary64) : Option Ordering :=
  match x.rank?, y.rank? with
  | some a, some b => some (compare a b)
  | _, _ => none

/-- Equality by value: the zeros are equal, and NaN differs from everything. -/
def equals (x y : Binary64) : Bool := x.compare? y == some .eq

/-- **Two numbers are equal by value when they share a place on the line.** -/
theorem equals_iff (x y : Binary64) :
    x.equals y = true ↔ ∃ r, x.rank? = some r ∧ y.rank? = some r := by
  unfold equals compare?
  generalize x.rank? = a
  generalize y.rank? = b
  cases a with
  | none => simp
  | some a =>
    cases b with
    | none => simp
    | some b =>
      simp only [beq_iff_eq, Option.some.injEq, Int.compare_eq_eq]
      exact ⟨fun h => ⟨a, rfl, h.symm⟩, fun ⟨_, ha, hb⟩ => ha.trans hb.symm⟩

@[simp] theorem equals_nan (x : Binary64) : x.equals .nan = false := by
  unfold equals compare?
  cases x.rank? <;> rfl

@[simp] theorem nan_equals (x : Binary64) : nan.equals x = false := rfl

end Binary64
end JsonSieve
