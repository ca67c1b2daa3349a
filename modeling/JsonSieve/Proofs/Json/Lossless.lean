/-
# What a text loses of a document

A document with integers of 64 bits and finite numbers of the double format is read back from its
text, if it is read at all, as a document of the same shape: each number of it becomes what its own
text is read as, and all else is the same (`read_render_iff`).  So nothing is lost but the values of
numbers.

Which of them are lost is said number by number (`exists_readBack_iff`).  An integer that has 64
bits with its sign is written as it is, and so is a small whole number.  Any other number is written
in the marked layout, and its value depends on whether the rounding restores it.  For an integer
from `2⁶³` on this does not suffice: it is taken in the double format before it is written, and
unless it ends in eleven zeros, its value is lost then, whatever the rounding.  With the nearest
rounding nothing else is lost (`isExact_nearest_iff`).
-/
import JsonSieve.Proofs.Json.Document

namespace JsonSieve

open Json.Reader

/-! ## 1. Documents of one shape -/

namespace Json

/-- **Documents that differ in their numbers at most:** they have the same shape, the same names in
the same order, the same strings and booleans, and numbers in the same places are related. -/
inductive Corresponds (R : Number → Number → Prop) : Json → Json → Prop
  | null : Corresponds R null null
  | bool (b : Bool) : Corresponds R (bool b) (bool b)
  | string (s : String) : Corresponds R (string s) (string s)
  | number {n m : Number} (h : R n m) : Corresponds R (number n) (number m)
  | array {es ds : List Json} (hlength : es.length = ds.length)
    (helements : ∀ p ∈ es.zip ds, Corresponds R p.1 p.2) : Corresponds R (array es) (array ds)
  | object {ms ls : List (String × Json)} (hnames : ms.map Prod.fst = ls.map Prod.fst)
    (hmembers : ∀ p ∈ ms.zip ls, Corresponds R p.1.2 p.2.2) :
    Corresponds R (object ms) (object ls)

theorem forall_mem_zip_map {α β : Type} {f : α → β} {P : α × β → Prop} {as : List α} :
    (∀ p ∈ as.zip (as.map f), P p) ↔ ∀ a ∈ as, P (a, f a) := by
  rw [List.zip_map_right, List.zip_eq_zipWith, List.zipWith_self, List.map_map]
  exact List.forall_mem_map

/-- **A document corresponds to what becomes of it** by a change of its numbers, just if each
becomes a related number. -/
theorem corresponds_mapNumbers_iff {R : Number → Number → Prop} {g : Number → Json} {v : Json} :
    v.Corresponds R (v.mapNumbers g) ↔ ∀ n ∈ v.numbers, ∃ m, g n = number m ∧ R n m := by
  induction v with
  | scalar v hv =>
    cases v with
    | number n =>
      rw [mapNumbers, numbers, List.forall_mem_singleton]
      constructor
      · intro h
        generalize g n = w at h
        cases h with
        | number h => exact ⟨_, rfl, h⟩
      · rintro ⟨m, hm, h⟩
        rw [hm]
        exact .number h
    | null => exact iff_of_true .null (List.forall_mem_nil _)
    | bool b => exact iff_of_true (.bool b) (List.forall_mem_nil _)
    | string s => exact iff_of_true (.string s) (List.forall_mem_nil _)
    | array _ | object _ => cases hv
  | array es ih =>
    rw [mapNumbers_array]
    constructor
    · rintro (_ | _ | _ | _ | ⟨-, h⟩) n hn
      obtain ⟨e, he, hn⟩ := mem_numbers_array.mp hn
      exact (ih e he).mp (forall_mem_zip_map.mp h e he) n hn
    · intro h
      refine .array (List.length_map _).symm (forall_mem_zip_map.mpr fun e he => ?_)
      exact (ih e he).mpr fun n hn => h n (mem_numbers_array.mpr ⟨e, he, hn⟩)
  | object ms ih =>
    rw [mapNumbers_object]
    constructor
    · rintro (_ | _ | _ | _ | _ | ⟨-, h⟩) n hn
      obtain ⟨m, hm, hn⟩ := mem_numbers_object.mp hn
      exact (ih m hm).mp (forall_mem_zip_map.mp h m hm) n hn
    · intro h
      refine .object (by rw [List.map_map]; rfl) (forall_mem_zip_map.mpr fun m hm => ?_)
      exact (ih m hm).mpr fun n hn => h n (mem_numbers_object.mpr ⟨m, hm, hn⟩)

/-- **A change that makes numbers of numbers** succeeds with the documents that correspond. -/
theorem mapNumbersM_eq_ok_iff_corresponds {ε : Type} {g : Number → Except ε Json} {v w : Json}
    (hg : ∀ n ∈ v.numbers, ∀ u, g n = .ok u → ∃ m, u = number m) :
    v.mapNumbersM g = .ok w ↔ v.Corresponds (fun n m => g n = .ok (number m)) w := by
  constructor
  · intro h
    obtain ⟨hok, rfl⟩ := mapNumbersM_eq_ok_iff.mp h
    refine corresponds_mapNumbers_iff.mpr fun n hn => ?_
    obtain ⟨m, hm⟩ := hg n hn _ (hok n hn)
    exact ⟨m, hm, hm ▸ hok n hn⟩
  · clear hg
    intro h
    induction h with
    | null | bool | string => rfl
    | number h => exact h
    | array hlength _ ih =>
      have helements := mapM_eq_ok_iff.mpr (List.forall₂_iff_zip.mpr ⟨hlength, fun hp => ih _ hp⟩)
      rw [mapNumbersM_array, helements]
      rfl
    | @object ms ls hnames _ ih =>
      have hnames : List.Forall₂ (fun m l : String × Json => m.1 = l.1) ms ls := by
        rwa [← List.forall₂_eq_eq_eq, List.forall₂_map_left_iff, List.forall₂_map_right_iff]
          at hnames
      obtain ⟨hlength, hname⟩ := List.forall₂_iff_zip.mp hnames
      have hmembers := mapM_eq_ok_iff
        (f := fun m : String × Json => (m.2.mapNumbersM g).map (Prod.mk m.1)) |>.mpr
        (List.forall₂_iff_zip.mpr ⟨hlength, fun hp => by
          rw [ih _ hp, hname hp]
          rfl⟩)
      rw [mapNumbersM_object, hmembers]
      rfl

/-- Such a change keeps a relation of the numbers just if it does so for each. -/
theorem exists_mapNumbersM_corresponds_iff {ε : Type} {g : Number → Except ε Json} {v : Json}
    {R : Number → Number → Prop} :
    (∃ w, v.mapNumbersM g = .ok w ∧ v.Corresponds R w) ↔
      ∀ n ∈ v.numbers, ∃ m, g n = .ok (number m) ∧ R n m := by
  constructor
  · rintro ⟨w, hw, h⟩ n hn
    obtain ⟨hok, rfl⟩ := mapNumbersM_eq_ok_iff.mp hw
    obtain ⟨m, hm, hR⟩ := corresponds_mapNumbers_iff.mp h n hn
    exact ⟨m, hm ▸ hok n hn, hR⟩
  · intro h
    refine ⟨v.mapNumbers (madeOf g), mapNumbersM_eq_ok_iff.mpr ⟨fun n hn => ?_, rfl⟩,
      corresponds_mapNumbers_iff.mpr fun n hn => ?_⟩
    · obtain ⟨m, hm, -⟩ := h n hn
      rw [madeOf_eq hm, hm]
    · obtain ⟨m, hm, hR⟩ := h n hn
      exact ⟨m, madeOf_eq hm, hR⟩

end Json

/-! ## 2. The value of a number -/

namespace Number

/-- The value of a number, counted in units of the double format; what is not finite has none. -/
def units? : Number → Option Int
  | integer n => some (n * unitsPerOne)
  | real x => if x.isFinite then x.rank? else none

/-- Two numbers have the same value, whatever form they are kept in. -/
def SameValue (n m : Number) : Prop := ∃ r, n.units? = some r ∧ m.units? = some r

/-- Whether the text of a number is read as one of the same value.  An integer has 64 bits with its
sign, or it ends in eleven zeros and the rounding restores it as a number of the double format.
Another number is small and whole, or the rounding restores it. -/
def IsExact (ρ : Rounding) : Number → Prop
  | integer n => fitsWord n = true ∨ (2 ^ 11 ∣ n.natAbs ∧ ρ.Restores (.ofInt n))
  | real x => x.smallWhole?.isSome = true ∨ ρ.Restores x

instance (ρ : Rounding) : DecidablePred (IsExact ρ)
  | integer n => inferInstanceAs
      (Decidable (fitsWord n = true ∨ (2 ^ 11 ∣ n.natAbs ∧ ρ.Restores (.ofInt n))))
  | real x => inferInstanceAs (Decidable (x.smallWhole?.isSome = true ∨ ρ.Restores x))

end Number

namespace Binary64

variable {ρ : Rounding} {x : Binary64} {n : Int}

/-- A finite number has its place on the line as its value. -/
theorem units?_real (hx : x.isFinite = true) : (Number.real x).units? = x.rank? := if_pos hx

/-- A number that is written as an integer has the value of the integer. -/
theorem rank?_of_smallWhole (h : x.smallWhole? = some n) :
    x.rank? = some (n * unitsPerOne) := by
  rw [← rank?_plainZero, ← ofInt_smallWhole h, rank?_ofInt_of_small (natAbs_lt_of_smallWhole h)]

/-- A large integer is not written as an integer again, once it is in the double format. -/
theorem smallWhole?_ofInt_of_large (h : 2 ^ 53 ≤ n.natAbs) : (ofInt n).smallWhole? = none := by
  cases hwhole : (ofInt n).smallWhole? with
  | none => rfl
  | some k =>
    obtain ⟨r, hr, hrank⟩ := rank?_ofInt_of_large h
    rw [rank?_of_smallWhole hwhole] at hrank
    have hunits := congrArg Int.natAbs (Option.some.inj hrank)
    rw [natAbs_signed, Int.natAbs_mul, Int.natAbs_natCast] at hunits
    have hlt := Nat.mul_lt_mul_of_pos_right (natAbs_lt_of_smallWhole hwhole) unitsPerOne_pos
    omega

/-- **The marked layout is read as a number of the same sign,** if it is read. -/
theorem exists_of_read_markedText {negative : Bool} {m : Magnitude} {k : Number}
    (h : Json.read ρ (finite negative m).markedText = .ok (.number k)) :
    ∃ l : Magnitude, k = .real (finite negative l) := by
  obtain ⟨w, -, hread⟩ := read_markedText negative m
  rw [hread, toFinite] at h
  cases hw : ρ.magnitude? w with
  | none =>
    rw [hw] at h
    cases h
  | some l =>
    rw [hw] at h
    cases h
    exact ⟨l, rfl⟩

/-- **The marked layout keeps the value of a number** just if the rounding restores the number. -/
theorem exists_read_markedText_iff (hx : x.isFinite = true) :
    (∃ m, Json.read ρ x.markedText = .ok (.number m) ∧ (Number.real x).SameValue m) ↔
      ρ.Restores x := by
  cases x with
  | finite negative m =>
    constructor
    · rintro ⟨k, hk, r, hr, hsame⟩
      obtain ⟨l, rfl⟩ := exists_of_read_markedText hk
      have hrank : signed negative m.units = signed negative l.units :=
        Option.some.inj (hr.trans hsame.symm)
      have hunits := congrArg Int.natAbs hrank
      rw [natAbs_signed, natAbs_signed] at hunits
      rw [Rounding.Restores, hk, Magnitude.ext_units hunits]
    · exact fun h => ⟨_, h, _, rfl, rfl⟩
  | _ => cases hx

/-- **An integer that is taken in the double format keeps its value** just if it ends in eleven
zeros and the rounding restores it. -/
theorem exists_read_ofInt_iff (hn : isKept n = true) (hlow : 2 ^ 63 ≤ n.natAbs) :
    (∃ m, Json.read ρ (ofInt n).markedText = .ok (.number m) ∧ (Number.integer n).SameValue m) ↔
      2 ^ 11 ∣ n.natAbs ∧ ρ.Restores (ofInt n) := by
  have hfinite := isFinite_ofInt hn
  have hrange := isKept_iff.mp hn
  have hrank := rank?_ofInt_iff hlow (by omega)
  constructor
  · rintro ⟨k, hk, r, hr, hsame⟩
    obtain rfl := Option.some.inj hr
    suffices hvalue : (ofInt n).rank? = some (n * unitsPerOne) from
      ⟨hrank.mp hvalue, (exists_read_markedText_iff hfinite).mp
        ⟨k, hk, _, (units?_real hfinite).trans hvalue, hsame⟩⟩
    -- a number of the format that has the value of the integer is the number it is rounded to
    cases hofInt : ofInt n with
    | finite negative m =>
      rw [hofInt] at hk
      obtain ⟨l, rfl⟩ := exists_of_read_markedText hk
      have hunits := congrArg Int.natAbs (Option.some.inj hsame)
      rw [natAbs_signed, Int.natAbs_mul, Int.natAbs_natCast] at hunits
      rw [← hofInt, ofInt_of_units hunits, rank?_finite_of_units hunits]
    | _ =>
      rw [hofInt] at hfinite
      cases hfinite
  · rintro ⟨hdvd, h⟩
    exact ⟨_, h, _, rfl, (units?_real hfinite).trans (hrank.mpr hdvd)⟩

end Binary64

/-! ## 3. The text of a number -/

namespace Number

variable {ρ : Rounding} {n : Number}

/-- An integer that has 64 bits with its sign is read back as it is. -/
theorem readBack_of_fitsWord {k : Int} (h : fitsWord k = true) :
    (integer k).readBack ρ = .ok (.number (integer k)) := by
  have hkept : isKept k = true := by
    simp only [fitsWord, Bool.and_eq_true, decide_eq_true_eq] at h
    exact isKept_iff.mpr (by omega)
  have hread := (Json.readsBack_number (ρ := ρ) (integer k) maxDepth).read_eq
  rw [toScalar, if_pos h] at hread
  rw [← hread]
  exact (Json.readsBack_numeral (isNumeral_integer hkept) maxDepth).read_eq

/-- Any other integer is read back as the number of the double format that it is taken for. -/
theorem readBack_of_not_fitsWord {k : Int} (h : ¬ fitsWord k = true) :
    (integer k).readBack ρ = (real (.ofInt k)).readBack ρ := by
  have htext : (integer k).toScalar = (real (.ofInt k)).toScalar := if_neg h
  rw [readBack, readBack, Json.compact, Json.compact, Json.render, Json.render, htext]

/-- An integer in range that does not have 64 bits with its sign is large. -/
theorem le_natAbs_of_not_fitsWord {k : Int} (h : ¬ fitsWord k = true) : 2 ^ 63 ≤ k.natAbs := by
  simp only [fitsWord, Bool.and_eq_true, decide_eq_true_eq] at h
  omega

/-- What is read for a number in range is a number. -/
theorem InRange.readBack_eq_number (h : n.InRange) {u : Json} (hu : n.readBack ρ = .ok u) :
    ∃ m, u = .number m := by
  have hmarked : ∀ {x : Binary64}, x.isFinite = true → x.smallWhole? = none →
      (real x).readBack ρ = .ok u → ∃ m, u = .number m := fun {x} hx hwhole hu => by
    rw [readBack_of_not_smallWhole hx hwhole] at hu
    cases x with
    | finite negative m =>
      obtain ⟨w, -, hread⟩ := read_markedText negative m
      rw [hread, ok_map_iff] at hu
      obtain ⟨k, -, rfl⟩ := hu
      exact ⟨k, rfl⟩
    | _ => cases hx
  cases n with
  | real x =>
    cases hwhole : x.smallWhole? with
    | none => exact hmarked h hwhole hu
    | some k =>
      rw [readBack_of_smallWhole hwhole] at hu
      cases hu
      exact ⟨_, rfl⟩
  | integer k =>
    by_cases hword : fitsWord k = true
    · rw [readBack_of_fitsWord hword] at hu
      cases hu
      exact ⟨_, rfl⟩
    · have hlow := le_natAbs_of_not_fitsWord hword
      rw [readBack_of_not_fitsWord hword] at hu
      exact hmarked (Binary64.isFinite_ofInt h)
        (Binary64.smallWhole?_ofInt_of_large (by omega)) hu

/-- The text of a number in range is read by a rounding that accepts what is written. -/
theorem InRange.exists_readBack (hρ : ρ.AcceptsWritten) (h : n.InRange) :
    ∃ u, n.readBack ρ = .ok u := by
  cases n with
  | real x => exact exists_readBack_real hρ h
  | integer k =>
    by_cases hword : fitsWord k = true
    · exact ⟨_, readBack_of_fitsWord hword⟩
    · rw [readBack_of_not_fitsWord hword]
      exact exists_readBack_real hρ (Binary64.isFinite_ofInt h)

/-- **A number in range keeps its value** when it is written and read, just if it is exact. -/
theorem InRange.exists_readBack_iff (h : n.InRange) :
    (∃ m, n.readBack ρ = .ok (.number m) ∧ n.SameValue m) ↔ n.IsExact ρ := by
  cases n with
  | real x =>
    rw [IsExact]
    cases hwhole : x.smallWhole? with
    | some k =>
      refine iff_of_true ⟨_, readBack_of_smallWhole hwhole, k * unitsPerOne, ?_, rfl⟩ (.inl rfl)
      rw [Binary64.units?_real h, Binary64.rank?_of_smallWhole hwhole]
    | none =>
      rw [readBack_of_not_smallWhole h hwhole, Binary64.exists_read_markedText_iff h,
        or_iff_right (by simp)]
  | integer k =>
    rw [IsExact]
    by_cases hword : fitsWord k = true
    · exact iff_of_true ⟨_, readBack_of_fitsWord hword, _, rfl, rfl⟩ (.inl hword)
    · have hlow := le_natAbs_of_not_fitsWord hword
      have hwhole := Binary64.smallWhole?_ofInt_of_large (n := k) (by omega)
      rw [readBack_of_not_fitsWord hword,
        readBack_of_not_smallWhole (Binary64.isFinite_ofInt h) hwhole,
        Binary64.exists_read_ofInt_iff h hlow, or_iff_right hword]

/-- **With the nearest rounding** only integers are lost: those that do not have 64 bits with their
sign and do not end in eleven zeros. -/
theorem InRange.isExact_nearest_iff (h : n.InRange) :
    n.IsExact .nearest ↔ ∀ k, n = integer k → fitsWord k = true ∨ 2 ^ 11 ∣ k.natAbs := by
  cases n with
  | real x => exact iff_of_true (.inr (Rounding.restores_nearest h)) nofun
  | integer k =>
    have hrestores := Rounding.restores_nearest (Binary64.isFinite_ofInt h)
    rw [IsExact, and_iff_left hrestores]
    constructor
    · intro hk l hl
      cases hl
      exact hk
    · exact fun hk => hk k rfl

end Number

/-! ## 4. The text of a document -/

namespace Json

/-- **A text that loses nothing of a document:** a document is read from it that has the same shape,
and the same values in the place of all numbers. -/
def Lossless (ρ : Rounding) (text : String) (v : Json) : Prop :=
  ∃ w, Json.read ρ text = .ok w ∧ v.Corresponds Number.SameValue w

/-- **A text that gives a document back,** as far as the texts of its numbers do. -/
structure GivesBack (ρ : Rounding) (text : String) (v : Json) : Prop where
  /-- What is read has the same shape, names and strings, in the same order, and each of its numbers
  is what the text of that number is read as. -/
  read_iff : ∀ w, Json.read ρ text = .ok w ↔
    v.Corresponds (fun n m => n.readBack ρ = .ok (number m)) w
  /-- The text is read, if the rounding accepts the texts of numbers. -/
  accepted : ρ.AcceptsWritten → ∃ w, Json.read ρ text = .ok w
  /-- Nothing is lost just if every number is exact. -/
  lossless_iff : Lossless ρ text v ↔ ∀ n ∈ v.numbers, n.IsExact ρ

section

variable {ρ : Rounding} {sp : Spacing} {v : Json} (hsp : sp.IsBlank)
  (hv : v.IsDocument Number.InRange maxDepth)
include hsp hv

/-- **The text of a document is read as one of the same shape,** in every spacing and whatever the
rounding: each number becomes what its own text is read as. -/
theorem read_render_iff {w : Json} :
    Json.read ρ (String.ofList (v.render sp 0)) = .ok w ↔
      v.Corresponds (fun n m => n.readBack ρ = .ok (number m)) w := by
  rw [read_render hsp hv]
  exact mapNumbersM_eq_ok_iff_corresponds fun n hn _ => (hv.of_mem_numbers hn).readBack_eq_number

/-- **The text of a document loses nothing** just if all its numbers are exact. -/
theorem lossless_render_iff :
    Lossless ρ (String.ofList (v.render sp 0)) v ↔ ∀ n ∈ v.numbers, n.IsExact ρ := by
  rw [Lossless, read_render hsp hv, readBack, exists_mapNumbersM_corresponds_iff]
  exact forall₂_congr fun n hn => (hv.of_mem_numbers hn).exists_readBack_iff

/-- **The text of a document gives the document back,** as far as its numbers do. -/
theorem givesBack_render : GivesBack ρ (String.ofList (v.render sp 0)) v where
  read_iff _ := read_render_iff hsp hv
  accepted hρ := exists_read_render hsp hv fun _ hn => (hv.of_mem_numbers hn).exists_readBack hρ
  lossless_iff := lossless_render_iff hsp hv

end

end Json

end JsonSieve
