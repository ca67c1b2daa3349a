/-
# Letters when case is ignored

Which code points are the same letter when case is ignored, by edition 16 of the standard.  A letter
is known by its lower-case form, but for a few signs that are variants of a letter.

The tables of categories, scripts, properties and breaks are those of edition 16 as well, which is
the edition that patterns are read by.  Letters are lowered, and characters shown, by edition 17.
Between the two no code point changed in a way that shows there; what edition 17 added is kept here.
-/
import JsonSieve.Unicode.CodeSet
import JsonSieve.Unicode.LetterCase

namespace JsonSieve.Unicode

/-! ## 1. Additions of the latest edition -/

namespace Addition

/-- The code points that edition 17 was the first to assign.  All of them can be seen. -/
def assigned : CodeSet :=
  .ofRuns
   ["2191 1 972 1 127 1 3570 15 2 12 1493 1 2772 1 31799 2 2 1 1 1 28 1 21457 16 445 2 54 7 ",
    "2929 26 1387 3 8 9 33 2 3172 8 584 44 4 10 20662 25 2 25 286 5 6145 8 1289 22 97 115 ",
    "16135 3 445 23 15 17 6095 31 1 22 8 2 4056 1 158 4 341 9 379 4 50 1 3 1 57 1 4 1 28 1 4 ",
    "1 266 1 47935 6 5986 12 21762 4298 "]

/-- Those of them that are alphabetic. -/
def alphabetic : CodeSet :=
  .ofRuns
   ["2191 1 972 1 127 1 39665 2 2 1 1 1 28 1 24910 26 1387 3 50 2 3172 8 584 44 20676 25 2 ",
    "25 286 5 6145 8 1289 22 97 115 22733 31 1 22 8 2 53306 6 5986 12 21762 4298 "]

/-- Those of them that are numbers. -/
def number : CodeSet :=
  .ofRanges
   [(0x11DE0, 0x11DE9), (0x16FF4, 0x16FF6)]

/-- Those of them that attach themselves to the character before them. -/
def graphemeExtend : CodeSet :=
  .ofRuns
   ["6863 15 2 12 62478 2 3172 1 1 3 1 1 52092 1 2 1 7 2 5 1 "]

end Addition

/-! ## 2. Keys -/

/-- The signs that are the same letter as a code point that is not their lower-case form. -/
def variants : List (Nat × Nat) :=
  [(0xB5, 0x3BC), (0x17F, 0x73), (0x345, 0x3B9), (0x3C2, 0x3C3), (0x3D0, 0x3B2), (0x3D1, 0x3B8),
   (0x3D5, 0x3C6), (0x3D6, 0x3C0), (0x3F0, 0x3BA), (0x3F1, 0x3C1), (0x3F5, 0x3B5), (0x1C80, 0x432),
   (0x1C81, 0x434), (0x1C82, 0x43E), (0x1C83, 0x441), (0x1C84, 0x442), (0x1C85, 0x442),
   (0x1C86, 0x44A), (0x1C87, 0x463), (0x1C88, 0xA64B), (0x1E9B, 0x1E61), (0x1FBE, 0x3B9),
   (0x1FD3, 0x390), (0x1FE3, 0x3B0), (0xFB06, 0xFB05)]

/-- The code points of a progression with their images. -/
def Progression.pairs (p : Progression) : List (Nat × Nat) :=
  (List.range ((p.last - p.first) / p.step + 1)).map fun k =>
    (p.first + k * p.step, p.image + k * p.step)

/-- The code points with a lower-case form, each with that form. -/
def letterPairs : List (Nat × Nat) :=
  (lowerForms.flatMap Progression.pairs).filter fun m => !Addition.assigned.containsCode m.1

/-- Every code point that is not known by itself, with what it is known by. -/
def caseKeys : List (Nat × Nat) :=
  variants ++ letterPairs.filter fun m => (variants.lookup m.1).isNone

/-! ## 3. Sets -/

namespace CodeSet

/-- The set with everything that is the same letter as a member when case is ignored. -/
def ignoringCase (s : CodeSet) : CodeSet :=
  let keyed := caseKeys.foldl (fun t m => if s.containsCode m.1 then t.insert m.2 else t) s
  caseKeys.foldl (fun t m => if keyed.containsCode m.2 then t.insert m.1 else t) keyed

/-- The set with both cases of every member that is an ASCII letter. -/
def ignoringAsciiCase (s : CodeSet) : CodeSet :=
  (List.range 26).foldl (fun t k =>
    let upper := 'A'.toNat + k
    let lower := 'a'.toNat + k
    if s.containsCode upper || s.containsCode lower then (t.insert upper).insert lower else t) s

end CodeSet
end JsonSieve.Unicode
