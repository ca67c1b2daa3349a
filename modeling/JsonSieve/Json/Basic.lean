/-
# JSON documents

A document as a tree.  A number is either an integer that was written as one, kept as it is, or a
number of the double format; `widen` gives the coarser view in which every number is of the second
form.  Members stand in the order of the text.

* `get?` finds the first member of a name, in an object only;
* `leaves` looks through arrays: the values that are not arrays, in order, however deep.

Two trees are in use where documents are queried, and what is asked of either is the same handful of
operations (`JsonNode`).  One keeps integers apart from other numbers, and a document of this type
may be any of its values; the other has numbers of the double format only, and its documents are
those that `widen` leaves as they are.

What a filter compares and a search finds is a `Scalar`: a value that holds no other values.
Integers of 64 bits stay integers; every other number is taken in the double format.
-/
import JsonSieve.Binary64.Read

namespace JsonSieve

/-! ## 1. Trees -/

/-- A number of a document: an integer written without point and exponent, or any other number.  The
first can be asked for as an integer (`as_i64`), the second only in the double format. -/
inductive Number where
  | integer (n : Int)
  | real (x : Binary64)
deriving DecidableEq

/-- A JSON document. -/
inductive Json where
  | null
  | bool (b : Bool)
  | number (n : Number)
  | string (s : String)
  | array (elements : List Json)
  | object (members : List (String × Json))

instance : Inhabited Json := ⟨.null⟩

/-- What a value is, seen from outside (`Kind`): its type, and for a boolean its value. -/
inductive Kind where
  | object
  | array
  | string
  | number
  | boolean (b : Bool)
  | null
deriving DecidableEq, Repr

namespace Kind

/-- The word for a kind (`name`), by which messages speak of it. -/
def name : Kind → String
  | object => "object"
  | array => "array"
  | string => "string"
  | number => "number"
  | boolean _ => "boolean"
  | null => "null"

/-- Whether values of the kind hold no other values (`is_scalar`). -/
def isScalar : Kind → Bool
  | object | array => false
  | _ => true

end Kind

namespace Number

/-- The number in the double format (`as_f64` of a node); an integer is rounded to it. -/
def toReal : Number → Binary64
  | integer n => .ofInt n
  | real x => x

/-- The same number, in the double format. -/
def widen (n : Number) : Number := real n.toReal

@[simp] theorem widen_widen (n : Number) : n.widen.widen = n.widen := rfl

end Number

namespace Json

/-- The kind of a value (`kind`). -/
def kind : Json → Kind
  | null => .null
  | bool b => .boolean b
  | number _ => .number
  | string _ => .string
  | array _ => .array
  | object _ => .object

/-! ## 2. Parts -/

/-- The members of an object (`members`); nothing else has any. -/
def members : Json → List (String × Json)
  | object ms => ms
  | _ => []

/-- The elements of an array (`elements`); nothing else has any. -/
def elements : Json → List Json
  | array es => es
  | _ => []

/-- The value of the first member of a name (`get`).  Only an object has members, so nothing is
found in any other value. -/
def get? (v : Json) (name : String) : Option Json :=
  (v.members.find? fun m => m.1 == name).map Prod.snd

mutual

/-- The values that are not arrays, met from left to right; anything but an array is its own. -/
def leaves : Json → List Json
  | array es => leavesOf es
  | v => [v]

/-- The leaves of several values, one after the other. -/
def leavesOf : List Json → List Json
  | [] => []
  | e :: es => leaves e ++ leavesOf es

end

theorem leavesOf_eq : ∀ es : List Json, leavesOf es = es.flatMap leaves
  | [] => rfl
  | e :: es => by simp [leavesOf, leavesOf_eq es]

/-! ## 3. Numbers in the double format throughout -/

mutual

/-- The document with every number in the double format (`from` of the tree that keeps integers). -/
def widen : Json → Json
  | number n => number n.widen
  | array es => array (widenElements es)
  | object ms => object (widenMembers ms)
  | null => null
  | bool b => bool b
  | string s => string s

/-- The elements with every number in the double format. -/
def widenElements : List Json → List Json
  | [] => []
  | e :: es => widen e :: widenElements es

/-- The members with every number in the double format. -/
def widenMembers : List (String × Json) → List (String × Json)
  | [] => []
  | (k, v) :: ms => (k, widen v) :: widenMembers ms

end

theorem widenElements_eq : ∀ es : List Json, widenElements es = es.map widen
  | [] => rfl
  | e :: es => by simp [widenElements, widenElements_eq es]

theorem widenMembers_eq : ∀ ms : List (String × Json),
    widenMembers ms = ms.map fun m => (m.1, m.2.widen)
  | [] => rfl
  | (k, v) :: ms => by simp [widenMembers, widenMembers_eq ms]

/-- **Widening changes no kind.** -/
@[simp] theorem kind_widen (v : Json) : v.widen.kind = v.kind := by
  cases v <;> simp [widen, kind]

theorem find?_widenMembers (name : String) : ∀ ms : List (String × Json),
    ((widenMembers ms).find? fun m => m.1 == name).map Prod.snd =
      ((ms.find? fun m => m.1 == name).map Prod.snd).map widen
  | [] => rfl
  | (k, v) :: ms => by
    simp only [widenMembers, List.find?_cons]
    cases k == name
    · exact find?_widenMembers name ms
    · rfl

/-- **Widening and looking up a member commute.** -/
theorem get?_widen (v : Json) (name : String) : v.widen.get? name = (v.get? name).map widen := by
  cases v with
  | object ms => exact find?_widenMembers name ms
  | _ => simp [widen, get?, members]

/-! ## 4. Equality by value -/

mutual

/-- Whether two documents are the same, numbers compared by value and members in order. -/
def sameValue : Json → Json → Bool
  | null, null => true
  | bool a, bool b => a == b
  | number a, number b => a.toReal.equals b.toReal
  | string a, string b => a == b
  | array as, array bs => sameElements as bs
  | object as, object bs => sameMembers as bs
  | _, _ => false

/-- Whether two lists of values are the same, one by one. -/
def sameElements : List Json → List Json → Bool
  | [], [] => true
  | a :: as, b :: bs => sameValue a b && sameElements as bs
  | _, _ => false

/-- Whether two lists of members are the same, names and values, one by one. -/
def sameMembers : List (String × Json) → List (String × Json) → Bool
  | [], [] => true
  | (k, a) :: as, (l, b) :: bs => k == l && sameValue a b && sameMembers as bs
  | _, _ => false

end

end Json

/-! ## 5. Scalars -/

/-- A value of a document without the tree around it (`Scalar`). -/
inductive Scalar where
  | null
  | bool (b : Bool)
  | integer (n : Int)
  | real (x : Binary64)
  | text (s : String)
deriving DecidableEq

/-- The four sorts of scalars that a comparison tells apart.  All numbers are of one sort, whatever
form they are kept in. -/
inductive Family where
  | null
  | boolean
  | number
  | text
deriving DecidableEq, Repr

namespace Scalar

/-- The sort of a scalar (`family`). -/
def family : Scalar → Family
  | null => .null
  | bool _ => .boolean
  | integer _ | real _ => .number
  | text _ => .text

/-- The number in the double format, for a number (`as_f64` of a scalar). -/
def toReal? : Scalar → Option Binary64
  | integer n => some (.ofInt n)
  | real x => some x
  | _ => none

end Scalar

/-- The scalar that a number is: the integer, if the node has one of 64 bits with a sign, and else
the number in the double format.  An integer above that range is rounded here, and nothing reports
it. -/
def Number.toScalar : Number → Scalar
  | .integer n => if fitsWord n then .integer n else .real (.ofInt n)
  | .real x => .real x

/-- The scalar that a value is (`from_node` of a scalar); an array or an object is none. -/
def Json.scalar? : Json → Option Scalar
  | .null => some .null
  | .bool b => some (.bool b)
  | .number n => some n.toScalar
  | .string s => some (.text s)
  | .array _ | .object _ => none

/-- **A value is a scalar when its kind says so.** -/
theorem Json.isSome_scalar? (v : Json) : v.scalar?.isSome = v.kind.isScalar := by
  cases v <;> rfl

end JsonSieve
