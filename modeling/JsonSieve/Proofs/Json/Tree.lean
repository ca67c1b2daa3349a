/-
# Documents as trees

What the theory says of a document as a whole: a change of its numbers that leaves all else as it is
(`mapNumbers`), and what a text can say of it (`IsDocument`): distinct names in every object,
numbers of some kind, and no more than so many containers inside each other.  The numbers that occur
in a document are `numbers`, and only they matter to a change of them.  A change may also fail
(`mapNumbersM`), and then it fails on the first number on which it does.

A fact about all trees is proved by `Json.induct`: for scalars, and for a container from the fact
about its parts.
-/
import JsonSieve.Json.Basic
import JsonSieve.Proofs.Outcome

namespace JsonSieve.Json

/-! ## 1. Induction -/

/-- **Induction over a document:** a container may use what is claimed of its parts. -/
@[elab_as_elim, induction_eliminator]
theorem induct {motive : Json → Prop}
    (scalar : ∀ v : Json, v.kind.isScalar = true → motive v)
    (array : ∀ es : List Json, (∀ e ∈ es, motive e) → motive (array es))
    (object : ∀ ms : List (String × Json), (∀ m ∈ ms, motive m.2) → motive (object ms)) :
    ∀ v : Json, motive v
  | .null => scalar _ rfl
  | .bool _ => scalar _ rfl
  | .number _ => scalar _ rfl
  | .string _ => scalar _ rfl
  | .array es => array es fun e _ => induct scalar array object e
  | .object ms => object ms fun m _ => induct scalar array object m.2
termination_by v => sizeOf v
decreasing_by
  all_goals
    simp_wf
    have := List.sizeOf_lt_of_mem ‹_ ∈ _›
  · omega
  · have : sizeOf m = 1 + sizeOf m.1 + sizeOf m.2 := by cases m; rfl
    omega

/-! ## 2. Changing the numbers -/

mutual

/-- The document with a value in the place of every number. -/
def mapNumbers (g : Number → Json) : Json → Json
  | number n => g n
  | array es => array (mapNumbersOf g es)
  | object ms => object (mapNumbersIn g ms)
  | null => null
  | bool b => bool b
  | string s => string s

/-- The elements with a value in the place of every number. -/
def mapNumbersOf (g : Number → Json) : List Json → List Json
  | [] => []
  | e :: es => mapNumbers g e :: mapNumbersOf g es

/-- The members with a value in the place of every number. -/
def mapNumbersIn (g : Number → Json) : List (String × Json) → List (String × Json)
  | [] => []
  | (k, v) :: ms => (k, mapNumbers g v) :: mapNumbersIn g ms

end

section

variable (g h : Number → Json)

theorem mapNumbersOf_eq : ∀ es : List Json, mapNumbersOf g es = es.map (mapNumbers g)
  | [] => rfl
  | e :: es => by simp [mapNumbersOf, mapNumbersOf_eq es]

theorem mapNumbersIn_eq : ∀ ms : List (String × Json),
    mapNumbersIn g ms = ms.map fun m => (m.1, m.2.mapNumbers g)
  | [] => rfl
  | (k, v) :: ms => by simp [mapNumbersIn, mapNumbersIn_eq ms]

theorem mapNumbers_array (es : List Json) :
    (array es).mapNumbers g = array (es.map (mapNumbers g)) := by
  rw [mapNumbers, mapNumbersOf_eq]

theorem mapNumbers_object (ms : List (String × Json)) :
    (object ms).mapNumbers g = object (ms.map fun m => (m.1, m.2.mapNumbers g)) := by
  rw [mapNumbers, mapNumbersIn_eq]

/-- Widening is a change of the numbers. -/
theorem widen_eq_mapNumbers (v : Json) : v.widen = v.mapNumbers fun n => number n.widen := by
  induction v with
  | scalar v hv => cases v <;> first | rfl | cases hv
  | array es ih => rw [mapNumbers_array, widen, widenElements_eq, List.map_congr_left ih]
  | object ms ih =>
    rw [mapNumbers_object, widen, widenMembers_eq]
    exact congrArg object (List.map_congr_left fun m hm => by rw [ih m hm])

/-- Two changes after each other are one. -/
theorem mapNumbers_mapNumbers (v : Json) :
    (v.mapNumbers g).mapNumbers h = v.mapNumbers fun n => (g n).mapNumbers h := by
  induction v with
  | scalar v hv => cases v <;> first | rfl | cases hv
  | array es ih =>
    rw [mapNumbers_array, mapNumbers_array, mapNumbers_array, List.map_map]
    exact congrArg array (List.map_congr_left ih)
  | object ms ih =>
    rw [mapNumbers_object, mapNumbers_object, mapNumbers_object, List.map_map]
    exact congrArg object (List.map_congr_left fun m hm => by simp [ih m hm])

/-- **Changing the numbers and looking up a member commute.** -/
theorem get?_mapNumbers (v : Json) (name : String) (hg : ∀ n, (g n).get? name = none) :
    (v.mapNumbers g).get? name = (v.get? name).map (mapNumbers g) := by
  cases v with
  | number n => rw [mapNumbers, hg]; rfl
  | object ms =>
    rw [mapNumbers_object]
    simp only [get?, members, List.find?_map, Option.map_map]
    rfl
  | _ => simp [mapNumbers, get?, members]

/-! ## 3. Other numbers in their place -/

variable (k : Number → Number)

/-- The document with a number in the place of every number. -/
def renumber (v : Json) : Json := v.mapNumbers fun n => number (k n)

theorem renumber_array (es : List Json) :
    (array es).renumber k = array (es.map (renumber k)) :=
  mapNumbers_array _ es

theorem renumber_object (ms : List (String × Json)) :
    (object ms).renumber k = object (ms.map fun m => (m.1, m.2.renumber k)) :=
  mapNumbers_object _ ms

/-- Other numbers change no kind. -/
@[simp] theorem kind_renumber (v : Json) : (v.renumber k).kind = v.kind := by
  cases v with
  | array es => rw [renumber_array]; rfl
  | object ms => rw [renumber_object]; rfl
  | _ => rfl

theorem get?_renumber (v : Json) (name : String) :
    (v.renumber k).get? name = (v.get? name).map (renumber k) :=
  get?_mapNumbers _ v name fun _ => rfl

end

/-! ## 4. Documents -/

/-- A value that may stand in a document with so many levels of containers: the names of every
object are distinct, and every number has a property. -/
inductive IsDocument (P : Number → Prop) : (depth : Nat) → Json → Prop
  | scalar {depth : Nat} {v : Json} (hv : v.kind.isScalar = true) (hn : ∀ n, v = number n → P n) :
    IsDocument P depth v
  | array {depth : Nat} {es : List Json} (hes : ∀ e ∈ es, IsDocument P depth e) :
    IsDocument P (depth + 1) (array es)
  | object {depth : Nat} {ms : List (String × Json)} (hnames : (ms.map Prod.fst).Nodup)
    (hms : ∀ m ∈ ms, IsDocument P depth m.2) : IsDocument P (depth + 1) (object ms)

/-- A value that is found by name is a member of that name. -/
theorem mem_members_of_get? {v w : Json} {name : String} (h : v.get? name = some w) :
    (name, w) ∈ v.members := by
  obtain ⟨m, hm, rfl⟩ := Option.map_eq_some_iff.mp h
  have hn : m.1 = name := by simpa using List.find?_some hm
  exact hn ▸ List.mem_of_find?_eq_some hm

namespace IsDocument

variable {P Q : Number → Prop} {depth : Nat} {v : Json} {es : List Json}
  {ms : List (String × Json)}

theorem null : Json.null.IsDocument P depth :=
  scalar rfl fun _ h => by cases h

theorem bool (b : Bool) : (Json.bool b).IsDocument P depth :=
  scalar rfl fun _ h => by cases h

theorem string (s : String) : (Json.string s).IsDocument P depth :=
  scalar rfl fun _ h => by cases h

theorem number {n : Number} (hn : P n) : (number n).IsDocument P depth :=
  scalar rfl fun m hm => by
    cases hm
    exact hn

theorem of_number {n : Number} (h : (Json.number n).IsDocument P depth) : P n := by
  cases h with
  | scalar _ hn => exact hn n rfl

theorem mono (hPQ : ∀ n, P n → Q n) (h : v.IsDocument P depth) : v.IsDocument Q depth := by
  induction h with
  | scalar hv hn => exact scalar hv fun n hv => hPQ n (hn n hv)
  | array _ ih => exact array ih
  | object hnames _ ih => exact object hnames ih

/-- A document may stand where there are more levels. -/
theorem succ (h : v.IsDocument P depth) : v.IsDocument P (depth + 1) := by
  induction h with
  | scalar hv hn => exact scalar hv hn
  | array _ ih => exact array ih
  | object hnames _ ih => exact object hnames ih

/-- A field of a document is a document. -/
theorem get? {name : String} {w : Json} (h : v.IsDocument P depth) (hw : v.get? name = some w) :
    w.IsDocument P depth := by
  have hmem := mem_members_of_get? hw
  cases h with
  | scalar hv _ =>
    cases v with
    | array _ | object _ => cases hv
    | _ => cases hmem
  | array _ => cases hmem
  | object _ hms => exact (hms (name, w) hmem).succ

/-- **A change of the numbers** that puts a fitting number in the place of every number leaves a
document a document. -/
theorem mapNumbers {g : Number → Json}
    (hg : ∀ n, P n → ∃ m, g n = Json.number m ∧ Q m) (h : v.IsDocument P depth) :
    (v.mapNumbers g).IsDocument Q depth := by
  induction h with
  | scalar hv hn =>
    next depth v =>
    cases v with
    | number n =>
      obtain ⟨m, hm, hQ⟩ := hg n (hn n rfl)
      rw [Json.mapNumbers, hm]
      exact number hQ
    | null => exact null
    | bool b => exact bool b
    | string s => exact string s
    | array _ | object _ => cases hv
  | array _ ih =>
    rw [mapNumbers_array]
    refine array fun w hw => ?_
    obtain ⟨e, he, rfl⟩ := List.mem_map.mp hw
    exact ih e he
  | object hnames _ ih =>
    rw [mapNumbers_object]
    refine object (by rwa [List.map_map]) fun l hl => ?_
    obtain ⟨m, hm, rfl⟩ := List.mem_map.mp hl
    exact ih m hm

/-- Only the numbers that occur matter to a change of the numbers. -/
theorem mapNumbers_congr {g g' : Number → Json} (hg : ∀ n, P n → g n = g' n)
    (h : v.IsDocument P depth) : v.mapNumbers g = v.mapNumbers g' := by
  induction h with
  | scalar hv hn =>
    next depth v =>
    cases v with
    | number n => exact hg n (hn n rfl)
    | array _ | object _ => cases hv
    | _ => rfl
  | array _ ih =>
    rw [mapNumbers_array, mapNumbers_array]
    exact congrArg Json.array (List.map_congr_left ih)
  | object _ _ ih =>
    rw [mapNumbers_object, mapNumbers_object]
    exact congrArg Json.object (List.map_congr_left fun m hm => by rw [ih m hm])

end IsDocument

/-! ## 5. The numbers of a document -/

mutual

/-- The numbers of a document, in the order of its text. -/
def numbers : Json → List Number
  | number n => [n]
  | array es => numbersOf es
  | object ms => numbersIn ms
  | null | bool _ | string _ => []

/-- The numbers of the elements. -/
def numbersOf : List Json → List Number
  | [] => []
  | e :: es => numbers e ++ numbersOf es

/-- The numbers of the members. -/
def numbersIn : List (String × Json) → List Number
  | [] => []
  | (_, v) :: ms => numbers v ++ numbersIn ms

end

theorem numbers_array : ∀ es : List Json, (array es).numbers = es.flatMap numbers
  | [] => rfl
  | e :: es => by
    have ih := numbers_array es
    rw [numbers] at ih ⊢
    rw [numbersOf, ih, List.flatMap_cons]

theorem numbers_object : ∀ ms : List (String × Json),
    (object ms).numbers = ms.flatMap fun m => m.2.numbers
  | [] => rfl
  | (k, v) :: ms => by
    have ih := numbers_object ms
    rw [numbers] at ih ⊢
    rw [numbersIn, ih, List.flatMap_cons]

section

variable {n : Number}

theorem mem_numbers_array {es : List Json} :
    n ∈ (array es).numbers ↔ ∃ e ∈ es, n ∈ e.numbers := by
  rw [numbers_array, List.mem_flatMap]

theorem mem_numbers_object {ms : List (String × Json)} :
    n ∈ (object ms).numbers ↔ ∃ m ∈ ms, n ∈ m.2.numbers := by
  rw [numbers_object, List.mem_flatMap]

/-- The numbers of a field are numbers of the document. -/
theorem mem_numbers_of_get? {v w : Json} {name : String} (hw : v.get? name = some w)
    (hn : n ∈ w.numbers) : n ∈ v.numbers := by
  have hmem := mem_members_of_get? hw
  cases v with
  | object ms => exact mem_numbers_object.mpr ⟨(name, w), hmem, hn⟩
  | _ => cases hmem

end

namespace IsDocument

variable {P Q : Number → Prop} {depth : Nat} {v : Json}

/-- The numbers of a document have its property. -/
theorem of_mem_numbers {n : Number} (h : v.IsDocument P depth) (hn : n ∈ v.numbers) : P n := by
  induction h with
  | @scalar depth v hv hP =>
    cases v with
    | number m =>
      obtain rfl := List.mem_singleton.mp hn
      exact hP n rfl
    | array _ | object _ => cases hv
    | _ => cases hn
  | array _ ih =>
    obtain ⟨e, he, hn⟩ := mem_numbers_array.mp hn
    exact ih e he hn
  | object _ _ ih =>
    obtain ⟨m, hm, hn⟩ := mem_numbers_object.mp hn
    exact ih m hm hn

/-- What all numbers of a document have may be its property. -/
theorem of_forall_numbers (h : v.IsDocument P depth) (hQ : ∀ n ∈ v.numbers, Q n) :
    v.IsDocument Q depth := by
  induction h with
  | @scalar depth v hv _ =>
    refine scalar hv fun n hn => hQ n ?_
    subst hn
    exact List.mem_singleton_self n
  | array _ ih =>
    exact array fun e he => ih e he fun n hn => hQ n (mem_numbers_array.mpr ⟨e, he, hn⟩)
  | object hnames _ ih =>
    exact object hnames fun m hm => ih m hm fun n hn => hQ n (mem_numbers_object.mpr ⟨m, hm, hn⟩)

end IsDocument

/-! ## 6. Changes that may fail -/

section

variable {ε : Type}

mutual

/-- The document with what is made of each of its numbers, or the first error there is. -/
def mapNumbersM (g : Number → Except ε Json) : Json → Except ε Json
  | number n => g n
  | array es => (mapNumbersMOf g es).map array
  | object ms => (mapNumbersMIn g ms).map object
  | null => .ok null
  | bool b => .ok (bool b)
  | string s => .ok (string s)

/-- The elements with what is made of each of their numbers. -/
def mapNumbersMOf (g : Number → Except ε Json) : List Json → Except ε (List Json)
  | [] => .ok []
  | e :: es => do return (← mapNumbersM g e) :: (← mapNumbersMOf g es)

/-- The members with what is made of each of their numbers. -/
def mapNumbersMIn (g : Number → Except ε Json) :
    List (String × Json) → Except ε (List (String × Json))
  | [] => .ok []
  | (k, v) :: ms => do return (k, ← mapNumbersM g v) :: (← mapNumbersMIn g ms)

end

variable {g : Number → Except ε Json} {v : Json}

theorem mapNumbersM_array (es : List Json) :
    (array es).mapNumbersM g = (es.mapM (mapNumbersM g)).map array := by
  have hof : ∀ es, mapNumbersMOf g es = es.mapM (mapNumbersM g) := fun es => by
    induction es with
    | nil => rfl
    | cons e es ih => rw [mapNumbersMOf, ih, List.mapM_cons]
  rw [mapNumbersM, hof]

theorem mapNumbersM_object (ms : List (String × Json)) :
    (object ms).mapNumbersM g =
      (ms.mapM fun m : String × Json => (m.2.mapNumbersM g).map (Prod.mk m.1)).map object := by
  have hin : ∀ ms, mapNumbersMIn g ms =
      ms.mapM fun m : String × Json => (m.2.mapNumbersM g).map (Prod.mk m.1) := fun ms => by
    induction ms with
    | nil => rfl
    | cons m ms ih =>
      rw [mapNumbersMIn, ih, List.mapM_cons]
      cases m.2.mapNumbersM g <;> rfl
  rw [mapNumbersM, hin]

/-- **A change that fails on no number** is one that cannot fail. -/
theorem mapNumbersM_eq_ok {f : Number → Json} (h : ∀ n ∈ v.numbers, g n = .ok (f n)) :
    v.mapNumbersM g = .ok (v.mapNumbers f) := by
  induction v with
  | scalar v hv =>
    cases v with
    | number n => exact h n (List.mem_singleton_self n)
    | array _ | object _ => cases hv
    | _ => rfl
  | array es ih =>
    have hes : es.mapM (mapNumbersM g) = .ok (es.map (mapNumbers f)) :=
      mapM_eq_map fun e he => ih e he fun n hn => h n (mem_numbers_array.mpr ⟨e, he, hn⟩)
    rw [mapNumbersM_array, mapNumbers_array, hes]
    rfl
  | object ms ih =>
    have hms : (ms.mapM fun m : String × Json => (m.2.mapNumbersM g).map (Prod.mk m.1)) =
        .ok (ms.map fun m => (m.1, m.2.mapNumbers f)) := mapM_eq_map fun m hm => by
      rw [ih m hm fun n hn => h n (mem_numbers_object.mpr ⟨m, hm, hn⟩)]
      rfl
    rw [mapNumbersM_object, mapNumbers_object, hms]
    rfl

/-- What is made of a number, if anything is. -/
def madeOf (g : Number → Except ε Json) (n : Number) : Json := (g n).toOption.getD null

theorem madeOf_eq {n : Number} {w : Json} (h : g n = .ok w) : madeOf g n = w := by
  rw [madeOf, h]
  rfl

/-- **A change that may fail succeeds** if it fails on no number, and then it puts in the place of
each what is made of it. -/
theorem mapNumbersM_eq_ok_iff {w : Json} : v.mapNumbersM g = .ok w ↔
    (∀ n ∈ v.numbers, g n = .ok (madeOf g n)) ∧ v.mapNumbers (madeOf g) = w := by
  constructor
  · intro h
    -- it is enough to know that no number fails: the result is then the one there is
    suffices hok : ∀ n ∈ v.numbers, g n = .ok (madeOf g n) from
      ⟨hok, Except.ok.inj ((mapNumbersM_eq_ok hok).symm.trans h)⟩
    induction v generalizing w with
    | scalar v hv =>
      cases v with
      | number n =>
        have hn : g n = .ok w := h
        exact List.forall_mem_singleton.mpr (by rw [madeOf_eq hn, hn])
      | array _ | object _ => cases hv
      | _ => exact List.forall_mem_nil _
    | array es ih =>
      rw [mapNumbersM_array] at h
      obtain ⟨ds, hds, -⟩ := ok_map_iff.mp h
      intro n hn
      obtain ⟨e, he, hn⟩ := mem_numbers_array.mp hn
      obtain ⟨d, -, hd⟩ := exists_of_mem_of_mapM hds e he
      exact ih e he hd n hn
    | object ms ih =>
      rw [mapNumbersM_object] at h
      obtain ⟨ls, hls, -⟩ := ok_map_iff.mp h
      intro n hn
      obtain ⟨m, hm, hn⟩ := mem_numbers_object.mp hn
      obtain ⟨l, -, hl⟩ := exists_of_mem_of_mapM hls m hm
      obtain ⟨d, hd, -⟩ := ok_map_iff.mp hl
      exact ih m hm hd n hn
  · rintro ⟨h, rfl⟩
    exact mapNumbersM_eq_ok h

end

end JsonSieve.Json
