/-
# Searching what a path keeps

A list of names is a path for a search, and it is also a query: the one that descends from name to
name and takes the field of the last one (`path`).  Both go the same way.  Where the search finds
its scalars, the query keeps just enough of the document for the search to find them again
(`project_path_of_search`).  The converse does not hold: the query passes over a name that is
missing, and takes the last field whatever it is.

The text of what the query keeps reads back but for the signs of zeros, if its numbers are restored,
so that the scalars that are found in it are the same by value (`search_keep`).
-/
import JsonSieve.Proofs.Evaluate.Again
import JsonSieve.Proofs.Evaluate.Rejection
import JsonSieve.Proofs.Evaluate.Search

namespace JsonSieve

/-! ## 1. Paths as queries -/

namespace Query

/-- The query along a path: it descends from name to name and takes the field of the last one. -/
def path (key : String) : List String → Query
  | [] => node [] [key] []
  | next :: keys => node [] [] [(key, path next keys)]

/-- The text of the query along a path: the names, a brace before each and one for each behind. -/
def pathText (key : String) : List String → String
  | [] => "\x7b" ++ key ++ "\x7d"
  | next :: keys => "\x7b" ++ key ++ pathText next keys ++ "\x7d"

variable {key : String} {keys : List String}

theorem filtered_path (key : String) (keys : List String) : (path key keys).filtered = false := by
  induction keys generalizing key with
  | nil => rfl
  | cons next keys ih => simp [path, filtered, anyFiltered, ih]

theorem noRepeats_path (key : String) (keys : List String) : (path key keys).NoRepeats := by
  induction keys generalizing key with
  | nil => exact ⟨List.nodup_singleton _, trivial⟩
  | cons next keys ih => exact ⟨List.nodup_singleton _, ih next, trivial⟩

/-- A text that spells one item spells, between braces, the node that has it. -/
theorem spellsNode_braces {s : List Char} {item : Item} (h : SpellsItem s item) :
    SpellsNode ('\x7b' :: (s ++ ['\x7d'])) (ofItems [] [item]) := by
  have hbody := SpellsItems.last h blanks_nil
  rw [List.append_nil] at hbody
  exact .node .missing blanks_nil (.items hbody)

theorem spellsNode_path (hkeys : ∀ k ∈ key :: keys, IsName k.toList) :
    SpellsNode (pathText key keys).toList (path key keys) := by
  induction keys generalizing key with
  | nil =>
    have hfield := SpellsItem.field blanks_nil (hkeys key List.mem_cons_self)
    rw [String.ofList_toList] at hfield
    show SpellsNode _ (ofItems [] [.field key])
    simpa [pathText] using spellsNode_braces hfield
  | cons next keys ih =>
    have hbelow := ih fun k hk => hkeys k (List.mem_cons_of_mem _ hk)
    have hnested := SpellsItem.nested blanks_nil (hkeys key List.mem_cons_self) hbelow
    rw [String.ofList_toList] at hnested
    show SpellsNode _ (ofItems [] [.nested key (path next keys)])
    simpa [pathText] using spellsNode_braces hnested

/-- **The text of a path is read** as the query along it. -/
theorem compile_pathText (hkeys : ∀ k ∈ key :: keys, IsName k.toList) :
    compile (pathText key keys) = .ok (path key keys) := by
  refine compile_of_spells ?_ (noRepeats_path key keys)
  have h := Spells.bare (spellsNode_path hkeys) blanks_nil
  rwa [List.append_nil] at h

/-! ## 2. What is kept along a path -/

section

variable {name : String} {ms : List (String × Json)} {field w : Json}
variable (hfield : (Json.object ms).get? key = some field)
include hfield

theorem project_path_last :
    (path key []).project name (.object ms) = .ok (some (.object [(key, field)])) := by
  refine (project_object_iff (filtered_path key [])).mpr ⟨[], rfl, ?_⟩
  simp [path, taken, fields, hfield]

theorem project_path_next {next : String}
    (hw : (path next keys).project key field = .ok (some w)) :
    (path key (next :: keys)).project name (.object ms) = .ok (some (.object [(key, w)])) := by
  refine (project_object_iff (filtered_path key _)).mpr ⟨[(key, w)], ?_, rfl⟩
  refine projectNested_cons_eq_ok.mpr ⟨some w, [], ?_, rfl, rfl⟩
  rw [projectField, hfield]
  exact hw

end

/-- Below its one member an object is searched like the value of that member. -/
theorem searchFrom_singleton {name : String} {w : Json} {ss : List Scalar}
    (h : w.searchFrom key keys = .ok ss) :
    (Json.object [(key, w)]).searchFrom name (key :: keys) = .ok ss :=
  Json.searchFrom_object_eq_ok.mpr ⟨w, by rw [Json.get?_cons, if_pos rfl], h⟩

/-- What holds of all objects holds of every value: both look through the arrays above them. -/
theorem project_path_of_objects {name : String}
    (hobjects : ∀ {ms : List (String × Json)} {ss : List Scalar},
      (Json.object ms).searchFrom name (key :: keys) = .ok ss →
        ∃ w, (path key keys).project name (.object ms) = .ok (some w) ∧
          w.searchFrom name (key :: keys) = .ok ss) {v : Json} {ss : List Scalar}
    (h : v.searchFrom name (key :: keys) = .ok ss) :
    ∃ w, (path key keys).project name v = .ok (some w) ∧
      w.searchFrom name (key :: keys) = .ok ss := by
  induction v generalizing ss with
  | scalar v hv =>
    rw [Json.searchFrom_scalar hv] at h
    cases h
  | array es ih =>
    rw [Json.searchFrom_array, ok_map_iff] at h
    obtain ⟨found, hfound, rfl⟩ := h
    obtain ⟨ws, hws, hsearch⟩ := exists_forall₂_of_mapM (fun e he _ => ih e he) hfound
    refine ⟨.array ws, (project_array_iff (filtered_path key keys)).mpr ⟨ws, rfl, hws⟩, ?_⟩
    rw [Json.searchFrom_array, hsearch]
    rfl
  | object ms _ => exact hobjects h

/-- **Where a search finds scalars, the query along the path keeps a value,** and the search finds
the same scalars in it. -/
theorem project_path_of_search {name : String} {v : Json} {ss : List Scalar}
    (h : v.searchFrom name (key :: keys) = .ok ss) :
    ∃ w, (path key keys).project name v = .ok (some w) ∧
      w.searchFrom name (key :: keys) = .ok ss := by
  induction keys generalizing key name v ss with
  | nil =>
    refine project_path_of_objects (fun hss => ?_) h
    obtain ⟨field, hfield, hss⟩ := Json.searchFrom_object_eq_ok.mp hss
    exact ⟨_, project_path_last hfield, searchFrom_singleton hss⟩
  | cons next keys ih =>
    refine project_path_of_objects (fun hss => ?_) h
    obtain ⟨field, hfield, hss⟩ := Json.searchFrom_object_eq_ok.mp hss
    obtain ⟨w, hw, hfound⟩ := ih hss
    exact ⟨_, project_path_next hfield hw, searchFrom_singleton hfound⟩

end Query

/-! ## 3. Scalars by value -/

namespace Scalar

/-- Whether two scalars are the same, numbers of the double format compared by value. -/
def sameValue : Scalar → Scalar → Bool
  | real x, real y => x.equals y
  | s, t => s == t

/-- The scalar without the sign of a zero. -/
def plainZero : Scalar → Scalar
  | real x => real x.plainZero
  | s => s

theorem plainZero_toScalar (n : Number) :
    n.plainZero.toScalar.plainZero = n.toScalar.plainZero := by
  cases n with
  | integer n => rfl
  | real x => exact congrArg real x.plainZero_plainZero

/-- A scalar of a document in the double format is the same as any that differs from it in the sign
of a zero only. -/
theorem sameValue_of_plainZero_eq {s t : Scalar} {v : Json} {depth : Nat}
    (hv : v.IsDocument Number.IsFiniteReal depth) (ht : v.scalar? = some t)
    (h : s.plainZero = t.plainZero) : s.sameValue t = true := by
  cases s with
  | real y =>
    cases t with
    | real x =>
      have hfinite : x.isFinite = true := by
        cases v with
        | number n =>
          obtain ⟨z, rfl, hz⟩ := hv.of_number
          cases ht
          exact hz
        | _ => cases ht
      have hrank : y.rank? = x.rank? := by
        rw [← y.rank?_plainZero, ← x.rank?_plainZero, real.inj h]
      exact Binary64.equals_of_rank?_eq hfinite hrank
    | _ => cases h
  | _ =>
    cases t with
    | real x => cases h
    | _ => exact beq_iff_eq.mpr h

end Scalar

/-! ## 4. Texts -/

namespace Query

variable {ρ : Rounding} {text : String} {d : Json} {key : String} {keys : List String}
variable {ss : List Scalar}

/-- What a search finds in a document it finds by value in the document without signs of zeros. -/
theorem search_plainZeros {depth : Nat} (hd : d.IsDocument Number.IsFiniteReal depth)
    (h : d.search keys = .ok ss) :
    ∃ ts, d.plainZeros.search keys = .ok ts ∧
      List.Forall₂ (fun s t => t.sameValue s = true) ss ts := by
  have hzeros := Json.searchFrom_renumber (g := Scalar.plainZero) keys rootName
    fun n (_ : n ∈ d.numbers) => Scalar.plainZero_toScalar n
  have hd' : ∀ s ∈ ss, ∃ v : Json, v.IsDocument Number.IsFiniteReal depth ∧ v.scalar? = some s :=
    Json.exists_of_searchFrom depth hd h
  rw [← Json.search, ← Json.search, h] at hzeros
  obtain ⟨ts, hts, hplain⟩ := ok_map_iff.mp hzeros
  have hsame : List.Forall₂ (fun s t => s.plainZero = t.plainZero) ss ts := by
    rw [← List.forall₂_map_right_iff, ← List.forall₂_map_left_iff, hplain, List.forall₂_same]
    exact fun _ _ => rfl
  refine ⟨ts, hts, ((List.forall₂_and_left _ _).mpr ⟨hd', hsame⟩).imp ?_⟩
  rintro s t ⟨⟨v, hv, hs⟩, hplain⟩
  exact Scalar.sameValue_of_plainZero_eq hv hs hplain.symm

/-- **What a search finds in a document it finds by value in what the query along the same path
keeps of it,** in the same order and as often, if the numbers of the document are restored. -/
theorem search_keep (hd : Command.readDocument ρ text = .ok d) (hρ : d.RestoredBy ρ)
    (hkeys : ∀ k ∈ key :: keys, IsName k.toList) (h : d.search (key :: keys) = .ok ss) :
    ∃ q kept d' ts, compile (pathText key keys) = .ok q ∧ q.keep d = .ok kept ∧ kept ≠ "" ∧
      Command.readDocument ρ kept = .ok d' ∧ d'.search (key :: keys) = .ok ts ∧
      List.Forall₂ (fun s t => t.sameValue s = true) ss ts := by
  obtain ⟨w, hw, hfound⟩ := project_path_of_search h
  have hq := compile_pathText hkeys
  have hdoc := isDocument_projection (Command.isDocument_of_readDocument hd) hq hw
  obtain ⟨ts, hts, hsame⟩ := search_plainZeros hdoc hfound
  refine ⟨path key keys, String.ofList (w.render .compact 0), w.plainZeros, ts, hq, ?_, ?_,
    readDocument_kept hd hρ hq hw, hts, hsame⟩
  · rw [keep_eq_keptText, projection, hw]
    rfl
  · rw [ne_eq, String.ofList_eq_empty_iff]
    exact w.render_ne_nil _ _

/-- A path through an array, with a field that is an array and one that is a scalar at its end. -/
theorem search_keep_flags :
    ∃ q kept d' ts, compile "\x7ba\x7bb\x7d\x7d" = .ok q ∧
      q.keep (.array [.object [("a", .object [("b", .array [.bool true, .null])])],
        .object [("c", .null), ("a", .object [("b", .bool false)])]]) = .ok kept ∧ kept ≠ "" ∧
      Command.readDocument .bestEffort kept = .ok d' ∧ d'.search ["a", "b"] = .ok ts ∧
      List.Forall₂ (fun s t => t.sameValue s = true) [.bool true, .null, .bool false] ts := by
  have hd : Command.readDocument .bestEffort
      "[\x7b\"a\":\x7b\"b\":[true,null]\x7d\x7d,\x7b\"c\":null,\"a\":\x7b\"b\":false\x7d\x7d]" =
      .ok (.array [.object [("a", .object [("b", .array [.bool true, .null])])],
        .object [("c", .null), ("a", .object [("b", .bool false)])]]) := by cbv
  have ha : IsName "a".toList := ⟨by decide, List.all_eq_true.mp (by decide)⟩
  have hb : IsName "b".toList := ⟨by decide, List.all_eq_true.mp (by decide)⟩
  have hkeys : ∀ k ∈ ["a", "b"], IsName k.toList :=
    List.forall_mem_cons.mpr ⟨ha, List.forall_mem_singleton.mpr hb⟩
  exact search_keep hd (by decide) hkeys (by cbv)

end Query
end JsonSieve
