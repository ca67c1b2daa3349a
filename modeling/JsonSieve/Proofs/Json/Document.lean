/-
# What every document has that was read

Whatever text a document is read from, and however its decimals are rounded, the names of its
objects are distinct, its integers have 64 bits, its other numbers are finite, and its containers
nest no deeper than they may (`isDocument_of_read`).  In the double format all its numbers are
finite (`isDocument_of_readDocument`).  If the rounding restores them as well, the text of the
document reads back as the same document, but for the signs of zeros (`readDocument_render`).
-/
import JsonSieve.Command.Run
import JsonSieve.Proofs.Json.Restored

namespace JsonSieve

open Json.Reader

/-! ## 1. Numbers -/

namespace Binary64

/-- **An integer of 64 bits is in the range of the format.** -/
theorem isFinite_ofInt {n : Int} (hn : isKept n = true) : (ofInt n).isFinite = true := by
  have hn := isKept_iff.mp hn
  have habs : n.natAbs ≤ 2 ^ 64 := by omega
  have hunits := Nat.mul_le_mul_right unitsPerOne habs
  have hnear := nearestUnits_le (n.natAbs * unitsPerOne)
  have hbound : Magnitude.nearestUnits (n.natAbs * unitsPerOne) 1 < rangeUnits := by
    have := unitsPerOne_small
    have := unitsPerOne_pos
    omega
  rw [ofInt, Magnitude.ofNat?, Magnitude.nearest?, dif_pos hbound]
  rfl

end Binary64

/-- The numbers that are read: integers of 64 bits, and finite numbers of the double format. -/
def Number.InRange : Number → Prop
  | .integer n => isKept n = true
  | .real x => x.isFinite = true

instance : DecidablePred Number.InRange
  | .integer n => inferInstanceAs (Decidable (isKept n = true))
  | .real x => inferInstanceAs (Decidable (x.isFinite = true))

/-- **A number in range is finite in the double format.** -/
theorem Number.InRange.isFinite {n : Number} (h : n.InRange) : n.toReal.isFinite = true := by
  cases n with
  | integer n => exact Binary64.isFinite_ofInt h
  | real x => exact h

namespace Json.Reader

variable {ρ : Rounding} {negative : Bool} {ds whole fraction s rest : List Char} {n : Number}

theorem toFinite_inRange {w : Numeral} (h : toFinite ρ negative w = .ok n) : n.InRange := by
  rw [toFinite] at h
  split at h
  · cases h
    rfl
  · cases h

theorem ofWhole_inRange (h : ofWhole ρ negative ds = .ok n) : n.InRange := by
  rw [ofWhole] at h
  split at h
  · next hk =>
    cases h
    rw [Bool.and_eq_true] at hk
    exact hk.1
  · exact toFinite_inRange h

theorem readScale_inRange (h : readScale ρ negative whole fraction s = .ok (n, rest)) :
    n.InRange := by
  unfold readScale at h
  split at h
  all_goals
    obtain ⟨_, -, h⟩ := ok_bind_iff.mp h
    obtain ⟨_, hm, h⟩ := ok_bind_iff.mp h
    cases h
    exact toFinite_inRange hm

theorem readNumber_inRange (h : readNumber ρ negative s = .ok (n, rest)) : n.InRange := by
  rw [readNumber] at h
  split at h
  · cases h
  · cases h
  · unfold readFraction at h
    split at h
    · simp only at h
      split at h
      · cases h
      · exact readScale_inRange h
    · exact readScale_inRange h
    · exact readScale_inRange h
    · obtain ⟨m, hm, h⟩ := ok_map_iff.mp h
      cases h
      exact ofWhole_inRange hm

/-! ## 2. Members -/

theorem mem_put {ms : List (String × Json)} {l m : String × Json} (h : l ∈ put ms m) :
    l = m ∨ l ∈ ms := by
  rw [put] at h
  split at h
  · obtain ⟨old, hold, rfl⟩ := List.mem_map.mp h
    split
    · exact .inl rfl
    · exact .inr hold
  · rcases List.mem_append.mp h with h | h
    · exact .inr h
    · exact .inl (List.mem_singleton.mp h)

/-- A member is put in the place of the one of its name, or behind all others. -/
theorem nodup_put {ms : List (String × Json)} (m : String × Json)
    (h : (ms.map Prod.fst).Nodup) : ((put ms m).map Prod.fst).Nodup := by
  rw [put]
  split
  · have hnames : (ms.map fun old => if old.1 == m.1 then m else old).map Prod.fst =
        ms.map Prod.fst := by
      rw [List.map_map]
      refine List.map_congr_left fun old _ => ?_
      simp only [Function.comp]
      split
      · next heq => exact (beq_iff_eq.mp heq).symm
      · rfl
    rwa [hnames]
  · next hany =>
    rw [List.map_append, List.nodup_append]
    refine ⟨h, by simp, fun a ha b hb heq => hany ?_⟩
    obtain ⟨old, hold, rfl⟩ := List.mem_map.mp ha
    obtain rfl := List.mem_singleton.mp hb
    exact List.any_eq_true.mpr ⟨old, hold, beq_iff_eq.mpr heq⟩

theorem foldl_put_settled {P : String × Json → Prop} : ∀ {ms acc : List (String × Json)},
    (acc.map Prod.fst).Nodup → (∀ m ∈ acc, P m) → (∀ m ∈ ms, P m) →
    ((ms.foldl put acc).map Prod.fst).Nodup ∧ ∀ m ∈ ms.foldl put acc, P m
  | [], _, hnodup, hacc, _ => ⟨hnodup, hacc⟩
  | m :: ms, acc, hnodup, hacc, hms => by
    rw [List.foldl_cons]
    refine foldl_put_settled (nodup_put m hnodup) (fun l hl => ?_)
      fun l hl => hms l (List.mem_cons_of_mem _ hl)
    rcases mem_put hl with rfl | hl
    · exact hms l List.mem_cons_self
    · exact hacc l hl

/-- **The members of an object that is read** have distinct names, and each is one of those that
were written. -/
theorem settle_settled {P : String × Json → Prop} {ms : List (String × Json)}
    (h : ∀ m ∈ ms, P m) : ((settle ms).map Prod.fst).Nodup ∧ ∀ m ∈ settle ms, P m :=
  foldl_put_settled List.nodup_nil (fun _ hm => nomatch hm) h

end Json.Reader

/-! ## 3. Documents -/

namespace Json

section

variable {ρ : Rounding}

mutual

/-- **What is read as a value is a document,** as deep as the reader may go. -/
theorem isDocument_of_readValue : ∀ {fuel depth : Nat} {s rest : List Char} {v : Json},
    readValue ρ fuel depth s = .ok (v, rest) → v.IsDocument Number.InRange depth
  | 0, _, _, _, _, h => by cases h
  | fuel + 1, depth, s, rest, v, h => by
    rw [readValue] at h
    split at h
    · cases h
    split at h
    · obtain ⟨_, _, h⟩ := ok_map_iff.mp h
      cases h
      exact .null
    · obtain ⟨_, _, h⟩ := ok_map_iff.mp h
      cases h
      exact .bool _
    · obtain ⟨_, _, h⟩ := ok_map_iff.mp h
      cases h
      exact .bool _
    · obtain ⟨_, _, h⟩ := ok_map_iff.mp h
      cases h
      exact .string _
    · obtain ⟨_, hn, h⟩ := ok_map_iff.mp h
      cases h
      exact .number (readNumber_inRange hn)
    · split at h
      · cases h
      · split at h
        · cases h
        · cases h
          exact .array nofun
        · obtain ⟨_, hes, h⟩ := ok_map_iff.mp h
          cases h
          exact .array (isDocument_of_readElements hes)
    · split at h
      · cases h
      · split at h
        · cases h
        · cases h
          exact .object List.nodup_nil nofun
        · obtain ⟨_, hms, h⟩ := ok_map_iff.mp h
          cases h
          -- names may be repeated in the text, but each is left once
          have hsettled := settle_settled (isDocument_of_readMembers hms)
          exact .object hsettled.1 hsettled.2
    · split at h
      · obtain ⟨_, hn, h⟩ := ok_map_iff.mp h
        cases h
        exact .number (readNumber_inRange hn)
      · cases h

theorem isDocument_of_readElements : ∀ {fuel depth : Nat} {s rest : List Char} {es : List Json},
    readElements ρ fuel depth s = .ok (es, rest) → ∀ e ∈ es, e.IsDocument Number.InRange depth
  | 0, _, _, _, _, h => by cases h
  | fuel + 1, depth, s, rest, es, h => by
    rw [readElements] at h
    obtain ⟨⟨e, t⟩, he, h⟩ := ok_bind_iff.mp h
    have he := isDocument_of_readValue he
    simp only at h
    split at h
    · cases h
    · cases h
      exact List.forall_mem_singleton.mpr he
    · obtain ⟨u, -, h⟩ := ok_bind_iff.mp h
      obtain ⟨⟨es, t⟩, hes, h⟩ := ok_bind_iff.mp h
      cases h
      exact List.forall_mem_cons.mpr ⟨he, isDocument_of_readElements hes⟩
    · cases h

theorem isDocument_of_readMembers : ∀ {fuel depth : Nat} {s rest : List Char}
    {ms : List (String × Json)},
    readMembers ρ fuel depth s = .ok (ms, rest) → ∀ m ∈ ms, m.2.IsDocument Number.InRange depth
  | 0, _, _, _, _, h => by cases h
  | fuel + 1, depth, s, rest, ms, h => by
    rw [readMembers] at h
    obtain ⟨_, -, h⟩ := ok_bind_iff.mp h
    obtain ⟨⟨k, _⟩, -, h⟩ := ok_bind_iff.mp h
    obtain ⟨_, -, h⟩ := ok_bind_iff.mp h
    obtain ⟨⟨v, t⟩, hv, h⟩ := ok_bind_iff.mp h
    have hv := isDocument_of_readValue hv
    simp only at h
    split at h
    · cases h
    · cases h
      exact List.forall_mem_singleton.mpr hv
    · obtain ⟨u, -, h⟩ := ok_bind_iff.mp h
      obtain ⟨⟨ms, t⟩, hms, h⟩ := ok_bind_iff.mp h
      cases h
      exact List.forall_mem_cons.mpr ⟨hv, isDocument_of_readMembers hms⟩
    · cases h

end

/-- **Every text that is read is read as a document.** -/
theorem isDocument_of_read {text : String} {v : Json} (h : Json.read ρ text = .ok v) :
    v.IsDocument Number.InRange maxDepth := by
  obtain ⟨⟨w, rest⟩, hw, h⟩ := ok_bind_iff.mp h
  simp only at h
  split at h
  · cases h
    exact isDocument_of_readValue hw
  · cases h

end

end Json

/-! ## 4. Other numbers with the same text -/

namespace Json

section

variable {sp : Spacing} {k : Number → Number}

/-- The numbers of a document are written like those that are put in their place. -/
def WrittenAlike (k : Number → Number) (v : Json) : Prop :=
  ∀ n ∈ v.numbers, (k n).toScalar.jsonText = n.toScalar.jsonText

theorem renderElements_renumber : ∀ {es : List Json} {level : Nat},
    (∀ e ∈ es, ∀ level, (e.renumber k).render sp level = e.render sp level) →
    renderElements sp level (es.map (renumber k)) = renderElements sp level es
  | [], _, _ => rfl
  | e :: es, level, h => by
    rw [List.map_cons, renderElements, renderElements, h e List.mem_cons_self,
      renderElements_renumber fun d hd => h d (List.mem_cons_of_mem _ hd)]

theorem renderMembers_renumber : ∀ {ms : List (String × Json)} {level : Nat},
    (∀ m ∈ ms, ∀ level, (m.2.renumber k).render sp level = m.2.render sp level) →
    renderMembers sp level (ms.map fun m => (m.1, m.2.renumber k)) = renderMembers sp level ms
  | [], _, _ => rfl
  | (name, v) :: ms, level, h => by
    have hv := h (name, v) List.mem_cons_self
    rw [List.map_cons, renderMembers, renderMembers, hv,
      renderMembers_renumber fun l hl => h l (List.mem_cons_of_mem _ hl)]

/-- **Other numbers that are written alike** leave the text of a document as it is. -/
theorem render_renumber {v : Json} (hk : WrittenAlike k v) :
    ∀ level, (v.renumber k).render sp level = v.render sp level := by
  induction v with
  | scalar v hv =>
    intro level
    cases v with
    | number n => exact hk n (List.mem_singleton_self n)
    | array _ | object _ => cases hv
    | _ => rfl
  | array es ih =>
    intro level
    have hes : ∀ e ∈ es, ∀ level, (e.renumber k).render sp level = e.render sp level :=
      fun e he => ih e he fun n hn => hk n (mem_numbers_array.mpr ⟨e, he, hn⟩)
    rw [renumber_array]
    cases es with
    | nil => rfl
    | cons e es =>
      rw [List.map_cons, render, render, hes e List.mem_cons_self,
        renderElements_renumber fun d hd => hes d (List.mem_cons_of_mem _ hd)]
  | object ms ih =>
    intro level
    have hms : ∀ m ∈ ms, ∀ level, (m.2.renumber k).render sp level = m.2.render sp level :=
      fun m hm => ih m hm fun n hn => hk n (mem_numbers_object.mpr ⟨m, hm, hn⟩)
    rw [renumber_object]
    cases ms with
    | nil => rfl
    | cons m ms =>
      rw [List.map_cons, render, render, hms m List.mem_cons_self,
        renderMembers_renumber fun l hl => hms l (List.mem_cons_of_mem _ hl)]

end

end Json

/-! ## 5. Documents in the double format -/

/-- The numbers that are left in the double format: finite ones. -/
def Number.IsFiniteReal (n : Number) : Prop := ∃ x : Binary64, n = .real x ∧ x.isFinite = true

theorem Number.InRange.widen {n : Number} (h : n.InRange) : n.widen.IsFiniteReal :=
  ⟨n.toReal, rfl, h.isFinite⟩

/-- The numbers that are left in the double format and are restored by a rounding. -/
def Number.IsRestored (ρ : Rounding) (n : Number) : Prop :=
  ∃ x : Binary64, n = .real x ∧ x.isFinite = true ∧ ρ.Restores x

theorem Number.isRestored_real {ρ : Rounding} {x : Binary64} :
    (real x).IsRestored ρ ↔ x.isFinite = true ∧ ρ.Restores x := by
  constructor
  · rintro ⟨y, hy, h⟩
    cases hy
    exact h
  · exact fun h => ⟨x, rfl, h⟩

instance (ρ : Rounding) : DecidablePred (Number.IsRestored ρ)
  | .integer _ => isFalse fun ⟨_, h, _⟩ => by cases h
  | .real _ => decidable_of_iff _ Number.isRestored_real.symm

/-- The number without a minus sign, if it is a zero. -/
def Number.plainZero : Number → Number
  | .integer n => .integer n
  | .real x => .real x.plainZero

/-- The sign of a zero is not written. -/
theorem Number.jsonText_plainZero (n : Number) :
    n.plainZero.toScalar.jsonText = n.toScalar.jsonText := by
  cases n with
  | integer n => rfl
  | real x => exact x.jsonText_plainZero

/-- The document with the zeros of its numbers unsigned. -/
def Json.plainZeros (v : Json) : Json := v.renumber Number.plainZero

/-- A document is read back in the double format number by number. -/
theorem Json.widen_reread (v : Json) :
    v.reread.widen = v.mapNumbers fun n => n.toReal.reread.widen := by
  rw [widen_eq_mapNumbers, reread, mapNumbers_mapNumbers]
  simp only [← widen_eq_mapNumbers]

namespace Command

variable {ρ : Rounding} {text : String} {d : Json}

/-- **Every text that is read is read as a document,** and its numbers are finite. -/
theorem isDocument_of_readDocument (h : readDocument ρ text = .ok d) :
    d.IsDocument Number.IsFiniteReal maxDepth := by
  unfold readDocument at h
  cases hread : Json.read ρ text with
  | error err =>
    rw [hread] at h
    cases h
  | ok v =>
    rw [hread] at h
    cases h
    rw [Json.widen_eq_mapNumbers]
    exact (Json.isDocument_of_read hread).mapNumbers fun n hn => ⟨_, rfl, hn.widen⟩

/-- **The text of a document in the double format is read,** in every spacing, if the texts of its
numbers are. -/
theorem exists_readDocument_render {sp : Spacing} (hsp : sp.IsBlank) {v : Json}
    (hρ : ρ.AcceptsWritten) (h : v.IsDocument Number.IsFiniteReal maxDepth) :
    ∃ w, readDocument ρ (String.ofList (v.render sp 0)) = .ok w := by
  obtain ⟨w, hw⟩ := Json.exists_read_render hsp h fun n hn => by
    obtain ⟨x, rfl, hx⟩ := h.of_mem_numbers hn
    exact exists_readBack_real hρ hx
  rw [readDocument, hw]
  exact ⟨_, rfl⟩

/-- A document that was read is one of numbers that are restored, if all of its numbers are. -/
theorem isDocument_of_restoredBy (h : readDocument ρ text = .ok d) (hρ : d.RestoredBy ρ) :
    d.IsDocument (Number.IsRestored ρ) maxDepth := by
  have hd := isDocument_of_readDocument h
  refine hd.of_forall_numbers fun n hn => ?_
  have hrestored := hρ n hn
  obtain ⟨x, rfl, hx⟩ := hd.of_mem_numbers hn
  exact ⟨x, rfl, hx, hrestored hx⟩

/-- **What the text of a document is read as** in the double format, in every spacing, if its
numbers are restored. -/
theorem readDocument_render_eq {sp : Spacing} (hsp : sp.IsBlank) {v : Json}
    (h : v.IsDocument Number.IsReal maxDepth) (hρ : v.RestoredBy ρ) :
    readDocument ρ (String.ofList (v.render sp 0)) = .ok v.reread.widen := by
  rw [readDocument, Json.read_render hsp h, Json.readBack_of_restoredBy h hρ]
  rfl

/-- **A document in the double format reads back from its text,** in every spacing, if its numbers
are restored, and is then the same but for the signs of zeros. -/
theorem readDocument_render {sp : Spacing} (hsp : sp.IsBlank) {v : Json}
    (h : v.IsDocument (Number.IsRestored ρ) maxDepth) :
    readDocument ρ (String.ofList (v.render sp 0)) = .ok v.plainZeros := by
  have hreal : v.IsDocument Number.IsReal maxDepth := h.mono fun n hn => by
    obtain ⟨x, rfl, -⟩ := hn
    exact ⟨x, rfl⟩
  have hρ : v.RestoredBy ρ := fun n hn _ => by
    obtain ⟨x, rfl, -, hx⟩ := h.of_mem_numbers hn
    exact hx
  have hwiden : v.reread.widen = v.plainZeros := by
    rw [Json.widen_reread]
    refine h.mapNumbers_congr fun n hn => ?_
    obtain ⟨x, rfl, hx, -⟩ := hn
    exact Binary64.widen_reread hx
  rw [readDocument_render_eq hsp hreal hρ, hwiden]

end Command

end JsonSieve
