/-
# Success and failure, step by step

When a computation that may fail has succeeded: each of its steps has (`ok_bind_iff`), and a list of
computations has succeeded when every one of them has, the results being the list of theirs
(`mapM_eq_ok_iff`).  When it has failed, the error is that of the first computation that has one
(`failure?_mapM`).
-/
import Mathlib.Data.List.Forall2

namespace JsonSieve

/-! ## 1. One step -/

section

variable {ε α β : Type}

theorem ok_bind_iff {x : Except ε α} {f : α → Except ε β} {b : β} :
    x >>= f = .ok b ↔ ∃ a, x = .ok a ∧ f a = .ok b := by
  cases x with
  | error err => simp [bind, Except.bind]
  | ok a => simp [bind, Except.bind]

theorem ok_map_iff {x : Except ε α} {f : α → β} {b : β} :
    x.map f = .ok b ↔ ∃ a, x = .ok a ∧ f a = b := by
  cases x with
  | error err => simp [Except.map]
  | ok a => simp [Except.map]

theorem ok_mapError_iff {δ : Type} {x : Except ε α} {f : ε → δ} {a : α} :
    x.mapError f = .ok a ↔ x = .ok a := by
  cases x with
  | error err => exact ⟨nofun, nofun⟩
  | ok b =>
    constructor <;>
    · intro h
      cases h
      rfl

end

/-! ## 2. Lists, element by element -/

section

variable {m : Type → Type} [Monad m] [LawfulMonad m] {α β γ : Type}

/-- Changing every result is changing the list of results. -/
theorem mapM_map_result (f : α → m β) (h : β → γ) : ∀ as : List α,
    (as.mapM fun a => h <$> f a) = List.map h <$> as.mapM f
  | [] => by simp
  | a :: as => by simp [mapM_map_result f h as]

/-- Lists that come of the elements may be gone through one by one. -/
theorem mapM_flatMap (f : β → m γ) (h : α → List β) : ∀ as : List α,
    (as.flatMap h).mapM f = List.flatten <$> as.mapM fun a => (h a).mapM f
  | [] => by simp
  | a :: as => by simp [mapM_flatMap f h as]

theorem mapM_congr_mem {f g : α → m β} : ∀ {as : List α}, (∀ a ∈ as, f a = g a) →
    as.mapM f = as.mapM g
  | [], _ => rfl
  | a :: as, h => by
    rw [List.mapM_cons, List.mapM_cons, h a List.mem_cons_self,
      mapM_congr_mem fun b hb => h b (List.mem_cons_of_mem _ hb)]

end

section

variable {ε α β : Type} {f : α → Except ε β}

theorem mapM_cons_eq_ok {a : α} {as : List α} {bs : List β} :
    (a :: as).mapM f = .ok bs ↔ ∃ b cs, f a = .ok b ∧ as.mapM f = .ok cs ∧ bs = b :: cs := by
  rw [List.mapM_cons]
  simp only [ok_bind_iff]
  constructor
  · rintro ⟨b, hb, cs, hcs, h⟩
    cases h
    exact ⟨b, cs, hb, hcs, rfl⟩
  · rintro ⟨b, cs, hb, hcs, rfl⟩
    exact ⟨b, hb, cs, hcs, rfl⟩

/-- Every result is the result of some element. -/
theorem exists_of_mem_mapM : ∀ {as : List α} {bs : List β}, as.mapM f = .ok bs →
    ∀ b ∈ bs, ∃ a ∈ as, f a = .ok b
  | [], _, h => by
    cases h
    exact List.forall_mem_nil _
  | a :: as, bs, h => by
    obtain ⟨c, cs, hc, hcs, rfl⟩ := mapM_cons_eq_ok.mp h
    intro b hb
    rcases List.mem_cons.mp hb with rfl | hb
    · exact ⟨a, List.mem_cons_self, hc⟩
    · obtain ⟨d, hd, hfd⟩ := exists_of_mem_mapM hcs b hb
      exact ⟨d, List.mem_cons_of_mem _ hd, hfd⟩

/-- Every element has a result. -/
theorem exists_of_mem_of_mapM : ∀ {as : List α} {bs : List β}, as.mapM f = .ok bs →
    ∀ a ∈ as, ∃ b ∈ bs, f a = .ok b
  | [], _, _ => List.forall_mem_nil _
  | a :: as, bs, h => by
    obtain ⟨c, cs, hc, hcs, rfl⟩ := mapM_cons_eq_ok.mp h
    intro d hd
    rcases List.mem_cons.mp hd with rfl | hd
    · exact ⟨c, List.mem_cons_self, hc⟩
    · obtain ⟨b, hb, hfd⟩ := exists_of_mem_of_mapM hcs d hd
      exact ⟨b, List.mem_cons_of_mem _ hb, hfd⟩

theorem mapM_eq_map {g : α → β} : ∀ {as : List α}, (∀ a ∈ as, f a = .ok (g a)) →
    as.mapM f = .ok (as.map g)
  | [], _ => rfl
  | a :: as, h => mapM_cons_eq_ok.mpr ⟨g a, as.map g, h a List.mem_cons_self,
      mapM_eq_map fun b hb => h b (List.mem_cons_of_mem _ hb), rfl⟩

end

/-- **A list of computations succeeds** when each of them does, with the results in their places. -/
theorem mapM_eq_ok_iff {ε α β : Type} {f : α → Except ε β} {as : List α} : ∀ {bs : List β},
    as.mapM f = .ok bs ↔ List.Forall₂ (fun a b => f a = .ok b) as bs := by
  induction as with
  | nil =>
    intro bs
    rw [List.forall₂_nil_left_iff]
    exact ⟨fun h => by cases h; rfl, fun h => h ▸ rfl⟩
  | cons a as ih =>
    intro bs
    simp only [mapM_cons_eq_ok, ih, List.forall₂_cons_left_iff]

/-- Lists of computations that come to the same, one by one, come to the same. -/
theorem mapM_congr_forall₂ {ε α β γ : Type} {f : α → Except ε γ} {g : β → Except ε γ}
    {as : List α} {bs : List β} (h : List.Forall₂ (fun a b => f a = g b) as bs) :
    as.mapM f = bs.mapM g := by
  induction h with
  | nil => rfl
  | cons hab _ ih => rw [List.mapM_cons, List.mapM_cons, hab, ih]

/-- If every element has a partner from which its result comes as well, then the results come from a
list of partners. -/
theorem exists_forall₂_of_mapM {ε α β γ : Type} {f : α → Except ε γ} {g : β → Except ε γ}
    {R : α → β → Prop} : ∀ {as : List α} {cs : List γ},
      (∀ a ∈ as, ∀ {c}, f a = .ok c → ∃ b, R a b ∧ g b = .ok c) → as.mapM f = .ok cs →
        ∃ bs, List.Forall₂ R as bs ∧ bs.mapM g = .ok cs
  | [], _, _, h => ⟨[], .nil, h⟩
  | a :: as, _, hpartner, h => by
    obtain ⟨c, cs, hc, hcs, rfl⟩ := mapM_cons_eq_ok.mp h
    obtain ⟨b, hab, hb⟩ := hpartner a List.mem_cons_self hc
    obtain ⟨bs, hbs, hresults⟩ :=
      exists_forall₂_of_mapM (fun d hd => hpartner d (List.mem_cons_of_mem _ hd)) hcs
    exact ⟨b :: bs, .cons hab hbs, mapM_cons_eq_ok.mpr ⟨c, cs, hb, hresults, rfl⟩⟩

/-- Optional results are there together when each of them is. -/
theorem mapM_eq_some_iff {α β : Type} {f : α → Option β} : ∀ {as : List α} {bs : List β},
    as.mapM f = some bs ↔ as.map f = bs.map some
  | [], bs => by cases bs <;> simp
  | a :: as, bs => by
    rw [List.mapM_cons, List.map_cons]
    cases f a with
    | none => cases bs <;> simp
    | some b =>
      cases bs with
      | nil => simp [Option.bind_eq_some_iff]
      | cons c cs =>
        simp only [List.map_cons, List.cons.injEq, ← mapM_eq_some_iff]
        cases as.mapM f <;> simp

/-- Each element then has one of the results. -/
theorem exists_of_mem_of_map_eq {α β : Type} {f : α → Option β} {as : List α} {bs : List β}
    (h : as.map f = bs.map some) {a : α} (ha : a ∈ as) : ∃ b ∈ bs, f a = some b := by
  have hmem : f a ∈ bs.map some := h ▸ List.mem_map_of_mem ha
  obtain ⟨b, hb, heq⟩ := List.mem_map.mp hmem
  exact ⟨b, hb, heq.symm⟩

/-! ## 3. Failure -/

section

variable {ε α β : Type}

/-- The error of a computation that has failed. -/
def failure? : Except ε α → Option ε
  | .error err => some err
  | .ok _ => none

theorem failure?_eq_some_iff {x : Except ε α} {err : ε} :
    failure? x = some err ↔ x = .error err := by
  cases x <;> simp [failure?]

@[simp] theorem failure?_map (f : α → β) (x : Except ε α) : failure? (x.map f) = failure? x := by
  cases x <;> rfl

/-- **A list of computations fails** with the first error among them. -/
theorem failure?_mapM (f : α → Except ε β) : ∀ as : List α,
    failure? (as.mapM f) = as.findSome? fun a => failure? (f a)
  | [] => rfl
  | a :: as => by
    rw [List.mapM_cons, List.findSome?_cons, ← failure?_mapM f as]
    cases f a with
    | error err => rfl
    | ok b => cases as.mapM f <;> rfl

end

end JsonSieve
