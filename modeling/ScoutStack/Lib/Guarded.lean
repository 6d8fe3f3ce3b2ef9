import Mathlib.Data.List.Basic
import Mathlib.Tactic.Common

/-!
# Guarded computations and painted arrays

A guarded computation gives one result when a condition holds and one failure when it
does not.  Guarded computations compose, and a loop of guarded steps is guarded by the
conditions of all its steps.  Painting an array gives some places one value and leaves
the others as they are.
-/

universe u v

/-- The computation gives `result` where it is safe and fails elsewhere. -/
structure Guarded {ε : Type u} {α : Type v} (failure : ε) (safe : Prop) (result : α)
    (outcome : Except ε α) : Prop where
  ok : safe → outcome = .ok result
  error : ¬safe → outcome = .error failure

namespace Guarded

variable {ε : Type u} {α β σ : Type v} {failure : ε} {safe : Prop} {result : α} {outcome : Except ε α}

theorem congr {condition : Prop} (guarded : Guarded failure safe result outcome)
    (same : safe ↔ condition) : Guarded failure condition result outcome where
  ok holds := guarded.ok (same.mpr holds)
  error fails := guarded.error fun holds => fails (same.mp holds)

protected theorem pure (value : α) :
    Guarded failure True value (Pure.pure value : Except ε α) where
  ok _ := rfl
  error fails := absurd trivial fails

protected theorem bind {next : α → Except ε β} {nextSafe : Prop} {nextResult : β}
    (first : Guarded failure safe result outcome)
    (second : safe → Guarded failure nextSafe nextResult (next result)) :
    Guarded failure (safe ∧ nextSafe) nextResult (outcome >>= next) where
  ok holds := by
    rw [first.ok holds.1]
    exact (second holds.1).ok holds.2
  error fails := by
    by_cases defined : safe
    · rw [first.ok defined]
      exact (second defined).error fun holds => fails ⟨defined, holds⟩
    · rw [first.error defined]
      rfl

/-- A branch of a guarded computation. -/
protected theorem ite {condition : Prop} [Decidable condition] {left right : Except ε α}
    {leftSafe rightSafe : Prop} {leftResult rightResult : α}
    (first : condition → Guarded failure leftSafe leftResult left)
    (second : ¬condition → Guarded failure rightSafe rightResult right) :
    Guarded failure ((condition → leftSafe) ∧ (¬condition → rightSafe))
      (if condition then leftResult else rightResult) (if condition then left else right) := by
  by_cases holds : condition
  · simp only [if_pos holds]
    exact (first holds).congr (by simp [holds])
  · simp only [if_neg holds]
    exact (second holds).congr (by simp [holds])

/-- A loop is safe where each of its steps is, as long as the invariant lets the guard of
a step depend on the item alone. -/
protected theorem foldlM {body : σ → α → Except ε σ} {step : σ → α → σ} {safe : α → Prop}
    (Invariant : σ → Prop) {items : List α}
    (spec : ∀ state, Invariant state → ∀ item ∈ items,
      Guarded failure (safe item) (step state item) (body state item))
    (keeps : ∀ state item, Invariant state → Invariant (step state item))
    {state : σ} (start : Invariant state) :
    Guarded failure (∀ item ∈ items, safe item) (items.foldl step state)
      (items.foldlM body state) := by
  induction items generalizing state with
  | nil => exact (Guarded.pure state).congr (by simp)
  | cons item items ih =>
      rw [List.foldlM_cons, List.foldl_cons]
      apply Guarded.congr _ List.forall_mem_cons.symm
      apply Guarded.bind (spec state start item List.mem_cons_self)
      intro _
      apply ih _ (keeps state item start)
      intro state holds item member
      exact spec state holds item (List.mem_cons_of_mem _ member)

protected theorem mapM {body : α → Except ε β} {value : α → β} {safe : α → Prop}
    {items : List α}
    (spec : ∀ item ∈ items, Guarded failure (safe item) (value item) (body item)) :
    Guarded failure (∀ item ∈ items, safe item) (items.map value) (items.mapM body) := by
  induction items with
  | nil => exact (Guarded.pure []).congr (by simp)
  | cons item items ih =>
      have first := spec item List.mem_cons_self
      have rest := ih fun item member => spec item (List.mem_cons_of_mem _ member)
      rw [List.mapM_cons, List.map_cons]
      constructor
      · intro holds
        have all := List.forall_mem_cons.mp holds
        rw [first.ok all.1, rest.ok all.2]
        rfl
      · intro fails
        by_cases now : safe item
        · have later : ¬∀ item ∈ items, safe item := fun holds =>
            fails (List.forall_mem_cons.mpr ⟨now, holds⟩)
          rw [first.ok now, rest.error later]
          rfl
        · rw [first.error now]
          rfl

end Guarded

/-- A computation that ends in a value with the property, or in an allowed failure. -/
def Meets {ε : Type u} {α : Type v} (allowed : ε → Prop) (after : α → Prop) :
    Except ε α → Prop
  | .ok value => after value
  | .error failure => allowed failure

/-- What follows a guard: the rest where it is safe, and `otherwise` elsewhere. -/
def Ensures (otherwise safe rest : Prop) : Prop := (safe → rest) ∧ (¬safe → otherwise)

section Meets

variable {ε : Type u} {α β : Type v} {allowed : ε → Prop}

theorem meets_bind {after : β → Prop} {first : Except ε α} {next : α → Except ε β} :
    Meets allowed after (first >>= next) ↔
      Meets allowed (fun value => Meets allowed after (next value)) first := by
  cases first <;> rfl

theorem Guarded.meets {failure : ε} {safe : Prop} {result : α} {outcome : Except ε α}
    (guarded : Guarded failure safe result outcome) {after : α → Prop} :
    Meets allowed after outcome ↔ Ensures (allowed failure) safe (after result) := by
  by_cases defined : safe
  · simp [guarded.ok defined, Meets, Ensures, defined]
  · simp [guarded.error defined, Meets, Ensures, defined]

theorem ensures_congr {otherwise safe rest rest' : Prop} (same : safe → (rest ↔ rest')) :
    Ensures otherwise safe rest ↔ Ensures otherwise safe rest' := by
  rw [Ensures, Ensures, imp_congr_right same]

/-- Where the failure is allowed, only safe computations matter. -/
theorem ensures_true {safe rest : Prop} : Ensures True safe rest ↔ (safe → rest) := by
  simp [Ensures]

/-- Where the failure is not allowed, the computation has to be safe. -/
theorem ensures_false {safe rest : Prop} : Ensures False safe rest ↔ safe ∧ rest := by
  by_cases defined : safe <;> simp [Ensures, defined]

end Meets

/-- The places that satisfy `marked` have received `value`; the others are as before. -/
structure Painted {α : Type*} (value : α) (marked : ℕ → Prop) (before after : List α) : Prop where
  length : after.length = before.length
  inside : ∀ i < before.length, marked i → after[i]? = some value
  outside : ∀ i, ¬marked i → after[i]? = before[i]?

namespace Painted

variable {α β : Type*} {value : α}

protected theorem refl (cells : List α) : Painted value (fun _ => False) cells cells where
  length := rfl
  inside _ _ impossible := impossible.elim
  outside _ _ := rfl

protected theorem set (cells : List α) (place : ℕ) :
    Painted value (fun i => i = place) cells (cells.set place value) where
  length := List.length_set
  inside i bound same := by
    subst same
    simp [bound]
  outside i other := List.getElem?_set_ne (Ne.symm other)

theorem congr {marked condition : ℕ → Prop} {before after : List α}
    (painted : Painted value marked before after) (same : ∀ i, marked i ↔ condition i) :
    Painted value condition before after where
  length := painted.length
  inside i bound holds := painted.inside i bound ((same i).mpr holds)
  outside i fails := painted.outside i fun holds => fails ((same i).mp holds)

/-- A branch that paints or leaves the array alone. -/
protected theorem ite {condition : Prop} [Decidable condition] {marked : ℕ → Prop}
    {before after : List α} (painted : condition → Painted value marked before after) :
    Painted value (fun i => condition ∧ marked i) before
      (if condition then after else before) := by
  by_cases holds : condition
  · rw [if_pos holds]
    exact (painted holds).congr (by simp [holds])
  · rw [if_neg holds]
    exact (Painted.refl before).congr (by simp [holds])

/-- A loop paints what one of its steps paints. -/
protected theorem foldl {step : List α → β → List α} {marked : β → ℕ → Prop} {items : List β}
    (spec : ∀ cells, ∀ item ∈ items, Painted value (marked item) cells (step cells item))
    (cells : List α) :
    Painted value (fun i => ∃ item ∈ items, marked item i) cells (items.foldl step cells) := by
  induction items generalizing cells with
  | nil => exact (Painted.refl cells).congr (by simp)
  | cons item items ih =>
      have first := spec cells item List.mem_cons_self
      have rest := ih (fun cells item member => spec cells item (List.mem_cons_of_mem _ member))
        (step cells item)
      rw [List.foldl_cons]
      constructor
      · exact rest.length.trans first.length
      · intro i bound holds
        by_cases later : ∃ item ∈ items, marked item i
        · exact rest.inside i (first.length ▸ bound) later
        · rw [rest.outside i later]
          apply first.inside i bound
          rcases (List.exists_mem_cons_iff ..).mp holds with now | other
          · exact now
          · exact absurd other later
      · intro i fails
        have now : ¬marked item i := fun holds => fails ⟨item, List.mem_cons_self, holds⟩
        have later : ¬∃ item ∈ items, marked item i := fun holds =>
          fails ((List.exists_mem_cons_iff ..).mpr (.inr holds))
        rw [rest.outside i later, first.outside i now]

end Painted
