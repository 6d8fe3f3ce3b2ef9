import Mathlib.Data.List.Forall2
import Mathlib.Data.List.Induction

/-!
# Deterministic event machines

A machine is a step function that absorbs one event.  `run` is the state after
a list of events and `collect` gathers what an observer notes at every event,
given the state that the event meets.  Two-machine simulations and the removal of
silent events are each proved once, by induction on the run, and so are invariants and
what a run remembers of its observations.
-/

namespace Machine

variable {σ σ' ε τ τ' : Type*}

/-- State after absorbing the events in order. -/
def run (step : σ → ε → σ) (start : σ) (events : List ε) : σ :=
  events.foldl step start

/-- Observations made along a run, in order. -/
def collect (step : σ → ε → σ) (observe : σ → ε → List τ) : σ → List ε → List τ
  | _, [] => []
  | state, event :: events =>
      observe state event ++ collect step observe (step state event) events

section Run

variable (step : σ → ε → σ) (observe : σ → ε → List τ)

@[simp] theorem run_nil (start : σ) : run step start [] = start := rfl

@[simp] theorem run_cons (start : σ) (event : ε) (events : List ε) :
    run step start (event :: events) = run step (step start event) events := rfl

@[simp] theorem run_append (start : σ) (first second : List ε) :
    run step start (first ++ second) = run step (run step start first) second :=
  List.foldl_append

@[simp] theorem collect_nil (start : σ) : collect step observe start [] = [] := rfl

@[simp] theorem collect_cons (start : σ) (event : ε) (events : List ε) :
    collect step observe start (event :: events) =
      observe start event ++ collect step observe (step start event) events := rfl

@[simp] theorem collect_append (start : σ) (first second : List ε) :
    collect step observe start (first ++ second) =
      collect step observe start first ++
        collect step observe (run step start first) second := by
  induction first generalizing start with
  | nil => rfl
  | cons event events ih => simp [ih]

/-- Dropping observations is observing less. -/
theorem filter_collect (keep : τ → Bool) (start : σ) (events : List ε) :
    (collect step observe start events).filter keep =
      collect step (fun state event => (observe state event).filter keep) start events := by
  induction events generalizing start with
  | nil => rfl
  | cons event events ih => rw [collect_cons, collect_cons, List.filter_append, ih]

/-- What every event sets to its last observation, or leaves as it is, is the last
observation of a run. -/
theorem run_eq_getLast? {α : Type*} (field : σ → α) (note : τ → α)
    (follows : ∀ state event,
      field (step state event) = ((observe state event).getLast?.map note).getD (field state))
    (start : σ) (events : List ε) :
    field (run step start events) =
      ((collect step observe start events).getLast?.map note).getD (field start) := by
  induction events generalizing start with
  | nil => rfl
  | cons event events ih =>
      rw [run_cons, ih, follows, collect_cons, List.getLast?_append]
      cases (collect step observe (step start event) events).getLast? <;> rfl

/-- A run without observations leaves it as it is. -/
theorem run_eq_of_collect_eq_nil {α : Type*} (field : σ → α)
    (follows : ∀ state event, observe state event = [] → field (step state event) = field state)
    {start : σ} {events : List ε} (silent : collect step observe start events = []) :
    field (run step start events) = field start := by
  induction events generalizing start with
  | nil => rfl
  | cons event events ih =>
      obtain ⟨first, rest⟩ := List.append_eq_nil_iff.mp silent
      rw [run_cons, ih rest, follows start event first]

end Run

/-! ## Invariants -/

section Invariant

/-- Every event of a run meets a condition on the state that it finds. -/
def Throughout (step : σ → ε → σ) (condition : σ → ε → Prop) : σ → List ε → Prop
  | _, [] => True
  | state, event :: events =>
      condition state event ∧ Throughout step condition (step state event) events

variable {step : σ → ε → σ} {condition : σ → ε → Prop} {invariant : σ → Prop}

/-- What every event that meets the condition preserves holds in every state of a run. -/
theorem invariant_run
    (preserved : ∀ state event, invariant state → condition state event →
      invariant (step state event))
    {start : σ} (initial : invariant start) {events : List ε}
    (throughout : Throughout step condition start events) {front : List ε}
    (reached : front <+: events) : invariant (run step start front) := by
  induction front generalizing start events with
  | nil => exact initial
  | cons event front ih =>
      cases events with
      | nil => simp at reached
      | cons first events =>
          obtain ⟨rfl, rest⟩ := List.cons_prefix_cons.mp reached
          exact ih (preserved start event initial throughout.1) throughout.2 rest

end Invariant

/-! ## Two machines -/

section Simulation

/-- Every event that two machines absorb side by side meets a condition on the
states that it finds them in. -/
def Along (step : σ → ε → σ) (step' : σ' → ε → σ') (condition : σ → σ' → ε → Prop) :
    σ → σ' → List ε → Prop
  | _, _, [] => True
  | left, right, event :: events =>
      condition left right event ∧
        Along step step' condition (step left event) (step' right event) events

variable {step : σ → ε → σ} {step' : σ' → ε → σ'} {condition : σ → σ' → ε → Prop}
  {related : σ → σ' → Prop}

instance decidableAlong [∀ left right event, Decidable (condition left right event)] :
    ∀ left right events, Decidable (Along step step' condition left right events)
  | _, _, [] => isTrue trivial
  | left, right, event :: events =>
      have := decidableAlong (step left event) (step' right event) events
      inferInstanceAs (Decidable (_ ∧ _))

theorem along_append {left : σ} {right : σ'} {first second : List ε} :
    Along step step' condition left right (first ++ second) ↔
      Along step step' condition left right first ∧
        Along step step' condition (run step left first) (run step' right first) second := by
  induction first generalizing left right with
  | nil => simp [Along]
  | cons event events ih =>
      rw [List.cons_append, Along, Along, ih, and_assoc]
      rfl

theorem along_of_forall (holds : ∀ left right event, condition left right event)
    (left : σ) (right : σ') (events : List ε) :
    Along step step' condition left right events := by
  induction events generalizing left right with
  | nil => trivial
  | cons event events ih => exact ⟨holds left right event, ih _ _⟩

/-- Two machines whose observations match at every event that meets the condition
have matching observations over a run whose events all meet it. -/
theorem collect_related
    {observe : σ → ε → List τ} {observe' : σ' → ε → List τ'} {matching : τ → τ' → Prop}
    (preserved : ∀ left right event, condition left right event → related left right →
      related (step left event) (step' right event))
    (observed : ∀ left right event, condition left right event → related left right →
      List.Forall₂ matching (observe left event) (observe' right event))
    {left : σ} {right : σ'} (initial : related left right) {events : List ε}
    (along : Along step step' condition left right events) :
    List.Forall₂ matching (collect step observe left events)
      (collect step' observe' right events) := by
  induction events generalizing left right with
  | nil => exact .nil
  | cons event events ih =>
      apply List.rel_append
      · exact observed left right event along.1 initial
      · exact ih (preserved left right event along.1 initial) along.2

end Simulation

/-! ## Silent events -/

section Silent

variable {step : σ → ε → σ} {step' : σ' → ε → σ'} {loud : ε → Bool} {related : σ → σ' → Prop}

/-- An observer who notes nothing at silent events cannot tell whether they occur. -/
theorem collect_filter_eq {observe : σ → ε → List τ} {observe' : σ' → ε → List τ}
    (silent : ∀ left right event, loud event = false → related left right →
      related (step left event) right)
    (kept : ∀ left right event, loud event = true → related left right →
      related (step left event) (step' right event))
    (unseen : ∀ left event, loud event = false → observe left event = [])
    (observed : ∀ left right event, loud event = true → related left right →
      observe left event = observe' right event)
    {left : σ} {right : σ'} (initial : related left right) (events : List ε) :
    collect step observe left events = collect step' observe' right (events.filter loud) := by
  induction events generalizing left right with
  | nil => rfl
  | cons event events ih =>
      cases isLoud : loud event with
      | true =>
          rw [List.filter_cons_of_pos isLoud, collect_cons, collect_cons,
            observed left right event isLoud initial,
            ih (kept left right event isLoud initial)]
      | false =>
          rw [List.filter_cons_of_neg (by simp [isLoud]), collect_cons,
            unseen left event isLoud, ih (silent left right event isLoud initial)]
          rfl

end Silent

end Machine
