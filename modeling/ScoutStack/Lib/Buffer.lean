import ScoutStack.Lib.Machine
import Mathlib.Data.Int.Notation

/-!
# Machines that buffer

What a machine hands out, followed by what it still holds, is what it held and took in, when
every event conserves it.  A machine that also drops things hands out a part, in order.  One
that pays for what it hands out stays within its budget.  What one observation bounds in every
state after it, it bounds in every later observation.
-/

namespace Machine

variable {σ ε τ : Type*} {step : σ → ε → σ} {emits takes : σ → ε → List τ}
  {condition : σ → ε → Prop}

/-- Nothing is lost, doubled or reordered. -/
theorem collect_append_held (held : σ → List τ) (invariant : σ → Prop)
    (preserved : ∀ state event, invariant state → condition state event →
      invariant (step state event))
    (conserves : ∀ state event, invariant state → condition state event →
      emits state event ++ held (step state event) = held state ++ takes state event)
    {start : σ} (initial : invariant start) {events : List ε}
    (throughout : Throughout step condition start events) :
    collect step emits start events ++ held (run step start events) =
      held start ++ collect step takes start events := by
  induction events generalizing start with
  | nil => rw [collect_nil, collect_nil, List.nil_append, List.append_nil, run_nil]
  | cons event events ih =>
      obtain ⟨here, rest⟩ := throughout
      rw [collect_cons, collect_cons, run_cons, List.append_assoc,
        ih (preserved start event initial here) rest, ← List.append_assoc,
        conserves start event initial here, List.append_assoc]

/-- What is dropped leaves the order of the rest. -/
theorem collect_append_held_sublist (held : σ → List τ) (invariant : σ → Prop)
    (preserved : ∀ state event, invariant state → invariant (step state event))
    (conserves : ∀ state event, invariant state →
      (emits state event ++ held (step state event)).Sublist (held state ++ takes state event))
    {start : σ} (initial : invariant start) (events : List ε) :
    (collect step emits start events ++ held (run step start events)).Sublist
      (held start ++ collect step takes start events) := by
  induction events generalizing start with
  | nil =>
      rw [collect_nil, collect_nil, List.nil_append, List.append_nil, run_nil]
  | cons event events ih =>
      have first := (conserves start event initial).append_right
        (collect step takes (step start event) events)
      have others := (ih (preserved start event initial)).append_left (emits start event)
      rw [List.append_assoc, List.append_assoc] at first
      rw [collect_cons, collect_cons, run_cons, List.append_assoc]
      exact others.trans first

/-- What is held comes last. -/
theorem held_suffix (held : σ → List τ)
    (keeps : ∀ state event, held (step state event) <:+ held state ++ takes state event)
    (start : σ) (events : List ε) :
    held (run step start events) <:+ held start ++ collect step takes start events := by
  induction events generalizing start with
  | nil =>
      rw [collect_nil, List.append_nil]
      exact List.suffix_rfl
  | cons event events ih =>
      rw [collect_cons, run_cons, ← List.append_assoc]
      exact (ih _).trans (List.suffix_append_self_iff.mpr (keeps start event))

theorem throughout_true (start : σ) (events : List ε) :
    Throughout step (fun _ _ => True) start events := by
  induction events generalizing start with
  | nil => trivial
  | cons event events ih => exact ⟨trivial, ih _⟩

/-- A condition on events alone. -/
theorem throughout_of_forall_mem {events : List ε}
    (holds : ∀ event ∈ events, ∀ state, condition state event) (start : σ) :
    Throughout step condition start events := by
  induction events generalizing start with
  | nil => trivial
  | cons event events ih =>
      exact ⟨holds event (by simp) start, ih (fun other member => holds other (by simp [member])) _⟩

/-- What is observed has what every observation has. -/
theorem forall_mem_collect {observe : σ → ε → List τ} {property : τ → Prop}
    (holds : ∀ state event, ∀ seen ∈ observe state event, property seen) (start : σ)
    (events : List ε) : ∀ seen ∈ collect step observe start events, property seen := by
  induction events generalizing start with
  | nil => exact fun seen member => absurd member List.not_mem_nil
  | cons event events ih =>
      intro seen member
      rcases List.mem_append.mp member with here | later
      · exact holds start event seen here
      · exact ih _ seen later

theorem flatMap_collect {τ' : Type*} (observe : σ → ε → List τ) (f : τ → List τ') (start : σ)
    (events : List ε) :
    (collect step observe start events).flatMap f =
      collect step (fun state event => (observe state event).flatMap f) start events := by
  induction events generalizing start with
  | nil => rfl
  | cons event events ih => rw [collect_cons, collect_cons, List.flatMap_append, ih]

/-- What is observed of the events alone. -/
theorem collect_eq_flatMap (observe : ε → List τ) (start : σ) (events : List ε) :
    collect step (fun _ event => observe event) start events = events.flatMap observe := by
  induction events generalizing start with
  | nil => rfl
  | cons event events ih => rw [collect_cons, List.flatMap_cons, ih]

/-- Observing less leaves a part, in order. -/
theorem collect_sublist {less : σ → ε → List τ} {start : σ} {events : List ε}
    (part : ∀ state event, condition state event → (less state event).Sublist (emits state event))
    (throughout : Throughout step condition start events) :
    (collect step less start events).Sublist (collect step emits start events) := by
  induction events generalizing start with
  | nil => exact List.Sublist.slnil
  | cons event events ih => exact (part start event throughout.1).append (ih throughout.2)

/-- What is kept from any state on, and fails in the end, never held. -/
theorem throughout_not_of_run {bad : σ → Prop}
    (kept : ∀ state event, bad state → bad (step state event)) {start : σ} {events : List ε}
    (good : ¬bad (run step start events)) :
    Throughout step (fun state _ => ¬bad state) start events := by
  induction events generalizing start with
  | nil => trivial
  | cons event events ih =>
      refine ⟨fun now => good ?_, ih good⟩
      have after : ∀ state events, bad state → bad (run step state events) := by
        intro state events
        induction events generalizing state with
        | nil => exact id
        | cons event events again => exact fun bad => again _ (kept state event bad)
      exact after start (event :: events) now

/-- What is handed out is paid for. -/
theorem length_collect_mul_le (budget : σ → ℤ) (cost : ℤ) (invariant : σ → Prop)
    (preserved : ∀ state event, invariant state → condition state event →
      invariant (step state event))
    (pays : ∀ state event, invariant state → condition state event →
      (emits state event).length * cost + budget (step state event) ≤ budget state)
    (covers : ∀ state, invariant state → 0 ≤ budget state)
    {start : σ} (initial : invariant start) {events : List ε}
    (throughout : Throughout step condition start events) :
    (collect step emits start events).length * cost ≤ budget start := by
  induction events generalizing start with
  | nil => simpa using covers start initial
  | cons event events ih =>
      obtain ⟨here, rest⟩ := throughout
      have first := pays start event initial here
      have others := ih (preserved start event initial here) rest
      rw [collect_cons, List.length_append, Int.natCast_add, Int.add_mul]
      omega

theorem map_collect {τ' : Type*} (observe : σ → ε → List τ) (f : τ → τ') (start : σ)
    (events : List ε) :
    (collect step observe start events).map f =
      collect step (fun state event => (observe state event).map f) start events := by
  induction events generalizing start with
  | nil => rfl
  | cons event events ih => rw [collect_cons, collect_cons, List.map_append, ih]

/-- A run that an observer notes nothing in. -/
theorem throughout_of_collect_eq_nil {observe : σ → ε → List τ} {start : σ} {events : List ε}
    (silent : collect step observe start events = []) :
    Throughout step (fun state event => observe state event = []) start events := by
  induction events generalizing start with
  | nil => trivial
  | cons event events ih =>
      obtain ⟨first, rest⟩ := List.append_eq_nil_iff.mp silent
      exact ⟨first, ih rest⟩

/-! ## Bounds that observations set -/

section Bounds

variable {observe : σ → ε → List τ} (invariant : σ → Prop) (bounds : τ → σ → Prop)
  (before : τ → τ → Prop)

/-- What bounds a state comes before everything that is observed from it. -/
theorem before_of_mem_collect
    (preserved : ∀ state event, invariant state → condition state event →
      invariant (step state event))
    (kept : ∀ mark state event, invariant state → condition state event → bounds mark state →
      bounds mark (step state event))
    (later : ∀ mark state event, invariant state → bounds mark state →
      ∀ next ∈ observe state event, before mark next)
    {start : σ} (initial : invariant start) {mark : τ} (bounded : bounds mark start)
    {events : List ε} (throughout : Throughout step condition start events) :
    (∀ next ∈ collect step observe start events, before mark next) ∧
      bounds mark (run step start events) := by
  induction events generalizing start with
  | nil => exact ⟨fun next member => absurd member List.not_mem_nil, bounded⟩
  | cons event events ih =>
      obtain ⟨here, rest⟩ := throughout
      obtain ⟨others, last⟩ := ih (preserved start event initial here)
        (kept mark start event initial here bounded) rest
      refine ⟨fun next member => ?_, last⟩
      rcases List.mem_append.mp member with now | afterwards
      · exact later mark start event initial bounded next now
      · exact others next afterwards

/-- The observations of a run come in order, and the last state is bounded by all. -/
theorem collect_pairwise
    (preserved : ∀ state event, invariant state → condition state event →
      invariant (step state event))
    (kept : ∀ mark state event, invariant state → condition state event → bounds mark state →
      bounds mark (step state event))
    (later : ∀ mark state event, invariant state → bounds mark state →
      ∀ next ∈ observe state event, before mark next)
    (sets : ∀ state event, invariant state → condition state event →
      (observe state event).Pairwise before ∧
        ∀ mark ∈ observe state event, bounds mark (step state event))
    {start : σ} (initial : invariant start) {events : List ε}
    (throughout : Throughout step condition start events) :
    (collect step observe start events).Pairwise before ∧
      ∀ mark ∈ collect step observe start events, bounds mark (run step start events) := by
  induction events generalizing start with
  | nil => exact ⟨List.Pairwise.nil, fun mark member => absurd member List.not_mem_nil⟩
  | cons event events ih =>
      obtain ⟨here, rest⟩ := throughout
      have next := preserved start event initial here
      obtain ⟨first, marks⟩ := sets start event initial here
      obtain ⟨others, last⟩ := ih next rest
      have after : ∀ mark ∈ observe start event,
          (∀ next ∈ collect step observe (step start event) events, before mark next) ∧
            bounds mark (run step (step start event) events) := fun mark member =>
        before_of_mem_collect invariant bounds before preserved kept later next
          (marks mark member) rest
      constructor
      · rw [collect_cons, List.pairwise_append]
        exact ⟨first, others, fun mark member => (after mark member).1⟩
      · intro mark member
        rcases List.mem_append.mp member with now | afterwards
        · exact (after mark now).2
        · exact last mark afterwards

end Bounds

end Machine
