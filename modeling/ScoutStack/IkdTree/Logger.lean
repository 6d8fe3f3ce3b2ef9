import ScoutStack.Lib.Ring

/-!
# The log of a rebuild

`MANUAL_Q` is the ring in which the first thread logs what it does to the tree that is being
rebuilt, and from which the other thread redoes it.  Nothing checks that the ring is full, so
it is a queue only as long as no more is pending than it has cells.
-/

namespace ScoutStack.IkdTree

/-- `Q_LEN`. -/
def qLen : ℕ := 1000000

/-- `MANUAL_Q`. -/
structure ManualQ (Op : Type*) where
  head : ℕ
  tail : ℕ
  counter : ℕ
  q : ℕ → Op
  isEmpty : Bool

namespace ManualQ

variable {Op : Type*} (queue : ManualQ Op)

def pop : ManualQ Op :=
  if queue.counter = 0 then queue
  else
    { queue with
      head := (queue.head + 1) % qLen
      counter := queue.counter - 1
      isEmpty := if queue.counter - 1 = 0 then true else queue.isEmpty }

def front : Op := queue.q queue.head

def clear : ManualQ Op :=
  { queue with
    head := 0
    tail := 0
    counter := 0
    isEmpty := true }

def push (op : Op) : ManualQ Op :=
  { queue with
    q := Function.update queue.q queue.tail op
    counter := queue.counter + 1
    isEmpty := false
    tail := (queue.tail + 1) % qLen }

def empty : Bool := queue.isEmpty

def size : ℕ := queue.counter

/-- What is pending, oldest first. -/
structure Holds (contents : List Op) : Prop where
  length_le : contents.length ≤ qLen
  head_lt : queue.head < qLen
  tail_eq : queue.tail = (queue.head + contents.length) % qLen
  counter_eq : queue.counter = contents.length
  isEmpty_eq : queue.isEmpty = contents.isEmpty
  view_eq : CellRing.view queue.q qLen queue.head contents.length = contents

variable {queue} {contents : List Op} {op : Op}

theorem holds_clear : Holds queue.clear [] where
  length_le := Nat.zero_le _
  head_lt := by simp [clear, qLen]
  tail_eq := by simp [clear]
  counter_eq := rfl
  isEmpty_eq := rfl
  view_eq := rfl

theorem Holds.empty_iff (holds : Holds queue contents) : queue.empty = true ↔ contents = [] := by
  rw [empty, holds.isEmpty_eq, List.isEmpty_iff]

theorem Holds.front_eq (holds : Holds queue (op :: contents)) : queue.front = op := by
  have view := holds.view_eq
  rw [List.length_cons, CellRing.view_succ_first, Nat.mod_eq_of_lt holds.head_lt] at view
  exact (List.cons.inj view).1

/-- What is pending begins with the front. -/
theorem Holds.exists_front (holds : Holds queue contents) (pending : queue.empty = false) :
    ∃ rest, contents = queue.front :: rest := by
  cases contents with
  | nil =>
      rw [holds.empty_iff.mpr rfl] at pending
      contradiction
  | cons op rest => exact ⟨rest, by rw [holds.front_eq]⟩

/-- A push into a ring that is not full comes last. -/
theorem Holds.push (holds : Holds queue contents) (room : queue.size < qLen) (op : Op) :
    Holds (queue.push op) (contents ++ [op]) where
  length_le := by
    rw [List.length_append, List.length_singleton, ← holds.counter_eq]
    exact room
  head_lt := holds.head_lt
  tail_eq := by
    simp [ManualQ.push, holds.tail_eq, Nat.add_assoc]
  counter_eq := by
    simp [ManualQ.push, holds.counter_eq]
  isEmpty_eq := by
    simp [ManualQ.push]
  view_eq := by
    have free : contents.length < qLen := holds.counter_eq ▸ room
    rw [List.length_append, List.length_singleton, CellRing.view_succ_last]
    simp only [ManualQ.push, holds.tail_eq, CellRing.view_update free, holds.view_eq,
      Function.update_self]

/-- A pop takes the oldest. -/
theorem Holds.pop (holds : Holds queue (op :: contents)) : Holds queue.pop contents := by
  have some_ : queue.counter ≠ 0 := by simp [holds.counter_eq]
  have rest : queue.counter - 1 = contents.length := by simp [holds.counter_eq]
  rw [ManualQ.pop, if_neg some_]
  refine ⟨Nat.le_of_succ_le holds.length_le, Nat.mod_lt _ (by decide), ?_, rest, ?_, ?_⟩
  · simp [holds.tail_eq, Nat.add_assoc, Nat.add_comm 1]
  · cases contents with
    | nil => simp [rest]
    | cons next contents => simp [rest, holds.isEmpty_eq]
  · have view := holds.view_eq
    rw [List.length_cons, CellRing.view_succ_first] at view
    rw [CellRing.view_mod]
    exact (List.cons.inj view).2

end ManualQ

end ScoutStack.IkdTree
