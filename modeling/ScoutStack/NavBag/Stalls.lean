import ScoutStack.Lib.Bisect
import ScoutStack.NavBag.Records
import Mathlib.Data.List.Chain
import Mathlib.Order.Bounds.Image
import Mathlib.Tactic.Linarith

/-!
# Stalls

The longest time without a motion command while a goal is active, and the longest time
with empty local plans.  Both loops of `analyze_nav_bag.py` carry the start of a stall and
the time before; they measure the longest window of rows that belong together.
-/

namespace ScoutStack.NavBag

open Bisect Compares

variable {K : Type} [Field K] [LinearOrder K] {β : Type}

/-! ## The loops -/

/-- `active_at`. -/
def activeAt (statusRows : List (StatusRow K)) (ts : K) : Bool :=
  if statusRows.isEmpty then false
  else
    let i : ℤ := bisectRight (statusRows.map Prod.fst) ts - 1
    0 ≤ i && statusRows[i.toNat]?.elim false fun row => row.2.1

/-- `abs(v) < 0.01`. -/
def isZero (v : Double K) : Bool := Double.less v.abs (.finite (1 / 100))

/-- The longest stall, the start of the current one, and `prev_t`. -/
structure Stall (K : Type) [Zero K] where
  longest : K := 0
  start : Option K := none
  prevT : Option K := none

/-- The body of both loops, for a row that is part of a stall or not. -/
def Stall.next (stall : Stall K) (stalled : Bool) (ts : K) : Stall K :=
  if stalled then
    let start :=
      match stall.start with
      | none => ts
      | some start => if stall.prevT.elim false fun prevT => 30 / 100 < ts - prevT then ts else start
    { longest := max stall.longest (ts - start), start := some start, prevT := some ts }
  else { stall with start := none, prevT := some ts }

/-- Both loops, for the rows of a stall. -/
def scanStalls (stalled : K × β → Bool) (rows : List (K × β)) : Stall K :=
  rows.foldl (fun stall row => stall.next (stalled row) row.1) {}

/-- `max_active_zero_cmd_sec`. -/
def maxActiveZeroCmdSec (statusRows : List (StatusRow K)) (cmd : List (TwistRow K)) : K :=
  (scanStalls
    (fun (ts, vx, wz) => isZero vx && isZero wz && activeAt statusRows ts) cmd).longest

/-- `max_empty_local_plan_sec`. -/
def maxEmptyLocalPlanSec (localPlan : List (LocalPlanRow K)) : K :=
  (scanStalls (fun (_, _, n, _) => n == 0) localPlan).longest

/-! ## What they measure -/

/-- The last status row that is not after the time exists and is active. -/
def IsActive (statusRows : List (StatusRow K)) (ts : K) : Prop :=
  ∃ front row back, statusRows = front ++ row :: back ∧ row.1 ≤ ts ∧
    (∀ later ∈ back, ts < later.1) ∧ row.2.1 = true

/-- Rows of a stall, each at most 0.3 seconds after the one before it. -/
structure IsStall (stalled : K × β → Prop) (window : List (K × β)) : Prop where
  all : ∀ row ∈ window, stalled row
  close : window.IsChain fun earlier later => later.1 - earlier.1 ≤ 30 / 100

/-- The time from the first to the last row of a window. -/
def Spans (window : List (K × β)) (seconds : K) : Prop :=
  ∃ first last, window.head? = some first ∧ window.getLast? = some last ∧
    seconds = last.1 - first.1

/-- The times that the windows of stalled rows span. -/
def stallTimes (stalled : K × β → Prop) (rows : List (K × β)) : Set K :=
  {seconds | ∃ window, window <:+: rows ∧ IsStall stalled window ∧ Spans window seconds}

/-- The greatest of the times, zero if there is none. -/
def IsLongest (times : Set K) (seconds : K) : Prop :=
  (times.Nonempty → IsGreatest times seconds) ∧ (times = ∅ → seconds = 0)

/-! ## Activity -/

section Activity

variable {statusRows : List (StatusRow K)} {ts : K}
  (ordered : statusRows.Pairwise fun a b => a.1 ≤ b.1)

include ordered

omit [Field K] in
/-- Bisection to the right ends after the last status row that is not after the time. -/
theorem bisectRight_eq {front back : List (StatusRow K)} {row : StatusRow K}
    (shape : statusRows = front ++ row :: back) (before : row.1 ≤ ts)
    (after : ∀ later ∈ back, ts < later.1) :
    bisectRight (statusRows.map Prod.fst) ts = front.length + 1 := by
  have found : statusRows[front.length]? = some row := by simp [shape]
  have above := (lt_bisectRight_map_iff ordered found).mpr before
  cases back with
  | nil =>
      have inside := bisectRight_map_le_length ordered ts
      have size : statusRows.length = front.length + 1 := by simp [shape]
      omega
  | cons later back =>
      have next : statusRows[front.length + 1]? = some later := by simp [shape]
      have below := (lt_bisectRight_map_iff ordered next).not.mpr
        (not_le.mpr (after later List.mem_cons_self))
      omega

omit [Field K] in
theorem activeAt_iff : activeAt statusRows ts = true ↔ IsActive statusRows ts := by
  constructor
  · intro active
    unfold activeAt at active
    split at active
    next => contradiction
    next =>
      simp only [Bool.and_eq_true, decide_eq_true_eq] at active
      obtain ⟨some_before, flagged⟩ := active
      obtain ⟨i, place⟩ := Int.eq_ofNat_of_zero_le some_before
      rw [place, Int.toNat_natCast] at flagged
      cases found : statusRows[i]? with
      | none => simp [found] at flagged
      | some row =>
          rw [found, Option.elim_some] at flagged
          obtain ⟨bound, rfl⟩ := List.getElem?_eq_some_iff.mp found
          refine ⟨statusRows.take i, statusRows[i], statusRows.drop (i + 1), ?_, ?_, ?_, flagged⟩
          · rw [← List.drop_eq_getElem_cons bound, List.take_append_drop]
          · apply (lt_bisectRight_map_iff ordered found).mp
            omega
          · intro later member
            obtain ⟨j, atJ⟩ := List.getElem?_of_mem member
            rw [List.getElem?_drop] at atJ
            apply not_le.mp
            apply (lt_bisectRight_map_iff ordered atJ).not.mp
            omega
  · rintro ⟨front, row, back, shape, before, after, flagged⟩
    have place := bisectRight_eq ordered shape before after
    have found : statusRows[front.length]? = some row := by simp [shape]
    have nonempty : ¬statusRows.isEmpty = true := by simp [shape]
    unfold activeAt
    rw [if_neg nonempty, place]
    simp [found, flagged]

end Activity

/-! ## Stalls that reach the end -/

section Scanning

variable {stalled : K × β → Prop} {seen : List (K × β)} {row : K × β}

/-- The times at which a stall starts that lasts to the end of the rows. -/
def startTimes (stalled : K × β → Prop) (rows : List (K × β)) : Set K :=
  {start | ∃ window, window <:+ rows ∧ IsStall stalled window ∧
    ∃ first, window.head? = some first ∧ start = first.1}

theorem isStall_singleton (holds : stalled row) : IsStall stalled [row] where
  all := by
    intro other member
    cases List.mem_singleton.mp member
    exact holds
  close := .singleton row

theorem isStall_concat {window : List (K × β)} :
    IsStall stalled (window ++ [row]) ↔
      IsStall stalled window ∧ stalled row ∧
        ∀ last ∈ window.getLast?, row.1 - last.1 ≤ 30 / 100 := by
  constructor
  · rintro ⟨all, close⟩
    obtain ⟨inner, _, joint⟩ := List.isChain_append.mp close
    refine ⟨⟨fun other member => all other (List.mem_append_left _ member), inner⟩, ?_, ?_⟩
    · exact all row (by simp)
    · intro last found
      exact joint last found row rfl
  · rintro ⟨⟨all, close⟩, holds, joint⟩
    constructor
    · intro other member
      rcases List.mem_append.mp member with member | member
      · exact all other member
      · cases List.mem_singleton.mp member
        exact holds
    · refine List.isChain_append.mpr ⟨close, .singleton row, ?_⟩
      intro last found next isNext
      cases isNext
      exact joint last found

theorem startTimes_nil : startTimes stalled ([] : List (K × β)) = ∅ := by
  apply Set.eq_empty_of_forall_notMem
  rintro start ⟨window, suffix, _, first, found, _⟩
  rw [List.suffix_nil.mp suffix] at found
  contradiction

theorem startTimes_concat_of_not (moves : ¬stalled row) :
    startTimes stalled (seen ++ [row]) = ∅ := by
  apply Set.eq_empty_of_forall_notMem
  rintro start ⟨window, suffix, stall, first, found, _⟩
  rcases List.suffix_concat_iff.mp suffix with rfl | ⟨window, rfl, _⟩
  · contradiction
  · exact moves (isStall_concat.mp stall).2.1

/-- A stall that lasts to a new row starts there, or earlier if the row is close. -/
theorem startTimes_concat (holds : stalled row) :
    startTimes stalled (seen ++ [row]) =
      {row.1} ∪ {start ∈ startTimes stalled seen |
        ∀ last ∈ seen.getLast?, row.1 - last.1 ≤ 30 / 100} := by
  ext start
  constructor
  · rintro ⟨window, suffix, stall, first, found, rfl⟩
    rcases List.suffix_concat_iff.mp suffix with rfl | ⟨window, rfl, inner⟩
    · contradiction
    · obtain ⟨before, _, joint⟩ := isStall_concat.mp stall
      cases window with
      | nil =>
          cases found
          exact .inl rfl
      | cons head rest =>
          right
          refine ⟨⟨head :: rest, inner, before, first, found, rfl⟩, ?_⟩
          obtain ⟨front, rfl⟩ := inner
          intro last found
          exact joint last (by simpa [List.getLast?_append] using found)
  · rintro (rfl | ⟨⟨window, suffix, stall, first, found, rfl⟩, joint⟩)
    · exact ⟨[row], List.suffix_append seen [row], isStall_singleton holds, row, rfl, rfl⟩
    · refine ⟨window ++ [row], ?_, ?_, first, ?_, rfl⟩
      · obtain ⟨front, rfl⟩ := suffix
        exact ⟨front, by simp⟩
      · refine isStall_concat.mpr ⟨stall, holds, ?_⟩
        intro last isLast
        apply joint
        obtain ⟨front, rfl⟩ := suffix
        rw [List.getLast?_append, Option.mem_def.mp isLast]
        rfl
      · rw [List.head?_append, found]
        rfl

/-- The windows of one more row are those before it and those that reach it. -/
theorem stallTimes_concat :
    stallTimes stalled (seen ++ [row]) =
      stallTimes stalled seen ∪ (fun start => row.1 - start) '' startTimes stalled (seen ++ [row]) := by
  ext seconds
  constructor
  · rintro ⟨window, infixed, stall, first, last, isFirst, isLast, rfl⟩
    rcases List.infix_concat_iff.mp infixed with suffix | inner
    · right
      refine ⟨first.1, ⟨window, suffix, stall, first, isFirst, rfl⟩, ?_⟩
      rcases List.suffix_concat_iff.mp suffix with rfl | ⟨window, rfl, _⟩
      · contradiction
      · rw [List.getLast?_concat] at isLast
        cases isLast
        rfl
    · exact .inl ⟨window, inner, stall, first, last, isFirst, isLast, rfl⟩
  · rintro (⟨window, infixed, rest⟩ | ⟨start, ⟨window, suffix, stall, first, isFirst, rfl⟩, rfl⟩)
    · exact ⟨window, infixed.trans (List.prefix_append seen [row]).isInfix, rest⟩
    · refine ⟨window, suffix.isInfix, stall, first, row, isFirst, ?_, rfl⟩
      rcases List.suffix_concat_iff.mp suffix with rfl | ⟨window, rfl, _⟩
      · contradiction
      · exact List.getLast?_concat

/-! ## Scanning -/

/-- What a loop carries after some rows. -/
structure Carries (stalled : K × β → Prop) (seen : List (K × β)) (stall : Stall K) : Prop where
  prevT : stall.prevT = seen.getLast?.map Prod.fst
  none_start : stall.start = none → startTimes stalled seen = ∅
  some_start : ∀ start, stall.start = some start → IsLeast (startTimes stalled seen) start
  longest : IsLongest (stallTimes stalled seen) stall.longest

theorem carries_nil : Carries stalled ([] : List (K × β)) {} where
  prevT := rfl
  none_start _ := startTimes_nil
  some_start _ started := by contradiction
  longest := by
    have none_there : stallTimes stalled ([] : List (K × β)) = ∅ := by
      apply Set.eq_empty_of_forall_notMem
      rintro seconds ⟨window, infixed, _, first, _, isFirst, _⟩
      rw [List.infix_nil.mp infixed] at isFirst
      contradiction
    refine ⟨?_, fun _ => rfl⟩
    rintro ⟨seconds, member⟩
    rw [none_there] at member
    contradiction

theorem IsLongest.max {times others : Set K} {seconds greatest : K}
    (longest : IsLongest times seconds) (isGreatest : IsGreatest others greatest)
    (nonneg : 0 ≤ greatest) : IsLongest (times ∪ others) (max seconds greatest) := by
  constructor
  · intro _
    rcases times.eq_empty_or_nonempty with rfl | there
    · rw [longest.2 rfl, max_eq_right nonneg, Set.empty_union]
      exact isGreatest
    · exact (longest.1 there).union isGreatest
  · intro none_there
    have member : greatest ∈ times ∪ others := .inr isGreatest.1
    rw [none_there] at member
    contradiction

variable [IsStrictOrderedRing K]

/-- Where `start` is put at a stalled row. -/
theorem isLeast_startTimes {stall : Stall K} (carries : Carries stalled seen stall)
    (ordered : ∀ earlier ∈ seen, earlier.1 ≤ row.1) (holds : stalled row) :
    IsLeast (startTimes stalled (seen ++ [row]))
      (match stall.start with
        | none => row.1
        | some start =>
            if stall.prevT.elim false fun prevT => 30 / 100 < row.1 - prevT then row.1
            else start) := by
  rw [startTimes_concat holds]
  cases started : stall.start with
  | none => simp [carries.none_start started]
  | some start =>
      have least := carries.some_start start started
      rw [carries.prevT]
      cases isLast : seen.getLast? with
      | none =>
          rw [List.getLast?_eq_none_iff.mp isLast, startTimes_nil] at least
          exact absurd least.1 (Set.notMem_empty start)
      | some last =>
          obtain ⟨window, suffix, _, first, isFirst, rfl⟩ := least.1
          have order : first.1 ≤ row.1 :=
            ordered first (suffix.subset (List.mem_of_head? isFirst))
          by_cases far : 30 / 100 < row.1 - last.1
          · have apart : {start ∈ startTimes stalled seen |
                ∀ before ∈ some last, row.1 - before.1 ≤ 30 / 100} = ∅ := by
              apply Set.eq_empty_of_forall_notMem
              rintro start ⟨_, joint⟩
              exact absurd (joint last rfl) (not_le.mpr far)
            rw [apart, Set.union_empty]
            simp [far]
          · have close : {start ∈ startTimes stalled seen |
                ∀ before ∈ some last, row.1 - before.1 ≤ 30 / 100} = startTimes stalled seen := by
              apply Set.sep_eq_self_iff_mem_true.mpr
              intro start _ before isLast
              cases isLast
              exact not_lt.mp far
            have least := (isLeast_singleton (a := row.1)).union least
            rw [min_eq_right order] at least
            rw [close]
            simpa [far] using least

/-- What one more row preserves. -/
theorem Carries.next {stall : Stall K} (carries : Carries stalled seen stall)
    (ordered : ∀ earlier ∈ seen, earlier.1 ≤ row.1) {isStalled : Bool}
    (decides : isStalled = true ↔ stalled row) :
    Carries stalled (seen ++ [row]) (stall.next isStalled row.1) := by
  unfold Stall.next
  split
  next holds =>
    have least := isLeast_startTimes carries ordered (decides.mp holds)
    refine ⟨by simp, by simp, ?_, ?_⟩
    · intro start started
      cases started
      exact least
    · rw [stallTimes_concat]
      have antitone : Antitone fun start => row.1 - start := fun a b le => sub_le_sub_left le row.1
      apply carries.longest.max (antitone.map_isLeast least)
      rw [sub_nonneg]
      apply least.2
      rw [startTimes_concat (decides.mp holds)]
      exact .inl rfl
  next moves =>
    have none_there : startTimes stalled (seen ++ [row]) = ∅ :=
      startTimes_concat_of_not (decides.not.mp moves)
    refine ⟨by simp, fun _ => none_there, by simp, ?_⟩
    rw [stallTimes_concat, none_there, Set.image_empty, Set.union_empty]
    exact carries.longest

/-- Both loops find the longest stall of rows in the order of time. -/
theorem scanStalls_longest {test : K × β → Bool} {rows : List (K × β)}
    (ordered : rows.Pairwise fun a b => a.1 ≤ b.1)
    (decides : ∀ row, test row = true ↔ stalled row) :
    IsLongest (stallTimes stalled rows) (scanStalls test rows).longest := by
  suffices carries : Carries stalled rows (scanStalls test rows) from carries.longest
  induction rows using List.reverseRecOn with
  | nil => exact carries_nil
  | append_singleton seen row ih =>
      obtain ⟨inner, _, before⟩ := List.pairwise_append.mp ordered
      rw [scanStalls, List.foldl_concat]
      exact (ih inner).next (fun earlier member => before earlier member row (by simp))
        (decides row)

end Scanning

/-- `max_active_zero_cmd_sec` and `max_empty_local_plan_sec` are the longest stalls of the
sorted commands and local plans. -/
theorem stalls_longest [IsStrictOrderedRing K] (statusRows : List (StatusRow K))
    (cmd : List (TwistRow K)) (localPlan : List (LocalPlanRow K)) :
    IsLongest
        (stallTimes
          (fun row => isZero row.2.1 ∧ isZero row.2.2 ∧ IsActive (sorted statusRows) row.1)
          (sorted cmd))
        (maxActiveZeroCmdSec (sorted statusRows) (sorted cmd)) ∧
      IsLongest (stallTimes (fun row => row.2.2.1 = 0) (sorted localPlan))
        (maxEmptyLocalPlanSec (sorted localPlan)) := by
  constructor
  · apply scanStalls_longest (pairwise_sorted_fst cmd)
    intro row
    rw [Bool.and_eq_true, Bool.and_eq_true, activeAt_iff (pairwise_sorted_fst statusRows),
      and_assoc]
  · apply scanStalls_longest (pairwise_sorted_fst localPlan)
    intro row
    exact beq_iff_eq

/-- Two commands to stand still, a fifth of a second apart. -/
def idleCmd : List (TwistRow ℚ) := [(0, .finite 0, .finite 0), (1 / 5, .finite 0, .finite 0)]

/-- An active goal from the start. -/
def activeStatus : List (StatusRow ℚ) := [(0, true, false, 1)]

theorem stalls_longest_idle :
    IsLongest
        (stallTimes
          (fun row => isZero row.2.1 ∧ isZero row.2.2 ∧ IsActive (sorted activeStatus) row.1)
          (sorted idleCmd))
        (1 / 5) ∧
      IsLongest (stallTimes (fun row => row.2.2.1 = 0) (sorted ([] : List (LocalPlanRow ℚ)))) 0 := by
  have longest := stalls_longest activeStatus idleCmd []
  have seconds : maxActiveZeroCmdSec (sorted activeStatus) (sorted idleCmd) = 1 / 5 := by
    decide +kernel
  rw [seconds] at longest
  exact longest

end ScoutStack.NavBag
