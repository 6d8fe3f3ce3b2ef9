import ScoutStack.Lib.Bisect
import ScoutStack.NavBag.Records
import Mathlib.Data.List.MinMax
import Mathlib.Tactic.NormNum

/-!
# Commands and the odometry next to them

`nearest_value` looks at the two samples around the place that bisection finds.  On
samples in the order of time it is an exhaustive search, and so are the counters of
commands without a response.
-/

namespace ScoutStack.NavBag

open Bisect Compares

variable {K : Type} [Field K] [LinearOrder K] {β : Type}

/-- `candidates` of `nearest_value`. -/
def candidates (samples : List (K × β)) (ts : K) : List (K × β) :=
  let i := bisectLeft (samples.map Prod.fst) ts
  samples[i]?.toList ++ if 0 < i then samples[i - 1]?.toList else []

/-- `nearest_value`. -/
def nearestValue (samples : List (K × β)) (ts maxDt : K) : Option (K × β) :=
  match (candidates samples ts).argmin fun x => |x.1 - ts| with
  | none => none
  | some best => if maxDt < |best.1 - ts| then none else some best

/-- The counters `lin_mismatch`, `lin_test`, `ang_mismatch` and `ang_test`. -/
structure Responses where
  linMismatch : ℕ := 0
  linTest : ℕ := 0
  angMismatch : ℕ := 0
  angTest : ℕ := 0
  deriving DecidableEq

/-- `abs(v) >= 0.20`. -/
def isTested (v : Double K) : Bool := Double.lessEqual (.finite (20 / 100)) v.abs

/-- `abs(v) < 0.05`. -/
def isIdle (v : Double K) : Bool := Double.less v.abs (.finite (5 / 100))

/-- The body of the loop over `cmd`, once the nearest odometry is there. -/
def Responses.count (responses : Responses) (vx wz ovx owz : Double K) : Responses :=
  let responses :=
    if isTested vx then
      { responses with
        linTest := responses.linTest + 1
        linMismatch := if isIdle ovx then responses.linMismatch + 1 else responses.linMismatch }
    else responses
  if isTested wz then
    { responses with
      angTest := responses.angTest + 1
      angMismatch := if isIdle owz then responses.angMismatch + 1 else responses.angMismatch }
  else responses

/-- The loop over `cmd` that looks for responses. -/
def countResponses (odom cmd : List (TwistRow K)) : Responses :=
  cmd.foldl
    (fun responses (ts, vx, wz) =>
      match nearestValue odom ts (25 / 100) with
      | none => responses
      | some (_, ovx, owz) => responses.count vx wz ovx owz) {}

/-! ## Exhaustive search -/

/-- No sample is nearer to the time. -/
structure IsNearest (samples : List (K × β)) (ts : K) (best : K × β) : Prop where
  member : best ∈ samples
  least : ∀ other ∈ samples, |best.1 - ts| ≤ |other.1 - ts|

/-- The nearest odometry to a command is at most a quarter of a second away, and has the
property. -/
def Answered (odom : List (TwistRow K)) (command : TwistRow K) (property : TwistRow K → Prop) :
    Prop :=
  ∃ sample, IsNearest odom command.1 sample ∧ |sample.1 - command.1| ≤ 25 / 100 ∧ property sample

open Classical in
/-- The counters, by comparing each command with every odometry sample. -/
noncomputable def exhaustiveResponses (odom cmd : List (TwistRow K)) : Responses where
  linTest := cmd.countP fun row => isTested row.2.1 ∧ Answered odom row fun _ => True
  linMismatch := cmd.countP fun row =>
    isTested row.2.1 ∧ Answered odom row fun sample => isIdle sample.2.1
  angTest := cmd.countP fun row => isTested row.2.2 ∧ Answered odom row fun _ => True
  angMismatch := cmd.countP fun row =>
    isTested row.2.2 ∧ Answered odom row fun sample => isIdle sample.2.2

section Search

variable {samples : List (K × β)} {ts maxDt : K}

omit [Field K] in
theorem mem_of_mem_candidates {sample : K × β} (member : sample ∈ candidates samples ts) :
    sample ∈ samples := by
  simp only [candidates, List.mem_append, Option.mem_toList] at member
  rcases member with found | found
  · exact List.mem_of_getElem? found
  · split at found
    next => exact List.mem_of_getElem? (by simpa using found)
    next => simp at found

variable (ordered : samples.Pairwise fun a b => a.1 ≤ b.1)

include ordered

omit [Field K] in
theorem time_le {i j : ℕ} {first second : K × β} (order : i ≤ j) (atI : samples[i]? = some first)
    (atJ : samples[j]? = some second) : first.1 ≤ second.1 := by
  obtain ⟨boundI, rfl⟩ := List.getElem?_eq_some_iff.mp atI
  obtain ⟨boundJ, rfl⟩ := List.getElem?_eq_some_iff.mp atJ
  rcases order.eq_or_lt with rfl | before
  · exact le_rfl
  · exact List.pairwise_iff_getElem.mp ordered i j boundI boundJ before

variable [IsStrictOrderedRing K]

variable (ts) in
/-- Some candidate is as near as any sample: the last one before the time, or the first one
that is not. -/
theorem exists_candidate_le {other : K × β} (member : other ∈ samples) :
    ∃ sample ∈ candidates samples ts, |sample.1 - ts| ≤ |other.1 - ts| := by
  have inside := bisectLeft_map_le_length ordered ts
  obtain ⟨j, atJ⟩ := List.getElem?_of_mem member
  obtain ⟨bound, _⟩ := List.getElem?_eq_some_iff.mp atJ
  by_cases before : j < bisectLeft (samples.map Prod.fst) ts
  · obtain ⟨last, found⟩ : ∃ last, samples[bisectLeft (samples.map Prod.fst) ts - 1]? = some last :=
      ⟨_, List.getElem?_eq_getElem (by omega)⟩
    refine ⟨last, ?_, ?_⟩
    · rw [candidates, List.mem_append]
      right
      rw [if_pos (by omega), found]
      exact List.mem_singleton_self last
    · have below : last.1 < ts := (lt_bisectLeft_map_iff ordered found).mp (by omega)
      have le := time_le ordered (by omega) atJ found
      rw [abs_of_neg (by linarith), abs_of_neg (by linarith)]
      linarith
  · obtain ⟨later, found⟩ : ∃ later, samples[bisectLeft (samples.map Prod.fst) ts]? = some later :=
      ⟨_, List.getElem?_eq_getElem (by omega)⟩
    refine ⟨later, ?_, ?_⟩
    · rw [candidates, List.mem_append]
      left
      rw [found]
      exact List.mem_singleton_self later
    · have above : ts ≤ later.1 :=
        not_lt.mp fun below => lt_irrefl _ ((lt_bisectLeft_map_iff ordered found).mpr below)
      have le := time_le ordered (not_lt.mp before) found atJ
      rw [abs_of_nonneg (by linarith), abs_of_nonneg (by linarith)]
      linarith

/-- What `nearest_value` finds is as near as any sample. -/
theorem isNearest_of_nearestValue {best : K × β}
    (found : nearestValue samples ts maxDt = some best) :
    IsNearest samples ts best ∧ |best.1 - ts| ≤ maxDt := by
  unfold nearestValue at found
  split at found
  next => contradiction
  next chosen least =>
    split at found
    next => contradiction
    next near =>
      cases found
      refine ⟨⟨mem_of_mem_candidates (List.argmin_mem least), ?_⟩, not_lt.mp near⟩
      intro other member
      obtain ⟨sample, candidate, le⟩ := exists_candidate_le ts ordered member
      exact (List.le_of_mem_argmin candidate least).trans le

theorem nearestValue_eq_none_iff :
    nearestValue samples ts maxDt = none ↔ ∀ sample ∈ samples, ¬|sample.1 - ts| ≤ maxDt := by
  unfold nearestValue
  split
  next empty =>
    rw [List.argmin_eq_none] at empty
    refine iff_of_true rfl ?_
    intro sample member
    obtain ⟨candidate, found, _⟩ := exists_candidate_le ts ordered member
    rw [empty] at found
    contradiction
  next best least =>
    have nearest : ∀ sample ∈ samples, |best.1 - ts| ≤ |sample.1 - ts| := by
      intro sample member
      obtain ⟨candidate, found, le⟩ := exists_candidate_le ts ordered member
      exact (List.le_of_mem_argmin found least).trans le
    split
    next far =>
      refine iff_of_true rfl ?_
      intro sample member near
      linarith [nearest sample member]
    next near =>
      refine iff_of_false (by simp) ?_
      intro none_near
      exact none_near best (mem_of_mem_candidates (List.argmin_mem least)) (not_lt.mp near)

end Search

/-! ## Responses -/

section Responding

variable [IsStrictOrderedRing K] {odom odom' : List (TwistRow K)}

omit [IsStrictOrderedRing K] in
theorem IsNearest.congr {samples samples' : List (K × β)} (same : samples.Perm samples') {ts : K}
    {best : K × β} (nearest : IsNearest samples ts best) : IsNearest samples' ts best :=
  ⟨same.mem_iff.mp nearest.member, fun other member => nearest.least other (same.mem_iff.mpr member)⟩

/-- At most one sample is nearest to the time. -/
def UniqueNearest (samples : List (K × β)) (ts : K) : Prop :=
  ∀ first second, IsNearest samples ts first → IsNearest samples ts second → first = second

/-- The answer to a command, if there is one, is what `nearest_value` finds. -/
theorem answered_iff (ordered : odom.Pairwise fun a b => a.1 ≤ b.1) {row : TwistRow K}
    (unique : UniqueNearest odom row.1) (property : TwistRow K → Prop) :
    Answered odom row property ↔
      ∃ sample, nearestValue odom row.1 (25 / 100) = some sample ∧ property sample := by
  constructor
  · rintro ⟨sample, nearest, near, holds⟩
    cases found : nearestValue odom row.1 (25 / 100) with
    | none => exact absurd near ((nearestValue_eq_none_iff ordered).mp found sample nearest.member)
    | some best =>
        have same := unique sample best nearest (isNearest_of_nearestValue ordered found).1
        exact ⟨best, rfl, same ▸ holds⟩
  · rintro ⟨sample, found, holds⟩
    obtain ⟨nearest, near⟩ := isNearest_of_nearestValue ordered found
    exact ⟨sample, nearest, near, holds⟩

omit [IsStrictOrderedRing K] in
theorem count_eq (responses : Responses) (vx wz ovx owz : Double K) :
    responses.count vx wz ovx owz =
      { linMismatch := responses.linMismatch + if isTested vx ∧ isIdle ovx then 1 else 0
        linTest := responses.linTest + if isTested vx then 1 else 0
        angMismatch := responses.angMismatch + if isTested wz ∧ isIdle owz then 1 else 0
        angTest := responses.angTest + if isTested wz then 1 else 0 } := by
  unfold Responses.count
  cases isTested vx <;> cases isTested wz <;> cases isIdle ovx <;> cases isIdle owz <;> rfl

/-- The loop adds what an exhaustive search counts. -/
theorem foldl_count (ordered : odom.Pairwise fun a b => a.1 ≤ b.1) {cmd : List (TwistRow K)}
    (unique : ∀ row ∈ cmd, UniqueNearest odom row.1) (responses : Responses) :
    cmd.foldl
        (fun responses (ts, vx, wz) =>
          match nearestValue odom ts (25 / 100) with
          | none => responses
          | some (_, ovx, owz) => responses.count vx wz ovx owz) responses =
      { linMismatch := responses.linMismatch + (exhaustiveResponses odom cmd).linMismatch
        linTest := responses.linTest + (exhaustiveResponses odom cmd).linTest
        angMismatch := responses.angMismatch + (exhaustiveResponses odom cmd).angMismatch
        angTest := responses.angTest + (exhaustiveResponses odom cmd).angTest } := by
  induction cmd generalizing responses with
  | nil => simp [exhaustiveResponses]
  | cons row cmd ih =>
      obtain ⟨ts, vx, wz⟩ := row
      have answered := answered_iff ordered (unique _ List.mem_cons_self)
      rw [List.foldl_cons, ih fun row member => unique row (.tail _ member)]
      simp only [exhaustiveResponses, List.countP_cons, answered]
      cases nearestValue odom ts (25 / 100) with
      | none => simp
      | some sample =>
          obtain ⟨t, ovx, owz⟩ := sample
          simp [count_eq, add_assoc, add_comm]

omit [IsStrictOrderedRing K] in
theorem exhaustiveResponses_of_perm {cmd cmd' : List (TwistRow K)} (sameOdom : odom.Perm odom')
    (sameCmd : cmd.Perm cmd') : exhaustiveResponses odom cmd = exhaustiveResponses odom' cmd' := by
  have answered : Answered odom = Answered odom' := by
    funext row property
    apply propext
    constructor
    · rintro ⟨sample, nearest, rest⟩
      exact ⟨sample, nearest.congr sameOdom, rest⟩
    · rintro ⟨sample, nearest, rest⟩
      exact ⟨sample, nearest.congr sameOdom.symm, rest⟩
  unfold exhaustiveResponses
  rw [answered]
  simp only [sameCmd.countP_eq]

/-- The counters of the sorted lists are those of an exhaustive search. -/
theorem countResponses_eq {cmd : List (TwistRow K)}
    (unique : ∀ row ∈ cmd, UniqueNearest odom row.1) :
    countResponses (sorted odom) (sorted cmd) = exhaustiveResponses odom cmd := by
  have same := sorted_perm odom
  have sortedUnique : ∀ row ∈ sorted cmd, UniqueNearest (sorted odom) row.1 := by
    intro row member first second nearest nearest'
    exact unique row (mem_sorted.mp member) first second (nearest.congr same)
      (nearest'.congr same)
  rw [countResponses, foldl_count (pairwise_sorted_fst odom) sortedUnique,
    exhaustiveResponses_of_perm same (sorted_perm cmd)]
  simp only [Nat.zero_add]

/-- `nearest_value` on samples in the order of time is an exhaustive search, and so are the
counters of commands without a response. -/
theorem lookups_exhaustive :
    (∀ {β : Type} (samples : List (K × β)), (samples.Pairwise fun a b => a.1 ≤ b.1) →
      ∀ ts maxDt : K,
        (nearestValue samples ts maxDt = none ↔ ∀ sample ∈ samples, ¬|sample.1 - ts| ≤ maxDt) ∧
        ∀ best, nearestValue samples ts maxDt = some best → IsNearest samples ts best) ∧
    ∀ odom cmd : List (TwistRow K), (∀ row ∈ cmd, UniqueNearest odom row.1) →
      countResponses (sorted odom) (sorted cmd) = exhaustiveResponses odom cmd := by
  constructor
  · intro β samples ordered ts maxDt
    refine ⟨nearestValue_eq_none_iff ordered, ?_⟩
    intro best found
    exact (isNearest_of_nearestValue ordered found).1
  · intro odom cmd unique
    exact countResponses_eq unique

end Responding

/-- Odometry that stands still, twice in a second. -/
def stillOdom : List (TwistRow ℚ) := [(0, .finite 0, .finite 0), (1, .finite 0, .finite 0)]

/-- A command to drive, nearer to the first sample. -/
def driveCommand : List (TwistRow ℚ) := [(1 / 5, .finite (1 / 2), .finite 0)]

theorem lookups_exhaustive_still :
    (∀ best, nearestValue stillOdom (1 / 5) (1 / 4) = some best →
        IsNearest stillOdom (1 / 5) best) ∧
      countResponses (sorted stillOdom) (sorted driveCommand) =
        exhaustiveResponses stillOdom driveCommand := by
  constructor
  · exact (lookups_exhaustive.1 stillOdom (by simp [stillOdom]) (1 / 5) (1 / 4)).2
  · apply lookups_exhaustive.2
    intro row member first second nearest nearest'
    cases List.mem_singleton.mp member
    have least := nearest.least _ List.mem_cons_self
    have least' := nearest'.least _ List.mem_cons_self
    have far : ¬|(1 : ℚ) - 1 / 5| ≤ |0 - 1 / 5| := by norm_num [abs_of_pos, abs_of_neg]
    rcases List.mem_pair.mp nearest.member with rfl | rfl
    · rcases List.mem_pair.mp nearest'.member with rfl | rfl
      · rfl
      · exact absurd least' far
    · exact absurd least far

end ScoutStack.NavBag
