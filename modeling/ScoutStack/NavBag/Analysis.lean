import ScoutStack.NavBag.Nearest
import ScoutStack.NavBag.Percentile
import ScoutStack.NavBag.Reading
import ScoutStack.NavBag.Stalls
import Mathlib.Analysis.SpecialFunctions.Complex.Arg

/-!
# The analysis of a session

What `main` of `analyze_nav_bag.py` makes of the messages of its bags: the lists that it
writes and the numbers that it prints.  All of it comes from sorted lists, and does not
depend on the order in which the messages were read.  Left out are the layout of
`summary.txt` and the number of bags.
-/

namespace ScoutStack.NavBag

open Compares

/-! ## Statistics -/

section Statistics

variable {K : Type} [Field K] [LinearOrder K] {α : Type}

/-- `max(values)`: the first of the greatest. -/
def maximum [Compares α] : List α → Option α
  | [] => none
  | first :: rest =>
      some (rest.foldl (fun best value => if less best value then value else best) first)

/-- `max_abs`, of a column. -/
def maxAbs (values : List (Double K)) : Double K :=
  (maximum (values.map Double.abs)).getD (.finite 0)

/-- `max_gap`, of rows with only a time. -/
def maxGap (times : List K) : K :=
  if times.length < 2 then 0
  else (maximum (times.zipWith (fun earlier later => later - earlier) times.tail)).getD 0

/-- `statistics.median`, `none` for a `StatisticsError`. -/
def median (values : List (Double K)) : Option (Double K) :=
  let data := sorted values
  let n := data.length
  if n = 0 then none
  else if n % 2 = 1 then data[n / 2]?
  else do
    let low ← data[n / 2 - 1]?
    let high ← data[n / 2]?
    some ((low + high) / .finite 2)

/-- A count as a number. -/
def counted (n : ℕ) : Double K := .finite n

/-- `if values:` before a line of the summary. -/
def ifAny (values : List α) {β : Type} (line : Option β) : Option β :=
  if values.isEmpty then none else line

end Statistics

/-! ## The summary -/

/-- `planner_detected`. -/
inductive Planner where
  | teb
  | dwa
  | mixedUnknown
  | unknown
  deriving DecidableEq

/-- The numbers of the summary.  A line that is left out is `none`. -/
structure Summary (K : Type) where
  plannerDetected : Planner
  durationSec : K
  goalCount : ℕ
  goalRel : List K
  cmdVelSamples : ℕ
  cmdVelRateHzOverall : K
  odomSamples : ℕ
  odomRateHzOverall : K
  maxAbsCmdLinearX : Double K
  maxAbsCmdAngularZ : Double K
  maxAbsOdomLinearX : Double K
  maxAbsOdomAngularZ : Double K
  nonzeroCmdLinearMedian : Option (Double K)
  nonzeroCmdLinearP90 : Option (Double K)
  nonzeroCmdLinearP95 : Option (Double K)
  nonzeroCmdLinearShareGe030 : Option K
  localPlanMessages : ℕ
  emptyLocalPlanMessages : ℕ
  maxLocalPlanGapSec : K
  maxActiveZeroCmdSec : K
  maxEmptyLocalPlanSec : K
  localPlanPoseCountMedian : Option (Double K)
  localPlanPoseCountMax : Option ℕ
  localPlanLengthMMedian : Option (Double K)
  localPlanLengthMP90 : Option (Double K)
  localPlanLengthMMax : Option (Double K)
  dwaTrajectoryCloudMessages : ℕ
  dwaZeroPointTrajectoryCloudMessages : ℕ
  dwaTrajectoryCloudPointsMedian : Option (Double K)
  dwaTrajectoryCloudPointsMax : Option ℕ
  tebPosesMessages : ℕ
  tebZeroPoseMessages : ℕ
  tebPoseCountMedian : Option (Double K)
  tebPoseCountMax : Option ℕ
  plannerFailedLogs : ℕ
  responses : Responses

section Summarizing

variable {K : Type} [Field K] [LinearOrder K] [FloorRing K]

/-- `duration`. -/
def duration (log : Log K) : K :=
  match log.tMin, log.tMax with
  | some tMin, some tMax => tMax - tMin
  | _, _ => 0

/-- `planner`. -/
def planner (topicCounts : Topic → ℕ) : Planner :=
  let hasDwa := 0 < topicCounts .dwaLocal || 0 < topicCounts .dwaTraj
  let hasTeb := 0 < topicCounts .tebLocal || 0 < topicCounts .tebPoses
  if hasTeb && !hasDwa then .teb
  else if hasDwa && !hasTeb then .dwa
  else if hasTeb && hasDwa then .mixedUnknown
  else .unknown

/-- `nonzero_vx`. -/
def nonzeroVx (cmd : List (TwistRow K)) : List (Double K) :=
  (cmd.map fun row => row.2.1.abs).filter fun vx => Double.lessEqual (.finite (1 / 100)) vx

/-- `share_ge_030`. -/
def shareGe030 (nonzeroVx : List (Double K)) : K :=
  if nonzeroVx.isEmpty then 0
  else (nonzeroVx.countP fun x => Double.lessEqual (.finite (30 / 100)) x : ℕ) / nonzeroVx.length

/-- What `main` prints of the sorted lists. -/
def summarize (log : Log K) : Summary K :=
  let localLengths := log.localPlan.map fun row => row.2.2.2
  let localPoseCounts := log.localPlan.map fun row => row.2.2.1
  let dwaTrajCounts := log.dwaTrajCloud.map Prod.snd
  let tebPoseCounts := log.tebPoses.map Prod.snd
  let duration := duration log
  let nonzeroVx := nonzeroVx log.cmd
  { plannerDetected := planner log.topicCounts
    durationSec := duration
    goalCount := log.goals.length
    goalRel := log.goals.map fun row => log.tMin.elim 0 fun tMin => row.1 - tMin
    cmdVelSamples := log.cmd.length
    cmdVelRateHzOverall := if 0 < duration then log.cmd.length / duration else 0
    odomSamples := log.odom.length
    odomRateHzOverall := if 0 < duration then log.odom.length / duration else 0
    maxAbsCmdLinearX := maxAbs (log.cmd.map fun row => row.2.1)
    maxAbsCmdAngularZ := maxAbs (log.cmd.map fun row => row.2.2)
    maxAbsOdomLinearX := maxAbs (log.odom.map fun row => row.2.1)
    maxAbsOdomAngularZ := maxAbs (log.odom.map fun row => row.2.2)
    nonzeroCmdLinearMedian := ifAny nonzeroVx (median nonzeroVx)
    nonzeroCmdLinearP90 := ifAny nonzeroVx (percentile nonzeroVx (90 / 100))
    nonzeroCmdLinearP95 := ifAny nonzeroVx (percentile nonzeroVx (95 / 100))
    nonzeroCmdLinearShareGe030 := ifAny nonzeroVx (some (shareGe030 nonzeroVx))
    localPlanMessages := log.localPlan.length
    emptyLocalPlanMessages := log.localPlan.countP fun row => row.2.2.1 == 0
    maxLocalPlanGapSec := maxGap (log.localPlan.map Prod.fst)
    maxActiveZeroCmdSec := maxActiveZeroCmdSec log.statusRows log.cmd
    maxEmptyLocalPlanSec := maxEmptyLocalPlanSec log.localPlan
    localPlanPoseCountMedian := ifAny localPoseCounts (median (localPoseCounts.map counted))
    localPlanPoseCountMax := ifAny localPoseCounts (maximum localPoseCounts)
    localPlanLengthMMedian := ifAny localLengths (median localLengths)
    localPlanLengthMP90 := ifAny localLengths (percentile localLengths (90 / 100))
    localPlanLengthMMax := ifAny localLengths (maximum localLengths)
    dwaTrajectoryCloudMessages := log.dwaTrajCloud.length
    dwaZeroPointTrajectoryCloudMessages := log.dwaTrajCloud.countP fun row => row.2 == 0
    dwaTrajectoryCloudPointsMedian := ifAny dwaTrajCounts (median (dwaTrajCounts.map counted))
    dwaTrajectoryCloudPointsMax := ifAny dwaTrajCounts (maximum dwaTrajCounts)
    tebPosesMessages := log.tebPoses.length
    tebZeroPoseMessages := log.tebPoses.countP fun row => row.2 == 0
    tebPoseCountMedian := ifAny tebPoseCounts (median (tebPoseCounts.map counted))
    tebPoseCountMax := ifAny tebPoseCounts (maximum tebPoseCounts)
    plannerFailedLogs := log.plannerFailLogs.length
    responses := countResponses log.odom log.cmd }

/-- The lists, topic counts and extreme times, and the summary. -/
structure Analysis (K : Type) where
  log : Log K
  summary : Summary K

/-- `main`, on the messages of the bags. -/
def analyze (math : MathModule K) (bags : List (List (Recorded K))) : Analysis K :=
  let log := readBags math bags
  { log := log, summary := summarize log }

end Summarizing

/-! ## Real numbers -/

section Real

/-- `math.hypot`: an infinity counts more than a NaN. -/
noncomputable def hypot : Double ℝ → Double ℝ → Double ℝ
  | .infinite _, _ => .infinite false
  | _, .infinite _ => .infinite false
  | .finite x, .finite y => .finite √(x ^ 2 + y ^ 2)
  | _, _ => .nan

/-- `math.atan2`. -/
noncomputable def atan2 : Double ℝ → Double ℝ → Double ℝ
  | .nan, _ => .nan
  | _, .nan => .nan
  | .finite y, .finite x => .finite (Complex.arg ⟨x, y⟩)
  | .finite y, .infinite negative =>
      .finite (if negative then if y < 0 then -Real.pi else Real.pi else 0)
  | .infinite negative, .finite _ => .finite (if negative then -(Real.pi / 2) else Real.pi / 2)
  | .infinite negative, .infinite negative' =>
      let angle := if negative' then 3 * (Real.pi / 4) else Real.pi / 4
      .finite (if negative then -angle else angle)

noncomputable def realMath : MathModule ℝ where
  hypot := hypot
  atan2 := atan2

theorem isTotal_realMath : realMath.IsTotal where
  hypot _ _ := trivial
  atan2 _ _ := trivial

/-- Two commands at the same time. -/
def forward : Recorded ℝ := ⟨0, .cmdVel (.finite 1) (.finite 0)⟩

def backward : Recorded ℝ := ⟨0, .cmdVel (.finite (-1)) (.finite 0)⟩

/-- A local plan whose poses are infinitely far away has no length. -/
def farPlan : Recorded ℝ :=
  ⟨0, .dwaLocal [(.infinite false, .finite 0), (.infinite false, .finite 0)]⟩

def shortPlan : Recorded ℝ := ⟨0, .dwaLocal [(.finite 0, .finite 0), (.finite 1, .finite 0)]⟩

end Real

end ScoutStack.NavBag
