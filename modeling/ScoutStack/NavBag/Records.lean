import ScoutStack.Lib.Double
import ScoutStack.Mapper.Types
import Mathlib.Data.List.Infix
import Mathlib.Data.String.Basic

/-!
# The records of a navigation bag

The messages that `analyze_nav_bag.py` reads, the rows that it makes of them, and the
lists that its loop over the bags fills and sorts.  Rows are tuples, as in Python, with
the time in front.  A `float` is a `Double K`; `math.hypot` and `math.atan2` are in
`MathModule`.
-/

namespace ScoutStack.NavBag

open Compares

/-- `math.hypot` and `math.atan2`. -/
structure MathModule (K : Type) where
  hypot : Double K → Double K → Double K
  atan2 : Double K → Double K → Double K

/-! ## Messages -/

/-- `topics`. -/
inductive Topic where
  | cmdVel
  | odom
  | dwaLocal
  | dwaTraj
  | tebLocal
  | tebPoses
  | status
  | goal
  | rosout
  deriving DecidableEq

def Topic.name : Topic → String
  | cmdVel => "/cmd_vel"
  | odom => "/scout/odom"
  | dwaLocal => "/move_base/DWAPlannerROS/local_plan"
  | dwaTraj => "/move_base/DWAPlannerROS/trajectory_cloud"
  | tebLocal => "/move_base/TebLocalPlannerROS/local_plan"
  | tebPoses => "/move_base/TebLocalPlannerROS/teb_poses"
  | status => "/move_base/status"
  | goal => "/move_base/goal"
  | rosout => "/rosout_agg"

theorem Topic.name_injective : Function.Injective Topic.name := by
  intro first second same
  cases first <;> cases second <;> first
    | rfl
    | exact absurd same (by decide)

/-- Topics compare by their names. -/
instance : Compares Topic := along Topic.name

instance : Lawful Topic := lawful_along Topic.name_injective

@[simp] theorem Topic.proper (topic : Topic) : Proper topic := decide_eq_true rfl

/-- What the loop reads of a message, by its topic.  An attribute that the message does
not have is `none`. -/
inductive Message (K : Type) where
  | cmdVel (linearX angularZ : Double K)
  | odom (linearX angularZ : Double K)
  | dwaLocal (poses : List (Double K × Double K))
  | dwaTraj (width height : ℕ)
  | tebLocal (poses : List (Double K × Double K))
  | tebPoses (poses : Option ℕ)
  | status (statusList : List ℕ)
  | goal (goalId : Option String) (x y : Double K) (orientation : Quaternion (Double K))
  | rosout (msg : Option String)
  deriving DecidableEq

def Message.topic {K : Type} : Message K → Topic
  | cmdVel _ _ => .cmdVel
  | odom _ _ => .odom
  | dwaLocal _ => .dwaLocal
  | dwaTraj _ _ => .dwaTraj
  | tebLocal _ => .tebLocal
  | tebPoses _ => .tebPoses
  | status _ => .status
  | goal _ _ _ _ => .goal
  | rosout _ => .rosout

/-- A message of a bag, with the seconds of its time. -/
structure Recorded (K : Type) where
  ts : K
  msg : Message K
  deriving DecidableEq

/-! ## Rows -/

/-- `(t, linear_x, angular_z)`. -/
abbrev TwistRow (K : Type) := K × Double K × Double K

/-- `(t, topic, pose_count, path_length_m)`. -/
abbrev LocalPlanRow (K : Type) := K × Topic × ℕ × Double K

/-- `(t, point_count)` or `(t, pose_count)`. -/
abbrev CountRow (K : Type) := K × ℕ

/-- `(t, active, pending, status_count)`. -/
abbrev StatusRow (K : Type) := K × Bool × Bool × ℕ

/-- `(t, goal_id, x, y, yaw_rad)`. -/
abbrev GoalRow (K : Type) := K × String × Double K × Double K × Double K

/-- `(t, message)`. -/
abbrev LogRow (K : Type) := K × String

section Rows

variable {K : Type} [Field K] [LinearOrder K] (math : MathModule K)

/-- `yaw_from_quaternion`. -/
def yawFromQuaternion (q : Quaternion (Double K)) : Double K :=
  let sinyCosp := .finite 2 * (q.w * q.z + q.x * q.y)
  let cosyCosp := .finite 1 - .finite 2 * (q.y * q.y + q.z * q.z)
  math.atan2 sinyCosp cosyCosp

/-- `path_length`. -/
def pathLength (poses : List (Double K × Double K)) : Double K :=
  (poses.zip poses.tail).foldl
    (fun total (p0, p1) => total + math.hypot (p1.1 - p0.1) (p1.2 - p0.2)) (.finite 0)

/-- `fail_patterns`. -/
def failPatterns : List String :=
  [ "failed to find a valid plan",
    "cost functions discarded all candidates",
    "DWA planner failed to produce path",
    "failed to produce path",
    "no valid trajectories",
    "trajectory is not feasible",
    "infeasible trajectory",
    "timed-elastic-band detected an infeasible pose",
    "teblocalplannerros",
    "optimization failed",
    "diverged",
    "failed to obtain a local plan" ]

/-- `str.lower`, on the letters that the patterns have. -/
def lower (text : String) : List Char := text.toList.map Char.toLower

/-- `any(pattern.lower() in lower for pattern in fail_patterns)`. -/
def isPlannerFailure (text : String) : Bool :=
  failPatterns.any fun pattern => lower pattern <:+: lower text

/-! ## Reading -/

/-- The lists, counters and extreme times that the loop over the bags fills. -/
@[ext] structure Log (K : Type) where
  cmd : List (TwistRow K) := []
  odom : List (TwistRow K) := []
  localPlan : List (LocalPlanRow K) := []
  dwaTrajCloud : List (CountRow K) := []
  tebPoses : List (CountRow K) := []
  statusRows : List (StatusRow K) := []
  goals : List (GoalRow K) := []
  plannerFailLogs : List (LogRow K) := []
  topicCounts : Topic → ℕ := fun _ => 0
  tMin : Option K := none
  tMax : Option K := none

/-- The body of the loop, before it looks at the topic. -/
def Log.note (log : Log K) (ts : K) (topic : Topic) : Log K :=
  { log with
    tMin := some (log.tMin.elim ts fun tMin => min tMin ts)
    tMax := some (log.tMax.elim ts fun tMax => max tMax ts)
    topicCounts := Function.update log.topicCounts topic (log.topicCounts topic + 1) }

/-- The body of the loop over the messages. -/
def Log.read (log : Log K) (record : Recorded K) : Log K :=
  let ts := record.ts
  let log := log.note ts record.msg.topic
  match record.msg with
  | .cmdVel linearX angularZ => { log with cmd := log.cmd ++ [(ts, linearX, angularZ)] }
  | .odom linearX angularZ => { log with odom := log.odom ++ [(ts, linearX, angularZ)] }
  | .dwaLocal poses =>
      { log with
        localPlan := log.localPlan ++ [(ts, .dwaLocal, poses.length, pathLength math poses)] }
  | .tebLocal poses =>
      { log with
        localPlan := log.localPlan ++ [(ts, .tebLocal, poses.length, pathLength math poses)] }
  | .dwaTraj width height =>
      { log with dwaTrajCloud := log.dwaTrajCloud ++ [(ts, width * height)] }
  | .tebPoses poses => { log with tebPoses := log.tebPoses ++ [(ts, poses.getD 0)] }
  | .status statusList =>
      let active := statusList.any (· == 1)
      let pending := statusList.any (· == 0)
      { log with
        statusRows := log.statusRows ++ [(ts, active, pending, statusList.length)] }
  | .goal goalId x y orientation =>
      { log with
        goals := log.goals ++ [(ts, goalId.getD "", x, y, yawFromQuaternion math orientation)] }
  | .rosout msg =>
      let text := msg.getD ""
      if isPlannerFailure text then
        { log with plannerFailLogs := log.plannerFailLogs ++ [(ts, text)] }
      else log

/-- `cmd.sort()` and the like. -/
def Log.sort (log : Log K) : Log K :=
  { log with
    cmd := sorted log.cmd
    odom := sorted log.odom
    localPlan := sorted log.localPlan
    dwaTrajCloud := sorted log.dwaTrajCloud
    tebPoses := sorted log.tebPoses
    statusRows := sorted log.statusRows
    goals := sorted log.goals
    plannerFailLogs := sorted log.plannerFailLogs }

/-- The loop over the bags, and the sorting after it. -/
def readBags (bags : List (List (Recorded K))) : Log K :=
  (bags.foldl (List.foldl (Log.read math)) {}).sort

end Rows

end ScoutStack.NavBag
