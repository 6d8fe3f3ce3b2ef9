import ScoutStack.NavBag.Records
import Mathlib.Data.List.Perm.Basic

/-!
# The order of reading

Messages that are read in another order give the same rows in another order, the same
counters and the same extreme times.  Once the lists are sorted nothing is left of the
order, as long as the numbers in the rows compare.
-/

namespace ScoutStack.NavBag

open Compares

/-! ## Logs that differ in their order -/

section Similar

variable {K : Type}

/-- Two logs that differ in the order of their rows. -/
structure Log.Similar (first second : Log K) : Prop where
  cmd : first.cmd.Perm second.cmd
  odom : first.odom.Perm second.odom
  localPlan : first.localPlan.Perm second.localPlan
  dwaTrajCloud : first.dwaTrajCloud.Perm second.dwaTrajCloud
  tebPoses : first.tebPoses.Perm second.tebPoses
  statusRows : first.statusRows.Perm second.statusRows
  goals : first.goals.Perm second.goals
  plannerFailLogs : first.plannerFailLogs.Perm second.plannerFailLogs
  topicCounts : first.topicCounts = second.topicCounts
  tMin : first.tMin = second.tMin
  tMax : first.tMax = second.tMax

theorem Log.Similar.refl (log : Log K) : log.Similar log := by
  constructor <;> rfl

theorem Log.Similar.trans {first second third : Log K} (left : first.Similar second)
    (right : second.Similar third) : first.Similar third where
  cmd := left.cmd.trans right.cmd
  odom := left.odom.trans right.odom
  localPlan := left.localPlan.trans right.localPlan
  dwaTrajCloud := left.dwaTrajCloud.trans right.dwaTrajCloud
  tebPoses := left.tebPoses.trans right.tebPoses
  statusRows := left.statusRows.trans right.statusRows
  goals := left.goals.trans right.goals
  plannerFailLogs := left.plannerFailLogs.trans right.plannerFailLogs
  topicCounts := left.topicCounts.trans right.topicCounts
  tMin := left.tMin.trans right.tMin
  tMax := left.tMax.trans right.tMax

variable [LinearOrder K]

/-- The lists of two logs one after the other, with the counters added. -/
def Log.join (log rows : Log K) : Log K where
  cmd := log.cmd ++ rows.cmd
  odom := log.odom ++ rows.odom
  localPlan := log.localPlan ++ rows.localPlan
  dwaTrajCloud := log.dwaTrajCloud ++ rows.dwaTrajCloud
  tebPoses := log.tebPoses ++ rows.tebPoses
  statusRows := log.statusRows ++ rows.statusRows
  goals := log.goals ++ rows.goals
  plannerFailLogs := log.plannerFailLogs ++ rows.plannerFailLogs
  topicCounts topic := log.topicCounts topic + rows.topicCounts topic
  tMin := log.tMin.merge min rows.tMin
  tMax := log.tMax.merge max rows.tMax

theorem Log.Similar.join {first second : Log K} (similar : first.Similar second) (rows : Log K) :
    (first.join rows).Similar (second.join rows) where
  cmd := similar.cmd.append_right _
  odom := similar.odom.append_right _
  localPlan := similar.localPlan.append_right _
  dwaTrajCloud := similar.dwaTrajCloud.append_right _
  tebPoses := similar.tebPoses.append_right _
  statusRows := similar.statusRows.append_right _
  goals := similar.goals.append_right _
  plannerFailLogs := similar.plannerFailLogs.append_right _
  topicCounts := by simp only [Log.join, similar.topicCounts]
  tMin := by simp only [Log.join, similar.tMin]
  tMax := by simp only [Log.join, similar.tMax]

theorem perm_append_swap {α : Type} (list first second : List α) :
    (list ++ first ++ second).Perm (list ++ second ++ first) := by
  rw [List.append_assoc, List.append_assoc]
  exact List.perm_append_comm.append_left list

theorem merge_swap {α : Type} {f : α → α → α} [Std.Commutative f] [Std.Associative f]
    (value first second : Option α) :
    (value.merge f first).merge f second = (value.merge f second).merge f first := by
  rw [(Option.associative_merge f).assoc, (Option.commutative_merge f).comm first,
    (Option.associative_merge f).assoc]

theorem Log.similar_join_swap (log first second : Log K) :
    ((log.join first).join second).Similar ((log.join second).join first) where
  cmd := perm_append_swap _ _ _
  odom := perm_append_swap _ _ _
  localPlan := perm_append_swap _ _ _
  dwaTrajCloud := perm_append_swap _ _ _
  tebPoses := perm_append_swap _ _ _
  statusRows := perm_append_swap _ _ _
  goals := perm_append_swap _ _ _
  plannerFailLogs := perm_append_swap _ _ _
  topicCounts := funext fun _ => Nat.add_right_comm _ _ _
  tMin := merge_swap _ _ _
  tMax := merge_swap _ _ _

end Similar

/-! ## Reading -/

section Reading

variable {K : Type} [Field K] [LinearOrder K] (math : MathModule K)

omit [Field K] in
theorem note_eq_join (log : Log K) (ts : K) (topic : Topic) :
    log.note ts topic = log.join (({} : Log K).note ts topic) := by
  ext1 <;> simp only [Log.note, Log.join, List.append_nil]
  case topicCounts =>
    funext other
    by_cases same : other = topic
    · simp [same]
    · simp [same]
  case tMin => cases log.tMin <;> rfl
  case tMax => cases log.tMax <;> rfl

/-- A message adds the rows that it brings to an empty log. -/
theorem read_eq_join (log : Log K) (record : Recorded K) :
    log.read math record = log.join (({} : Log K).read math record) := by
  obtain ⟨ts, msg⟩ := record
  unfold Log.read
  simp only [note_eq_join log]
  cases msg with
  | rosout msg =>
      by_cases failed : isPlannerFailure (msg.getD "") <;> simp [failed, Log.join, Log.note]
  | _ => simp [Log.join, Log.note]

theorem Log.Similar.read {first second : Log K} (similar : first.Similar second)
    (record : Recorded K) : (first.read math record).Similar (second.read math record) := by
  rw [read_eq_join math first, read_eq_join math second]
  exact similar.join _

theorem similar_read_swap (log : Log K) (record other : Recorded K) :
    ((log.read math record).read math other).Similar
      ((log.read math other).read math record) := by
  rw [read_eq_join math (log.read math record), read_eq_join math (log.read math other),
    read_eq_join math log, read_eq_join math log other]
  exact log.similar_join_swap _ _

theorem Log.Similar.foldl_read {first second : Log K} (similar : first.Similar second)
    (records : List (Recorded K)) :
    (records.foldl (Log.read math) first).Similar (records.foldl (Log.read math) second) := by
  induction records generalizing first second with
  | nil => exact similar
  | cons record records ih => exact ih (similar.read math record)

/-- The same messages in another order give a similar log. -/
theorem similar_of_perm {first second : List (Recorded K)} (same : first.Perm second)
    (log : Log K) :
    (first.foldl (Log.read math) log).Similar (second.foldl (Log.read math) log) := by
  induction same generalizing log with
  | nil => exact .refl log
  | cons record _ ih => exact ih (log.read math record)
  | swap record other records => exact (similar_read_swap math log other record).foldl_read math records
  | trans _ _ left right => exact (left log).trans (right log)

/-! ## Numbers that compare -/

/-- The numbers of a message. -/
def Message.numbers : Message K → List (Double K)
  | .cmdVel linearX angularZ => [linearX, angularZ]
  | .odom linearX angularZ => [linearX, angularZ]
  | .dwaLocal poses => poses.flatMap fun p => [p.1, p.2]
  | .tebLocal poses => poses.flatMap fun p => [p.1, p.2]
  | .goal _ x y orientation =>
      [x, y, orientation.x, orientation.y, orientation.z, orientation.w]
  | _ => []

/-- The numbers of the row that is made of a message. -/
def Message.rowNumbers (msg : Message K) : List (Double K) :=
  match msg with
  | .cmdVel linearX angularZ => [linearX, angularZ]
  | .odom linearX angularZ => [linearX, angularZ]
  | .dwaLocal poses => [pathLength math poses]
  | .tebLocal poses => [pathLength math poses]
  | .goal _ x y orientation => [x, y, yawFromQuaternion math orientation]
  | _ => []

/-- `hypot` and `atan2` of numbers are numbers. -/
structure MathModule.IsTotal : Prop where
  hypot : ∀ x y : K, (math.hypot (.finite x) (.finite y)).IsFinite
  atan2 : ∀ y x : K, (math.atan2 (.finite y) (.finite x)).IsFinite

section Total

variable {math} (total : math.IsTotal)

include total

omit [LinearOrder K] in
/-- Poses with finite coordinates have a finite path length. -/
theorem isFinite_pathLength {poses : List (Double K × Double K)}
    (coordinates : ∀ value ∈ poses.flatMap fun p => [p.1, p.2], value.IsFinite) :
    (pathLength math poses).IsFinite := by
  have finite : ∀ p ∈ poses, p.1.IsFinite ∧ p.2.IsFinite := by
    intro p member
    constructor <;> apply coordinates <;> exact List.mem_flatMap.mpr ⟨p, member, by simp⟩
  unfold pathLength
  apply List.foldlRecOn (motive := Double.IsFinite)
  · trivial
  · rintro sum isFinite ⟨p0, p1⟩ member
    obtain ⟨first, second⟩ := List.of_mem_zip member
    obtain ⟨x0, atX0⟩ := Double.isFinite_iff.mp (finite p0 first).1
    obtain ⟨y0, atY0⟩ := Double.isFinite_iff.mp (finite p0 first).2
    obtain ⟨x1, atX1⟩ := Double.isFinite_iff.mp (finite p1 (List.mem_of_mem_tail second)).1
    obtain ⟨y1, atY1⟩ := Double.isFinite_iff.mp (finite p1 (List.mem_of_mem_tail second)).2
    obtain ⟨distance, atDistance⟩ := Double.isFinite_iff.mp (total.hypot (x1 - x0) (y1 - y0))
    obtain ⟨number, rfl⟩ := Double.isFinite_iff.mp isFinite
    simp only [atX0, atY0, atX1, atY1, Double.finite_sub, atDistance, Double.finite_add]
    trivial

theorem isFinite_yawFromQuaternion {q : Quaternion (Double K)} (x : q.x.IsFinite)
    (y : q.y.IsFinite) (z : q.z.IsFinite) (w : q.w.IsFinite) :
    (yawFromQuaternion math q).IsFinite := by
  obtain ⟨x, atX⟩ := Double.isFinite_iff.mp x
  obtain ⟨y, atY⟩ := Double.isFinite_iff.mp y
  obtain ⟨z, atZ⟩ := Double.isFinite_iff.mp z
  obtain ⟨w, atW⟩ := Double.isFinite_iff.mp w
  simp only [yawFromQuaternion, atX, atY, atZ, atW, Double.finite_mul, Double.finite_add,
    Double.finite_sub]
  exact total.atan2 _ _

/-- Messages of finite numbers give rows of finite numbers. -/
theorem isFinite_rowNumbers {msg : Message K} (finite : ∀ value ∈ msg.numbers, value.IsFinite) :
    ∀ value ∈ msg.rowNumbers math, value.IsFinite := by
  cases msg with
  | cmdVel linearX angularZ => exact finite
  | odom linearX angularZ => exact finite
  | dwaLocal poses =>
      exact List.forall_mem_singleton.mpr (isFinite_pathLength total finite)
  | tebLocal poses =>
      exact List.forall_mem_singleton.mpr (isFinite_pathLength total finite)
  | goal goalId x y orientation =>
      simp only [Message.numbers, List.forall_mem_cons] at finite
      obtain ⟨atX, atY, qx, qy, qz, qw, _⟩ := finite
      simp [Message.rowNumbers, atX, atY, isFinite_yawFromQuaternion total qx qy qz qw]
  | _ => exact finite

end Total

/-- A log whose rows compare. -/
structure Log.IsProper (log : Log K) : Prop where
  cmd : ∀ row ∈ log.cmd, Proper row
  odom : ∀ row ∈ log.odom, Proper row
  localPlan : ∀ row ∈ log.localPlan, Proper row
  goals : ∀ row ∈ log.goals, Proper row

omit [Field K] in
theorem isProper_empty : ({} : Log K).IsProper := by
  constructor <;> simp

omit [Field K] [LinearOrder K] in
theorem proper_concat {α : Type} [Compares α] {list : List α} {row : α}
    (all : ∀ other ∈ list, Proper other) (new : Proper row) : ∀ other ∈ list ++ [row], Proper other :=
  List.forall_mem_append.mpr ⟨all, List.forall_mem_singleton.mpr new⟩

theorem Log.IsProper.read {log : Log K} (isProper : log.IsProper) {record : Recorded K}
    (comparable : .nan ∉ record.msg.rowNumbers math) : (log.read math record).IsProper := by
  obtain ⟨ts, msg⟩ := record
  have proper : ∀ value ∈ msg.rowNumbers math, Proper value := by
    intro value member
    refine Double.proper_iff.mpr ?_
    rintro rfl
    exact comparable member
  cases msg with
  | cmdVel linearX angularZ =>
      have row : Proper (ts, linearX, angularZ) := by simpa [Message.rowNumbers] using proper
      exact { isProper with cmd := proper_concat isProper.cmd row }
  | odom linearX angularZ =>
      have row : Proper (ts, linearX, angularZ) := by simpa [Message.rowNumbers] using proper
      exact { isProper with odom := proper_concat isProper.odom row }
  | dwaLocal poses =>
      have row : Proper (ts, Topic.dwaLocal, poses.length, pathLength math poses) := by
        simpa [Message.rowNumbers] using proper
      exact { isProper with localPlan := proper_concat isProper.localPlan row }
  | tebLocal poses =>
      have row : Proper (ts, Topic.tebLocal, poses.length, pathLength math poses) := by
        simpa [Message.rowNumbers] using proper
      exact { isProper with localPlan := proper_concat isProper.localPlan row }
  | goal goalId x y orientation =>
      have row : Proper (ts, goalId.getD "", x, y, yawFromQuaternion math orientation) := by
        simpa [Message.rowNumbers] using proper
      exact { isProper with goals := proper_concat isProper.goals row }
  | rosout msg =>
      unfold Log.read
      dsimp only
      split <;> exact { isProper with }
  | _ => exact { isProper with }

theorem Log.IsProper.foldl_read {log : Log K} (isProper : log.IsProper)
    {records : List (Recorded K)}
    (comparable : ∀ record ∈ records, .nan ∉ record.msg.rowNumbers math) :
    (records.foldl (Log.read math) log).IsProper := by
  induction records generalizing log with
  | nil => exact isProper
  | cons record records ih =>
      exact ih (isProper.read math (comparable record List.mem_cons_self))
        fun later member => comparable later (.tail _ member)

omit [Field K] in
/-- Sorting leaves nothing of the order of the rows. -/
theorem Log.Similar.sort_eq {first second : Log K} (similar : first.Similar second)
    (isProper : first.IsProper) : first.sort = second.sort := by
  ext1
  case cmd => exact sorted_eq_of_perm similar.cmd isProper.cmd
  case odom => exact sorted_eq_of_perm similar.odom isProper.odom
  case localPlan => exact sorted_eq_of_perm similar.localPlan isProper.localPlan
  case dwaTrajCloud => exact sorted_eq_of_perm similar.dwaTrajCloud (by simp)
  case tebPoses => exact sorted_eq_of_perm similar.tebPoses (by simp)
  case statusRows => exact sorted_eq_of_perm similar.statusRows (by simp)
  case goals => exact sorted_eq_of_perm similar.goals isProper.goals
  case plannerFailLogs => exact sorted_eq_of_perm similar.plannerFailLogs (by simp)
  case topicCounts => exact similar.topicCounts
  case tMin => exact similar.tMin
  case tMax => exact similar.tMax

/-- Bags with the same messages give the same log. -/
theorem readBags_eq_of_perm {bags bags' : List (List (Recorded K))}
    (same : bags.flatten.Perm bags'.flatten)
    (comparable : ∀ record ∈ bags.flatten, .nan ∉ record.msg.rowNumbers math) :
    readBags math bags = readBags math bags' := by
  unfold readBags
  rw [← List.foldl_flatten, ← List.foldl_flatten]
  exact (similar_of_perm math same {}).sort_eq (isProper_empty.foldl_read math comparable)

end Reading

end ScoutStack.NavBag
