import ScoutStack.Localizer.Node
import Mathlib.Tactic.Group

/-!
# The correction

The transform from map to odom over every order of callbacks.  It is the result of the last
match and the odometry that came with the cloud of that match, and between matches the
node keeps within its thresholds of the odometry that it refers to.
-/

namespace ScoutStack.Localization

open Rigid

variable {K : Type} [Field K]

/-! ## What a run shows -/

def Output.relocation : Output K → Option (Relocation K)
  | .relocated relocation => some relocation
  | .sent _ => none

def Output.message : Output K → Option (TransformStamped K)
  | .relocated _ => none
  | .sent message => some message

variable [LinearOrder K] [IsStrictOrderedRing K]

/-- The cloud and the odometry that a callback delivers together. -/
def Callback.delivers : Callback K → Option (PointCloud2 K × Pose K)
  | .sync pcMsg odomMsg _ => some (pcMsg, poseMsgToTF odomMsg)
  | _ => none

/-- The last cloud and odometry that came together. -/
def lastSync (history : List (Callback K)) : Option (PointCloud2 K × Pose K) :=
  (history.filterMap Callback.delivers).getLast?

/-- The first odometry that came with a cloud. -/
def firstOdom (history : List (Callback K)) : Option (Pose K) :=
  (history.filterMap Callback.delivers).head?.map Prod.snd

section Steps

variable (math : MathFunctions K) (ndt : Ndt K) (cfg : Config K)

/-- The matches of a callback. -/
def relocationsAt (localizer : Localizer K ndt.State) (callback : Callback K) :
    List (Relocation K) :=
  (react math ndt cfg localizer callback).filterMap Output.relocation

/-- The transforms that a callback broadcasts. -/
def broadcastsAt (localizer : Localizer K ndt.State) (callback : Callback K) :
    List (TransformStamped K) :=
  (react math ndt cfg localizer callback).filterMap Output.message

/-- The odometry of a callback that matches by itself. -/
def automaticAt (localizer : Localizer K ndt.State) (callback : Callback K) : List (Pose K) :=
  match callback with
  | .sync _ odomMsg _ =>
      (relocationsAt math ndt cfg localizer callback).map fun _ => poseMsgToTF odomMsg
  | _ => []

/-- The NDT object afterwards and its result, for the scan of a cloud and a guess. -/
def alignment (math : MathFunctions K) (ndt : Ndt K) (cfg : Config K) (object : ndt.State)
    (cloud : PointCloud2 K) (guess : Pose K) : ndt.State × Pose K :=
  ndt.align object (scanCloud math cfg (cfg.voxelGrid cloud.points)) guess

end Steps

/-- A node as it starts. -/
structure Node (K : Type) [Field K] where
  math : MathFunctions K
  ndt : Ndt K
  cfg : Config K
  ndtStart : ndt.State
  uninitialised : Pose K

namespace Node

variable (node : Node K)

/-- The state after some callbacks. -/
def after (history : List (Callback K)) : Localizer K node.ndt.State :=
  Machine.run (step node.math node.ndt node.cfg) (.start node.ndtStart node.uninitialised) history

/-- The matches of the callbacks that follow others. -/
def relocations (front back : List (Callback K)) : List (Relocation K) :=
  Machine.collect (step node.math node.ndt node.cfg) (relocationsAt node.math node.ndt node.cfg)
    (node.after front) back

/-- The transforms that are broadcast in the callbacks that follow others. -/
def broadcasts (front back : List (Callback K)) : List (TransformStamped K) :=
  Machine.collect (step node.math node.ndt node.cfg) (broadcastsAt node.math node.ndt node.cfg)
    (node.after front) back

/-- The odometry of the automatic matches. -/
def automatic (history : List (Callback K)) : List (Pose K) :=
  Machine.collect (step node.math node.ndt node.cfg) (automaticAt node.math node.ndt node.cfg)
    (node.after []) history

/-- The last transform that was broadcast, at first the identity. -/
def inForce (history : List (Callback K)) : Pose K :=
  ((node.broadcasts [] history).getLast?.map TransformStamped.transform).getD 1

/-- The odometry at the last automatic match, or at the first synchronised callback. -/
def reference (history : List (Callback K)) : Option (Pose K) :=
  (node.automatic history).getLast?.or (firstOdom history)

end Node

/-! ## One callback -/

section Steps

variable (math : MathFunctions K) (ndt : Ndt K) (cfg : Config K)

/-- A motion that does not make `syncCallback` match. -/
structure Within (math : MathFunctions K) (cfg : Config K) (T : Pose K) : Prop where
  shift : math.hypot (T.translation 0) (T.translation 1) ≤ max cfg.threshShift 0
  rotation : |getYaw math T| ≤ max cfg.threshRot 0

theorem within_one : Within math cfg (1 : Pose K) where
  shift := by simp [math.hypot_zero]
  rotation := by simp [getYaw, math.asin_zero, math.cos_zero, math.atan2_zero]

/-- What one turn can do. -/
inductive Turn (math : MathFunctions K) (ndt : Ndt K) (cfg : Config K)
    (localizer : Localizer K ndt.State) :
    Callback K → Localizer K ndt.State × List (Output K) → Prop where
  | target (msg : PointCloud2 K) :
      Turn math ndt cfg localizer (.map msg)
        ({ localizer with ndt := ndt.setInputTarget localizer.ndt msg.points }, [])
  | noCloud (msg : PoseMsg K) (now : K) (missing : localizer.pcPtr = none) :
      Turn math ndt cfg localizer (.initialPose msg now) (localizer, [])
  | initial (msg : PoseMsg K) (now : K) (aligned : ndt.State) (relocation : Relocation K)
      (message : TransformStamped K) (cloud : localizer.pcPtr = some relocation.cloud)
      (align : alignment math ndt cfg localizer.ndt relocation.cloud relocation.guess =
        (aligned, relocation.final))
      (transform : message.transform = relocation.final * localizer.baseOdom⁻¹) :
      Turn math ndt cfg localizer (.initialPose msg now)
        ({ localizer with ndt := aligned, odomMap := relocation.final * localizer.baseOdom⁻¹ },
          [.relocated relocation, .sent message])
  | near (pcMsg : PointCloud2 K) (odomMsg : PoseMsg K) (now : K) (last : Pose K)
      (message : TransformStamped K)
      (remembered : last = localizer.lastNDTPose.getD (poseMsgToTF odomMsg))
      (within : Within math cfg (last⁻¹ * poseMsgToTF odomMsg))
      (transform : message.transform = localizer.odomMap) :
      Turn math ndt cfg localizer (.sync pcMsg odomMsg now)
        ({ localizer with
            pcPtr := some pcMsg, baseOdom := poseMsgToTF odomMsg, lastNDTPose := some last },
          [.sent message])
  | far (pcMsg : PointCloud2 K) (odomMsg : PoseMsg K) (now : K) (aligned : ndt.State)
      (relocation : Relocation K) (message : TransformStamped K)
      (cloud : relocation.cloud = pcMsg)
      (guess : relocation.guess = localizer.odomMap * poseMsgToTF odomMsg)
      (align : alignment math ndt cfg localizer.ndt relocation.cloud relocation.guess =
        (aligned, relocation.final))
      (transform : message.transform = relocation.final * (poseMsgToTF odomMsg)⁻¹) :
      Turn math ndt cfg localizer (.sync pcMsg odomMsg now)
        ({ ndt := aligned
           baseOdom := poseMsgToTF odomMsg
           odomMap := relocation.final * (poseMsgToTF odomMsg)⁻¹
           pcPtr := some pcMsg
           lastNDTPose := some (poseMsgToTF odomMsg) },
          [.relocated relocation, .sent message])

theorem turn_spin (localizer : Localizer K ndt.State) (callback : Callback K) :
    Turn math ndt cfg localizer callback (spin math ndt cfg localizer callback) := by
  cases callback with
  | map msg => exact .target msg
  | initialPose msg now =>
      unfold spin initPoseWithNDTCallback
      cases cloud : localizer.pcPtr with
      | none => exact .noCloud msg now cloud
      | some pcPtr =>
          exact .initial msg now _
            (matchCloud math ndt cfg localizer pcPtr (poseMsgToTF msg)).2 _ cloud rfl rfl
  | sync pcMsg odomMsg now =>
      unfold spin syncCallback
      dsimp only
      split
      next =>
        exact .far pcMsg odomMsg now _
          (matchCloud math ndt cfg
            { localizer with
              pcPtr := some pcMsg
              baseOdom := poseMsgToTF odomMsg
              lastNDTPose := some (localizer.lastNDTPose.getD (poseMsgToTF odomMsg)) }
            pcMsg (localizer.odomMap * poseMsgToTF odomMsg)).2 _ rfl rfl rfl rfl
      next near =>
        obtain ⟨shift, rotation⟩ := not_or.mp near
        exact .near pcMsg odomMsg now _ _ rfl
          ⟨le_max_of_le_left (not_lt.mp shift), le_max_of_le_left (not_lt.mp rotation)⟩ rfl

/-- A callback matches once and corrects by the odometry that it has, or leaves the
correction as it is. -/
theorem relocationsAt_cases (localizer : Localizer K ndt.State) (callback : Callback K) :
    (relocationsAt math ndt cfg localizer callback = [] ∧
        (step math ndt cfg localizer callback).odomMap = localizer.odomMap) ∨
      ∃ relocation, relocationsAt math ndt cfg localizer callback = [relocation] ∧
        (step math ndt cfg localizer callback).pcPtr = some relocation.cloud ∧
        (step math ndt cfg localizer callback).odomMap =
          relocation.final * (step math ndt cfg localizer callback).baseOdom⁻¹ := by
  have turn := turn_spin math ndt cfg localizer callback
  unfold relocationsAt react step
  generalize spin math ndt cfg localizer callback = result at turn ⊢
  cases turn with
  | target => exact .inl ⟨rfl, rfl⟩
  | noCloud => exact .inl ⟨rfl, rfl⟩
  | initial _ _ _ relocation _ cloud => exact .inr ⟨relocation, rfl, cloud, rfl⟩
  | near => exact .inl ⟨rfl, rfl⟩
  | far _ _ _ _ relocation _ cloud => exact .inr ⟨relocation, rfl, congrArg some cloud.symm, rfl⟩

/-- A callback broadcasts the correction that it leaves, or leaves it as it is. -/
theorem broadcastsAt_cases (localizer : Localizer K ndt.State) (callback : Callback K) :
    (broadcastsAt math ndt cfg localizer callback = [] ∧
        (step math ndt cfg localizer callback).odomMap = localizer.odomMap) ∨
      ∃ message, broadcastsAt math ndt cfg localizer callback = [message] ∧
        message.transform = (step math ndt cfg localizer callback).odomMap := by
  have turn := turn_spin math ndt cfg localizer callback
  unfold broadcastsAt react step
  generalize spin math ndt cfg localizer callback = result at turn ⊢
  cases turn with
  | target => exact .inl ⟨rfl, rfl⟩
  | noCloud => exact .inl ⟨rfl, rfl⟩
  | initial _ _ _ _ message _ _ transform => exact .inr ⟨message, rfl, transform⟩
  | near _ _ _ _ message _ _ transform => exact .inr ⟨message, rfl, transform⟩
  | far _ _ _ _ _ message _ _ _ transform => exact .inr ⟨message, rfl, transform⟩

/-- The result of a match is that of the NDT object. -/
theorem final_of_mem {localizer : Localizer K ndt.State} {callback : Callback K}
    {relocation : Relocation K}
    (matched : relocation ∈ relocationsAt math ndt cfg localizer callback) :
    relocation.final =
      (alignment math ndt cfg localizer.ndt relocation.cloud relocation.guess).2 := by
  have turn := turn_spin math ndt cfg localizer callback
  unfold relocationsAt react at matched
  generalize spin math ndt cfg localizer callback = result at turn matched
  cases turn with
  | target => contradiction
  | noCloud => contradiction
  | initial _ _ _ _ _ _ align =>
      cases List.mem_singleton.mp matched
      rw [align]
  | near => contradiction
  | far _ _ _ _ _ _ _ _ align =>
      cases List.mem_singleton.mp matched
      rw [align]

/-- The NDT object changes with a map cloud and with a match. -/
theorem step_ndt (localizer : Localizer K ndt.State) (callback : Callback K) :
    (step math ndt cfg localizer callback).ndt =
      match callback with
      | .map msg => ndt.setInputTarget localizer.ndt msg.points
      | _ => (relocationsAt math ndt cfg localizer callback).foldl
          (fun object relocation =>
            (alignment math ndt cfg object relocation.cloud relocation.guess).1)
          localizer.ndt := by
  have turn := turn_spin math ndt cfg localizer callback
  unfold relocationsAt react step
  generalize spin math ndt cfg localizer callback = result at turn ⊢
  cases turn with
  | target => rfl
  | noCloud => rfl
  | initial _ _ _ _ _ _ align => exact (congrArg Prod.fst align).symm
  | near => rfl
  | far _ _ _ _ _ _ _ _ align => exact (congrArg Prod.fst align).symm

/-- Cloud and odometry change together. -/
theorem step_delivers (localizer : Localizer K ndt.State) (callback : Callback K) :
    (callback.delivers = none ∧
        (step math ndt cfg localizer callback).pcPtr = localizer.pcPtr ∧
        (step math ndt cfg localizer callback).baseOdom = localizer.baseOdom) ∨
      ∃ cloud odom, callback.delivers = some (cloud, odom) ∧
        (step math ndt cfg localizer callback).pcPtr = some cloud ∧
        (step math ndt cfg localizer callback).baseOdom = odom := by
  have turn := turn_spin math ndt cfg localizer callback
  unfold step
  generalize spin math ndt cfg localizer callback = result at turn ⊢
  cases turn with
  | target => exact .inl ⟨rfl, rfl, rfl⟩
  | noCloud => exact .inl ⟨rfl, rfl, rfl⟩
  | initial => exact .inl ⟨rfl, rfl, rfl⟩
  | near => exact .inr ⟨_, _, rfl, rfl, rfl⟩
  | far => exact .inr ⟨_, _, rfl, rfl, rfl⟩

/-- The odometry that the node refers to: that of an automatic match, or else what it
remembers, or else the one that comes first. -/
theorem step_lastNDTPose (localizer : Localizer K ndt.State) (callback : Callback K) :
    (step math ndt cfg localizer callback).lastNDTPose =
      (automaticAt math ndt cfg localizer callback).getLast?.or
        (localizer.lastNDTPose.or (callback.delivers.map Prod.snd)) := by
  have turn := turn_spin math ndt cfg localizer callback
  unfold automaticAt relocationsAt react step
  generalize spin math ndt cfg localizer callback = result at turn ⊢
  cases turn with
  | target => simp [Callback.delivers]
  | noCloud => simp [Callback.delivers]
  | initial => simp [Callback.delivers]
  | near _ _ _ last _ remembered =>
      rw [remembered]
      cases localizer.lastNDTPose <;> rfl
  | far => rfl

/-- A match of `syncCallback` starts from the correction and the odometry at hand. -/
theorem guess_of_mem {localizer : Localizer K ndt.State} {relocation : Relocation K}
    {pcMsg : PointCloud2 K} {odomMsg : PoseMsg K} {now : K}
    (matched : relocation ∈ relocationsAt math ndt cfg localizer (.sync pcMsg odomMsg now)) :
    relocation.cloud = pcMsg ∧ relocation.guess = localizer.odomMap * poseMsgToTF odomMsg := by
  have turn := turn_spin math ndt cfg localizer (.sync pcMsg odomMsg now)
  unfold relocationsAt react at matched
  generalize spin math ndt cfg localizer (.sync pcMsg odomMsg now) = result at turn matched
  cases turn with
  | near => contradiction
  | far _ _ _ _ _ _ cloud guess =>
      cases List.mem_singleton.mp matched
      exact ⟨cloud, guess⟩

/-- `syncCallback` remembers the odometry of a match, or keeps what it remembers. -/
theorem sync_lastNDTPose (localizer : Localizer K ndt.State) (pcMsg : PointCloud2 K)
    (odomMsg : PoseMsg K) (now : K) :
    let next := step math ndt cfg localizer (.sync pcMsg odomMsg now)
    let last := localizer.lastNDTPose.getD (poseMsgToTF odomMsg)
    next.lastNDTPose = some (poseMsgToTF odomMsg) ∨
      next.lastNDTPose = some last ∧ Within math cfg (last⁻¹ * poseMsgToTF odomMsg) := by
  have turn := turn_spin math ndt cfg localizer (.sync pcMsg odomMsg now)
  unfold step
  generalize spin math ndt cfg localizer (.sync pcMsg odomMsg now) = result at turn ⊢
  cases turn with
  | near _ _ _ last _ remembered within =>
      cases remembered
      exact .inr ⟨rfl, within⟩
  | far => exact .inl rfl

/-- After `syncCallback` the odometry is within the thresholds of what the node remembers. -/
theorem sync_within (localizer : Localizer K ndt.State) (pcMsg : PointCloud2 K)
    (odomMsg : PoseMsg K) (now : K) :
    ∃ last,
      (step math ndt cfg localizer (.sync pcMsg odomMsg now)).lastNDTPose = some last ∧
        Within math cfg (last⁻¹ * poseMsgToTF odomMsg) := by
  rcases sync_lastNDTPose math ndt cfg localizer pcMsg odomMsg now with
    remembered | ⟨remembered, within⟩
  · refine ⟨poseMsgToTF odomMsg, remembered, ?_⟩
    rw [inv_mul_cancel]
    exact within_one math cfg
  · exact ⟨_, remembered, within⟩

end Steps

/-! ## Runs -/

namespace Node

variable (node : Node K)

theorem after_append (front back : List (Callback K)) :
    node.after (front ++ back) =
      Machine.run (step node.math node.ndt node.cfg) (node.after front) back :=
  Machine.run_append _ _ front back

/-- The state holds the cloud and the odometry that last came together. -/
theorem after_lastSync (history : List (Callback K)) :
    (node.after history).pcPtr = (lastSync history).map Prod.fst ∧
      ∀ cloud odom, lastSync history = some (cloud, odom) →
        (node.after history).baseOdom = odom := by
  induction history using List.reverseRecOn with
  | nil => exact ⟨rfl, by simp [lastSync]⟩
  | append_singleton front callback ih =>
      have deliveries : lastSync (front ++ [callback]) = callback.delivers.or (lastSync front) := by
        unfold lastSync
        rw [List.filterMap_append, List.getLast?_append]
        cases found : callback.delivers <;> simp [found]
      rw [after_append, deliveries, Machine.run_cons, Machine.run_nil]
      rcases step_delivers node.math node.ndt node.cfg (node.after front) callback with
        ⟨none_there, cloud, odom⟩ | ⟨cloud, odom, there, sameCloud, sameOdom⟩
      · rw [none_there, cloud, odom, Option.none_or]
        exact ih
      · rw [there, sameCloud, sameOdom]
        refine ⟨rfl, ?_⟩
        rintro _ _ same
        cases same
        rfl

/-- The correction is what was last broadcast. -/
theorem odomMap_eq_inForce (history : List (Callback K)) :
    (node.after history).odomMap = node.inForce history := by
  apply Machine.run_eq_getLast? _ _ Localizer.odomMap TransformStamped.transform
  intro localizer callback
  rcases broadcastsAt_cases node.math node.ndt node.cfg localizer callback with
    ⟨silent, same⟩ | ⟨message, sent, same⟩
  · rw [silent, same]
    rfl
  · rw [sent, ← same]
    rfl

/-- The node remembers the odometry at the last automatic match, or the first one. -/
theorem lastNDTPose_eq_reference (history : List (Callback K)) :
    (node.after history).lastNDTPose = node.reference history := by
  induction history using List.reverseRecOn with
  | nil => rfl
  | append_singleton front callback ih =>
      have first : firstOdom (front ++ [callback]) =
          (firstOdom front).or (callback.delivers.map Prod.snd) := by
        unfold firstOdom
        rw [List.filterMap_append, List.head?_append]
        cases (front.filterMap Callback.delivers).head? with
        | none => cases found : callback.delivers <;> simp [found]
        | some sync => rfl
      rw [after_append, Machine.run_cons, Machine.run_nil, step_lastNDTPose, ih]
      unfold reference automatic
      rw [first, Machine.collect_append, List.getLast?_append, Option.or_assoc, Option.or_assoc]
      simp [after]

/-- Without a match the correction stays. -/
theorem inForce_of_relocations_eq_nil (front back : List (Callback K))
    (unmatched : node.relocations front back = []) :
    node.inForce (front ++ back) = node.inForce front := by
  rw [← odomMap_eq_inForce, ← odomMap_eq_inForce, after_append]
  apply Machine.run_eq_of_collect_eq_nil _ _ Localizer.odomMap _ unmatched
  intro localizer callback silent
  rcases relocationsAt_cases node.math node.ndt node.cfg localizer callback with
    ⟨_, same⟩ | ⟨relocation, matched, _⟩
  · exact same
  · rw [silent] at matched
    contradiction

/-- A match corrects by the odometry that came with its cloud. -/
theorem inForce_of_mem_relocations {front : List (Callback K)} {callback : Callback K}
    {relocation : Relocation K} (matched : relocation ∈ node.relocations front [callback]) :
    ∃ odom, lastSync (front ++ [callback]) = some (relocation.cloud, odom) ∧
      node.inForce (front ++ [callback]) = relocation.final * odom⁻¹ := by
  obtain ⟨held, together⟩ := node.after_lastSync (front ++ [callback])
  rw [← odomMap_eq_inForce]
  rw [relocations, Machine.collect_cons, Machine.collect_nil, List.append_nil] at matched
  rw [after_append, Machine.run_cons, Machine.run_nil] at held together ⊢
  rcases relocationsAt_cases node.math node.ndt node.cfg (node.after front) callback with
    ⟨silent, _⟩ | ⟨other, once, cloud, corrected⟩
  · rw [silent] at matched
    contradiction
  · rw [once] at matched
    cases List.mem_singleton.mp matched
    cases found : lastSync (front ++ [callback]) with
    | none =>
        rw [found, cloud] at held
        contradiction
    | some sync =>
        obtain ⟨sameCloud, odom⟩ := sync
        rw [found, cloud, Option.map_some, Option.some.injEq] at held
        rw [corrected, together sameCloud odom found, held]
        exact ⟨odom, rfl, rfl⟩

/-- What holds of the correction after every history. -/
structure IsConsistent (history : List (Callback K)) : Prop where
  /-- What the last callback broadcasts is the correction in force. -/
  broadcast : ∀ front callback, history = front ++ [callback] →
    ∀ message ∈ node.broadcasts front [callback], message.transform = node.inForce history
  /-- The correction is the identity until there is a match. -/
  unmatched : node.relocations [] history = [] → node.inForce history = 1
  /-- The correction comes from the last match, and from the odometry that was delivered
  together with the cloud of that match. -/
  matched : ∀ front callback back relocation, history = front ++ callback :: back →
    relocation ∈ node.relocations front [callback] →
    node.relocations (front ++ [callback]) back = [] →
    ∃ odom, lastSync (front ++ [callback]) = some (relocation.cloud, odom) ∧
      node.inForce history = relocation.final * odom⁻¹
  /-- The result of a match is what the NDT object aligns its cloud to, from its guess. -/
  aligned : ∀ front callback back relocation, history = front ++ callback :: back →
    relocation ∈ node.relocations front [callback] →
    relocation.final = (alignment node.math node.ndt node.cfg (node.after front).ndt
      relocation.cloud relocation.guess).2
  /-- The NDT object has seen the map clouds and the matches, in their order. -/
  object : ∀ front callback back, history = front ++ callback :: back →
    (node.after (front ++ [callback])).ndt =
      match callback with
      | .map msg => node.ndt.setInputTarget (node.after front).ndt msg.points
      | _ => (node.relocations front [callback]).foldl
          (fun object relocation => (alignment node.math node.ndt node.cfg object
            relocation.cloud relocation.guess).1)
          (node.after front).ndt
  /-- An automatic match starts from the correction before it and the current odometry. -/
  guess : ∀ front pcMsg odomMsg now relocation, history = front ++ [.sync pcMsg odomMsg now] →
    relocation ∈ node.relocations front [.sync pcMsg odomMsg now] →
    relocation.cloud = pcMsg ∧ relocation.guess = node.inForce front * poseMsgToTF odomMsg
  /-- Between matches the node moves in the map as its odometry does. -/
  motion : ∀ front back, history = front ++ back → node.relocations front back = [] →
    ∀ earlier later : PointCloud2 K × Pose K, lastSync front = some earlier →
      lastSync history = some later →
      (node.inForce front * earlier.2)⁻¹ * (node.inForce history * later.2) =
        earlier.2⁻¹ * later.2
  /-- The odometry of a synchronised callback is within the thresholds of the reference. -/
  within : ∀ front pcMsg odomMsg now, history = front ++ [.sync pcMsg odomMsg now] →
    ∃ last, node.reference history = some last ∧
      Within node.math node.cfg (inverseTimes last (poseMsgToTF odomMsg))

/-- The broadcast correction is a consistent pair, in every order of callbacks. -/
theorem isConsistent (history : List (Callback K)) : node.IsConsistent history where
  broadcast front callback shape message sent := by
    subst shape
    rw [broadcasts, Machine.collect_cons, Machine.collect_nil, List.append_nil] at sent
    rw [← odomMap_eq_inForce, after_append, Machine.run_cons, Machine.run_nil]
    rcases broadcastsAt_cases node.math node.ndt node.cfg (node.after front) callback
      with ⟨silent, _⟩ | ⟨other, once, same⟩
    · rw [silent] at sent
      contradiction
    · rw [once] at sent
      cases List.mem_singleton.mp sent
      exact same
  unmatched none_there := node.inForce_of_relocations_eq_nil [] history none_there
  matched front callback back relocation shape there quiet := by
    have rest := node.inForce_of_relocations_eq_nil _ _ quiet
    rw [List.append_assoc, List.singleton_append, ← shape] at rest
    rw [rest]
    exact node.inForce_of_mem_relocations there
  aligned front callback back relocation _ there := by
    rw [relocations, Machine.collect_cons, Machine.collect_nil, List.append_nil] at there
    exact final_of_mem _ _ _ there
  object front callback back _ := by
    rw [relocations, Machine.collect_cons, Machine.collect_nil, List.append_nil, after_append,
      Machine.run_cons, Machine.run_nil]
    exact step_ndt _ _ _ _ callback
  guess front pcMsg odomMsg now relocation _ there := by
    rw [relocations, Machine.collect_cons, Machine.collect_nil, List.append_nil] at there
    rw [← odomMap_eq_inForce]
    exact guess_of_mem _ _ _ there
  motion front back shape quiet earlier later _ _ := by
    rw [shape, node.inForce_of_relocations_eq_nil _ _ quiet]
    group
  within front pcMsg odomMsg now shape := by
    rw [← lastNDTPose_eq_reference, shape, after_append]
    exact sync_within _ _ _ (node.after front) pcMsg odomMsg now

end Node

/-! ## A drive -/

/-- The base at a place on the first axis. -/
def ahead (x : ℝ) : PoseMsg ℝ where
  position := ⟨x, 0, 0⟩
  orientation := ⟨1, 0, 0, 0⟩
  nonzero unit := one_ne_zero (congrArg QuaternionAlgebra.re unit)

/-- A node with the default parameters, and a matcher that finds what it guesses. -/
noncomputable def trustingNode : Node ℝ where
  math := realFunctions
  ndt :=
    { State := Unit
      setInputTarget := fun state _ => state
      align := fun state _ guess => (state, guess) }
  cfg := .read realFunctions id {}
  ndtStart := ()
  uninitialised := 1

/-- Three meters ahead. -/
def drive : List (Callback ℝ) :=
  [ .sync ⟨⟨0, "base_link"⟩, []⟩ (ahead 0) 0,
    .sync ⟨⟨1, "base_link"⟩, []⟩ (ahead 3) 1 ]

theorem poseMsgToTF_ahead (x : ℝ) :
    (poseMsgToTF (ahead x)).toMotion = { linear := 1, translation := ![x, 0, 0] } := by
  have unit : hamilton (ahead x).orientation = ((1 : ℝ) : Hamilton ℝ) := rfl
  simp only [poseMsgToTF, unit, rotation_coe]
  rfl

/-- Three meters are beyond the threshold. -/
theorem not_within_drive :
    ¬Within trustingNode.math trustingNode.cfg
      ((poseMsgToTF (ahead 0))⁻¹ * poseMsgToTF (ahead 3)) := by
  rintro ⟨shift, _⟩
  simp [poseMsgToTF_ahead, Motion.reverse, trustingNode, realFunctions, Config.read] at shift
  linarith

theorem isConsistent_drive :
    trustingNode.IsConsistent drive ∧
      trustingNode.reference drive = some (poseMsgToTF (ahead 3)) := by
  refine ⟨trustingNode.isConsistent drive, ?_⟩
  rw [← Node.lastNDTPose_eq_reference]
  have first : (trustingNode.after (drive.take 1)).lastNDTPose = some (poseMsgToTF (ahead 0)) := by
    rcases sync_lastNDTPose trustingNode.math trustingNode.ndt trustingNode.cfg
      (trustingNode.after []) ⟨⟨0, "base_link"⟩, []⟩ (ahead 0) 0 with same | ⟨same, _⟩
    · exact same
    · exact same
  rcases sync_lastNDTPose trustingNode.math trustingNode.ndt trustingNode.cfg
    (trustingNode.after (drive.take 1)) ⟨⟨1, "base_link"⟩, []⟩ (ahead 3) 1 with same | ⟨_, within⟩
  · exact same
  · rw [first] at within
    exact absurd within not_within_drive

end ScoutStack.Localization
