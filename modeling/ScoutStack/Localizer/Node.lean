import ScoutStack.Lib.Machine
import ScoutStack.Lib.Rigid
import ScoutStack.Mapper.Types
import Mathlib.Analysis.SpecialFunctions.Complex.Arg
import Mathlib.Analysis.SpecialFunctions.Trigonometric.Inverse

/-!
# Callbacks of the localizer

`fast_lio_localization.cpp`.  `ros::spin` runs one callback at a time, so the node is a
machine whose events are the callbacks.  Poses are a group, in exact arithmetic; the NDT
object is a parameter, with whatever state it keeps.  Log lines and the time that a match
takes are not modelled, nor is `initPoseCallback`, which is never registered.
-/

namespace ScoutStack.Localization

open Rigid
open scoped Matrix

/-! ## What the node uses -/

/-- The functions of `cmath`. -/
structure MathFunctions (K : Type) [Field K] where
  hypot : K → K → K
  atan2 : K → K → K
  asin : K → K
  cos : K → K
  pi : K
  hypot_zero : hypot 0 0 = 0
  atan2_zero : atan2 0 1 = 0
  asin_zero : asin 0 = 0
  cos_zero : cos 0 = 1

/-- The functions on the real numbers. -/
noncomputable def realFunctions : MathFunctions ℝ where
  hypot x y := √(x ^ 2 + y ^ 2)
  atan2 y x := Complex.arg ⟨x, y⟩
  asin := Real.arcsin
  cos := Real.cos
  pi := Real.pi
  hypot_zero := by simp
  atan2_zero := Complex.arg_one
  asin_zero := Real.arcsin_zero
  cos_zero := Real.cos_zero

/-- `_ndt`: `align` yields the object afterwards and `getFinalTransformation`. -/
structure Ndt (K : Type) [Field K] where
  State : Type
  setInputTarget : State → List (Option (Point K)) → State
  align : State → List (Point K) → Pose K → State × Pose K

/-- The quaternion as Mathlib's. -/
def hamilton {K : Type} [Field K] (q : Quaternion K) : Hamilton K := ⟨q.w, q.x, q.y, q.z⟩

/-- `geometry_msgs/Pose`, with an orientation that denotes a rotation. -/
structure PoseMsg (K : Type) [Field K] where
  position : Vector3 K
  orientation : Quaternion K
  nonzero : hamilton orientation ≠ 0

section Poses

variable {K : Type} [Field K] [LinearOrder K] [IsStrictOrderedRing K]

/-- `poseMsgToTF`. -/
def poseMsgToTF (msg : PoseMsg K) : Pose K where
  linear := rotation (hamilton msg.orientation)
  translation := ![msg.position.x, msg.position.y, msg.position.z]
  orthogonal := rotation_mul_transpose msg.nonzero

omit [LinearOrder K] [IsStrictOrderedRing K] in
/-- `inverseTimes`. -/
def inverseTimes (pose other : Pose K) : Pose K := pose⁻¹ * other

/-- `tf::getYaw`: the first of the Euler angles, zero where the pitch is a right angle. -/
def getYaw (math : MathFunctions K) (pose : Pose K) : K :=
  if 1 ≤ |pose.linear 2 0| then 0
  else
    let pitch := -math.asin (pose.linear 2 0)
    math.atan2 (pose.linear 1 0 / math.cos pitch) (pose.linear 0 0 / math.cos pitch)

end Poses

/-! ## Parameters -/

/-- The values of the parameter server, `none` for those that it does not have. -/
structure Params (K : Type) where
  odomFrame : Option String := none
  tfPostdateSec : Option K := none
  threshShift : Option K := none
  threshRot : Option K := none
  minScanRange : Option K := none
  maxScanRange : Option K := none

/-- `Config`, and the voxel grid with the leaf size that it has from there. -/
structure Config (K : Type) [Field K] where
  odomFrame : String
  tfPostdateSec : K
  threshShift : K
  threshRot : K
  minScanRange : K
  maxScanRange : K
  voxelGrid : List (Option (Point K)) → List (Option (Point K))

/-- The constructor of `Config`. -/
def Config.read {K : Type} [Field K] (math : MathFunctions K)
    (voxelGrid : List (Option (Point K)) → List (Option (Point K))) (params : Params K) :
    Config K where
  odomFrame := params.odomFrame.getD "odom"
  tfPostdateSec := params.tfPostdateSec.getD (25 / 100)
  threshShift := params.threshShift.getD 2
  threshRot := params.threshRot.getD (math.pi / 12)
  minScanRange := params.minScanRange.getD 1
  maxScanRange := params.maxScanRange.getD 100
  voxelGrid := voxelGrid

/-! ## State -/

/-- The members of `Localizer`, and `lastNDTPose` of `syncCallback`. -/
structure Localizer (K : Type) [Field K] (State : Type) where
  ndt : State
  baseOdom : Pose K
  odomMap : Pose K
  pcPtr : Option (PointCloud2 K)
  lastNDTPose : Option (Pose K)

/-- The constructor of `Localizer`.  It leaves `_baseOdom` uninitialised. -/
def Localizer.start {K : Type} [Field K] {State : Type} (ndt : State) (uninitialised : Pose K) :
    Localizer K State where
  ndt := ndt
  baseOdom := uninitialised
  odomMap := 1
  pcPtr := none
  lastNDTPose := none

/-- What `match` aligns, and what comes of it. -/
structure Relocation (K : Type) [Field K] where
  cloud : PointCloud2 K
  guess : Pose K
  final : Pose K

/-- `geometry_msgs/TransformStamped`. -/
structure TransformStamped (K : Type) [Field K] where
  stamp : K
  frameId : String
  childFrameId : String
  transform : Pose K

/-- What a callback does besides changing the state. -/
inductive Output (K : Type) [Field K] where
  | relocated (relocation : Relocation K)
  | sent (message : TransformStamped K)

/-- The callbacks, with `ros::Time::now()` where they publish. -/
inductive Callback (K : Type) [Field K] where
  | map (msg : PointCloud2 K)
  | initialPose (msg : PoseMsg K) (now : K)
  | sync (pcMsg : PointCloud2 K) (odomMsg : PoseMsg K) (now : K)

/-! ## Callbacks -/

section Callbacks

variable {K : Type} [Field K] [LinearOrder K] (math : MathFunctions K) (ndt : Ndt K)
  (cfg : Config K)

/-- The loop of `match` over the filtered cloud. -/
def scanCloud (filtered : List (Option (Point K))) : List (Point K) :=
  filtered.reduceOption.filter fun p =>
    let r := math.hypot p.x p.y
    cfg.minScanRange < r && r < cfg.maxScanRange

/-- `match`. -/
def matchCloud (localizer : Localizer K ndt.State) (pcPtr : PointCloud2 K) (baseMap : Pose K) :
    Localizer K ndt.State × Relocation K :=
  let scan := scanCloud math cfg (cfg.voxelGrid pcPtr.points)
  let (aligned, baseMapNDT) := ndt.align localizer.ndt scan baseMap
  ({ localizer with ndt := aligned, odomMap := baseMapNDT * localizer.baseOdom⁻¹ },
    { cloud := pcPtr, guess := baseMap, final := baseMapNDT })

omit [LinearOrder K] in
/-- `publishTF`. -/
def publishTF (localizer : Localizer K ndt.State) (now : K) : TransformStamped K where
  stamp := now + cfg.tfPostdateSec
  frameId := "map"
  childFrameId := cfg.odomFrame
  transform := localizer.odomMap

omit [LinearOrder K] in
/-- `mapCallback`. -/
def mapCallback (localizer : Localizer K ndt.State) (msg : PointCloud2 K) :
    Localizer K ndt.State :=
  { localizer with ndt := ndt.setInputTarget localizer.ndt msg.points }

variable [IsStrictOrderedRing K]

/-- `initPoseWithNDTCallback`. -/
def initPoseWithNDTCallback (localizer : Localizer K ndt.State) (msg : PoseMsg K) (now : K) :
    Localizer K ndt.State × List (Output K) :=
  match localizer.pcPtr with
  | none => (localizer, [])
  | some pcPtr =>
      let (localizer, relocation) := matchCloud math ndt cfg localizer pcPtr (poseMsgToTF msg)
      (localizer, [.relocated relocation, .sent (publishTF ndt cfg localizer now)])

/-- `syncCallback`. -/
def syncCallback (localizer : Localizer K ndt.State) (pcMsg : PointCloud2 K)
    (odomMsg : PoseMsg K) (now : K) : Localizer K ndt.State × List (Output K) :=
  let localizer := { localizer with pcPtr := some pcMsg, baseOdom := poseMsgToTF odomMsg }
  let lastNDTPose := localizer.lastNDTPose.getD localizer.baseOdom
  let localizer := { localizer with lastNDTPose := some lastNDTPose }
  let T := inverseTimes lastNDTPose localizer.baseOdom
  let shift := math.hypot (T.translation 0) (T.translation 1)
  let rotation := |getYaw math T|
  if cfg.threshShift < shift ∨ cfg.threshRot < rotation then
    let (localizer, relocation) :=
      matchCloud math ndt cfg localizer pcMsg (localizer.odomMap * localizer.baseOdom)
    let localizer := { localizer with lastNDTPose := some localizer.baseOdom }
    (localizer, [.relocated relocation, .sent (publishTF ndt cfg localizer now)])
  else (localizer, [.sent (publishTF ndt cfg localizer now)])

/-- One turn of `ros::spin`. -/
def spin (localizer : Localizer K ndt.State) : Callback K → Localizer K ndt.State × List (Output K)
  | .map msg => (mapCallback ndt localizer msg, [])
  | .initialPose msg now => initPoseWithNDTCallback math ndt cfg localizer msg now
  | .sync pcMsg odomMsg now => syncCallback math ndt cfg localizer pcMsg odomMsg now

def step (localizer : Localizer K ndt.State) (callback : Callback K) : Localizer K ndt.State :=
  (spin math ndt cfg localizer callback).1

def react (localizer : Localizer K ndt.State) (callback : Callback K) : List (Output K) :=
  (spin math ndt cfg localizer callback).2

end Callbacks

end ScoutStack.Localization
