import ScoutStack.MapTools.Transform

/-!
# The points of a lidar

`LidarPubHandler` of `pub_handler.cpp`: the points of a packet are placed by the extrinsic
parameters of their lidar and stored.  The arithmetic on coordinates is exact; times are of type
`uint64_t`.
-/

namespace ScoutStack.LivoxDriver

open Rigid
open scoped Matrix

/-- `LivoxLidarCartesianHighRawPoint`, `LivoxLidarCartesianLowRawPoint` and an echo of
`LivoxLidarDoubleEchoRawPoint`. -/
structure CartesianRawPoint where
  x : ℤ
  y : ℤ
  z : ℤ
  reflectivity : BitVec 8
  tag : BitVec 8

/-- `LivoxLidarSpherPoint`. -/
structure SpherPoint where
  depth : ℕ
  theta : ℕ
  phi : ℕ
  reflectivity : BitVec 8
  tag : BitVec 8

/-- `LivoxLidarDoubleEchoRawPoint`. -/
structure DoubleEchoRawPoint where
  first : CartesianRawPoint
  second : CartesianRawPoint

/-- `raw_data`, as `data_type` says to read it. -/
inductive RawData where
  | cartesianHigh (points : List CartesianRawPoint)
  | cartesianLow (points : List CartesianRawPoint)
  | spherical (points : List SpherPoint)
  | doubleEcho (points : List DoubleEchoRawPoint)
  | unknown (pointNum : ℕ)

/-- `dot_num`. -/
def RawData.pointNum : RawData → ℕ
  | .cartesianHigh points => points.length
  | .cartesianLow points => points.length
  | .spherical points => points.length
  | .doubleEcho points => points.length
  | .unknown pointNum => pointNum

/-- `RawPacket`. -/
structure RawPacket where
  handle : ℕ
  extrinsicEnable : Bool
  lineNum : ℕ
  timeStamp : BitVec 64
  pointInterval : BitVec 64
  rawData : RawData

/-- `PointXyzlt`. -/
structure PointXyzlt (K : Type) where
  x : K
  y : K
  z : K
  intensity : BitVec 8
  tag : BitVec 8
  line : BitVec 8
  offsetTime : BitVec 64

/-- `ExtParameterDetailed`. -/
@[ext] structure ExtParameterDetailed (K : Type) where
  trans : Fin 3 → K
  rotation : Matrix (Fin 3) (Fin 3) K

/-- `LidarExtParameter`, for a handle. -/
structure LidarExtParameter (K : Type) where
  roll : K
  pitch : K
  yaw : K
  x : ℤ
  y : ℤ
  z : ℤ

/-- `LidarPubHandler`. -/
structure LidarPubHandler (K : Type) where
  pointsClouds : List (PointXyzlt K)
  extrinsic : ExtParameterDetailed K
  isSetExtrinsicParams : Bool

section Model

variable {K : Type} [Field K] (trig : Trigonometry K)

/-- What `extrinsic_` is initialized with. -/
def ExtParameterDetailed.initial : ExtParameterDetailed K where
  trans := ![0, 0, 0]
  rotation := !![1, 0, 0; 0, 1, 1; 0, 0, 1]

/-- What `SetLidarsExtParam` stores. -/
def LidarExtParameter.detailed (param : LidarExtParameter K) : ExtParameterDetailed K :=
  let cosRoll := trig.cos (param.roll * trig.pi / 180)
  let cosPitch := trig.cos (param.pitch * trig.pi / 180)
  let cosYaw := trig.cos (param.yaw * trig.pi / 180)
  let sinRoll := trig.sin (param.roll * trig.pi / 180)
  let sinPitch := trig.sin (param.pitch * trig.pi / 180)
  let sinYaw := trig.sin (param.yaw * trig.pi / 180)
  { trans := ![(param.x : K), (param.y : K), (param.z : K)]
    rotation :=
      !![cosPitch * cosYaw, sinRoll * sinPitch * cosYaw - cosRoll * sinYaw,
          cosRoll * sinPitch * cosYaw + sinRoll * sinYaw;
         cosPitch * sinYaw, sinRoll * sinPitch * sinYaw + cosRoll * cosYaw,
          cosRoll * sinPitch * sinYaw - sinRoll * cosYaw;
         -sinPitch, sinRoll * cosPitch, cosRoll * cosPitch] }

/-- A coordinate of a point after `rotation`. -/
def ExtParameterDetailed.row (extrinsic : ExtParameterDetailed K) (i : Fin 3)
    (point : Vector3 K) : K :=
  point.x * extrinsic.rotation i 0 + point.y * extrinsic.rotation i 1 +
    point.z * extrinsic.rotation i 2

/-- A point of cartesian coordinates, of which a metre is `unit`. -/
def ExtParameterDetailed.cartesian (extrinsic : ExtParameterDetailed K) (extrinsicEnable : Bool)
    (unit : K) (raw : CartesianRawPoint) : Vector3 K :=
  let point : Vector3 K := ⟨raw.x, raw.y, raw.z⟩
  if extrinsicEnable then ⟨point.x / unit, point.y / unit, point.z / unit⟩
  else
    { x := (extrinsic.row 0 point + extrinsic.trans 0) / unit
      y := (extrinsic.row 1 point + extrinsic.trans 1) / unit
      z := (extrinsic.row 2 point + extrinsic.trans 2) / unit }

/-- `src_x`, `src_y` and `src_z`. -/
def SpherPoint.src (raw : SpherPoint) : Vector3 K :=
  let radius : K := raw.depth / 1000
  let theta : K := raw.theta / 100 / 180 * trig.pi
  let phi : K := raw.phi / 100 / 180 * trig.pi
  { x := radius * trig.sin theta * trig.cos phi
    y := radius * trig.sin theta * trig.sin phi
    z := radius * trig.cos theta }

/-- A point of spherical coordinates. -/
def ExtParameterDetailed.spherical (extrinsic : ExtParameterDetailed K) (extrinsicEnable : Bool)
    (raw : SpherPoint) : Vector3 K :=
  let src := raw.src trig
  if extrinsicEnable then src
  else
    { x := extrinsic.row 0 src + extrinsic.trans 0 / 1000
      y := extrinsic.row 1 src + extrinsic.trans 1 / 1000
      z := extrinsic.row 2 src + extrinsic.trans 2 / 1000 }

/-- The point of the `i`-th turn of a loop over `raw_data`. -/
def RawPacket.point (pkt : RawPacket) (i : ℕ) (position : Vector3 K)
    (reflectivity tag : BitVec 8) : PointXyzlt K where
  x := position.x
  y := position.y
  z := position.z
  intensity := reflectivity
  tag := tag
  line := BitVec.ofNat 8 (i % pkt.lineNum)
  offsetTime := pkt.timeStamp + BitVec.ofNat 64 i * pkt.pointInterval

namespace LidarPubHandler

/-- `LidarPubHandler()`. -/
def new : LidarPubHandler K where
  pointsClouds := []
  extrinsic := .initial
  isSetExtrinsicParams := false

variable (handler : LidarPubHandler K) (pkt : RawPacket)

/-- `SetLidarsExtParam`. -/
def setLidarsExtParam (param : LidarExtParameter K) : LidarPubHandler K :=
  if handler.isSetExtrinsicParams then handler
  else { handler with extrinsic := param.detailed trig, isSetExtrinsicParams := true }

/-- `GetLidarBaseTime`. -/
def getLidarBaseTime : BitVec 64 := handler.pointsClouds.head?.elim 0 PointXyzlt.offsetTime

/-- `GetRecentTimeStamp`. -/
def getRecentTimeStamp : BitVec 64 := handler.pointsClouds.getLast?.elim 0 PointXyzlt.offsetTime

/-- `GetLidarPointClouds` with an empty vector: what is left. -/
def taken : LidarPubHandler K := { handler with pointsClouds := [] }

/-- The points that a loop of `LidarPubHandler` appends. -/
def pushBack (points : List (PointXyzlt K)) : LidarPubHandler K :=
  { handler with pointsClouds := handler.pointsClouds ++ points }

/-- The loops of `ProcessCartesianHighPoint` and `ProcessCartesianLowPoint`. -/
def processCartesianPoint (unit : K) (raw : List CartesianRawPoint) : LidarPubHandler K :=
  handler.pushBack (raw.mapIdx fun i point =>
    pkt.point i (handler.extrinsic.cartesian pkt.extrinsicEnable unit point) point.reflectivity
      point.tag)

/-- `ProcessCartesianHighPoint`. -/
def processCartesianHighPoint (raw : List CartesianRawPoint) : LidarPubHandler K :=
  handler.processCartesianPoint pkt 1000 raw

/-- `ProcessCartesianLowPoint`. -/
def processCartesianLowPoint (raw : List CartesianRawPoint) : LidarPubHandler K :=
  handler.processCartesianPoint pkt 100 raw

/-- `ProcessSphericalPoint`. -/
def processSphericalPoint (raw : List SpherPoint) : LidarPubHandler K :=
  handler.pushBack (raw.mapIdx fun i point =>
    pkt.point i (handler.extrinsic.spherical trig pkt.extrinsicEnable point) point.reflectivity
      point.tag)

/-- `ProcessDoubleEchoPoint`. -/
def processDoubleEchoPoint (raw : List DoubleEchoRawPoint) : LidarPubHandler K :=
  handler.pushBack (raw.mapIdx fun i point =>
    [pkt.point i (handler.extrinsic.cartesian pkt.extrinsicEnable 1000 point.first)
        point.first.reflectivity point.first.tag,
      pkt.point i (handler.extrinsic.cartesian pkt.extrinsicEnable 1000 point.second)
        point.second.reflectivity point.second.tag]).flatten

/-- `PointCloudProcess`, for a packet of `kLivoxLidarType`. -/
def pointCloudProcess : LidarPubHandler K :=
  match pkt.rawData with
  | .cartesianHigh raw => handler.processCartesianHighPoint pkt raw
  | .cartesianLow raw => handler.processCartesianLowPoint pkt raw
  | .spherical raw => handler.processSphericalPoint trig pkt raw
  | .doubleEcho raw => handler.processDoubleEchoPoint pkt raw
  | .unknown _ => handler

end LidarPubHandler

end Model

/-! ## Where the points should be -/

section Mounting

variable {K : Type} [Field K] (trig : Trigonometry K)

/-- How a lidar is mounted: the motion that the map transformer makes of its parameters, of which
a metre is `unit`.  A lidar without parameters is sheared. -/
def mounting : Option (LidarExtParameter K) → K → Motion K
  | some param, unit => Extrinsic.tf trig
      ⟨param.x / unit, param.y / unit, param.z / unit, param.roll, param.pitch, param.yaw⟩
  | none, _ => ⟨!![1, 0, 0; 0, 1, 1; 0, 0, 1], 0⟩

/-- A point moved. -/
def moved (motion : Motion K) (point : Vector3 K) : Vector3 K :=
  let image := motion.apply point.column
  ⟨image 0, image 1, image 2⟩

/-- What a cartesian point measures, in metres. -/
def CartesianRawPoint.metres (unit : K) (raw : CartesianRawPoint) : Vector3 K :=
  ⟨raw.x / unit, raw.y / unit, raw.z / unit⟩

/-- The points of a packet where they should be. -/
def RawPacket.placed (mount : K → Motion K) (pkt : RawPacket) : List (PointXyzlt K) :=
  match pkt.rawData with
  | .cartesianHigh raw => raw.mapIdx fun i point =>
      pkt.point i (moved (mount 1000) (point.metres 1000)) point.reflectivity point.tag
  | .cartesianLow raw => raw.mapIdx fun i point =>
      pkt.point i (moved (mount 100) (point.metres 100)) point.reflectivity point.tag
  | .spherical raw => raw.mapIdx fun i point =>
      pkt.point i (moved (mount 1000) (point.src trig)) point.reflectivity point.tag
  | .doubleEcho raw => (raw.mapIdx fun i point =>
      [pkt.point i (moved (mount 1000) (point.first.metres 1000)) point.first.reflectivity
          point.first.tag,
        pkt.point i (moved (mount 1000) (point.second.metres 1000)) point.second.reflectivity
          point.second.tag]).flatten
  | .unknown _ => []

/-- What `extrinsic_` should be. -/
def ExtParameterDetailed.stored (param : Option (LidarExtParameter K)) : ExtParameterDetailed K :=
  param.elim .initial (LidarExtParameter.detailed trig)

variable {trig}

/-- The rotation is that of the map transformer. -/
theorem rotation_detailed (param : LidarExtParameter K) (unit : K) :
    (param.detailed trig).rotation = (mounting trig (some param) unit).linear := by
  ext i j
  simp only [LidarExtParameter.detailed, mounting, Extrinsic.tf, rotate, Trigonometry.angleAxis,
    Trigonometry.deg2rad, Rigid.angleAxis, one_mul]
  fin_cases i <;> fin_cases j <;> simp [Matrix.mul_apply, Fin.sum_univ_succ] <;> ring

/-- What is stored is the mounting. -/
theorem mounting_eq (param : Option (LidarExtParameter K)) (unit : K) :
    mounting trig param unit =
      ⟨(ExtParameterDetailed.stored trig param).rotation,
        fun i => (ExtParameterDetailed.stored trig param).trans i / unit⟩ := by
  cases param with
  | none =>
      ext i
      · rfl
      · fin_cases i <;> simp [mounting, ExtParameterDetailed.stored, ExtParameterDetailed.initial]
  | some param =>
      ext i
      · rw [ExtParameterDetailed.stored, Option.elim_some, rotation_detailed param unit]
      · fin_cases i <;> rfl

theorem row_eq (extrinsic : ExtParameterDetailed K) (i : Fin 3) (point : Vector3 K) :
    extrinsic.row i point = (extrinsic.rotation *ᵥ point.column) i := by
  simp [ExtParameterDetailed.row, Vector3.column, Matrix.mulVec, dotProduct, Fin.sum_univ_succ]
  ring

theorem cartesian_eq (param : Option (LidarExtParameter K)) (unit : K) (raw : CartesianRawPoint) :
    (ExtParameterDetailed.stored trig param).cartesian false unit raw =
      moved (mounting trig param unit) (raw.metres unit) := by
  have scaled : ∀ (extrinsic : ExtParameterDetailed K) i (point : Vector3 K),
      extrinsic.row i ⟨point.x / unit, point.y / unit, point.z / unit⟩ =
        extrinsic.row i point / unit := by
    intro extrinsic i point
    simp only [ExtParameterDetailed.row]
    ring
  simp only [ExtParameterDetailed.cartesian, Bool.false_eq_true, if_false, moved, mounting_eq,
    Motion.apply, CartesianRawPoint.metres, Pi.add_apply, ← row_eq, add_div]
  rw [scaled _ 0 ⟨_, _, _⟩, scaled _ 1 ⟨_, _, _⟩, scaled _ 2 ⟨_, _, _⟩]

theorem spherical_eq (param : Option (LidarExtParameter K)) (raw : SpherPoint) :
    (ExtParameterDetailed.stored trig param).spherical trig false raw =
      moved (mounting trig param 1000) (raw.src trig) := by
  simp only [ExtParameterDetailed.spherical, Bool.false_eq_true, if_false, moved, mounting_eq,
    Motion.apply, Pi.add_apply, ← row_eq]

/-- A handler that stores the parameters of its lidar puts every point where it should be. -/
theorem pointCloudProcess_spec {handler : LidarPubHandler K} {param : Option (LidarExtParameter K)}
    (stored : handler.extrinsic = .stored trig param) {pkt : RawPacket}
    (disabled : pkt.extrinsicEnable = false) :
    handler.pointCloudProcess trig pkt =
      handler.pushBack (pkt.placed trig (mounting trig param)) := by
  rw [LidarPubHandler.pointCloudProcess, RawPacket.placed]
  cases pkt.rawData with
  | cartesianHigh raw =>
      simp only [LidarPubHandler.processCartesianHighPoint, LidarPubHandler.processCartesianPoint,
        stored, disabled, cartesian_eq]
  | cartesianLow raw =>
      simp only [LidarPubHandler.processCartesianLowPoint, LidarPubHandler.processCartesianPoint,
        stored, disabled, cartesian_eq]
  | spherical raw =>
      simp only [LidarPubHandler.processSphericalPoint, stored, disabled, spherical_eq]
  | doubleEcho raw =>
      simp only [LidarPubHandler.processDoubleEchoPoint, stored, disabled, cartesian_eq]
  | unknown pointNum => simp [LidarPubHandler.pushBack]

end Mounting

end ScoutStack.LivoxDriver
