import ScoutStack.Lib.Double
import ScoutStack.Lib.Rigid
import ScoutStack.MapTools.Raster

/-!
# The map transformer

`pcd_transform.cpp`: the extrinsic from the parameter server, `tf` as Eigen composes it, and
the cloud that is saved.  Arithmetic is exact; cosine, sine and pi are in `Trigonometry`.
-/

namespace ScoutStack

open Rigid
open scoped Matrix

/-- `std::cos`, `std::sin` and `kPi`. -/
structure Trigonometry (K : Type) where
  cos : K → K
  sin : K → K
  pi : K

/-- Six numbers of `odom_to_camera_init`, in metres and degrees. -/
structure Extrinsic (K : Type) where
  x : K
  y : K
  z : K
  rollDeg : K
  pitchDeg : K
  yawDeg : K
  deriving DecidableEq

/-- The coordinates as a column. -/
def Vector3.column {K : Type} (vector : Vector3 K) : Fin 3 → K := ![vector.x, vector.y, vector.z]

section Transform

variable {K : Type} [Field K]

/-- `deg2rad`. -/
def Trigonometry.deg2rad (trig : Trigonometry K) (deg : K) : K := deg * trig.pi / 180

/-- `Eigen::AngleAxisf(angle, axis)` as a matrix. -/
def Trigonometry.angleAxis (trig : Trigonometry K) (angle : K) (axis : Fin 3 → K) :
    Matrix (Fin 3) (Fin 3) K :=
  Rigid.angleAxis (trig.cos angle) (trig.sin angle) axis

/-- `Eigen::Affine3f::rotate`. -/
def rotate (tf : Motion K) (rotation : Matrix (Fin 3) (Fin 3) K) : Motion K where
  linear := tf.linear * rotation
  translation := tf.translation

namespace Extrinsic

variable (trig : Trigonometry K) (extrinsic : Extrinsic K)

/-- `x`, `y` and `z`. -/
def translation : Vector3 K := ⟨extrinsic.x, extrinsic.y, extrinsic.z⟩

/-- `tf`. -/
def tf : Motion K :=
  let roll := trig.deg2rad extrinsic.rollDeg
  let pitch := trig.deg2rad extrinsic.pitchDeg
  let yaw := trig.deg2rad extrinsic.yawDeg
  let tf : Motion K := ⟨1, extrinsic.translation.column⟩
  let tf := rotate tf (trig.angleAxis yaw ![0, 0, 1])
  let tf := rotate tf (trig.angleAxis pitch ![0, 1, 0])
  rotate tf (trig.angleAxis roll ![1, 0, 0])

/-- What `pcl::transformPointCloud` does to a finite point. -/
def transformPoint (point : Point K) : Point K :=
  let position := (extrinsic.tf trig).apply point.position.column
  { point with x := position 0, y := position 1, z := position 2 }

end Extrinsic

/-- Private parameters of the node on the parameter server. -/
structure TransformParameters (K : Type) where
  inputPcd : Option String := none
  outputPcd : Option String := none
  x : Option (Double K) := none
  y : Option (Double K) := none
  z : Option (Double K) := none
  rollDeg : Option (Double K) := none
  pitchDeg : Option (Double K) := none
  yawDeg : Option (Double K) := none

/-- The variables that `main` fills from the parameter server. -/
structure PcdTransform (K : Type) where
  inputPcd : String
  outputPcd : String
  x : Double K
  y : Double K
  z : Double K
  rollDeg : Double K
  pitchDeg : Double K
  yawDeg : Double K

namespace PcdTransform

def ofParameters (server : TransformParameters K) : PcdTransform K where
  inputPcd := server.inputPcd.getD ""
  outputPcd := server.outputPcd.getD ""
  x := server.x.getD (.finite 0)
  y := server.y.getD (.finite 0)
  z := server.z.getD (.finite 0)
  rollDeg := server.rollDeg.getD (.finite 0)
  pitchDeg := server.pitchDeg.getD (.finite 0)
  yawDeg := server.yawDeg.getD (.finite 0)

variable (node : PcdTransform K)

/-- The extrinsic, when it is six numbers. -/
def extrinsic : Option (Extrinsic K) :=
  match node.x, node.y, node.z, node.rollDeg, node.pitchDeg, node.yawDeg with
  | .finite x, .finite y, .finite z, .finite rollDeg, .finite pitchDeg, .finite yawDeg =>
      some ⟨x, y, z, rollDeg, pitchDeg, yawDeg⟩
  | _, _, _, _, _, _ => none

/-- `pcl::transformPointCloud`.  An infinite or undefined entry of `tf` leaves no point
finite; a point that is not finite stays so. -/
def transformPointCloud (trig : Trigonometry K) (cloud : PcdCloud K) : PcdCloud K where
  points := cloud.points.map fun point =>
    node.extrinsic.bind fun extrinsic => point.map (extrinsic.transformPoint trig)
  size_lt := by simpa using cloud.size_lt

/-- `main` up to `savePCDFileBinary`: the cloud to save, or what the node dies of. -/
def transform (trig : Trigonometry K) (loadPCDFile : String → Option (PcdCloud K)) :
    Except String (PcdCloud K) :=
  if node.inputPcd = "" ∨ node.outputPcd = "" then .error "input_pcd/output_pcd is empty"
  else
    match loadPCDFile node.inputPcd with
    | none => .error ("Failed to load PCD: " ++ node.inputPcd)
    | some cloud => .ok (node.transformPointCloud trig cloud)

end PcdTransform

end Transform

end ScoutStack
