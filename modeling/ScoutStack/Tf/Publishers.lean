import Mathlib.Analysis.SpecialFunctions.Trigonometric.Basic
import ScoutStack.MapTools.Transform

/-!
# The static transform publishers

`geometry_tf_publisher.py` and `tf_manager.py`, in exact arithmetic.  The functions of
`tf.transformations` are taken by their documentation; `quaternion_from_matrix` is a
parameter.
-/

namespace ScoutStack

open Rigid
open scoped Matrix

/-- Cosine, sine and pi. -/
noncomputable def realTrigonometry : Trigonometry ℝ := ⟨Real.cos, Real.sin, Real.pi⟩

/-- `geometry_msgs/TransformStamped`, less the stamp. -/
structure TransformStamped where
  frameId : String
  childFrameId : String
  translation : Vector3 ℝ
  rotation : Quaternion ℝ

/-- The quaternion as Mathlib's. -/
def Quaternion.hamilton (rotation : Quaternion ℝ) : Hamilton ℝ :=
  ⟨rotation.w, rotation.x, rotation.y, rotation.z⟩

@[simp] theorem Quaternion.hamilton_re (q : Quaternion ℝ) : q.hamilton.re = q.w := rfl

@[simp] theorem Quaternion.hamilton_imI (q : Quaternion ℝ) : q.hamilton.imI = q.x := rfl

@[simp] theorem Quaternion.hamilton_imJ (q : Quaternion ℝ) : q.hamilton.imJ = q.y := rfl

@[simp] theorem Quaternion.hamilton_imK (q : Quaternion ℝ) : q.hamilton.imK = q.z := rfl

noncomputable section

/-! ## `tf.transformations` -/

/-- `quaternion_from_euler`, axes `sxyz`. -/
def quaternionFromEuler (ai aj ak : ℝ) : Quaternion ℝ :=
  let ci := Real.cos (ai / 2)
  let si := Real.sin (ai / 2)
  let cj := Real.cos (aj / 2)
  let sj := Real.sin (aj / 2)
  let ck := Real.cos (ak / 2)
  let sk := Real.sin (ak / 2)
  { x := cj * (si * ck) - sj * (ci * sk)
    y := cj * (si * sk) + sj * (ci * ck)
    z := cj * (ci * sk) - sj * (si * ck)
    w := cj * (ci * ck) + sj * (si * sk) }

/-- `translation_matrix`. -/
def translationMatrix (direction : Vector3 ℝ) : Matrix (Fin 4) (Fin 4) ℝ :=
  !![1, 0, 0, direction.x;
     0, 1, 0, direction.y;
     0, 0, 1, direction.z;
     0, 0, 0, 1]

/-- `quaternion_matrix`. -/
def quaternionMatrix (q : Quaternion ℝ) : Matrix (Fin 4) (Fin 4) ℝ :=
  let nq := 2 / q.squaredNorm
  !![1 - nq * (q.y * q.y) - nq * (q.z * q.z), nq * (q.x * q.y) - nq * (q.z * q.w),
       nq * (q.x * q.z) + nq * (q.y * q.w), 0;
     nq * (q.x * q.y) + nq * (q.z * q.w), 1 - nq * (q.x * q.x) - nq * (q.z * q.z),
       nq * (q.y * q.z) - nq * (q.x * q.w), 0;
     nq * (q.x * q.z) - nq * (q.y * q.w), nq * (q.y * q.z) + nq * (q.x * q.w),
       1 - nq * (q.x * q.x) - nq * (q.y * q.y), 0;
     0, 0, 0, 1]

/-- `inverse_matrix`. -/
def inverseMatrix (matrix : Matrix (Fin 4) (Fin 4) ℝ) : Matrix (Fin 4) (Fin 4) ℝ := matrix⁻¹

/-- `translation_from_matrix`. -/
def translationFromMatrix (matrix : Matrix (Fin 4) (Fin 4) ℝ) : Vector3 ℝ :=
  ⟨matrix 0 3, matrix 1 3, matrix 2 3⟩

/-! ## `geometry_tf_publisher.py` -/

/-- The transform that `main` broadcasts. -/
def geometryTf (extrinsic : Extrinsic ℝ) : TransformStamped where
  frameId := "odom"
  childFrameId := "camera_init"
  translation := ⟨extrinsic.x, extrinsic.y, extrinsic.z⟩
  rotation :=
    quaternionFromEuler (realTrigonometry.deg2rad extrinsic.rollDeg)
      (realTrigonometry.deg2rad extrinsic.pitchDeg) (realTrigonometry.deg2rad extrinsic.yawDeg)

/-! ## `tf_manager.py` -/

/-- `create_matrix`. -/
def createMatrix (x y z roll pitch yaw : ℝ) : Matrix (Fin 4) (Fin 4) ℝ :=
  translationMatrix ⟨x, y, z⟩ * quaternionMatrix (quaternionFromEuler roll pitch yaw)

/-- `math.radians`. -/
def radians (degrees : ℝ) : ℝ := degrees * (Real.pi / 180)

/-- `matrix` of the loop of `main`. -/
def Extrinsic.matrix (extrinsic : Extrinsic ℝ) : Matrix (Fin 4) (Fin 4) ℝ :=
  createMatrix extrinsic.x extrinsic.y extrinsic.z (radians extrinsic.rollDeg)
    (radians extrinsic.pitchDeg) (radians extrinsic.yawDeg)

/-- An entry of `~transforms`, less its name in the log. -/
structure StaticTransform where
  parent : String
  child : String
  x : Option ℝ := none
  y : Option ℝ := none
  z : Option ℝ := none
  rollDeg : Option ℝ := none
  pitchDeg : Option ℝ := none
  yawDeg : Option ℝ := none
  publishInverse : Option Bool := none

/-- The numbers of the entry, and `0.0` for those that it leaves out. -/
def StaticTransform.extrinsic (item : StaticTransform) : Extrinsic ℝ where
  x := item.x.getD 0
  y := item.y.getD 0
  z := item.z.getD 0
  rollDeg := item.rollDeg.getD 0
  pitchDeg := item.pitchDeg.getD 0
  yawDeg := item.yawDeg.getD 0

section Manager

variable (quaternionFromMatrix : Matrix (Fin 4) (Fin 4) ℝ → Quaternion ℝ)

/-- `matrix_to_tf`. -/
def matrixToTf (matrix : Matrix (Fin 4) (Fin 4) ℝ) (parent child : String) :
    TransformStamped where
  frameId := parent
  childFrameId := child
  translation := translationFromMatrix matrix
  rotation := quaternionFromMatrix matrix

/-- The body of the loop of `main`. -/
def StaticTransform.message (item : StaticTransform) : TransformStamped :=
  if item.publishInverse.getD false then
    matrixToTf quaternionFromMatrix (inverseMatrix item.extrinsic.matrix) item.child item.parent
  else
    matrixToTf quaternionFromMatrix item.extrinsic.matrix item.parent item.child

/-- The messages that `main` broadcasts, `none` when it is not configured. -/
def tfManager (transforms : List StaticTransform) : Option (List TransformStamped) :=
  if transforms = [] then none
  else some (transforms.map (StaticTransform.message quaternionFromMatrix))

end Manager

end

end ScoutStack
