import ScoutStack.Lib.Numerals
import Mathlib.Algebra.Order.Floor.Ring
import Mathlib.Data.Rat.Floor
import Mathlib.Tactic.FieldSimp
import Mathlib.Tactic.Linarith
import Mathlib.Tactic.Ring

/-!
# Data types of the point-cloud mapper

Points, poses, messages and voxel keys of `pointcloud_mapper_node.cpp`.  The
`float` and `double` arithmetic of the node is exact arithmetic in an ordered
field `K`; narrowing a `double` to a `float` is the identity.  A coordinate that
is not finite only exists in a raw input cloud, as a missing point.
-/

namespace ScoutStack

/-- `ros::Time`, in nanoseconds. -/
abbrev Time := ℕ

/-- `ros::Time::isZero`. -/
def Time.isZero (stamp : Time) : Bool := stamp == 0

/-- `Eigen::Vector3d`. -/
@[ext] structure Vector3 (K : Type*) where
  x : K
  y : K
  z : K
  deriving DecidableEq

/-- `Eigen::Quaterniond`. -/
structure Quaternion (K : Type*) where
  w : K
  x : K
  y : K
  z : K
  deriving DecidableEq

/-- `pcl::PointXYZI` with finite coordinates. -/
@[ext] structure Point (K : Type*) where
  x : K
  y : K
  z : K
  intensity : K
  deriving DecidableEq

/-- `pcl::PointCloud<Point>`. -/
abbrev Cloud (K : Type*) := List (Point K)

/-- `VoxelKey`.  The `int64_t` fields are integers. -/
structure VoxelKey where
  x : ℤ
  y : ℤ
  z : ℤ
  deriving DecidableEq

/-- `std_msgs/Header`, less the sequence number. -/
structure Header where
  stamp : Time
  frameId : String
  deriving DecidableEq

/-- `nav_msgs/Odometry`: the header and the pose. -/
structure Odometry (K : Type*) where
  header : Header
  position : Vector3 K
  orientation : Quaternion K

/-- `sensor_msgs/PointCloud2`.  A point with a coordinate that is not finite is
`none`. -/
structure PointCloud2 (K : Type*) where
  header : Header
  points : List (Option (Point K))

section Arithmetic

variable {K : Type*} [Field K]

namespace Vector3

instance : Zero (Vector3 K) := ⟨⟨0, 0, 0⟩⟩

instance : Add (Vector3 K) :=
  ⟨fun left right => ⟨left.x + right.x, left.y + right.y, left.z + right.z⟩⟩

instance : Sub (Vector3 K) :=
  ⟨fun left right => ⟨left.x - right.x, left.y - right.y, left.z - right.z⟩⟩

/-- Product with a scalar. -/
def scale (vector : Vector3 K) (factor : K) : Vector3 K :=
  ⟨vector.x * factor, vector.y * factor, vector.z * factor⟩

/-- Quotient by a scalar. -/
def divide (vector : Vector3 K) (divisor : K) : Vector3 K :=
  ⟨vector.x / divisor, vector.y / divisor, vector.z / divisor⟩

def squaredNorm (vector : Vector3 K) : K :=
  vector.x * vector.x + vector.y * vector.y + vector.z * vector.z

def cross (left right : Vector3 K) : Vector3 K :=
  ⟨left.y * right.z - left.z * right.y, left.z * right.x - left.x * right.z,
    left.x * right.y - left.y * right.x⟩

@[simp] theorem zero_x : (0 : Vector3 K).x = 0 := rfl
@[simp] theorem zero_y : (0 : Vector3 K).y = 0 := rfl
@[simp] theorem zero_z : (0 : Vector3 K).z = 0 := rfl
@[simp] theorem add_x (left right : Vector3 K) : (left + right).x = left.x + right.x := rfl
@[simp] theorem add_y (left right : Vector3 K) : (left + right).y = left.y + right.y := rfl
@[simp] theorem add_z (left right : Vector3 K) : (left + right).z = left.z + right.z := rfl
@[simp] theorem sub_x (left right : Vector3 K) : (left - right).x = left.x - right.x := rfl
@[simp] theorem sub_y (left right : Vector3 K) : (left - right).y = left.y - right.y := rfl
@[simp] theorem sub_z (left right : Vector3 K) : (left - right).z = left.z - right.z := rfl
@[simp] theorem scale_x (vector : Vector3 K) (factor : K) :
    (vector.scale factor).x = vector.x * factor := rfl
@[simp] theorem scale_y (vector : Vector3 K) (factor : K) :
    (vector.scale factor).y = vector.y * factor := rfl
@[simp] theorem scale_z (vector : Vector3 K) (factor : K) :
    (vector.scale factor).z = vector.z * factor := rfl
@[simp] theorem divide_x (vector : Vector3 K) (divisor : K) :
    (vector.divide divisor).x = vector.x / divisor := rfl
@[simp] theorem divide_y (vector : Vector3 K) (divisor : K) :
    (vector.divide divisor).y = vector.y / divisor := rfl
@[simp] theorem divide_z (vector : Vector3 K) (divisor : K) :
    (vector.divide divisor).z = vector.z / divisor := rfl

end Vector3

namespace Quaternion

def squaredNorm (rotation : Quaternion K) : K :=
  rotation.w * rotation.w + rotation.x * rotation.x + rotation.y * rotation.y +
    rotation.z * rotation.z

def divide (rotation : Quaternion K) (divisor : K) : Quaternion K :=
  ⟨rotation.w / divisor, rotation.x / divisor, rotation.y / divisor, rotation.z / divisor⟩

def conjugate (rotation : Quaternion K) : Quaternion K :=
  ⟨rotation.w, -rotation.x, -rotation.y, -rotation.z⟩

/-- Eigen's `rotation * vector`. -/
def rotate (rotation : Quaternion K) (vector : Vector3 K) : Vector3 K :=
  let axis : Vector3 K := ⟨rotation.x, rotation.y, rotation.z⟩
  let uv := (axis.cross vector).scale 2
  vector + uv.scale rotation.w + axis.cross uv

end Quaternion

namespace Point

/-- The `Eigen::Vector3d` made of the coordinates. -/
def position (point : Point K) : Vector3 K := ⟨point.x, point.y, point.z⟩

end Point

/-- `(later - earlier).toSec()`. -/
def toSec (later earlier : Time) : K :=
  ((later : K) - (earlier : K)) / 1000000000

@[simp] theorem toSec_self (stamp : Time) : (toSec stamp stamp : K) = 0 := by
  simp [toSec]

section Ordered

variable [LinearOrder K] [IsStrictOrderedRing K]

theorem toSec_le_toSec_left {first second : Time} (earlier : Time) (ordered : first ≤ second) :
    (toSec first earlier : K) ≤ toSec second earlier := by
  have cast : (first : K) ≤ second := Nat.cast_le.mpr ordered
  unfold toSec
  gcongr

theorem toSec_le_toSec_right {first second : Time} (later : Time) (ordered : first ≤ second) :
    (toSec later second : K) ≤ toSec later first := by
  have cast : (first : K) ≤ second := Nat.cast_le.mpr ordered
  unfold toSec
  gcongr

end Ordered

/-- `voxelKey(point, voxel_size)`. -/
def voxelKey [LinearOrder K] [FloorRing K] (point : Vector3 K) (voxelSize : K) : VoxelKey :=
  ⟨⌊point.x / voxelSize⌋, ⌊point.y / voxelSize⌋, ⌊point.z / voxelSize⌋⟩

end Arithmetic

end ScoutStack
