import ScoutStack.Lib.Numerals
import Mathlib.Algebra.Quaternion
import Mathlib.LinearAlgebra.Matrix.NonsingularInverse
import Mathlib.LinearAlgebra.Matrix.Notation
import Mathlib.Tactic.FieldSimp
import Mathlib.Tactic.FinCases
import Mathlib.Tactic.Linarith
import Mathlib.Tactic.LinearCombination
import Mathlib.Tactic.Ring

/-!
# Rigid motions

Motions of space as a matrix and a translation, their homogeneous matrices, the group of
those with an orthogonal matrix, the rotation that a quaternion denotes, and the rotation
about an axis.  The quaternion acts by conjugation; its matrix and the axis rotations are
connected to that action.
-/

namespace Rigid

open scoped Matrix

/-- An affine map of space: `linear` and then `translation`. -/
@[ext] structure Motion (K : Type*) where
  linear : Matrix (Fin 3) (Fin 3) K
  translation : Fin 3 → K

namespace Motion

variable {K : Type*} [CommRing K]

/-- The image of a point. -/
def apply (motion : Motion K) (point : Fin 3 → K) : Fin 3 → K :=
  motion.linear *ᵥ point + motion.translation

instance : One (Motion K) := ⟨⟨1, 0⟩⟩

/-- First `inner`, then `outer`. -/
instance : Mul (Motion K) :=
  ⟨fun outer inner => ⟨outer.linear * inner.linear,
    outer.linear *ᵥ inner.translation + outer.translation⟩⟩

@[simp] theorem one_linear : (1 : Motion K).linear = 1 := rfl

@[simp] theorem one_translation : (1 : Motion K).translation = 0 := rfl

@[simp] theorem mul_linear (outer inner : Motion K) :
    (outer * inner).linear = outer.linear * inner.linear := rfl

@[simp] theorem mul_translation (outer inner : Motion K) :
    (outer * inner).translation =
      outer.linear *ᵥ inner.translation + outer.translation := rfl

/-- The motion with the transposed matrix that takes the origin's image to the origin. -/
def reverse (motion : Motion K) : Motion K where
  linear := motion.linearᵀ
  translation := -(motion.linearᵀ *ᵥ motion.translation)

theorem mul_reverse {motion : Motion K} (orthogonal : motion.linear * motion.linearᵀ = 1) :
    motion * motion.reverse = 1 := by
  ext1
  · exact orthogonal
  · simp [reverse, Matrix.mulVec_neg, orthogonal]

/-- The homogeneous matrix. -/
def homogeneous (motion : Motion K) : Matrix (Fin 4) (Fin 4) K :=
  !![motion.linear 0 0, motion.linear 0 1, motion.linear 0 2, motion.translation 0;
     motion.linear 1 0, motion.linear 1 1, motion.linear 1 2, motion.translation 1;
     motion.linear 2 0, motion.linear 2 1, motion.linear 2 2, motion.translation 2;
     0, 0, 0, 1]

@[simp] theorem homogeneous_one : (1 : Motion K).homogeneous = 1 := by
  ext i j
  fin_cases i <;> fin_cases j <;> simp [homogeneous]

theorem homogeneous_mul (outer inner : Motion K) :
    (outer * inner).homogeneous = outer.homogeneous * inner.homogeneous := by
  ext i j
  fin_cases i <;> fin_cases j <;>
    simp [homogeneous, Matrix.mul_apply, Matrix.mulVec, dotProduct, Fin.sum_univ_succ] <;> ring

theorem homogeneous_injective : Function.Injective (homogeneous : Motion K → _) := by
  intro left right same
  have entry (i j : Fin 4) : left.homogeneous i j = right.homogeneous i j := by rw [same]
  ext i j
  · fin_cases i <;> fin_cases j
    · exact entry 0 0
    · exact entry 0 1
    · exact entry 0 2
    · exact entry 1 0
    · exact entry 1 1
    · exact entry 1 2
    · exact entry 2 0
    · exact entry 2 1
    · exact entry 2 2
  · fin_cases i
    · exact entry 0 3
    · exact entry 1 3
    · exact entry 2 3

/-- The homogeneous matrix acts as the motion does. -/
theorem homogeneous_mulVec (motion : Motion K) (point : Fin 3 → K) :
    motion.homogeneous *ᵥ ![point 0, point 1, point 2, 1] =
      ![motion.apply point 0, motion.apply point 1, motion.apply point 2, 1] := by
  ext i
  fin_cases i <;>
    simp [homogeneous, apply, Matrix.mulVec, dotProduct, Fin.sum_univ_succ] <;> ring

/-- The inverse of the homogeneous matrix of a rigid motion. -/
theorem homogeneous_inv {motion : Motion K}
    (orthogonal : motion.linear * motion.linearᵀ = 1) :
    motion.homogeneous⁻¹ = motion.reverse.homogeneous := by
  apply Matrix.inv_eq_right_inv
  rw [← homogeneous_mul, mul_reverse orthogonal, homogeneous_one]

end Motion

/-! ## Poses -/

/-- A motion with an orthogonal matrix. -/
structure Pose (K : Type*) [CommRing K] extends Motion K where
  orthogonal : linear * linearᵀ = 1

namespace Pose

variable {K : Type*} [CommRing K]

theorem toMotion_injective : Function.Injective (toMotion : Pose K → Motion K) := by
  rintro ⟨left, _⟩ ⟨right, _⟩ same
  cases same
  rfl

theorem transpose_mul_linear (pose : Pose K) : pose.linearᵀ * pose.linear = 1 :=
  mul_eq_one_comm.mp pose.orthogonal

instance : One (Pose K) := ⟨{ toMotion := 1, orthogonal := by simp }⟩

/-- First `inner`, then `outer`. -/
instance : Mul (Pose K) where
  mul outer inner :=
    { toMotion := outer.toMotion * inner.toMotion
      orthogonal := by
        calc
          outer.linear * inner.linear * (outer.linear * inner.linear)ᵀ
              = outer.linear * (inner.linear * inner.linearᵀ) * outer.linearᵀ := by
                simp only [Matrix.transpose_mul, Matrix.mul_assoc]
          _ = 1 := by rw [inner.orthogonal, Matrix.mul_one, outer.orthogonal] }

instance : Inv (Pose K) where
  inv pose :=
    { toMotion := pose.reverse
      orthogonal := by
        rw [Motion.reverse, Matrix.transpose_transpose]
        exact pose.transpose_mul_linear }

@[simp] theorem one_toMotion : (1 : Pose K).toMotion = 1 := rfl

@[simp] theorem mul_toMotion (outer inner : Pose K) :
    (outer * inner).toMotion = outer.toMotion * inner.toMotion := rfl

@[simp] theorem inv_toMotion (pose : Pose K) : pose⁻¹.toMotion = pose.reverse := rfl

/-- Poses are a group. -/
instance : Group (Pose K) where
  mul_assoc first second third := by
    apply toMotion_injective
    ext1
    · simp [Matrix.mul_assoc]
    · simp [Matrix.mulVec_add, Matrix.mulVec_mulVec, add_assoc]
  one_mul pose := by
    apply toMotion_injective
    ext1 <;> simp
  mul_one pose := by
    apply toMotion_injective
    ext1 <;> simp
  inv_mul_cancel pose := by
    apply toMotion_injective
    ext1
    · exact pose.transpose_mul_linear
    · simp [Motion.reverse]

end Pose

/-- Mathlib's quaternions. -/
abbrev Hamilton (K : Type*) [Zero K] [One K] [Neg K] := Quaternion K

section Quaternions

variable {K : Type*} [Field K] [LinearOrder K] [IsStrictOrderedRing K]

/-- The quaternion without a real part. -/
def embed (vector : Fin 3 → K) : Quaternion K := ⟨0, vector 0, vector 1, vector 2⟩

/-- The imaginary part of a quaternion. -/
def imaginary (q : Quaternion K) : Fin 3 → K := ![q.imI, q.imJ, q.imK]

omit [LinearOrder K] [IsStrictOrderedRing K] in
@[simp] theorem embed_re (vector : Fin 3 → K) : (embed vector).re = 0 := rfl

omit [LinearOrder K] [IsStrictOrderedRing K] in
@[simp] theorem embed_imI (vector : Fin 3 → K) : (embed vector).imI = vector 0 := rfl

omit [LinearOrder K] [IsStrictOrderedRing K] in
@[simp] theorem embed_imJ (vector : Fin 3 → K) : (embed vector).imJ = vector 1 := rfl

omit [LinearOrder K] [IsStrictOrderedRing K] in
@[simp] theorem embed_imK (vector : Fin 3 → K) : (embed vector).imK = vector 2 := rfl

/-- The rotation that a quaternion denotes. -/
def turn (q : Quaternion K) (point : Fin 3 → K) : Fin 3 → K :=
  imaginary (q * embed point * q⁻¹)

/-- Conjugation leaves the real part zero. -/
theorem embed_turn (q : Quaternion K) (point : Fin 3 → K) :
    embed (turn q point) = q * embed point * q⁻¹ := by
  have inverse : q⁻¹ = (Quaternion.normSq q)⁻¹ • star q := rfl
  ext
  · simp [inverse]
    right
    ring
  · rfl
  · rfl
  · rfl

theorem turn_mul (p q : Quaternion K) (point : Fin 3 → K) :
    turn (p * q) point = turn p (turn q point) := by
  rw [turn, turn, embed_turn, mul_inv_rev]
  simp only [mul_assoc]

/-- The matrix of the rotation that a quaternion denotes. -/
def rotation (q : Quaternion K) : Matrix (Fin 3) (Fin 3) K :=
  let s := 2 / Quaternion.normSq q
  !![1 - s * (q.imJ * q.imJ + q.imK * q.imK), s * (q.imI * q.imJ - q.imK * q.re),
       s * (q.imI * q.imK + q.imJ * q.re);
     s * (q.imI * q.imJ + q.imK * q.re), 1 - s * (q.imI * q.imI + q.imK * q.imK),
       s * (q.imJ * q.imK - q.imI * q.re);
     s * (q.imI * q.imK - q.imJ * q.re), s * (q.imJ * q.imK + q.imI * q.re),
       1 - s * (q.imI * q.imI + q.imJ * q.imJ)]

/-- The matrix acts as the quaternion does. -/
theorem rotation_mulVec {q : Quaternion K} (nonzero : q ≠ 0) (point : Fin 3 → K) :
    rotation q *ᵥ point = turn q point := by
  have norm : Quaternion.normSq q ≠ 0 := Quaternion.normSq_ne_zero.mpr nonzero
  have expand : Quaternion.normSq q = q.re ^ 2 + q.imI ^ 2 + q.imJ ^ 2 + q.imK ^ 2 :=
    Quaternion.normSq_def' q
  have inverse : q⁻¹ = (Quaternion.normSq q)⁻¹ • star q := rfl
  unfold rotation turn
  rw [inverse]
  generalize Quaternion.normSq q = n at norm expand
  ext i
  fin_cases i
  all_goals
    simp [imaginary, Matrix.mulVec, dotProduct, Fin.sum_univ_succ]
    field_simp
    rw [expand]
    ring

omit [LinearOrder K] [IsStrictOrderedRing K] in
@[simp] theorem rotation_coe (real : K) : rotation (real : Quaternion K) = 1 := by
  ext i j
  fin_cases i <;> fin_cases j <;> simp [rotation]

theorem rotation_mul {p q : Quaternion K} (left : p ≠ 0) (right : q ≠ 0) :
    rotation (p * q) = rotation p * rotation q := by
  apply Matrix.ext_of_mulVec_single
  intro i
  rw [rotation_mulVec (mul_ne_zero left right), turn_mul, ← rotation_mulVec right,
    ← rotation_mulVec left, Matrix.mulVec_mulVec]

theorem rotation_star (q : Quaternion K) : rotation (star q) = (rotation q)ᵀ := by
  ext i j
  fin_cases i <;> fin_cases j <;> simp [rotation]
  all_goals
    left
    ring

theorem rotation_mul_transpose {q : Quaternion K} (nonzero : q ≠ 0) :
    rotation q * (rotation q)ᵀ = 1 := by
  have reversed : star q ≠ 0 := star_ne_zero.mpr nonzero
  rw [← rotation_star, ← rotation_mul nonzero reversed, Quaternion.self_mul_star,
    rotation_coe]

end Quaternions

section Axes

variable {K : Type*} [CommRing K]

/-- The rotation about an axis of length one, by an angle with the given cosine and sine. -/
def angleAxis (cos sin : K) (axis : Fin 3 → K) : Matrix (Fin 3) (Fin 3) K :=
  let sinAxis := sin • axis
  let cos1Axis := (1 - cos) • axis
  !![cos1Axis 0 * axis 0 + cos, cos1Axis 0 * axis 1 - sinAxis 2,
       cos1Axis 0 * axis 2 + sinAxis 1;
     cos1Axis 0 * axis 1 + sinAxis 2, cos1Axis 1 * axis 1 + cos,
       cos1Axis 1 * axis 2 - sinAxis 0;
     cos1Axis 0 * axis 2 - sinAxis 1, cos1Axis 1 * axis 2 + sinAxis 0,
       cos1Axis 2 * axis 2 + cos]

end Axes

section Axes

variable {K : Type*} [Field K] [LinearOrder K] [IsStrictOrderedRing K]

/-- The quaternion of half an angle about an axis. -/
def halfAngle (cos sin : K) (axis : Fin 3 → K) : Quaternion K :=
  ⟨cos, sin * axis 0, sin * axis 1, sin * axis 2⟩

omit [LinearOrder K] [IsStrictOrderedRing K] in
@[simp] theorem halfAngle_re (cos sin : K) (axis : Fin 3 → K) :
    (halfAngle cos sin axis).re = cos := rfl

omit [LinearOrder K] [IsStrictOrderedRing K] in
@[simp] theorem halfAngle_imI (cos sin : K) (axis : Fin 3 → K) :
    (halfAngle cos sin axis).imI = sin * axis 0 := rfl

omit [LinearOrder K] [IsStrictOrderedRing K] in
@[simp] theorem halfAngle_imJ (cos sin : K) (axis : Fin 3 → K) :
    (halfAngle cos sin axis).imJ = sin * axis 1 := rfl

omit [LinearOrder K] [IsStrictOrderedRing K] in
@[simp] theorem halfAngle_imK (cos sin : K) (axis : Fin 3 → K) :
    (halfAngle cos sin axis).imK = sin * axis 2 := rfl

omit [LinearOrder K] [IsStrictOrderedRing K] in
theorem normSq_halfAngle {cos sin : K} {axis : Fin 3 → K} (circle : cos ^ 2 + sin ^ 2 = 1)
    (unit : axis 0 ^ 2 + axis 1 ^ 2 + axis 2 ^ 2 = 1) :
    Quaternion.normSq (halfAngle cos sin axis) = 1 := by
  rw [Quaternion.normSq_def']
  simp only [halfAngle_re, halfAngle_imI, halfAngle_imJ, halfAngle_imK]
  linear_combination circle + sin ^ 2 * unit

/-- The quaternion of half an angle turns by the whole angle. -/
theorem rotation_halfAngle {cos sin : K} {axis : Fin 3 → K} (circle : cos ^ 2 + sin ^ 2 = 1)
    (unit : axis 0 ^ 2 + axis 1 ^ 2 + axis 2 ^ 2 = 1) :
    rotation (halfAngle cos sin axis) =
      angleAxis (cos ^ 2 - sin ^ 2) (2 * sin * cos) axis := by
  unfold rotation
  rw [normSq_halfAngle circle unit]
  ext i j
  fin_cases i <;> fin_cases j <;> simp [angleAxis]
  · linear_combination (axis 0 ^ 2 - 1) * circle - 2 * sin ^ 2 * unit
  · linear_combination axis 0 * axis 1 * circle
  · linear_combination axis 0 * axis 2 * circle
  · linear_combination axis 0 * axis 1 * circle
  · linear_combination (axis 1 ^ 2 - 1) * circle - 2 * sin ^ 2 * unit
  · linear_combination axis 1 * axis 2 * circle
  · linear_combination axis 0 * axis 2 * circle
  · linear_combination axis 1 * axis 2 * circle
  · linear_combination (axis 2 ^ 2 - 1) * circle - 2 * sin ^ 2 * unit

end Axes

end Rigid
