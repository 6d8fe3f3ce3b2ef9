import ScoutStack.Tf.Publishers

/-!
# Agreement of the transform paths

The map transformer, the `odom → camera_init` publisher and `create_matrix` denote one rigid
motion, and the inverse edge closes the chain over the FAST-LIO pose.
-/

namespace ScoutStack

open Rigid
open scoped Matrix

/-! ## Messages as motions -/

namespace TransformStamped

variable (message : TransformStamped)

/-- The rigid transform that a message denotes: the quaternion turns, then the translation. -/
noncomputable def place (point : Fin 3 → ℝ) : Fin 3 → ℝ :=
  turn message.rotation.hamilton point + message.translation.column

/-- The same with the matrix of the quaternion. -/
noncomputable def motion : Motion ℝ :=
  ⟨Rigid.rotation message.rotation.hamilton, message.translation.column⟩

variable {message}

theorem motion_apply (nonzero : message.rotation.hamilton ≠ 0) (point : Fin 3 → ℝ) :
    message.motion.apply point = message.place point := by
  simp only [motion, Motion.apply, place, rotation_mulVec nonzero]

end TransformStamped

/-! ## `tf.transformations` -/

theorem normSq_hamilton (q : Quaternion ℝ) : Quaternion.normSq q.hamilton = q.squaredNorm := by
  rw [Quaternion.normSq_def']
  simp only [Quaternion.hamilton_re, Quaternion.hamilton_imI, Quaternion.hamilton_imJ,
    Quaternion.hamilton_imK, Quaternion.squaredNorm]
  ring

theorem translationMatrix_eq (direction : Vector3 ℝ) :
    translationMatrix direction = (⟨1, direction.column⟩ : Motion ℝ).homogeneous := by
  ext i j
  fin_cases i <;> fin_cases j <;> simp [translationMatrix, Motion.homogeneous, Vector3.column]

theorem quaternionMatrix_eq (q : Quaternion ℝ) :
    quaternionMatrix q = (⟨Rigid.rotation q.hamilton, 0⟩ : Motion ℝ).homogeneous := by
  unfold quaternionMatrix Rigid.rotation
  rw [normSq_hamilton]
  ext i j
  fin_cases i <;> fin_cases j <;> simp [Motion.homogeneous] <;> ring

/-- The quaternion of half an angle about an axis. -/
noncomputable def half (angle : ℝ) (axis : Fin 3 → ℝ) : Hamilton ℝ :=
  halfAngle (Real.cos (angle / 2)) (Real.sin (angle / 2)) axis

/-- A column of length one. -/
def IsUnit3 (axis : Fin 3 → ℝ) : Prop := axis 0 ^ 2 + axis 1 ^ 2 + axis 2 ^ 2 = 1

theorem normSq_half {angle : ℝ} {axis : Fin 3 → ℝ} (unit : IsUnit3 axis) :
    Quaternion.normSq (half angle axis) = 1 :=
  normSq_halfAngle (Real.cos_sq_add_sin_sq _) unit

theorem half_ne_zero {angle : ℝ} {axis : Fin 3 → ℝ} (unit : IsUnit3 axis) :
    half angle axis ≠ 0 := by
  apply Quaternion.normSq_ne_zero.mp
  simp [normSq_half unit]

theorem rotation_half {angle : ℝ} {axis : Fin 3 → ℝ} (unit : IsUnit3 axis) :
    Rigid.rotation (half angle axis) = realTrigonometry.angleAxis angle axis := by
  have double : angle = 2 * (angle / 2) := by ring
  rw [half, rotation_halfAngle (Real.cos_sq_add_sin_sq _) unit, ← Real.cos_two_mul',
    mul_assoc, ← mul_assoc, ← Real.sin_two_mul, ← double]
  rfl

/-- Static axes: the roll about x comes first and the yaw about z last. -/
theorem hamilton_quaternionFromEuler (ai aj ak : ℝ) :
    (quaternionFromEuler ai aj ak).hamilton =
      half ak ![0, 0, 1] * half aj ![0, 1, 0] * half ai ![1, 0, 0] := by
  ext <;> simp [quaternionFromEuler, half] <;> ring

theorem isUnit3_x : IsUnit3 ![1, 0, 0] := by simp [IsUnit3]

theorem isUnit3_y : IsUnit3 ![0, 1, 0] := by simp [IsUnit3]

theorem isUnit3_z : IsUnit3 ![0, 0, 1] := by simp [IsUnit3]

theorem quaternionFromEuler_ne_zero (ai aj ak : ℝ) :
    (quaternionFromEuler ai aj ak).hamilton ≠ 0 := by
  rw [hamilton_quaternionFromEuler]
  apply mul_ne_zero
  · exact mul_ne_zero (half_ne_zero isUnit3_z) (half_ne_zero isUnit3_y)
  · exact half_ne_zero isUnit3_x

theorem squaredNorm_quaternionFromEuler (ai aj ak : ℝ) :
    (quaternionFromEuler ai aj ak).squaredNorm = 1 := by
  rw [← normSq_hamilton, hamilton_quaternionFromEuler]
  simp only [map_mul, normSq_half isUnit3_x, normSq_half isUnit3_y, normSq_half isUnit3_z,
    mul_one]

/-- The quaternion of the three angles denotes the product of the three axis rotations. -/
theorem rotation_quaternionFromEuler (ai aj ak : ℝ) :
    Rigid.rotation (quaternionFromEuler ai aj ak).hamilton =
      realTrigonometry.angleAxis ak ![0, 0, 1] * realTrigonometry.angleAxis aj ![0, 1, 0] *
        realTrigonometry.angleAxis ai ![1, 0, 0] := by
  have yawPitch : half ak ![0, 0, 1] * half aj ![0, 1, 0] ≠ 0 :=
    mul_ne_zero (half_ne_zero isUnit3_z) (half_ne_zero isUnit3_y)
  rw [hamilton_quaternionFromEuler, rotation_mul yawPitch (half_ne_zero isUnit3_x),
    rotation_mul (half_ne_zero isUnit3_z) (half_ne_zero isUnit3_y), rotation_half isUnit3_x,
    rotation_half isUnit3_y, rotation_half isUnit3_z]

/-! ## The three paths -/

section Paths

variable (extrinsic : Extrinsic ℝ)

theorem motion_geometryTf : (geometryTf extrinsic).motion = extrinsic.tf realTrigonometry := by
  ext1
  · simp [TransformStamped.motion, geometryTf, rotation_quaternionFromEuler, Extrinsic.tf,
      rotate]
  · rfl

/-- The publisher broadcasts the motion of the map transformer. -/
theorem place_geometryTf (point : Fin 3 → ℝ) :
    (geometryTf extrinsic).place point = (extrinsic.tf realTrigonometry).apply point := by
  rw [← motion_geometryTf]
  exact (TransformStamped.motion_apply (quaternionFromEuler_ne_zero _ _ _) point).symm

theorem radians_eq (degrees : ℝ) : radians degrees = realTrigonometry.deg2rad degrees := by
  simp only [radians, realTrigonometry, Trigonometry.deg2rad]
  ring

/-- `create_matrix` builds the homogeneous matrix of the same motion. -/
theorem matrix_eq : extrinsic.matrix = (extrinsic.tf realTrigonometry).homogeneous := by
  have composed : extrinsic.tf realTrigonometry =
      ⟨1, extrinsic.translation.column⟩ *
        ⟨Rigid.rotation (geometryTf extrinsic).rotation.hamilton, 0⟩ := by
    rw [← motion_geometryTf]
    ext1
    · simp [TransformStamped.motion]
    · simp [TransformStamped.motion, geometryTf, Extrinsic.translation]
  rw [composed, Motion.homogeneous_mul, ← translationMatrix_eq, ← quaternionMatrix_eq]
  simp only [Extrinsic.matrix, createMatrix, radians_eq]
  rfl

/-- The matrix of an extrinsic is a rotation. -/
theorem linear_mul_transpose :
    (extrinsic.tf realTrigonometry).linear * (extrinsic.tf realTrigonometry).linearᵀ = 1 := by
  rw [← motion_geometryTf]
  exact rotation_mul_transpose (quaternionFromEuler_ne_zero _ _ _)

end Paths

/-! ## The inverse edge -/

/-- `quaternion_from_matrix` returns a unit quaternion of the rotation in the matrix. -/
def ReadsRotation (quaternionFromMatrix : Matrix (Fin 4) (Fin 4) ℝ → Quaternion ℝ) : Prop :=
  ∀ (translation : Vector3 ℝ) (q : Quaternion ℝ), q.squaredNorm = 1 →
    (quaternionFromMatrix (translationMatrix translation * quaternionMatrix q)).squaredNorm = 1 ∧
      quaternionMatrix (quaternionFromMatrix
        (translationMatrix translation * quaternionMatrix q)) = quaternionMatrix q

section Inverse

variable {quaternionFromMatrix : Matrix (Fin 4) (Fin 4) ℝ → Quaternion ℝ}

theorem hamilton_conjugate (q : Quaternion ℝ) : q.conjugate.hamilton = star q.hamilton := by
  ext <;> simp [Quaternion.conjugate]

theorem squaredNorm_conjugate (q : Quaternion ℝ) : q.conjugate.squaredNorm = q.squaredNorm := by
  simp only [Quaternion.squaredNorm, Quaternion.conjugate]
  ring

/-- The inverse of the matrix of an extrinsic, as a translation and a quaternion. -/
theorem inverseMatrix_eq (extrinsic : Extrinsic ℝ) {translation : Vector3 ℝ}
    (column : translation.column = (extrinsic.tf realTrigonometry).reverse.translation) :
    inverseMatrix extrinsic.matrix =
      translationMatrix translation *
        quaternionMatrix (geometryTf extrinsic).rotation.conjugate := by
  rw [inverseMatrix, matrix_eq, Motion.homogeneous_inv (linear_mul_transpose extrinsic),
    translationMatrix_eq, quaternionMatrix_eq, ← Motion.homogeneous_mul]
  congr 1
  ext1
  · rw [← motion_geometryTf, hamilton_conjugate, Motion.mul_linear, rotation_star]
    simp [Motion.reverse, TransformStamped.motion]
  · simp [column]

/-- The edge that is published with `publish_inverse` denotes the inverse motion. -/
theorem motion_message_inverse (reads : ReadsRotation quaternionFromMatrix)
    {item : StaticTransform} (inverse : item.publishInverse = some true) :
    (item.message quaternionFromMatrix).motion =
      (item.extrinsic.tf realTrigonometry).reverse := by
  let reverse := (item.extrinsic.tf realTrigonometry).reverse
  let translation : Vector3 ℝ :=
    ⟨reverse.translation 0, reverse.translation 1, reverse.translation 2⟩
  have column : translation.column = reverse.translation := by
    ext i
    fin_cases i <;> rfl
  let rotation := (geometryTf item.extrinsic).rotation.conjugate
  have unit : rotation.squaredNorm = 1 := by
    rw [squaredNorm_conjugate]
    exact squaredNorm_quaternionFromEuler _ _ _
  obtain ⟨_, read⟩ := reads translation rotation unit
  rw [← inverseMatrix_eq item.extrinsic column, quaternionMatrix_eq, quaternionMatrix_eq] at read
  have sameRotation :
      Rigid.rotation (quaternionFromMatrix (inverseMatrix item.extrinsic.matrix)).hamilton =
        Rigid.rotation rotation.hamilton :=
    congrArg Motion.linear (Motion.homogeneous_injective read)
  ext1
  · simp only [StaticTransform.message, inverse, Option.getD_some, if_true, matrixToTf,
      TransformStamped.motion]
    rw [sameRotation, hamilton_conjugate, rotation_star]
    simp [Motion.reverse, ← motion_geometryTf, TransformStamped.motion]
  · simp only [StaticTransform.message, inverse, Option.getD_some, if_true, matrixToTf,
      TransformStamped.motion]
    rw [inverseMatrix, matrix_eq, Motion.homogeneous_inv (linear_mul_transpose _)]
    ext i
    fin_cases i <;> rfl

end Inverse

/-! ## Points -/

/-- The homogeneous coordinates of a point. -/
def Point.homogeneous (point : Point ℝ) : Fin 4 → ℝ := ![point.x, point.y, point.z, 1]

theorem column_transformPoint (extrinsic : Extrinsic ℝ) (point : Point ℝ) :
    (extrinsic.transformPoint realTrigonometry point).position.column =
      (extrinsic.tf realTrigonometry).apply point.position.column := by
  ext i
  fin_cases i <;> rfl

theorem homogeneous_transformPoint (extrinsic : Extrinsic ℝ) (point : Point ℝ) :
    (extrinsic.transformPoint realTrigonometry point).homogeneous =
      (extrinsic.tf realTrigonometry).homogeneous *ᵥ point.homogeneous :=
  (Motion.homogeneous_mulVec _ point.position.column).symm

/-! ## The chain -/

/-- `camera_init → body` as FAST-LIO broadcasts a pose. -/
def fastLioTf (position : Vector3 ℝ) (geoQuat : Quaternion ℝ) : TransformStamped :=
  ⟨"camera_init", "body", position, geoQuat⟩

/-- Each message starts from the frame that the message before it ends in. -/
def Linked (messages : List TransformStamped) : Prop :=
  messages.IsChain fun outer inner => outer.childFrameId = inner.frameId

/-- The homogeneous matrix of a chain of transforms. -/
noncomputable def chain (messages : List TransformStamped) : Matrix (Fin 4) (Fin 4) ℝ :=
  (messages.map fun message => message.motion.homogeneous).prod

/-- The edge leads from the child frame of the entry back to its parent, by `-Rᵀ t` and
`Rᵀ`. -/
structure IsInverseEdge (extrinsic : Extrinsic ℝ) (item : StaticTransform)
    (edge : TransformStamped) : Prop where
  frame : edge.frameId = item.child
  childFrame : edge.childFrameId = item.parent
  translation : edge.translation.column =
    -((extrinsic.tf realTrigonometry).linearᵀ *ᵥ extrinsic.translation.column)
  rotation : Rigid.rotation edge.rotation.hamilton = (extrinsic.tf realTrigonometry).linearᵀ

/-- `odom → camera_init → body → base_link` is the pose, conjugated by the extrinsic. -/
structure ClosesChain (extrinsic : Extrinsic ℝ) (item : StaticTransform)
    (edge pose : TransformStamped) : Prop where
  linked : item.child = pose.childFrameId → Linked [geometryTf extrinsic, pose, edge]
  conjugate : chain [geometryTf extrinsic, pose, edge] =
    extrinsic.matrix * pose.motion.homogeneous * extrinsic.matrix⁻¹
  identity : pose.motion = 1 → chain [geometryTf extrinsic, pose, edge] = 1

theorem isInverseEdge {quaternionFromMatrix : Matrix (Fin 4) (Fin 4) ℝ → Quaternion ℝ}
    (reads : ReadsRotation quaternionFromMatrix) {item : StaticTransform}
    (inverse : item.publishInverse = some true) :
    IsInverseEdge item.extrinsic item (item.message quaternionFromMatrix) := by
  have motion := motion_message_inverse reads inverse
  constructor
  · simp [StaticTransform.message, inverse, matrixToTf]
  · simp [StaticTransform.message, inverse, matrixToTf]
  · exact congrArg Motion.translation motion
  · exact congrArg Motion.linear motion

theorem closesChain {quaternionFromMatrix : Matrix (Fin 4) (Fin 4) ℝ → Quaternion ℝ}
    (reads : ReadsRotation quaternionFromMatrix) {item : StaticTransform}
    (inverse : item.publishInverse = some true) (position : Vector3 ℝ)
    (geoQuat : Quaternion ℝ) :
    ClosesChain item.extrinsic item (item.message quaternionFromMatrix)
      (fastLioTf position geoQuat) := by
  have inverted := Motion.homogeneous_inv (linear_mul_transpose item.extrinsic)
  have conjugated :
      chain [geometryTf item.extrinsic, fastLioTf position geoQuat,
          item.message quaternionFromMatrix] =
        item.extrinsic.matrix * (fastLioTf position geoQuat).motion.homogeneous *
          item.extrinsic.matrix⁻¹ := by
    rw [matrix_eq, inverted]
    simp [chain, motion_geometryTf, motion_message_inverse reads inverse, mul_assoc]
  constructor
  · intro joined
    have edge := isInverseEdge reads inverse
    simp [Linked, geometryTf, fastLioTf, edge.frame, joined]
  · exact conjugated
  · intro still
    rw [conjugated, still, Motion.homogeneous_one, mul_one, matrix_eq, inverted,
      ← Motion.homogeneous_mul, Motion.mul_reverse (linear_mul_transpose item.extrinsic),
      Motion.homogeneous_one]

/-- The three paths build one motion, and the published inverse edge closes the chain from
`odom` to `base_link` over the FAST-LIO pose. -/
theorem transform_paths_agree
    {quaternionFromMatrix : Matrix (Fin 4) (Fin 4) ℝ → Quaternion ℝ}
    (reads : ReadsRotation quaternionFromMatrix) (extrinsic : Extrinsic ℝ) :
    (∀ point : Point ℝ,
      (extrinsic.transformPoint realTrigonometry point).position.column =
          (geometryTf extrinsic).place point.position.column ∧
        (extrinsic.transformPoint realTrigonometry point).homogeneous =
          extrinsic.matrix *ᵥ point.homogeneous) ∧
      ∀ transforms : List StaticTransform, ∀ item ∈ transforms, item.extrinsic = extrinsic →
        item.publishInverse = some true →
        ∃ messages edge, tfManager quaternionFromMatrix transforms = some messages ∧
          edge ∈ messages ∧ IsInverseEdge extrinsic item edge ∧
          ∀ position geoQuat,
            ClosesChain extrinsic item edge (fastLioTf position geoQuat) := by
  constructor
  · intro point
    constructor
    · rw [place_geometryTf, column_transformPoint]
    · rw [homogeneous_transformPoint, matrix_eq]
  · rintro transforms item listed rfl inverse
    have configured : transforms ≠ [] := List.ne_nil_of_mem listed
    refine ⟨_, item.message quaternionFromMatrix, by rw [tfManager, if_neg configured],
      List.mem_map_of_mem listed, isInverseEdge reads inverse, ?_⟩
    intro position geoQuat
    exact closesChain reads inverse position geoQuat

/-! ## `quaternion_from_matrix` as documented -/

/-- Product with a scalar. -/
def Quaternion.scale (q : Quaternion ℝ) (factor : ℝ) : Quaternion ℝ :=
  ⟨q.w * factor, q.x * factor, q.y * factor, q.z * factor⟩

/-- `quaternion_from_matrix`: the largest of the four squares decides how it is read. -/
noncomputable def quaternionFromMatrix (m : Matrix (Fin 4) (Fin 4) ℝ) : Quaternion ℝ :=
  let trace := m 0 0 + m 1 1 + m 2 2 + m 3 3
  let normalise := fun (q : Quaternion ℝ) (t : ℝ) => q.scale (0.5 / √(t * m 3 3))
  let first := m 0 0 - (m 1 1 + m 2 2) + m 3 3
  let second := m 1 1 - (m 2 2 + m 0 0) + m 3 3
  let third := m 2 2 - (m 0 0 + m 1 1) + m 3 3
  if m 3 3 < trace then
    normalise ⟨trace, m 2 1 - m 1 2, m 0 2 - m 2 0, m 1 0 - m 0 1⟩ trace
  else if m 0 0 < m 1 1 then
    if m 1 1 < m 2 2 then
      normalise ⟨m 1 0 - m 0 1, m 2 0 + m 0 2, m 1 2 + m 2 1, third⟩ third
    else
      normalise ⟨m 0 2 - m 2 0, m 0 1 + m 1 0, second, m 1 2 + m 2 1⟩ second
  else if m 0 0 < m 2 2 then
    normalise ⟨m 1 0 - m 0 1, m 2 0 + m 0 2, m 1 2 + m 2 1, third⟩ third
  else
    normalise ⟨m 2 1 - m 1 2, first, m 0 1 + m 1 0, m 2 0 + m 0 2⟩ first

theorem squaredNorm_scale {factor : ℝ} (unit : factor ^ 2 = 1) (q : Quaternion ℝ) :
    (q.scale factor).squaredNorm = q.squaredNorm := by
  simp only [Quaternion.scale, Quaternion.squaredNorm]
  linear_combination (q.w ^ 2 + q.x ^ 2 + q.y ^ 2 + q.z ^ 2) * unit

/-- A quaternion and its negative denote one rotation. -/
theorem quaternionMatrix_scale {factor : ℝ} (unit : factor ^ 2 = 1) (q : Quaternion ℝ) :
    quaternionMatrix (q.scale factor) = quaternionMatrix q := by
  have product (left right : ℝ) : left * factor * (right * factor) = left * right := by
    linear_combination left * right * unit
  unfold quaternionMatrix
  rw [squaredNorm_scale unit]
  simp only [Quaternion.scale, product]

/-- Equal up to the sign. -/
def SameTurn (read q : Quaternion ℝ) : Prop :=
  ∃ factor, factor ^ 2 = 1 ∧ read = q.scale factor

/-- A row of products with one component, divided by its norm. -/
theorem sameTurn_scale {component t : ℝ} {row q : Quaternion ℝ} (nonzero : component ≠ 0)
    (norm : t = 4 * component ^ 2) (rowW : row.w = 4 * component * q.w)
    (rowX : row.x = 4 * component * q.x) (rowY : row.y = 4 * component * q.y)
    (rowZ : row.z = 4 * component * q.z) : SameTurn (row.scale (0.5 / √t)) q := by
  refine ⟨4 * component * (0.5 / √t), ?_, ?_⟩
  · have positive : 0 < t := by rw [norm]; positivity
    rw [mul_pow, div_pow, Real.sq_sqrt positive.le, norm]
    field_simp
    norm_num
  · simp only [Quaternion.scale, rowW, rowX, rowY, rowZ]
    ring_nf

/-- The entries of the matrix of a unit quaternion, with a translation. -/
theorem translationMatrix_mul_quaternionMatrix (translation : Vector3 ℝ) {q : Quaternion ℝ}
    (unit : q.squaredNorm = 1) :
    translationMatrix translation * quaternionMatrix q =
      !![1 - 2 * (q.y * q.y) - 2 * (q.z * q.z), 2 * (q.x * q.y) - 2 * (q.z * q.w),
           2 * (q.x * q.z) + 2 * (q.y * q.w), translation.x;
         2 * (q.x * q.y) + 2 * (q.z * q.w), 1 - 2 * (q.x * q.x) - 2 * (q.z * q.z),
           2 * (q.y * q.z) - 2 * (q.x * q.w), translation.y;
         2 * (q.x * q.z) - 2 * (q.y * q.w), 2 * (q.y * q.z) + 2 * (q.x * q.w),
           1 - 2 * (q.x * q.x) - 2 * (q.y * q.y), translation.z;
         0, 0, 0, 1] := by
  rw [quaternionMatrix, unit, div_one, translationMatrix]
  ext i j
  fin_cases i <;> fin_cases j <;> simp [Matrix.mul_apply, Fin.sum_univ_succ]

theorem sameTurn_quaternionFromMatrix (translation : Vector3 ℝ) {q : Quaternion ℝ}
    (unit : q.squaredNorm = 1) :
    SameTurn (quaternionFromMatrix (translationMatrix translation * quaternionMatrix q)) q := by
  rw [translationMatrix_mul_quaternionMatrix translation unit]
  have norm : q.w * q.w + q.x * q.x + q.y * q.y + q.z * q.z = 1 := unit
  have squareX := mul_self_nonneg q.x
  have squareY := mul_self_nonneg q.y
  have squareZ := mul_self_nonneg q.z
  simp only [quaternionFromMatrix, Fin.isValue, Matrix.of_apply, Matrix.cons_val',
    Matrix.cons_val, Matrix.cons_val_fin_one, Matrix.cons_val_one, Matrix.cons_val_zero,
    lt_add_iff_pos_left, add_sub_sub_cancel, mul_one, sub_lt_sub_iff_right,
    sub_lt_sub_iff_left, Nat.ofNat_pos, mul_lt_mul_iff_right₀, sub_add_add_cancel]
  split_ifs with half second third third'
  · have nonzero : q.w ≠ 0 := by
      intro zero
      simp only [zero, mul_zero, zero_add] at norm
      linarith
    apply sameTurn_scale nonzero
    · linear_combination -4 * norm
    · linear_combination -4 * norm
    · ring
    · ring
    · ring
  · have nonzero : q.z ≠ 0 := by
      intro zero
      simp only [zero, mul_zero] at third
      linarith
    apply sameTurn_scale nonzero
    all_goals ring
  · have nonzero : q.y ≠ 0 := by
      intro zero
      simp only [zero, mul_zero] at second
      linarith
    apply sameTurn_scale nonzero
    all_goals ring
  · have nonzero : q.z ≠ 0 := by
      intro zero
      simp only [zero, mul_zero] at third'
      linarith
    apply sameTurn_scale nonzero
    all_goals ring
  · have nonzero : q.x ≠ 0 := by
      intro zero
      simp only [zero, mul_zero] at half second third' norm
      linarith
    apply sameTurn_scale nonzero
    all_goals ring

theorem readsRotation_quaternionFromMatrix : ReadsRotation quaternionFromMatrix := by
  intro translation q unit
  obtain ⟨factor, square, read⟩ := sameTurn_quaternionFromMatrix translation unit
  rw [read]
  constructor
  · rw [squaredNorm_scale square, unit]
  · exact quaternionMatrix_scale square q

/-- The entry of `extrinsics.yaml`. -/
noncomputable def bodyToBaseLink : StaticTransform where
  parent := "base_link"
  child := "body"
  x := some (25 / 100)
  y := some 0
  z := some (20 / 100)
  rollDeg := some 0
  pitchDeg := some 45
  yawDeg := some 0
  publishInverse := some true

theorem transform_paths_agree_bodyToBaseLink :
    ∃ messages edge, tfManager quaternionFromMatrix [bodyToBaseLink] = some messages ∧
      edge ∈ messages ∧ edge.frameId = "body" ∧
      chain [geometryTf bodyToBaseLink.extrinsic, fastLioTf ⟨0, 0, 0⟩ ⟨1, 0, 0, 0⟩, edge] =
        1 := by
  obtain ⟨_, shipped⟩ :=
    transform_paths_agree readsRotation_quaternionFromMatrix bodyToBaseLink.extrinsic
  obtain ⟨messages, edge, configured, listed, inverse, closes⟩ :=
    shipped [bodyToBaseLink] bodyToBaseLink (by simp) rfl rfl
  have still : (fastLioTf ⟨0, 0, 0⟩ ⟨1, 0, 0, 0⟩).motion = 1 := by
    ext i j
    · fin_cases i <;> fin_cases j <;>
        simp [TransformStamped.motion, fastLioTf, Rigid.rotation]
    · fin_cases i <;> rfl
  exact ⟨messages, edge, configured, listed, inverse.frame, (closes _ _).identity still⟩

end ScoutStack
