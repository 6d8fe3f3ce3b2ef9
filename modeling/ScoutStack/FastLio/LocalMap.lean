import ScoutStack.IkdTree.Map
import Mathlib.Logic.Function.Basic
import Mathlib.Tactic.Linarith
import Mathlib.Tactic.Ring

/-!
# The local map

`lasermap_fov_segment` of `laserMapping.cpp` keeps a cube around the lidar.  When the lidar
comes close to a face, the cube moves and the map loses what the cube leaves behind.
-/

namespace ScoutStack.FastLio

open IkdTree

variable {K α : Type*}

/-- The parameters of the local map. -/
structure LocalMapParams (K : Type*) where
  cubeLen : K
  detRange : K

/-- What `mapping_mid360.launch` and `mid360.yaml` set. -/
def LocalMapParams.mid360 : LocalMapParams ℚ where
  cubeLen := 1000
  detRange := 100

section Model

variable [Field K] [LinearOrder K] (params : LocalMapParams K)

/-- `MOV_THRESHOLD * DET_RANGE`. -/
def moveRange : K := 3 / 2 * params.detRange

/-- `mov_dist`. -/
def movDist : K :=
  max ((params.cubeLen - 2 * (3 / 2) * params.detRange) * (1 / 2) * (9 / 10))
    (params.detRange * (3 / 2 - 1))

/-- `LocalMap_Points` around the first position. -/
def initialCube (posLid : Axis → K) : BoxPointType K where
  vertexMin axis := posLid axis - params.cubeLen / 2
  vertexMax axis := posLid axis + params.cubeLen / 2

/-- `dist_to_map_edge[i][0] <= MOV_THRESHOLD * DET_RANGE`. -/
def nearMin (cube : BoxPointType K) (posLid : Axis → K) (axis : Axis) : Bool :=
  decide (|posLid axis - cube.vertexMin axis| ≤ moveRange params)

/-- `dist_to_map_edge[i][1] <= MOV_THRESHOLD * DET_RANGE`. -/
def nearMax (cube : BoxPointType K) (posLid : Axis → K) (axis : Axis) : Bool :=
  decide (|posLid axis - cube.vertexMax axis| ≤ moveRange params)

/-- `need_move`. -/
def needMove (cube : BoxPointType K) (posLid : Axis → K) : Bool :=
  decide (∃ axis, nearMin params cube posLid axis = true ∨ nearMax params cube posLid axis = true)

/-- `New_LocalMap_Points`. -/
def movedCube (cube : BoxPointType K) (posLid : Axis → K) : BoxPointType K where
  vertexMin axis :=
    if nearMin params cube posLid axis then cube.vertexMin axis - movDist params
    else if nearMax params cube posLid axis then cube.vertexMin axis + movDist params
    else cube.vertexMin axis
  vertexMax axis :=
    if nearMin params cube posLid axis then cube.vertexMax axis - movDist params
    else if nearMax params cube posLid axis then cube.vertexMax axis + movDist params
    else cube.vertexMax axis

/-- `tmp_boxpoints` for an axis along which the cube moves. -/
def leftBehind (cube : BoxPointType K) (posLid : Axis → K) (axis : Axis) :
    Option (BoxPointType K) :=
  if nearMin params cube posLid axis then
    some { cube with
      vertexMin := Function.update cube.vertexMin axis (cube.vertexMax axis - movDist params) }
  else if nearMax params cube posLid axis then
    some { cube with
      vertexMax := Function.update cube.vertexMax axis (cube.vertexMin axis + movDist params) }
  else none

/-- `cub_needrm`. -/
def cubNeedrm (cube : BoxPointType K) (posLid : Axis → K) : List (BoxPointType K) :=
  [Axis.x, Axis.y, Axis.z].filterMap (leftBehind params cube posLid)

/-- `lasermap_fov_segment`: `LocalMap_Points`, and what is deleted from the tree, if it is
touched at all. -/
def lasermapFovSegment (cube : Option (BoxPointType K)) (posLid : Axis → K) :
    BoxPointType K × Option (List (BoxPointType K)) :=
  match cube with
  | none => (initialCube params posLid, none)
  | some cube =>
      if needMove params cube posLid then
        (movedCube params cube posLid, some (cubNeedrm params cube posLid))
      else (cube, none)

end Model

/-! ## Where the cube goes -/

section Geometry

variable [Field K] [LinearOrder K] [IsStrictOrderedRing K] {params : LocalMapParams K}
  {cube : BoxPointType K} {posLid : Axis → K}

/-- A cube of the side that the parameters ask for. -/
def HasSide (params : LocalMapParams K) (cube : BoxPointType K) : Prop :=
  ∀ axis, cube.vertexMax axis = cube.vertexMin axis + params.cubeLen

/-- The cube moves by no more than its side. -/
structure Fits (params : LocalMapParams K) : Prop where
  detRange_pos : 0 < params.detRange
  detRange_le : params.detRange ≤ 2 * params.cubeLen

theorem movDist_pos (fits : Fits params) : 0 < movDist params := by
  have positive := fits.detRange_pos
  exact lt_max_of_lt_right (by linarith)

theorem movDist_le (fits : Fits params) : movDist params ≤ params.cubeLen := by
  have positive := fits.detRange_pos
  have le := fits.detRange_le
  exact max_le (by linarith) (by linarith)

theorem hasSide_initialCube (params : LocalMapParams K) (posLid : Axis → K) :
    HasSide params (initialCube params posLid) := by
  intro axis
  simp only [initialCube]
  ring

omit [IsStrictOrderedRing K] in
theorem HasSide.movedCube (side : HasSide params cube) (posLid : Axis → K) :
    HasSide params (movedCube params cube posLid) := by
  intro axis
  simp only [FastLio.movedCube]
  rw [side axis]
  split
  · ring
  · split
    · ring
    · rfl

/-- The side never changes. -/
theorem hasSide_lasermapFovSegment {before : Option (BoxPointType K)}
    (side : ∀ cube, before = some cube → HasSide params cube) (posLid : Axis → K) :
    HasSide params (lasermapFovSegment params before posLid).1 := by
  cases before with
  | none => exact hasSide_initialCube params posLid
  | some cube =>
      rw [lasermapFovSegment]
      split
      · exact (side cube rfl).movedCube posLid
      · exact side cube rfl

/-- What is left behind along one axis. -/
theorem contains_leftBehind (fits : Fits params) (side : HasSide params cube) {axis : Axis}
    {box : BoxPointType K} (behind : leftBehind params cube posLid axis = some box)
    (point : PointType K α) :
    box.contains point = true ↔ cube.contains point = true ∧
      ¬((movedCube params cube posLid).vertexMin axis ≤ point.coord axis ∧
        (movedCube params cube posLid).vertexMax axis > point.coord axis) := by
  have positive := movDist_pos fits
  have le := movDist_le fits
  have length := side axis
  simp only [BoxPointType.contains, decide_eq_true_iff]
  rw [leftBehind] at behind
  split at behind
  · next low =>
      obtain rfl := Option.some.inj behind
      simp only [movedCube, low, if_true]
      constructor
      · intro inside
        obtain ⟨above, below⟩ := inside axis
        rw [Function.update_self] at above
        refine ⟨fun other => ?_, fun both => absurd both.2 (not_lt.mpr above)⟩
        by_cases same : other = axis
        · subst same
          exact ⟨by linarith, below⟩
        · obtain ⟨above', below'⟩ := inside other
          rw [Function.update_of_ne same] at above'
          exact ⟨above', below'⟩
      · rintro ⟨inside, outside⟩ other
        by_cases same : other = axis
        · subst same
          obtain ⟨above, below⟩ := inside other
          rw [Function.update_self]
          refine ⟨not_lt.mp fun less => outside ⟨by linarith, less⟩, below⟩
        · rw [Function.update_of_ne same]
          exact inside other
  · next notLow =>
      split at behind
      · next high =>
          obtain rfl := Option.some.inj behind
          simp only [movedCube, notLow, high, if_true, Bool.false_eq_true, if_false]
          constructor
          · intro inside
            obtain ⟨above, below⟩ := inside axis
            rw [Function.update_self] at below
            refine ⟨fun other => ?_, fun both => absurd below (not_lt.mpr both.1)⟩
            by_cases same : other = axis
            · subst same
              exact ⟨above, by linarith⟩
            · obtain ⟨above', below'⟩ := inside other
              rw [Function.update_of_ne same] at below'
              exact ⟨above', below'⟩
          · rintro ⟨inside, outside⟩ other
            by_cases same : other = axis
            · subst same
              obtain ⟨above, below⟩ := inside other
              rw [Function.update_self]
              refine ⟨above, not_le.mp fun less => outside ⟨less, by linarith⟩⟩
            · rw [Function.update_of_ne same]
              exact inside other
      · exact absurd behind.symm (Option.some_ne_none _)

omit [IsStrictOrderedRing K] in
/-- Along an axis without a slab the cube stays. -/
theorem movedCube_of_leftBehind_eq_none {axis : Axis}
    (stays : leftBehind params cube posLid axis = none) :
    (movedCube params cube posLid).vertexMin axis = cube.vertexMin axis ∧
      (movedCube params cube posLid).vertexMax axis = cube.vertexMax axis := by
  rw [leftBehind] at stays
  split at stays
  · exact absurd stays (Option.some_ne_none _)
  · next notLow =>
      split at stays
      · exact absurd stays (Option.some_ne_none _)
      · next notHigh =>
          simp only [movedCube, notLow, notHigh, Bool.false_eq_true, if_false, and_self]

omit [IsStrictOrderedRing K] in
theorem mem_cubNeedrm {box : BoxPointType K} :
    box ∈ cubNeedrm params cube posLid ↔ ∃ axis, leftBehind params cube posLid axis = some box := by
  rw [cubNeedrm, List.mem_filterMap]
  constructor
  · rintro ⟨axis, _, behind⟩
    exact ⟨axis, behind⟩
  · rintro ⟨axis, behind⟩
    exact ⟨axis, by cases axis <;> simp, behind⟩

/-- The boxes to delete are the part of the cube that it leaves. -/
theorem exists_cubNeedrm_iff (posLid : Axis → K) (fits : Fits params) (side : HasSide params cube)
    (point : PointType K α) :
    (∃ box ∈ cubNeedrm params cube posLid, box.contains point = true) ↔
      cube.contains point = true ∧ ¬(movedCube params cube posLid).contains point = true := by
  constructor
  · rintro ⟨box, member, inside⟩
    obtain ⟨axis, behind⟩ := mem_cubNeedrm.mp member
    obtain ⟨within, outside⟩ := (contains_leftBehind fits side behind point).mp inside
    refine ⟨within, fun moved => outside ?_⟩
    exact of_decide_eq_true moved axis
  · rintro ⟨within, outside⟩
    rw [BoxPointType.contains, decide_eq_true_iff, not_forall] at outside
    obtain ⟨axis, off⟩ := outside
    cases behind : leftBehind params cube posLid axis with
    | none =>
        obtain ⟨low, high⟩ := movedCube_of_leftBehind_eq_none behind
        rw [low, high] at off
        exact absurd (of_decide_eq_true within axis) off
    | some box =>
        exact ⟨box, mem_cubNeedrm.mpr ⟨axis, behind⟩,
          (contains_leftBehind fits side behind point).mpr ⟨within, off⟩⟩

/-- With a side of three ranges nothing in range is deleted. -/
theorem detRange_le_of_cubNeedrm (positive : 0 < params.detRange)
    (large : 3 * params.detRange ≤ params.cubeLen) (side : HasSide params cube)
    {box : BoxPointType K} (member : box ∈ cubNeedrm params cube posLid) {point : PointType K α}
    (inside : box.contains point = true) :
    ∃ axis, params.detRange ≤ |point.coord axis - posLid axis| := by
  obtain ⟨axis, behind⟩ := mem_cubNeedrm.mp member
  refine ⟨axis, ?_⟩
  have length := side axis
  have far : movDist params ≤ params.cubeLen - 5 / 2 * params.detRange :=
    max_le (by linarith) (by linarith)
  obtain ⟨above, below⟩ := of_decide_eq_true inside axis
  rw [leftBehind] at behind
  split at behind
  · next low =>
      obtain rfl := Option.some.inj behind
      simp only [Function.update_self] at above
      have near := abs_le.mp (of_decide_eq_true low)
      rw [moveRange] at near
      exact le_abs.mpr (.inl (by linarith))
  · split at behind
    · next high =>
        obtain rfl := Option.some.inj behind
        simp only [Function.update_self] at below
        have near := abs_le.mp (of_decide_eq_true high)
        rw [moveRange] at near
        exact le_abs.mpr (.inr (by linarith))
    · exact absurd behind.symm (Option.some_ne_none _)

/-- The lidar is in the cube, farther than the range for a move from every face. -/
def Centred (params : LocalMapParams K) (cube : BoxPointType K) (posLid : Axis → K) : Prop :=
  ∀ axis, cube.vertexMin axis + moveRange params < posLid axis ∧
    posLid axis < cube.vertexMax axis - moveRange params

/-- From inside a cube that is large enough, one call centres the lidar. -/
theorem centred_lasermapFovSegment (posLid : Axis → K) (positive : 0 < params.detRange)
    (large : 19 * params.detRange < 3 * params.cubeLen) {before : Option (BoxPointType K)}
    (side : ∀ cube, before = some cube → HasSide params cube)
    (within : ∀ cube, before = some cube → ∀ axis,
      cube.vertexMin axis ≤ posLid axis ∧ posLid axis ≤ cube.vertexMax axis) :
    Centred params (lasermapFovSegment params before posLid).1 posLid := by
  cases before with
  | none =>
      intro axis
      simp only [lasermapFovSegment, initialCube, moveRange]
      constructor <;> linarith
  | some cube =>
      have side := side cube rfl
      have within := within cube rfl
      have fast : 3 / 2 * params.detRange < movDist params := lt_max_of_lt_left (by linarith)
      have slow : movDist params < params.cubeLen - 3 * params.detRange :=
        max_lt (by linarith) (by linarith)
      rw [lasermapFovSegment]
      split
      · intro axis
        obtain ⟨low, high⟩ := within axis
        have length := side axis
        simp only [movedCube, moveRange]
        split
        · next close =>
            have near := abs_le.mp (of_decide_eq_true close)
            rw [moveRange] at near
            constructor <;> linarith
        · next far =>
            have apart := not_le.mp (of_decide_eq_false (Bool.eq_false_iff.mpr far))
            rw [abs_of_nonneg (sub_nonneg.mpr low), moveRange] at apart
            split
            · next close =>
                have near := abs_le.mp (of_decide_eq_true close)
                rw [moveRange] at near
                constructor <;> linarith
            · next far' =>
                have apart' := not_le.mp (of_decide_eq_false (Bool.eq_false_iff.mpr far'))
                rw [abs_of_nonpos (sub_nonpos.mpr high), moveRange] at apart'
                constructor <;> linarith
      · next still =>
          rw [needMove, decide_eq_true_iff] at still
          push Not at still
          intro axis
          obtain ⟨low, high⟩ := within axis
          obtain ⟨far, far'⟩ := still axis
          have apart := not_le.mp (of_decide_eq_false (Bool.eq_false_iff.mpr far))
          have apart' := not_le.mp (of_decide_eq_false (Bool.eq_false_iff.mpr far'))
          rw [abs_of_nonneg (sub_nonneg.mpr low)] at apart
          rw [abs_of_nonpos (sub_nonpos.mpr high)] at apart'
          constructor <;> linarith

end Geometry

end ScoutStack.FastLio
