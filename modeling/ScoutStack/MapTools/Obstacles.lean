import ScoutStack.Lib.Cells
import ScoutStack.MapTools.Decode

/-!
# Obstacle points on the map

Which obstacle points of a cloud are on the map.  A point is left out when its cell lies
outside the grid, which happens at the upper bounds of the cloud, also where the padding is
lost to rounding, and every point is left out when the inflation rounds to a negative radius.
-/

namespace ScoutStack

open Decimal Binary

/-- The value of a cell, counted from the lower left corner. -/
def PgmImage.value? (image : PgmImage) (x y : ℤ) : Option UInt8 :=
  image.raster[((image.height - 1 - y) * image.width + x).toNat]?

namespace PcdToPgm

variable {K : Type} [Field K] [LinearOrder K] [FloorRing K]

/-- The cell of a point lies in the grid, and the written image is occupied there. -/
def KeepsPoint (node : PcdToPgm K) (cloud : PcdCloud K) (pgm : Bytes) (point : Point K) : Prop :=
  ∃ grid gx gy image, node.grid cloud = .ok grid ∧ node.column grid point = .ok gx ∧
    node.row grid point = .ok gy ∧ grid.contains gx gy ∧ readPgm pgm = some image ∧
    image.value? gx gy = some 0

/-- The obstacle points are on the map. -/
def KeepsObstacles (node : PcdToPgm K) (cloud : PcdCloud K) (pgm : Bytes) : Prop :=
  ∀ point ∈ cloud.finitePoints, node.isObstacle point → node.KeepsPoint cloud pgm point

end PcdToPgm

/-- In each axis the distance of the point from the lower bound, in cells and as it is rounded,
lies in a cell that begins below the side of the padded box. -/
def Frame.Covers {K : Type} [Field K] [LinearOrder K] [FloorRing K] (frame : Frame K)
    (point : Point K) : Prop :=
  ∃ x y, frame.cellsFrom frame.left point.x = .finite x ∧
    frame.cellsFrom frame.bottom point.y = .finite y ∧
    Cells.Covered 0 frame.columns 1 x ∧ Cells.Covered 0 frame.rows 1 y

namespace PcdToPgm

variable {K : Type} [Field K] [LinearOrder K] [FloorRing K]

/-- There is no obstacle point; or the inflation, in cells and as it is rounded, is above minus
one half, and each obstacle point is covered. -/
def CoversObstacles (node : PcdToPgm K) (cloud : PcdCloud K) : Prop :=
  (∀ point ∈ cloud.finitePoints, ¬node.isObstacle point) ∨
    ∃ frame inflation, node.frame cloud = some frame ∧
      frame.span node.obstacleInflationM = .finite inflation ∧ -1 / 2 < inflation ∧
      ∀ point ∈ cloud.finitePoints, node.isObstacle point → frame.Covers point

variable [IsStrictOrderedRing K] {node : PcdToPgm K} {environment : Environment K}
  {cloud : PcdCloud K} {frame : Frame K}

omit [IsStrictOrderedRing K] in
theorem reached_of_pixel_eq_zero {x y : ℤ} (occupied : node.pixel cloud frame x y = 0) :
    frame.Reached node.isObstacle cloud.finitePoints (frame.reach node.obstacleInflationM) x y := by
  unfold pixel at occupied
  split at occupied
  next reached => exact reached
  next => split at occupied <;> contradiction

omit [IsStrictOrderedRing K] in
/-- The written value of a cell. -/
theorem Completes.value?_file (completes : node.Completes environment cloud frame) {x y : ℤ}
    (inside : frame.grid.contains x y) :
    ∃ image, readPgm (node.file cloud frame) = some image ∧
      image.value? x y = some (node.pixel cloud frame x y) := by
  have wide : 0 ≤ frame.width := inside.1.trans inside.2.2.1.le
  have high : 0 ≤ frame.height := inside.2.1.trans inside.2.2.2.le
  refine ⟨_, readPgm_header wide high _, ?_⟩
  have place : frame.grid.rasterCells[((frame.height - 1 - y) * frame.width + x).toNat]? =
      some (x, y) := getElem?_rasterCells inside
  have value : (node.picture cloud frame).getD (frame.grid.position x y) 0 =
      node.pixel cloud frame x y :=
    node.getD_picture completes.widthFits completes.heightFits inside
  simp only [PgmImage.value?, Frame.grid, Int.toNat_of_nonneg wide, Int.toNat_of_nonneg high]
  rw [payload, List.getElem?_map, place, ← value]
  rfl

/-- An obstacle point is kept where it falls into the grid and the radius is not negative. -/
theorem Completes.keepsPoint_iff (completes : node.Completes environment cloud frame)
    {point : Point K} (member : point ∈ cloud.finitePoints) (obstacle : node.isObstacle point) :
    node.KeepsPoint cloud (node.file cloud frame) point ↔
      frame.Catches point ∧ 0 ≤ frame.reach node.obstacleInflationM := by
  have sized := (node.stage_grid completes.framed).ok ⟨completes.widthFits, completes.heightFits⟩
  obtain ⟨column, row⟩ := completes.binned member
  constructor
  · rintro ⟨grid, gx, gy, image, size, gxEq, gyEq, inside, read, value⟩
    cases sized.symm.trans size
    cases column.symm.trans gxEq
    cases row.symm.trans gyEq
    obtain ⟨_, read', value'⟩ := completes.value?_file inside
    cases read.symm.trans read'
    rw [value, Option.some.injEq] at value'
    exact ⟨inside, (reached_of_pixel_eq_zero value'.symm).1⟩
  · rintro ⟨caught, nonneg⟩
    obtain ⟨image, read, value⟩ := completes.value?_file caught
    refine ⟨frame.grid, _, _, image, sized, column, row, caught, read, ?_⟩
    have reached : frame.Reached node.isObstacle cloud.finitePoints
        (frame.reach node.obstacleInflationM) (frame.column point) (frame.row point) := by
      refine ⟨nonneg, point, member, obstacle, caught, ?_⟩
      simp [sq_nonneg]
    rw [value, pixel, if_pos reached]

/-- A point falls into the grid where the padded box covers it. -/
theorem Completes.catches_iff (completes : node.Completes environment cloud frame)
    {point : Point K} (member : point ∈ cloud.finitePoints) :
    frame.Catches point ↔ frame.Covers point := by
  have bins := completes.bins point member
  obtain ⟨x, columnEq⟩ := Double.isFinite_iff.mp bins.1.1
  obtain ⟨y, rowEq⟩ := Double.isFinite_iff.mp bins.2.1.1
  have caught : frame.Catches point ↔
      Cells.Covered 0 frame.columns 1 x ∧ Cells.Covered 0 frame.rows 1 y := by
    rw [Cells.covered_iff one_pos, Cells.covered_iff one_pos]
    simp only [Frame.Catches, Grid.contains, Frame.grid, Frame.width, Frame.height, Frame.column,
      Frame.row, Cells.cell, columnEq, rowEq, Double.number, sub_zero, div_one]
    tauto
  rw [caught]
  constructor
  · intro covered
    exact ⟨x, y, columnEq, rowEq, covered⟩
  · rintro ⟨x', y', columnEq', rowEq', covered⟩
    cases columnEq.symm.trans columnEq'
    cases rowEq.symm.trans rowEq'
    exact covered

/-- The radius is not negative where the rounded length is above minus half a cell. -/
theorem Completes.reach_nonneg_iff (completes : node.Completes environment cloud frame) :
    0 ≤ frame.reach node.obstacleInflationM ↔
      ∃ inflation, frame.span node.obstacleInflationM = .finite inflation ∧ -1 / 2 < inflation := by
  obtain ⟨inflation, inflated⟩ := Double.isFinite_iff.mp completes.inflation.1
  rw [Frame.reach, Double.roundAway_nonneg, inflated]
  simp [Double.number]

/-- The obstacle points of a completed run are on the map exactly where the condition holds. -/
theorem keepsObstacles_iff {pgm : Bytes} {yaml : MapYaml}
    (completed : node.generate environment = .completed pgm yaml)
    (loaded : environment.loadPCDFile node.inputPcd = some cloud) :
    node.KeepsObstacles cloud pgm ↔ node.CoversObstacles cloud := by
  obtain ⟨cloud', frame, completes, rfl, rfl⟩ := node.exists_of_completed completed
  cases loaded.symm.trans completes.loads.file
  have kept : ∀ point ∈ cloud.finitePoints, node.isObstacle point →
      (node.KeepsPoint cloud (node.file cloud frame) point ↔
        frame.Covers point ∧ 0 ≤ frame.reach node.obstacleInflationM) := by
    intro point member obstacle
    rw [completes.keepsPoint_iff member obstacle, completes.catches_iff member]
  constructor
  · intro keeps
    by_cases present : ∃ point ∈ cloud.finitePoints, node.isObstacle point
    · obtain ⟨point, member, obstacle⟩ := present
      have reached := ((kept point member obstacle).mp (keeps point member obstacle)).2
      obtain ⟨inflation, inflated, above⟩ := completes.reach_nonneg_iff.mp reached
      refine .inr ⟨frame, inflation, completes.framed, inflated, above, ?_⟩
      intro other otherMember otherObstacle
      exact ((kept other otherMember otherObstacle).mp (keeps other otherMember otherObstacle)).1
    · exact .inl fun point member obstacle => present ⟨point, member, obstacle⟩
  · intro covers point member obstacle
    rcases covers with absent | ⟨frame', inflation, framed, inflated, above, covered⟩
    · exact absurd obstacle (absent point member)
    · cases completes.framed.symm.trans framed
      apply (kept point member obstacle).mpr
      exact ⟨covered point member obstacle, completes.reach_nonneg_iff.mpr ⟨_, inflated, above⟩⟩

/-! ## The upper bounds -/

/-- A value between the bounds of the points lies, in cells, between zero and the side. -/
theorem exists_cellsFrom {resolution padding minimum maximum low high side value : K}
    (given : frame.resolution = .finite resolution) (positive : 0 < resolution)
    (nonneg : 0 ≤ padding) (left : double (.finite minimum - .finite padding) = .finite low)
    (right : double (.finite maximum + .finite padding) = .finite high)
    (first : binary64.Represents minimum) (last : binary64.Represents maximum)
    (sized : frame.cellsFrom low high = .finite side) (above : minimum ≤ value)
    (below : value ≤ maximum) :
    ∃ place, frame.cellsFrom low value = .finite place ∧ 0 ≤ place ∧ place ≤ side := by
  rw [Double.finite_sub] at left
  rw [Double.finite_add] at right
  have lowest : low ≤ minimum := Format.rounded_mono left first (by linarith)
  have highest : maximum ≤ high := Format.rounded_mono last right (by linarith)
  rw [Frame.cellsFrom, Double.finite_sub, given] at sized ⊢
  have finite : (double (.finite (high - low)) : Double K).IsFinite := by
    have quotient := Format.isFinite_of_rounded (sized ▸ trivial : Double.IsFinite
      (double (double (.finite (high - low)) / .finite resolution)))
    exact quotient.of_div
  obtain ⟨length, lengthEq⟩ := Double.isFinite_iff.mp finite
  obtain ⟨distance, distanceEq, distanceNonneg, shorter⟩ :=
    Format.exists_rounded lengthEq (by linarith : 0 ≤ value - low) (by linarith)
  rw [lengthEq, Double.finite_div _ positive.ne'] at sized
  rw [double, distanceEq, Double.finite_div _ positive.ne']
  apply Format.exists_rounded sized
  · exact div_nonneg distanceNonneg positive.le
  · gcongr

/-- With padding that is not negative a point is left out only on the upper bounds as they are
rounded, where the side is a whole number of cells. -/
theorem covers_iff_of_padding {box : Box K} {padding resolution : K}
    (framed : node.frame cloud = some frame) (around : Box.around cloud.finitePoints = some box)
    (padded : node.paddingM = .finite padding) (nonneg : 0 ≤ padding)
    (given : node.resolution = .finite resolution) (positive : 0 < resolution)
    (columns : binary64.Represents box.left ∧ binary64.Represents box.right)
    (rows : binary64.Represents box.bottom ∧ binary64.Represents box.top)
    {point : Point K} (member : point ∈ cloud.finitePoints) :
    frame.Covers point ↔
      (frame.cellsFrom frame.left point.x = .finite frame.columns →
        ∀ n : ℕ, frame.columns ≠ n) ∧
      (frame.cellsFrom frame.bottom point.y = .finite frame.rows → ∀ n : ℕ, frame.rows ≠ n) := by
  obtain ⟨⟨box', around', pads⟩, wide, high, same⟩ := node.frame_eq_some_iff.mp framed
  cases around.symm.trans around'
  have holds := Box.holds_of_around around member
  rw [PcdToPgm.cellsBetween, ← same] at wide high
  rw [← same] at given
  obtain ⟨left, right, bottom, top⟩ := pads
  rw [padded] at left right bottom top
  obtain ⟨x, columnEq, xNonneg, xLe⟩ := exists_cellsFrom given positive nonneg left right columns.1
    columns.2 wide holds.left holds.right
  obtain ⟨y, rowEq, yNonneg, yLe⟩ := exists_cellsFrom given positive nonneg bottom top rows.1
    rows.2 high holds.bottom holds.top
  have covered : ∀ {place side : K}, 0 ≤ place → place ≤ side →
      (Cells.Covered 0 side 1 place ↔
        ((.finite place : Double K) = .finite side → ∀ n : ℕ, side ≠ n)) := by
    intro place side placeNonneg placeLe
    rw [Cells.covered_iff_of_le one_pos placeNonneg placeLe, Double.finite.injEq,
      lt_iff_le_and_ne]
    simp [placeLe, imp_iff_not_or]
  rw [columnEq, rowEq, ← covered xNonneg xLe, ← covered yNonneg yLe]
  constructor
  · rintro ⟨x', y', columnEq', rowEq', both⟩
    cases columnEq.symm.trans columnEq'
    cases rowEq.symm.trans rowEq'
    exact both
  · intro both
    exact ⟨x, y, columnEq, rowEq, both⟩

end PcdToPgm

/-- Far from the origin the padding is lost to rounding, and a single point has no column. -/
example : hallNode.grid ⟨[some ⟨2 ^ 54, 0, 1, 0⟩], by decide⟩ =
    .ok ⟨0, 1, .finite (2 ^ 54), .finite (-1 / 2)⟩ := by decide +kernel

theorem keepsObstacles_hall :
    ∃ pgm yaml, hallNode.generate (granting hallCloud) = .completed pgm yaml ∧
      hallNode.KeepsObstacles hallCloud pgm := by
  have done : (hallNode.generate (granting hallCloud)).isCompleted = true := by decide +kernel
  obtain ⟨pgm, yaml, completed⟩ := Outcome.exists_of_isCompleted done
  refine ⟨pgm, yaml, completed, ?_⟩
  apply (PcdToPgm.keepsObstacles_iff completed rfl).mpr
  have framed : hallNode.frame hallCloud = some hallFrame := by decide +kernel
  have inflated : hallFrame.span hallNode.obstacleInflationM =
      .finite (5404319552844595 / 2 ^ 54) := by decide +kernel
  refine .inr ⟨hallFrame, _, framed, inflated, by norm_num, ?_⟩
  have only : ∀ point ∈ hallCloud.finitePoints, hallNode.isObstacle point →
      point = ⟨3, 2, 1, 0⟩ := by decide +kernel
  intro point member obstacle
  rw [only point member obstacle]
  exact ⟨7 / 2, 5 / 2, by decide +kernel, by decide +kernel, ⟨3, by norm_num [hallFrame]⟩,
    ⟨2, by norm_num [hallFrame]⟩⟩

/-- Two obstacle points, one metre apart in both directions. -/
def cornerCloud : PcdCloud ℚ where
  points := [some ⟨0, 0, 1, 0⟩, some ⟨1, 1, 1, 0⟩]
  size_lt := by decide

/-- The node of the hall without padding. -/
def cornerNode : PcdToPgm ℚ := { hallNode with paddingM := .finite 0 }

theorem obstacle_lost :
    ∃ pgm yaml, cornerNode.generate (granting cornerCloud) = .completed pgm yaml ∧
      Double.less (.finite 0) cornerNode.resolution = true ∧
      ¬cornerNode.KeepsObstacles cornerCloud pgm := by
  have done : (cornerNode.generate (granting cornerCloud)).isCompleted = true := by
    decide +kernel
  obtain ⟨pgm, yaml, completed⟩ := Outcome.exists_of_isCompleted done
  refine ⟨pgm, yaml, completed, by decide +kernel, ?_⟩
  intro keeps
  have corner : (⟨1, 1, 1, 0⟩ : Point ℚ) ∈ cornerCloud.finitePoints := by decide +kernel
  obtain ⟨grid, gx, gy, _, sized, column, row, inside, _⟩ := keeps _ corner (by decide +kernel)
  have size : cornerNode.grid cornerCloud = .ok ⟨1, 1, .finite 0, .finite 0⟩ := by
    decide +kernel
  cases size.symm.trans sized
  have outside : cornerNode.column ⟨1, 1, .finite 0, .finite 0⟩ ⟨1, 1, 1, 0⟩ = .ok 1 := by
    decide +kernel
  cases outside.symm.trans column
  exact absurd inside.2.2.1 (by decide)

end ScoutStack
