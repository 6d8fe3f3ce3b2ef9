import ScoutStack.MapTools.Obstacles

/-!
# When the arithmetic of the rasteriser is safe

The conditions on a cloud, the parameters and the machine under which `generate()`
either throws before it creates a file, or converts numbers within the range of `int`,
computes its indices and squares without overflow, and writes one byte for each cell.
-/

namespace ScoutStack

open Decimal

/-- The squares that `dilate` computes for a radius, with the sums of two of them. -/
def SquaresFit (radius : ℤ) : Prop :=
  ∀ dx dy, -radius ≤ dx → dx ≤ radius → -radius ≤ dy → dy ≤ radius →
    InInt (dx * dx) ∧ InInt (dy * dy) ∧ InInt (dx * dx + dy * dy) ∧ InInt (radius * radius)

/-- The squares of a radius fit where twice the largest of them does. -/
theorem squaresFit_iff {radius : ℤ} : SquaresFit radius ↔ (0 ≤ radius → 2 * radius ^ 2 < 2 ^ 31) := by
  constructor
  · intro fits nonneg
    have corner := (fits radius radius (by omega) le_rfl (by omega) le_rfl).2.2.1.2
    linarith [sq radius]
  · intro bound dx dy lowX highX lowY highY
    have nonneg : 0 ≤ radius := by omega
    have small := bound nonneg
    have squareX : dx * dx ≤ radius ^ 2 := by nlinarith
    have squareY : dy * dy ≤ radius ^ 2 := by nlinarith
    have := mul_self_nonneg dx
    have := mul_self_nonneg dy
    have := sq radius
    unfold InInt
    omega

namespace Grid

variable {K : Type} {grid : Grid K} {x y : ℤ}

/-- Every cell has an index in the range of `int`. -/
theorem forall_place_lt_iff :
    (∀ cell ∈ grid.cells, grid.place cell.1 cell.2 < 2 ^ 31) ↔
      (1 ≤ grid.width → 1 ≤ grid.height → grid.width * grid.height ≤ 2 ^ 31) := by
  constructor
  · intro every wide high
    have last : grid.contains (grid.width - 1) (grid.height - 1) := by
      unfold contains
      omega
    have bound : grid.place (grid.width - 1) (grid.height - 1) < 2 ^ 31 :=
      every _ (mem_cells.mpr last)
    have place : grid.place (grid.width - 1) (grid.height - 1) =
        grid.width * grid.height - 1 := by
      unfold place
      ring
    omega
  · rintro bound ⟨x, y⟩ member
    have inside := mem_cells.mp member
    have below := place_lt inside
    obtain ⟨left, bottom, right, top⟩ := inside
    have area := bound (by omega) (by omega)
    change grid.place x y < 2 ^ 31
    omega

/-- Where the work of `dilate` at a set cell is defined. -/
theorem forall_markSafe_iff (inside : grid.contains x y) (widthFits : InInt grid.width)
    (heightFits : InInt grid.height) (places : ∀ cell ∈ grid.cells, grid.place cell.1 cell.2 < 2 ^ 31)
    (radius : ℤ) :
    (∀ offset ∈ offsets (-radius) radius, grid.MarkSafe radius x y offset) ↔
      SquaresFit radius ∧ (0 ≤ radius → x + radius < 2 ^ 31 ∧ y + radius < 2 ^ 31) := by
  obtain ⟨left, bottom, right, top⟩ := inside
  constructor
  · intro safe
    constructor
    · intro dx dy lowX highX lowY highY
      have at_offset := safe (dx, dy) (mem_offsets.mpr ⟨⟨lowX, highX⟩, lowY, highY⟩)
      exact ⟨at_offset.1, at_offset.2.1, at_offset.2.2.1, at_offset.2.2.2.1⟩
    · intro nonneg
      -- The rightmost and the topmost offset are within the radius.
      have rightmost := safe (radius, 0) (mem_offsets.mpr ⟨⟨by omega, le_rfl⟩, by omega, nonneg⟩)
      have topmost := safe (0, radius) (mem_offsets.mpr ⟨⟨by omega, nonneg⟩, by omega, le_rfl⟩)
      exact ⟨(rightmost.2.2.2.2 (by simp)).1.2, (topmost.2.2.2.2 (by simp)).2.1.2⟩
  · rintro ⟨squares, reach⟩ ⟨dx, dy⟩ tried
    obtain ⟨⟨lowX, highX⟩, lowY, highY⟩ := mem_offsets.mp tried
    have nonneg : 0 ≤ radius := by omega
    have small := squaresFit_iff.mp squares nonneg
    have bounds := reach nonneg
    obtain ⟨squareX, squareY, sum, square⟩ := squares dx dy lowX highX lowY highY
    have fits : radius < 2 ^ 31 := by nlinarith
    refine ⟨squareX, squareY, sum, square, ?_⟩
    intro _
    simp only [InInt] at widthFits heightFits ⊢
    refine ⟨by omega, by omega, ?_⟩
    intro within
    exact places _ (mem_cells.mpr within)

end Grid

variable {K : Type} [Field K] [LinearOrder K] [FloorRing K]

namespace Frame

variable (frame : Frame K)

/-- Every cell has an index, and the disk around the cell of each point of the kind is
computed within `int`. -/
def DiskFits (kind : Point K → Bool) (points : List (Point K)) (radius : ℤ) : Prop :=
  (1 ≤ frame.width → 1 ≤ frame.height → frame.width * frame.height ≤ 2 ^ 31) ∧
    ∀ point ∈ points, kind point → frame.Catches point →
      radius ≠ -2 ^ 31 ∧ (0 ≤ radius → 2 * radius ^ 2 < 2 ^ 31 ∧
        frame.column point + radius < 2 ^ 31 ∧ frame.row point + radius < 2 ^ 31)

instance (kind : Point K → Bool) (points : List (Point K)) (radius : ℤ) :
    Decidable (frame.DiskFits kind points radius) :=
  inferInstanceAs (Decidable (_ ∧ ∀ point ∈ points, _))

variable {frame}

theorem dilationSafe_iff {kind : Point K → Bool} {points : List (Point K)}
    (few : points.length < 2 ^ 32) (widthFits : InInt frame.width)
    (heightFits : InInt frame.height) {radius : ℤ} (radiusFits : InInt radius) :
    frame.DilationSafe (frame.maskOf kind points) radius ↔ frame.DiskFits kind points radius := by
  have negated : InInt (-radius) ↔ radius ≠ -2 ^ 31 := by
    unfold InInt at *
    omega
  have places : (∀ cell ∈ frame.grid.cells, frame.grid.place cell.1 cell.2 < 2 ^ 31) ↔
      (1 ≤ frame.width → 1 ≤ frame.height → frame.width * frame.height ≤ 2 ^ 31) :=
    Grid.forall_place_lt_iff
  constructor
  · intro safe
    have every : ∀ cell ∈ frame.grid.cells, frame.grid.place cell.1 cell.2 < 2 ^ 31 :=
      fun cell member => (safe cell member).1
    refine ⟨places.mp every, ?_⟩
    intro point member isKind caught
    have set := (getD_maskOf few widthFits heightFits caught).mpr
      ⟨point, member, isKind, caught, rfl, rfl⟩
    have at_cell :=
      (safe (frame.column point, frame.row point) (Grid.mem_cells.mpr caught)).2 set
    have marks := (Grid.forall_markSafe_iff caught widthFits heightFits every radius).mp at_cell.2
    refine ⟨negated.mp at_cell.1, ?_⟩
    intro nonneg
    exact ⟨squaresFit_iff.mp marks.1 nonneg, marks.2 nonneg⟩
  · rintro ⟨area, disks⟩ ⟨x, y⟩ member
    have every := places.mpr area
    have inside := Grid.mem_cells.mp member
    refine ⟨every _ member, ?_⟩
    intro set
    obtain ⟨point, pointMember, isKind, caught, rfl, rfl⟩ :=
      (getD_maskOf few widthFits heightFits inside).mp set
    have disk := disks point pointMember isKind caught
    refine ⟨negated.mpr disk.1, ?_⟩
    apply (Grid.forall_markSafe_iff caught widthFits heightFits every radius).mpr
    exact ⟨squaresFit_iff.mpr fun nonneg => (disk.2 nonneg).1, fun nonneg => (disk.2 nonneg).2⟩

end Frame

namespace PcdToPgm

/-- Some point of the kind sets a cell of the grid. -/
def Sets (node : PcdToPgm K) (cloud : PcdCloud K) (grid : Grid K) (kind : Point K → Bool) : Prop :=
  ∃ point ∈ cloud.finitePoints, kind point ∧ ∃ gx gy, node.column grid point = .ok gx ∧
    node.row grid point = .ok gy ∧ grid.contains gx gy

/-- The arithmetic of a run that has created the PGM file. -/
structure GridSafe (node : PcdToPgm K) (cloud : PcdCloud K) (grid : Grid K) (pgm : Bytes) :
    Prop where
  size : node.grid cloud = .ok grid
  width_pos : 1 ≤ grid.width
  height_pos : 1 ≤ grid.height
  area : grid.width * grid.height ≤ 2 ^ 31 - 1
  bins : ∀ point ∈ cloud.finitePoints, ∃ gx gy, node.column grid point = .ok gx ∧
    node.row grid point = .ok gy
  index : ∀ x y, grid.contains x y → ∃ place, grid.index x y = .ok place ∧
    place = y * grid.width + x ∧ 0 ≤ place ∧ place < cellCount grid.width grid.height
  free : ∃ radius, node.radius node.freeDilationM = .ok radius ∧
    (node.Sets cloud grid node.isFloor → SquaresFit radius)
  inflation : ∃ radius, node.radius node.obstacleInflationM = .ok radius ∧
    (node.Sets cloud grid node.isObstacle → SquaresFit radius)
  payload : ∃ image, readPgm pgm = some image ∧ image.width = grid.width ∧
    image.height = grid.height ∧ image.raster.length = grid.width * grid.height

variable [IsStrictOrderedRing K]

/-- `generate()` throws before it creates a file, or its arithmetic is safe. -/
def ThrowsOrSafe (node : PcdToPgm K) (environment : Environment K) : Prop :=
  (∃ what, node.generate environment = .failed (.thrown what)) ∨
    ∃ cloud grid pgm, environment.loadPCDFile node.inputPcd = some cloud ∧
      (node.generate environment).pgm? = some pgm ∧ node.GridSafe cloud grid pgm

omit [IsStrictOrderedRing K] in
/-- No cloud is loaded; or the padded box has a size in the range of `int`, and each stage
is defined unless a vector before it is refused, up to a grid that has cells, and not more
than `int` can count. -/
def SafeInput (node : PcdToPgm K) (environment : Environment K) : Prop :=
  ∀ cloud, node.Loads environment cloud → ∃ frame, node.frame cloud = some frame ∧
    InInt frame.width ∧ InInt frame.height ∧
    (environment.Grants .floorCount frame.size → environment.Grants .obstacleCount frame.size →
      (∀ point ∈ cloud.finitePoints, frame.Bins point) ∧
    (environment.Grants .floorMask frame.size → environment.Grants .obstacleMask frame.size →
      Converts Double.roundAway (frame.span node.freeDilationM) ∧
      Converts Double.roundAway (frame.span node.obstacleInflationM) ∧
    (environment.Grants .freeMask frame.size →
      frame.DiskFits node.isFloor cloud.finitePoints (frame.reach node.freeDilationM) ∧
    (environment.Grants .inflatedObstacle frame.size →
      frame.DiskFits node.isObstacle cloud.finitePoints (frame.reach node.obstacleInflationM) ∧
    (environment.Grants .image frame.size → environment.opens node.outputPgm →
      1 ≤ frame.width ∧ 1 ≤ frame.height ∧ frame.width * frame.height ≤ 2 ^ 31 - 1)))))

variable {node : PcdToPgm K} {environment : Environment K} {cloud : PcdCloud K}
  {frame : Frame K}

theorem Completes.sets_iff (completes : node.Completes environment cloud frame)
    (kind : Point K → Bool) :
    node.Sets cloud frame.grid kind ↔
      ∃ point ∈ cloud.finitePoints, kind point ∧ frame.Catches point := by
  constructor
  · rintro ⟨point, member, isKind, gx, gy, column, row, inside⟩
    cases (completes.binned member).1.symm.trans column
    cases (completes.binned member).2.symm.trans row
    exact ⟨point, member, isKind, inside⟩
  · rintro ⟨point, member, isKind, caught⟩
    have binned := completes.binned member
    exact ⟨point, member, isKind, _, _, binned.1, binned.2, caught⟩

/-- The end of a run whose stages have all been defined. -/
theorem Completes.gridSafe_iff (completes : node.Completes environment cloud frame)
    (floor : frame.DiskFits node.isFloor cloud.finitePoints (frame.reach node.freeDilationM))
    (obstacle : frame.DiskFits node.isObstacle cloud.finitePoints
      (frame.reach node.obstacleInflationM)) :
    RasterSafe frame ∧ node.GridSafe cloud frame.grid (node.file cloud frame) ↔
      1 ≤ frame.width ∧ 1 ≤ frame.height ∧ frame.width * frame.height ≤ 2 ^ 31 - 1 := by
  constructor
  · rintro ⟨_, safe⟩
    exact ⟨safe.width_pos, safe.height_pos, safe.area⟩
  · rintro ⟨wide, high, area⟩
    have places : ∀ cell ∈ frame.grid.cells, frame.grid.place cell.1 cell.2 < 2 ^ 31 :=
      Grid.forall_place_lt_iff.mpr floor.1
    have squares : ∀ (kind : Point K → Bool) (radius : ℤ),
        frame.DiskFits kind cloud.finitePoints radius →
        node.Sets cloud frame.grid kind → SquaresFit radius := by
      intro kind radius disks sets
      obtain ⟨point, member, isKind, caught⟩ := (completes.sets_iff kind).mp sets
      have disk := (disks.2 point member isKind caught).2
      exact squaresFit_iff.mpr fun nonneg => (disk nonneg).1
    constructor
    · constructor
      · have fits := completes.heightFits
        unfold InInt at *
        omega
      · intro cell member
        exact places cell (Grid.mem_cells.mpr (Grid.mem_rasterCells.mp member))
    · constructor
      · exact (node.stage_grid completes.framed).ok ⟨completes.widthFits, completes.heightFits⟩
      · exact wide
      · exact high
      · exact area
      · intro point member
        exact ⟨_, _, completes.binned member⟩
      · intro x y inside
        have place := (Grid.stage_index inside).ok (places (x, y) (Grid.mem_cells.mpr inside))
        have count : (cellCount frame.grid.width frame.grid.height : ℤ) =
            frame.grid.width * frame.grid.height :=
          Grid.cellCount_of_contains inside completes.widthFits completes.heightFits
        refine ⟨_, place, rfl, Grid.place_nonneg inside, ?_⟩
        rw [count]
        exact Grid.place_lt inside
      · exact ⟨_, (node.stage_radius completes.framed _).ok completes.free,
          squares node.isFloor _ floor⟩
      · exact ⟨_, (node.stage_radius completes.framed _).ok completes.inflation,
          squares node.isObstacle _ obstacle⟩
      · refine ⟨_, readPgm_header (zero_le_one.trans wide) (zero_le_one.trans high) _,
          Int.toNat_of_nonneg (zero_le_one.trans wide),
          Int.toNat_of_nonneg (zero_le_one.trans high), ?_⟩
        rw [payload, List.length_map]
        exact length_rasterCells (zero_le_one.trans wide) (zero_le_one.trans high)

theorem throwsOrSafe_iff_meets :
    node.ThrowsOrSafe environment ↔
      Meets (fun failure => ∃ what, failure = Failure.thrown what)
        (fun result => ∃ cloud, environment.loadPCDFile node.inputPcd = some cloud ∧
          node.GridSafe cloud result.1 result.2) (node.pgm environment) := by
  unfold ThrowsOrSafe generate
  cases run : node.pgm environment with
  | error failure =>
      simp [Meets, Outcome.pgm?]
  | ok result =>
      obtain ⟨grid, pgm⟩ := result
      obtain ⟨loaded, frame, completes, rfl, rfl⟩ := node.exists_of_pgm run
      have written : (if environment.opens node.outputYaml = true then
            Outcome.completed (node.file loaded frame) (node.yaml frame.grid)
          else .pgmOnly (node.file loaded frame) "Cannot open output YAML.").pgm? =
          some (node.file loaded frame) := by
        split <;> rfl
      constructor
      · rintro (⟨what, thrown⟩ | ⟨cloud, grid, pgm, file, wrote, safe⟩)
        · simp only at thrown
          split at thrown <;> contradiction
        · cases completes.loads.file.symm.trans file
          cases ((node.stage_grid completes.framed).ok
            ⟨completes.widthFits, completes.heightFits⟩).symm.trans safe.size
          cases written.symm.trans wrote
          exact ⟨loaded, file, safe⟩
      · rintro ⟨cloud, file, safe⟩
        exact .inr ⟨cloud, frame.grid, node.file loaded frame, file, written, safe⟩

/-- Exactly when the arithmetic is safe. -/
theorem throwsOrSafe_iff : node.ThrowsOrSafe environment ↔ node.SafeInput environment := by
  rw [throwsOrSafe_iff_meets, node.meets_pgm fun what => ⟨what, rfl⟩]
  have undefined : (∃ what, Failure.undefined = Failure.thrown what) ↔ False := by simp
  apply forall_congr'
  intro cloud
  apply imp_congr_right
  intro loads
  simp only [undefined, Stages, ensures_false]
  cases framed : node.frame cloud with
  | none => simp
  | some frame =>
      simp only [reduceCtorEq, false_implies, true_and, Option.some.injEq, forall_eq',
        exists_eq_left', and_assoc]
      apply and_congr_right
      intro widthFits
      apply and_congr_right
      intro heightFits
      apply imp_congr_right
      intro _
      apply imp_congr_right
      intro _
      apply and_congr_right
      intro bins
      apply imp_congr_right
      intro _
      apply imp_congr_right
      intro _
      apply and_congr_right
      intro free
      apply and_congr_right
      intro inflation
      have few := cloud.length_finitePoints_lt
      have completes : node.Completes environment cloud frame :=
        ⟨loads, framed, widthFits, heightFits, bins, free, inflation⟩
      have freeFits : InInt (frame.reach node.freeDilationM) := free.2
      have inflationFits : InInt (frame.reach node.obstacleInflationM) := inflation.2
      rw [Frame.dilationSafe_iff few widthFits heightFits freeFits,
        Frame.dilationSafe_iff few widthFits heightFits inflationFits]
      apply imp_congr_right
      intro _
      apply and_congr_right
      intro floor
      apply imp_congr_right
      intro _
      apply and_congr_right
      intro obstacle
      apply imp_congr_right
      intro _
      apply imp_congr_right
      intro _
      simp only [loads.file, Option.some.injEq, exists_eq_left']
      exact completes.gridSafe_iff floor obstacle

end PcdToPgm

theorem throwsOrSafe_hall : hallNode.ThrowsOrSafe (granting hallCloud) := by
  apply PcdToPgm.throwsOrSafe_iff.mpr
  intro cloud loads
  cases loads.file
  have framed : hallNode.frame hallCloud = some hallFrame := by decide +kernel
  have bins : ∀ point ∈ hallCloud.finitePoints, hallFrame.Bins point := by decide +kernel
  have floor : hallFrame.DiskFits hallNode.isFloor hallCloud.finitePoints
      (hallFrame.reach hallNode.freeDilationM) := by decide +kernel
  have obstacle : hallFrame.DiskFits hallNode.isObstacle hallCloud.finitePoints
      (hallFrame.reach hallNode.obstacleInflationM) := by decide +kernel
  refine ⟨hallFrame, framed, by decide +kernel, by decide +kernel, fun _ _ => ⟨bins,
    fun _ _ => ⟨by decide +kernel, by decide +kernel, fun _ => ⟨floor,
      fun _ => ⟨obstacle, fun _ _ => ?_⟩⟩⟩⟩⟩
  decide +kernel

/-- A cloud that is not empty, without a finite point. -/
def lostCloud : PcdCloud ℚ where
  points := [none]
  size_lt := by decide

theorem lostCloud_unsafe : ¬hallNode.ThrowsOrSafe (granting lostCloud) := by
  have undefined : hallNode.generate (granting lostCloud) = .failed .undefined := by
    decide +kernel
  rintro (⟨what, thrown⟩ | ⟨_, _, pgm, _, wrote, _⟩)
  · cases undefined.symm.trans thrown
  · rw [undefined] at wrote
    cases wrote

end ScoutStack
