import ScoutStack.MapTools.Stages

/-!
# What the image shows

A cell of the image is occupied when an obstacle point lies within the radius of the
inflation, else free when a floor point lies within the radius of the dilation, else
unknown.  A run that writes the image has gone through every stage.
-/

namespace ScoutStack

open Decimal Binary

namespace Grid

variable {K : Type} {grid : Grid K} {x y : ℤ}

/-- The cells that lie in the reach of a set cell. -/
def Reaches (grid : Grid K) (input : List UInt8) (radius x y : ℤ) : Prop :=
  0 ≤ radius ∧ ∃ a b, grid.contains a b ∧ input.getD (grid.position a b) 0 ≠ 0 ∧
    (x - a) ^ 2 + (y - b) ^ 2 ≤ radius ^ 2

theorem painted_marked (radius a b : ℤ) (output : List UInt8) (offset : ℤ × ℤ) :
    Painted 1 (fun i => offset.1 * offset.1 + offset.2 * offset.2 ≤ radius * radius ∧
        grid.contains (a + offset.1) (b + offset.2) ∧
        i = grid.position (a + offset.1) (b + offset.2))
      output (grid.marked radius a b output offset) := by
  unfold marked
  split
  next far =>
    apply (Painted.refl output).congr
    intro i
    simp [far]
  next near =>
    apply (Painted.ite fun _ => Painted.set output _).congr
    intro i
    simp [not_lt.mp near]

theorem painted_spreadFrom (input : List UInt8) (radius : ℤ) (output : List UInt8)
    (cell : ℤ × ℤ) :
    Painted 1 (fun i => input.getD (grid.position cell.1 cell.2) 0 ≠ 0 ∧
        ∃ offset ∈ offsets (-radius) radius,
          offset.1 * offset.1 + offset.2 * offset.2 ≤ radius * radius ∧
          grid.contains (cell.1 + offset.1) (cell.2 + offset.2) ∧
          i = grid.position (cell.1 + offset.1) (cell.2 + offset.2))
      output (grid.spreadFrom input radius output cell) := by
  unfold spreadFrom
  split
  next clear =>
    apply (Painted.refl output).congr
    intro i
    exact ⟨False.elim, fun holds => holds.1 clear⟩
  next set =>
    apply (Painted.foldl (fun output offset _ =>
      painted_marked radius cell.1 cell.2 output offset) output).congr
    intro i
    exact ⟨fun holds => ⟨set, holds⟩, fun holds => holds.2⟩

/-- An offset within the radius is one of the offsets that `dilate` tries. -/
theorem mem_offsets_of_near {radius dx dy : ℤ} (nonneg : 0 ≤ radius)
    (near : dx * dx + dy * dy ≤ radius * radius) : (dx, dy) ∈ offsets (-radius) radius := by
  have column : dx ^ 2 ≤ radius ^ 2 := by nlinarith [mul_self_nonneg dy]
  have row : dy ^ 2 ≤ radius ^ 2 := by nlinarith [mul_self_nonneg dx]
  have columns := abs_le.mp (abs_le_of_sq_le_sq column nonneg)
  have rows := abs_le.mp (abs_le_of_sq_le_sq row nonneg)
  exact mem_offsets.mpr ⟨columns, rows⟩

/-- A cell of the zeroed output is set where a set cell of the input reaches it. -/
theorem getD_foldl_spreadFrom (input : List UInt8) (radius : ℤ) (inside : grid.contains x y)
    {size : ℕ} (bound : grid.position x y < size) :
    (grid.cells.foldl (grid.spreadFrom input radius) (List.replicate size 0)).getD
        (grid.position x y) 0 ≠ 0 ↔ grid.Reaches input radius x y := by
  have spread : ∀ output, ∀ cell ∈ grid.cells, Painted 1 _ output
      (grid.spreadFrom input radius output cell) :=
    fun output cell _ => painted_spreadFrom input radius output cell
  have painted := Painted.foldl spread (List.replicate size 0)
  have reached : (∃ cell ∈ grid.cells, input.getD (grid.position cell.1 cell.2) 0 ≠ 0 ∧
      ∃ offset ∈ offsets (-radius) radius,
        offset.1 * offset.1 + offset.2 * offset.2 ≤ radius * radius ∧
        grid.contains (cell.1 + offset.1) (cell.2 + offset.2) ∧
        grid.position x y = grid.position (cell.1 + offset.1) (cell.2 + offset.2)) ↔
      grid.Reaches input radius x y := by
    constructor
    · rintro ⟨⟨a, b⟩, member, set, ⟨dx, dy⟩, tried, near, landed, same⟩
      obtain ⟨columns, rows⟩ := mem_offsets.mp tried
      obtain ⟨rfl, rfl⟩ := position_inj inside landed same
      refine ⟨by omega, a, b, mem_cells.mp member, set, ?_⟩
      calc (a + dx - a) ^ 2 + (b + dy - b) ^ 2 = dx * dx + dy * dy := by ring
        _ ≤ radius * radius := near
        _ = radius ^ 2 := by ring
    · rintro ⟨nonneg, a, b, member, set, near⟩
      have close : (x - a) * (x - a) + (y - b) * (y - b) ≤ radius * radius := by
        linarith [sq (x - a), sq (y - b), sq radius]
      refine ⟨(a, b), mem_cells.mpr member, set, (x - a, y - b),
        mem_offsets_of_near nonneg close, close, ?_⟩
      simp [inside]
  by_cases holds : grid.Reaches input radius x y
  · have value := painted.inside (grid.position x y) (by simpa using bound) (reached.mpr holds)
    simp [List.getD_eq_getElem?_getD, value, holds]
  · have value := painted.outside (grid.position x y) fun other => holds (reached.mp other)
    simp [List.getD_eq_getElem?_getD, value, holds, bound]

end Grid

section Painting

theorem length_paint {value : UInt8} {image mask : List UInt8}
    (same : image.length = mask.length) : (paint value image mask).length = image.length := by
  simp [paint, same]

theorem getD_paint (value : UInt8) {image mask : List UInt8} (same : image.length = mask.length)
    {i : ℕ} (bound : i < image.length) :
    (paint value image mask).getD i 0 = if mask.getD i 0 ≠ 0 then value else image.getD i 0 := by
  have inside : i < mask.length := same ▸ bound
  simp [paint, List.getD_eq_getElem?_getD, bound, inside]

end Painting

variable {K : Type} [Field K] [LinearOrder K] [FloorRing K]

namespace Frame

variable (frame : Frame K)

/-- A length in cells. -/
def span (metres : Double K) : Double K := double (metres / frame.resolution)

/-- A length in whole cells. -/
def reach (metres : Double K) : ℤ := Double.roundAway (frame.span metres).number

/-- Some point of the kind lies in a cell of the grid, at a distance of at most `radius`
cells from the cell at `x` and `y`. -/
def Reached (kind : Point K → Bool) (points : List (Point K)) (radius x y : ℤ) : Prop :=
  0 ≤ radius ∧ ∃ point ∈ points, kind point ∧ frame.Catches point ∧
    (x - frame.column point) ^ 2 + (y - frame.row point) ^ 2 ≤ radius ^ 2

variable {frame}

/-- The number of cells. -/
def size (frame : Frame K) : ℕ := cellCount frame.width frame.height

/-- The mask of a kind of points. -/
def maskOf (frame : Frame K) (kind : Point K → Bool) (points : List (Point K)) : List UInt8 :=
  mask ((frame.hits kind points).foldl bump (List.replicate frame.size 0))

/-- What `dilate` makes of a mask. -/
def dilated (frame : Frame K) (input : List UInt8) (radius : ℤ) : List UInt8 :=
  frame.grid.cells.foldl (frame.grid.spreadFrom input radius) (List.replicate frame.size 0)

/-- Where `dilate` is defined. -/
def DilationSafe (frame : Frame K) (input : List UInt8) (radius : ℤ) : Prop :=
  ∀ cell ∈ frame.grid.cells, frame.grid.SpreadSafe input radius cell

theorem length_maskOf (kind : Point K → Bool) (points : List (Point K)) :
    (frame.maskOf kind points).length = frame.size := by
  simp [maskOf, mask, length_foldl_bump]

theorem length_dilated (input : List UInt8) (radius : ℤ) :
    (frame.dilated input radius).length = frame.size := by
  have kept : ∀ (cells : List (ℤ × ℤ)) (output : List UInt8),
      (cells.foldl (frame.grid.spreadFrom input radius) output).length = output.length := by
    intro cells
    induction cells with
    | nil => exact fun output => rfl
    | cons cell cells ih =>
        intro output
        rw [List.foldl_cons, ih, Grid.length_spreadFrom]
  rw [dilated, kept, List.length_replicate]

/-- The mask of a kind of points is set at the cells of the points. -/
theorem getD_maskOf {kind : Point K → Bool} {points : List (Point K)}
    (few : points.length < 2 ^ 32) (widthFits : InInt frame.width)
    (heightFits : InInt frame.height) {x y : ℤ} (inside : frame.grid.contains x y) :
    (frame.maskOf kind points).getD (frame.grid.position x y) 0 ≠ 0 ↔
      ∃ point ∈ points, kind point ∧ frame.Catches point ∧ frame.column point = x ∧
        frame.row point = y := by
  have fewHits : (frame.hits kind points).length < 2 ^ 32 :=
    lt_of_le_of_lt (List.length_filterMap_le _ _) few
  have bound : frame.grid.position x y < frame.size :=
    Grid.position_lt inside widthFits heightFits
  apply (getD_mask_foldl_bump bound fewHits).trans
  apply frame.mem_hits.trans
  constructor
  · rintro ⟨point, member, isKind, caught, same⟩
    obtain ⟨column, row⟩ := Grid.position_inj caught inside same
    exact ⟨point, member, isKind, caught, column, row⟩
  · rintro ⟨point, member, isKind, caught, rfl, rfl⟩
    exact ⟨point, member, isKind, caught, rfl⟩

/-- The mask of a kind of points reaches the cells that the points reach. -/
theorem reaches_maskOf {kind : Point K → Bool} {points : List (Point K)}
    (few : points.length < 2 ^ 32) (widthFits : InInt frame.width)
    (heightFits : InInt frame.height) {radius x y : ℤ} :
    frame.grid.Reaches (frame.maskOf kind points) radius x y ↔
      frame.Reached kind points radius x y := by
  constructor
  · rintro ⟨nonneg, a, b, inside, set, near⟩
    obtain ⟨point, member, isKind, caught, rfl, rfl⟩ :=
      (getD_maskOf few widthFits heightFits inside).mp set
    exact ⟨nonneg, point, member, isKind, caught, near⟩
  · rintro ⟨nonneg, point, member, isKind, caught, near⟩
    have set := (getD_maskOf few widthFits heightFits caught).mpr
      ⟨point, member, isKind, caught, rfl, rfl⟩
    exact ⟨nonneg, _, _, caught, set, near⟩

end Frame

theorem Outcome.exists_of_isCompleted {outcome : Outcome} (completed : outcome.isCompleted = true) :
    ∃ pgm yaml, outcome = .completed pgm yaml := by
  cases outcome with
  | completed pgm yaml => exact ⟨pgm, yaml, rfl⟩
  | failed failure => contradiction
  | pgmOnly pgm what => contradiction

namespace PcdToPgm

variable (node : PcdToPgm K) {cloud : PcdCloud K}

/-- The image of a frame. -/
def picture (cloud : PcdCloud K) (frame : Frame K) : List UInt8 :=
  paint 0
    (paint 254 (List.replicate frame.size 205)
      (frame.dilated (frame.maskOf node.isFloor cloud.finitePoints)
        (frame.reach node.freeDilationM)))
    (frame.dilated (frame.maskOf node.isObstacle cloud.finitePoints)
      (frame.reach node.obstacleInflationM))

open Classical in
/-- The value that belongs into the cell at `x` and `y`. -/
noncomputable def pixel (cloud : PcdCloud K) (frame : Frame K) (x y : ℤ) : UInt8 :=
  if frame.Reached node.isObstacle cloud.finitePoints (frame.reach node.obstacleInflationM) x y
  then 0
  else if frame.Reached node.isFloor cloud.finitePoints (frame.reach node.freeDilationM) x y
  then 254
  else 205

theorem length_picture (frame : Frame K) : (node.picture cloud frame).length = frame.size := by
  simp [picture, length_paint, Frame.length_dilated]

/-- The image holds the value of each cell at the position of the cell. -/
theorem getD_picture {frame : Frame K} (widthFits : InInt frame.width)
    (heightFits : InInt frame.height) {x y : ℤ} (inside : frame.grid.contains x y) :
    (node.picture cloud frame).getD (frame.grid.position x y) 0 = node.pixel cloud frame x y := by
  have bound : frame.grid.position x y < frame.size :=
    Grid.position_lt inside widthFits heightFits
  have set : ∀ (kind : Point K → Bool) (radius : ℤ),
      (frame.dilated (frame.maskOf kind cloud.finitePoints) radius).getD
        (frame.grid.position x y) 0 ≠ 0 ↔ frame.Reached kind cloud.finitePoints radius x y := by
    intro kind radius
    rw [← Frame.reaches_maskOf cloud.length_finitePoints_lt widthFits heightFits]
    exact Grid.getD_foldl_spreadFrom _ radius inside bound
  have background : (List.replicate frame.size (205 : UInt8)).getD (frame.grid.position x y) 0 =
      205 := by
    simp [List.getD_eq_getElem?_getD, bound]
  unfold picture pixel
  rw [getD_paint, getD_paint, background]
  · classical
    exact if_congr (set node.isObstacle _) rfl (if_congr (set node.isFloor _) rfl rfl)
  · simp [Frame.length_dilated]
  · simpa using bound
  · simp [length_paint, Frame.length_dilated]
  · simpa [length_paint, Frame.length_dilated] using bound

variable [IsStrictOrderedRing K]

theorem stage_radius {frame : Frame K} (framed : node.frame cloud = some frame)
    (metres : Double K) :
    Stage (Converts Double.roundAway (frame.span metres)) (frame.reach metres)
      (node.radius metres) := by
  obtain ⟨_, _, _, same⟩ := node.frame_eq_some_iff.mp framed
  rw [Frame.reach, Frame.span, same]
  exact stage_toInt Double.roundAway _

/-- The stages of the image in their order, each one with its vectors before it and its
guard, and what follows when all of them have gone well. -/
def Stages (otherwise : Prop) (environment : Environment K) (cloud : PcdCloud K)
    (frame : Frame K) (rest : Prop) : Prop :=
  environment.Grants .floorCount frame.size → environment.Grants .obstacleCount frame.size →
    Ensures otherwise (∀ point ∈ cloud.finitePoints, frame.Bins point)
  (environment.Grants .floorMask frame.size → environment.Grants .obstacleMask frame.size →
    Ensures otherwise (Converts Double.roundAway (frame.span node.freeDilationM))
    (Ensures otherwise (Converts Double.roundAway (frame.span node.obstacleInflationM))
  (environment.Grants .freeMask frame.size →
    Ensures otherwise
      (frame.DilationSafe (frame.maskOf node.isFloor cloud.finitePoints)
        (frame.reach node.freeDilationM))
  (environment.Grants .inflatedObstacle frame.size →
    Ensures otherwise
      (frame.DilationSafe (frame.maskOf node.isObstacle cloud.finitePoints)
        (frame.reach node.obstacleInflationM))
  (environment.Grants .image frame.size → rest)))))

theorem meets_image (environment : Environment K) {frame : Frame K}
    (framed : node.frame cloud = some frame) (widthFits : InInt frame.width)
    (heightFits : InInt frame.height) {allowed : Failure → Prop}
    (throws : ∀ what, allowed (.thrown what)) {after : List UInt8 → Prop} :
    Meets allowed after (node.image environment cloud frame.grid) ↔
      node.Stages (allowed .undefined) environment cloud frame
        (after (node.picture cloud frame)) := by
  have dilates : ∀ (kind : Point K → Bool) (radius : ℤ),
      Stage (frame.DilationSafe (frame.maskOf kind cloud.finitePoints) radius)
        (frame.dilated (frame.maskOf kind cloud.finitePoints) radius)
        (frame.grid.dilate (frame.maskOf kind cloud.finitePoints)
          (List.replicate frame.size 0) radius) := by
    intro kind radius
    apply Grid.stage_dilate widthFits heightFits radius
    · exact Frame.length_maskOf kind cloud.finitePoints
    · exact List.length_replicate
  unfold image
  iterate 2
    apply meets_bind.trans
    apply (meets_allocate throws).trans
    apply imp_congr_right
    intro _
  apply meets_bind.trans
  apply (node.stage_counts framed widthFits heightFits cloud.finitePoints).meets.trans
  apply ensures_congr
  intro _
  iterate 2
    apply meets_bind.trans
    apply (meets_allocate throws).trans
    apply imp_congr_right
    intro _
  apply meets_bind.trans
  apply (node.stage_radius framed node.freeDilationM).meets.trans
  apply ensures_congr
  intro _
  apply meets_bind.trans
  apply (node.stage_radius framed node.obstacleInflationM).meets.trans
  apply ensures_congr
  intro _
  apply meets_bind.trans
  apply (meets_allocate throws).trans
  apply imp_congr_right
  intro _
  apply meets_bind.trans
  apply (dilates node.isFloor _).meets.trans
  apply ensures_congr
  intro _
  apply meets_bind.trans
  apply (meets_allocate throws).trans
  apply imp_congr_right
  intro _
  apply meets_bind.trans
  apply (dilates node.isObstacle _).meets.trans
  apply ensures_congr
  intro _
  apply meets_bind.trans
  apply (meets_allocate throws).trans
  apply imp_congr_right
  intro _
  rfl

end PcdToPgm

section Raster

variable {K : Type} {grid : Grid K}

theorem length_interval (first last : ℤ) :
    (interval first last).length = (last + 1 - first).toNat := by
  simp [interval]

theorem length_rasterCells (wide : 0 ≤ grid.width) (high : 0 ≤ grid.height) :
    (grid.rasterCells.length : ℤ) = grid.width * grid.height := by
  simp [Grid.rasterCells, length_interval, wide, high, mul_comm]

/-- The raster is defined where each index is, and it lists the image row by row. -/
theorem stage_raster (widthFits : InInt grid.width) (heightFits : InInt grid.height)
    {image : List UInt8} (size : image.length = cellCount grid.width grid.height) :
    Stage (InInt (grid.height - 1) ∧
        ∀ cell ∈ grid.rasterCells, grid.place cell.1 cell.2 < 2 ^ 31)
      (grid.rasterCells.map fun cell => image.getD (grid.position cell.1 cell.2) 0)
      (grid.raster image) := by
  unfold Grid.raster
  apply Guarded.bind (stage_int (grid.height - 1))
  intro _
  apply Guarded.mapM
  intro cell member
  have inside : grid.contains cell.1 cell.2 := Grid.mem_rasterCells.mp member
  have bound := Grid.position_lt inside widthFits heightFits
  apply Guarded.congr
  · apply Guarded.bind (Grid.stage_index inside)
    intro _
    exact stage_load image (grid.place cell.1 cell.2) 0
  · have loaded : (grid.place cell.1 cell.2).toNat < image.length := by rwa [size]
    simp [Grid.place_nonneg inside, loaded]

end Raster

namespace PcdToPgm

variable {K : Type} [Field K] [LinearOrder K] [FloorRing K] [IsStrictOrderedRing K]
  (node : PcdToPgm K) {environment : Environment K} {cloud : PcdCloud K}

/-- The paths are given and the file holds a cloud with points. -/
structure Loads (environment : Environment K) (cloud : PcdCloud K) : Prop where
  paths : ¬(node.inputPcd = "" ∨ node.outputPgm = "" ∨ node.outputYaml = "")
  file : environment.loadPCDFile node.inputPcd = some cloud
  points : cloud.points ≠ []

omit [Field K] [LinearOrder K] [FloorRing K] [IsStrictOrderedRing K] in
theorem meets_input {allowed : Failure → Prop} (throws : ∀ what, allowed (.thrown what))
    {after : PcdCloud K → Prop} :
    Meets allowed after (node.input environment) ↔
      ∀ cloud, node.Loads environment cloud → after cloud := by
  unfold input
  split
  next missing => exact iff_of_true (throws _) fun cloud loads => absurd missing loads.paths
  next given =>
    cases file : environment.loadPCDFile node.inputPcd with
    | none =>
        apply iff_of_true (throws _)
        intro cloud loads
        rw [loads.file] at file
        contradiction
    | some cloud =>
        by_cases empty : cloud.points = []
        · simp only [if_pos empty]
          apply iff_of_true (throws _)
          intro other loads
          rw [loads.file, Option.some.injEq] at file
          exact absurd empty (file ▸ loads.points)
        · simp only [if_neg empty]
          constructor
          · intro holds other loads
            rw [loads.file, Option.some.injEq] at file
            rw [file]
            exact holds
          · intro every
            exact every cloud ⟨given, file, empty⟩

/-- Where `writePgm` is defined. -/
def RasterSafe (frame : Frame K) : Prop :=
  InInt (frame.height - 1) ∧
    ∀ cell ∈ frame.grid.rasterCells, frame.grid.place cell.1 cell.2 < 2 ^ 31

/-- The image, row by row from the top. -/
def payload (cloud : PcdCloud K) (frame : Frame K) : Bytes :=
  frame.grid.rasterCells.map fun cell =>
    (node.picture cloud frame).getD (frame.grid.position cell.1 cell.2) 0

/-- The contents of the PGM file. -/
def file (cloud : PcdCloud K) (frame : Frame K) : Bytes :=
  frame.grid.header ++ node.payload cloud frame

/-- Everything that happens before the YAML file. -/
theorem meets_pgm {allowed : Failure → Prop} (throws : ∀ what, allowed (.thrown what))
    {after : Grid K × Bytes → Prop} :
    Meets allowed after (node.pgm environment) ↔
      ∀ cloud, node.Loads environment cloud →
        (node.frame cloud = none → allowed .undefined) ∧
        ∀ frame, node.frame cloud = some frame →
          Ensures (allowed .undefined) (InInt frame.width ∧ InInt frame.height)
            (node.Stages (allowed .undefined) environment cloud frame
              (environment.opens node.outputPgm →
                Ensures (allowed .undefined) (RasterSafe frame)
                  (after (frame.grid, node.file cloud frame)))) := by
  unfold pgm
  apply meets_bind.trans
  apply (node.meets_input throws).trans
  apply forall_congr'
  intro cloud
  apply imp_congr_right
  intro loads
  apply meets_bind.trans
  cases framed : node.frame cloud with
  | none =>
      rw [node.grid_of_not_framed framed]
      simp [Meets]
  | some frame =>
      apply (node.stage_grid framed).meets.trans
      simp only [reduceCtorEq, false_implies, true_and, Option.some.injEq, forall_eq']
      apply ensures_congr
      intro fits
      apply meets_bind.trans
      apply (node.meets_image environment framed fits.1 fits.2 throws).trans
      apply iff_of_eq
      congr 1
      apply propext
      apply meets_bind.trans
      unfold writePgm
      split
      next opened =>
        apply meets_bind.trans
        apply (stage_raster fits.1 fits.2 (node.length_picture frame)).meets.trans
        rw [opened]
        simp only [true_implies]
        rfl
      next closed =>
        apply iff_of_true (throws _)
        intro opened
        exact absurd opened closed

/-- What a run that writes its files has gone through. -/
structure Completes (environment : Environment K) (cloud : PcdCloud K) (frame : Frame K) :
    Prop where
  loads : node.Loads environment cloud
  framed : node.frame cloud = some frame
  widthFits : InInt frame.width
  heightFits : InInt frame.height
  bins : ∀ point ∈ cloud.finitePoints, frame.Bins point
  free : Converts Double.roundAway (frame.span node.freeDilationM)
  inflation : Converts Double.roundAway (frame.span node.obstacleInflationM)

theorem exists_of_pgm {grid : Grid K} {pgm : Bytes} (written : node.pgm environment = .ok (grid, pgm)) :
    ∃ cloud frame, node.Completes environment cloud frame ∧ grid = frame.grid ∧
      pgm = node.file cloud frame := by
  have rule : Meets (fun _ => True) (fun result : Grid K × Bytes => ∃ cloud frame,
      node.Completes environment cloud frame ∧ result.1 = frame.grid ∧
        result.2 = node.file cloud frame) (node.pgm environment) := by
    apply (node.meets_pgm fun _ => trivial).mpr
    intro cloud loads
    refine ⟨fun _ => trivial, ?_⟩
    intro frame framed
    simp only [Stages, ensures_true]
    intro fits _ _ bins _ _ free inflation _ _ _ _ _ _ _
    exact ⟨cloud, frame, ⟨loads, framed, fits.1, fits.2, bins, free, inflation⟩, rfl, rfl⟩
  rw [written] at rule
  exact rule

/-- A completed run has the files of its frame. -/
theorem exists_of_completed {pgm : Bytes} {yaml : MapYaml}
    (completed : node.generate environment = .completed pgm yaml) :
    ∃ cloud frame, node.Completes environment cloud frame ∧ pgm = node.file cloud frame ∧
      yaml = node.yaml frame.grid := by
  unfold generate at completed
  split at completed
  next => contradiction
  next grid file written =>
    obtain ⟨cloud, frame, completes, rfl, rfl⟩ := node.exists_of_pgm written
    split at completed
    next =>
      cases completed
      exact ⟨cloud, frame, completes, rfl, rfl⟩
    next => contradiction

end PcdToPgm

end ScoutStack
