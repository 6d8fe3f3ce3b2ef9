import ScoutStack.MapTools.Picture
import Mathlib.Data.Rat.Floor

/-!
# Reading the map back

The two files of a completed run, read with the rules of `map_server`: the first row of
the raster is the top row, and a pixel is compared with the two thresholds.
-/

namespace ScoutStack

open Decimal Binary

inductive CellState where
  | occupied
  | free
  | unknown
  deriving DecidableEq

/-- A binary PGM file. -/
structure PgmImage where
  width : ℕ
  height : ℕ
  maxValue : ℕ
  raster : Bytes

/-- The map that `map_server` makes of the two files. -/
structure LoadedMap (K : Type) where
  width : ℕ
  height : ℕ
  resolution : K
  originX : K
  originY : K
  cell : ℤ → ℤ → CellState

def isSpace (byte : UInt8) : Bool := byte.toNat == 32 || (9 ≤ byte.toNat && byte.toNat ≤ 13)

/-- A number after white space. -/
def readField (text : Bytes) : Option (ℕ × Bytes) := readNat (text.dropWhile isSpace)

/-- Reads a binary PGM file: one white space stands between the header and the raster. -/
def readPgm : Bytes → Option PgmImage
  | p :: five :: rest =>
      if p = ascii 'P' ∧ five = ascii '5' then do
        let (width, rest) ← readField rest
        let (height, rest) ← readField rest
        let (maxValue, rest) ← readField rest
        match rest with
        | space :: raster => if isSpace space then some ⟨width, height, maxValue, raster⟩ else none
        | [] => none
      else none
  | _ => none

section Reading

variable {K : Type} [Field K] [LinearOrder K]

/-- The state of a pixel: its darkness against the two thresholds. -/
def classify (negate : ℤ) (occupiedThresh freeThresh : K) (value : UInt8) : CellState :=
  let p : K := if negate = 0 then (255 - value.toNat) / 255 else value.toNat / 255
  if occupiedThresh < p then .occupied
  else if p < freeThresh then .free
  else .unknown

/-- Reads the two files. -/
def loadMap (pgm : Bytes) (yaml : MapYaml) : Option (LoadedMap K) := do
  let image ← readPgm pgm
  let resolution : K ← readDecimal yaml.resolution
  let originX : K ← readDecimal yaml.originX
  let originY : K ← readDecimal yaml.originY
  let negate ← readWhole yaml.negate
  let occupiedThresh : K ← readDecimal yaml.occupiedThresh
  let freeThresh : K ← readDecimal yaml.freeThresh
  if image.raster.length < image.width * image.height then none
  else
    some
      { width := image.width
        height := image.height
        resolution := resolution
        originX := originX
        originY := originY
        cell := fun x y =>
          classify negate occupiedThresh freeThresh
            (image.raster.getD ((image.height - 1 - y) * image.width + x).toNat 0) }

end Reading

section Header

variable {K : Type} {grid : Grid K}

theorem readField_printInt {value : ℤ} (nonneg : 0 ≤ value) {separator : UInt8}
    (space : isSpace separator = true) {rest : Bytes} (stop : NoDigit rest) :
    readField (separator :: (printInt value ++ rest)) = some (value.toNat, rest) := by
  have printed : printInt value = printNat value.toNat := by
    rw [printInt, if_neg (not_lt.mpr nonneg)]
    congr 1
    omega
  have first : (printNat value.toNat ++ rest).dropWhile isSpace = printNat value.toNat ++ rest := by
    have small : ∀ d ∈ digitsOf value.toNat, d < 10 := fun d => lt_of_mem_digitsOf
    have nonempty := digitsOf_ne_nil value.toNat
    unfold printNat
    cases digits : digitsOf value.toNat with
    | nil => exact absurd digits nonempty
    | cons d others =>
        rw [digits] at small
        have visible : isSpace (digit d) = false := by
          have range := small d List.mem_cons_self
          interval_cases d <;> rfl
        simp [visible]
  rw [readField, List.dropWhile_cons_of_pos space, printed, first, readNat_printNat _ stop]

/-- The header says the size, and the raster follows it. -/
theorem readPgm_header (wide : 0 ≤ grid.width) (high : 0 ≤ grid.height) (raster : Bytes) :
    readPgm (grid.header ++ raster) = some ⟨grid.width.toNat, grid.height.toNat, 255, raster⟩ := by
  have newline : isSpace (ascii '\n') = true := by decide
  have blank : isSpace (ascii ' ') = true := by decide
  have afterLine : ∀ rest, NoDigit (ascii '\n' :: rest) := by
    intro rest byte member
    cases member
    decide
  have afterBlank : ∀ rest, NoDigit (ascii ' ' :: rest) := by
    intro rest byte member
    cases member
    decide
  have maxValue : printNat 255 = printInt 255 := rfl
  simp only [Grid.header, maxValue, List.append_assoc, List.cons_append, List.nil_append, readPgm,
    true_and, if_true, readField_printInt wide newline (afterBlank _),
    readField_printInt high blank (afterLine _), Option.bind_eq_bind, Option.bind_some,
    readField_printInt (by decide : (0 : ℤ) ≤ 255) newline (afterLine _), newline]
  rfl

end Header

section Raster

variable {K : Type} {grid : Grid K} {x y : ℤ}

/-- An element of rows of one length that stand one after the other. -/
theorem getElem?_flatMap_rows {β γ : Type} {rows : List β} {row : β → List γ} {width : ℕ}
    (same : ∀ r ∈ rows, (row r).length = width) {i j : ℕ} (bound : i < width) :
    (rows.flatMap row)[j * width + i]? = rows[j]?.bind fun r => (row r)[i]? := by
  induction rows generalizing j with
  | nil => simp
  | cons first rest ih =>
      have length := same first List.mem_cons_self
      rw [List.flatMap_cons]
      cases j with
      | zero =>
          rw [Nat.zero_mul, Nat.zero_add, List.getElem?_append_left (by omega)]
          simp
      | succ j =>
          have later : (j + 1) * width + i = (row first).length + (j * width + i) := by
            rw [length]
            ring
          rw [later, List.getElem?_append_right (Nat.le_add_right _ _), Nat.add_sub_cancel_left,
            ih (fun r member => same r (List.mem_cons_of_mem _ member))]
          simp

theorem getElem?_interval {first last value : ℤ} (low : first ≤ value) (high : value ≤ last) :
    (interval first last)[(value - first).toNat]? = some value := by
  have bound : (value - first).toNat < (last + 1 - first).toNat := by omega
  simp only [interval, List.getElem?_map, List.getElem?_range bound, Option.map_some,
    Option.some.injEq]
  omega

/-- The place of a cell in the raster: the top row comes first. -/
theorem getElem?_rasterCells (inside : grid.contains x y) :
    grid.rasterCells[((grid.height - 1 - y) * grid.width + x).toNat]? = some (x, y) := by
  obtain ⟨left, bottom, right, top⟩ := inside
  have rows : ∀ r ∈ (interval 0 (grid.height - 1)).reverse,
      ((interval 0 (grid.width - 1)).map fun x => (x, r)).length = grid.width.toNat := by
    intro r _
    simp [length_interval]
  have column : x.toNat < grid.width.toNat := by omega
  have place : ((grid.height - 1 - y) * grid.width + x).toNat =
      (grid.height - 1 - y).toNat * grid.width.toNat + x.toNat := by
    have row : 0 ≤ grid.height - 1 - y := by omega
    have wide : 0 ≤ grid.width := by omega
    rw [Int.toNat_add (mul_nonneg row wide) left, Int.toNat_mul row wide]
  have row : (interval 0 (grid.height - 1)).reverse[(grid.height - 1 - y).toNat]? = some y := by
    have from_bottom := getElem?_interval (by omega : 0 ≤ y) (by omega : y ≤ grid.height - 1)
    rw [List.getElem?_reverse (by rw [length_interval]; omega), length_interval, ← from_bottom]
    congr 1
    omega
  have cell := getElem?_interval (by omega : 0 ≤ x) (by omega : x ≤ grid.width - 1)
  rw [sub_zero] at cell
  rw [Grid.rasterCells, place, getElem?_flatMap_rows rows column, row]
  simp [cell]

end Raster

section Thresholds

variable {K : Type} [Field K]

theorem readDecimal_fixed [CharZero K] (whole frac : List ℕ) (nonempty : whole ≠ [])
    (smallWhole : ∀ d ∈ whole, d < 10) (smallFrac : ∀ d ∈ frac, d < 10) :
    readDecimal (fixed whole frac) = some ((number (whole ++ frac) : K) / 10 ^ frac.length) := by
  have read : readUnsigned (fixed whole frac ++ []) =
      some ((number (whole ++ frac) : K) * 10 ^ ((0 : ℤ) - frac.length)) :=
    readUnsigned_fixed nonempty smallWhole smallFrac rfl
  rw [List.append_nil] at read
  rw [readDecimal_of_readUnsigned read, zero_sub, zpow_neg, zpow_natCast, div_eq_mul_inv]

theorem readDecimal_occupiedThresh [CharZero K] :
    readDecimal [ascii '0', ascii '.', ascii '6', ascii '5'] = some (65 / 100 : K) := by
  have text : fixed [0] [6, 5] = [ascii '0', ascii '.', ascii '6', ascii '5'] := by decide
  rw [← text, readDecimal_fixed [0] [6, 5] (by decide) (by decide) (by decide)]
  norm_num [number, Nat.ofDigits]

theorem readDecimal_freeThresh [CharZero K] :
    readDecimal [ascii '0', ascii '.', ascii '1', ascii '9', ascii '6'] =
      some (196 / 1000 : K) := by
  have text : fixed [0] [1, 9, 6] = [ascii '0', ascii '.', ascii '1', ascii '9', ascii '6'] := by
    decide
  rw [← text, readDecimal_fixed [0] [1, 9, 6] (by decide) (by decide) (by decide)]
  norm_num [number, Nat.ofDigits]

variable [LinearOrder K] [IsStrictOrderedRing K]

theorem classify_0 : classify 0 (65 / 100 : K) (196 / 1000) 0 = .occupied := by
  norm_num [classify]

theorem classify_254 : classify 0 (65 / 100 : K) (196 / 1000) 254 = .free := by
  have value : (254 : UInt8).toNat = 254 := rfl
  norm_num [classify, value]

/-- The background lies just above the threshold of free cells. -/
theorem classify_205 : classify 0 (65 / 100 : K) (196 / 1000) 205 = .unknown := by
  have value : (205 : UInt8).toNat = 205 := rfl
  norm_num [classify, value]

end Thresholds

namespace PcdToPgm

variable {K : Type} [Field K] [LinearOrder K] [FloorRing K] (node : PcdToPgm K)

/-- Some point of the kind lies in a cell of the grid, at a distance of at most `radius`
cells from the cell at `x` and `y`. -/
def Near (cloud : PcdCloud K) (grid : Grid K) (kind : Point K → Bool) (radius x y : ℤ) : Prop :=
  0 ≤ radius ∧ ∃ point ∈ cloud.finitePoints, kind point ∧
    ∃ gx gy, node.column grid point = .ok gx ∧ node.row grid point = .ok gy ∧
      grid.contains gx gy ∧ (x - gx) ^ 2 + (y - gy) ^ 2 ≤ radius ^ 2

/-- What a computation has returned is decided by running it. -/
instance decidableReturned {α : Type} (outcome : Run α) (holds : α → Prop) [DecidablePred holds] :
    Decidable (∃ value, outcome = .ok value ∧ holds value) :=
  match outcome with
  | .ok value => decidable_of_iff (holds value) (by simp)
  | .error _ => .isFalse (by simp)

instance (cloud : PcdCloud K) (grid : Grid K) (kind : Point K → Bool) (radius x y : ℤ) :
    Decidable (node.Near cloud grid kind radius x y) :=
  decidable_of_iff (0 ≤ radius ∧ ∃ point ∈ cloud.finitePoints, kind point ∧
    ∃ gx, node.column grid point = .ok gx ∧ ∃ gy, node.row grid point = .ok gy ∧
      grid.contains gx gy ∧ (x - gx) ^ 2 + (y - gy) ^ 2 ≤ radius ^ 2)
    (by simp only [Near, exists_and_left])

open Classical in
/-- The state that a cell is meant to have. -/
noncomputable def intended (cloud : PcdCloud K) (grid : Grid K) (freeRadius obstacleRadius : ℤ)
    (x y : ℤ) : CellState :=
  if node.Near cloud grid node.isObstacle obstacleRadius x y then .occupied
  else if node.Near cloud grid node.isFloor freeRadius x y then .free
  else .unknown

variable [IsStrictOrderedRing K] {node} {environment : Environment K} {cloud : PcdCloud K}
  {frame : Frame K}

/-- The cell numbers that the counting loop has computed. -/
theorem Completes.binned (completes : node.Completes environment cloud frame) {point : Point K}
    (member : point ∈ cloud.finitePoints) :
    node.column frame.grid point = .ok (frame.column point) ∧
      node.row frame.grid point = .ok (frame.row point) := by
  have bins := completes.bins point member
  exact ⟨(node.stage_column completes.framed point).ok bins.1,
    (node.stage_row completes.framed point).ok bins.2.1⟩

theorem Completes.near_iff (completes : node.Completes environment cloud frame)
    (kind : Point K → Bool) (radius x y : ℤ) :
    node.Near cloud frame.grid kind radius x y ↔
      frame.Reached kind cloud.finitePoints radius x y := by
  constructor
  · rintro ⟨nonneg, point, member, isKind, gx, gy, column, row, inside, near⟩
    cases (completes.binned member).1.symm.trans column
    cases (completes.binned member).2.symm.trans row
    exact ⟨nonneg, point, member, isKind, inside, near⟩
  · rintro ⟨nonneg, point, member, isKind, caught, near⟩
    have binned := completes.binned member
    exact ⟨nonneg, point, member, isKind, _, _, binned.1, binned.2, caught, near⟩

/-- A grid with cells comes from a resolution that is a number. -/
theorem Completes.resolution (completes : node.Completes environment cloud frame)
    (wide : 1 ≤ frame.width) :
    ∃ resolution, node.resolution = .finite resolution ∧ resolution ≠ 0 := by
  obtain ⟨_, columns, _, _⟩ := node.frame_eq_some_iff.mp completes.framed
  have exact := Format.isFinite_of_rounded (columns ▸ trivial : Double.IsFinite
    (node.cellsBetween (.finite frame.left) (.finite frame.right)))
  have difference := exact.of_div
  obtain ⟨length, lengthEq⟩ := Double.isFinite_iff.mp difference
  rw [lengthEq] at exact
  cases given : node.resolution with
  | finite resolution =>
      refine ⟨resolution, rfl, ?_⟩
      intro zero
      rw [given, zero] at exact
      exact Double.not_isFinite_div_zero length exact
  | infinite negative =>
      -- The quotient is zero.
      rw [PcdToPgm.cellsBetween, lengthEq, given, Double.finite_div_infinite, double,
        Format.rounded_zero] at columns
      rw [Frame.width, ← Double.finite.inj columns] at wide
      simp at wide
  | nan =>
      rw [given] at exact
      exact exact.elim

omit [IsStrictOrderedRing K] in
/-- The pixels of the file stand where `map_server` looks for them. -/
theorem getD_payload (widthFits : InInt frame.width) (heightFits : InInt frame.height) {x y : ℤ}
    (inside : frame.grid.contains x y) :
    (node.payload cloud frame).getD ((frame.height - 1 - y) * frame.width + x).toNat 0 =
      node.pixel cloud frame x y := by
  have place : frame.grid.rasterCells[((frame.height - 1 - y) * frame.width + x).toNat]? =
      some (x, y) := getElem?_rasterCells inside
  rw [← node.getD_picture widthFits heightFits inside, payload, List.getD_eq_getElem?_getD,
    List.getElem?_map, place]
  rfl

/-- What `map_server` reads. -/
theorem Completes.loaded (completes : node.Completes environment cloud frame)
    (wide : 1 ≤ frame.width) (high : 1 ≤ frame.height) {resolution : K}
    (given : node.resolution = .finite resolution) :
    ∃ map : LoadedMap K, loadMap (node.file cloud frame) (node.yaml frame.grid) = some map ∧
      map.width = frame.width ∧ map.height = frame.height ∧
      map.resolution = sixDigits resolution ∧ map.originX = sixDigits frame.left ∧
      map.originY = sixDigits frame.bottom ∧
      ∀ x y, frame.grid.contains x y →
        map.cell x y = classify 0 (65 / 100 : K) (196 / 1000) (node.pixel cloud frame x y) := by
  have width : (frame.width.toNat : ℤ) = frame.width := Int.toNat_of_nonneg (by omega)
  have height : (frame.height.toNat : ℤ) = frame.height := Int.toNat_of_nonneg (by omega)
  have header : readPgm (node.file cloud frame) =
      some ⟨frame.width.toNat, frame.height.toNat, 255, node.payload cloud frame⟩ :=
    readPgm_header (zero_le_one.trans wide) (zero_le_one.trans high) _
  have size : ¬(node.payload cloud frame).length < frame.width.toNat * frame.height.toNat := by
    have cells : (frame.grid.rasterCells.length : ℤ) = frame.width * frame.height :=
      length_rasterCells (zero_le_one.trans wide) (zero_le_one.trans high)
    rw [payload, List.length_map, not_lt, ← Int.ofNat_le, cells, Nat.cast_mul, width, height]
  refine ⟨⟨frame.width.toNat, frame.height.toNat, sixDigits resolution, sixDigits frame.left,
    sixDigits frame.bottom, fun x y => classify 0 (65 / 100 : K) (196 / 1000)
      ((node.payload cloud frame).getD
        ((frame.height.toNat - 1 - y) * frame.width.toNat + x).toNat 0)⟩, ?_, width, height, rfl,
    rfl, rfl, ?_⟩
  · simp only [loadMap, header, yaml, Frame.grid, given, readDecimal_printDouble,
      readDecimal_occupiedThresh, readDecimal_freeThresh, Option.bind_eq_bind, Option.bind_some,
      if_neg size]
    rfl
  · intro x y inside
    simp only [width, height]
    rw [getD_payload completes.widthFits completes.heightFits inside]

/-- The files of a completed run decode to the intended map. -/
theorem decodes_to_intended {pgm : Bytes} {yaml : MapYaml}
    (completed : node.generate environment = .completed pgm yaml) :
    ∃ cloud grid freeRadius obstacleRadius,
      environment.loadPCDFile node.inputPcd = some cloud ∧ node.grid cloud = .ok grid ∧
      node.radius node.freeDilationM = .ok freeRadius ∧
      node.radius node.obstacleInflationM = .ok obstacleRadius ∧
      (1 ≤ grid.width → 1 ≤ grid.height →
        ∃ map : LoadedMap K, loadMap pgm yaml = some map ∧
          map.width = grid.width ∧ map.height = grid.height ∧
          ∀ x y, grid.contains x y →
            map.cell x y = node.intended cloud grid freeRadius obstacleRadius x y) := by
  obtain ⟨cloud, frame, completes, rfl, rfl⟩ := node.exists_of_completed completed
  refine ⟨cloud, frame.grid, frame.reach node.freeDilationM, frame.reach node.obstacleInflationM,
    completes.loads.file,
    (node.stage_grid completes.framed).ok ⟨completes.widthFits, completes.heightFits⟩,
    (node.stage_radius completes.framed _).ok completes.free,
    (node.stage_radius completes.framed _).ok completes.inflation, ?_⟩
  intro wide high
  obtain ⟨resolution, given, _⟩ := completes.resolution wide
  obtain ⟨map, loaded, width, height, _, _, _, cells⟩ := completes.loaded wide high given
  refine ⟨map, loaded, width, height, ?_⟩
  intro x y inside
  rw [cells x y inside]
  unfold pixel intended
  classical
  simp only [completes.near_iff]
  split
  next => exact classify_0
  next =>
    split
    next => exact classify_254
    next => exact classify_205

end PcdToPgm

/-- A hall of four by three cells: a floor point, an obstacle point, and a point that is
not finite. -/
def hallCloud : PcdCloud ℚ where
  points := [some ⟨0, 0, 0, 0⟩, none, some ⟨3, 2, 1, 0⟩]
  size_lt := by decide

/-- A machine that grants everything, with one cloud on its disk. -/
def granting (cloud : PcdCloud ℚ) : Environment ℚ where
  loadPCDFile _ := some cloud
  allocates _ _ := true
  opens _ := true

/-- Cells of a metre, and else the defaults. -/
def hallNode : PcdToPgm ℚ :=
  .ofParameters
    { inputPcd := some "/maps/public_map.pcd"
      outputPgm := some "/maps/map.pgm"
      outputYaml := some "/maps/map.yaml"
      resolution := some (.finite 1) }

/-- The frame of the hall. -/
def hallFrame : Frame ℚ := ⟨⟨-1 / 2, 7 / 2, -1 / 2, 5 / 2⟩, 4, 3, .finite 1⟩

/-- The obstacle is occupied, the floor point free, and a cell between them unknown. -/
theorem decodes_to_intended_hall :
    ∃ pgm yaml, hallNode.generate (granting hallCloud) = .completed pgm yaml ∧
      ∃ map : LoadedMap ℚ, loadMap pgm yaml = some map ∧ map.width = 4 ∧ map.height = 3 ∧
        map.cell 3 2 = .occupied ∧ map.cell 0 0 = .free ∧ map.cell 1 1 = .unknown := by
  have done : (hallNode.generate (granting hallCloud)).isCompleted = true := by decide +kernel
  obtain ⟨pgm, yaml, completed⟩ := Outcome.exists_of_isCompleted done
  obtain ⟨cloud, grid, freeRadius, obstacleRadius, loaded, sized, free, inflation, decodes⟩ :=
    PcdToPgm.decodes_to_intended completed
  cases loaded
  have size : hallNode.grid hallCloud = .ok ⟨4, 3, .finite (-1 / 2), .finite (-1 / 2)⟩ := by
    decide +kernel
  have freeCells : hallNode.radius hallNode.freeDilationM = .ok 0 := by decide +kernel
  have inflationCells : hallNode.radius hallNode.obstacleInflationM = .ok 0 := by decide +kernel
  cases size.symm.trans sized
  cases freeCells.symm.trans free
  cases inflationCells.symm.trans inflation
  obtain ⟨map, read, width, height, cells⟩ := decodes (by decide) (by decide)
  refine ⟨pgm, yaml, completed, map, read, Int.ofNat_inj.mp width, Int.ofNat_inj.mp height,
    ?_, ?_, ?_⟩
  · rw [cells 3 2 (by decide), PcdToPgm.intended, if_pos (by decide +kernel)]
  · rw [cells 0 0 (by decide), PcdToPgm.intended, if_neg (by decide +kernel),
      if_pos (by decide +kernel)]
  · rw [cells 1 1 (by decide), PcdToPgm.intended, if_neg (by decide +kernel),
      if_neg (by decide +kernel)]

end ScoutStack
