import ScoutStack.Lib.Binary
import ScoutStack.Lib.Decimal
import ScoutStack.Mapper.Types

/-!
# The map rasteriser

`pcd_to_pgm.cpp` as it computes: bounds, grid size, binning, dilation and the two output
files.  Where C++ leaves the result undefined (a conversion or an arithmetic result
outside `int`, an access outside a vector) the computation fails as such.  Each result of
double arithmetic is rounded; what the machine decides is in `Environment`.
-/

namespace ScoutStack

open Decimal Binary

/-- What ends `generate()` early: an exception, or behaviour that C++ leaves undefined. -/
inductive Failure where
  | thrown (what : String)
  | undefined
  deriving DecidableEq

abbrev Run := Except Failure

/-- A value of type `int`. -/
def InInt (value : ℤ) : Prop := -2 ^ 31 ≤ value ∧ value < 2 ^ 31

instance (value : ℤ) : Decidable (InInt value) := inferInstanceAs (Decidable (_ ∧ _))

/-- The result of an operation on `int`. -/
def int (value : ℤ) : Run ℤ := if InInt value then pure value else throw .undefined

/-- `vector[place]`. -/
def load {α : Type} (vector : List α) (place : ℤ) : Run α :=
  match vector[place.toNat]? with
  | some value => if 0 ≤ place then pure value else throw .undefined
  | none => throw .undefined

/-- `vector[place] = value`. -/
def store {α : Type} (vector : List α) (place : ℤ) (value : α) : Run (List α) :=
  if 0 ≤ place ∧ place.toNat < vector.length then pure (vector.set place.toNat value)
  else throw .undefined

/-- The integers from `first` to `last`. -/
def interval (first last : ℤ) : List ℤ :=
  (List.range (last + 1 - first).toNat).map fun step : ℕ => first + (step : ℤ)

/-- `pcl::PointCloud<pcl::PointXYZI>` out of a file: PCL counts its points in 32 bits.
A point with a coordinate that is not finite is `none`. -/
structure PcdCloud (K : Type) where
  points : List (Option (Point K))
  size_lt : points.length < 2 ^ 32

/-- The points that pass the three `std::isfinite`. -/
def PcdCloud.finitePoints {K : Type} (cloud : PcdCloud K) : List (Point K) :=
  cloud.points.filterMap id

theorem PcdCloud.length_finitePoints_lt {K : Type} (cloud : PcdCloud K) :
    cloud.finitePoints.length < 2 ^ 32 :=
  lt_of_le_of_lt (List.length_filterMap_le _ _) cloud.size_lt

/-- The vectors of `generate()`, in the order in which they are made. -/
inductive Buffer where
  | floorCount
  | obstacleCount
  | floorMask
  | obstacleMask
  | freeMask
  | inflatedObstacle
  | image
  deriving DecidableEq

/-- What `generate()` learns from the machine. -/
structure Environment (K : Type) where
  /-- `pcl::io::loadPCDFile`, `none` for a negative result. -/
  loadPCDFile : String → Option (PcdCloud K)
  /-- Whether a vector of so many bytes is granted. -/
  allocates : Buffer → ℕ → Bool
  /-- Whether an output file opens. -/
  opens : String → Bool

/-- Bytes of one element. -/
def Buffer.elementSize : Buffer → ℕ
  | floorCount => 4
  | obstacleCount => 4
  | _ => 1

/-- `std::vector::max_size`. -/
def Buffer.maxSize (buffer : Buffer) : ℕ := (2 ^ 63 - 1) / buffer.elementSize

/-- A vector of `count` elements. -/
def Environment.allocate {K : Type} (environment : Environment K) {α : Type} (buffer : Buffer)
    (count : ℕ) (value : α) : Run (List α) :=
  if buffer.maxSize < count then
    throw (.thrown "cannot create std::vector larger than max_size()")
  else if environment.allocates buffer (count * buffer.elementSize) then
    pure (List.replicate count value)
  else throw (.thrown "std::bad_alloc")

/-- The members of `PcdToPgm` that the constructor fills from the parameter server. -/
structure PcdToPgm (K : Type) where
  inputPcd : String
  outputPgm : String
  outputYaml : String
  resolution : Double K
  paddingM : Double K
  floorMinZ : Double K
  floorMaxZ : Double K
  obstacleMinZ : Double K
  obstacleMaxZ : Double K
  freeDilationM : Double K
  obstacleInflationM : Double K
  deriving DecidableEq

/-- Private parameters of the node on the parameter server. -/
structure RasterParameters (K : Type) where
  inputPcd : Option String := none
  outputPgm : Option String := none
  outputYaml : Option String := none
  resolution : Option (Double K) := none
  paddingM : Option (Double K) := none
  floorMinZ : Option (Double K) := none
  floorMaxZ : Option (Double K) := none
  obstacleMinZ : Option (Double K) := none
  obstacleMaxZ : Option (Double K) := none
  freeDilationM : Option (Double K) := none
  obstacleInflationM : Option (Double K) := none
  deriving DecidableEq

/-- The bounding box of the finite points. -/
structure Bounds (K : Type) where
  minX : Double K
  minY : Double K
  maxX : Double K
  maxY : Double K

/-- `width_`, `height_`, `min_x_` and `min_y_`. -/
structure Grid (K : Type) where
  width : ℤ
  height : ℤ
  minX : Double K
  minY : Double K
  deriving DecidableEq

/-- `floor_count` and `obstacle_count`. -/
structure Counts where
  floor : List UInt32
  obstacle : List UInt32

/-- The values that `writeYaml` prints, as text. -/
structure MapYaml where
  image : String
  resolution : Bytes
  originX : Bytes
  originY : Bytes
  originYaw : Bytes
  negate : Bytes
  occupiedThresh : Bytes
  freeThresh : Bytes
  deriving DecidableEq

/-- How a run of the node ends: before the PGM is created, between the two files, or with
both files written. -/
inductive Outcome where
  | failed (failure : Failure)
  | pgmOnly (pgm : Bytes) (what : String)
  | completed (pgm : Bytes) (yaml : MapYaml)
  deriving DecidableEq

/-- Both files are written. -/
def Outcome.isCompleted : Outcome → Bool
  | completed _ _ => true
  | _ => false

/-- The PGM file that has been written. -/
def Outcome.pgm? : Outcome → Option Bytes
  | failed _ => none
  | pgmOnly pgm _ => some pgm
  | completed pgm _ => some pgm

/-- `static_cast<std::size_t>(width_) * static_cast<std::size_t>(height_)`. -/
def cellCount (width height : ℤ) : ℕ := (width * height % 2 ^ 64).toNat

namespace Grid

variable {K : Type} (grid : Grid K)

/-- `index`. -/
def index (x y : ℤ) : Run ℤ := do
  let row ← int (y * grid.width)
  int (row + x)

def contains (x y : ℤ) : Prop := 0 ≤ x ∧ 0 ≤ y ∧ x < grid.width ∧ y < grid.height

instance (x y : ℤ) : Decidable (grid.contains x y) := inferInstanceAs (Decidable (_ ∧ _))

/-- The cells in the order of the loops of `dilate`. -/
def cells : List (ℤ × ℤ) :=
  (interval 0 (grid.height - 1)).flatMap fun y =>
    (interval 0 (grid.width - 1)).map fun x => (x, y)

/-- The cells in the order of the loops of `writePgm`: the top row first. -/
def rasterCells : List (ℤ × ℤ) :=
  (interval 0 (grid.height - 1)).reverse.flatMap fun y =>
    (interval 0 (grid.width - 1)).map fun x => (x, y)

/-- The body of the inner loops of `dilate`. -/
def mark (radius x y : ℤ) (output : List UInt8) (offset : ℤ × ℤ) : Run (List UInt8) := do
  let (dx, dy) := offset
  let squareX ← int (dx * dx)
  let squareY ← int (dy * dy)
  let distance ← int (squareX + squareY)
  let reach ← int (radius * radius)
  if reach < distance then
    pure output
  else do
    let nx ← int (x + dx)
    let ny ← int (y + dy)
    if grid.contains nx ny then do
      let place ← grid.index nx ny
      store output place 1
    else
      pure output

/-- The offsets of the inner loops of `dilate`. -/
def offsets (low radius : ℤ) : List (ℤ × ℤ) :=
  (interval low radius).flatMap fun dy => (interval low radius).map fun dx => (dx, dy)

/-- The body of the outer loops of `dilate`. -/
def spread (input : List UInt8) (radius : ℤ) (output : List UInt8) (cell : ℤ × ℤ) :
    Run (List UInt8) := do
  let (x, y) := cell
  let place ← grid.index x y
  let value ← load input place
  if value = 0 then
    pure output
  else do
    let low ← int (-radius)
    (offsets low radius).foldlM (grid.mark radius x y) output

/-- The loops of `dilate`, from the zeroed output. -/
def dilate (input output : List UInt8) (radius : ℤ) : Run (List UInt8) :=
  grid.cells.foldlM (grid.spread input radius) output

/-- The bytes of the raster. -/
def raster (image : List UInt8) : Run Bytes := do
  let _top ← int (grid.height - 1)
  grid.rasterCells.mapM fun cell => do
    let place ← grid.index cell.1 cell.2
    load image place

/-- The text before the raster. -/
def header : Bytes :=
  [ascii 'P', ascii '5', ascii '\n'] ++ printInt grid.width ++ [ascii ' '] ++
    printInt grid.height ++ [ascii '\n'] ++ printNat 255 ++ [ascii '\n']

end Grid

/-- `++count[place]`. -/
def increment (count : List UInt32) (place : ℤ) : Run (List UInt32) := do
  let value ← load count place
  store count place (value + 1)

/-- `if (kind) ++count[place]`. -/
def countIf (kind : Bool) (count : List UInt32) (place : ℤ) : Run (List UInt32) :=
  if kind then increment count place else pure count

/-- The mask of the cells with a positive count. -/
def mask (count : List UInt32) : List UInt8 := count.map fun value => if 0 < value then 1 else 0

/-- Writes `value` where the mask is set. -/
def paint (value : UInt8) (image mask : List UInt8) : List UInt8 :=
  List.zipWith (fun old set => if set ≠ 0 then value else old) image mask

section Bounds

variable {K : Type} [LinearOrder K]

namespace Bounds

/-- The bounds before the first point. -/
def start : Bounds K := ⟨.infinite false, .infinite false, .infinite true, .infinite true⟩

def extend (bounds : Bounds K) (point : Point K) : Bounds K where
  minX := Double.min bounds.minX (.finite point.x)
  minY := Double.min bounds.minY (.finite point.y)
  maxX := Double.max bounds.maxX (.finite point.x)
  maxY := Double.max bounds.maxY (.finite point.y)

def pad [Field K] [FloorRing K] (bounds : Bounds K) (padding : Double K) : Bounds K where
  minX := double (bounds.minX - padding)
  minY := double (bounds.minY - padding)
  maxX := double (bounds.maxX + padding)
  maxY := double (bounds.maxY + padding)

end Bounds

namespace PcdToPgm

variable (node : PcdToPgm K)

/-- `p.z >= floor_min_z_ && p.z <= floor_max_z_`. -/
def isFloor (point : Point K) : Bool :=
  Double.lessEqual node.floorMinZ (.finite point.z) &&
    Double.lessEqual (.finite point.z) node.floorMaxZ

/-- `p.z >= obstacle_min_z_ && p.z <= obstacle_max_z_`. -/
def isObstacle (point : Point K) : Bool :=
  Double.lessEqual node.obstacleMinZ (.finite point.z) &&
    Double.lessEqual (.finite point.z) node.obstacleMaxZ

/-- The checks at the start of `generate()`, and the cloud. -/
def input (environment : Environment K) : Run (PcdCloud K) :=
  if node.inputPcd = "" ∨ node.outputPgm = "" ∨ node.outputYaml = "" then
    throw (.thrown "PCD/PGM/YAML path is empty.")
  else
    match environment.loadPCDFile node.inputPcd with
    | none => throw (.thrown "Failed to load PCD.")
    | some cloud =>
        if cloud.points = [] then throw (.thrown "PCD is empty.") else pure cloud

/-- `basename`. -/
def basename (path : String) : String :=
  String.ofList
    (path.toList.reverse.takeWhile fun character => character != '/' && character != '\\').reverse

end PcdToPgm

end Bounds

namespace PcdToPgm

variable {K : Type} [Field K] [LinearOrder K] [FloorRing K]

/-- The constructor: what the parameter server holds, and the defaults. -/
def ofParameters (server : RasterParameters K) : PcdToPgm K where
  inputPcd := server.inputPcd.getD ""
  outputPgm := server.outputPgm.getD ""
  outputYaml := server.outputYaml.getD ""
  resolution := server.resolution.getD (double (.finite (5 / 100)))
  paddingM := server.paddingM.getD (double (.finite (50 / 100)))
  floorMinZ := server.floorMinZ.getD (double (.finite (-30 / 100)))
  floorMaxZ := server.floorMaxZ.getD (double (.finite (5 / 100)))
  obstacleMinZ := server.obstacleMinZ.getD (double (.finite (5 / 100)))
  obstacleMaxZ := server.obstacleMaxZ.getD (double (.finite (120 / 100)))
  freeDilationM := server.freeDilationM.getD (double (.finite (10 / 100)))
  obstacleInflationM := server.obstacleInflationM.getD (double (.finite (30 / 100)))

variable (node : PcdToPgm K)

/-- The padded bounds of the cloud. -/
def bounds (cloud : PcdCloud K) : Bounds K :=
  (cloud.finitePoints.foldl Bounds.extend Bounds.start).pad node.paddingM

/-- `static_cast<int>(double)`. -/
def toInt : Double K → Run ℤ
  | .finite value => int (Double.truncate value)
  | _ => throw .undefined

/-- `(value - low) / resolution_`. -/
def cellsBetween (low value : Double K) : Double K :=
  double (double (value - low) / node.resolution)

/-- `width_` and `height_`. -/
def grid (cloud : PcdCloud K) : Run (Grid K) := do
  let bounds := node.bounds cloud
  let width ← toInt (Double.ceil (node.cellsBetween bounds.minX bounds.maxX))
  let height ← toInt (Double.ceil (node.cellsBetween bounds.minY bounds.maxY))
  pure ⟨width, height, bounds.minX, bounds.minY⟩

/-- `gx` and `gy`. -/
def column (grid : Grid K) (point : Point K) : Run ℤ :=
  toInt (Double.floor (node.cellsBetween grid.minX (.finite point.x)))

def row (grid : Grid K) (point : Point K) : Run ℤ :=
  toInt (Double.floor (node.cellsBetween grid.minY (.finite point.y)))

/-- The body of the counting loop. -/
def countPoint (grid : Grid K) (counts : Counts) (point : Point K) : Run Counts := do
  let gx ← node.column grid point
  let gy ← node.row grid point
  if grid.contains gx gy then do
    let place ← grid.index gx gy
    let floor ← countIf (node.isFloor point) counts.floor place
    let obstacle ← countIf (node.isObstacle point) counts.obstacle place
    pure ⟨floor, obstacle⟩
  else
    pure counts

/-- The radius of a dilation in cells. -/
def radius (metres : Double K) : Run ℤ :=
  toInt (Double.round (double (metres / node.resolution)))

/-- The image of the map, before it is written. -/
def image (environment : Environment K) (cloud : PcdCloud K) (grid : Grid K) :
    Run (List UInt8) := do
  let count := cellCount grid.width grid.height
  let floorCount ← environment.allocate .floorCount count 0
  let obstacleCount ← environment.allocate .obstacleCount count 0
  let counts ← cloud.finitePoints.foldlM (node.countPoint grid) ⟨floorCount, obstacleCount⟩
  let _floorMask ← environment.allocate .floorMask count (0 : UInt8)
  let _obstacleMask ← environment.allocate .obstacleMask count (0 : UInt8)
  let freeRadius ← node.radius node.freeDilationM
  let obstacleRadius ← node.radius node.obstacleInflationM
  let freeMask ← environment.allocate .freeMask count 0
  let freeMask ← grid.dilate (mask counts.floor) freeMask freeRadius
  let inflated ← environment.allocate .inflatedObstacle count 0
  let inflated ← grid.dilate (mask counts.obstacle) inflated obstacleRadius
  let image ← environment.allocate .image count 205
  pure (paint 0 (paint 254 image freeMask) inflated)

/-- `writePgm`. -/
def writePgm (environment : Environment K) (grid : Grid K) (image : List UInt8) : Run Bytes :=
  if environment.opens node.outputPgm then do
    let raster ← grid.raster image
    pure (grid.header ++ raster)
  else
    throw (.thrown "Cannot open output PGM.")

variable [IsStrictOrderedRing K]

/-- `writeYaml`. -/
def yaml (grid : Grid K) : MapYaml where
  image := basename node.outputPgm
  resolution := printDouble node.resolution
  originX := printDouble grid.minX
  originY := printDouble grid.minY
  originYaw := [ascii '0', ascii '.', ascii '0']
  negate := [ascii '0']
  occupiedThresh := [ascii '0', ascii '.', ascii '6', ascii '5']
  freeThresh := [ascii '0', ascii '.', ascii '1', ascii '9', ascii '6']

/-- Everything up to the end of `writePgm`. -/
def pgm (environment : Environment K) : Run (Grid K × Bytes) := do
  let cloud ← node.input environment
  let grid ← node.grid cloud
  let image ← node.image environment cloud grid
  let pgm ← node.writePgm environment grid image
  pure (grid, pgm)

/-- `generate`. -/
def generate (environment : Environment K) : Outcome :=
  match node.pgm environment with
  | .error failure => .failed failure
  | .ok (grid, pgm) =>
      if environment.opens node.outputYaml then .completed pgm (node.yaml grid)
      else .pgmOnly pgm "Cannot open output YAML."

end PcdToPgm

end ScoutStack
