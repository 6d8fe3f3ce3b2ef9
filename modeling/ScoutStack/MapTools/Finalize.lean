import ScoutStack.MapTools.Transform

/-!
# The finalizer

`finalize_map.py`: the files of one map directory and the steps of an invocation, each of
which may fail and leave its own file half written.  A stopped invocation leaves the
directory as the steps before it, and the failing step, made it.
-/

namespace ScoutStack

open Decimal

/-! ## Files -/

/-- A file: not there, there without the content that its readers expect, or with it. -/
inductive File (α : Type) where
  | absent
  | garbled
  | holds (content : α)
  deriving DecidableEq

/-- How far a write gets that fails. -/
inductive Extent where
  | untouched
  | torn
  | whole
  deriving DecidableEq

namespace File

variable {α : Type}

/-- `os.path.isfile`. -/
def isFile : File α → Bool
  | absent => false
  | _ => true

def content? : File α → Option α
  | holds content => some content
  | _ => none

theorem content?_eq_some {file : File α} {content : α} :
    file.content? = some content ↔ file = holds content := by
  cases file <;> simp [content?]

/-- What a loader gets from the file system when only `path` matters. -/
def loads (file : File α) (path : String) : String → Option α :=
  fun asked => if asked = path then file.content? else none

/-- The file after a write that runs into a fault, or into none. -/
def write (old : File α) (fault : Option Extent) (new : File α) : File α :=
  match fault with
  | some .untouched => old
  | some .torn => garbled
  | some .whole => new
  | none => new

@[simp] theorem write_untouched (old new : File α) : old.write (some .untouched) new = old := rfl

@[simp] theorem write_none (old new : File α) : old.write none new = new := rfl

end File

/-! ## Configuration files -/

/-- The two entries of `profiles`. -/
inductive ProfileName where
  | raw
  | nav
  deriving DecidableEq

/-- The parameters of the raster node that are not paths. -/
inductive RasterKey where
  | resolution
  | paddingM
  | floorMinZ
  | floorMaxZ
  | obstacleMinZ
  | obstacleMaxZ
  | freeDilationM
  | obstacleInflationM
  deriving DecidableEq

/-- A value of a YAML file, as a node reads it from the parameter server. -/
inductive Setting (K : Type) where
  | number (value : Double K)
  | other

/-- The number that `param<double>` finds. -/
def Setting.number? {K : Type} : Setting K → Option (Double K)
  | number value => some value
  | other => none

/-- A raster profile, or what the parameter server holds for the raster node. -/
abbrev Settings (K : Type) := RasterKey → Option (Setting K)

/-- The parameter server after a node has started with these private arguments. -/
def Settings.assign {K : Type} (server profile : Settings K) : Settings K :=
  fun key => (profile key).or (server key)

/-- `odom_to_camera_init` of the geometry file. -/
structure Geometry (K : Type) where
  x : Option (Setting K)
  y : Option (Setting K)
  z : Option (Setting K)
  rollDeg : Option (Setting K)
  pitchDeg : Option (Setting K)
  yawDeg : Option (Setting K)

/-- `os.path.join(map_dir, name)`. -/
def pathIn (mapDir name : String) : String := mapDir ++ "/" ++ name

def rawPcd (mapDir : String) : String := pathIn mapDir "raw_camera_init.pcd"

def publicPcd (mapDir : String) : String := pathIn mapDir "public_map.pcd"

namespace ProfileName

def outputPgm (mapDir : String) : ProfileName → String
  | raw => pathIn mapDir "map_raw.pgm"
  | nav => pathIn mapDir "map.pgm"

def outputYaml (mapDir : String) : ProfileName → String
  | raw => pathIn mapDir "map_raw.yaml"
  | nav => pathIn mapDir "map.yaml"

end ProfileName

/-- `transform_params`, `none` where a key is missing. -/
def Geometry.transformParams {K : Type} (geometry : Geometry K) (mapDir : String) :
    Option (TransformParameters K) := do
  let x ← geometry.x
  let y ← geometry.y
  let z ← geometry.z
  let rollDeg ← geometry.rollDeg
  let pitchDeg ← geometry.pitchDeg
  let yawDeg ← geometry.yawDeg
  some
    { inputPcd := some (rawPcd mapDir)
      outputPcd := some (publicPcd mapDir)
      x := x.number?
      y := y.number?
      z := z.number?
      rollDeg := rollDeg.number?
      pitchDeg := pitchDeg.number?
      yawDeg := yawDeg.number? }

/-- What the raster node reads from the parameter server. -/
def Settings.rasterParameters {K : Type} (settings : Settings K) (mapDir : String)
    (name : ProfileName) : RasterParameters K where
  inputPcd := some (publicPcd mapDir)
  outputPgm := some (name.outputPgm mapDir)
  outputYaml := some (name.outputYaml mapDir)
  resolution := (settings .resolution).bind Setting.number?
  paddingM := (settings .paddingM).bind Setting.number?
  floorMinZ := (settings .floorMinZ).bind Setting.number?
  floorMaxZ := (settings .floorMaxZ).bind Setting.number?
  obstacleMinZ := (settings .obstacleMinZ).bind Setting.number?
  obstacleMaxZ := (settings .obstacleMaxZ).bind Setting.number?
  freeDilationM := (settings .freeDilationM).bind Setting.number?
  obstacleInflationM := (settings .obstacleInflationM).bind Setting.number?

/-! ## The map directory -/

/-- `map_metadata.yaml`. -/
structure Metadata (K : Type) where
  mapName : String
  createdAt : String
  frames : List (String × String) := [("raw_pcd", "camera_init"), ("public_map", "map")]
  files : List (String × String) :=
    [("raw_pcd", "raw_camera_init.pcd"), ("public_pcd", "public_map.pcd"),
      ("raw_map_yaml", "map_raw.yaml"), ("nav_map_yaml", "map.yaml")]
  geometrySnapshot : Geometry K
  mapGeneration : ProfileName → Settings K

/-- The two files of a raster map. -/
structure MapFiles where
  pgm : File Bytes
  yaml : File MapYaml

/-- The files that an invocation reads and writes. -/
structure Directory (K : Type) where
  raw : File (PcdCloud K)
  publicMap : File (PcdCloud K)
  maps : ProfileName → MapFiles
  metadata : File (Metadata K)

/-- A directory without these files. -/
def Directory.empty {K : Type} : Directory K where
  raw := .absent
  publicMap := .absent
  maps := fun _ => ⟨.absent, .absent⟩
  metadata := .absent

/-- The directory with the two files of one raster map replaced. -/
def Directory.withMap {K : Type} (dir : Directory K) (name : ProfileName) (files : MapFiles) :
    Directory K :=
  { dir with maps := Function.update dir.maps name files }

namespace Directory

variable {K : Type} (dir : Directory K) (name : ProfileName)

@[simp] theorem withMap_raw (files : MapFiles) : (dir.withMap name files).raw = dir.raw := rfl

@[simp] theorem withMap_publicMap (files : MapFiles) :
    (dir.withMap name files).publicMap = dir.publicMap := rfl

@[simp] theorem withMap_metadata (files : MapFiles) :
    (dir.withMap name files).metadata = dir.metadata := rfl

@[simp] theorem withMap_self : dir.withMap name (dir.maps name) = dir := by simp [withMap]

@[simp] theorem withMap_withMap (first second : MapFiles) :
    (dir.withMap name first).withMap name second = dir.withMap name second := by
  simp [withMap]

@[simp] theorem withMap_maps_self (files : MapFiles) :
    (dir.withMap name files).maps name = files := by simp [withMap]

theorem withMap_maps_of_ne {name other : ProfileName} (different : other ≠ name)
    (files : MapFiles) : (dir.withMap name files).maps other = dir.maps other := by
  simp [withMap, different]

end Directory

/-! ## An invocation -/

/-- What `source_pcd` names: a file elsewhere, or one of the files of the directory. -/
inductive Source (K : Type) where
  | elsewhere (file : File (PcdCloud K))
  | rawPcd
  | publicPcd

def Source.file {K : Type} (source : Source K) (dir : Directory K) : File (PcdCloud K) :=
  match source with
  | elsewhere file => file
  | rawPcd => dir.raw
  | publicPcd => dir.publicMap

/-- `os.path.samefile` with the archive. -/
def Source.isRaw {K : Type} : Source K → Bool
  | rawPcd => true
  | _ => false

/-- What goes wrong in the steps of an invocation, apart from what they do themselves. -/
structure Faults where
  setup : Bool := false
  copy : Option Extent := none
  roscore : Bool := false
  transform : Option Extent := none
  pgm : ProfileName → Option Extent := fun _ => none
  yaml : ProfileName → Option Extent := fun _ => none
  metadata : Option Extent := none

/-- What an undefined result makes of the raster node: its files and its exit status. -/
structure Wreckage where
  files : MapFiles
  exitsZero : Bool

/-- The arguments of one invocation, the files that it reads elsewhere and the machine. -/
structure Invocation (K : Type) where
  mapName : String
  sourcePcd : String
  source : Source K
  replaceRaw : Bool
  /-- `geometry["odom_to_camera_init"]`, `none` where it cannot be read. -/
  geometry : Option (Geometry K)
  /-- `load_yaml` of the profiles. -/
  profiles : ProfileName → Option (Settings K)
  /-- What the master holds for the raster node, `none` where no master is online. -/
  master : Option (Settings K)
  machines : ProfileName → Environment K
  wreckage : ProfileName → Wreckage
  createdAt : String
  faults : Faults

/-- The steps of `main`. -/
inductive FinalizeStep where
  | setup
  | archive
  | geometry
  | transform
  | profile (name : ProfileName)
  | raster (name : ProfileName)
  | metadata
  deriving DecidableEq

/-- The exception that ends an invocation: raised by the script, or out of a step. -/
inductive FinalizeError where
  | raised (text : String)
  | failed (step : FinalizeStep)
  deriving DecidableEq

/-- A stopped invocation. -/
structure Stopped (K : Type) where
  error : FinalizeError
  directory : Directory K

abbrev Finalizing (K : Type) := Except (Stopped K)

/-- Goes on, or stops at a step that ran into a fault. -/
def proceed {K : Type} (step : FinalizeStep) (fault : Option Extent) (dir : Directory K) :
    Finalizing K (Directory K) :=
  if fault.isSome then throw ⟨.failed step, dir⟩ else pure dir

/-- A value that has to be there for the step. -/
def require {K α : Type} (step : FinalizeStep) (dir : Directory K) :
    Option α → Finalizing K α
  | some value => pure value
  | none => throw ⟨.failed step, dir⟩

namespace Invocation

variable {K : Type} (invocation : Invocation K)

/-- Whether the archive is written. -/
def copies (dir : Directory K) : Bool := !dir.raw.isFile || invocation.replaceRaw

/-- `shutil.copy2`. -/
def copy2 (dir : Directory K) : Finalizing K (Directory K) :=
  if invocation.source.isRaw then throw ⟨.failed .archive, dir⟩
  else
    proceed .archive invocation.faults.copy
      { dir with raw := dir.raw.write invocation.faults.copy (invocation.source.file dir) }

/-- The archive step. -/
def archive (dir : Directory K) : Finalizing K (Directory K) :=
  if invocation.copies dir then
    if (invocation.source.file dir).isFile then invocation.copy2 dir
    else throw ⟨.raised ("Filtered source PCD not found: " ++ invocation.sourcePcd), dir⟩
  else pure dir

/-- The parameter server of the master that is online, or of a temporary one. -/
def startMaster : Option (Settings K) :=
  match invocation.master with
  | some server => some server
  | none => if invocation.faults.roscore then none else some fun _ => none

/-- The metadata of a run with these configuration files. -/
def record (geometry : Geometry K) (raw nav : Settings K) : Metadata K where
  mapName := invocation.mapName
  createdAt := invocation.createdAt
  geometrySnapshot := geometry
  mapGeneration := fun
    | .raw => raw
    | .nav => nav

/-- The metadata step. -/
def writeMetadata (geometry : Geometry K) (raw nav : Settings K) (dir : Directory K) :
    Finalizing K (Directory K) :=
  proceed .metadata invocation.faults.metadata
    { dir with
      metadata := dir.metadata.write invocation.faults.metadata
        (.holds (invocation.record geometry raw nav)) }

section Nodes

variable [Field K]

/-- The transform step. -/
def runTransform (trig : Trigonometry K) (mapDir : String) (params : TransformParameters K)
    (dir : Directory K) : Finalizing K (Directory K) :=
  match (PcdTransform.ofParameters params).transform trig (dir.raw.loads (rawPcd mapDir)) with
  | .error _ => throw ⟨.failed .transform, dir⟩
  | .ok cloud =>
      proceed .transform invocation.faults.transform
        { dir with publicMap := dir.publicMap.write invocation.faults.transform (.holds cloud) }

variable [LinearOrder K] [FloorRing K]

/-- A run of the raster node on a public map. -/
def rasterOutcome (mapDir : String) (name : ProfileName) (settings : Settings K)
    (publicMap : File (PcdCloud K)) : Outcome :=
  (PcdToPgm.ofParameters (settings.rasterParameters mapDir name)).generate
    { invocation.machines name with loadPCDFile := publicMap.loads (publicPcd mapDir) }

/-- The raster node writes the image. -/
def writePgm (name : ProfileName) (pgm : Bytes) (dir : Directory K) :
    Finalizing K (Directory K) :=
  proceed (.raster name) (invocation.faults.pgm name)
    (dir.withMap name
      { dir.maps name with
        pgm := (dir.maps name).pgm.write (invocation.faults.pgm name) (.holds pgm) })

/-- The raster node writes the YAML file. -/
def writeYaml (name : ProfileName) (yaml : MapYaml) (dir : Directory K) :
    Finalizing K (Directory K) :=
  proceed (.raster name) (invocation.faults.yaml name)
    (dir.withMap name
      { dir.maps name with
        yaml := (dir.maps name).yaml.write (invocation.faults.yaml name) (.holds yaml) })

/-- The raster step of one profile. -/
def runRaster (mapDir : String) (name : ProfileName) (settings : Settings K)
    (dir : Directory K) : Finalizing K (Directory K) :=
  match invocation.rasterOutcome mapDir name settings dir.publicMap with
  | .failed (.thrown _) => throw ⟨.failed (.raster name), dir⟩
  | .failed .undefined =>
      let wreck := invocation.wreckage name
      if wreck.exitsZero then pure (dir.withMap name wreck.files)
      else throw ⟨.failed (.raster name), dir.withMap name wreck.files⟩
  | .pgmOnly pgm _ => do
      let dir ← invocation.writePgm name pgm dir
      throw ⟨.failed (.raster name), dir⟩
  | .completed pgm yaml => do
      let dir ← invocation.writePgm name pgm dir
      invocation.writeYaml name yaml dir

/-- `main`. -/
def finalize (trig : Trigonometry K) (mapDir : String) (dir : Directory K) :
    Finalizing K (Directory K) :=
  if invocation.faults.setup then throw ⟨.failed .setup, dir⟩
  else do
    let dir ← invocation.archive dir
    let geometry ← require .geometry dir invocation.geometry
    match invocation.startMaster with
    | none => throw ⟨.raised "temporary roscore failed to start", dir⟩
    | some server =>
        let params ← require .transform dir (geometry.transformParams mapDir)
        let dir ← invocation.runTransform trig mapDir params dir
        let raw ← require (.profile .raw) dir (invocation.profiles .raw)
        let server := server.assign raw
        let dir ← invocation.runRaster mapDir .raw server dir
        let nav ← require (.profile .nav) dir (invocation.profiles .nav)
        let server := server.assign nav
        let dir ← invocation.runRaster mapDir .nav server dir
        invocation.writeMetadata geometry raw nav dir

/-- The directory after an invocation, finished or stopped. -/
def leaves (trig : Trigonometry K) (mapDir : String) (dir : Directory K) : Directory K :=
  match invocation.finalize trig mapDir dir with
  | .ok dir => dir
  | .error stopped => stopped.directory

end Nodes

end Invocation

end ScoutStack
