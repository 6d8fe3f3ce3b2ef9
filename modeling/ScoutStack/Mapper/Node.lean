import ScoutStack.Lib.Machine
import ScoutStack.Mapper.Occupancy

/-!
# Callbacks of the mapper node

`ros::spin` runs one callback at a time, so the node is a machine whose events
are the callbacks.  A callback yields the next state and the messages and files
it puts out.  Log lines are not modelled.
-/

namespace ScoutStack

variable {K : Type*} [Field K] [LinearOrder K]

/-! ## From a message to an accepted scan -/

/-- `getBodyTransform`: the sensor position and the normalised orientation. -/
def getBodyTransform (cfg : Config K) (mapper : PointcloudMapper K) (cloudStamp : Time) :
    Option (Vector3 K × Quaternion K) :=
  if !mapper.haveOdom then
    none
  else
    let age := |(toSec cloudStamp mapper.latestOdom.header.stamp : K)|
    if age > cfg.maxOdomAge then
      none
    else
      let orientation := mapper.latestOdom.orientation
      let norm := cfg.sqrt orientation.squaredNorm
      if norm < 1 / 1000000 then
        none
      else
        some (mapper.latestOdom.position, orientation.divide norm)

/-- The range and self-box tests of `prefilter`. -/
def keepsPoint (cfg : Config K) (position : Vector3 K) (orientation : Quaternion K)
    (point : Point K) : Bool :=
  let bodyPoint := orientation.conjugate.rotate (point.position - position)
  let rangeSq := bodyPoint.squaredNorm
  if rangeSq < cfg.minRange * cfg.minRange || rangeSq > cfg.maxRange * cfg.maxRange then
    false
  else if cfg.selfFilterEnable && decide (bodyPoint.x ≥ cfg.selfMinX) &&
      decide (bodyPoint.x ≤ cfg.selfMaxX) && decide (bodyPoint.y ≥ cfg.selfMinY) &&
      decide (bodyPoint.y ≤ cfg.selfMaxY) && decide (bodyPoint.z ≥ cfg.selfMinZ) &&
      decide (bodyPoint.z ≤ cfg.selfMaxZ) then
    false
  else
    true

/-- `prefilter`. -/
def prefilter (cfg : Config K) (input : List (Option (Point K))) (position : Vector3 K)
    (orientation : Quaternion K) : Cloud K :=
  let valid := input.reduceOption.filter (keepsPoint cfg position orientation)
  let downsampled := cfg.voxelGrid cfg.scanVoxelSize valid
  if !cfg.radiusFilterEnable || downsampled.isEmpty then
    downsampled
  else
    cfg.radiusOutlierRemoval cfg.radius cfg.minNeighbors downsampled

/-- What `cloudCallback` works on once it has accepted a message. -/
structure Scan (K : Type*) where
  header : Header
  position : Vector3 K
  filtered : Cloud K
  deriving DecidableEq

/-- The head of `cloudCallback`, up to the filtered cloud; `none` is a return. -/
def acceptScan (cfg : Config K) (mapper : PointcloudMapper K) (msg : PointCloud2 K) :
    Option (Scan K) :=
  match getBodyTransform cfg mapper msg.header.stamp with
  | none => none
  | some (position, orientation) =>
      if mapper.latestOdom.header.frameId ≠ "" ∧ msg.header.frameId ≠ "" ∧
          mapper.latestOdom.header.frameId ≠ msg.header.frameId then
        none
      else
        some ⟨msg.header, position, prefilter cfg msg.points position orientation⟩

/-! ## The fine map -/

namespace MapVoxelState

/-- Accumulation of one point by `cloudCallback`. -/
def add (state : MapVoxelState K) (point : Point K) : MapVoxelState K :=
  { state with
    sum := state.sum + point.position
    intensitySum := state.intensitySum + point.intensity
    sampleCount := state.sampleCount + 1 }

/-- The entry that receives a point of the given coarse voxel: the present one,
or a fresh one when it is empty or of another generation. -/
def claim (state : MapVoxelState K) (key : VoxelKey) (generation : UInt64) :
    MapVoxelState K :=
  if state.sampleCount = 0 ∨ state.occupancyGeneration ≠ generation then
    { occupancyKey := key, occupancyGeneration := generation }
  else
    state

/-- The point that `buildMapCloud` emits for an entry. -/
def mean (state : MapVoxelState K) : Point K :=
  let count : K := state.sampleCount.toNat
  ⟨state.sum.x / count, state.sum.y / count, state.sum.z / count, state.intensitySum / count⟩

end MapVoxelState

/-- What the loop of `buildMapCloud` does with an entry. -/
inductive MapVisit where
  /-- Erased because it holds no sample. -/
  | empty
  /-- Erased because its coarse voxel is gone; the map becomes dirty. -/
  | stale
  /-- Kept and not emitted. -/
  | unconfirmed
  /-- Kept and emitted. -/
  | emitted
  deriving DecidableEq

namespace PointcloudMapper

/-- The branch of the loop body of `buildMapCloud` that an entry takes. -/
def visit (cfg : Config K) (mapper : PointcloudMapper K) (state : MapVoxelState K) :
    MapVisit :=
  if state.sampleCount = 0 then
    .empty
  else if cfg.dynamicFilterEnable then
    match mapper.temporalVoxels.lookup state.occupancyKey with
    | none => .stale
    | some occupancy =>
        if occupancy.generation ≠ state.occupancyGeneration then
          .stale
        else if !isStatic cfg occupancy then
          .unconfirmed
        else
          .emitted
  else
    .emitted

/-- Entries that `buildMapCloud` erases. -/
def collects (cfg : Config K) (mapper : PointcloudMapper K) (state : MapVoxelState K) :
    Bool :=
  match mapper.visit cfg state with
  | .empty | .stale => true
  | .unconfirmed | .emitted => false

/-- The point that an entry adds to the map cloud. -/
def emits (cfg : Config K) (mapper : PointcloudMapper K) (state : MapVoxelState K) :
    Option (Point K) :=
  match mapper.visit cfg state with
  | .emitted => some state.mean
  | .empty | .stale | .unconfirmed => none

/-- `buildMapCloud`: the mapper after the walk, and the map cloud. -/
def buildMapCloud (cfg : Config K) (mapper : PointcloudMapper K) :
    PointcloudMapper K × Cloud K :=
  ({ mapper with
      mapVoxels := mapper.mapVoxels.eraseIf fun _ state => mapper.collects cfg state
      dirty := mapper.dirty ||
        mapper.mapVoxels.entries.any fun entry => mapper.visit cfg entry.2 = .stale },
    mapper.mapVoxels.collect fun _ state => mapper.emits cfg state)

end PointcloudMapper

variable [FloorRing K]

/-- Coarse key of a point. -/
def coarseKey (cfg : Config K) (point : Point K) : VoxelKey :=
  voxelKey point.position cfg.temporalVoxelSize

/-- Fine key of a point. -/
def fineKey (cfg : Config K) (point : Point K) : VoxelKey :=
  voxelKey point.position cfg.mapVoxelSize

/-- State of the point loop of `cloudCallback`. -/
structure PointLoop (K : Type*) [Field K] where
  mapper : PointcloudMapper K
  staticScan : Cloud K
  dynamicScan : Cloud K

/-- The `++map_state` part of the loop body: `occupancy` is the entry found by
`temporal_voxels_.at(key)`. -/
def PointcloudMapper.addToMap (cfg : Config K) (mapper : PointcloudMapper K)
    (occupancy : OccupancyVoxelState K) (point : Point K) : PointcloudMapper K :=
  let mapKey := fineKey cfg point
  let mapState := (mapper.mapVoxels.lookup mapKey).getD {}
  let generation := if cfg.dynamicFilterEnable then occupancy.generation else 1
  let mapState := mapState.claim (coarseKey cfg point) generation
  { mapper with
    mapVoxels := mapper.mapVoxels.insert mapKey (mapState.add point)
    dirty := true }

/-- The loop body of `cloudCallback`.  `at` never throws: `updateHit` has just
stored an entry at the key. -/
def processPoint (cfg : Config K) (stamp : Time) (loop : PointLoop K) (point : Point K) :
    PointLoop K :=
  let key := coarseKey cfg point
  let mapper := if cfg.dynamicFilterEnable then loop.mapper.updateHit cfg key stamp
    else loop.mapper
  let occupancy := (mapper.temporalVoxels.lookup key).getD {}
  let staticPoint := !cfg.dynamicFilterEnable || isStatic cfg occupancy
  { mapper := mapper.addToMap cfg occupancy point
    staticScan := if staticPoint then loop.staticScan ++ [point] else loop.staticScan
    dynamicScan := if !staticPoint && cfg.publishDynamic then loop.dynamicScan ++ [point]
      else loop.dynamicScan }

/-- The point loop of `cloudCallback`, from `++scan_sequence_` on. -/
def processPoints (cfg : Config K) (mapper : PointcloudMapper K) (scan : Scan K) :
    PointLoop K :=
  scan.filtered.foldl (processPoint cfg scan.header.stamp)
    ⟨{ mapper with scanSequence := mapper.scanSequence + 1 }, [], []⟩

/-- `occupied_this_scan`. -/
def occupiedThisScan (cfg : Config K) (scan : Scan K) : Finset VoxelKey :=
  (scan.filtered.map (coarseKey cfg)).toFinset

/-- `cloudCallback` up to the call of `maybeCleanup`. -/
def absorbScan (cfg : Config K) (mapper : PointcloudMapper K) (scan : Scan K) :
    PointcloudMapper K :=
  { (processPoints cfg mapper scan).mapper.updateFreeSpace cfg scan.position scan.filtered
      (occupiedThisScan cfg scan) scan.header.stamp with
    frameId := scan.header.frameId
    lastCloudStamp := scan.header.stamp }

/-- The state in which `cloudCallback` leaves the mapper. -/
def processScan (cfg : Config K) (mapper : PointcloudMapper K) (scan : Scan K) :
    PointcloudMapper K :=
  (absorbScan cfg mapper scan).maybeCleanup cfg scan.header.stamp

/-! ## Outputs and callbacks -/

/-- What a callback puts out. -/
inductive Output (K : Type*) where
  | staticScan (header : Header) (cloud : Cloud K)
  | dynamicScan (header : Header) (cloud : Cloud K)
  | staticMap (header : Header) (cloud : Cloud K)
  /-- A file that `savePCDFileBinary` has written. -/
  | pcdFile (path : String) (cloud : Cloud K)
  /-- The answer of the `save_map` service. -/
  | saveResponse (success : Bool) (message : String)
  deriving DecidableEq

/-- How the file system answers one save: `error.what()` or the return code. -/
structure Disk where
  createDirectories : Except String Unit := .ok ()
  savePCDFileBinary : Except String ℤ := .ok 0

/-- `saveMapToDisk`: the mapper, the result, the message, and the cloud that
was written. -/
structure SaveResult (K : Type*) [Field K] where
  mapper : PointcloudMapper K
  success : Bool
  message : String
  written : Option (Cloud K)

/-- The file a save leaves behind. -/
def SaveResult.files (cfg : Config K) (result : SaveResult K) : List (Output K) :=
  result.written.toList.map (.pcdFile cfg.outputPath)

/-- One callback of the node, with the messages and the disk it meets. -/
inductive Callback (K : Type*) where
  | odometry (msg : Odometry K)
  | cloud (msg : PointCloud2 K)
  | publishMapTimer
  | saveMap (disk : Disk)
  | autosaveTimer (disk : Disk)
  | resetMap

namespace PointcloudMapper

omit [FloorRing K] in
/-- `odomCallback`. -/
def odomCallback (mapper : PointcloudMapper K) (msg : Odometry K) : PointcloudMapper K :=
  { mapper with latestOdom := msg, haveOdom := true }

/-- `cloudCallback`. -/
def cloudCallback (cfg : Config K) (mapper : PointcloudMapper K) (msg : PointCloud2 K) :
    PointcloudMapper K × List (Output K) :=
  match acceptScan cfg mapper msg with
  | none => (mapper, [])
  | some scan =>
      let loop := processPoints cfg mapper scan
      (processScan cfg mapper scan,
        .staticScan scan.header loop.staticScan ::
          if cfg.publishDynamic then [.dynamicScan scan.header loop.dynamicScan] else [])

omit [FloorRing K]

/-- `publishMapTimer`. -/
def publishMapTimer (cfg : Config K) (mapper : PointcloudMapper K) :
    PointcloudMapper K × List (Output K) :=
  if mapper.frameId = "" then
    (mapper, [])
  else
    let (built, map) := mapper.buildMapCloud cfg
    (built, [.staticMap ⟨mapper.lastCloudStamp, mapper.frameId⟩ map])

/-- `saveMapToDisk`. -/
def saveMapToDisk (cfg : Config K) (mapper : PointcloudMapper K) (disk : Disk) :
    SaveResult K :=
  let (built, map) := mapper.buildMapCloud cfg
  if map.isEmpty then
    ⟨built, false, "No confirmed static map points are available", none⟩
  else
    let created := if cfg.hasParentPath cfg.outputPath then disk.createDirectories
      else .ok ()
    match created with
    | .error what => ⟨built, false, what, none⟩
    | .ok () =>
        match disk.savePCDFileBinary with
        | .error what => ⟨built, false, what, none⟩
        | .ok code =>
            if code ≠ 0 then
              ⟨built, false, "PCL failed to write " ++ cfg.outputPath, none⟩
            else
              ⟨{ built with dirty := false }, true,
                "Saved " ++ toString map.length ++ " fine static-map points to " ++
                  cfg.outputPath,
                some map⟩

/-- `saveMap`, the service. -/
def saveMap (cfg : Config K) (mapper : PointcloudMapper K) (disk : Disk) :
    PointcloudMapper K × List (Output K) :=
  let result := mapper.saveMapToDisk cfg disk
  (result.mapper,
    SaveResult.files cfg result ++ [.saveResponse result.success result.message])

/-- `autosaveTimer`. -/
def autosaveTimer (cfg : Config K) (mapper : PointcloudMapper K) (disk : Disk) :
    PointcloudMapper K × List (Output K) :=
  if !mapper.dirty then
    (mapper, [])
  else
    let result := mapper.saveMapToDisk cfg disk
    (result.mapper, SaveResult.files cfg result)

/-- `~PointcloudMapper`: the files written on the way out. -/
def shutdown (cfg : Config K) (mapper : PointcloudMapper K) (disk : Disk) :
    List (Output K) :=
  if cfg.saveOnShutdown && mapper.dirty then
    SaveResult.files cfg (mapper.saveMapToDisk cfg disk)
  else
    []

/-- `resetMap`. -/
def resetMap (mapper : PointcloudMapper K) : PointcloudMapper K :=
  { mapper with
    temporalVoxels := ∅
    mapVoxels := ∅
    frameId := ""
    scanSequence := 0
    bayesianClearedVoxels := 0
    dirty := false }

end PointcloudMapper

/-- One callback: the next state and the outputs. -/
def react (cfg : Config K) (mapper : PointcloudMapper K) :
    Callback K → PointcloudMapper K × List (Output K)
  | .odometry msg => (mapper.odomCallback msg, [])
  | .cloud msg => mapper.cloudCallback cfg msg
  | .publishMapTimer => mapper.publishMapTimer cfg
  | .saveMap disk => mapper.saveMap cfg disk
  | .autosaveTimer disk => mapper.autosaveTimer cfg disk
  | .resetMap => (mapper.resetMap, [])

/-- The next state. -/
def step (cfg : Config K) (mapper : PointcloudMapper K) (callback : Callback K) :
    PointcloudMapper K :=
  (react cfg mapper callback).1

/-- The mapper after a history of callbacks, from start-up. -/
def runFrom (cfg : Config K) (mapper : PointcloudMapper K) (callbacks : List (Callback K)) :
    PointcloudMapper K :=
  Machine.run (step cfg) mapper callbacks

/-- The state after a history of callbacks of a newly started node. -/
def run (cfg : Config K) (callbacks : List (Callback K)) : PointcloudMapper K :=
  runFrom cfg {} callbacks

/-- Everything the node puts out during a history, from the given state. -/
def outputsFrom (cfg : Config K) (mapper : PointcloudMapper K)
    (callbacks : List (Callback K)) : List (Output K) :=
  Machine.collect (step cfg) (fun mapper callback => (react cfg mapper callback).2) mapper
    callbacks

/-- The scans accepted by one callback. -/
def acceptedScan (cfg : Config K) (mapper : PointcloudMapper K) :
    Callback K → List (Scan K)
  | .cloud msg => (acceptScan cfg mapper msg).toList
  | _ => []

/-- The scans accepted during a history, from the given state. -/
def scansFrom (cfg : Config K) (mapper : PointcloudMapper K)
    (callbacks : List (Callback K)) : List (Scan K) :=
  Machine.collect (step cfg) (acceptedScan cfg) mapper callbacks

/-- The filtered points accepted during a history, from the given state. -/
def pointsFrom (cfg : Config K) (mapper : PointcloudMapper K)
    (callbacks : List (Callback K)) : List (Point K) :=
  (scansFrom cfg mapper callbacks).flatMap Scan.filtered

end ScoutStack
