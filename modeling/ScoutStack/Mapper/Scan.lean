import ScoutStack.Mapper.Node

/-!
# One scan, seen from one coarse voxel

A scan is two loops over points and ray samples followed by a sweep.  For one
coarse key the loops come down to a single piece of evidence: a hit, a miss or
nothing.  `lookup_processScan` gives the entry that a scan leaves at a key as a
function of the entry it finds there; every result about the coarse table is
derived from it.
-/

namespace ScoutStack

variable {K : Type*} [Field K] [LinearOrder K]

namespace PointcloudMapper

/-! ## Single updates -/

/-- The entry that `getOrCreateOccupancy` hands out. -/
def entryFor (mapper : PointcloudMapper K) (key : VoxelKey) : OccupancyVoxelState K :=
  (mapper.temporalVoxels.lookup key).getD { generation := mapper.nextOccupancyGeneration }

/-- Everything `updateHit` does. -/
theorem updateHit_eq (cfg : Config K) (mapper : PointcloudMapper K) (key : VoxelKey)
    (stamp : Time) :
    mapper.updateHit cfg key stamp =
      { mapper with
        temporalVoxels := mapper.temporalVoxels.insert key
          ((mapper.entryFor key).hit cfg mapper.scanSequence stamp)
        nextOccupancyGeneration :=
          if (mapper.temporalVoxels.lookup key).isSome then mapper.nextOccupancyGeneration
          else mapper.nextOccupancyGeneration + 1 } := by
  unfold updateHit getOrCreateOccupancy entryFor
  cases found : mapper.temporalVoxels.lookup key with
  | some state => simp
  | none => simp

theorem lookup_updateHit (cfg : Config K) (mapper : PointcloudMapper K) (key other : VoxelKey)
    (stamp : Time) :
    (mapper.updateHit cfg key stamp).temporalVoxels.lookup other =
      if other = key then some ((mapper.entryFor key).hit cfg mapper.scanSequence stamp)
      else mapper.temporalVoxels.lookup other := by
  rw [updateHit_eq]
  by_cases same : other = key
  · rw [if_pos same, same]
    exact AList.lookup_insert _
  · rw [if_neg same]
    exact AList.lookup_insert_ne same

/-- Everything `updateMiss` does to the coarse table. -/
theorem lookup_updateMiss (cfg : Config K) (mapper : PointcloudMapper K)
    (key other : VoxelKey) (stamp : Time) :
    (mapper.updateMiss cfg key stamp).temporalVoxels.lookup other =
      if other = key then
        (mapper.temporalVoxels.lookup key).bind
          (OccupancyVoxelState.miss cfg mapper.scanSequence stamp)
      else mapper.temporalVoxels.lookup other := by
  unfold updateMiss
  cases found : mapper.temporalVoxels.lookup key with
  | none =>
      by_cases same : other = key
      · subst same
        simp [found]
      · simp [same]
  | some state =>
      dsimp only [Option.bind_some, OccupancyVoxelState.miss]
      by_cases same : other = key
      · subst same
        rw [if_pos rfl]
        by_cases marked : state.lastMissScan = mapper.scanSequence
        · rw [if_pos marked, if_pos marked, found]
        · rw [if_neg marked, if_neg marked]
          split
          next => exact AList.lookup_erase _ _
          next => exact AList.lookup_insert _
      · rw [if_neg same]
        by_cases marked : state.lastMissScan = mapper.scanSequence
        · rw [if_pos marked]
        · rw [if_neg marked]
          split
          next => exact AList.lookup_erase_ne same
          next => exact AList.lookup_insert_ne same

/-- A miss only touches the coarse table, the counter of cleared voxels and the
dirty flag. -/
theorem updateMiss_frame (cfg : Config K) (mapper : PointcloudMapper K) (key : VoxelKey)
    (stamp : Time) : ∃ voxels cleared dirty,
      mapper.updateMiss cfg key stamp =
        { mapper with
          temporalVoxels := voxels, bayesianClearedVoxels := cleared, dirty := dirty } := by
  unfold updateMiss
  split
  next => exact ⟨_, _, _, rfl⟩
  next =>
    split
    next => exact ⟨_, _, _, rfl⟩
    next =>
      dsimp only
      split
      next => exact ⟨_, _, _, rfl⟩
      next => exact ⟨_, _, _, rfl⟩

/-! ## The free-space pass -/

/-- The keys on which the sample loop of one ray calls `updateMiss`. -/
def missedAlong (occupied : Finset VoxelKey) : VoxelKey → List VoxelKey → List VoxelKey
  | _, [] => []
  | previousKey, key :: keys =>
      if key = previousKey then missedAlong occupied previousKey keys
      else if key ∈ occupied then missedAlong occupied key keys
      else key :: missedAlong occupied key keys

/-- Misses in the given order. -/
def updateMisses (cfg : Config K) (stamp : Time) (mapper : PointcloudMapper K)
    (keys : List VoxelKey) : PointcloudMapper K :=
  keys.foldl (fun mapper key => mapper.updateMiss cfg key stamp) mapper

theorem clearRay_eq (cfg : Config K) (occupied : Finset VoxelKey) (stamp : Time)
    (keys : List VoxelKey) (previousKey : VoxelKey) (mapper : PointcloudMapper K) :
    clearRay cfg occupied stamp previousKey keys mapper =
      mapper.updateMisses cfg stamp (missedAlong occupied previousKey keys) := by
  induction keys generalizing previousKey mapper with
  | nil => rfl
  | cons key keys ih =>
      unfold clearRay missedAlong
      split
      next => exact ih previousKey mapper
      next =>
        split
        next => exact ih key mapper
        next => exact ih key _

/-- The sample loop never misses an occupied voxel or one without a sample. -/
theorem mem_missedAlong {occupied : Finset VoxelKey} {keys : List VoxelKey}
    {previousKey key : VoxelKey} (member : key ∈ missedAlong occupied previousKey keys) :
    key ∈ keys ∧ key ∉ occupied := by
  induction keys generalizing previousKey with
  | nil => simp [missedAlong] at member
  | cons head keys ih =>
      unfold missedAlong at member
      split at member
      next => exact (ih member).imp_left (List.mem_cons_of_mem _)
      next =>
        split at member
        next => exact (ih member).imp_left (List.mem_cons_of_mem _)
        next free =>
          rcases List.mem_cons.mp member with rfl | later
          · exact ⟨List.mem_cons_self, free⟩
          · exact (ih later).imp_left (List.mem_cons_of_mem _)

/-- Every sampled voxel that is not occupied is missed, unless it is the one the
loop takes for the previous sample. -/
theorem mem_missedAlong_iff {occupied : Finset VoxelKey} {keys : List VoxelKey}
    {previousKey key : VoxelKey} (fresh : key ≠ previousKey) :
    key ∈ missedAlong occupied previousKey keys ↔ key ∈ keys ∧ key ∉ occupied := by
  refine ⟨mem_missedAlong, ?_⟩
  rintro ⟨sampled, free⟩
  induction keys generalizing previousKey with
  | nil => cases sampled
  | cons head keys ih =>
      unfold missedAlong
      rcases List.mem_cons.mp sampled with rfl | later
      · rw [if_neg fresh, if_neg free]
        exact List.mem_cons_self
      · split
        next => exact ih fresh later
        next =>
          by_cases same : key = head
          · subst same
            rw [if_neg free]
            exact List.mem_cons_self
          · split
            next => exact ih same later
            next => exact List.mem_cons_of_mem _ (ih same later)

theorem updateMisses_append (cfg : Config K) (stamp : Time) (mapper : PointcloudMapper K)
    (first second : List VoxelKey) :
    mapper.updateMisses cfg stamp (first ++ second) =
      (mapper.updateMisses cfg stamp first).updateMisses cfg stamp second :=
  List.foldl_append

theorem updateMisses_frame (cfg : Config K) (stamp : Time) (keys : List VoxelKey)
    (mapper : PointcloudMapper K) : ∃ voxels cleared dirty,
      mapper.updateMisses cfg stamp keys =
        { mapper with
          temporalVoxels := voxels, bayesianClearedVoxels := cleared, dirty := dirty } := by
  induction keys generalizing mapper with
  | nil => exact ⟨_, _, _, rfl⟩
  | cons key keys ih =>
      obtain ⟨voxels, cleared, dirty, first⟩ := updateMiss_frame cfg mapper key stamp
      obtain ⟨voxels', cleared', dirty', rest⟩ := ih (mapper.updateMiss cfg key stamp)
      refine ⟨voxels', cleared', dirty', ?_⟩
      change (mapper.updateMiss cfg key stamp).updateMisses cfg stamp keys = _
      rw [rest, first]

/-- Any number of misses of one key in one scan count as one. -/
theorem lookup_updateMisses (cfg : Config K) (stamp : Time) (keys : List VoxelKey)
    (mapper : PointcloudMapper K) (key : VoxelKey) :
    (mapper.updateMisses cfg stamp keys).temporalVoxels.lookup key =
      if key ∈ keys then
        (mapper.temporalVoxels.lookup key).bind
          (OccupancyVoxelState.miss cfg mapper.scanSequence stamp)
      else mapper.temporalVoxels.lookup key := by
  induction keys generalizing mapper with
  | nil => simp [updateMisses]
  | cons head keys ih =>
      have sequence : (mapper.updateMiss cfg head stamp).scanSequence = mapper.scanSequence := by
        obtain ⟨_, _, _, frame⟩ := updateMiss_frame cfg mapper head stamp
        rw [frame]
      change ((mapper.updateMiss cfg head stamp).updateMisses cfg stamp keys).temporalVoxels.lookup
        key = _
      rw [ih, lookup_updateMiss, sequence]
      by_cases same : key = head
      · subst same
        have twice : ((mapper.temporalVoxels.lookup key).bind
              (OccupancyVoxelState.miss cfg mapper.scanSequence stamp)).bind
              (OccupancyVoxelState.miss cfg mapper.scanSequence stamp) =
            (mapper.temporalVoxels.lookup key).bind
              (OccupancyVoxelState.miss cfg mapper.scanSequence stamp) := by
          rw [Option.bind_assoc]
          simp only [OccupancyVoxelState.miss_bind_miss]
        simp [twice]
      · simp [same]

end PointcloudMapper

variable [FloorRing K]

open PointcloudMapper

/-- The rays that `updateFreeSpace` traces. -/
def tracedRays (cfg : Config K) (scan : Scan K) : Cloud K :=
  strided cfg.rayStride scan.filtered

/-- The keys on which `updateFreeSpace` calls `updateMiss`, in order. -/
def missedKeys (cfg : Config K) (scan : Scan K) : List VoxelKey :=
  if !cfg.dynamicFilterEnable || scan.filtered.isEmpty then
    []
  else
    (tracedRays cfg scan).flatMap fun endpoint =>
      missedAlong (occupiedThisScan cfg scan) noPreviousKey (rayKeys cfg scan.position endpoint)

theorem updateFreeSpace_eq (cfg : Config K) (mapper : PointcloudMapper K) (scan : Scan K) :
    mapper.updateFreeSpace cfg scan.position scan.filtered (occupiedThisScan cfg scan)
        scan.header.stamp =
      mapper.updateMisses cfg scan.header.stamp (missedKeys cfg scan) := by
  unfold updateFreeSpace missedKeys
  split
  next => rfl
  next =>
    unfold tracedRays
    generalize strided cfg.rayStride scan.filtered = rays
    induction rays generalizing mapper with
    | nil => rfl
    | cons ray rays ih =>
        rw [List.foldl_cons, List.flatMap_cons, updateMisses_append, ih, clearRay_eq]

theorem not_occupied_of_mem_missedKeys {cfg : Config K} {scan : Scan K} {key : VoxelKey}
    (missed : key ∈ missedKeys cfg scan) : key ∉ occupiedThisScan cfg scan := by
  unfold missedKeys at missed
  split at missed
  next => cases missed
  next =>
    obtain ⟨ray, _, member⟩ := List.mem_flatMap.mp missed
    exact (mem_missedAlong member).2

/-! ## The point loop -/

/-- With the dynamic filter on, the entry read by `temporal_voxels_.at` is the one
`updateHit` has just stored. -/
theorem processPoint_mapper {cfg : Config K} (enabled : cfg.dynamicFilterEnable = true)
    (stamp : Time) (loop : PointLoop K) (point : Point K) :
    (processPoint cfg stamp loop point).mapper =
      (loop.mapper.updateHit cfg (coarseKey cfg point) stamp).addToMap cfg
        ((loop.mapper.entryFor (coarseKey cfg point)).hit cfg loop.mapper.scanSequence stamp)
        point := by
  have stored := lookup_updateHit cfg loop.mapper (coarseKey cfg point) (coarseKey cfg point) stamp
  rw [if_pos rfl] at stored
  simp only [processPoint, enabled, if_true, stored, Option.getD_some]

/-- Without the dynamic filter the point loop leaves the coarse table alone. -/
theorem processPoint_mapper_disabled {cfg : Config K}
    (disabled : cfg.dynamicFilterEnable = false) (stamp : Time) (loop : PointLoop K)
    (point : Point K) : ∃ occupancy,
      (processPoint cfg stamp loop point).mapper =
        loop.mapper.addToMap cfg occupancy point := by
  refine ⟨(loop.mapper.temporalVoxels.lookup (coarseKey cfg point)).getD {}, ?_⟩
  simp [processPoint, disabled]

/-- A point touches the two tables, the generation counter and the dirty flag,
and it leaves the mapper dirty. -/
theorem processPoint_frame (cfg : Config K) (stamp : Time) (loop : PointLoop K)
    (point : Point K) : ∃ voxels next fine,
      (processPoint cfg stamp loop point).mapper =
        { loop.mapper with
          temporalVoxels := voxels, nextOccupancyGeneration := next
          mapVoxels := fine, dirty := true } := by
  cases enabled : cfg.dynamicFilterEnable with
  | true =>
      rw [processPoint_mapper enabled, updateHit_eq]
      exact ⟨_, _, _, rfl⟩
  | false =>
      obtain ⟨occupancy, same⟩ := processPoint_mapper_disabled enabled stamp loop point
      rw [same]
      exact ⟨_, _, _, rfl⟩

theorem foldl_processPoint_frame (cfg : Config K) (stamp : Time) (points : Cloud K)
    (loop : PointLoop K) : ∃ voxels next fine,
      (points.foldl (processPoint cfg stamp) loop).mapper =
        { loop.mapper with
          temporalVoxels := voxels, nextOccupancyGeneration := next
          mapVoxels := fine, dirty := loop.mapper.dirty || !points.isEmpty } := by
  induction points generalizing loop with
  | nil =>
      refine ⟨loop.mapper.temporalVoxels, loop.mapper.nextOccupancyGeneration,
        loop.mapper.mapVoxels, ?_⟩
      simp
  | cons point points ih =>
      obtain ⟨voxels, next, fine, first⟩ := processPoint_frame cfg stamp loop point
      obtain ⟨voxels', next', fine', rest⟩ := ih (processPoint cfg stamp loop point)
      refine ⟨voxels', next', fine', ?_⟩
      rw [List.foldl_cons, rest, first]
      simp

/-- A key that no point has keeps its entry through the point loop. -/
theorem lookup_foldl_processPoint_of_notMem {cfg : Config K}
    (stamp : Time) {key : VoxelKey} (points : Cloud K)
    (loop : PointLoop K) (unhit : key ∉ points.map (coarseKey cfg)) :
    (points.foldl (processPoint cfg stamp) loop).mapper.temporalVoxels.lookup key =
      loop.mapper.temporalVoxels.lookup key := by
  induction points generalizing loop with
  | nil => rfl
  | cons point points ih =>
      rw [List.map_cons, List.mem_cons, not_or] at unhit
      rw [List.foldl_cons, ih _ unhit.2]
      cases enabled : cfg.dynamicFilterEnable with
      | true =>
          rw [processPoint_mapper enabled]
          change (loop.mapper.updateHit cfg (coarseKey cfg point) stamp).temporalVoxels.lookup key
            = _
          rw [lookup_updateHit, if_neg unhit.1]
      | false =>
          obtain ⟨_, same⟩ := processPoint_mapper_disabled enabled stamp loop point
          rw [same]
          rfl

/-- All points of one key count as a single hit. -/
theorem lookup_foldl_processPoint_of_mem {cfg : Config K}
    (enabled : cfg.dynamicFilterEnable = true) (stamp : Time) {key : VoxelKey}
    (points : Cloud K) (loop : PointLoop K) (isHit : key ∈ points.map (coarseKey cfg)) :
    ∃ generation,
      (points.foldl (processPoint cfg stamp) loop).mapper.temporalVoxels.lookup key =
        some (((loop.mapper.temporalVoxels.lookup key).getD { generation := generation }).hit
          cfg loop.mapper.scanSequence stamp) := by
  induction points generalizing loop with
  | nil => simp at isHit
  | cons point points ih =>
      have sequence : (processPoint cfg stamp loop point).mapper.scanSequence =
          loop.mapper.scanSequence := by
        obtain ⟨_, _, _, frame⟩ := processPoint_frame cfg stamp loop point
        rw [frame]
      have first : (processPoint cfg stamp loop point).mapper.temporalVoxels.lookup key =
          if key = coarseKey cfg point then
            some ((loop.mapper.entryFor (coarseKey cfg point)).hit cfg
              loop.mapper.scanSequence stamp)
          else loop.mapper.temporalVoxels.lookup key := by
        rw [processPoint_mapper enabled]
        exact lookup_updateHit cfg loop.mapper (coarseKey cfg point) key stamp
      rw [List.foldl_cons]
      by_cases later : key ∈ points.map (coarseKey cfg)
      · obtain ⟨generation, rest⟩ := ih (processPoint cfg stamp loop point) later
        rw [rest, first, sequence]
        split
        next same =>
          subst same
          exact ⟨loop.mapper.nextOccupancyGeneration, by
            rw [Option.getD_some, OccupancyVoxelState.hit_hit]
            rfl⟩
        next => exact ⟨generation, rfl⟩
      · have now : key = coarseKey cfg point := by
          rcases List.mem_cons.mp isHit with same | member
          · exact same
          · exact absurd member later
        rw [lookup_foldl_processPoint_of_notMem stamp points _ later, first, if_pos now, now]
        exact ⟨loop.mapper.nextOccupancyGeneration, rfl⟩

/-! ## The whole scan -/

/-- What a scan says about one coarse voxel. -/
inductive Evidence where
  | hit
  | miss
  | none
  deriving DecidableEq

/-- Effect of the evidence on an entry; a voxel that is created gets the given
generation. -/
def Evidence.apply (cfg : Config K) (scan : UInt64) (stamp : Time) (generation : UInt64) :
    Evidence → Option (OccupancyVoxelState K) → Option (OccupancyVoxelState K)
  | .hit, slot => some ((slot.getD { generation := generation }).hit cfg scan stamp)
  | .miss, slot => slot.bind (OccupancyVoxelState.miss cfg scan stamp)
  | .none, slot => slot

/-- The evidence of a scan for a coarse key. -/
def evidence (cfg : Config K) (scan : Scan K) (key : VoxelKey) : Evidence :=
  if key ∈ occupiedThisScan cfg scan then .hit
  else if key ∈ missedKeys cfg scan then .miss
  else .none

/-- A scan without points only advances the clock and may sweep. -/
theorem absorbScan_of_filtered_nil (cfg : Config K) (mapper : PointcloudMapper K)
    {scan : Scan K} (noPoints : scan.filtered = []) :
    absorbScan cfg mapper scan =
      { mapper with
        scanSequence := mapper.scanSequence + 1
        frameId := scan.header.frameId
        lastCloudStamp := scan.header.stamp } := by
  simp [absorbScan, processPoints, updateFreeSpace, noPoints]

/-- The members a scan leaves alone, and those it always sets. -/
theorem absorbScan_frame (cfg : Config K) (mapper : PointcloudMapper K) (scan : Scan K) :
    ∃ voxels next cleared dirty fine,
      absorbScan cfg mapper scan =
        { mapper with
          scanSequence := mapper.scanSequence + 1
          frameId := scan.header.frameId
          lastCloudStamp := scan.header.stamp
          temporalVoxels := voxels, nextOccupancyGeneration := next
          bayesianClearedVoxels := cleared, dirty := dirty, mapVoxels := fine } := by
  obtain ⟨voxels, next, fine, points⟩ := foldl_processPoint_frame cfg scan.header.stamp
    scan.filtered ⟨{ mapper with scanSequence := mapper.scanSequence + 1 }, [], []⟩
  obtain ⟨voxels', cleared, dirty, misses⟩ := updateMisses_frame cfg scan.header.stamp
    (missedKeys cfg scan) (processPoints cfg mapper scan).mapper
  refine ⟨voxels', next, cleared, dirty, fine, ?_⟩
  rw [absorbScan, updateFreeSpace_eq, misses, processPoints, points]

/-- The entry at one key after both loops of a scan. -/
theorem lookup_absorbScan {cfg : Config K} (enabled : cfg.dynamicFilterEnable = true)
    (mapper : PointcloudMapper K) (scan : Scan K) (key : VoxelKey) :
    ∃ generation,
      (absorbScan cfg mapper scan).temporalVoxels.lookup key =
        (evidence cfg scan key).apply cfg (mapper.scanSequence + 1) scan.header.stamp generation
          (mapper.temporalVoxels.lookup key) := by
  have sequence : (processPoints cfg mapper scan).mapper.scanSequence =
      mapper.scanSequence + 1 := by
    obtain ⟨_, _, _, frame⟩ := foldl_processPoint_frame cfg scan.header.stamp scan.filtered
      ⟨{ mapper with scanSequence := mapper.scanSequence + 1 }, [], []⟩
    rw [processPoints, frame]
  have loops : (absorbScan cfg mapper scan).temporalVoxels.lookup key =
      if key ∈ missedKeys cfg scan then
        ((processPoints cfg mapper scan).mapper.temporalVoxels.lookup key).bind
          (OccupancyVoxelState.miss cfg (mapper.scanSequence + 1) scan.header.stamp)
      else (processPoints cfg mapper scan).mapper.temporalVoxels.lookup key := by
    rw [absorbScan, updateFreeSpace_eq]
    change (PointcloudMapper.updateMisses cfg scan.header.stamp
      (processPoints cfg mapper scan).mapper (missedKeys cfg scan)).temporalVoxels.lookup key = _
    rw [lookup_updateMisses, sequence]
  unfold evidence
  by_cases isHit : key ∈ occupiedThisScan cfg scan
  · have unmissed : key ∉ missedKeys cfg scan :=
      fun missed => not_occupied_of_mem_missedKeys missed isHit
    rw [loops, if_neg unmissed, if_pos isHit]
    exact lookup_foldl_processPoint_of_mem enabled scan.header.stamp scan.filtered
      ⟨{ mapper with scanSequence := mapper.scanSequence + 1 }, [], []⟩
      (List.mem_toFinset.mp isHit)
  · have kept : (processPoints cfg mapper scan).mapper.temporalVoxels.lookup key =
        mapper.temporalVoxels.lookup key :=
      lookup_foldl_processPoint_of_notMem scan.header.stamp scan.filtered
        ⟨{ mapper with scanSequence := mapper.scanSequence + 1 }, [], []⟩
        fun member => isHit (List.mem_toFinset.mpr member)
    rw [loops, kept, if_neg isHit]
    refine ⟨0, ?_⟩
    split <;> rfl

/-- The early return of `maybeCleanup` at the end of a scan is not taken. -/
def sweeps (cfg : Config K) (mapper : PointcloudMapper K) (scan : Scan K) : Bool :=
  (absorbScan cfg mapper scan).cleanupDue cfg scan.header.stamp

/-- Whether the sweep at the end of a scan erases an entry. -/
def swept (cfg : Config K) (mapper : PointcloudMapper K) (scan : Scan K)
    (state : OccupancyVoxelState K) : Bool :=
  sweeps cfg mapper scan && state.expired cfg scan.header.stamp

omit [FloorRing K] in
/-- A sweep only touches the coarse table and its own clock. -/
theorem maybeCleanup_frame (cfg : Config K) (mapper : PointcloudMapper K) (now : Time) :
    ∃ voxels clock, mapper.maybeCleanup cfg now =
      { mapper with temporalVoxels := voxels, lastCleanup := clock } := by
  unfold maybeCleanup
  split
  next => exact ⟨_, _, rfl⟩
  next => exact ⟨_, _, rfl⟩

omit [FloorRing K] in
theorem lookup_maybeCleanup (cfg : Config K) (mapper : PointcloudMapper K) (now : Time)
    (key : VoxelKey) :
    (mapper.maybeCleanup cfg now).temporalVoxels.lookup key =
      (mapper.temporalVoxels.lookup key).filter fun state =>
        !(mapper.cleanupDue cfg now && state.expired cfg now) := by
  unfold maybeCleanup
  split
  next due => simp [due]
  next idle =>
      cases mapper.temporalVoxels.lookup key with
      | none => rfl
      | some state => simp [idle, Option.filter_some]

/-- The entry at one key after a scan. -/
theorem lookup_processScan {cfg : Config K} (enabled : cfg.dynamicFilterEnable = true)
    (mapper : PointcloudMapper K) (scan : Scan K) (key : VoxelKey) :
    ∃ generation,
      (processScan cfg mapper scan).temporalVoxels.lookup key =
        ((evidence cfg scan key).apply cfg (mapper.scanSequence + 1) scan.header.stamp generation
          (mapper.temporalVoxels.lookup key)).filter
          fun state => !swept cfg mapper scan state := by
  obtain ⟨generation, absorbed⟩ := lookup_absorbScan enabled mapper scan key
  refine ⟨generation, ?_⟩
  rw [processScan, lookup_maybeCleanup, absorbed]
  rfl

theorem evidence_eq_hit_iff {cfg : Config K} {scan : Scan K} {key : VoxelKey} :
    evidence cfg scan key = .hit ↔ key ∈ occupiedThisScan cfg scan := by
  unfold evidence
  split
  next occupied => exact iff_of_true rfl occupied
  next free =>
    refine iff_of_false ?_ free
    split <;> simp

theorem evidence_eq_miss_iff {cfg : Config K} {scan : Scan K} {key : VoxelKey} :
    evidence cfg scan key = .miss ↔ key ∈ missedKeys cfg scan := by
  unfold evidence
  split
  next occupied =>
    exact iff_of_false (by simp) fun missed => not_occupied_of_mem_missedKeys missed occupied
  next =>
    split
    next missed => exact iff_of_true rfl missed
    next unmissed => exact iff_of_false (by simp) unmissed

/-- One entry: what holds of the old entry at a key and of a fresh one, and passes
through the hit or the miss of the scan, holds of the entry after the scan. -/
theorem entry_processScan {cfg : Config K} (enabled : cfg.dynamicFilterEnable = true)
    {mapper : PointcloudMapper K} {scan : Scan K} {key : VoxelKey}
    (before after : OccupancyVoxelState K → Prop)
    (old : ∀ state, mapper.temporalVoxels.lookup key = some state → before state)
    (fresh : ∀ generation, before { generation := generation })
    (hit : evidence cfg scan key = .hit → ∀ state, before state →
      after (state.hit cfg (mapper.scanSequence + 1) scan.header.stamp))
    (missed : evidence cfg scan key = .miss → ∀ state left, before state →
      state.miss cfg (mapper.scanSequence + 1) scan.header.stamp = some left → after left)
    (kept : evidence cfg scan key = .none → ∀ state, before state → after state)
    {state : OccupancyVoxelState K}
    (found : (processScan cfg mapper scan).temporalVoxels.lookup key = some state) :
    after state := by
  obtain ⟨generation, processed⟩ := lookup_processScan enabled mapper scan key
  rw [processed, Option.filter_eq_some_iff] at found
  have applied := found.1
  cases isEvidence : evidence cfg scan key with
  | hit =>
      rw [isEvidence] at applied
      obtain rfl := Option.some.inj applied
      refine hit isEvidence _ ?_
      cases present : mapper.temporalVoxels.lookup key with
      | none => exact fresh generation
      | some current => exact old current present
  | miss =>
      rw [isEvidence] at applied
      obtain ⟨current, present, left⟩ := Option.bind_eq_some_iff.mp applied
      exact missed isEvidence current state (old current present) left
  | none =>
      rw [isEvidence] at applied
      exact kept isEvidence state (old state applied)

end ScoutStack
