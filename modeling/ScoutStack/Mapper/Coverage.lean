import ScoutStack.Mapper.Generations

/-!
# How many points the fine map accounts for

A fine entry counts the points of one coarse voxel.  The counts of a voxel add up
to the points observed in it until a point of another voxel falls into one of its
cells, or a cell has seen `2 ^ 32` of its points: then samples are dropped for good.
-/

namespace ScoutStack

variable {K : Type*} [Field K] [LinearOrder K] [FloorRing K]

/-! ## Observed points -/

/-- Number of points in a coarse voxel. -/
def observedPoints (cfg : Config K) (key : VoxelKey) (points : Cloud K) : ℕ :=
  points.countP fun point => coarseKey cfg point = key

/-- Number of points in a coarse voxel that fall into the given fine cell. -/
def observedPointsIn (cfg : Config K) (key fine : VoxelKey) (points : Cloud K) : ℕ :=
  points.countP fun point => coarseKey cfg point = key ∧ fineKey cfg point = fine

/-- No point of another voxel falls into a cell after a point of this voxel, and no
cell sees as many points of this voxel as the counter has values. -/
structure Undisturbed (cfg : Config K) (key : VoxelKey) (points : Cloud K) : Prop where
  alone : points.Pairwise fun first second =>
    coarseKey cfg first = key → fineKey cfg second = fineKey cfg first → coarseKey cfg second = key
  few : ∀ fine, observedPointsIn cfg key fine points < 2 ^ 32

section Observed

variable (cfg : Config K) (key : VoxelKey) (points : Cloud K) (point : Point K)

theorem observedPoints_concat :
    observedPoints cfg key (points ++ [point]) =
      observedPoints cfg key points + if coarseKey cfg point = key then 1 else 0 := by
  simp [observedPoints, List.countP_append, List.countP_singleton]

theorem observedPointsIn_concat (fine : VoxelKey) :
    observedPointsIn cfg key fine (points ++ [point]) =
      observedPointsIn cfg key fine points +
        if coarseKey cfg point = key ∧ fineKey cfg point = fine then 1 else 0 := by
  simp [observedPointsIn, List.countP_append, List.countP_singleton]

/-- A cell without points of the voxel. -/
theorem observedPointsIn_eq_zero {cfg : Config K} {key : VoxelKey} {points : Cloud K}
    {fine : VoxelKey} :
    observedPointsIn cfg key fine points = 0 ↔
      ∀ point ∈ points, coarseKey cfg point = key → fineKey cfg point ≠ fine := by
  simp [observedPointsIn, List.countP_eq_zero]

/-- One more point does no harm when its cell has room, or holds none of the voxel. -/
theorem undisturbed_concat :
    Undisturbed cfg key (points ++ [point]) ↔
      Undisturbed cfg key points ∧
        if coarseKey cfg point = key then
          observedPointsIn cfg key (fineKey cfg point) points + 1 < 2 ^ 32
        else observedPointsIn cfg key (fineKey cfg point) points = 0 := by
  constructor
  · intro undisturbed
    have alone := List.pairwise_append.mp undisturbed.alone
    have fewBefore : ∀ fine, observedPointsIn cfg key fine points < 2 ^ 32 := by
      intro fine
      have bound := undisturbed.few fine
      rw [observedPointsIn_concat] at bound
      omega
    refine ⟨⟨alone.1, fewBefore⟩, ?_⟩
    split
    next own =>
      have bound := undisturbed.few (fineKey cfg point)
      rw [observedPointsIn_concat, if_pos ⟨own, rfl⟩] at bound
      exact bound
    next foreign =>
      rw [observedPointsIn_eq_zero]
      intro earlier member ownEarlier sameCell
      exact foreign (alone.2.2 earlier member point List.mem_cons_self ownEarlier sameCell.symm)
  · rintro ⟨undisturbed, last⟩
    constructor
    · apply List.pairwise_append.mpr
      refine ⟨undisturbed.alone, List.pairwise_singleton _ _, ?_⟩
      intro earlier member later isLast ownEarlier sameCell
      rw [List.mem_singleton.mp isLast] at sameCell ⊢
      by_contra foreign
      rw [if_neg foreign, observedPointsIn_eq_zero] at last
      exact last earlier member ownEarlier sameCell.symm
    · intro fine
      have bound := undisturbed.few fine
      rw [observedPointsIn_concat]
      split
      next own =>
        rw [if_pos own.1, own.2] at last
        exact last
      next => exact bound

/-- Points that are all elsewhere do not disturb the voxel. -/
theorem undisturbed_of_elsewhere {cfg : Config K} {key : VoxelKey} {points : Cloud K}
    (elsewhere : ∀ point ∈ points, coarseKey cfg point ≠ key) :
    Undisturbed cfg key points ∧ observedPoints cfg key points = 0 ∧
      ∀ fine, observedPointsIn cfg key fine points = 0 := by
  have empty : ∀ fine, observedPointsIn cfg key fine points = 0 := by
    intro fine
    rw [observedPointsIn_eq_zero]
    intro point member own
    exact absurd own (elsewhere point member)
  refine ⟨⟨?_, ?_⟩, ?_, empty⟩
  · apply List.pairwise_of_forall_mem_list
    intro first firstMember second _ own
    exact absurd own (elsewhere first firstMember)
  · intro fine
    rw [empty]
    exact Nat.two_pow_pos 32
  · simpa [observedPoints, List.countP_eq_zero] using elsewhere

end Observed

/-! ## Nested grids, in exact arithmetic -/

/-- Every fine cell lies within one coarse voxel. -/
def Nested (cfg : Config K) : Prop :=
  ∀ first second : Point K, fineKey cfg first = fineKey cfg second →
    coarseKey cfg first = coarseKey cfg second

section Nested

variable {cfg : Config K}

/-- On nested grids only the counters of the cells set a limit. -/
theorem Nested.undisturbed_iff (nested : Nested cfg) (key : VoxelKey) (points : Cloud K) :
    Undisturbed cfg key points ↔ ∀ fine, observedPointsIn cfg key fine points < 2 ^ 32 := by
  constructor
  · exact fun undisturbed => undisturbed.few
  · intro few
    constructor
    · apply List.pairwise_of_forall
      intro first second own sameCell
      rw [nested second first sameCell]
      exact own
    · exact few

variable [IsStrictOrderedRing K]

/-- With exact quotients the grids are nested exactly when the coarse voxel is a whole number
of fine cells wide, which the loader does not ask for.  Where `voxelKey` rounds its quotients,
a point near a border may still fall between the two grids. -/
theorem nested_iff : Nested cfg ↔ ∃ n : ℕ, cfg.temporalVoxelSize = n * cfg.mapVoxelSize := by
  have coarsePos := cfg.temporalVoxelSize_pos
  have finePos := cfg.mapVoxelSize_pos
  constructor
  · intro nested
    -- the lower end of the cell in which the second coarse voxel begins
    have lower : (⌊cfg.temporalVoxelSize / cfg.mapVoxelSize⌋ : K) * cfg.mapVoxelSize ≤
        cfg.temporalVoxelSize := (le_div_iff₀ finePos).mp (Int.floor_le _)
    have sameFine : fineKey cfg
        ⟨⌊cfg.temporalVoxelSize / cfg.mapVoxelSize⌋ * cfg.mapVoxelSize, 0, 0, 0⟩ =
          fineKey cfg ⟨cfg.temporalVoxelSize, 0, 0, 0⟩ := by
      simp [fineKey, voxelKey, Point.position, finePos.ne']
    have sameCoarse := congrArg VoxelKey.x (nested _ _ sameFine)
    change ⌊_ / cfg.temporalVoxelSize⌋ =
      ⌊cfg.temporalVoxelSize / cfg.temporalVoxelSize⌋ at sameCoarse
    rw [div_self coarsePos.ne', Int.floor_one, Int.floor_eq_iff] at sameCoarse
    have upper := (le_div_iff₀ coarsePos).mp sameCoarse.1
    rw [Int.cast_one, one_mul] at upper
    have whole := le_antisymm upper lower
    have nonneg : 0 ≤ ⌊cfg.temporalVoxelSize / cfg.mapVoxelSize⌋ :=
      Int.floor_nonneg.mpr (div_pos coarsePos finePos).le
    refine ⟨⌊cfg.temporalVoxelSize / cfg.mapVoxelSize⌋.toNat, ?_⟩
    rw [← Int.cast_natCast, Int.toNat_of_nonneg nonneg]
    exact whole
  · rintro ⟨n, multiple⟩
    have axis : ∀ x : K, ⌊x / cfg.temporalVoxelSize⌋ = ⌊x / cfg.mapVoxelSize⌋ / n := by
      intro x
      rw [multiple, mul_comm, ← div_div, Int.floor_div_natCast]
    intro first second sameFine
    simp only [fineKey, coarseKey, voxelKey, VoxelKey.mk.injEq] at sameFine ⊢
    simp only [axis, sameFine, and_self]

end Nested

/-! ## Counted samples -/

/-- Samples that an entry counts for a generation. -/
def MapVoxelState.samplesOf (generation : UInt64) (entry : MapVoxelState K) : ℕ :=
  if entry.occupancyGeneration = generation then entry.sampleCount.toNat else 0

/-- Samples that a cell counts for a generation. -/
def samplesAt (mapVoxels : Table VoxelKey (MapVoxelState K)) (generation : UInt64)
    (fine : VoxelKey) : ℕ :=
  (mapVoxels.lookup fine).elim 0 (MapVoxelState.samplesOf generation)

/-- Sum of the sample counts over all entries of a generation. -/
def samples (mapVoxels : Table VoxelKey (MapVoxelState K)) (generation : UInt64) : ℕ :=
  mapVoxels.total fun _ entry => entry.samplesOf generation

/-- A stored point is counted on top of the samples of its generation; samples of any
other generation are gone. -/
theorem samplesOf_storePoint (cfg : Config K) (stored : UInt64) (point : Point K)
    (entry : Option (MapVoxelState K)) (generation : UInt64) :
    (storePoint cfg stored point entry).samplesOf generation =
      if stored = generation then
        (entry.elim 0 (MapVoxelState.samplesOf generation) + 1) % 2 ^ 32
      else 0 := by
  rw [MapVoxelState.samplesOf, storePoint_generation]
  split
  next same =>
    subst same
    unfold storePoint MapVoxelState.claim
    split
    next started =>
      have none : entry.elim 0 (MapVoxelState.samplesOf stored) = 0 := by
        cases entry with
        | none => rfl
        | some old =>
            change (if old.occupancyGeneration = stored then old.sampleCount.toNat else 0) = 0
            rcases started with empty | other
            · change old.sampleCount = 0 at empty
              rw [empty]
              exact ite_self 0
            · exact if_neg other
      rw [none]
      rfl
    next kept =>
      rw [not_or, not_not] at kept
      cases entry with
      | none => exact absurd rfl kept.1
      | some old =>
          have sameGeneration : old.occupancyGeneration = stored := kept.2
          change (old.sampleCount + 1).toNat =
            ((if old.occupancyGeneration = stored then old.sampleCount.toNat else 0) + 1) % 2 ^ 32
          rw [if_pos sameGeneration]
          exact UInt32.toNat_add _ _
  next => rfl

omit [LinearOrder K] [FloorRing K] in
/-- No cell counts to `2 ^ 32`. -/
theorem samplesAt_lt (mapVoxels : Table VoxelKey (MapVoxelState K)) (generation : UInt64)
    (fine : VoxelKey) : samplesAt mapVoxels generation fine < 2 ^ 32 := by
  rw [samplesAt]
  cases mapVoxels.lookup fine with
  | none => exact Nat.two_pow_pos 32
  | some entry =>
      change entry.samplesOf generation < 2 ^ 32
      unfold MapVoxelState.samplesOf
      split
      next => exact entry.sampleCount.toNat_lt
      next => exact Nat.two_pow_pos 32

section Point

variable {cfg : Config K} {key : VoxelKey} {generation : UInt64} {count : ℕ} {loop : PointLoop K}

/-- What a point does to the counts of a live voxel. -/
theorem samplesAt_processPoint {point : Point K}
    (owner : pointGeneration cfg loop.mapper point = generation ↔ coarseKey cfg point = key)
    (stamp : Time) (fine : VoxelKey) :
    samplesAt (processPoint cfg stamp loop point).mapper.mapVoxels generation fine =
      if fine = fineKey cfg point then
        if coarseKey cfg point = key then
          (samplesAt loop.mapper.mapVoxels generation fine + 1) % 2 ^ 32
        else 0
      else samplesAt loop.mapper.mapVoxels generation fine := by
  rw [samplesAt, lookup_mapVoxels_processPoint]
  split
  next =>
    change (storePoint cfg _ point _).samplesOf generation = _
    rw [samplesOf_storePoint]
    exact if_congr owner rfl rfl
  next => rfl

/-- Only the cell of the point changes the sum. -/
theorem samples_processPoint (cfg : Config K) (stamp : Time) (loop : PointLoop K)
    (point : Point K) (generation : UInt64) :
    samples (processPoint cfg stamp loop point).mapper.mapVoxels generation +
        samplesAt loop.mapper.mapVoxels generation (fineKey cfg point) =
      samples loop.mapper.mapVoxels generation +
        samplesAt (processPoint cfg stamp loop point).mapper.mapVoxels generation
          (fineKey cfg point) := by
  have stored : samplesAt (processPoint cfg stamp loop point).mapper.mapVoxels generation
      (fineKey cfg point) =
      (storePoint cfg (pointGeneration cfg loop.mapper point) point
        (loop.mapper.mapVoxels.lookup (fineKey cfg point))).samplesOf generation := by
    rw [samplesAt, lookup_mapVoxels_processPoint, if_pos rfl]
    rfl
  rw [stored, processPoint_mapVoxels]
  exact Table.total_insert _ _ _ _

/-- The sum grows by no more than the point, and by exactly the point unless the cell is
full or is wiped. -/
theorem samples_processPoint_le {point : Point K}
    (owner : pointGeneration cfg loop.mapper point = generation ↔ coarseKey cfg point = key)
    (stamp : Time) :
    samples (processPoint cfg stamp loop point).mapper.mapVoxels generation ≤
        samples loop.mapper.mapVoxels generation + (if coarseKey cfg point = key then 1 else 0) ∧
      (samples (processPoint cfg stamp loop point).mapper.mapVoxels generation =
          samples loop.mapper.mapVoxels generation + (if coarseKey cfg point = key then 1 else 0) ↔
        if coarseKey cfg point = key then
          samplesAt loop.mapper.mapVoxels generation (fineKey cfg point) + 1 < 2 ^ 32
        else samplesAt loop.mapper.mapVoxels generation (fineKey cfg point) = 0) := by
  have balance := samples_processPoint cfg stamp loop point generation
  have cell := samplesAt_processPoint owner stamp (fineKey cfg point)
  have bound := samplesAt_lt loop.mapper.mapVoxels generation (fineKey cfg point)
  rw [if_pos rfl] at cell
  split at cell
  next own =>
    rw [if_pos own, if_pos own]
    rcases Nat.lt_or_ge (samplesAt loop.mapper.mapVoxels generation (fineKey cfg point) + 1)
      (2 ^ 32) with room | full
    · rw [Nat.mod_eq_of_lt room] at cell
      omega
    · -- the counter of the cell goes back to zero
      have wrapped : samplesAt loop.mapper.mapVoxels generation (fineKey cfg point) + 1 =
          2 ^ 32 := Nat.le_antisymm bound full
      rw [wrapped, Nat.mod_self] at cell
      omega
  next foreign =>
    rw [if_neg foreign, if_neg foreign]
    omega

/-- A voxel that is live after a point holds the generation of exactly its own points. -/
theorem Numbered.pointGeneration_iff (enabled : cfg.dynamicFilterEnable = true)
    (numbered : Numbered count loop.mapper) {point : Point K}
    (room : count + creates cfg loop.mapper point ≤ 2 ^ 64) {stamp : Time}
    (live : (ScoutStack.processPoint cfg stamp loop point).mapper.Live key generation) :
    pointGeneration cfg loop.mapper point = generation ↔ coarseKey cfg point = key := by
  have after := numbered.processPoint enabled stamp room
  constructor
  · intro same
    apply after.distinct _ _ generation _ live
    rw [live_processPoint_iff enabled, if_pos rfl]
    exact same
  · intro same
    rw [live_processPoint_iff enabled, if_pos same.symm] at live
    exact live

end Point

/-! ## The balance of a live voxel -/

/-- The counts of a generation against the points of its voxel. -/
structure Tallied (cfg : Config K) (key : VoxelKey) (generation : UInt64) (points : Cloud K)
    (mapVoxels : Table VoxelKey (MapVoxelState K)) : Prop where
  cells : Undisturbed cfg key points →
    ∀ fine, samplesAt mapVoxels generation fine = observedPointsIn cfg key fine points
  sum : Undisturbed cfg key points → samples mapVoxels generation = observedPoints cfg key points
  short : ¬Undisturbed cfg key points → samples mapVoxels generation < observedPoints cfg key points

section Tallied

variable {cfg : Config K} {key : VoxelKey} {generation : UInt64} {points : Cloud K} {count : ℕ}

theorem Tallied.samples_eq_iff {mapVoxels : Table VoxelKey (MapVoxelState K)}
    (tallied : Tallied cfg key generation points mapVoxels) :
    samples mapVoxels generation = observedPoints cfg key points ↔ Undisturbed cfg key points := by
  constructor
  · intro same
    by_contra disturbed
    exact absurd same (tallied.short disturbed).ne
  · exact tallied.sum

/-- Before its first point a voxel has no samples. -/
theorem tallied_start {mapVoxels : Table VoxelKey (MapVoxelState K)}
    (fresh : ∀ fine entry, mapVoxels.lookup fine = some entry →
      entry.occupancyGeneration ≠ generation)
    (elsewhere : ∀ point ∈ points, coarseKey cfg point ≠ key) :
    Tallied cfg key generation points mapVoxels := by
  obtain ⟨undisturbed, noPoint, noPointIn⟩ := undisturbed_of_elsewhere elsewhere
  constructor
  · intro _ fine
    rw [noPointIn, samplesAt]
    cases found : mapVoxels.lookup fine with
    | none => rfl
    | some entry => exact if_neg (fresh fine entry found)
  · intro _
    rw [noPoint]
    have weightless : samples mapVoxels generation = mapVoxels.total fun _ _ => 0 :=
      Table.total_congr mapVoxels fun fine entry found => if_neg (fresh fine entry found)
    rw [weightless]
    simp [Table.total]
  · exact fun disturbed => absurd undisturbed disturbed

/-- A point is added to the balance of every voxel that is live after it. -/
theorem Tallied.processPoint {loop : PointLoop K} {point : Point K}
    (owner : pointGeneration cfg loop.mapper point = generation ↔ coarseKey cfg point = key)
    (stamp : Time) (tallied : Tallied cfg key generation points loop.mapper.mapVoxels) :
    Tallied cfg key generation (points ++ [point])
      (ScoutStack.processPoint cfg stamp loop point).mapper.mapVoxels := by
  obtain ⟨atMost, exactly⟩ := samples_processPoint_le owner stamp
  constructor
  · intro undisturbed fine
    obtain ⟨before, last⟩ := (undisturbed_concat cfg key points point).mp undisturbed
    rw [samplesAt_processPoint owner, tallied.cells before, observedPointsIn_concat]
    split
    next same =>
      subst same
      split at last
      next own => rw [if_pos own, if_pos ⟨own, rfl⟩, Nat.mod_eq_of_lt last]
      next foreign => rw [if_neg foreign, if_neg fun both => foreign both.1, last]
    next other => rw [if_neg fun both => other both.2.symm, Nat.add_zero]
  · intro undisturbed
    obtain ⟨before, last⟩ := (undisturbed_concat cfg key points point).mp undisturbed
    rw [← tallied.cells before] at last
    rw [exactly.mpr last, tallied.sum before, observedPoints_concat]
  · intro disturbed
    rw [undisturbed_concat, not_and] at disturbed
    rw [observedPoints_concat]
    by_cases before : Undisturbed cfg key points
    · have dropped := disturbed before
      rw [← tallied.cells before] at dropped
      rw [← tallied.sum before]
      exact Nat.lt_of_le_of_ne atMost fun same => dropped (exactly.mp same)
    · exact atMost.trans_lt (Nat.add_lt_add_right (tallied.short before) _)

/-- A build takes no sample of a live voxel away. -/
theorem Tallied.build {mapper : PointcloudMapper K} (enabled : cfg.dynamicFilterEnable = true)
    (numbered : Numbered count mapper) (live : mapper.Live key generation)
    (tallied : Tallied cfg key generation points mapper.mapVoxels) :
    Tallied cfg key generation points (mapper.buildMapCloud cfg).1.mapVoxels := by
  have weightless : ∀ fine entry, mapper.mapVoxels.lookup fine = some entry →
      mapper.collects cfg entry = true → entry.samplesOf generation = 0 := by
    intro fine entry found collected
    rw [PointcloudMapper.collects_iff enabled] at collected
    unfold MapVoxelState.samplesOf
    split
    next same =>
      rcases collected with empty | stale
      · rw [empty]
        rfl
      · rw [same] at stale
        rw [← same] at live
        have owned := numbered.owner fine entry key found live
        rw [owned, ← same] at stale
        exact absurd live stale
    next => rfl
  have sameSum : samples (mapper.buildMapCloud cfg).1.mapVoxels generation =
      samples mapper.mapVoxels generation := Table.total_eraseIf _ _ _ weightless
  have sameCell : ∀ fine, samplesAt (mapper.buildMapCloud cfg).1.mapVoxels generation fine =
      samplesAt mapper.mapVoxels generation fine := by
    intro fine
    rw [samplesAt, samplesAt, PointcloudMapper.lookup_buildMapCloud, PointcloudMapper.kept]
    cases found : mapper.mapVoxels.lookup fine with
    | none => rfl
    | some entry =>
        cases collected : mapper.collects cfg entry with
        | true =>
            rw [Option.filter_some_neg (by simp [collected])]
            exact (weightless fine entry found collected).symm
        | false => rw [Option.filter_some_pos (by simp [collected])]
  constructor
  · intro undisturbed fine
    rw [sameCell]
    exact tallied.cells undisturbed fine
  · intro undisturbed
    rw [sameSum]
    exact tallied.sum undisturbed
  · intro disturbed
    rw [sameSum]
    exact tallied.short disturbed

end Tallied

/-! ## Since the creation of a voxel -/

/-- The balance of a voxel during the scan that creates it: before it is live, no point
has been filed under its key unless the key is taken. -/
def Opened (cfg : Config K) (key : VoxelKey) (generation : UInt64) (points : Cloud K)
    (mapper : PointcloudMapper K) : Prop :=
  mapper.Live key generation ∧ Tallied cfg key generation points mapper.mapVoxels ∨
    ¬mapper.Live key generation ∧
      (key ∉ mapper.temporalVoxels → ∀ point ∈ points, coarseKey cfg point ≠ key)

section Opened

variable {cfg : Config K} {key : VoxelKey} {generation : UInt64} {points : Cloud K} {count : ℕ}

/-- A voxel that a point brings to life had no entry and no sample before. -/
theorem Numbered.fresh_of_live_processPoint (enabled : cfg.dynamicFilterEnable = true)
    {loop : PointLoop K} (numbered : Numbered count loop.mapper) {point : Point K}
    (room : count + creates cfg loop.mapper point ≤ 2 ^ 64) {stamp : Time}
    (absent : ¬loop.mapper.Live key generation)
    (live : (ScoutStack.processPoint cfg stamp loop point).mapper.Live key generation) :
    key ∉ loop.mapper.temporalVoxels ∧
      ∀ fine entry, loop.mapper.mapVoxels.lookup fine = some entry →
        entry.occupancyGeneration ≠ generation := by
  constructor
  · intro present
    rw [live_processPoint_iff enabled] at live
    split at live
    next own =>
      rw [own] at present
      rcases numbered.pointGeneration_cases enabled point with ⟨_, ownLive⟩ | ⟨creation, _⟩
      · rw [live, ← own] at ownLive
        exact absent ownLive
      · rw [creates, if_pos present] at creation
        exact absurd creation Nat.zero_ne_one
    next => exact absent live
  · intro fine entry found same
    have issued := numbered.fine fine entry found
    rw [same] at issued
    exact absent (numbered.live_of_live_processPoint enabled room issued live)

/-- One point of the scan that creates the voxel. -/
theorem Opened.processPoint (enabled : cfg.dynamicFilterEnable = true) {loop : PointLoop K}
    (numbered : Numbered count loop.mapper) {point : Point K}
    (room : count + creates cfg loop.mapper point ≤ 2 ^ 64) (stamp : Time)
    (opened : Opened cfg key generation points loop.mapper) :
    Opened cfg key generation (points ++ [point])
      (ScoutStack.processPoint cfg stamp loop point).mapper := by
  by_cases live : (ScoutStack.processPoint cfg stamp loop point).mapper.Live key generation
  · have owner := numbered.pointGeneration_iff enabled room live
    rcases opened with ⟨_, tallied⟩ | ⟨absent, elsewhere⟩
    · exact .inl ⟨live, tallied.processPoint owner stamp⟩
    · obtain ⟨free, fresh⟩ := numbered.fresh_of_live_processPoint enabled room absent live
      exact .inl ⟨live, (tallied_start fresh (elsewhere free)).processPoint owner stamp⟩
  · rcases opened with ⟨liveBefore, _⟩ | ⟨absent, elsewhere⟩
    · exact absurd (live_processPoint_of_live enabled stamp point liveBefore) live
    · refine .inr ⟨live, ?_⟩
      intro free other member
      rw [processPoint_mapper enabled, PointcloudMapper.updateHit_eq] at free
      change key ∉ loop.mapper.temporalVoxels.insert (coarseKey cfg point) _ at free
      rw [AList.mem_insert, not_or] at free
      rcases List.mem_append.mp member with earlier | last
      · exact elsewhere free.2 other earlier
      · rw [List.mem_singleton.mp last]
        exact Ne.symm free.1

/-- The points of a scan, one after another. -/
theorem Opened.foldl (enabled : cfg.dynamicFilterEnable = true) (stamp : Time)
    (more : Cloud K) {loop : PointLoop K} (numbered : Numbered count loop.mapper)
    (room : count + (loop.mapper.temporalVoxels.newKeys (more.map (coarseKey cfg))).card ≤
      2 ^ 64)
    (opened : Opened cfg key generation points loop.mapper) :
    Opened cfg key generation (points ++ more)
      (more.foldl (ScoutStack.processPoint cfg stamp) loop).mapper := by
  induction more generalizing count loop points with
  | nil =>
      rw [List.append_nil]
      exact opened
  | cons point more ih =>
      rw [card_newKeys_processPoint enabled stamp, ← Nat.add_assoc] at room
      have first : count + creates cfg loop.mapper point ≤ 2 ^ 64 :=
        (Nat.le_add_right _ _).trans room
      have rest := ih (numbered.processPoint enabled stamp first) room
        (opened.processPoint enabled numbered first stamp)
      rw [List.append_assoc] at rest
      exact rest

/-- A voxel that a scan leaves alive has its balance, with the points of the scan. -/
theorem Opened.processScan (enabled : cfg.dynamicFilterEnable = true)
    {mapper : PointcloudMapper K} (numbered : Numbered count mapper) {scan : Scan K}
    (room : count + created cfg mapper scan ≤ 2 ^ 64)
    (opened : Opened cfg key generation points mapper)
    (live : (ScoutStack.processScan cfg mapper scan).Live key generation) :
    Tallied cfg key generation (points ++ scan.filtered)
      (ScoutStack.processScan cfg mapper scan).mapVoxels := by
  rw [created, if_pos enabled] at room
  have looped : Opened cfg key generation (points ++ scan.filtered)
      (processPoints cfg mapper scan).mapper :=
    Opened.foldl enabled scan.header.stamp scan.filtered numbered.loop_start room opened
  have liveInLoop := live_of_live_processScan scan live
  rw [processScan_mapVoxels]
  rcases looped with ⟨_, tallied⟩ | ⟨absent, _⟩
  · exact tallied
  · exact absurd liveInLoop absent

/-- The balance of a voxel after the message that created it. -/
theorem tallied_birth (enabled : cfg.dynamicFilterEnable = true) {before : List (Callback K)}
    {msg : PointCloud2 K} (few : creations cfg (before ++ [.cloud msg]) ≤ 2 ^ 64)
    (absent : ¬(run cfg before).Live key generation)
    (live : (run cfg (before ++ [.cloud msg])).Live key generation) :
    Tallied cfg key generation (pointsFrom cfg (run cfg before) [.cloud msg])
      (run cfg (before ++ [.cloud msg])).mapVoxels := by
  rw [creations_concat] at few
  rw [run_append, runFrom_cons, runFrom_nil] at live ⊢
  have numbered := numbered_run enabled ((Nat.le_add_right _ _).trans few)
  cases accepted : acceptScan cfg (run cfg before) msg with
  | none =>
      rw [step_cloud_of_none accepted] at live
      exact absurd live absent
  | some scan =>
      rw [step_cloud_of_some accepted] at live ⊢
      rw [acceptedScan_cloud_of_some accepted, List.map_singleton, List.sum_singleton] at few
      have opened : Opened cfg key generation [] (run cfg before) :=
        .inr ⟨absent, fun _ point member => absurd member List.not_mem_nil⟩
      have tallied := opened.processScan enabled numbered few live
      simpa [pointsFrom, acceptedScan_cloud_of_some accepted] using tallied

/-- The balance of a voxel from the message that created it on. -/
theorem tallied_run (enabled : cfg.dynamicFilterEnable = true) {before after : List (Callback K)}
    {msg : PointCloud2 K} (few : creations cfg (before ++ .cloud msg :: after) ≤ 2 ^ 64)
    (born : BornBy cfg key generation before msg after) :
    Tallied cfg key generation (pointsFrom cfg (run cfg before) (.cloud msg :: after))
      (run cfg (before ++ .cloud msg :: after)).mapVoxels := by
  induction after using List.reverseRecOn with
  | nil => exact tallied_birth enabled few born.absent (born.live [] (List.prefix_refl []))
  | append_singleton after callback ih =>
      have bornBefore := born.of_append
      have liveBefore := bornBefore.live after (List.prefix_refl after)
      have live := born.live (after ++ [callback]) (List.prefix_refl _)
      rw [← List.cons_append, ← List.append_assoc] at live few ⊢
      rw [creations_concat] at few
      have fewBefore := (Nat.le_add_right _ _).trans few
      have numbered := numbered_run enabled fewBefore
      have tallied := ih fewBefore bornBefore
      rw [pointsFrom_concat]
      have moved := transition_run cfg (before ++ .cloud msg :: after) callback
      generalize run cfg (before ++ .cloud msg :: after ++ [callback]) = next at moved live
      cases moved with
      | odometry msg =>
          rw [acceptedScan_odometry, List.flatMap_nil, List.append_nil]
          exact tallied
      | rejected msg rejected =>
          rw [acceptedScan_cloud_of_none rejected, List.flatMap_nil, List.append_nil]
          exact tallied
      | scan msg scan accepted =>
          rw [acceptedScan_cloud_of_some accepted] at few ⊢
          rw [List.map_singleton, List.sum_singleton] at few
          rw [List.flatMap_singleton]
          have opened : Opened cfg key generation _ _ := .inl ⟨liveBefore, tallied⟩
          exact opened.processScan enabled numbered few live
      | idle _ builds =>
          rw [acceptedScan_of_buildsMap builds, List.flatMap_nil, List.append_nil]
          exact tallied
      | build _ dirty builds =>
          rw [acceptedScan_of_buildsMap builds, List.flatMap_nil, List.append_nil]
          exact tallied.build enabled numbered liveBefore
      | reset =>
          obtain ⟨state, found, _⟩ := live
          cases found

end Opened

/-- While at most `2 ^ 64` voxels are created, the sample counts of a live voxel add up
to the points observed in it since its creation exactly when no point of another voxel
has fallen into one of its cells after one of its own, and each cell has seen fewer
than `2 ^ 32` of its points.  Each cell then counts the points that fell into it. -/
theorem samples_eq_observed_iff {cfg : Config K} (enabled : cfg.dynamicFilterEnable = true)
    {callbacks : List (Callback K)} (few : creations cfg callbacks ≤ 2 ^ 64) {key : VoxelKey}
    {generation : UInt64} (live : (run cfg callbacks).Live key generation) :
    ∃ before msg after points, callbacks = before ++ .cloud msg :: after ∧
      BornBy cfg key generation before msg after ∧
      points = pointsFrom cfg (run cfg before) (.cloud msg :: after) ∧
      (samples (run cfg callbacks).mapVoxels generation = observedPoints cfg key points ↔
        Undisturbed cfg key points) ∧
      (Undisturbed cfg key points → ∀ fine,
        samplesAt (run cfg callbacks).mapVoxels generation fine =
          observedPointsIn cfg key fine points) := by
  obtain ⟨before, msg, after, rfl, born⟩ := exists_bornBy live
  have tallied := tallied_run enabled few born
  exact ⟨before, msg, after, _, rfl, born, rfl, tallied.samples_eq_iff, tallied.cells⟩

/-- Two clouds with one point each, in the same voxel. -/
def pairHistory : List (Callback ℚ) :=
  watching [(1, [insideVoxel]), (1, [⟨11 / 4, 1 / 2, 1 / 2⟩])]

theorem samples_eq_observed_iff_unit : ∃ before msg after points,
    pairHistory = before ++ .cloud msg :: after ∧
      BornBy unitConfig ⟨2, 0, 0⟩ 1 before msg after ∧
      points = pointsFrom unitConfig (run unitConfig before) (.cloud msg :: after) ∧
      (samples (run unitConfig pairHistory).mapVoxels 1 =
          observedPoints unitConfig ⟨2, 0, 0⟩ points ↔
        Undisturbed unitConfig ⟨2, 0, 0⟩ points) := by
  have few : creations unitConfig pairHistory ≤ 2 ^ 64 := by decide +kernel
  have current : ((run unitConfig pairHistory).temporalVoxels.lookup ⟨2, 0, 0⟩).map
      OccupancyVoxelState.generation = some 1 := by decide +kernel
  obtain ⟨before, msg, after, points, split, born, since, balance, _⟩ :=
    samples_eq_observed_iff rfl few (Option.map_eq_some_iff.mp current)
  exact ⟨before, msg, after, points, split, born, since, balance⟩

/-- Two points in one fine cell, on either side of a face between two voxels. -/
def straddleCloud : PointCloud2 ℚ :=
  ⟨⟨1, "camera_init"⟩, [some ⟨9 / 10, 1 / 2, 1 / 2, 1⟩, some ⟨6 / 5, 1 / 2, 1 / 2, 1⟩]⟩

/-- The second point wipes the only sample of the first voxel, which stays live. -/
theorem samples_ne_observed :
    BornBy straddleConfig ⟨0, 0, 0⟩ 1 [odometryAt 1 ⟨0, 1 / 2, 1 / 2⟩] straddleCloud [] ∧
      samples (run straddleConfig
        [odometryAt 1 ⟨0, 1 / 2, 1 / 2⟩, .cloud straddleCloud]).mapVoxels 1 = 0 ∧
      observedPoints straddleConfig ⟨0, 0, 0⟩
        (pointsFrom straddleConfig (run straddleConfig [odometryAt 1 ⟨0, 1 / 2, 1 / 2⟩])
          [.cloud straddleCloud]) = 1 := by
  have current : ((run straddleConfig
      [odometryAt 1 ⟨0, 1 / 2, 1 / 2⟩, .cloud straddleCloud]).temporalVoxels.lookup
        ⟨0, 0, 0⟩).map OccupancyVoxelState.generation = some 1 := by decide +kernel
  refine ⟨⟨?_, ?_⟩, ?_, ?_⟩
  · rintro ⟨state, found, _⟩
    cases found
  · intro middle isFront
    rw [List.prefix_nil.mp isFront]
    exact Option.map_eq_some_iff.mp current
  · decide +kernel
  · decide +kernel

end ScoutStack
