import ScoutStack.Mapper.Automaton
import ScoutStack.Mapper.Confirmed

/-!
# Tracing more rays

Two nodes that differ in the ray stride see the same scans.  The node that traces
more rays misses more, so the entry it keeps at a key is dominated by the entry of
the other node: less evidence, fewer hits, a later first hit.  This fails in two
ways, both built into the code: a miss refreshes `last_seen`, so it can save a
candidate from expiry; and an entry that is cleared and created again starts from
log-odds zero, which may be more than what is left of the other one.
-/

namespace ScoutStack

variable {K : Type*} [Field K] [LinearOrder K]

/-- The same node with another ray stride. -/
def Config.withRayStride (cfg : Config K) (stride : ℕ) (positive : 0 < stride) : Config K :=
  { cfg with rayStride := stride, rayStride_pos := positive }

/-! The stride is only read where rays are traced. -/

section WithRayStride

variable (cfg : Config K) (stride : ℕ) (positive : 0 < stride)

theorem hit_withRayStride :
    OccupancyVoxelState.hit (cfg.withRayStride stride positive) = OccupancyVoxelState.hit cfg :=
  rfl

theorem miss_withRayStride :
    OccupancyVoxelState.miss (cfg.withRayStride stride positive) = OccupancyVoxelState.miss cfg :=
  rfl

theorem acceptScan_withRayStride :
    acceptScan (cfg.withRayStride stride positive) = acceptScan cfg :=
  rfl

theorem occupiedThisScan_withRayStride [FloorRing K] :
    occupiedThisScan (cfg.withRayStride stride positive) = occupiedThisScan cfg :=
  rfl

theorem isStatic_withRayStride :
    isStatic (cfg.withRayStride stride positive) = isStatic cfg :=
  rfl

end WithRayStride

/-! ## Dominated entries -/

/-- An entry has at least the evidence and the hits of another, and started no later. -/
structure Supports (strong weak : OccupancyVoxelState K) : Prop where
  logOdds : weak.logOdds ≤ strong.logOdds
  hitScans : weak.hitScans.toNat ≤ strong.hitScans.toNat
  firstHit : weak.firstHit ≠ 0 → strong.firstHit ≠ 0 ∧ strong.firstHit ≤ weak.firstHit

/-- A supporting entry with the same last hit. -/
structure Dominates (strong weak : OccupancyVoxelState K) : Prop extends
    Supports strong weak where
  lastHit : strong.lastHit = weak.lastHit

section Dominates

variable {cfg : Config K} {strong weak : OccupancyVoxelState K}

theorem supports_fresh (occupied : 0 ≤ strong.logOdds) (generation : UInt64) :
    Supports strong { generation := generation } where
  logOdds := occupied
  hitScans := Nat.zero_le _
  firstHit := fun started => absurd rfl started

variable [IsStrictOrderedRing K]

theorem Dominates.isStatic (enabled : cfg.dynamicFilterEnable = true)
    (dominates : Dominates strong weak) (static : isStatic cfg weak = true) :
    isStatic cfg strong = true := by
  rw [isStatic_iff enabled] at static ⊢
  obtain ⟨enough, occupied, started, ended, span⟩ := static
  obtain ⟨startedToo, earlier⟩ := dominates.firstHit started
  have longer : (toSec weak.lastHit weak.firstHit : K) ≤ toSec weak.lastHit strong.firstHit :=
    toSec_le_toSec_right _ earlier
  rw [dominates.lastHit]
  exact ⟨enough.trans dominates.hitScans, occupied.trans dominates.logOdds, startedToo, ended,
    span.trans longer⟩

/-- A hit that both entries count makes a supporting entry a dominating one. -/
theorem Supports.hit {scan : UInt64} {stamp : Time} (supports : Supports strong weak)
    (strongUnmarked : strong.lastHitScan ≠ scan) (weakUnmarked : weak.lastHitScan ≠ scan)
    (room : strong.hitScans.toNat + 1 < 2 ^ 32) (started : strong.firstHit ≤ stamp) :
    Dominates (strong.hit cfg scan stamp) (weak.hit cfg scan stamp) := by
  have fewer := supports.hitScans
  rw [OccupancyVoxelState.hit_of_unmarked cfg stamp strongUnmarked,
    OccupancyVoxelState.hit_of_unmarked cfg stamp weakUnmarked]
  refine ⟨⟨?_, ?_, ?_⟩, rfl⟩
  · apply min_le_min_left
    exact add_le_add_left supports.logOdds cfg.hitLogOdds
  · have strongCount : (strong.hitScans + 1).toNat = strong.hitScans.toNat + 1 := by
      rw [UInt32.toNat_add, UInt32.toNat_one]
      exact Nat.mod_eq_of_lt room
    have weakCount : (weak.hitScans + 1).toNat = weak.hitScans.toNat + 1 := by
      rw [UInt32.toNat_add, UInt32.toNat_one]
      exact Nat.mod_eq_of_lt (by omega)
    dsimp only
    rw [strongCount, weakCount]
    exact Nat.succ_le_succ fewer
  · by_cases weakStarted : weak.firstHit = 0
    · rw [weakStarted]
      intro stamped
      by_cases strongStarted : strong.firstHit = 0
      · rw [strongStarted]
        exact ⟨stamped, le_rfl⟩
      · simpa [strongStarted] using started
    · intro _
      obtain ⟨strongStarted, earlier⟩ := supports.firstHit weakStarted
      simpa [strongStarted, weakStarted] using earlier

/-- A miss that only the weaker entry takes leaves it dominated. -/
theorem Dominates.lower_weak (dominates : Dominates strong weak) (saturated : weak.Saturated)
    (cfg : Config K) (scan : UInt64) (stamp : Time) :
    Dominates strong (weak.lower cfg scan stamp) := by
  have negative := cfg.missLogOdds_neg
  have lowered : max minLogOdds (weak.logOdds + cfg.missLogOdds) ≤ weak.logOdds := by
    apply max_le
    · exact saturated.1
    · linarith
  exact { dominates with logOdds := lowered.trans dominates.logOdds }

/-- A miss that both entries take keeps the order between them. -/
theorem Dominates.lower (dominates : Dominates strong weak) (cfg : Config K) (scan : UInt64)
    (stamp : Time) :
    Dominates (strong.lower cfg scan stamp) (weak.lower cfg scan stamp) := by
  have ordered : max minLogOdds (weak.logOdds + cfg.missLogOdds) ≤
      max minLogOdds (strong.logOdds + cfg.missLogOdds) := by
    apply max_le_max_left
    exact add_le_add_left dominates.logOdds cfg.missLogOdds
  exact { dominates with logOdds := ordered }

/-- A miss by both rays: if the weaker entry survives, so does the stronger one. -/
theorem Dominates.miss {scan : UInt64} {stamp : Time} (dominates : Dominates strong weak)
    (strongUnmarked : strong.lastMissScan ≠ scan) (weakUnmarked : weak.lastMissScan ≠ scan)
    {left : OccupancyVoxelState K} (survives : weak.miss cfg scan stamp = some left) :
    ∃ kept, strong.miss cfg scan stamp = some kept ∧ Dominates kept left := by
  have lowered := dominates.lower cfg scan stamp
  unfold OccupancyVoxelState.miss at survives ⊢
  rw [if_neg weakUnmarked] at survives
  rw [if_neg strongUnmarked]
  split at survives
  next => cases survives
  next live =>
    cases survives
    have strongLive : ¬(strong.lower cfg scan stamp).logOdds ≤ cfg.clearingLogOdds :=
      fun cleared => live (lowered.logOdds.trans cleared)
    rw [if_neg strongLive]
    exact ⟨_, rfl, lowered⟩

end Dominates

/-! ## Two nodes, one voxel -/

section Comparison

variable [FloorRing K] {cfg : Config K} {stride : ℕ} {positive : 0 < stride}
  {key : VoxelKey} {left right : PointcloudMapper K}

/-- What the comparison asks of an accepted scan, for the voxel at one key.  The
second node traces at least the rays of the first; the first node does not expire
the voxel while the second one keeps it; and when a hit creates the voxel in the
second node only, the first one has not lowered it below zero. -/
structure ComparableScan (fewer more : Config K) (key : VoxelKey)
    (left right : PointcloudMapper K) (scan : Scan K) : Prop where
  rays : ∀ ray ∈ tracedRays fewer scan, ray ∈ tracedRays more scan
  expiry : ∀ state ∈ (absorbScan fewer left scan).temporalVoxels.lookup key,
    swept fewer left scan state = true →
      (processScan more right scan).temporalVoxels.lookup key = none
  creation : key ∈ occupiedThisScan fewer scan → right.temporalVoxels.lookup key = none →
    ∀ state ∈ left.temporalVoxels.lookup key, 0 ≤ state.logOdds

instance (fewer more : Config K) (key : VoxelKey) (left right : PointcloudMapper K)
    (scan : Scan K) : Decidable (ComparableScan fewer more key left right scan) :=
  decidable_of_iff (_ ∧ _ ∧ _)
    ⟨fun ⟨rays, expiry, creation⟩ => ⟨rays, expiry, creation⟩,
      fun scans => ⟨scans.rays, scans.expiry, scans.creation⟩⟩

/-- The scans that one callback hands to both nodes are comparable. -/
def Comparable (fewer more : Config K) (key : VoxelKey) (left right : PointcloudMapper K)
    (callback : Callback K) : Prop :=
  ∀ scan ∈ acceptedScan fewer left callback, ComparableScan fewer more key left right scan

instance (fewer more : Config K) (key : VoxelKey) (left right : PointcloudMapper K)
    (callback : Callback K) : Decidable (Comparable fewer more key left right callback) :=
  inferInstanceAs (Decidable (∀ scan ∈ _, _))

/-- The two nodes at the same moment of a history. -/
structure Paired (key : VoxelKey) (left right : PointcloudMapper K) : Prop where
  latestOdom : left.latestOdom = right.latestOdom
  haveOdom : left.haveOdom = right.haveOdom
  scanSequence : left.scanSequence = right.scanSequence
  leftMarkers : MarkersPast left
  rightMarkers : MarkersPast right
  dominated : ∀ weak, right.temporalVoxels.lookup key = some weak →
    ∃ strong, left.temporalVoxels.lookup key = some strong ∧ Dominates strong weak

/-- More rays miss more keys. -/
theorem missedKeys_withRayStride {scan : Scan K}
    (rays : ∀ ray ∈ tracedRays cfg scan, ray ∈ tracedRays (cfg.withRayStride stride positive) scan)
    (missed : key ∈ missedKeys cfg scan) :
    key ∈ missedKeys (cfg.withRayStride stride positive) scan := by
  unfold missedKeys at missed ⊢
  split at missed
  next => cases missed
  next traces =>
    have tracesToo : ¬(!(cfg.withRayStride stride positive).dynamicFilterEnable ||
      scan.filtered.isEmpty) = true := traces
    rw [if_neg tracesToo]
    obtain ⟨ray, traced, member⟩ := List.mem_flatMap.mp missed
    exact List.mem_flatMap.mpr ⟨ray, rays ray traced, member⟩

/-- What more rays do not see, fewer rays do not see. -/
theorem evidence_eq_none_of_rays {scan : Scan K}
    (rays : ∀ ray ∈ tracedRays cfg scan, ray ∈ tracedRays (cfg.withRayStride stride positive) scan)
    (unseen : evidence (cfg.withRayStride stride positive) scan key = .none) :
    evidence cfg scan key = .none := by
  have free : key ∉ occupiedThisScan cfg scan := by
    intro occupied
    rw [← occupiedThisScan_withRayStride cfg stride positive] at occupied
    have isHit := evidence_eq_hit_iff.mpr occupied
    rw [unseen] at isHit
    cases isHit
  have unmissed : key ∉ missedKeys cfg scan := by
    intro missed
    have missedToo : key ∈ missedKeys (cfg.withRayStride stride positive) scan :=
      missedKeys_withRayStride rays missed
    have isMissed := evidence_eq_miss_iff.mpr missedToo
    rw [unseen] at isMissed
    cases isMissed
  rw [evidence, if_neg free, if_neg unmissed]

omit [LinearOrder K] [FloorRing K] in
/-- No entry that the next scan may hit carries its number. -/
theorem MarkersPast.unmarkedHit (markers : MarkersPast left)
    (room : left.scanSequence.toNat + 1 < 2 ^ 64 - 1) (generation : UInt64) :
    ((left.temporalVoxels.lookup key).getD { generation := generation }).lastHitScan ≠
      left.scanSequence + 1 := by
  cases found : left.temporalVoxels.lookup key with
  | none => exact unmarked_ne_nextScan room
  | some state => exact (markers key state found).1.ne_nextScan room

omit [FloorRing K] in
/-- The entries that a hit finds or creates. -/
theorem Paired.supports (paired : Paired key left right)
    (creation : right.temporalVoxels.lookup key = none →
      ∀ state ∈ left.temporalVoxels.lookup key, 0 ≤ state.logOdds)
    (leftFresh rightFresh : UInt64) :
    Supports ((left.temporalVoxels.lookup key).getD { generation := leftFresh })
      ((right.temporalVoxels.lookup key).getD { generation := rightFresh }) := by
  cases rightFound : right.temporalVoxels.lookup key with
  | none =>
      apply supports_fresh
      cases leftFound : left.temporalVoxels.lookup key with
      | none => exact le_rfl
      | some strong => exact creation rightFound strong leftFound
  | some weak =>
      obtain ⟨strong, present, dominates⟩ := paired.dominated weak rightFound
      rw [present]
      exact dominates.toSupports

variable [IsStrictOrderedRing K]

omit [FloorRing K] in
/-- A hit leaves the entry of the second node dominated. -/
theorem Paired.dominates_hit (paired : Paired key left right) {stamp : Time}
    (room : left.scanSequence.toNat + 1 < 2 ^ 64 - 1)
    (creation : right.temporalVoxels.lookup key = none →
      ∀ state ∈ left.temporalVoxels.lookup key, 0 ≤ state.logOdds)
    (hitRoom : ∀ state, left.temporalVoxels.lookup key = some state →
      state.hitScans.toNat + 1 < 2 ^ 32 ∧ state.firstHit ≤ stamp)
    (leftFresh rightFresh : UInt64) :
    Dominates
      (((left.temporalVoxels.lookup key).getD { generation := leftFresh }).hit cfg
        (left.scanSequence + 1) stamp)
      (((right.temporalVoxels.lookup key).getD { generation := rightFresh }).hit cfg
        (left.scanSequence + 1) stamp) := by
  have rightUnmarked : ((right.temporalVoxels.lookup key).getD
      { generation := rightFresh }).lastHitScan ≠ left.scanSequence + 1 := by
    rw [paired.scanSequence] at room ⊢
    exact paired.rightMarkers.unmarkedHit room rightFresh
  have counts : ((left.temporalVoxels.lookup key).getD
        { generation := leftFresh }).hitScans.toNat + 1 < 2 ^ 32 ∧
      ((left.temporalVoxels.lookup key).getD { generation := leftFresh }).firstHit ≤ stamp := by
    cases found : left.temporalVoxels.lookup key with
    | none => exact ⟨show 0 + 1 < 2 ^ 32 by norm_num, Nat.zero_le _⟩
    | some state => exact hitRoom state found
  exact (paired.supports creation leftFresh rightFresh).hit
    (paired.leftMarkers.unmarkedHit room leftFresh) rightUnmarked counts.1 counts.2

/-- A miss that the second node takes leaves its entry dominated, whether or not the
first node takes it too. -/
theorem Paired.dominates_miss (paired : Paired key left right) {scan : Scan K}
    (room : left.scanSequence.toNat + 1 < 2 ^ 64 - 1)
    (free : key ∉ occupiedThisScan cfg scan) {old weak : OccupancyVoxelState K}
    (rightFound : right.temporalVoxels.lookup key = some old) (saturated : old.Saturated)
    (survives : old.miss cfg (left.scanSequence + 1) scan.header.stamp = some weak)
    (generation : UInt64) :
    ∃ strong, (evidence cfg scan key).apply cfg (left.scanSequence + 1) scan.header.stamp
        generation (left.temporalVoxels.lookup key) = some strong ∧ Dominates strong weak := by
  obtain ⟨strong, leftFound, dominates⟩ := paired.dominated old rightFound
  rw [leftFound]
  by_cases missed : key ∈ missedKeys cfg scan
  · have strongUnmarked := (paired.leftMarkers key strong leftFound).2.ne_nextScan room
    have weakUnmarked : old.lastMissScan ≠ left.scanSequence + 1 := by
      rw [paired.scanSequence] at room ⊢
      exact (paired.rightMarkers key old rightFound).2.ne_nextScan room
    rw [evidence_eq_miss_iff.mpr missed]
    exact dominates.miss strongUnmarked weakUnmarked survives
  · have unseen : evidence cfg scan key = .none := by
      rw [evidence, if_neg free, if_neg missed]
    rw [unseen]
    refine ⟨strong, rfl, ?_⟩
    rcases OccupancyVoxelState.miss_eq_some survives with rfl | rfl
    · exact dominates
    · exact dominates.lower_weak saturated _ _ _

/-- Before the sweep, whatever the second node holds is dominated by what the first
one holds. -/
theorem Paired.dominated_absorbScan (enabled : cfg.dynamicFilterEnable = true)
    (paired : Paired key left right) {scan : Scan K}
    (room : left.scanSequence.toNat + 1 < 2 ^ 64 - 1)
    (comparable : ComparableScan cfg (cfg.withRayStride stride positive) key left right scan)
    (hitRoom : key ∈ occupiedThisScan cfg scan → ∀ state,
      left.temporalVoxels.lookup key = some state →
        state.hitScans.toNat + 1 < 2 ^ 32 ∧ state.firstHit ≤ scan.header.stamp)
    (saturated : ∀ state, right.temporalVoxels.lookup key = some state → state.Saturated)
    {weak : OccupancyVoxelState K}
    (found : (absorbScan (cfg.withRayStride stride positive) right scan).temporalVoxels.lookup key =
      some weak) :
    ∃ strong, (absorbScan cfg left scan).temporalVoxels.lookup key = some strong ∧
      Dominates strong weak := by
  have enabledToo : (cfg.withRayStride stride positive).dynamicFilterEnable = true := enabled
  obtain ⟨leftFresh, leftAbsorbed⟩ := lookup_absorbScan enabled left scan key
  obtain ⟨rightFresh, rightAbsorbed⟩ := lookup_absorbScan enabledToo right scan key
  rw [leftAbsorbed]
  rw [rightAbsorbed, ← paired.scanSequence] at found
  cases isEvidence : evidence (cfg.withRayStride stride positive) scan key with
  | hit =>
      have occupied := evidence_eq_hit_iff.mp isEvidence
      rw [occupiedThisScan_withRayStride] at occupied
      rw [isEvidence] at found
      obtain rfl := Option.some.inj found
      rw [evidence_eq_hit_iff.mpr occupied, hit_withRayStride]
      exact ⟨_, rfl, paired.dominates_hit room (comparable.creation occupied) (hitRoom occupied)
        leftFresh rightFresh⟩
  | miss =>
      rw [isEvidence] at found
      obtain ⟨old, rightFound, survives⟩ := Option.bind_eq_some_iff.mp found
      have free := not_occupied_of_mem_missedKeys (evidence_eq_miss_iff.mp isEvidence)
      rw [occupiedThisScan_withRayStride] at free
      rw [miss_withRayStride] at survives
      exact paired.dominates_miss room free rightFound (saturated old rightFound) survives leftFresh
  | none =>
      rw [isEvidence] at found
      obtain ⟨strong, leftFound, dominates⟩ := paired.dominated weak found
      rw [evidence_eq_none_of_rays comparable.rays isEvidence, leftFound]
      exact ⟨strong, rfl, dominates⟩

/-- A comparable scan keeps the two nodes paired. -/
theorem Paired.processScan (enabled : cfg.dynamicFilterEnable = true)
    (paired : Paired key left right) {scan : Scan K}
    (room : left.scanSequence.toNat + 1 < 2 ^ 64 - 1)
    (comparable : ComparableScan cfg (cfg.withRayStride stride positive) key left right scan)
    (hitRoom : key ∈ occupiedThisScan cfg scan → ∀ state,
      left.temporalVoxels.lookup key = some state →
        state.hitScans.toNat + 1 < 2 ^ 32 ∧ state.firstHit ≤ scan.header.stamp)
    (saturated : ∀ state, right.temporalVoxels.lookup key = some state → state.Saturated) :
    Paired key (processScan cfg left scan)
      (processScan (cfg.withRayStride stride positive) right scan) := by
  have enabledToo : (cfg.withRayStride stride positive).dynamicFilterEnable = true := enabled
  obtain ⟨leftLatest, leftHave⟩ := processScan_odometry cfg left scan
  obtain ⟨rightLatest, rightHave⟩ :=
    processScan_odometry (cfg.withRayStride stride positive) right scan
  constructor
  · rw [leftLatest, rightLatest, paired.latestOdom]
  · rw [leftHave, rightHave, paired.haveOdom]
  · rw [processScan_scanSequence, processScan_scanSequence, paired.scanSequence]
  · exact paired.leftMarkers.processScan enabled scan room
  · rw [paired.scanSequence] at room
    exact paired.rightMarkers.processScan enabledToo scan room
  · intro weak found
    have kept := found
    rw [ScoutStack.processScan, lookup_maybeCleanup, Option.filter_eq_some_iff] at found
    obtain ⟨strong, absorbed, dominates⟩ :=
      paired.dominated_absorbScan enabled room comparable hitRoom saturated found.1
    refine ⟨strong, ?_, dominates⟩
    rw [ScoutStack.processScan, lookup_maybeCleanup, absorbed]
    apply Option.filter_some_pos
    cases fate : swept cfg left scan strong with
    | true =>
        have gone := comparable.expiry strong absorbed fate
        rw [gone] at kept
        cases kept
    | false =>
        rw [swept, sweeps] at fate
        rw [fate]
        rfl

omit [FloorRing K] [IsStrictOrderedRing K] in
/-- A message that one node accepts, or rejects, is treated alike by the other. -/
theorem Paired.acceptScan (paired : Paired key left right) (msg : PointCloud2 K) :
    ScoutStack.acceptScan (cfg.withRayStride stride positive) right msg =
      ScoutStack.acceptScan cfg left msg := by
  rw [acceptScan_withRayStride]
  exact (acceptScan_congr cfg paired.latestOdom paired.haveOdom msg).symm

omit [IsStrictOrderedRing K] in
/-- Apart from scans, every callback keeps the two nodes paired. -/
theorem Paired.step (paired : Paired key left right) {callback : Callback K}
    (scanned : ∀ scan ∈ acceptedScan cfg left callback,
      Paired key (ScoutStack.processScan cfg left scan)
        (ScoutStack.processScan (cfg.withRayStride stride positive) right scan)) :
    Paired key (ScoutStack.step cfg left callback)
      (ScoutStack.step (cfg.withRayStride stride positive) right callback) := by
  cases builds : callback.buildsMap with
  | true =>
      obtain ⟨_, _, leftBuilt⟩ := step_of_buildsMap cfg left builds
      obtain ⟨_, _, rightBuilt⟩ :=
        step_of_buildsMap (cfg.withRayStride stride positive) right builds
      rw [leftBuilt, rightBuilt]
      exact { paired with }
  | false =>
      cases callback with
      | odometry msg =>
          rw [step_odometry, step_odometry]
          exact { paired with latestOdom := rfl, haveOdom := rfl }
      | cloud msg =>
          cases accepted : ScoutStack.acceptScan cfg left msg with
          | none =>
              rw [step_cloud_of_none accepted,
                step_cloud_of_none ((paired.acceptScan msg).trans accepted)]
              exact paired
          | some scan =>
              rw [step_cloud_of_some accepted,
                step_cloud_of_some ((paired.acceptScan msg).trans accepted)]
              apply scanned
              rw [acceptedScan_cloud_of_some accepted]
              exact List.mem_singleton_self scan
      | publishMapTimer | saveMap | autosaveTimer => cases builds
      | resetMap =>
          have noMarkers : ∀ mapper : PointcloudMapper K, MarkersPast mapper.resetMap := by
            intro mapper other state found
            cases found
          rw [step_resetMap, step_resetMap]
          exact ⟨paired.latestOdom, paired.haveOdom, rfl, noMarkers _, noMarkers _,
            fun _ found => by cases found⟩

/-- The two nodes stay paired along comparable callbacks. -/
theorem paired_run (enabled : cfg.dynamicFilterEnable = true) {callbacks : List (Callback K)}
    (few : FewScans cfg callbacks)
    (ordered : Chronological (scansFrom cfg {} callbacks))
    (fewHits : hitCount cfg key (scansFrom cfg {} callbacks) < 2 ^ 32)
    (comparable : Machine.Along (step cfg) (step (cfg.withRayStride stride positive))
      (Comparable cfg (cfg.withRayStride stride positive) key) {} {} callbacks) :
    Paired key (run cfg callbacks) (run (cfg.withRayStride stride positive) callbacks) := by
  have enabledToo : (cfg.withRayStride stride positive).dynamicFilterEnable = true := enabled
  induction callbacks using List.reverseRecOn with
  | nil =>
      have noMarkers : MarkersPast ({} : PointcloudMapper K) := by
        intro other state found
        cases found
      rw [run_nil, run_nil]
      exact ⟨rfl, rfl, rfl, noMarkers, noMarkers, fun _ found => by cases found⟩
  | append_singleton callbacks callback ih =>
      rw [Machine.along_append] at comparable
      obtain ⟨comparableBefore, comparableLast, -⟩ := comparable
      change Comparable cfg (cfg.withRayStride stride positive) key (run cfg callbacks)
        (run (cfg.withRayStride stride positive) callbacks) callback at comparableLast
      have extended : scansFrom cfg {} (callbacks ++ [callback]) =
          scansFrom cfg {} callbacks ++ acceptedScan cfg (run cfg callbacks) callback := by
        rw [scansFrom_append, scansFrom_cons, scansFrom_nil, List.append_nil]
        rfl
      rw [extended] at ordered fewHits
      have paired := ih few.of_append (List.pairwise_append.mp ordered).1
        ((hitCount_le_of_front cfg key (List.prefix_append _ _)).trans_lt fewHits) comparableBefore
      have counted := counted_run few.of_append
      rw [run_append, run_append, runFrom_cons, runFrom_cons, runFrom_nil, runFrom_nil]
      apply paired.step
      intro scan member
      obtain ⟨msg, rfl, accepted⟩ := exists_msg_of_mem_acceptedScan member
      rw [acceptedScan_cloud_of_some accepted] at ordered fewHits
      apply paired.processScan enabled (counted.room few accepted) (comparableLast scan member)
      · intro occupied state found
        have recorded := recorded_run enabled found
        have counts := recorded.hitScans
        rw [hitCount_concat_of_mem occupied] at fewHits
        exact ⟨by omega, recorded.firstHit.le ordered⟩
      · intro state found
        exact (recorded_run enabledToo found).saturated

/-- Seeing through a voxel more often does not confirm it, as long as the misses do
not save it from an expiry and do not clear it to a better start. -/
theorem staticAt_of_fewer_rays (enabled : cfg.dynamicFilterEnable = true)
    {callbacks : List (Callback K)} (few : FewScans cfg callbacks)
    (ordered : Chronological (scansFrom cfg {} callbacks))
    (fewHits : hitCount cfg key (scansFrom cfg {} callbacks) < 2 ^ 32)
    (comparable : Machine.Along (step cfg) (step (cfg.withRayStride stride positive))
      (Comparable cfg (cfg.withRayStride stride positive) key) {} {} callbacks)
    (static : (run (cfg.withRayStride stride positive) callbacks).staticAt
      (cfg.withRayStride stride positive) key = true) :
    (run cfg callbacks).staticAt cfg key = true := by
  have paired := paired_run enabled few ordered fewHits comparable
  rw [PointcloudMapper.staticAt_iff] at static ⊢
  rw [isStatic_withRayStride] at static
  obtain ⟨weak, found, confirmed⟩ := static
  obtain ⟨strong, present, dominates⟩ := paired.dominated weak found
  exact ⟨strong, present, dominates.isStatic enabled confirmed⟩

end Comparison

/-! ## Two histories -/

section Histories

/-- A node that traces every other ray. -/
def sparseConfig : Config ℚ := unitConfig.withRayStride 2 Nat.two_pos

/-- The same node tracing every ray. -/
def denseConfig : Config ℚ := sparseConfig.withRayStride 1 Nat.one_pos

theorem staticAt_of_fewer_rays_unit :
    (run sparseConfig (watching [(1, [insideVoxel]), (2, [elsewhere, behindVoxel]),
      (3, [insideVoxel]), (4, [insideVoxel])])).staticAt sparseConfig ⟨2, 0, 0⟩ = true := by
  have static : (run denseConfig (watching [(1, [insideVoxel]), (2, [elsewhere, behindVoxel]),
      (3, [insideVoxel]), (4, [insideVoxel])])).staticAt denseConfig ⟨2, 0, 0⟩ = true := by
    decide +kernel
  refine staticAt_of_fewer_rays rfl (fewScans_of_length (by decide)) ?_ ?_ ?_ static
  · decide +kernel
  · decide +kernel
  · decide +kernel

/-- Two runs over the same history that differ only in which rays are traced, in
every scan more in the second run, with stamps in order and room in both tables. -/
def DifferInRays (fewer more : Config ℚ) (callbacks : List (Callback ℚ)) : Prop :=
  Chronological (scansFrom fewer {} callbacks) ∧
    (∀ scan ∈ scansFrom fewer {} callbacks, ∀ ray ∈ tracedRays fewer scan,
      ray ∈ tracedRays more scan) ∧
    ∀ moment ∈ callbacks.inits,
      (run fewer moment).temporalVoxels.size ≤ fewer.maxVoxels ∧
        (run more moment).temporalVoxels.size ≤ more.maxVoxels

instance (fewer more : Config ℚ) (callbacks : List (Callback ℚ)) :
    Decidable (DifferInRays fewer more callbacks) :=
  inferInstanceAs (Decidable (_ ∧ _ ∧ _))

/-- A candidate is missed by the dense node at three seconds and not hit again
before six. -/
def savedByMiss : List (Callback ℚ) :=
  watching [(10 ^ 9, [insideVoxel]), (3 * 10 ^ 9, [elsewhere, behindVoxel]),
    (5 * 10 ^ 9, [elsewhere]), (6 * 10 ^ 9, [insideVoxel])]

/-- The sparse node, clearing at minus two and confirming at two. -/
def lowConfig : Config ℚ :=
  { sparseConfig with clearingLogOdds := -2, occupiedLogOdds := 2 }

/-- Two misses by both nodes, one by the dense node alone, and two hits. -/
def clearedAndHit : List (Callback ℚ) :=
  watching [(1, [insideVoxel]), (2, [behindVoxel]), (3, [behindVoxel]),
    (4, [elsewhere, behindVoxel]), (5, [insideVoxel]), (6, [insideVoxel])]

/-- More rays can confirm a voxel in two ways: a miss that keeps a candidate from
expiring, and a clearing that lets it start again from zero. -/
theorem staticAt_of_more_rays :
    (DifferInRays sparseConfig denseConfig savedByMiss ∧
      (run denseConfig savedByMiss).staticAt denseConfig ⟨2, 0, 0⟩ = true ∧
        (run sparseConfig savedByMiss).staticAt sparseConfig ⟨2, 0, 0⟩ = false) ∧
    DifferInRays lowConfig (lowConfig.withRayStride 1 Nat.one_pos) clearedAndHit ∧
      (run (lowConfig.withRayStride 1 Nat.one_pos) clearedAndHit).staticAt
          (lowConfig.withRayStride 1 Nat.one_pos) ⟨2, 0, 0⟩ = true ∧
        (run lowConfig clearedAndHit).staticAt lowConfig ⟨2, 0, 0⟩ = false := by
  refine ⟨⟨?_, ?_, ?_⟩, ?_, ?_, ?_⟩
  · decide +kernel
  · decide +kernel
  · decide +kernel
  · decide +kernel
  · decide +kernel
  · decide +kernel

end Histories

end ScoutStack
