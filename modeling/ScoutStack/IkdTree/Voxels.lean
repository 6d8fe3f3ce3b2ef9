import ScoutStack.IkdTree.Map

/-!
# Downsampling

`Add_Points` with downsampling leaves one point in each voxel that it adds to: the nearest
to the middle of the voxel among what was there and what came.
-/

namespace ScoutStack.IkdTree

variable {K α : Type*} [Field K] [LinearOrder K] [FloorRing K] (settings : Settings K α)

/-- Index of the voxel of a point. -/
def voxelKey (point : PointType K α) (axis : Axis) : ℤ :=
  ⌊point.coord axis / settings.downsampleSize⌋

/-- The points of a voxel. -/
def inVoxel (key : Axis → ℤ) (points : Multiset (PointType K α)) : Multiset (PointType K α) :=
  points.filter fun point => voxelKey settings point = key

/-- Distance of a point to the middle of its voxel. -/
def midDist (point : PointType K α) : K :=
  calcDist point ((boxOfPoint settings point).midPoint point.fields)

/-- A nearest point to the middle among points of one voxel. -/
def IsNearest (best : PointType K α) (points : Multiset (PointType K α)) : Prop :=
  best ∈ points ∧ ∀ other ∈ points, midDist settings best ≤ midDist settings other

/-- What downsampling makes of a map: a voxel that gets points keeps a nearest one of the old
and the new, the others stay. -/
def Downsampled (added before after : Multiset (PointType K α)) : Prop :=
  ∀ key, (inVoxel settings key added = 0 →
      inVoxel settings key after = inVoxel settings key before) ∧
    (inVoxel settings key added ≠ 0 → ∃ best,
      IsNearest settings best (inVoxel settings key (added + before)) ∧
        inVoxel settings key after = {best})

@[simp] theorem inVoxel_zero (key : Axis → ℤ) : inVoxel settings key 0 = 0 := rfl

@[simp] theorem inVoxel_add (key : Axis → ℤ) (a b : Multiset (PointType K α)) :
    inVoxel settings key (a + b) = inVoxel settings key a + inVoxel settings key b :=
  Multiset.filter_add _ _ _

theorem inVoxel_singleton (point : PointType K α) :
    inVoxel settings (voxelKey settings point) {point} = {point} := by
  rw [inVoxel, Multiset.filter_singleton, if_pos rfl]

theorem inVoxel_singleton_of_ne {key : Axis → ℤ} {point : PointType K α}
    (other : voxelKey settings point ≠ key) : inVoxel settings key {point} = 0 := by
  rw [inVoxel, Multiset.filter_singleton, if_neg other]
  rfl

theorem mem_inVoxel {key : Axis → ℤ} {points : Multiset (PointType K α)}
    {point : PointType K α} :
    point ∈ inVoxel settings key points ↔ point ∈ points ∧ voxelKey settings point = key :=
  Multiset.mem_filter

/-- Points of one voxel have one middle. -/
theorem calcDist_midPoint {point other : PointType K α}
    (same : voxelKey settings other = voxelKey settings point) :
    calcDist other ((boxOfPoint settings point).midPoint point.fields) =
      midDist settings other := by
  have floor : ∀ axis, ⌊other.coord axis / settings.downsampleSize⌋ =
      ⌊point.coord axis / settings.downsampleSize⌋ := fun axis => congrFun same axis
  simp only [midDist, calcDist, BoxPointType.midPoint, boxOfPoint, floor]

/-- One point added with downsampling replaces its voxel by a nearest point. -/
def Replaces (settings : Settings K α) (point : PointType K α)
    (before after : Multiset (PointType K α)) : Prop :=
  ∃ best, IsNearest settings best
      (point ::ₘ inVoxel settings (voxelKey settings point) before) ∧
    after = best ::ₘ before.filter fun other =>
      ¬voxelKey settings other = voxelKey settings point

section Several

variable {settings}

/-- What a replacement leaves in each voxel. -/
theorem Replaces.inVoxel_eq {point : PointType K α} {before after : Multiset (PointType K α)}
    (replaces : Replaces settings point before after) :
    (∀ key, voxelKey settings point ≠ key →
      inVoxel settings key after = inVoxel settings key before) ∧
    ∃ best, IsNearest settings best
        (inVoxel settings (voxelKey settings point) ({point} + before)) ∧
      inVoxel settings (voxelKey settings point) after = {best} := by
  obtain ⟨best, nearest, rfl⟩ := replaces
  have home : voxelKey settings best = voxelKey settings point := by
    rcases Multiset.mem_cons.mp nearest.1 with rfl | inside
    · rfl
    · exact ((mem_inVoxel settings).mp inside).2
  refine ⟨?_, best, ?_, ?_⟩
  · intro key other
    rw [← Multiset.singleton_add, inVoxel_add,
      inVoxel_singleton_of_ne settings (home ▸ other : voxelKey settings best ≠ key), zero_add,
      inVoxel, inVoxel, Multiset.filter_filter]
    refine Multiset.filter_congr fun stored _ => and_iff_left_of_imp ?_
    rintro rfl same
    exact other same.symm
  · rw [inVoxel_add, inVoxel_singleton, Multiset.singleton_add]
    exact nearest
  · rw [← Multiset.singleton_add, inVoxel_add, ← home, inVoxel_singleton, home, inVoxel,
      Multiset.filter_filter]
    rw [Multiset.filter_eq_nil.mpr fun stored _ both => both.2 both.1, add_zero]

/-- Adding no point changes nothing. -/
theorem downsampled_zero (points : Multiset (PointType K α)) :
    Downsampled settings 0 points points :=
  fun _ => ⟨fun _ => rfl, fun some_ => absurd rfl some_⟩

/-- One point after another. -/
theorem Replaces.cons {point : PointType K α} {added before between after : Multiset _}
    (first : Replaces settings point before between)
    (rest : Downsampled settings added between after) :
    Downsampled settings (point ::ₘ added) before after := by
  obtain ⟨others, best, nearest, voxel⟩ := first.inVoxel_eq
  intro key
  obtain ⟨untouched, touched⟩ := rest key
  rw [← Multiset.singleton_add]
  by_cases home : voxelKey settings point = key
  · subst home
    have some_ : inVoxel settings (voxelKey settings point) ({point} + added) ≠ 0 := by
      rw [inVoxel_add, inVoxel_singleton, Multiset.singleton_add]
      exact Multiset.cons_ne_zero
    refine ⟨fun none => absurd none some_, fun _ => ?_⟩
    by_cases none : inVoxel settings (voxelKey settings point) added = 0
    · refine ⟨best, ?_, (untouched none).trans voxel⟩
      rw [inVoxel_add, inVoxel_add, none, add_zero, ← inVoxel_add]
      exact nearest
    · obtain ⟨better, ⟨member, least⟩, single⟩ := touched none
      rw [inVoxel_add, voxel] at member least
      refine ⟨better, ⟨?_, fun other among => ?_⟩, single⟩
      · rw [add_right_comm, inVoxel_add]
        rcases Multiset.mem_add.mp member with new | old
        · exact Multiset.mem_add.mpr (.inr new)
        · rw [Multiset.mem_singleton.mp old]
          exact Multiset.mem_add.mpr (.inl nearest.1)
      · rw [add_right_comm, inVoxel_add] at among
        rcases Multiset.mem_add.mp among with old | new
        · exact (least best (Multiset.mem_add.mpr (.inr (Multiset.mem_singleton_self _)))).trans
            (nearest.2 other old)
        · exact least other (Multiset.mem_add.mpr (.inl new))
  · rw [inVoxel_add, inVoxel_singleton_of_ne settings home, zero_add]
    refine ⟨fun none => (untouched none).trans (others key home), fun some_ => ?_⟩
    obtain ⟨better, nearestBetter, single⟩ := touched some_
    refine ⟨better, ?_, single⟩
    rw [inVoxel_add, others key home] at nearestBetter
    rwa [inVoxel_add, inVoxel_add, inVoxel_singleton_of_ne settings home, zero_add]

end Several

section Ordered

variable [IsStrictOrderedRing K] {settings}

omit [FloorRing K] in
theorem samePoint_self (point : PointType K α) : samePoint point point = true := by
  have positive : (0 : K) < epss := by
    rw [epss]
    positivity
  simp [samePoint, positive]

/-- The box of a point is its voxel. -/
theorem contains_boxOfPoint (positive : 0 < settings.downsampleSize)
    (point other : PointType K α) :
    (boxOfPoint settings point).contains other = true ↔
      voxelKey settings other = voxelKey settings point := by
  rw [BoxPointType.contains, decide_eq_true_iff, funext_iff]
  apply forall_congr'
  intro axis
  rw [voxelKey, voxelKey, Int.floor_eq_iff, le_div_iff₀ positive, div_lt_iff₀ positive, add_mul,
    one_mul]
  rfl

theorem inBox_boxOfPoint (positive : 0 < settings.downsampleSize) (point : PointType K α)
    (points : Multiset (PointType K α)) :
    inBox (boxOfPoint settings point) points =
      inVoxel settings (voxelKey settings point) points :=
  Multiset.filter_congr fun other _ => contains_boxOfPoint positive point other

variable {map : KdTree K α}

omit [FloorRing K] in
/-- The condition of `Add_Points` fails only where the voxel holds one point, which stays. -/
theorem storage_of_kept {point : PointType K α} {storage : List (PointType K α)}
    {midPoint : PointType K α}
    (kept : ¬(storage.length > 1 ∨
      samePoint point (downsampleResult midPoint point storage) = true)) :
    storage = [downsampleResult midPoint point storage] := by
  obtain ⟨few, other⟩ := not_or.mp kept
  rcases List.mem_cons.mp (downsampleResult_spec midPoint storage point).1 with equal | member
  · rw [equal] at other
    exact absurd (samePoint_self point) other
  · have one : storage.length = 1 := by
      have filled := List.length_pos_of_mem member
      omega
    obtain ⟨stored, rfl⟩ := List.length_eq_one_iff.mp one
    rw [List.mem_singleton.mp member]

/-- The chosen point is a nearest one of the voxel. -/
theorem isNearest_downsampleResult (positive : 0 < settings.downsampleSize)
    (point : PointType K α) {storage : List (PointType K α)} {points : Multiset (PointType K α)}
    (stored : (storage : Multiset (PointType K α)) = inBox (boxOfPoint settings point) points) :
    IsNearest settings
      (downsampleResult ((boxOfPoint settings point).midPoint point.fields) point storage)
      (point ::ₘ inVoxel settings (voxelKey settings point) points) := by
  obtain ⟨member, least⟩ :=
    downsampleResult_spec ((boxOfPoint settings point).midPoint point.fields) storage point
  rw [← inBox_boxOfPoint positive, ← stored, Multiset.cons_coe]
  have voxel : ∀ other ∈ point :: storage,
      voxelKey settings other = voxelKey settings point := by
    intro other among
    rcases List.mem_cons.mp among with rfl | inside
    · rfl
    · rw [← Multiset.mem_coe, stored, inBox_boxOfPoint positive, mem_inVoxel] at inside
      exact inside.2
  refine ⟨member, fun other among => ?_⟩
  rw [← calcDist_midPoint settings (voxel _ member), ← calcDist_midPoint settings (voxel _ among)]
  exact least other among

/-- A point added with downsampling. -/
theorem KdTree.addPoint_downsample (positive : 0 < settings.downsampleSize)
    (valid : Valid map.rootNode) (some_ : map.rootNode ≠ .nullptr) (point : PointType K α)
    (before after : RebuildPtr) :
    ∃ added count, map.addPoint settings true point before after = some (added, count) ∧
      Valid added.rootNode ∧ added.rootNode ≠ .nullptr ∧
      Replaces settings point map.live added.live ∧ added.recorded ≤ map.recorded := by
  obtain ⟨validSearched, sameSearched⟩ :=
    valid.of_pushedDown (searchByRange_pushedDown (boxOfPoint settings point) map.rootNode)
  have stored := searchByRange_spec (boxOfPoint settings point) map.rootNode valid
  change _ = inBox _ map.live at stored
  have nearest := isNearest_downsampleResult positive point stored
  have split := inBox_add_offBox (boxOfPoint settings point) map.live
  rw [KdTree.addPoint, if_pos rfl]
  dsimp only
  generalize searchByRange (boxOfPoint settings point) map.rootNode = searched at *
  generalize resulted : downsampleResult _ point searched.2 = best at *
  have liveSearched : IkdTree.live searched.1 = map.live := by
    rw [IkdTree.live, sameSearched]
    rfl
  have recordedSearched : removed searched.1 = removed map.rootNode := by
    rw [removed, sameSearched]
    rfl
  have someSearched := ne_nullptr_of_slots sameSearched some_
  have off : (map.live.filter fun other => ¬voxelKey settings other = voxelKey settings point) =
      offBox (boxOfPoint settings point) map.live :=
    Multiset.filter_congr fun other _ => (contains_boxOfPoint positive point other).not.symm
  simp only [Replaces, off]
  split
  · have cleared : ∃ cleared : KdTree K α,
        (if searched.2.length > 0 then
          (KdTree.deleteByRange settings { map with rootNode := searched.1 } before
            (boxOfPoint settings point) true).1
        else { map with rootNode := searched.1 }) = cleared ∧
        Valid cleared.rootNode ∧ cleared.rootNode ≠ .nullptr ∧
        cleared.live = offBox (boxOfPoint settings point) map.live ∧
        cleared.recorded ≤ map.recorded := by
      have recordedSame : KdTree.recorded { map with rootNode := searched.1 } = map.recorded := by
        rw [KdTree.recorded, recordedSearched, KdTree.recorded]
      split
      · obtain ⟨valid', some', live', _, _, recorded'⟩ := KdTree.deleteByRange_spec settings
          { map with rootNode := searched.1 } validSearched before (boxOfPoint settings point) true
        refine ⟨_, rfl, valid', some' someSearched, live'.trans ?_, ?_⟩
        · rw [KdTree.live, liveSearched]
        · rw [← recordedSame]
          exact recorded' rfl
      · next none =>
          have nil : searched.2 = [] := List.length_eq_zero_iff.mp (by omega)
          rw [nil, Multiset.coe_nil] at stored
          rw [← stored, zero_add] at split
          exact ⟨_, rfl, validSearched, someSearched, liveSearched.trans split.symm,
            recordedSame.le⟩
    obtain ⟨cleared, equal, validCleared, someCleared, liveCleared, recordedCleared⟩ := cleared
    obtain ⟨added, done, valid', some', live', recorded'⟩ := KdTree.addByPoint_spec settings
      cleared validCleared someCleared (allowRoot before) after best
    rw [equal, done]
    refine ⟨added, 1, rfl, valid', some', ⟨best, nearest, ?_⟩, ?_⟩
    · rw [live', liveCleared]
    · rw [recorded']
      exact recordedCleared
  · next kept =>
      rw [← resulted] at kept
      have single := storage_of_kept kept
      rw [resulted] at single
      refine ⟨_, _, rfl, validSearched, someSearched, ⟨best, nearest, ?_⟩, ?_⟩
      · rw [single] at stored
        calc IkdTree.live searched.1 = inBox (boxOfPoint settings point) map.live +
              offBox (boxOfPoint settings point) map.live := liveSearched.trans split.symm
          _ = best ::ₘ offBox (boxOfPoint settings point) map.live := by
              rw [← stored]
              rfl
      · rw [KdTree.recorded, recordedSearched]
        exact le_refl _

/-! ## Several points -/

/-- `Add_Points` with downsampling. -/
theorem KdTree.addPoints_downsample (positive : 0 < settings.downsampleSize)
    (additions : List (Addition K α)) :
    ∀ {map : KdTree K α}, Valid map.rootNode → map.rootNode ≠ .nullptr →
      ∃ added count, map.addPoints settings true additions = some (added, count) ∧
        Valid added.rootNode ∧ added.rootNode ≠ .nullptr ∧
        Downsampled settings (additions.map Addition.point : List _) map.live added.live ∧
        added.recorded ≤ map.recorded := by
  induction additions with
  | nil =>
      intro map valid some_
      exact ⟨map, 0, rfl, valid, some_, downsampled_zero _, le_refl _⟩
  | cons addition additions ih =>
      intro map valid some_
      obtain ⟨between, first, done, valid', some', replaces, recorded⟩ :=
        KdTree.addPoint_downsample positive valid some_ addition.point addition.before
          addition.after
      obtain ⟨added, rest, doneRest, valid'', some'', downsampled, recorded'⟩ := ih valid' some'
      refine ⟨added, first + rest, ?_, valid'', some'', replaces.cons downsampled,
        recorded'.trans recorded⟩
      rw [KdTree.addPoints, done, Option.bind_some, doneRest, Option.map_some]

end Ordered

end ScoutStack.IkdTree
