import ScoutStack.IkdTree.Runs
import ScoutStack.FastLio.LocalMap

/-!
# The map over the scans

What the main loop of `laserMapping.cpp` does with `ikdtree` for a scan that has points:
the local map moves, the first scan with enough features builds the tree, and every other
one searches it and adds its features.  The filter only supplies the positions, and the
rebuild thread of the tree swaps nothing in.  A scan without points does nothing.
-/

namespace ScoutStack.FastLio

open IkdTree

variable {K α : Type*}

/-- `NUM_MATCH_POINTS`. -/
def numMatchPoints : ℕ := 5

/-- A feature in the world frame: by the propagated state, as it was last searched for, and
by the updated state. -/
structure Feature (K α : Type*) where
  propagated : PointType K α
  searched : PointType K α
  updated : PointType K α

/-- A scan as it reaches the map.  `rounds` are the searches of the iterations before the
last, and the calls find `Rebuild_Ptr` as the functions say. -/
structure Scan (K α : Type*) where
  posLid : Axis → K
  flgEKFInited : Bool
  features : List (Feature K α)
  rounds : List (PointType K α)
  onDelete : ℕ → RebuildPtr
  onAdd : ℕ → RebuildPtr × RebuildPtr
  onPlain : ℕ → RebuildPtr × RebuildPtr

/-- The globals of `laserMapping.cpp` that the map consists of. -/
structure Mapping (K α : Type*) where
  localMapPoints : Option (BoxPointType K)
  ikdtree : KdTree K α

/-- Before the first scan. -/
def Mapping.start : Mapping K α where
  localMapPoints := none
  ikdtree := KdTree.new

/-- Where `map_incremental` puts a feature. -/
inductive Destination where
  | pointToAdd
  | pointNoNeedDownsample
  | dropped
  deriving DecidableEq

section Model

variable [Field K] [LinearOrder K] [FloorRing K] (settings : Settings K α)

/-- `mid_point` in `map_incremental`. -/
def midPoint (point : PointType K α) : PointType K α where
  x := ⌊point.x / settings.downsampleSize⌋ * settings.downsampleSize +
    1 / 2 * settings.downsampleSize
  y := ⌊point.y / settings.downsampleSize⌋ * settings.downsampleSize +
    1 / 2 * settings.downsampleSize
  z := ⌊point.z / settings.downsampleSize⌋ * settings.downsampleSize +
    1 / 2 * settings.downsampleSize
  fields := point.fields

/-- What `map_incremental` decides for one feature.  The tree downsamples by
`filter_size_map_min` too. -/
def destination (flgEKFInited : Bool) (pointsNear : List (PointType K α))
    (point : PointType K α) : Destination :=
  match pointsNear with
  | [] => .pointToAdd
  | nearest :: _ =>
      if flgEKFInited then
        let middle := midPoint settings point
        if |nearest.x - middle.x| > 1 / 2 * settings.downsampleSize ∧
            |nearest.y - middle.y| > 1 / 2 * settings.downsampleSize ∧
            |nearest.z - middle.z| > 1 / 2 * settings.downsampleSize then
          .pointNoNeedDownsample
        else if numMatchPoints ≤ pointsNear.length ∧ ∃ near ∈ pointsNear.take numMatchPoints,
            calcDist near middle < calcDist point middle then
          .dropped
        else .pointToAdd
      else .pointToAdd

/-- `Nearest_Points` after a round of searches, with the tree. -/
def searchAll : KdTree K α → List (PointType K α) → KdTree K α × List (List (PointType K α))
  | map, [] => (map, [])
  | map, point :: points =>
      let found := nearestSearch numMatchPoints point ⊤ map.rootNode
      let rest := searchAll { map with rootNode := found.1 } points
      (rest.1, found.2.map PointTypeCmp.point :: rest.2)

/-- The features that go to one destination, in order. -/
def destined (scan : Scan K α) (nearestPoints : List (List (PointType K α))) (goal : Destination) :
    List (PointType K α) :=
  ((scan.features.zip nearestPoints).filter fun entry =>
    destination settings scan.flgEKFInited entry.2 entry.1.updated = goal).map
      fun entry => entry.1.updated

/-- Points to add, with the calls that add them. -/
def additions (meets : ℕ → RebuildPtr × RebuildPtr) (points : List (PointType K α)) :
    List (Addition K α) :=
  points.mapIdx fun index point => ⟨point, (meets index).1, (meets index).2⟩

/-- The calls of `lasermap_fov_segment`. -/
def fovCommands (scan : Scan K α) : Option (List (BoxPointType K)) → List (Command K α)
  | none => []
  | some boxes => [.acquireRemovedPoints,
      .deletePointBoxes (boxes.mapIdx fun index box => (box, scan.onDelete index))]

/-- The calls of `map_incremental`. -/
def mapIncremental (scan : Scan K α) (nearestPoints : List (List (PointType K α))) :
    List (Command K α) :=
  [.addPoints true (additions scan.onAdd (destined settings scan nearestPoints .pointToAdd)),
    .addPoints false
      (additions scan.onPlain (destined settings scan nearestPoints .pointNoNeedDownsample))]

/-- The tree after the rest of a scan. -/
def feed (scan : Scan K α) (map : KdTree K α) : Option (KdTree K α) :=
  if map.rootNode.isNull then
    if scan.features.length > 5 then
      map.run settings [.build (scan.features.map Feature.propagated)]
    else some map
  else if scan.features.length < 5 then some map
  else
    let searched := searchAll (searchAll map scan.rounds).1 (scan.features.map Feature.searched)
    searched.1.run settings (mapIncremental settings scan searched.2)

variable (params : LocalMapParams K)

/-- One scan. -/
def Mapping.step (mapping : Mapping K α) (scan : Scan K α) : Option (Mapping K α) :=
  let segment := lasermapFovSegment params mapping.localMapPoints scan.posLid
  ((mapping.ikdtree.run settings (fovCommands scan segment.2)).bind (feed settings scan)).map
    fun map => ⟨some segment.1, map⟩

/-- Several scans that have points. -/
def Mapping.run : Mapping K α → List (Scan K α) → Option (Mapping K α)
  | mapping, [] => some mapping
  | mapping, scan :: scans => (mapping.step settings params scan).bind fun next => next.run scans

end Model

/-! ## One scan -/

section Searches

variable [Field K] [LinearOrder K]

/-- Searches only push down. -/
theorem searchAll_pushedDown (points : List (PointType K α)) : ∀ map : KdTree K α,
    PushedDown map.rootNode (searchAll map points).1.rootNode ∧
      (searchAll map points).1.pointsDeleted = map.pointsDeleted := by
  induction points with
  | nil => exact fun map => ⟨.refl _, rfl⟩
  | cons point points ih =>
      intro map
      obtain ⟨below, same⟩ := ih { map with
        rootNode := (nearestSearch numMatchPoints point ⊤ map.rootNode).1 }
      exact ⟨(nearestSearch_pushedDown numMatchPoints point ⊤ map.rootNode).trans below, same⟩

/-- Searches leave the map as it is. -/
theorem searchAll_spec (points : List (PointType K α)) {map : KdTree K α}
    (valid : Valid map.rootNode) :
    Valid (searchAll map points).1.rootNode ∧ (searchAll map points).1.live = map.live ∧
      (map.rootNode ≠ .nullptr → (searchAll map points).1.rootNode ≠ .nullptr) := by
  obtain ⟨pushed, _⟩ := searchAll_pushedDown points map
  obtain ⟨valid', same⟩ := valid.of_pushedDown pushed
  exact ⟨valid', by rw [KdTree.live, KdTree.live, live, live, same], ne_nullptr_of_slots same⟩

/-- What a search for the nearest points returns among the points of a map. -/
structure Finds (kept : Multiset (PointType K α)) (point : PointType K α)
    (near : List (PointType K α)) : Prop where
  searched : ∃ tree, Valid tree ∧ live tree = kept ∧
    near = (nearestSearch numMatchPoints point ⊤ tree).2.map PointTypeCmp.point
  nearest : Separated { dist | ∃ other ∈ kept, calcDist point other = dist } →
    (near : Multiset (PointType K α)) ≤ kept ∧
      near.map (calcDist point) =
        ((kept.map (calcDist point)).sort (· ≤ ·)).take numMatchPoints

end Searches

section Found

variable [Field K] [LinearOrder K] [IsStrictOrderedRing K]

omit [IsStrictOrderedRing K] in
/-- Where there is a point, the first one found is among them. -/
theorem Finds.exists_cons {kept : Multiset (PointType K α)} {point : PointType K α}
    {near : List (PointType K α)} (finds : Finds kept point near)
    (separated : Separated { dist | ∃ other ∈ kept, calcDist point other = dist })
    (some_ : kept ≠ 0) : ∃ head tail, near = head :: tail ∧ head ∈ kept := by
  obtain ⟨among, dists⟩ := finds.nearest separated
  cases near with
  | nil =>
      have none := congrArg List.length dists
      have filled := Multiset.card_pos.mpr some_
      simp only [List.map_nil, List.length_nil, List.length_take, Multiset.length_sort,
        Multiset.card_map, numMatchPoints] at none
      omega
  | cons head tail => exact ⟨head, tail, rfl, Multiset.mem_of_le among List.mem_cons_self⟩

omit [IsStrictOrderedRing K] in
/-- Every live point may be found. -/
theorem candidates_top (point : PointType K α) (points : Multiset (PointType K α)) :
    candidates point ⊤ points = points.map fun other => ⟨other, calcDist point other⟩ := by
  have unbounded : maxDistSqr (⊤ : WithTop K) = ⊤ := rfl
  rw [candidates, unbounded, Multiset.filter_eq_self.mpr fun _ _ => le_top]

theorem finds_nearestSearch {tree : Tree K α} (valid : Valid tree) (point : PointType K α) :
    Finds (live tree) point
      ((nearestSearch numMatchPoints point ⊤ tree).2.map PointTypeCmp.point) where
  searched := ⟨tree, valid, rfl, rfl⟩
  nearest separated := by
    obtain ⟨among, sorted⟩ : _ ≤ candidates point ⊤ (live tree) ∧ _ :=
      nearestSearch_spec valid (by decide : 0 < numMatchPoints) separated
    rw [candidates_top] at among sorted
    constructor
    · have points := Multiset.map_le_map (f := PointTypeCmp.point) among
      simpa [Multiset.map_map, Function.comp_def] using points
    · rw [Multiset.map_map] at sorted
      rw [List.map_map]
      refine Eq.trans (List.map_congr_left fun entry member => ?_) sorted
      obtain ⟨other, _, rfl⟩ := Multiset.mem_map.mp (Multiset.mem_of_le among member)
      rfl

theorem searchAll_finds (points : List (PointType K α)) : ∀ {map : KdTree K α},
    Valid map.rootNode → List.Forall₂ (Finds map.live) points (searchAll map points).2 := by
  induction points with
  | nil => exact fun _ => .nil
  | cons point points ih =>
      intro map valid
      obtain ⟨valid', same⟩ :=
        valid.of_pushedDown (nearestSearch_pushedDown numMatchPoints point ⊤ map.rootNode)
      let searched : KdTree K α :=
        { map with rootNode := (nearestSearch numMatchPoints point ⊤ map.rootNode).1 }
      have rest : List.Forall₂ (Finds searched.live) points (searchAll searched points).2 :=
        ih valid'
      refine .cons (finds_nearestSearch valid point) ?_
      rwa [(map.of_slots same).1] at rest

end Found

section Step

variable [Field K] [LinearOrder K] [FloorRing K] {settings : Settings K α}
  {params : LocalMapParams K} {mapping : Mapping K α}

omit [Field K] [LinearOrder K] [FloorRing K] in
theorem additions_map_point (meets : ℕ → RebuildPtr × RebuildPtr) (points : List (PointType K α)) :
    (additions meets points).map Addition.point = points := by
  apply List.ext_getElem
  · simp [additions]
  · simp [additions]

/-- A feature goes where it would go with any points that its search may find. -/
theorem mem_destined {scan : Scan K α} {nearestPoints : List (List (PointType K α))}
    {finds : PointType K α → List (PointType K α) → Prop}
    (found : List.Forall₂ finds (scan.features.map Feature.searched) nearestPoints)
    {feature : Feature K α} (member : feature ∈ scan.features) {goal : Destination}
    (every : ∀ near, finds feature.searched near →
      destination settings scan.flgEKFInited near feature.updated = goal) :
    feature.updated ∈ destined settings scan nearestPoints goal := by
  rw [List.forall₂_map_left_iff] at found
  have paired : ∃ near, (feature, near) ∈ scan.features.zip nearestPoints ∧
      finds feature.searched near := by
    generalize scan.features = features at found member
    induction found with
    | nil => cases member
    | @cons first near features nearestPoints here there ih =>
        rcases List.mem_cons.mp member with rfl | later
        · exact ⟨near, List.mem_cons_self, here⟩
        · obtain ⟨near', inside, finds'⟩ := ih later
          exact ⟨near', List.mem_cons_of_mem _ inside, finds'⟩
  obtain ⟨near, inside, finds'⟩ := paired
  refine List.mem_map.mpr ⟨(feature, near), List.mem_filter.mpr ⟨inside, ?_⟩, rfl⟩
  exact decide_eq_true (every near finds')

/-- A point that the local map does not leave behind. -/
def stays (params : LocalMapParams K) (mapping : Mapping K α) (scan : Scan K α)
    (point : PointType K α) : Bool :=
  match mapping.localMapPoints with
  | none => true
  | some cube => !cube.contains point ||
      (lasermapFovSegment params (some cube) scan.posLid).1.contains point

/-- What a scan makes of the points that stay, with or without a root. -/
inductive Feeds (settings : Settings K α) (scan : Scan K α) (rooted : Prop)
    (kept : Multiset (PointType K α)) : Multiset (PointType K α) → Prop where
  | build (absent : ¬rooted) (many : 5 < scan.features.length) :
      Feeds settings scan rooted kept (scan.features.map Feature.propagated : List _)
  | few (few : scan.features.length < 5 ∨ ¬rooted ∧ scan.features.length = 5) :
      Feeds settings scan rooted kept kept
  | add {nearestPoints : List (List (PointType K α))} {downsampled : Multiset (PointType K α)}
      (present : rooted) (enough : 5 ≤ scan.features.length)
      (found : List.Forall₂ (Finds kept) (scan.features.map Feature.searched) nearestPoints)
      (replaced : Downsampled settings (destined settings scan nearestPoints .pointToAdd : List _)
        kept downsampled) :
      Feeds settings scan rooted kept
        ((destined settings scan nearestPoints .pointNoNeedDownsample : List _) + downsampled)

variable [IsStrictOrderedRing K]

omit [Field K] [LinearOrder K] [FloorRing K] [IsStrictOrderedRing K] in
theorem mapIdx_map_fst (meets : ℕ → RebuildPtr) (boxes : List (BoxPointType K)) :
    (boxes.mapIdx fun index box => (box, meets index)).map Prod.fst = boxes := by
  apply List.ext_getElem
  · simp
  · simp

omit [FloorRing K] [IsStrictOrderedRing K] in
theorem deletePointBoxes_nullptr (boxes : List (BoxPointType K × RebuildPtr)) :
    ∀ {map : KdTree K α}, map.rootNode = .nullptr →
      (map.deletePointBoxes settings boxes).1.rootNode = .nullptr := by
  induction boxes with
  | nil => exact fun null => null
  | cons first boxes ih =>
      intro map null
      apply ih
      rw [KdTree.deleteByRange, null, deleteByRange]

variable (settings) in
/-- The local map deletes what it leaves behind. -/
theorem fovCommands_spec (fits : Fits params)
    (side : ∀ cube, mapping.localMapPoints = some cube → HasSide params cube)
    (valid : Valid mapping.ikdtree.rootNode) (scan : Scan K α) :
    ∃ map, mapping.ikdtree.run settings (fovCommands scan
        (lasermapFovSegment params mapping.localMapPoints scan.posLid).2) = some map ∧
      Valid map.rootNode ∧ (map.rootNode = .nullptr ↔ mapping.ikdtree.rootNode = .nullptr) ∧
      map.live = mapping.ikdtree.live.filter fun point => stays params mapping scan point := by
  have untouched : (∀ point, stays params mapping scan point = true) →
      ∃ map, mapping.ikdtree.run settings (fovCommands scan none) = some map ∧
        Valid map.rootNode ∧ (map.rootNode = .nullptr ↔ mapping.ikdtree.rootNode = .nullptr) ∧
        map.live = mapping.ikdtree.live.filter fun point => stays params mapping scan point :=
    fun all => ⟨_, rfl, valid, Iff.rfl, (Multiset.filter_eq_self.mpr fun point _ => all point).symm⟩
  cases initialized : mapping.localMapPoints with
  | none =>
      apply untouched
      intro point
      rw [stays, initialized]
  | some cube =>
      rw [lasermapFovSegment]
      split
      · next moves =>
          obtain ⟨valid', some', alive, _, _⟩ := KdTree.deletePointBoxes_spec settings
            ((cubNeedrm params cube scan.posLid).mapIdx fun index box => (box, scan.onDelete index))
            (show Valid ({ mapping.ikdtree with pointsDeleted := [] } : KdTree K α).rootNode from
              valid)
          refine ⟨_, rfl, valid', ⟨fun null => ?_, fun null => deletePointBoxes_nullptr _ null⟩, ?_⟩
          · by_contra filled
            exact some' filled null
          · refine alive.trans (Multiset.filter_congr fun point _ => ?_)
            have behind := exists_cubNeedrm_iff scan.posLid fits (side cube initialized) point
            have each := @List.forall_mem_map _ _ Prod.fst
              ((cubNeedrm params cube scan.posLid).mapIdx fun index box =>
                (box, scan.onDelete index)) fun box => ¬box.contains point = true
            rw [mapIdx_map_fst] at each
            rw [← each, stays, initialized]
            simp only [lasermapFovSegment, moves, if_true, Bool.or_eq_true, Bool.not_eq_true']
            rw [← not_iff_not]
            push Not
            rw [behind]
            simp
      · next still =>
          apply untouched
          intro point
          rw [stays, initialized]
          simp [lasermapFovSegment, still]

/-- Adding features to a tree with a root. -/
theorem mapIncremental_spec (positive : 0 < settings.downsampleSize) {map : KdTree K α}
    (valid : Valid map.rootNode) (some_ : map.rootNode ≠ .nullptr) (scan : Scan K α)
    (nearestPoints : List (List (PointType K α))) :
    ∃ next downsampled, map.run settings (mapIncremental settings scan nearestPoints) =
        some next ∧ Valid next.rootNode ∧ next.rootNode ≠ .nullptr ∧
      Downsampled settings (destined settings scan nearestPoints .pointToAdd : List _) map.live
        downsampled ∧
      next.live =
        (destined settings scan nearestPoints .pointNoNeedDownsample : List _) + downsampled := by
  obtain ⟨between, count, first, valid', some', downsampled, _⟩ :=
    KdTree.addPoints_downsample positive
      (additions scan.onAdd (destined settings scan nearestPoints .pointToAdd)) valid some_
  obtain ⟨next, count', second, valid'', some'', alive, _⟩ := KdTree.addPoints_plain settings
    (additions scan.onPlain (destined settings scan nearestPoints .pointNoNeedDownsample)) valid'
    some'
  rw [additions_map_point] at downsampled alive
  refine ⟨next, between.live, ?_, valid'', some'', downsampled, alive⟩
  rw [mapIncremental, KdTree.run, KdTree.step, first, Option.map_some, Option.bind_some,
    KdTree.run, KdTree.step, second, Option.map_some, Option.bind_some, KdTree.run]

/-- The rest of a scan. -/
theorem feed_spec (positive : 0 < settings.downsampleSize) {map : KdTree K α}
    (valid : Valid map.rootNode) (scan : Scan K α) :
    ∃ next, feed settings scan map = some next ∧ Valid next.rootNode ∧
      (map.rootNode ≠ .nullptr → next.rootNode ≠ .nullptr) ∧
      Feeds settings scan (map.rootNode ≠ .nullptr) map.live next.live := by
  rw [feed]
  cases rooted : map.rootNode with
  | nullptr =>
      rw [Tree.isNull, if_pos rfl]
      have absent : ¬(Tree.nullptr : Tree K α) ≠ .nullptr := not_not.mpr rfl
      split
      · next many =>
          refine ⟨_, rfl, map.valid_build settings _, fun some_ => absurd rfl some_, ?_⟩
          have built : Feeds settings scan ((Tree.nullptr : Tree K α) ≠ .nullptr) map.live _ :=
            .build absent many
          rwa [← map.live_build settings] at built
      · next few =>
          refine ⟨map, rfl, valid, fun some_ => absurd rfl some_, .few ?_⟩
          rcases Nat.lt_or_eq_of_le (not_lt.mp few) with less | same
          · exact .inl less
          · exact .inr ⟨absent, same⟩
  | node root left right =>
      rw [Tree.isNull, if_neg Bool.false_ne_true]
      have some_ : map.rootNode ≠ .nullptr := by
        rw [rooted]
        exact Tree.node_ne_nullptr _ _ _
      split
      · next few => exact ⟨map, rfl, valid, fun _ => some_, .few (.inl few)⟩
      · next many =>
          obtain ⟨valid', same, some'⟩ := searchAll_spec scan.rounds valid
          obtain ⟨valid'', same', some''⟩ :=
            searchAll_spec (scan.features.map Feature.searched) valid'
          have found := searchAll_finds (scan.features.map Feature.searched) valid'
          rw [same] at found
          dsimp only
          generalize searchAll (searchAll map scan.rounds).1 _ = searched at *
          obtain ⟨next, downsampled, done, validNext, someNext, replaced, alive⟩ :=
            mapIncremental_spec positive valid'' (some'' (some' some_)) scan searched.2
          rw [same', same] at replaced
          refine ⟨next, done, validNext, fun _ => someNext, ?_⟩
          rw [alive]
          exact .add (Tree.node_ne_nullptr _ _ _) (not_lt.mp many) found replaced

/-- One scan. -/
theorem Mapping.step_spec (positive : 0 < settings.downsampleSize) (fits : Fits params)
    (side : ∀ cube, mapping.localMapPoints = some cube → HasSide params cube)
    (valid : Valid mapping.ikdtree.rootNode) (scan : Scan K α) :
    ∃ next, mapping.step settings params scan = some next ∧ Valid next.ikdtree.rootNode ∧
      (mapping.ikdtree.rootNode ≠ .nullptr → next.ikdtree.rootNode ≠ .nullptr) ∧
      next.localMapPoints =
        some (lasermapFovSegment params mapping.localMapPoints scan.posLid).1 ∧
      Feeds settings scan (mapping.ikdtree.rootNode ≠ .nullptr)
        (mapping.ikdtree.live.filter fun point => stays params mapping scan point)
        next.ikdtree.live := by
  obtain ⟨map, deleted, valid', null, alive⟩ :=
    fovCommands_spec settings fits side valid scan
  obtain ⟨next, fed, valid'', some_, feeds⟩ := feed_spec positive valid' scan
  rw [alive, Ne, null] at feeds
  refine ⟨⟨_, next⟩, ?_, valid'', fun filled => some_ fun empty => filled (null.mp empty), rfl,
    feeds⟩
  rw [Mapping.step, deleted, Option.bind_some, fed, Option.map_some]

/-! ## A drive -/

/-- A scan at a place ahead of the first, with the features that it sees. -/
def Scan.drive (x : ℚ) (flgEKFInited : Bool) (points : List (PointType ℚ Unit)) :
    Scan ℚ Unit where
  posLid axis := if axis = .x then x else 0
  flgEKFInited := flgEKFInited
  features := points.map fun point => ⟨point, point, point⟩
  rounds := points
  onDelete _ := quiet
  onAdd _ := (quiet, quiet)
  onPlain _ := (quiet, quiet)

/-- What the lidar sees first. -/
def seenFirst : List (PointType ℚ Unit) :=
  [.along (-300), .along 0, .along 1, .along 2, .along 3, .along 4, .along 5]

/-- What it sees of a wall in front. -/
def seenWall : List (PointType ℚ Unit) :=
  [⟨400, 10, 10, ()⟩, ⟨401, 10, 10, ()⟩, ⟨402, 10, 10, ()⟩, ⟨403, 10, 10, ()⟩]

/-- What is left of the first scan when the lidar is at the wall. -/
def seenAhead : Multiset (PointType ℚ Unit) :=
  {.along 0, .along 1, .along 2, .along 3, .along 4, .along 5}

theorem separated_seenAhead : ∀ point ∈ seenWall,
    Separated { dist | ∃ other ∈ seenAhead, calcDist point other = dist } := by
  have apart : ∀ point ∈ seenWall, ∀ first ∈ seenAhead, ∀ second ∈ seenAhead,
      calcDist point first = calcDist point second ∨
        1 / 10 ^ 10 ≤ |calcDist point first - calcDist point second| := by
    decide +kernel
  rintro point member a ⟨first, here, rfl⟩ b ⟨second, there, rfl⟩
  exact apart point member first here second there

/-- The wall is far from all that is left. -/
theorem destination_seenWall : ∀ point ∈ seenWall, ∀ head ∈ seenAhead, ∀ tail,
    destination Settings.initial true (head :: tail) point = .pointNoNeedDownsample := by
  have far : ∀ point ∈ seenWall, ∀ head ∈ seenAhead,
      |head.x - (midPoint Settings.initial point).x| > 1 / 2 * (1 / 5) ∧
        |head.y - (midPoint Settings.initial point).y| > 1 / 2 * (1 / 5) ∧
        |head.z - (midPoint Settings.initial point).z| > 1 / 2 * (1 / 5) := by
    decide +kernel
  intro point member head inside tail
  rw [destination, if_pos rfl]
  exact if_pos (far point member head inside)

theorem fits_mid360 : Fits LocalMapParams.mid360 where
  detRange_pos := by norm_num [LocalMapParams.mid360]
  detRange_le := by norm_num [LocalMapParams.mid360]

/-- The map after the first scan of a drive. -/
def driven : Mapping ℚ Unit where
  localMapPoints := some (initialCube LocalMapParams.mid360 (Scan.drive 0 false seenFirst).posLid)
  ikdtree := KdTree.new.build Settings.initial seenFirst

theorem run_driven :
    Mapping.start.run Settings.initial LocalMapParams.mid360 [.drive 0 false seenFirst] =
      some driven :=
  rfl

/-! ## Runs -/

/-- What every run of scans keeps. -/
structure Sound (params : LocalMapParams K) (mapping : Mapping K α) : Prop where
  side : ∀ cube, mapping.localMapPoints = some cube → HasSide params cube
  valid : Valid mapping.ikdtree.rootNode

omit [FloorRing K] [IsStrictOrderedRing K] in
theorem sound_start (params : LocalMapParams K) : Sound params (Mapping.start : Mapping K α) where
  side _ none := absurd none.symm (Option.some_ne_none _)
  valid := valid_nullptr

theorem Sound.step (positive : 0 < settings.downsampleSize) (fits : Fits params)
    (sound : Sound params mapping) {scan : Scan K α} {next : Mapping K α}
    (done : mapping.step settings params scan = some next) : Sound params next := by
  obtain ⟨next', same, valid, _, moved, _⟩ :=
    Mapping.step_spec positive fits sound.side sound.valid scan
  obtain rfl := Option.some.inj (same.symm.trans done)
  refine ⟨fun cube found => ?_, valid⟩
  rw [moved] at found
  rw [← Option.some.inj found]
  exact hasSide_lasermapFovSegment sound.side scan.posLid

theorem Sound.run (positive : 0 < settings.downsampleSize) (fits : Fits params)
    (scans : List (Scan K α)) : ∀ {mapping : Mapping K α}, Sound params mapping →
      ∃ final, mapping.run settings params scans = some final ∧ Sound params final := by
  induction scans with
  | nil => exact fun sound => ⟨_, rfl, sound⟩
  | cons scan scans ih =>
      intro mapping sound
      obtain ⟨next, done, _⟩ := Mapping.step_spec positive fits sound.side sound.valid scan
      obtain ⟨final, rest, sound'⟩ := ih (sound.step positive fits done)
      refine ⟨final, ?_, sound'⟩
      rw [Mapping.run, done, Option.bind_some, rest]

/-- The loop never dereferences a missing root, whatever the scans bring, and the local map
keeps its side. -/
theorem run_isSome (positive : 0 < settings.downsampleSize) (fits : Fits params)
    (scans : List (Scan K α)) :
    ∃ final, Mapping.start.run settings params scans = some final ∧
      ∀ cube, final.localMapPoints = some cube → HasSide params cube := by
  obtain ⟨final, done, sound⟩ := Sound.run positive fits scans (sound_start params)
  exact ⟨final, done, sound.side⟩

theorem run_isSome_drive : ∃ final,
    Mapping.start.run Settings.initial LocalMapParams.mid360
        [.drive 0 false seenFirst, .drive 150 true [], .drive 300 true seenWall,
          .drive 360 true (.along 0 :: seenWall)] = some final ∧
      ∀ cube, final.localMapPoints = some cube → HasSide LocalMapParams.mid360 cube :=
  run_isSome initial_positive fits_mid360 _

omit [FloorRing K] in
/-- A point in range of the lidar stays. -/
theorem stays_of_near (fits : Fits params) (large : 3 * params.detRange ≤ params.cubeLen)
    (side : ∀ cube, mapping.localMapPoints = some cube → HasSide params cube) {scan : Scan K α}
    {point : PointType K α}
    (near : ∀ axis, |point.coord axis - scan.posLid axis| < params.detRange) :
    stays params mapping scan point = true := by
  rw [stays]
  cases initialized : mapping.localMapPoints with
  | none => rfl
  | some cube =>
      by_contra leaves
      simp only [Bool.not_eq_true, Bool.or_eq_false_iff, Bool.not_eq_false'] at leaves
      obtain ⟨within, outside⟩ := leaves
      rw [lasermapFovSegment] at outside
      split at outside
      · have behind := (exists_cubNeedrm_iff scan.posLid fits (side cube initialized) point).mpr
          ⟨within, Bool.eq_false_iff.mp outside⟩
        obtain ⟨box, member, inside⟩ := behind
        obtain ⟨axis, far⟩ := detRange_le_of_cubNeedrm fits.detRange_pos large
          (side cube initialized) member inside
        exact absurd (near axis) (not_lt.mpr far)
      · rw [within] at outside
        exact Bool.noConfusion outside

/-- What a scan does to the map, after any scans.  With a side of three ranges no point in
range of the lidar is lost to the move of the local map. -/
theorem reachable_step (positive : 0 < settings.downsampleSize) (fits : Fits params)
    {scans : List (Scan K α)} (done : Mapping.start.run settings params scans = some mapping)
    (scan : Scan K α) :
    (∃ next, mapping.step settings params scan = some next ∧
      Feeds settings scan (mapping.ikdtree.rootNode ≠ .nullptr)
        (mapping.ikdtree.live.filter fun point => stays params mapping scan point)
        next.ikdtree.live) ∧
      (3 * params.detRange ≤ params.cubeLen → ∀ point : PointType K α,
        (∀ axis, |point.coord axis - scan.posLid axis| < params.detRange) →
          stays params mapping scan point = true) := by
  obtain ⟨mapping', same, sound⟩ := Sound.run positive fits scans (sound_start params)
  obtain rfl := Option.some.inj (same.symm.trans done)
  obtain ⟨next, step, _, _, _, feeds⟩ :=
    Mapping.step_spec positive fits sound.side sound.valid scan
  exact ⟨⟨next, step, feeds⟩, fun large point near => stays_of_near fits large sound.side near⟩

/-- The map moves with the lidar, and the wall is added to it. -/
theorem reachable_step_drive : ∃ next,
    driven.step Settings.initial LocalMapParams.mid360
        (.drive 360 true (.along 0 :: seenWall)) = some next ∧
      (∀ point ∈ seenWall, point ∈ next.ikdtree.live) ∧
      stays LocalMapParams.mid360 driven (.drive 360 true (.along 0 :: seenWall))
        (.along (-300)) = false ∧
      stays LocalMapParams.mid360 driven (.drive 360 true (.along 0 :: seenWall))
        (.along 300) = true := by
  obtain ⟨⟨next, step, feeds⟩, near⟩ := reachable_step initial_positive fits_mid360 run_driven
    (.drive 360 true (.along 0 :: seenWall))
  refine ⟨next, step, ?_, by decide +kernel, ?_⟩
  · have rooted : driven.ikdtree.rootNode ≠ .nullptr := KdTree.build_ne_nullptr _ _
    have kept : (driven.ikdtree.live.filter fun point =>
        stays LocalMapParams.mid360 driven (.drive 360 true (.along 0 :: seenWall)) point) =
          seenAhead := by
      rw [driven, KdTree.live_build]
      decide +kernel
    rw [kept] at feeds
    generalize next.ikdtree.live = after at feeds
    cases feeds with
    | build absent many => exact absurd rooted absent
    | few few =>
        rcases few with less | ⟨absent, _⟩
        · exact absurd less (by decide)
        · exact absurd rooted absent
    | add present enough found replaced =>
        intro point member
        apply Multiset.mem_add.mpr (.inl ?_)
        have seen : (⟨point, point, point⟩ : Feature ℚ Unit) ∈
            (Scan.drive 360 true (.along 0 :: seenWall)).features :=
          List.mem_map.mpr ⟨point, List.mem_cons_of_mem _ member, rfl⟩
        refine mem_destined found seen fun near finds => ?_
        obtain ⟨head, tail, rfl, inside⟩ :=
          finds.exists_cons (separated_seenAhead point member) (by decide +kernel)
        exact destination_seenWall point member head inside tail
  · apply near (by norm_num [LocalMapParams.mid360])
    intro axis
    cases axis <;> decide +kernel

/-- From one scan to the next the lidar moves by no more than the range for a move. -/
def Slow (params : LocalMapParams K) (first second : Scan K α) : Prop :=
  ∀ axis, |second.posLid axis - first.posLid axis| ≤ moveRange params

theorem centred_of_run_from (positive : 0 < settings.downsampleSize) (fits : Fits params)
    (large : 19 * params.detRange < 3 * params.cubeLen) (scans : List (Scan K α)) :
    ∀ {mapping final : Mapping K α} {last : Scan K α} {cube : BoxPointType K},
      Sound params mapping → mapping.localMapPoints = some cube →
      Centred params cube last.posLid → List.IsChain (Slow params) (last :: scans) →
      mapping.run settings params scans = some final →
      ∃ cube', final.localMapPoints = some cube' ∧
        Centred params cube' ((last :: scans).getLast (List.cons_ne_nil _ _)).posLid := by
  induction scans with
  | nil =>
      intro mapping final last cube _ found centred _ done
      rw [← Option.some.inj done]
      exact ⟨cube, found, centred⟩
  | cons scan scans ih =>
      intro mapping final last cube sound found centred slow done
      obtain ⟨move, slow⟩ := List.isChain_cons_cons.mp slow
      obtain ⟨next, step, rest⟩ := Option.bind_eq_some_iff.mp done
      obtain ⟨next', same, _, _, moved, _⟩ :=
        Mapping.step_spec positive fits sound.side sound.valid scan
      obtain rfl := Option.some.inj (same.symm.trans step)
      have within : ∀ cube', mapping.localMapPoints = some cube' → ∀ axis,
          cube'.vertexMin axis ≤ scan.posLid axis ∧ scan.posLid axis ≤ cube'.vertexMax axis := by
        intro cube' equal axis
        rw [found] at equal
        obtain rfl := Option.some.inj equal
        obtain ⟨low, high⟩ := centred axis
        obtain ⟨down, up⟩ := abs_le.mp (move axis)
        constructor <;> linarith
      rw [List.getLast_cons (List.cons_ne_nil _ _)]
      exact ih (sound.step positive fits step) moved
        (centred_lasermapFovSegment scan.posLid fits.detRange_pos large sound.side within) slow
        rest

/-- While the lidar is slow and the cube is large, the lidar is inside after every scan,
farther than the range for a move from all faces. -/
theorem centred_of_run (positive : 0 < settings.downsampleSize) (fits : Fits params)
    (large : 19 * params.detRange < 3 * params.cubeLen) {first : Scan K α}
    {scans : List (Scan K α)} (slow : List.IsChain (Slow params) (first :: scans))
    (done : Mapping.start.run settings params (first :: scans) = some mapping) :
    ∃ cube, mapping.localMapPoints = some cube ∧
      Centred params cube ((first :: scans).getLast (List.cons_ne_nil _ _)).posLid := by
  obtain ⟨next, step, rest⟩ := Option.bind_eq_some_iff.mp done
  have sound := sound_start (α := α) params
  obtain ⟨next', same, _, _, moved, _⟩ :=
    Mapping.step_spec positive fits sound.side sound.valid first
  obtain rfl := Option.some.inj (same.symm.trans step)
  have centred := centred_lasermapFovSegment first.posLid fits.detRange_pos large sound.side
    fun cube none => absurd none.symm (Option.some_ne_none _)
  exact centred_of_run_from positive fits large scans (sound.step positive fits step) moved
    centred slow rest

theorem centred_of_run_drive : ∃ mapping cube,
    Mapping.start.run Settings.initial LocalMapParams.mid360
        [.drive 0 false seenFirst, .drive 150 true [], .drive 300 true seenWall,
          .drive 400 true (.along 0 :: seenWall)] = some mapping ∧
      mapping.localMapPoints = some cube ∧
      Centred LocalMapParams.mid360 cube
        (Scan.drive 400 true (.along 0 :: seenWall)).posLid := by
  obtain ⟨mapping, done, _⟩ := Sound.run initial_positive fits_mid360
    [.drive 0 false seenFirst, .drive 150 true [], .drive 300 true seenWall,
      .drive 400 true (.along 0 :: seenWall)] (sound_start _)
  have slow : List.IsChain (Slow LocalMapParams.mid360)
      [Scan.drive 0 false seenFirst, .drive 150 true [], .drive 300 true seenWall,
        .drive 400 true (.along 0 :: seenWall)] := by
    refine .cons_cons ?_ (.cons_cons ?_ (.cons_cons ?_ (.singleton _)))
    all_goals
      intro axis
      cases axis <;> decide +kernel
  obtain ⟨cube, found, centred⟩ := centred_of_run initial_positive fits_mid360
    (by norm_num [LocalMapParams.mid360]) slow done
  exact ⟨mapping, cube, done, found, centred⟩

end Step

end ScoutStack.FastLio
