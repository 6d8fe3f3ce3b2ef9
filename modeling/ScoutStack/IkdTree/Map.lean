import ScoutStack.IkdTree.Nearest
import Mathlib.Algebra.Order.Floor.Ring
import Mathlib.Data.Rat.Floor

/-!
# The tree as a map

The public functions of `KD_TREE` on `Root_Node` and `Points_deleted`, as one thread calls
them.  The rebuild thread swaps no tree in between: its steps are in `Rebuild` and `swapIn`,
and `Multithread_Points_deleted`, which it fills, stays empty.  A call that dereferences a
missing root has no outcome.
-/

namespace ScoutStack.IkdTree

variable {K α : Type*}

/-- `KD_TREE`, what one thread sees of it. -/
structure KdTree (K α : Type*) where
  rootNode : Tree K α
  pointsDeleted : List (PointType K α)

/-- A tree after its constructor. -/
def KdTree.new : KdTree K α where
  rootNode := .nullptr
  pointsDeleted := []

/-- The parameters that the constructor sets, with a sort for `std::nth_element`. -/
def Settings.initial : Settings ℚ α where
  deleteCriterionParam := 1 / 2
  balanceCriterionParam := 3 / 5
  downsampleSize := 1 / 5
  nthElement := NthElement.sorting

section Model

variable [Field K] [LinearOrder K] (settings : Settings K α)

/-- `KD_TREE::size`. -/
def KdTree.size (map : KdTree K α) : ℕ := map.rootNode.treeSize

/-- `KD_TREE::validnum`. -/
def KdTree.validnum (map : KdTree K α) : ℕ :=
  map.rootNode.treeSize - map.rootNode.invalidPointNum

/-- `KD_TREE::Build`. -/
def KdTree.build (map : KdTree K α) (cloud : List (PointType K α)) : KdTree K α :=
  { map with rootNode := buildTree settings.nthElement cloud }

/-- `allow_rebuild` at the root. -/
def allowRoot (rebuildPtr : RebuildPtr) : Bool := !rebuildPtr []

/-- `Add_by_point` at the root, whose axis is read first. -/
def KdTree.addByPoint (map : KdTree K α) (allowRebuild : Bool) (rebuildPtr : RebuildPtr)
    (point : PointType K α) : Option (KdTree K α) :=
  match map.rootNode with
  | .nullptr => none
  | .node root left right =>
      let added := IkdTree.addByPoint settings rebuildPtr point allowRebuild [] root.divisionAxis
        (.node root left right)
      some ⟨added.1, map.pointsDeleted ++ added.2⟩

/-- `Delete_by_range` at the root. -/
def KdTree.deleteByRange (map : KdTree K α) (rebuildPtr : RebuildPtr)
    (box : BoxPointType K) (isDownsample : Bool) : KdTree K α × ℕ :=
  let deleted := IkdTree.deleteByRange settings rebuildPtr box isDownsample
    (allowRoot rebuildPtr) [] map.rootNode
  (⟨deleted.1, map.pointsDeleted ++ deleted.2.2⟩, deleted.2.1)

/-- `mid_point` of a box. -/
def BoxPointType.midPoint (box : BoxPointType K) (fields : α) : PointType K α where
  x := box.vertexMin .x + (box.vertexMax .x - box.vertexMin .x) / 2
  y := box.vertexMin .y + (box.vertexMax .y - box.vertexMin .y) / 2
  z := box.vertexMin .z + (box.vertexMax .z - box.vertexMin .z) / 2
  fields := fields

/-- `downsample_result`: the new point, unless a stored one is nearer to the middle. -/
def downsampleResult (midPoint point : PointType K α) (storage : List (PointType K α)) :
    PointType K α :=
  storage.foldl (fun best other =>
    if calcDist other midPoint < calcDist best midPoint then other else best) point

variable [FloorRing K]

/-- `Box_of_Point` in `KD_TREE::Add_Points`, in exact arithmetic. -/
def boxOfPoint (point : PointType K α) : BoxPointType K where
  vertexMin axis := ⌊point.coord axis / settings.downsampleSize⌋ * settings.downsampleSize
  vertexMax axis :=
    ⌊point.coord axis / settings.downsampleSize⌋ * settings.downsampleSize +
      settings.downsampleSize

/-- What `KD_TREE::Add_Points` does with one point, and what it adds to `tmp_counter`.
The deletion meets `Rebuild_Ptr` as `before` says, the addition as `after` says. -/
def KdTree.addPoint (downsampleOn : Bool) (map : KdTree K α) (point : PointType K α)
    (before after : RebuildPtr) : Option (KdTree K α × ℕ) :=
  if downsampleOn then
    let box := boxOfPoint settings point
    let midPoint := box.midPoint point.fields
    let searched := searchByRange box map.rootNode
    let best := downsampleResult midPoint point searched.2
    let map : KdTree K α := { map with rootNode := searched.1 }
    if searched.2.length > 1 ∨ samePoint point best = true then
      let cleared := if searched.2.length > 0 then (map.deleteByRange settings before box true).1
        else map
      (cleared.addByPoint settings (allowRoot before) after best).map fun added => (added, 1)
    else some (map, 0)
  else (map.addByPoint settings (allowRoot before) before point).map fun added => (added, 0)

/-- A point to add, and where its calls meet `Rebuild_Ptr`. -/
structure Addition (K α : Type*) where
  point : PointType K α
  before : RebuildPtr
  after : RebuildPtr

/-- `KD_TREE::Add_Points`. -/
def KdTree.addPoints (downsampleOn : Bool) :
    KdTree K α → List (Addition K α) → Option (KdTree K α × ℕ)
  | map, [] => some (map, 0)
  | map, addition :: additions =>
      (map.addPoint settings downsampleOn addition.point addition.before addition.after).bind
        fun added => (added.1.addPoints downsampleOn additions).map
          fun rest => (rest.1, added.2 + rest.2)

omit [FloorRing K] in
/-- `KD_TREE::Delete_Point_Boxes`. -/
def KdTree.deletePointBoxes : KdTree K α → List (BoxPointType K × RebuildPtr) →
    KdTree K α × ℕ
  | map, [] => (map, 0)
  | map, (box, rebuildPtr) :: boxes =>
      let deleted := map.deleteByRange settings rebuildPtr box false
      let rest := deleted.1.deletePointBoxes boxes
      (rest.1, deleted.2 + rest.2)

/-- A call of a public function. -/
inductive Command (K α : Type*) where
  | build (cloud : List (PointType K α))
  | addPoints (downsampleOn : Bool) (additions : List (Addition K α))
  | deletePointBoxes (boxes : List (BoxPointType K × RebuildPtr))
  | boxSearch (box : BoxPointType K)
  | nearestSearch (kNearest : ℕ) (point : PointType K α) (maxDist : WithTop K)
  | acquireRemovedPoints

/-- The tree after a call, unless the call dereferences a missing root. -/
def KdTree.step (map : KdTree K α) : Command K α → Option (KdTree K α)
  | .build cloud => some (map.build settings cloud)
  | .addPoints downsampleOn additions =>
      (map.addPoints settings downsampleOn additions).map Prod.fst
  | .deletePointBoxes boxes => some (map.deletePointBoxes settings boxes).1
  | .boxSearch box => some { map with rootNode := (searchByRange box map.rootNode).1 }
  | .nearestSearch kNearest point maxDist =>
      some { map with rootNode := (nearestSearch kNearest point maxDist map.rootNode).1 }
  | .acquireRemovedPoints => some { map with pointsDeleted := [] }

/-- The tree after several calls, while the rebuild thread swaps nothing in. -/
def KdTree.run : KdTree K α → List (Command K α) → Option (KdTree K α)
  | map, [] => some map
  | map, command :: commands => (map.step settings command).bind fun next => next.run commands

end Model

/-! ## At the root -/

/-- The map a tree stands for. -/
def KdTree.live (map : KdTree K α) : Multiset (PointType K α) := IkdTree.live map.rootNode

/-- The removed points that nobody has fetched. -/
def KdTree.recorded (map : KdTree K α) : Multiset (PointType K α) :=
  removed map.rootNode + map.pointsDeleted

/-- A tree with the same slots is the same map. -/
theorem KdTree.of_slots (map : KdTree K α) {tree : Tree K α}
    (same : slots tree = slots map.rootNode) :
    KdTree.live { map with rootNode := tree } = map.live ∧
      KdTree.recorded { map with rootNode := tree } = map.recorded := by
  simp only [KdTree.live, IkdTree.live, KdTree.recorded, removed, same, and_self]

theorem ne_nullptr_of_live {tree : Tree K α} (point : PointType K α) (member : point ∈ live tree) :
    tree ≠ .nullptr := by
  rintro rfl
  exact Multiset.notMem_zero point member

theorem ne_nullptr_of_slots {tree tree' : Tree K α} (same : slots tree' = slots tree)
    (some_ : tree ≠ .nullptr) : tree' ≠ .nullptr := by
  rintro rfl
  cases tree with
  | nullptr => exact some_ rfl
  | node root left right =>
      rw [slots, slots] at same
      exact Multiset.cons_ne_zero same.symm

section Root

variable [LinearOrder K] {tree : Tree K α}

variable [Field K] (settings : Settings K α) (map : KdTree K α)

theorem KdTree.valid_build (cloud : List (PointType K α)) :
    Valid (map.build settings cloud).rootNode :=
  (buildTree_spec _ _).1

theorem KdTree.live_build (cloud : List (PointType K α)) :
    (map.build settings cloud).live = cloud :=
  live_buildTree _ _

variable {settings map} in
theorem KdTree.build_ne_nullptr (first : PointType K α) (rest : List (PointType K α)) :
    (map.build settings (first :: rest)).rootNode ≠ .nullptr := by
  apply ne_nullptr_of_live first
  rw [← KdTree.live, KdTree.live_build]
  exact List.mem_cons_self

/-- A point added at the root. -/
theorem KdTree.addByPoint_spec (valid : Valid map.rootNode) (some_ : map.rootNode ≠ .nullptr)
    (allowRebuild : Bool) (rebuildPtr : RebuildPtr) (point : PointType K α) :
    ∃ added, map.addByPoint settings allowRebuild rebuildPtr point = some added ∧
      Valid added.rootNode ∧ added.rootNode ≠ .nullptr ∧ added.live = point ::ₘ map.live ∧
      added.recorded = map.recorded := by
  cases rooted : map.rootNode with
  | nullptr => exact absurd rooted some_
  | node root left right =>
      rw [rooted] at valid
      obtain ⟨valid', alive, dead⟩ := IkdTree.addByPoint_spec settings rebuildPtr point _ valid
        allowRebuild [] root.divisionAxis
      refine ⟨_, by rw [KdTree.addByPoint, rooted], valid', ?_, ?_, ?_⟩
      · apply ne_nullptr_of_live point
        rw [alive]
        exact Multiset.mem_cons_self _ _
      · rw [KdTree.live, KdTree.live, alive, rooted]
      · rw [KdTree.recorded, KdTree.recorded, rooted, ← dead, ← Multiset.coe_add]
        abel

/-- A box deletion never takes the root away: either the whole tree is marked, or a live
point is left outside the box. -/
theorem deleteByRange_ne_nullptr {rebuildPtr : RebuildPtr} {box : BoxPointType K}
    {isDownsample allowRebuild : Bool} {slot : TreePath} (valid : Valid tree)
    (some_ : tree ≠ .nullptr) :
    (deleteByRange settings rebuildPtr box isDownsample allowRebuild slot tree).1 ≠
      .nullptr := by
  cases tree with
  | nullptr => exact absurd rfl some_
  | node root left right =>
      have after := (deleteByRange_spec settings rebuildPtr box isDownsample _ valid allowRebuild
        slot).live_eq
      rw [deleteByRange] at after ⊢
      split
      · exact Tree.node_ne_nullptr _ _ _
      · next kept =>
          rw [if_neg kept] at after
          obtain ⟨_, hull⟩ := valid.hull (Bool.eq_false_iff.mpr kept)
          dsimp only at after ⊢
          split
          · exact Tree.node_ne_nullptr _ _ _
          · next hits =>
              rw [if_neg hits] at after
              split
              · exact Tree.node_ne_nullptr _ _ _
              · next reaches =>
                  rw [if_neg reaches] at after
                  have left_ : ∃ point ∈ IkdTree.live (.node root left right),
                      ¬box.contains point = true := by
                    by_contra none
                    push Not at none
                    exact reaches ((hull.covers_iff box).mpr none)
                  obtain ⟨point, member, outside⟩ := left_
                  apply ne_nullptr_of_live point
                  rw [after, offBox, Multiset.mem_filter]
                  exact ⟨member, outside⟩

/-- A box deleted at the root. -/
theorem KdTree.deleteByRange_spec (valid : Valid map.rootNode) (rebuildPtr : RebuildPtr)
    (box : BoxPointType K) (isDownsample : Bool) :
    Valid (map.deleteByRange settings rebuildPtr box isDownsample).1.rootNode ∧
      (map.rootNode ≠ .nullptr →
        (map.deleteByRange settings rebuildPtr box isDownsample).1.rootNode ≠ .nullptr) ∧
      (map.deleteByRange settings rebuildPtr box isDownsample).1.live = offBox box map.live ∧
      (map.deleteByRange settings rebuildPtr box isDownsample).2 =
        (inBox box map.live).card ∧
      (isDownsample = false →
        (map.deleteByRange settings rebuildPtr box isDownsample).1.recorded =
          map.recorded + inBox box map.live) ∧
      (isDownsample = true →
        (map.deleteByRange settings rebuildPtr box isDownsample).1.recorded ≤ map.recorded) := by
  obtain ⟨valid', alive, counter, equal, le⟩ := IkdTree.deleteByRange_spec settings rebuildPtr
    box isDownsample _ valid (allowRoot rebuildPtr) []
  refine ⟨valid', deleteByRange_ne_nullptr settings valid, alive, counter, ?_, ?_⟩
  · intro plain
    have same := equal plain
    rw [KdTree.recorded, KdTree.recorded, KdTree.deleteByRange, ← Multiset.coe_add]
    rw [add_left_comm, same, KdTree.live]
    abel
  · intro down
    rw [KdTree.recorded, KdTree.recorded, KdTree.deleteByRange, ← Multiset.coe_add]
    rw [add_left_comm, add_comm (removed map.rootNode)]
    exact add_le_add (le_refl _) (le down)

/-- `downsample_result` is a nearest of the new and the stored points. -/
theorem downsampleResult_spec (midPoint : PointType K α) (storage : List (PointType K α)) :
    ∀ point, downsampleResult midPoint point storage ∈ point :: storage ∧
      ∀ other ∈ point :: storage,
        calcDist (downsampleResult midPoint point storage) midPoint ≤
          calcDist other midPoint := by
  induction storage with
  | nil =>
      intro point
      refine ⟨List.mem_singleton_self point, fun other member => ?_⟩
      rw [List.mem_singleton.mp member]
      exact le_refl _
  | cons stored storage ih =>
      intro point
      rw [downsampleResult, List.foldl_cons]
      split
      · next nearer =>
          obtain ⟨member, least⟩ := ih stored
          refine ⟨List.mem_cons_of_mem _ member, fun other among => ?_⟩
          rcases List.mem_cons.mp among with rfl | below
          · exact (least stored List.mem_cons_self).trans nearer.le
          · exact least other below
      · next farther =>
          obtain ⟨member, least⟩ := ih point
          refine ⟨?_, fun other among => ?_⟩
          · rcases List.mem_cons.mp member with equal | below
            · exact List.mem_cons.mpr (.inl equal)
            · exact List.mem_cons_of_mem _ (List.mem_cons_of_mem _ below)
          · rcases List.mem_cons.mp among with rfl | below
            · exact least _ List.mem_cons_self
            · rcases List.mem_cons.mp below with rfl | deeper
              · exact (least point List.mem_cons_self).trans (not_lt.mp farther)
              · exact least other (List.mem_cons_of_mem _ deeper)

end Root

end ScoutStack.IkdTree
