import ScoutStack.IkdTree.Node
import Mathlib.Data.List.Perm.Basic

/-!
# Operations on the incremental k-d tree

The recursive functions of `ikd_Tree.cpp`, on trees as values.  A slot of the tree is the
path to it; `Rebuild_Ptr` is the slot whose rebuild waits for the other thread.  What the
operations append to `Points_deleted` is returned beside the tree.
-/

namespace ScoutStack.IkdTree

variable {K α : Type*}

/-- `Minimal_Unbalanced_Tree_Size`. -/
def minimalUnbalancedTreeSize : ℕ := 10

/-- `Multi_Thread_Rebuild_Point_Num`. -/
def multiThreadRebuildPointNum : ℕ := 1500

/-- A son of a node. -/
inductive Side where
  | left
  | right
  deriving DecidableEq

/-- A slot of the tree, by the way from the root. -/
abbrev TreePath := List Side

/-- Whether `*Rebuild_Ptr` is a slot when the operation gets there.  The pointer moves while
an operation runs, which compares each slot with it once. -/
abbrev RebuildPtr := TreePath → Bool

@[simp] theorem Tree.count_pushed (need : Bool) (root : KdTreeNode K α) (son : Tree K α) :
    (son.pushed need root).count = son.count := by
  cases son <;> rfl

@[simp] theorem Tree.count_pushLeft (root : KdTreeNode K α) (left : Tree K α) :
    (root.pushLeft left).count = left.count := Tree.count_pushed _ _ _

@[simp] theorem Tree.count_pushRight (root : KdTreeNode K α) (right : Tree K α) :
    (root.pushRight right).count = right.count := Tree.count_pushed _ _ _

theorem Tree.node_ne_nullptr (root : KdTreeNode K α) (left right : Tree K α) :
    Tree.node root left right ≠ .nullptr := nofun

/-- Induction as the recursive functions go: on the sons after the push-down. -/
theorem Tree.pushInduction {motive : Tree K α → Prop} (nullptr : motive .nullptr)
    (node : ∀ root left right, motive (root.pushLeft left) → motive (root.pushRight right) →
      motive (.node root left right)) (tree : Tree K α) : motive tree := by
  induction count : tree.count using Nat.strong_induction_on generalizing tree with
  | _ size ih =>
      cases tree with
      | nullptr => exact nullptr
      | node root left right =>
          rw [Tree.count] at count
          apply node
          · exact ih left.count (by omega) _ (Tree.count_pushLeft root left)
          · exact ih right.count (by omega) _ (Tree.count_pushRight root right)

/-- A tree after push-downs on the way from the root. -/
inductive PushedDown : Tree K α → Tree K α → Prop where
  | refl (tree) : PushedDown tree tree
  | trans {first second third} (before : PushedDown first second)
      (after : PushedDown second third) : PushedDown first third
  | node {root : KdTreeNode K α} {left right left' right'}
      (onLeft : PushedDown (root.pushLeft left) left')
      (onRight : PushedDown (root.pushRight right) right') :
      PushedDown (.node root left right) (.node (root.pushedDown left right) left' right')

/-- The push-down of one node. -/
theorem PushedDown.self (root : KdTreeNode K α) (left right : Tree K α) :
    PushedDown (.node root left right)
      (.node (root.pushedDown left right) (root.pushLeft left) (root.pushRight right)) :=
  .node (.refl _) (.refl _)

theorem PushedDown.count_eq {tree tree' : Tree K α} (pushed : PushedDown tree tree') :
    tree'.count = tree.count := by
  induction pushed with
  | refl tree => rfl
  | trans _ _ ihBefore ihAfter => exact ihAfter.trans ihBefore
  | node _ _ ihLeft ihRight =>
      rw [Tree.count_pushLeft] at ihLeft
      rw [Tree.count_pushRight] at ihRight
      rw [Tree.count, Tree.count, ihLeft, ihRight]

/-! ## Flattening -/

/-- `KD_TREE::flatten` with the tree after its push-downs, `Storage`, and what
`DELETE_POINTS_REC` records. -/
def flatten : Tree K α → Tree K α × List (PointType K α) × List (PointType K α)
  | .nullptr => (.nullptr, [], [])
  | .node root left right =>
      let l := flatten (root.pushLeft left)
      let r := flatten (root.pushRight right)
      (.node (root.pushedDown left right) l.1 r.1,
        (if root.pointDeleted then [] else [root.point]) ++ l.2.1 ++ r.2.1,
        l.2.2 ++ r.2.2 ++
          if root.pointDeleted && !root.pointDownsampleDeleted then [root.point] else [])
termination_by tree => tree.count
decreasing_by
  · simp only [Tree.count, Tree.count_pushLeft]; omega
  · simp only [Tree.count, Tree.count_pushRight]; omega

/-- `flatten` only pushes down. -/
theorem flatten_pushedDown (tree : Tree K α) : PushedDown tree (flatten tree).1 := by
  induction tree using Tree.pushInduction with
  | nullptr =>
      rw [flatten]
      exact .refl _
  | node root left right ihLeft ihRight =>
      rw [flatten]
      exact .node ihLeft ihRight

/-! ## Building -/

section Build

variable [LinearOrder K]

/-- `std::nth_element` under `point_cmp_x`, `point_cmp_y` or `point_cmp_z`, as documented:
a rearrangement around the element at the place. -/
structure NthElement (K α : Type*) [LinearOrder K] where
  run : Axis → List (PointType K α) → ℕ → List (PointType K α)
  perm : ∀ axis points place, (run axis points place).Perm points
  before : ∀ axis points place nth earlier, (run axis points place)[place]? = some nth →
    earlier ∈ (run axis points place).take place → earlier.coord axis ≤ nth.coord axis
  after : ∀ axis points place nth later, (run axis points place)[place]? = some nth →
    later ∈ (run axis points place).drop (place + 1) → nth.coord axis ≤ later.coord axis

@[simp] theorem NthElement.length_run (nthElement : NthElement K α) (axis : Axis)
    (points : List (PointType K α)) (place : ℕ) :
    (nthElement.run axis points place).length = points.length :=
  (nthElement.perm axis points place).length_eq

theorem NthElement.mid_lt_length (nthElement : NthElement K α) (axis : Axis)
    (first : PointType K α) (rest : List (PointType K α)) :
    rest.length / 2 < (nthElement.run axis (first :: rest) (rest.length / 2)).length := by
  rw [NthElement.length_run, List.length_cons]
  omega

theorem pairwise_mergeSort_coord (axis : Axis) (points : List (PointType K α)) :
    (points.mergeSort fun a b => decide (a.coord axis ≤ b.coord axis)).Pairwise
      fun a b => a.coord axis ≤ b.coord axis := by
  have sorted := @List.pairwise_mergeSort _
    (fun a b : PointType K α => decide (a.coord axis ≤ b.coord axis))
    (fun a b c first second =>
      decide_eq_true ((of_decide_eq_true first).trans (of_decide_eq_true second)))
    (fun a b => by simpa using le_total _ _) points
  exact sorted.imp of_decide_eq_true

/-- Sorting the whole storage, which puts every element at its place. -/
def NthElement.sorting : NthElement K α where
  run axis points _ := points.mergeSort fun a b => decide (a.coord axis ≤ b.coord axis)
  perm _ points _ := List.mergeSort_perm points _
  before axis points place nth earlier here member := by
    obtain ⟨index, below, rfl⟩ := List.mem_take_iff_getElem.mp member
    obtain ⟨inside, rfl⟩ := List.getElem?_eq_some_iff.mp here
    exact List.pairwise_iff_getElem.mp (pairwise_mergeSort_coord axis points) index place
      (by omega) inside (by omega)
  after axis points place nth later here member := by
    obtain ⟨index, below, rfl⟩ := List.mem_drop_iff_getElem.mp member
    obtain ⟨inside, rfl⟩ := List.getElem?_eq_some_iff.mp here
    exact List.pairwise_iff_getElem.mp (pairwise_mergeSort_coord axis points) place
      (place + 1 + index) inside (by omega) (by omega)

/-- `dim_range` of a storage that starts with `first`. -/
def dimRange [Sub K] (first : PointType K α) (rest : List (PointType K α)) (axis : Axis) : K :=
  rest.foldl (fun value point => max value (point.coord axis)) (first.coord axis) -
    rest.foldl (fun value point => min value (point.coord axis)) (first.coord axis)

/-- The axis `KD_TREE::BuildTree` divides by: the first of the longest. -/
def divAxis [Sub K] (first : PointType K α) (rest : List (PointType K α)) : Axis :=
  let axis := if dimRange first rest .y > dimRange first rest .x then .y else .x
  if dimRange first rest .z > dimRange first rest axis then .z else axis

variable [Field K]

/-- `KD_TREE::BuildTree` on the part of the storage from `l` to `r`. -/
def buildTree (nthElement : NthElement K α) : List (PointType K α) → Tree K α
  | [] => .nullptr
  | first :: rest =>
      let axis := divAxis first rest
      let mid := rest.length / 2
      let storage := nthElement.run axis (first :: rest) mid
      let left := buildTree nthElement (storage.take mid)
      let right := buildTree nthElement (storage.drop (mid + 1))
      let root := KdTreeNode.init (storage.get ⟨mid, nthElement.mid_lt_length axis first rest⟩) axis
      .node (root.update left right) left right
termination_by points => points.length
decreasing_by
  · simp only [List.length_take, List.length_cons]; omega
  · simp only [List.length_drop, NthElement.length_run, List.length_cons]; omega

/-- Parameters of the tree. -/
structure Settings (K α : Type*) [LinearOrder K] where
  deleteCriterionParam : K
  balanceCriterionParam : K
  downsampleSize : K
  nthElement : NthElement K α

/-- `KD_TREE::Criterion_Check`.  A tree above the minimal size has a son. -/
def criterionCheck (settings : Settings K α) (root : KdTreeNode K α) (left right : Tree K α) :
    Bool :=
  if root.treeSize ≤ minimalUnbalancedTreeSize then false
  else
    let son := if left.isNull then right else left
    let deleteEvaluation : K := root.invalidPointNum / root.treeSize
    let balanceEvaluation : K := son.treeSize / (root.treeSize - 1 : ℕ)
    decide (deleteEvaluation > settings.deleteCriterionParam) ||
      (decide (balanceEvaluation > settings.balanceCriterionParam) ||
        decide (balanceEvaluation < 1 - settings.balanceCriterionParam))

/-- `KD_TREE::Rebuild`.  A large tree is left as it is, for the other thread: what that makes of
it is in `Rebuild` and `swapIn`. -/
def rebuild (settings : Settings K α) (tree : Tree K α) : Tree K α × List (PointType K α) :=
  if tree.treeSize ≥ multiThreadRebuildPointNum then (tree, [])
  else (buildTree settings.nthElement (flatten tree).2.1, (flatten tree).2.2)

/-- How every operation ends at a node: `Update`, and `Rebuild` where it is due. -/
def finish (settings : Settings K α) (allowRebuild : Bool) (root : KdTreeNode K α)
    (left right : Tree K α) : Tree K α × List (PointType K α) :=
  let updated := root.update left right
  if allowRebuild && criterionCheck settings updated left right then
    rebuild settings (.node updated left right)
  else (.node updated left right, [])

end Build

/-! ## Changing the tree -/

section Change

variable [Field K] [LinearOrder K] (settings : Settings K α)

/-- `allow_rebuild` for a son: not where the other thread's rebuild is due. -/
def allowSon (rebuildPtr : RebuildPtr) (allowRebuild : Bool) (son : TreePath) : Bool :=
  allowRebuild && !rebuildPtr son

/-- `KD_TREE::Add_by_point`. -/
def addByPoint (rebuildPtr : RebuildPtr) (point : PointType K α) :
    Bool → TreePath → Axis → Tree K α → Tree K α × List (PointType K α)
  | _, _, fatherAxis, .nullptr =>
      let root := KdTreeNode.init point fatherAxis.next
      (.node (root.update .nullptr .nullptr) .nullptr .nullptr, [])
  | allowRebuild, slot, _, .node root left right =>
      let pushed := root.pushedDown left right
      if point.coord root.divisionAxis < root.point.coord root.divisionAxis then
        let son := slot ++ [.left]
        let l := addByPoint rebuildPtr point (allowSon rebuildPtr allowRebuild son) son
          root.divisionAxis (root.pushLeft left)
        let done := finish settings allowRebuild pushed l.1 (root.pushRight right)
        (done.1, l.2 ++ done.2)
      else
        let son := slot ++ [.right]
        let r := addByPoint rebuildPtr point (allowSon rebuildPtr allowRebuild son) son
          root.divisionAxis (root.pushRight right)
        let done := finish settings allowRebuild pushed (root.pushLeft left) r.1
        (done.1, r.2 ++ done.2)
termination_by _ _ _ tree => tree.count
decreasing_by
  · simp only [Tree.count, Tree.count_pushLeft]; omega
  · simp only [Tree.count, Tree.count_pushRight]; omega

/-- A node whose whole tree `KD_TREE::Delete_by_range` deletes. -/
def KdTreeNode.deleteTree (root : KdTreeNode K α) (isDownsample : Bool) : KdTreeNode K α :=
  { root with
    treeDeleted := true
    pointDeleted := true
    needPushDownToLeft := true
    needPushDownToRight := true
    invalidPointNum := root.treeSize
    treeDownsampleDeleted := root.treeDownsampleDeleted || isDownsample
    pointDownsampleDeleted := root.pointDownsampleDeleted || isDownsample
    downDelNum := if isDownsample then root.treeSize else root.downDelNum }

/-- A node whose point `KD_TREE::Delete_by_range` deletes. -/
def KdTreeNode.deletePoint (root : KdTreeNode K α) (isDownsample : Bool) : KdTreeNode K α :=
  { root with
    pointDeleted := true
    pointDownsampleDeleted := root.pointDownsampleDeleted || isDownsample }

/-- `KD_TREE::Delete_by_range` with the counter it returns. -/
def deleteByRange (rebuildPtr : RebuildPtr) (box : BoxPointType K) (isDownsample : Bool) :
    Bool → TreePath → Tree K α → Tree K α × ℕ × List (PointType K α)
  | _, _, .nullptr => (.nullptr, 0, [])
  | allowRebuild, slot, .node root left right =>
      if root.treeDeleted then (.node root left right, 0, [])
      else
        let pushed := root.pushedDown left right
        if box.misses root.nodeRange then
          (.node pushed (root.pushLeft left) (root.pushRight right), 0, [])
        else if box.covers root.nodeRange then
          (.node (pushed.deleteTree isDownsample) (root.pushLeft left) (root.pushRight right),
            root.treeSize - root.invalidPointNum, [])
        else
          let hit := !root.pointDeleted && box.contains root.point
          let marked := if hit then pushed.deletePoint isDownsample else pushed
          let l := deleteByRange rebuildPtr box isDownsample
            (allowSon rebuildPtr allowRebuild (slot ++ [.left])) (slot ++ [.left])
            (root.pushLeft left)
          let r := deleteByRange rebuildPtr box isDownsample
            (allowSon rebuildPtr allowRebuild (slot ++ [.right])) (slot ++ [.right])
            (root.pushRight right)
          let done := finish settings allowRebuild marked l.1 r.1
          (done.1, hit.toNat + l.2.1 + r.2.1, l.2.2 ++ r.2.2 ++ done.2)
termination_by _ _ tree => tree.count
decreasing_by
  · simp only [Tree.count, Tree.count_pushLeft]; omega
  · simp only [Tree.count, Tree.count_pushRight]; omega

end Change

/-! ## Searching a box -/

section Search

variable [LinearOrder K]

/-- `KD_TREE::Search_by_range`, with the tree after its push-downs. -/
def searchByRange (box : BoxPointType K) : Tree K α → Tree K α × List (PointType K α)
  | .nullptr => (.nullptr, [])
  | .node root left right =>
      let pushed := root.pushedDown left right
      if box.misses root.nodeRange then
        (.node pushed (root.pushLeft left) (root.pushRight right), [])
      else if box.covers root.nodeRange then
        let flat := flatten (.node pushed (root.pushLeft left) (root.pushRight right))
        (flat.1, flat.2.1)
      else
        let l := searchByRange box (root.pushLeft left)
        let r := searchByRange box (root.pushRight right)
        (.node pushed l.1 r.1,
          (if box.contains root.point && !root.pointDeleted then [root.point] else []) ++
            l.2 ++ r.2)
termination_by tree => tree.count
decreasing_by
  · simp only [Tree.count, Tree.count_pushLeft]; omega
  · simp only [Tree.count, Tree.count_pushRight]; omega

/-- `Search_by_range` only pushes down. -/
theorem searchByRange_pushedDown (box : BoxPointType K) (tree : Tree K α) :
    PushedDown tree (searchByRange box tree).1 := by
  induction tree using Tree.pushInduction with
  | nullptr =>
      rw [searchByRange]
      exact .refl _
  | node root left right ihLeft ihRight =>
      rw [searchByRange]
      dsimp only
      split
      · exact .self root left right
      · split
        · exact (PushedDown.self root left right).trans (flatten_pushedDown _)
        · exact .node ihLeft ihRight

end Search

end ScoutStack.IkdTree
