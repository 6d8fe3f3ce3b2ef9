import ScoutStack.Lib.Numerals
import Mathlib.Algebra.Field.Basic
import Mathlib.Algebra.Order.Ring.Abs
import Mathlib.Data.Finset.Insert
import Mathlib.Data.Fintype.Defs

/-!
# Nodes of the incremental k-d tree

Points, boxes and nodes of `ikd_Tree.h`, and what `Push_Down` and `Update` of `ikd_Tree.cpp`
do to one node.  The `float` arithmetic is exact in an ordered field `K`.  A node keeps the
header fields that a single thread reads; the mutexes and `working_flag` belong to the
rebuild thread, and `alpha_del` and `alpha_bal` are only written.
-/

namespace ScoutStack.IkdTree

/-- Index of a coordinate, `0`, `1` and `2` in the source. -/
inductive Axis where
  | x
  | y
  | z
  deriving DecidableEq

instance : Fintype Axis where
  elems := {.x, .y, .z}
  complete axis := by cases axis <;> decide

/-- `(axis + 1) % 3`. -/
def Axis.next : Axis → Axis
  | .x => .y
  | .y => .z
  | .z => .x

/-- `PointType`; `fields` is what a point carries besides its position. -/
structure PointType (K α : Type*) where
  x : K
  y : K
  z : K
  fields : α
  deriving DecidableEq

/-- Coordinate of a point. -/
def PointType.coord {K α : Type*} (point : PointType K α) : Axis → K
  | .x => point.x
  | .y => point.y
  | .z => point.z

/-- `BoxPointType`. -/
structure BoxPointType (K : Type*) where
  vertexMin : Axis → K
  vertexMax : Axis → K

/-- `node_range_x`, `node_range_y` and `node_range_z`. -/
structure NodeRange (K : Type*) where
  low : Axis → K
  high : Axis → K

/-- `KD_TREE_NODE`, less its pointers. -/
structure KdTreeNode (K α : Type*) where
  point : PointType K α
  divisionAxis : Axis
  treeSize : ℕ
  invalidPointNum : ℕ
  downDelNum : ℕ
  pointDeleted : Bool
  treeDeleted : Bool
  pointDownsampleDeleted : Bool
  treeDownsampleDeleted : Bool
  needPushDownToLeft : Bool
  needPushDownToRight : Bool
  nodeRange : NodeRange K
  radiusSq : K

/-- A node with its sons. -/
inductive Tree (K α : Type*) where
  | nullptr
  | node (root : KdTreeNode K α) (left right : Tree K α)

variable {K α : Type*}

namespace Tree

/-- Comparison with `nullptr`. -/
def isNull : Tree K α → Bool
  | nullptr => true
  | node _ _ _ => false

/-- Number of nodes. -/
def count : Tree K α → ℕ
  | nullptr => 0
  | node _ left right => left.count + right.count + 1

/-- `TreeSize` of a son, none for a missing one. -/
def treeSize : Tree K α → ℕ
  | nullptr => 0
  | node root _ _ => root.treeSize

/-- `invalid_point_num` of a son. -/
def invalidPointNum : Tree K α → ℕ
  | nullptr => 0
  | node root _ _ => root.invalidPointNum

/-- `down_del_num` of a son. -/
def downDelNum : Tree K α → ℕ
  | nullptr => 0
  | node root _ _ => root.downDelNum

/-- No son, or `tree_deleted`. -/
def allDeleted : Tree K α → Bool
  | nullptr => true
  | node root _ _ => root.treeDeleted

/-- No son, or `tree_downsample_deleted`. -/
def allDownsampleDeleted : Tree K α → Bool
  | nullptr => true
  | node root _ _ => root.treeDownsampleDeleted

/-- A son with `tree_deleted`. -/
def someDeleted : Tree K α → Bool
  | nullptr => false
  | node root _ _ => root.treeDeleted

/-- Range of a son, unless it is deleted and only the others count. -/
def ranges (whole : Bool) : Tree K α → List (NodeRange K)
  | nullptr => []
  | node root _ _ => if whole || !root.treeDeleted then [root.nodeRange] else []

end Tree

/-! ## Distances -/

section Distances

variable [Field K]

/-- `KD_TREE::calc_dist`. -/
def calcDist (a b : PointType K α) : K :=
  (a.x - b.x) * (a.x - b.x) + (a.y - b.y) * (a.y - b.y) + (a.z - b.z) * (a.z - b.z)

variable [LinearOrder K]

/-- What an axis adds in `KD_TREE::calc_box_dist`. -/
def boxGap (range : NodeRange K) (point : PointType K α) (axis : Axis) : K :=
  (if point.coord axis < range.low axis then
    (point.coord axis - range.low axis) * (point.coord axis - range.low axis) else 0) +
  (if point.coord axis > range.high axis then
    (point.coord axis - range.high axis) * (point.coord axis - range.high axis) else 0)

/-- `KD_TREE::calc_box_dist` of a node. -/
def calcBoxDist (range : NodeRange K) (point : PointType K α) : K :=
  boxGap range point .x + boxGap range point .y + boxGap range point .z

/-- `KD_TREE::calc_box_dist`, `INFINITY` without a node. -/
def Tree.boxDist (point : PointType K α) : Tree K α → WithTop K
  | .nullptr => ⊤
  | .node root _ _ => (calcBoxDist root.nodeRange point : K)

/-- `EPSS`. -/
def epss : K := 1 / 10 ^ 6

/-- `KD_TREE::same_point`. -/
def samePoint (a b : PointType K α) : Bool :=
  decide (|a.x - b.x| < epss) && decide (|a.y - b.y| < epss) && decide (|a.z - b.z| < epss)

end Distances

/-! ## Boxes -/

section Boxes

variable [LinearOrder K]

/-- The point lies in the box. -/
def BoxPointType.contains (box : BoxPointType K) (point : PointType K α) : Bool :=
  decide (∀ axis, box.vertexMin axis ≤ point.coord axis ∧ box.vertexMax axis > point.coord axis)

/-- The box misses the range of a node. -/
def BoxPointType.misses (box : BoxPointType K) (range : NodeRange K) : Bool :=
  decide (∃ axis, box.vertexMax axis ≤ range.low axis ∨ box.vertexMin axis > range.high axis)

/-- The box covers the range of a node. -/
def BoxPointType.covers (box : BoxPointType K) (range : NodeRange K) : Bool :=
  decide (∀ axis, box.vertexMin axis ≤ range.low axis ∧ box.vertexMax axis > range.high axis)

/-- Range of a single point. -/
def NodeRange.ofPoint (point : PointType K α) : NodeRange K where
  low := point.coord
  high := point.coord

/-- Smallest range around two. -/
def NodeRange.join (a b : NodeRange K) : NodeRange K where
  low axis := min (a.low axis) (b.low axis)
  high axis := max (a.high axis) (b.high axis)

end Boxes

/-! ## Push-down -/

/-- What `KD_TREE::Push_Down` writes into a son. -/
def KdTreeNode.receive (root son : KdTreeNode K α) : KdTreeNode K α :=
  let treeDownsampleDeleted := son.treeDownsampleDeleted || root.treeDownsampleDeleted
  let pointDownsampleDeleted := son.pointDownsampleDeleted || root.treeDownsampleDeleted
  let treeDeleted := root.treeDeleted || treeDownsampleDeleted
  let downDelNum := if root.treeDownsampleDeleted then son.treeSize else son.downDelNum
  { son with
    treeDownsampleDeleted := treeDownsampleDeleted
    pointDownsampleDeleted := pointDownsampleDeleted
    treeDeleted := treeDeleted
    pointDeleted := treeDeleted || pointDownsampleDeleted
    downDelNum := downDelNum
    invalidPointNum := if root.treeDeleted then son.treeSize else downDelNum
    needPushDownToLeft := true
    needPushDownToRight := true }

/-- A son after its father's `KD_TREE::Push_Down`. -/
def Tree.pushed (need : Bool) (root : KdTreeNode K α) : Tree K α → Tree K α
  | .nullptr => .nullptr
  | .node son left right => .node (if need then root.receive son else son) left right

/-- A node after its own `KD_TREE::Push_Down`; a label stays where there is no son. -/
def KdTreeNode.pushedDown (root : KdTreeNode K α) (left right : Tree K α) : KdTreeNode K α :=
  { root with
    needPushDownToLeft := root.needPushDownToLeft && left.isNull
    needPushDownToRight := root.needPushDownToRight && right.isNull }

/-- Left son after `KD_TREE::Push_Down`. -/
def KdTreeNode.pushLeft (root : KdTreeNode K α) (left : Tree K α) : Tree K α :=
  left.pushed root.needPushDownToLeft root

/-- Right son after `KD_TREE::Push_Down`. -/
def KdTreeNode.pushRight (root : KdTreeNode K α) (right : Tree K α) : Tree K α :=
  right.pushed root.needPushDownToRight root

/-! ## Update -/

section Update

variable [Field K] [LinearOrder K]

/-- `node_range` in `KD_TREE::Update`: of everything when all or nothing is deleted, of what
is not deleted otherwise.  Some range is always among them, the node's own if need be. -/
def KdTreeNode.spanned (root : KdTreeNode K α) (left right : Tree K α) : NodeRange K :=
  let whole := (left.allDeleted && right.allDeleted && root.pointDeleted) ||
    (!left.someDeleted && !right.someDeleted && !root.pointDeleted)
  let own := if whole || !root.pointDeleted then [NodeRange.ofPoint root.point] else []
  match left.ranges whole ++ (right.ranges whole ++ own) with
  | [] => NodeRange.ofPoint root.point
  | first :: rest => rest.foldl NodeRange.join first

/-- `radius_sq`. -/
def NodeRange.radiusSq (range : NodeRange K) : K :=
  let xL := (range.high .x - range.low .x) / 2
  let yL := (range.high .y - range.low .y) / 2
  let zL := (range.high .z - range.low .z) / 2
  xL * xL + yL * yL + zL * zL

/-- `KD_TREE::Update`.  The four cases for the sons differ in the missing ones only. -/
def KdTreeNode.update (root : KdTreeNode K α) (left right : Tree K α) : KdTreeNode K α :=
  { root with
    treeSize := left.treeSize + right.treeSize + 1
    invalidPointNum := left.invalidPointNum + right.invalidPointNum + root.pointDeleted.toNat
    downDelNum := left.downDelNum + right.downDelNum + root.pointDownsampleDeleted.toNat
    treeDownsampleDeleted := left.allDownsampleDeleted && right.allDownsampleDeleted &&
      root.pointDownsampleDeleted
    treeDeleted := left.allDeleted && right.allDeleted && root.pointDeleted
    nodeRange := root.spanned left right
    radiusSq := (root.spanned left right).radiusSq }

/-- `KD_TREE::InitTreeNode` with its point and axis. -/
def KdTreeNode.init (point : PointType K α) (axis : Axis) : KdTreeNode K α where
  point := point
  divisionAxis := axis
  treeSize := 0
  invalidPointNum := 0
  downDelNum := 0
  pointDeleted := false
  treeDeleted := false
  pointDownsampleDeleted := false
  treeDownsampleDeleted := false
  needPushDownToLeft := false
  needPushDownToRight := false
  nodeRange := NodeRange.ofPoint point
  radiusSq := 0

end Update

end ScoutStack.IkdTree
