import ScoutStack.IkdTree.Tree
import Mathlib.Algebra.Order.Group.Multiset
import Mathlib.Data.Multiset.Filter

/-!
# What a tree holds

A tree holds slots: points with their two deletion marks, as they are once every pending
label has been pushed down.  `Valid` says that each header describes the slots below it.
-/

namespace ScoutStack.IkdTree

variable {K α : Type*}

/-- A stored point with its marks. -/
structure Slot (K α : Type*) where
  point : PointType K α
  deleted : Bool
  downsampled : Bool

/-- The slot of a node itself. -/
def KdTreeNode.slot (root : KdTreeNode K α) : Slot K α where
  point := root.point
  deleted := root.pointDeleted
  downsampled := root.pointDownsampleDeleted

/-- What the label of a node does to a slot below it. -/
def KdTreeNode.relabel (root : KdTreeNode K α) (slot : Slot K α) : Slot K α :=
  { slot with
    deleted := root.treeDeleted || (slot.downsampled || root.treeDownsampleDeleted)
    downsampled := slot.downsampled || root.treeDownsampleDeleted }

/-- Slots under a label that may be pending. -/
def KdTreeNode.pending (root : KdTreeNode K α) (need : Bool) (slots : Multiset (Slot K α)) :
    Multiset (Slot K α) :=
  if need then slots.map root.relabel else slots

/-- The slots of a tree. -/
def slots : Tree K α → Multiset (Slot K α)
  | .nullptr => 0
  | .node root left right =>
      root.slot ::ₘ (root.pending root.needPushDownToLeft (slots left) +
        root.pending root.needPushDownToRight (slots right))

/-- The points that are not deleted. -/
def liveOf (slots : Multiset (Slot K α)) : Multiset (PointType K α) :=
  (slots.filter fun slot => slot.deleted = false).map Slot.point

/-- The points that are deleted, but not by downsampling. -/
def removedOf (slots : Multiset (Slot K α)) : Multiset (PointType K α) :=
  (slots.filter fun slot => slot.deleted = true ∧ slot.downsampled = false).map Slot.point

/-- The map a tree stands for. -/
def live (tree : Tree K α) : Multiset (PointType K α) := liveOf (slots tree)

/-- The deleted points that a rebuild would record. -/
def removed (tree : Tree K α) : Multiset (PointType K α) := removedOf (slots tree)

section Lists

@[simp] theorem liveOf_zero : liveOf (0 : Multiset (Slot K α)) = 0 := rfl

@[simp] theorem removedOf_zero : removedOf (0 : Multiset (Slot K α)) = 0 := rfl

@[simp] theorem liveOf_add (a b : Multiset (Slot K α)) : liveOf (a + b) = liveOf a + liveOf b := by
  simp [liveOf, Multiset.filter_add]

@[simp] theorem removedOf_add (a b : Multiset (Slot K α)) :
    removedOf (a + b) = removedOf a + removedOf b := by
  simp [removedOf, Multiset.filter_add]

@[simp] theorem liveOf_cons (slot : Slot K α) (slots : Multiset (Slot K α)) :
    liveOf (slot ::ₘ slots) = (if slot.deleted then 0 else {slot.point}) + liveOf slots := by
  cases dead : slot.deleted <;> simp [liveOf, dead]

@[simp] theorem removedOf_cons (slot : Slot K α) (slots : Multiset (Slot K α)) :
    removedOf (slot ::ₘ slots) =
      (if slot.deleted && !slot.downsampled then {slot.point} else 0) + removedOf slots := by
  cases dead : slot.deleted <;> cases down : slot.downsampled <;> simp [removedOf, dead, down]

/-- Nothing is live iff every slot is deleted. -/
theorem liveOf_eq_zero_iff {slots : Multiset (Slot K α)} :
    liveOf slots = 0 ↔ ∀ slot ∈ slots, slot.deleted = true := by
  rw [liveOf, Multiset.map_eq_zero, Multiset.filter_eq_nil]
  simp only [Bool.not_eq_false]

theorem card_liveOf (slots : Multiset (Slot K α)) :
    (liveOf slots).card + slots.countP (fun slot => slot.deleted = true) = slots.card := by
  rw [liveOf, Multiset.card_map, ← Multiset.countP_eq_card_filter, add_comm,
    Multiset.card_eq_countP_add_countP (fun slot : Slot K α => slot.deleted = true) slots]
  simp only [Bool.not_eq_true]

end Lists

/-! ## Ranges -/

section Hull

variable [LinearOrder K]

/-- The smallest range around the points. -/
structure Hull (range : NodeRange K) (points : Multiset (PointType K α)) : Prop where
  encloses : ∀ point ∈ points, ∀ axis,
    range.low axis ≤ point.coord axis ∧ point.coord axis ≤ range.high axis
  low_mem : ∀ axis, ∃ point ∈ points, point.coord axis = range.low axis
  high_mem : ∀ axis, ∃ point ∈ points, point.coord axis = range.high axis

theorem hull_ofPoint (point : PointType K α) : Hull (NodeRange.ofPoint point) {point} where
  encloses other member axis := by
    rw [Multiset.mem_singleton.mp member]
    exact ⟨le_refl _, le_refl _⟩
  low_mem _ := ⟨point, Multiset.mem_singleton_self point, rfl⟩
  high_mem _ := ⟨point, Multiset.mem_singleton_self point, rfl⟩

theorem Hull.join {a b : NodeRange K} {first second : Multiset (PointType K α)}
    (left : Hull a first) (right : Hull b second) : Hull (a.join b) (first + second) where
  encloses point member axis := by
    rcases Multiset.mem_add.mp member with inFirst | inSecond
    · obtain ⟨low, high⟩ := left.encloses point inFirst axis
      exact ⟨(min_le_left _ _).trans low, high.trans (le_max_left _ _)⟩
    · obtain ⟨low, high⟩ := right.encloses point inSecond axis
      exact ⟨(min_le_right _ _).trans low, high.trans (le_max_right _ _)⟩
  low_mem axis := by
    rcases le_total (a.low axis) (b.low axis) with order | order
    · obtain ⟨point, member, equal⟩ := left.low_mem axis
      exact ⟨point, Multiset.mem_add.mpr (.inl member), equal.trans (min_eq_left order).symm⟩
    · obtain ⟨point, member, equal⟩ := right.low_mem axis
      exact ⟨point, Multiset.mem_add.mpr (.inr member), equal.trans (min_eq_right order).symm⟩
  high_mem axis := by
    rcases le_total (a.high axis) (b.high axis) with order | order
    · obtain ⟨point, member, equal⟩ := right.high_mem axis
      exact ⟨point, Multiset.mem_add.mpr (.inr member), equal.trans (max_eq_right order).symm⟩
    · obtain ⟨point, member, equal⟩ := left.high_mem axis
      exact ⟨point, Multiset.mem_add.mpr (.inl member), equal.trans (max_eq_left order).symm⟩

/-- Joining the ranges of several parts. -/
theorem hull_foldl {rest : List (NodeRange K)} {parts : List (Multiset (PointType K α))}
    (hulls : List.Forall₂ Hull rest parts) :
    ∀ {first : NodeRange K} {points : Multiset (PointType K α)}, Hull first points →
      Hull (rest.foldl NodeRange.join first) (points + parts.sum) := by
  induction hulls with
  | nil =>
      intro first points hull
      rwa [List.sum_nil, add_zero]
  | @cons range part rest parts head tail ih =>
      intro first points hull
      rw [List.sum_cons, ← add_assoc]
      exact ih (hull.join head)

/-- A box that misses the range holds none of the points. -/
theorem Hull.misses {range : NodeRange K} {points : Multiset (PointType K α)}
    (hull : Hull range points) {box : BoxPointType K} (misses : box.misses range = true)
    {point : PointType K α} (member : point ∈ points) : box.contains point = false := by
  obtain ⟨axis, outside⟩ := of_decide_eq_true misses
  obtain ⟨low, high⟩ := hull.encloses point member axis
  rw [BoxPointType.contains, decide_eq_false_iff_not]
  intro inside
  obtain ⟨first, second⟩ := inside axis
  rcases outside with below | above
  · exact absurd (lt_of_lt_of_le second below) (not_lt.mpr low)
  · exact absurd (lt_of_lt_of_le above first) (not_lt.mpr high)

/-- A box covers the range iff it holds all the points. -/
theorem Hull.covers_iff {range : NodeRange K} {points : Multiset (PointType K α)}
    (hull : Hull range points) (box : BoxPointType K) :
    box.covers range = true ↔ ∀ point ∈ points, box.contains point = true := by
  constructor
  · intro covers point member
    apply decide_eq_true
    intro axis
    obtain ⟨low, high⟩ := of_decide_eq_true covers axis
    obtain ⟨below, above⟩ := hull.encloses point member axis
    exact ⟨low.trans below, lt_of_le_of_lt above high⟩
  · intro all
    apply decide_eq_true
    intro axis
    obtain ⟨lowest, member, low⟩ := hull.low_mem axis
    obtain ⟨highest, among, high⟩ := hull.high_mem axis
    rw [← low, ← high]
    exact ⟨(of_decide_eq_true (all lowest member) axis).1,
      (of_decide_eq_true (all highest among) axis).2⟩

end Hull

/-! ## Validity -/

section Valid

variable [LinearOrder K]

/-- A header describes the slots of its tree. -/
structure KdTreeNode.Describes (root : KdTreeNode K α) (slots : Multiset (Slot K α)) : Prop where
  size : root.treeSize = slots.card
  invalid : root.invalidPointNum = slots.countP fun slot => slot.deleted = true
  down : root.downDelNum = slots.countP fun slot => slot.downsampled = true
  deleted_iff : root.treeDeleted = true ↔ ∀ slot ∈ slots, slot.deleted = true
  down_iff : root.treeDownsampleDeleted = true ↔ ∀ slot ∈ slots, slot.downsampled = true
  deleted_of_down : ∀ slot ∈ slots, slot.downsampled = true → slot.deleted = true
  range : liveOf slots ≠ 0 → Hull root.nodeRange (liveOf slots)

/-- A label that is pending deletes the son, or finds nothing deleted in it. -/
def KdTreeNode.Settled (root : KdTreeNode K α) (son : Tree K α) : Prop :=
  root.treeDeleted = true ∨ ∀ slot ∈ slots son, slot.deleted = false

/-- Every header describes the slots below it, and no pending label revives a point. -/
def Valid : Tree K α → Prop
  | .nullptr => True
  | .node root left right =>
      root.Describes (slots (.node root left right)) ∧
        (root.needPushDownToLeft = true → root.Settled left) ∧
        (root.needPushDownToRight = true → root.Settled right) ∧ Valid left ∧ Valid right

theorem KdTreeNode.Describes.treeDeleted_of_down {root : KdTreeNode K α}
    {slots : Multiset (Slot K α)} (describes : root.Describes slots)
    (down : root.treeDownsampleDeleted = true) : root.treeDeleted = true :=
  describes.deleted_iff.mpr fun slot member =>
    describes.deleted_of_down slot member (describes.down_iff.mp down slot member)

end Valid

end ScoutStack.IkdTree
