import ScoutStack.IkdTree.Headers
import Mathlib.Tactic.Abel

/-!
# What the operations do to the map

One specification for each recursive function: the tree stays valid, and the live points
and the recorded ones change as they should, whatever the shape of the tree, the pending
labels and the rebuilds on the way.
-/

namespace ScoutStack.IkdTree

variable {K α : Type*}

section Lists

/-- The point of a node, while it is live. -/
def KdTreeNode.ownLive (root : KdTreeNode K α) : Multiset (PointType K α) :=
  liveOf {root.slot}

/-- The point of a node, once it is removed. -/
def KdTreeNode.ownRemoved (root : KdTreeNode K α) : Multiset (PointType K α) :=
  removedOf {root.slot}

theorem coe_own (root : KdTreeNode K α) :
    (((if root.pointDeleted then [] else [root.point]) : List (PointType K α)) :
      Multiset (PointType K α)) = root.ownLive := by
  cases dead : root.pointDeleted <;>
    simp [KdTreeNode.ownLive, liveOf, KdTreeNode.slot, Multiset.filter_singleton, dead]

theorem coe_ownRemoved (root : KdTreeNode K α) :
    (((if root.pointDeleted && !root.pointDownsampleDeleted then [root.point] else []) :
      List (PointType K α)) : Multiset (PointType K α)) = root.ownRemoved := by
  cases dead : root.pointDeleted <;> cases down : root.pointDownsampleDeleted <;>
    simp [KdTreeNode.ownRemoved, removedOf, KdTreeNode.slot, Multiset.filter_singleton, dead,
      down]

theorem ownLive_eq (root : KdTreeNode K α) :
    root.ownLive = if root.pointDeleted then 0 else {root.point} := by
  rw [← coe_own]
  cases root.pointDeleted <;> rfl

theorem ownRemoved_eq (root : KdTreeNode K α) :
    root.ownRemoved =
      if root.pointDeleted && !root.pointDownsampleDeleted then {root.point} else 0 := by
  rw [← coe_ownRemoved]
  cases root.pointDeleted && !root.pointDownsampleDeleted <;> rfl

theorem liveOf_node (root : KdTreeNode K α) (slots : Multiset (Slot K α)) :
    liveOf (root.slot ::ₘ slots) = root.ownLive + liveOf slots := by
  rw [← Multiset.singleton_add, liveOf_add, KdTreeNode.ownLive]

theorem removedOf_node (root : KdTreeNode K α) (slots : Multiset (Slot K α)) :
    removedOf (root.slot ::ₘ slots) = root.ownRemoved + removedOf slots := by
  rw [← Multiset.singleton_add, removedOf_add, KdTreeNode.ownRemoved]

/-- What an operation recorded below its left son counts for the node. -/
theorem recorded_left {done last own first second below before : Multiset (PointType K α)}
    (dead : done + last = own + (first + second)) (son : first + below = before) :
    done + (below + last) = own + (before + second) := by
  rw [← son, add_left_comm, dead]
  abel

theorem recorded_right {done last own first second below before : Multiset (PointType K α)}
    (dead : done + last = own + (first + second)) (son : second + below = before) :
    done + (below + last) = own + (first + before) := by
  rw [← son, add_left_comm, dead]
  abel

theorem recorded_both {done last own first second below beyond a b : Multiset (PointType K α)}
    (dead : done + last = own + (first + second)) (left : first + below = a)
    (right : second + beyond = b) : done + (below + beyond + last) = own + (a + b) := by
  rw [← left, ← right, add_left_comm, dead]
  abel

theorem add_add_add_add (a b c d e f : Multiset (PointType K α)) :
    a + b + (c + d + (e + f)) = a + (c + e) + (b + (d + f)) := by abel

/-- The slot of a new point. -/
def Slot.fresh (point : PointType K α) : Slot K α where
  point := point
  deleted := false
  downsampled := false

theorem liveOf_fresh (points : Multiset (PointType K α)) :
    liveOf (points.map Slot.fresh) = points := by
  induction points using Multiset.induction with
  | empty => rfl
  | cons point points ih =>
      rw [Multiset.map_cons, liveOf_cons, ih]
      rfl

theorem removedOf_fresh (points : Multiset (PointType K α)) :
    removedOf (points.map Slot.fresh) = 0 := by
  induction points using Multiset.induction with
  | empty => rfl
  | cons point points ih =>
      rw [Multiset.map_cons, removedOf_cons, ih]
      rfl

theorem fresh_live {slots' : Multiset (Slot K α)} {point : PointType K α}
    (single : slots' = {Slot.fresh point}) :
    ∀ slot ∈ slots', slot.deleted = false := by
  intro slot member
  rw [single, Multiset.mem_singleton] at member
  rw [member]
  rfl

theorem slots_live_of_null {tree : Tree K α} (null : tree = .nullptr) :
    ∀ slot ∈ slots tree, slot.deleted = false := by
  rw [null]
  exact fun slot member => absurd member (Multiset.notMem_zero slot)

/-- Deleting a whole tree is receiving a label that deletes. -/
theorem deleteTree_eq_receive (root : KdTreeNode K α) (isDownsample : Bool) :
    root.deleteTree isDownsample = KdTreeNode.receive
      { root with treeDeleted := true, treeDownsampleDeleted := isDownsample } root := by
  simp [KdTreeNode.deleteTree, KdTreeNode.receive]

theorem removedOf_relabel {label : KdTreeNode K α} (deletes : label.treeDeleted = true)
    (raw : label.treeDownsampleDeleted = false) (slots : Multiset (Slot K α))
    (order : ∀ slot ∈ slots, slot.downsampled = true → slot.deleted = true) :
    removedOf (slots.map label.relabel) = removedOf slots + liveOf slots := by
  induction slots using Multiset.induction with
  | empty => rfl
  | cons slot slots ih =>
      have rest := ih fun other member => order other (Multiset.mem_cons_of_mem member)
      have own := order slot (Multiset.mem_cons_self slot slots)
      rw [Multiset.map_cons, removedOf_cons, removedOf_cons, liveOf_cons, rest]
      cases down : slot.downsampled with
      | true => simp [KdTreeNode.relabel, deletes, raw, down, own down]
      | false =>
          cases dead : slot.deleted <;>
            simp [KdTreeNode.relabel, deletes, raw, down]

end Lists

variable [LinearOrder K] {root : KdTreeNode K α} {tree left right : Tree K α}

theorem Valid.pointDeleted_of_down (valid : Valid (.node root left right)) :
    root.pointDownsampleDeleted = true → root.pointDeleted = true :=
  valid.1.deleted_of_down root.slot (Multiset.mem_cons_self _ _)

/-- The live points of a node, through its sons after the push-down. -/
theorem Valid.live_eq (valid : Valid (.node root left right)) :
    live (.node root left right) =
      root.ownLive + (live (root.pushLeft left) + live (root.pushRight right)) := by
  rw [live, valid.slots_eq, liveOf_node, liveOf_add]
  rfl

theorem Valid.hull (valid : Valid (.node root left right)) (kept : root.treeDeleted = false) :
    live (.node root left right) ≠ 0 ∧ Hull root.nodeRange (live (.node root left right)) := by
  have some : live (.node root left right) ≠ 0 := by
    intro empty
    rw [valid.1.deleted_iff.mpr (liveOf_eq_zero_iff.mp empty)] at kept
    contradiction
  exact ⟨some, valid.1.range some⟩

/-- The range of a node is the hull of its live points, while there are any. -/
theorem Valid.hull_of_mem (valid : Valid (.node root left right)) {point : PointType K α}
    (member : point ∈ live (.node root left right)) :
    Hull root.nodeRange (live (.node root left right)) := by
  apply valid.1.range
  intro empty
  rw [live, empty] at member
  exact Multiset.notMem_zero point member

theorem Valid.removed_eq (valid : Valid (.node root left right)) :
    removed (.node root left right) =
      root.ownRemoved + (removed (root.pushLeft left) + removed (root.pushRight right)) := by
  rw [removed, valid.slots_eq, removedOf_node, removedOf_add]
  rfl

/-! ## Flattening -/

/-- `flatten` stores the live points and records the removed ones. -/
theorem flatten_spec (tree : Tree K α) (valid : Valid tree) :
    ((flatten tree).2.1 : Multiset (PointType K α)) = live tree ∧
      ((flatten tree).2.2 : Multiset (PointType K α)) = removed tree := by
  induction tree using Tree.pushInduction with
  | nullptr =>
      rw [flatten]
      exact ⟨rfl, rfl⟩
  | node root left right ihLeft ihRight =>
      obtain ⟨liveLeft, removedLeft⟩ := ihLeft valid.pushLeft
      obtain ⟨liveRight, removedRight⟩ := ihRight valid.pushRight
      rw [flatten]
      constructor
      · rw [valid.live_eq, ← Multiset.coe_add, ← Multiset.coe_add, coe_own, liveLeft, liveRight,
          add_assoc]
      · rw [valid.removed_eq, ← Multiset.coe_add, ← Multiset.coe_add, coe_ownRemoved, removedLeft,
          removedRight, add_comm]

/-! ## Boxes -/

section Boxes

variable (box : BoxPointType K) (isDownsample : Bool)

/-- The part of a map inside the box. -/
def inBox (points : Multiset (PointType K α)) : Multiset (PointType K α) :=
  points.filter fun point => box.contains point = true

/-- The part of a map outside the box. -/
def offBox (points : Multiset (PointType K α)) : Multiset (PointType K α) :=
  points.filter fun point => ¬box.contains point = true

@[simp] theorem inBox_zero : inBox box (0 : Multiset (PointType K α)) = 0 := rfl

@[simp] theorem offBox_zero : offBox box (0 : Multiset (PointType K α)) = 0 := rfl

@[simp] theorem inBox_add (a b : Multiset (PointType K α)) :
    inBox box (a + b) = inBox box a + inBox box b := Multiset.filter_add _ _ _

@[simp] theorem offBox_add (a b : Multiset (PointType K α)) :
    offBox box (a + b) = offBox box a + offBox box b := Multiset.filter_add _ _ _

theorem inBox_add_offBox (box : BoxPointType K) (points : Multiset (PointType K α)) :
    inBox box points + offBox box points = points := Multiset.filter_add_not _ points

/-- What `Delete_by_range` returns for a tree.  Downsampling takes the mark of a removal away
from some points and sets it on none. -/
structure Deletes (tree : Tree K α) (result : Tree K α × ℕ × List (PointType K α)) : Prop where
  valid : Valid result.1
  live_eq : live result.1 = offBox box (live tree)
  counter : result.2.1 = (inBox box (live tree)).card
  removed_eq : isDownsample = false →
    removed result.1 + result.2.2 = removed tree + inBox box (live tree)
  removed_le : isDownsample = true → removed result.1 + result.2.2 ≤ removed tree

variable {box isDownsample}

/-- A tree without a live point in the box is left as it is. -/
theorem deletes_of_off {tree' : Tree K α} (valid : Valid tree') (same : slots tree' = slots tree)
    (off : ∀ point ∈ live tree, box.contains point = false) :
    Deletes box isDownsample tree (tree', 0, []) := by
  have none : inBox box (live tree) = 0 := by
    rw [inBox, Multiset.filter_eq_nil]
    intro point member
    rw [off point member]
    exact Bool.false_ne_true
  have removedSame : removed tree' = removed tree := by rw [removed, same, removed]
  refine ⟨valid, ?_, ?_, ?_, ?_⟩
  · rw [live, same, offBox]
    refine (Multiset.filter_eq_self.mpr fun point member => ?_).symm
    rw [off point member]
    exact Bool.false_ne_true
  · rw [none]
    rfl
  · intro _
    rw [none, Multiset.coe_nil, removedSame]
  · intro _
    rw [Multiset.coe_nil, add_zero, removedSame]

/-- A tree whose live points all lie in the box. -/
theorem deletes_of_covers (valid : Valid (.node root left right))
    (all : ∀ point ∈ live (.node root left right), box.contains point = true) :
    Deletes box isDownsample (.node root left right)
      (.node (root.deleteTree isDownsample) left right, root.treeSize - root.invalidPointNum,
        []) := by
  rw [deleteTree_eq_receive]
  generalize labelled : { root with
    treeDeleted := true, treeDownsampleDeleted := isDownsample } = label
  have deletes : label.treeDeleted = true := by rw [← labelled]
  have marks : label.treeDownsampleDeleted = isDownsample := by rw [← labelled]
  have whole : inBox box (live (.node root left right)) = live (.node root left right) :=
    Multiset.filter_eq_self.mpr all
  have same := slots_receive label valid
  have dead : ∀ slot ∈ slots (.node (label.receive root) left right), slot.deleted = true := by
    rw [same]
    intro slot member
    obtain ⟨old, _, rfl⟩ := Multiset.mem_map.mp member
    simp [KdTreeNode.relabel, deletes]
  refine ⟨valid_receive valid (.inl deletes) fun _ => deletes, ?_, ?_, ?_, ?_⟩
  · rw [live, liveOf_eq_zero_iff.mpr dead, offBox, eq_comm, Multiset.filter_eq_nil]
    exact fun point member outside => outside (all point member)
  · have split := card_liveOf (slots (.node root left right))
    rw [whole, live]
    have size := valid.1.size
    have invalid := valid.1.invalid
    change root.treeSize - root.invalidPointNum = _
    omega
  · intro plain
    rw [Multiset.coe_nil, add_zero, removed, same, whole]
    exact removedOf_relabel deletes (marks.trans plain) _ valid.1.deleted_of_down
  · intro down
    have none : removed (.node (label.receive root) left right) = 0 := by
      rw [removed, removedOf, same, Multiset.map_eq_zero, Multiset.filter_eq_nil]
      intro slot member marked
      obtain ⟨old, _, rfl⟩ := Multiset.mem_map.mp member
      simp [KdTreeNode.relabel, marks, down] at marked
    rw [none, Multiset.coe_nil, add_zero]
    exact Multiset.zero_le _

/-- The point of a node that the box reaches past. -/
theorem own_deleted {own marked : KdTreeNode K α} {hit : Bool}
    (order : own.pointDownsampleDeleted = true → own.pointDeleted = true)
    (hits : hit = (!own.pointDeleted && box.contains own.point))
    (marks : marked = if hit then own.deletePoint isDownsample else own) :
    marked.ownLive = offBox box own.ownLive ∧ hit.toNat = (inBox box own.ownLive).card ∧
      (isDownsample = false → marked.ownRemoved = own.ownRemoved + inBox box own.ownLive) ∧
      (isDownsample = true → marked.ownRemoved = own.ownRemoved) := by
  cases dead : own.pointDeleted with
  | true =>
      have missed : hit = false := by rw [hits, dead]; rfl
      have none : own.ownLive = 0 := by rw [ownLive_eq, dead]; rfl
      rw [marks, missed, none]
      simp [none]
  | false =>
      have raw : own.pointDownsampleDeleted = false := by
        rw [← Bool.not_eq_true]
        intro down
        rw [order down] at dead
        contradiction
      have alive : own.ownLive = {own.point} := by rw [ownLive_eq, dead]; rfl
      have kept : own.ownRemoved = 0 := by rw [ownRemoved_eq, dead]; rfl
      rw [dead] at hits
      cases inside : box.contains own.point with
      | false =>
          rw [inside] at hits
          rw [marks, hits]
          simp [alive, inBox, offBox, Multiset.filter_singleton, inside]
      | true =>
          rw [inside] at hits
          have gone : (own.deletePoint isDownsample).ownLive = 0 := by
            rw [ownLive_eq]
            rfl
          have recorded : (own.deletePoint isDownsample).ownRemoved =
              if isDownsample then 0 else {own.point} := by
            rw [ownRemoved_eq, KdTreeNode.deletePoint, raw]
            cases isDownsample <;> rfl
          rw [marks, hits]
          cases isDownsample <;>
            simp [alive, kept, gone, recorded, inBox, offBox, Multiset.filter_singleton, inside]

/-- Only what a tree holds counts. -/
theorem Deletes.of_slots {tree' : Tree K α} {result : Tree K α × ℕ × List (PointType K α)}
    (deletes : Deletes box isDownsample tree' result) (same : slots tree' = slots tree) :
    Deletes box isDownsample tree result := by
  have liveSame : live tree' = live tree := by rw [live, same, live]
  have removedSame : removed tree' = removed tree := by rw [removed, same, removed]
  obtain ⟨valid, alive, counter, equal, le⟩ := deletes
  rw [liveSame] at alive counter equal
  rw [removedSame] at equal le
  exact ⟨valid, alive, counter, equal, le⟩

end Boxes

/-! ## Building and rebuilding -/

section Build

variable [Field K]

/-- `BuildTree` stores every point once, live. -/
theorem buildTree_spec (nthElement : NthElement K α) (points : List (PointType K α)) :
    Valid (buildTree nthElement points) ∧
      slots (buildTree nthElement points) =
        (points : Multiset (PointType K α)).map Slot.fresh := by
  fun_induction buildTree nthElement points with
  | case1 => exact ⟨trivial, rfl⟩
  | case2 first rest axis mid storage left right root ihLeft ihRight =>
      obtain ⟨validLeft, slotsLeft⟩ := ihLeft
      obtain ⟨validRight, slotsRight⟩ := ihRight
      obtain ⟨valid, same⟩ := @update_valid K α _ root _ _ _ validLeft validRight
        (fun down => Bool.noConfusion down) (fun need => Bool.noConfusion need)
        (fun need => Bool.noConfusion need)
      refine ⟨valid, same.trans ?_⟩
      have split : storage = storage.take mid ++
          storage.get ⟨mid, nthElement.mid_lt_length axis first rest⟩ ::
            storage.drop (mid + 1) := by
        rw [List.get_eq_getElem, List.getElem_cons_drop, List.take_append_drop]
      have perm : (storage : Multiset (PointType K α)) = (first :: rest : List _) :=
        Multiset.coe_eq_coe.mpr (nthElement.perm axis (first :: rest) mid)
      rw [← perm, slotsLeft, slotsRight]
      conv_rhs => rw [split]
      rw [← Multiset.coe_add, ← Multiset.cons_coe, Multiset.map_add, Multiset.map_cons,
        Multiset.add_cons]
      rfl

theorem live_buildTree (nthElement : NthElement K α) (points : List (PointType K α)) :
    live (buildTree nthElement points) = points := by
  rw [live, (buildTree_spec nthElement points).2, liveOf_fresh]

theorem removed_buildTree (nthElement : NthElement K α) (points : List (PointType K α)) :
    removed (buildTree nthElement points) = 0 := by
  rw [removed, (buildTree_spec nthElement points).2, removedOf_fresh]

variable (settings : Settings K α) (allowRebuild : Bool)

/-- `Rebuild` keeps the live points and records the removed ones it drops. -/
theorem rebuild_spec (valid : Valid tree) :
    Valid (rebuild settings tree).1 ∧ live (rebuild settings tree).1 = live tree ∧
      removed (rebuild settings tree).1 + (rebuild settings tree).2 = removed tree := by
  rw [rebuild]
  split
  · exact ⟨valid, rfl, add_zero _⟩
  · obtain ⟨stored, recorded⟩ := flatten_spec tree valid
    refine ⟨(buildTree_spec _ _).1, ?_, ?_⟩
    · rw [live_buildTree, stored]
    · rw [removed_buildTree, recorded, zero_add]

/-- The end of every operation. -/
theorem finish_spec (validLeft : Valid left) (validRight : Valid right)
    (own : root.pointDownsampleDeleted = true → root.pointDeleted = true)
    (readyLeft : root.needPushDownToLeft = true → ∀ slot ∈ slots left, slot.deleted = false)
    (readyRight : root.needPushDownToRight = true → ∀ slot ∈ slots right, slot.deleted = false) :
    Valid (finish settings allowRebuild root left right).1 ∧
      live (finish settings allowRebuild root left right).1 =
        liveOf (root.slot ::ₘ (slots left + slots right)) ∧
      removed (finish settings allowRebuild root left right).1 +
          (finish settings allowRebuild root left right).2 =
        removedOf (root.slot ::ₘ (slots left + slots right)) := by
  obtain ⟨valid, same⟩ := update_valid validLeft validRight own readyLeft readyRight
  rw [finish]
  split
  · obtain ⟨rebuilt, alive, dead⟩ := rebuild_spec settings valid
    refine ⟨rebuilt, alive.trans ?_, dead.trans ?_⟩
    · rw [live, same]
    · rw [removed, same]
  · refine ⟨valid, ?_, ?_⟩
    · rw [live, same]
    · rw [Multiset.coe_nil, add_zero, removed, same]

end Build

section Change

variable [Field K] (settings : Settings K α)

/-- The end of an operation that went down from a node.  A label that is still pending met no
son, so a son that is there now is new. -/
theorem finish_pushed (root : KdTreeNode K α) (left right : Tree K α) {left' right' : Tree K α}
    (marked : KdTreeNode K α) (allowRebuild : Bool)
    (labelLeft : marked.needPushDownToLeft = (root.pushedDown left right).needPushDownToLeft)
    (labelRight : marked.needPushDownToRight = (root.pushedDown left right).needPushDownToRight)
    (own : marked.pointDownsampleDeleted = true → marked.pointDeleted = true)
    (validLeft : Valid left') (validRight : Valid right')
    (newLeft : root.pushLeft left = .nullptr → ∀ slot ∈ slots left', slot.deleted = false)
    (newRight : root.pushRight right = .nullptr → ∀ slot ∈ slots right', slot.deleted = false) :
    Valid (finish settings allowRebuild marked left' right').1 ∧
      live (finish settings allowRebuild marked left' right').1 =
        marked.ownLive + (live left' + live right') ∧
      removed (finish settings allowRebuild marked left' right').1 +
          (finish settings allowRebuild marked left' right').2 =
        marked.ownRemoved + (removed left' + removed right') := by
  obtain ⟨valid, alive, dead⟩ := finish_spec settings allowRebuild validLeft validRight own
    (fun need => newLeft (pushLeft_eq_nullptr (labelLeft.symm.trans need)))
    (fun need => newRight (pushRight_eq_nullptr (labelRight.symm.trans need)))
  refine ⟨valid, alive.trans ?_, dead.trans ?_⟩
  · rw [liveOf_node, liveOf_add]
    rfl
  · rw [removedOf_node, removedOf_add]
    rfl

/-! ## Adding a point -/

variable (rebuildPtr : RebuildPtr) (point : PointType K α)

/-- A new leaf. -/
theorem addByPoint_nullptr (allowRebuild : Bool) (slot : TreePath) (fatherAxis : Axis) :
    Valid (addByPoint settings rebuildPtr point allowRebuild slot fatherAxis .nullptr).1 ∧
      slots (addByPoint settings rebuildPtr point allowRebuild slot fatherAxis .nullptr).1 =
        {Slot.fresh point} := by
  rw [addByPoint]
  exact update_valid valid_nullptr valid_nullptr (fun down => Bool.noConfusion down)
    (fun need => Bool.noConfusion need) (fun need => Bool.noConfusion need)

/-- `Add_by_point` adds one live point. -/
theorem addByPoint_spec (tree : Tree K α) (valid : Valid tree) :
    ∀ (allowRebuild : Bool) (slot : TreePath) (fatherAxis : Axis),
      Valid (addByPoint settings rebuildPtr point allowRebuild slot fatherAxis tree).1 ∧
        live (addByPoint settings rebuildPtr point allowRebuild slot fatherAxis tree).1 =
          point ::ₘ live tree ∧
        removed (addByPoint settings rebuildPtr point allowRebuild slot fatherAxis tree).1 +
            (addByPoint settings rebuildPtr point allowRebuild slot fatherAxis tree).2 =
          removed tree := by
  induction tree using Tree.pushInduction with
  | nullptr =>
      intro allowRebuild slot fatherAxis
      obtain ⟨valid', single⟩ :=
        addByPoint_nullptr settings rebuildPtr point allowRebuild slot fatherAxis
      refine ⟨valid', ?_, ?_⟩
      · rw [live, single]
        rfl
      · rw [removed, single, addByPoint]
        rfl
  | node root left right ihLeft ihRight =>
      intro allowRebuild slot fatherAxis
      have newLeaf : ∀ {son : Tree K α}, son = .nullptr → ∀ allow way,
          ∀ slot ∈ slots (addByPoint settings rebuildPtr point allow way root.divisionAxis son).1,
            slot.deleted = false := by
        rintro son rfl allow way
        exact fresh_live (addByPoint_nullptr settings rebuildPtr point allow way _).2
      rw [addByPoint]
      split
      · obtain ⟨validSon, liveSon, removedSon⟩ := ihLeft valid.pushLeft
          (allowSon rebuildPtr allowRebuild (slot ++ [.left])) (slot ++ [.left]) root.divisionAxis
        obtain ⟨valid', alive, dead⟩ := finish_pushed settings root left right
          (root.pushedDown left right) allowRebuild rfl rfl valid.pointDeleted_of_down validSon
          valid.pushRight (fun null => newLeaf null _ _) slots_live_of_null
        refine ⟨valid', alive.trans ?_, ?_⟩
        · rw [valid.live_eq, liveSon, Multiset.cons_add, Multiset.add_cons]
          rfl
        · rw [valid.removed_eq, ← Multiset.coe_add]
          exact recorded_left dead removedSon
      · obtain ⟨validSon, liveSon, removedSon⟩ := ihRight valid.pushRight
          (allowSon rebuildPtr allowRebuild (slot ++ [.right])) (slot ++ [.right])
          root.divisionAxis
        obtain ⟨valid', alive, dead⟩ := finish_pushed settings root left right
          (root.pushedDown left right) allowRebuild rfl rfl valid.pointDeleted_of_down
          valid.pushLeft validSon slots_live_of_null (fun null => newLeaf null _ _)
        refine ⟨valid', alive.trans ?_, ?_⟩
        · rw [valid.live_eq, liveSon, Multiset.add_cons, Multiset.add_cons]
          rfl
        · rw [valid.removed_eq, ← Multiset.coe_add]
          exact recorded_right dead removedSon

/-! ## Deleting a box -/

variable (box : BoxPointType K) (isDownsample : Bool)

/-- A node whose point `Delete_by_range` looks at. -/
theorem deletes_of_sons (valid : Valid (.node root left right)) (allowRebuild : Bool)
    {l r : Tree K α × ℕ × List (PointType K α)}
    (onLeft : Deletes box isDownsample (root.pushLeft left) l)
    (onRight : Deletes box isDownsample (root.pushRight right) r)
    (noLeft : root.pushLeft left = .nullptr → l.1 = .nullptr)
    (noRight : root.pushRight right = .nullptr → r.1 = .nullptr) {hit : Bool}
    (hits : hit = (!root.pointDeleted && box.contains root.point)) {marked : KdTreeNode K α}
    (marks : marked = if hit then (root.pushedDown left right).deletePoint isDownsample
      else root.pushedDown left right) :
    Deletes box isDownsample (.node root left right)
      ((finish settings allowRebuild marked l.1 r.1).1, hit.toNat + l.2.1 + r.2.1,
        l.2.2 ++ r.2.2 ++ (finish settings allowRebuild marked l.1 r.1).2) := by
  have order := valid.pointDeleted_of_down
  obtain ⟨ownLive, ownHit, ownEqual, ownSame⟩ :=
    own_deleted (show (root.pushedDown left right).pointDownsampleDeleted = true → _ from order)
      hits marks
  obtain ⟨valid', alive, dead⟩ := finish_pushed settings root left right marked allowRebuild
    (by rw [marks]; cases hit <;> rfl) (by rw [marks]; cases hit <;> rfl)
    (by rw [marks]; cases hit with
      | true => exact fun _ => rfl
      | false => exact order)
    onLeft.valid onRight.valid (fun null => slots_live_of_null (noLeft null))
    (fun null => slots_live_of_null (noRight null))
  refine ⟨valid', ?_, ?_, ?_, ?_⟩
  · rw [alive, valid.live_eq, offBox_add, offBox_add, onLeft.live_eq, onRight.live_eq, ownLive]
    rfl
  · rw [valid.live_eq, inBox_add, inBox_add, Multiset.card_add, Multiset.card_add,
      ← onLeft.counter, ← onRight.counter, ← add_assoc, ownHit]
    rfl
  · intro plain
    rw [valid.removed_eq, valid.live_eq, inBox_add, inBox_add, ← Multiset.coe_add,
      ← Multiset.coe_add]
    refine (recorded_both dead (onLeft.removed_eq plain) (onRight.removed_eq plain)).trans ?_
    rw [ownEqual plain]
    exact add_add_add_add _ _ _ _ _ _
  · intro down
    rw [valid.removed_eq, ← Multiset.coe_add, ← Multiset.coe_add,
      recorded_both dead rfl rfl, ownSame down]
    exact add_le_add (le_refl _)
      (add_le_add (onLeft.removed_le down) (onRight.removed_le down))

/-- `Delete_by_range` deletes the live points in the box and counts them. -/
theorem deleteByRange_spec (tree : Tree K α) (valid : Valid tree) :
    ∀ (allowRebuild : Bool) (slot : TreePath), Deletes box isDownsample tree
      (deleteByRange settings rebuildPtr box isDownsample allowRebuild slot tree) := by
  induction tree using Tree.pushInduction with
  | nullptr =>
      intro allowRebuild slot
      rw [deleteByRange]
      exact deletes_of_off trivial rfl fun point member => absurd member (Multiset.notMem_zero _)
  | node root left right ihLeft ihRight =>
      intro allowRebuild slot
      rw [deleteByRange]
      split
      · next gone =>
          have none : live (.node root left right) = 0 :=
            liveOf_eq_zero_iff.mpr (valid.1.deleted_iff.mp gone)
          apply deletes_of_off valid rfl
          rw [none]
          exact fun point member => absurd member (Multiset.notMem_zero _)
      · next kept =>
          obtain ⟨some, hull⟩ := valid.hull (Bool.eq_false_iff.mpr kept)
          obtain ⟨pushed, samePushed⟩ := valid.pushDown
          dsimp only
          split
          · next misses =>
              exact deletes_of_off pushed samePushed fun point => hull.misses misses
          · split
            · next covers =>
                refine Deletes.of_slots (deletes_of_covers pushed ?_) samePushed
                rw [live, samePushed]
                exact (hull.covers_iff box).mp covers
            · apply deletes_of_sons settings box isDownsample valid allowRebuild
                (ihLeft valid.pushLeft _ _) (ihRight valid.pushRight _ _) _ _ rfl rfl
              · intro null
                rw [null, deleteByRange]
              · intro null
                rw [null, deleteByRange]

end Change

/-! ## Searching -/

section Search

/-- `Search_by_range` finds the live points in the box. -/
theorem searchByRange_spec [Field K] (box : BoxPointType K) (tree : Tree K α)
    (valid : Valid tree) :
    ((searchByRange box tree).2 : Multiset (PointType K α)) = inBox box (live tree) := by
  induction tree using Tree.pushInduction with
  | nullptr =>
      rw [searchByRange]
      rfl
  | node root left right ihLeft ihRight =>
      obtain ⟨pushed, samePushed⟩ := valid.pushDown
      rw [searchByRange]
      dsimp only
      split
      · next misses =>
          rw [eq_comm, inBox, Multiset.coe_nil, Multiset.filter_eq_nil]
          intro point member
          rw [(valid.hull_of_mem member).misses misses member]
          exact Bool.false_ne_true
      · split
        · next covers =>
            rw [(flatten_spec _ pushed).1, live, samePushed, eq_comm]
            refine Multiset.filter_eq_self.mpr fun point member => ?_
            exact ((valid.hull_of_mem member).covers_iff box).mp covers point member
        · rw [valid.live_eq, inBox_add, inBox_add, ← Multiset.coe_add, ← Multiset.coe_add,
            ihLeft valid.pushLeft, ihRight valid.pushRight, add_assoc, ownLive_eq]
          cases root.pointDeleted <;> cases inside : box.contains root.point <;>
            simp [inBox, Multiset.filter_singleton, inside]

end Search

end ScoutStack.IkdTree
