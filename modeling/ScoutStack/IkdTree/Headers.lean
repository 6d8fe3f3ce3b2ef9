import ScoutStack.IkdTree.Slots
import Mathlib.Algebra.BigOperators.Group.List.Basic

/-!
# Headers stay valid

`Push_Down` moves a label one level down and leaves the slots as they are.  `Update` on
valid sons yields a header that describes the node again.
-/

namespace ScoutStack.IkdTree

variable {K α : Type*}

section Labels

variable {root son : KdTreeNode K α}

/-- A label that does not delete leaves a live slot alone. -/
theorem relabel_of_live {slot : Slot K α} (alive : slot.deleted = false)
    (down : slot.downsampled = true → slot.deleted = true) (keeps : root.treeDeleted = false)
    (raw : root.treeDownsampleDeleted = false) : root.relabel slot = slot := by
  have notDown : slot.downsampled = false := by
    rw [← Bool.not_eq_true]
    intro marked
    rw [down marked] at alive
    contradiction
  rw [KdTreeNode.relabel, keeps, raw, notDown]
  rw [show (false || (false || false)) = slot.deleted from alive.symm]
  rw [show (false || false) = slot.downsampled from notDown.symm]

/-- A label that meets another composes with it. -/
theorem relabel_receive (slot : Slot K α) :
    (root.receive son).relabel slot = root.relabel (son.relabel slot) := by
  simp only [KdTreeNode.relabel, KdTreeNode.receive, Slot.mk.injEq, true_and]
  cases root.treeDeleted <;> cases root.treeDownsampleDeleted <;>
    cases son.treeDownsampleDeleted <;> cases slot.downsampled <;> simp

/-- A label that passes a node whose own label is settled acts as before. -/
theorem relabel_receive_of_down {slot : Slot K α}
    (down : son.treeDownsampleDeleted = true → slot.downsampled = true) :
    (root.receive son).relabel slot = root.relabel slot := by
  simp only [KdTreeNode.relabel, KdTreeNode.receive, Slot.mk.injEq, true_and]
  cases marked : son.treeDownsampleDeleted with
  | false => cases root.treeDeleted <;> cases root.treeDownsampleDeleted <;> simp
  | true =>
      rw [down marked]
      cases root.treeDeleted <;> cases root.treeDownsampleDeleted <;> simp

theorem pending_receive (root son : KdTreeNode K α) (need : Bool) (slots : Multiset (Slot K α))
    (down : ∀ slot ∈ son.pending need slots,
      son.treeDownsampleDeleted = true → slot.downsampled = true) :
    (root.receive son).pending true slots = (son.pending need slots).map root.relabel := by
  rw [KdTreeNode.pending, if_pos rfl]
  cases need with
  | true =>
      rw [KdTreeNode.pending, if_pos rfl, Multiset.map_map]
      exact Multiset.map_congr rfl fun slot _ => relabel_receive slot
  | false =>
      rw [KdTreeNode.pending, if_neg Bool.false_ne_true] at down ⊢
      exact Multiset.map_congr rfl fun slot member => relabel_receive_of_down (down slot member)

end Labels

theorem eq_nullptr_of_isNull {tree : Tree K α} (null : tree.isNull = true) :
    tree = .nullptr := by
  cases tree with
  | nullptr => rfl
  | node root left right => simp [Tree.isNull] at null

theorem isNull_pushed (root : KdTreeNode K α) (need : Bool) (tree : Tree K α) :
    (tree.pushed need root).isNull = tree.isNull := by
  cases tree <;> rfl

theorem pushLeft_eq_nullptr {root : KdTreeNode K α} {left right : Tree K α}
    (need : (root.pushedDown left right).needPushDownToLeft = true) :
    root.pushLeft left = .nullptr := by
  apply eq_nullptr_of_isNull
  rw [KdTreeNode.pushLeft, isNull_pushed]
  exact (Bool.and_eq_true_iff.mp need).2

theorem pushRight_eq_nullptr {root : KdTreeNode K α} {left right : Tree K α}
    (need : (root.pushedDown left right).needPushDownToRight = true) :
    root.pushRight right = .nullptr := by
  apply eq_nullptr_of_isNull
  rw [KdTreeNode.pushRight, isNull_pushed]
  exact (Bool.and_eq_true_iff.mp need).2

/-- After the push-down a label is left only where there is no son. -/
theorem pending_pushedDown (root : KdTreeNode K α) {need : Bool} (slots' : Multiset (Slot K α))
    (empty : need = true → slots' = 0) : root.pending need slots' = slots' := by
  cases need with
  | false => rfl
  | true =>
      rw [empty rfl]
      rfl

theorem ranges_of_not_someDeleted {tree : Tree K α} (none : tree.someDeleted = false)
    (whole : Bool) : tree.ranges whole = tree.ranges false := by
  cases tree with
  | nullptr => rfl
  | node root left right =>
      rw [Tree.someDeleted] at none
      simp [Tree.ranges, none]

section Valid

variable [LinearOrder K] {root : KdTreeNode K α} {tree left right : Tree K α}

/-! ## Trees from their headers -/

@[simp] theorem valid_nullptr : Valid (.nullptr : Tree K α) := trivial

theorem Valid.treeSize_eq (valid : Valid tree) : tree.treeSize = (slots tree).card := by
  cases tree with
  | nullptr => rfl
  | node root left right => exact valid.1.size

theorem Valid.invalidPointNum_eq (valid : Valid tree) :
    tree.invalidPointNum = (slots tree).countP fun slot => slot.deleted = true := by
  cases tree with
  | nullptr => rfl
  | node root left right => exact valid.1.invalid

theorem Valid.downDelNum_eq (valid : Valid tree) :
    tree.downDelNum = (slots tree).countP fun slot => slot.downsampled = true := by
  cases tree with
  | nullptr => rfl
  | node root left right => exact valid.1.down

theorem Valid.allDeleted_iff (valid : Valid tree) :
    tree.allDeleted = true ↔ ∀ slot ∈ slots tree, slot.deleted = true := by
  cases tree with
  | nullptr => simp [Tree.allDeleted, slots]
  | node root left right => exact valid.1.deleted_iff

theorem Valid.allDownsampleDeleted_iff (valid : Valid tree) :
    tree.allDownsampleDeleted = true ↔ ∀ slot ∈ slots tree, slot.downsampled = true := by
  cases tree with
  | nullptr => simp [Tree.allDownsampleDeleted, slots]
  | node root left right => exact valid.1.down_iff

theorem Valid.deleted_of_down (valid : Valid tree) :
    ∀ slot ∈ slots tree, slot.downsampled = true → slot.deleted = true := by
  cases tree with
  | nullptr => simp [slots]
  | node root left right => exact valid.1.deleted_of_down

/-- The ranges that `Update` takes of a son, with the points they span. -/
theorem Valid.ranges_hull (valid : Valid tree) :
    ∃ parts, List.Forall₂ Hull (tree.ranges false) parts ∧ parts.sum = live tree := by
  cases tree with
  | nullptr => exact ⟨[], List.Forall₂.nil, rfl⟩
  | node root left right =>
      cases dead : root.treeDeleted with
      | true =>
          refine ⟨[], by simp [Tree.ranges, dead], ?_⟩
          exact (liveOf_eq_zero_iff.mpr (valid.1.deleted_iff.mp dead)).symm
      | false =>
          have alive : live (.node root left right) ≠ 0 := by
            intro empty
            rw [valid.1.deleted_iff.mpr (liveOf_eq_zero_iff.mp empty)] at dead
            contradiction
          refine ⟨[live (.node root left right)], ?_, List.sum_singleton⟩
          simpa [Tree.ranges, dead, live] using valid.1.range alive

/-! ## Push-down -/

/-- A son under its father's label holds the relabelled slots. -/
theorem slots_receive (root : KdTreeNode K α) {son : KdTreeNode K α}
    (valid : Valid (.node son left right)) :
    slots (.node (root.receive son) left right) =
      (slots (.node son left right)).map root.relabel := by
  have describes := valid.1
  have ownDown : son.treeDownsampleDeleted = true → son.pointDownsampleDeleted = true :=
    fun marked => describes.down_iff.mp marked _ (Multiset.mem_cons_self _ _)
  have onLeft := pending_receive root son _ (slots left) fun slot member marked =>
    describes.down_iff.mp marked slot
      (Multiset.mem_cons_of_mem (Multiset.mem_add.mpr (.inl member)))
  have onRight := pending_receive root son _ (slots right) fun slot member marked =>
    describes.down_iff.mp marked slot
      (Multiset.mem_cons_of_mem (Multiset.mem_add.mpr (.inr member)))
  have onSelf : (root.receive son).slot = root.relabel son.slot := by
    simp only [KdTreeNode.slot, KdTreeNode.relabel, KdTreeNode.receive, Slot.mk.injEq, true_and]
    cases marked : son.treeDownsampleDeleted with
    | false => cases root.treeDeleted <;> cases root.treeDownsampleDeleted <;> simp
    | true =>
        rw [ownDown marked]
        cases root.treeDeleted <;> cases root.treeDownsampleDeleted <;> simp
  rw [slots, slots, Multiset.map_cons, Multiset.map_add, ← onLeft, ← onRight, onSelf]
  rfl

/-- A label that deletes is described by the son's new header. -/
theorem describes_receive_of_deleted {son : KdTreeNode K α} {slots : Multiset (Slot K α)}
    (describes : son.Describes slots) (deletes : root.treeDeleted = true) :
    (root.receive son).Describes (slots.map root.relabel) := by
  have all : ∀ slot ∈ slots.map root.relabel, slot.deleted = true := by
    intro slot member
    obtain ⟨old, _, rfl⟩ := Multiset.mem_map.mp member
    simp [KdTreeNode.relabel, deletes]
  have marks : ∀ slot, (root.relabel slot).downsampled =
      (slot.downsampled || root.treeDownsampleDeleted) := fun _ => rfl
  refine ⟨?_, ?_, ?_, ?_, ?_, ?_, ?_⟩
  · rw [Multiset.card_map]
    exact describes.size
  · rw [Multiset.countP_eq_card.mpr all, Multiset.card_map, ← describes.size]
    simp [KdTreeNode.receive, deletes]
  · rw [Multiset.countP_map, ← Multiset.countP_eq_card_filter]
    simp only [marks, KdTreeNode.receive]
    cases root.treeDownsampleDeleted with
    | true => simp [describes.size]
    | false => simp [describes.down]
  · simp [KdTreeNode.receive, deletes, KdTreeNode.relabel]
  · simp only [Multiset.mem_map, forall_exists_index, and_imp, forall_apply_eq_imp_iff₂, marks,
      KdTreeNode.receive, Bool.or_eq_true, describes.down_iff]
    constructor
    · rintro (every | raw) slot member
      · exact .inl (every slot member)
      · exact .inr raw
    · intro every
      cases raw : root.treeDownsampleDeleted with
      | true => exact .inr rfl
      | false => exact .inl fun slot member => (every slot member).resolve_right (by simp [raw])
  · exact fun slot member _ => all slot member
  · exact fun alive => absurd (liveOf_eq_zero_iff.mpr all) alive

/-- A label that finds nothing deleted is described by the son's new header. -/
theorem describes_receive_of_live {son : KdTreeNode K α} {slots : Multiset (Slot K α)}
    (describes : son.Describes slots) (own : son.slot ∈ slots)
    (alive : ∀ slot ∈ slots, slot.deleted = false) (keeps : root.treeDeleted = false)
    (raw : root.treeDownsampleDeleted = false) :
    slots.map root.relabel = slots ∧ (root.receive son).Describes slots := by
  have same : slots.map root.relabel = slots :=
    (Multiset.map_congr rfl fun slot member => relabel_of_live (alive slot member)
      (describes.deleted_of_down slot member) keeps raw).trans (Multiset.map_id slots)
  have sonKeeps : son.treeDeleted = false := by
    rw [← Bool.not_eq_true, describes.deleted_iff]
    intro every
    exact absurd (every _ own) (by simp [alive _ own])
  have sonRaw : son.treeDownsampleDeleted = false := by
    rw [← Bool.not_eq_true]
    intro marked
    rw [describes.treeDeleted_of_down marked] at sonKeeps
    contradiction
  have noneDown : ∀ slot ∈ slots, ¬slot.downsampled = true := by
    intro slot member marked
    have dead := describes.deleted_of_down slot member marked
    rw [alive slot member] at dead
    contradiction
  have noneDeleted : ∀ slot ∈ slots, ¬slot.deleted = true := by
    intro slot member dead
    rw [alive slot member] at dead
    contradiction
  refine ⟨same, describes.size, ?_, ?_, ?_, ?_, describes.deleted_of_down, describes.range⟩
  · rw [Multiset.countP_eq_zero.mpr noneDeleted, ← Multiset.countP_eq_zero.mpr noneDown,
      ← describes.down]
    simp [KdTreeNode.receive, keeps, raw]
  · rw [← describes.down]
    simp [KdTreeNode.receive, raw]
  · rw [← describes.deleted_iff]
    simp [KdTreeNode.receive, keeps, raw, sonKeeps, sonRaw]
  · rw [← describes.down_iff]
    simp [KdTreeNode.receive, raw]

/-- A son under its father's label is valid. -/
theorem valid_receive {son : KdTreeNode K α} (valid : Valid (.node son left right))
    (settled : root.Settled (.node son left right))
    (down : root.treeDownsampleDeleted = true → root.treeDeleted = true) :
    Valid (.node (root.receive son) left right) := by
  have same := slots_receive root valid
  obtain ⟨describes, settledLeft, settledRight, validLeft, validRight⟩ := valid
  cases deletes : root.treeDeleted with
  | true =>
      have settles : ∀ tree, (root.receive son).Settled tree := fun tree =>
        .inl (by simp [KdTreeNode.receive, deletes])
      refine ⟨?_, fun _ => settles left, fun _ => settles right, validLeft, validRight⟩
      rw [same]
      exact describes_receive_of_deleted describes deletes
  | false =>
      have raw : root.treeDownsampleDeleted = false := by
        rw [← Bool.not_eq_true]
        intro marked
        rw [down marked] at deletes
        contradiction
      have alive := settled.resolve_left (by simp [deletes])
      have own : son.slot ∈ slots (.node son left right) := Multiset.mem_cons_self _ _
      have notDeleted : ¬son.treeDeleted = true := by
        rw [describes.deleted_iff]
        intro every
        exact absurd (every _ own) (by simp [alive _ own])
      obtain ⟨unchanged, describes'⟩ :=
        describes_receive_of_live describes own alive deletes raw
      have below : ∀ need tree, (need = true → son.Settled tree) →
          (∀ slot ∈ son.pending need (slots tree), slot ∈ slots (.node son left right)) →
          (root.receive son).Settled tree := by
        intro need tree settledSon inside
        right
        intro slot member
        cases need with
        | true => exact (settledSon rfl).resolve_left notDeleted slot member
        | false => exact alive slot (inside slot member)
      refine ⟨?_, fun _ => below _ left settledLeft ?_, fun _ => below _ right settledRight ?_,
        validLeft, validRight⟩
      · rw [same, unchanged]
        exact describes'
      · exact fun slot member => Multiset.mem_cons_of_mem (Multiset.mem_add.mpr (.inl member))
      · exact fun slot member => Multiset.mem_cons_of_mem (Multiset.mem_add.mpr (.inr member))

/-- A son after the push-down is valid and holds what was pending. -/
theorem valid_pushed {need : Bool} (valid : Valid tree) (settled : need = true → root.Settled tree)
    (down : root.treeDownsampleDeleted = true → root.treeDeleted = true) :
    Valid (tree.pushed need root) ∧
      slots (tree.pushed need root) = root.pending need (slots tree) := by
  cases tree with
  | nullptr => cases need <;> exact ⟨trivial, rfl⟩
  | node son left right =>
      cases need with
      | false => exact ⟨valid, rfl⟩
      | true => exact ⟨valid_receive valid (settled rfl) down, slots_receive root valid⟩

theorem Valid.treeDeleted_of_down (valid : Valid (.node root left right))
    (down : root.treeDownsampleDeleted = true) : root.treeDeleted = true :=
  valid.1.treeDeleted_of_down down

theorem Valid.pushLeft (valid : Valid (.node root left right)) : Valid (root.pushLeft left) :=
  (valid_pushed valid.2.2.2.1 valid.2.1 valid.treeDeleted_of_down).1

theorem Valid.pushRight (valid : Valid (.node root left right)) : Valid (root.pushRight right) :=
  (valid_pushed valid.2.2.2.2 valid.2.2.1 valid.treeDeleted_of_down).1

/-- The slots of a node, through its sons after the push-down. -/
theorem Valid.slots_eq (valid : Valid (.node root left right)) :
    slots (.node root left right) =
      root.slot ::ₘ (slots (root.pushLeft left) + slots (root.pushRight right)) := by
  rw [slots, KdTreeNode.pushLeft, KdTreeNode.pushRight,
    (valid_pushed valid.2.2.2.1 valid.2.1 valid.treeDeleted_of_down).2,
    (valid_pushed valid.2.2.2.2 valid.2.2.1 valid.treeDeleted_of_down).2]

/-- `Push_Down` keeps the slots and the validity. -/
theorem Valid.pushDown (valid : Valid (.node root left right)) :
    Valid (.node (root.pushedDown left right) (root.pushLeft left) (root.pushRight right)) ∧
      slots (.node (root.pushedDown left right) (root.pushLeft left) (root.pushRight right)) =
        slots (.node root left right) := by
  have emptyLeft : (root.pushedDown left right).needPushDownToLeft = true →
      slots (root.pushLeft left) = 0 := fun need => by rw [pushLeft_eq_nullptr need, slots]
  have emptyRight : (root.pushedDown left right).needPushDownToRight = true →
      slots (root.pushRight right) = 0 := fun need => by rw [pushRight_eq_nullptr need, slots]
  have same : slots (.node (root.pushedDown left right) (root.pushLeft left)
      (root.pushRight right)) = slots (.node root left right) := by
    rw [valid.slots_eq, slots, pending_pushedDown _ _ emptyLeft, pending_pushedDown _ _ emptyRight]
    rfl
  refine ⟨⟨?_, ?_, ?_, valid.pushLeft, valid.pushRight⟩, same⟩
  · rw [same]
    obtain ⟨size, invalid, down, deleted, downs, order, range⟩ := valid.1
    exact ⟨size, invalid, down, deleted, downs, order, range⟩
  · intro need
    right
    rw [emptyLeft need]
    exact fun slot member => absurd member (Multiset.notMem_zero slot)
  · intro need
    right
    rw [emptyRight need]
    exact fun slot member => absurd member (Multiset.notMem_zero slot)

/-- Sons with the same slots can take the place of the sons. -/
theorem Valid.congr {left' right' : Tree K α} (valid : Valid (.node root left right))
    (validLeft : Valid left') (validRight : Valid right') (onLeft : slots left' = slots left)
    (onRight : slots right' = slots right) :
    Valid (.node root left' right') ∧
      slots (.node root left' right') = slots (.node root left right) := by
  obtain ⟨describes, settledLeft, settledRight, _, _⟩ := valid
  have same : slots (.node root left' right') = slots (.node root left right) := by
    rw [slots, slots, onLeft, onRight]
  refine ⟨⟨by rwa [same], ?_, ?_, validLeft, validRight⟩, same⟩
  · intro need
    rw [KdTreeNode.Settled, onLeft]
    exact settledLeft need
  · intro need
    rw [KdTreeNode.Settled, onRight]
    exact settledRight need

/-- Push-downs keep the slots and the validity. -/
theorem Valid.of_pushedDown {tree' : Tree K α} (pushed : PushedDown tree tree')
    (valid : Valid tree) : Valid tree' ∧ slots tree' = slots tree := by
  induction pushed with
  | refl tree => exact ⟨valid, rfl⟩
  | trans before after ihBefore ihAfter =>
      obtain ⟨between, same⟩ := ihBefore valid
      obtain ⟨last, same'⟩ := ihAfter between
      exact ⟨last, same'.trans same⟩
  | node onLeft onRight ihLeft ihRight =>
      obtain ⟨validLeft, sameLeft⟩ := ihLeft valid.pushLeft
      obtain ⟨validRight, sameRight⟩ := ihRight valid.pushRight
      obtain ⟨here, samePushed⟩ := valid.pushDown
      obtain ⟨kept, same⟩ := here.congr validLeft validRight sameLeft sameRight
      exact ⟨kept, same.trans samePushed⟩

end Valid

/-! ## Update -/

section Update

variable [LinearOrder K] {root : KdTreeNode K α} {left right : Tree K α}

/-- `Update` joins the ranges of what is not deleted. -/
theorem hull_spanned (validLeft : Valid left) (validRight : Valid right)
    (alive : liveOf (root.slot ::ₘ (slots left + slots right)) ≠ 0) :
    Hull (root.spanned left right) (liveOf (root.slot ::ₘ (slots left + slots right))) := by
  have notAll : (left.allDeleted && right.allDeleted && root.pointDeleted) = false := by
    rw [← Bool.not_eq_true, Bool.and_eq_true, Bool.and_eq_true, validLeft.allDeleted_iff,
      validRight.allDeleted_iff]
    rintro ⟨⟨onLeft, onRight⟩, own⟩
    apply alive
    rw [liveOf_eq_zero_iff]
    intro slot member
    rcases Multiset.mem_cons.mp member with rfl | below
    · exact own
    · rcases Multiset.mem_add.mp below with below | below
      · exact onLeft slot below
      · exact onRight slot below
  obtain ⟨leftParts, leftHulls, leftSum⟩ := validLeft.ranges_hull
  obtain ⟨rightParts, rightHulls, rightSum⟩ := validRight.ranges_hull
  have ownHulls : ∃ parts, List.Forall₂ Hull
      (if root.pointDeleted then [] else [NodeRange.ofPoint root.point]) parts ∧
        parts.sum = if root.pointDeleted then 0 else {root.point} := by
    cases root.pointDeleted with
    | true => exact ⟨[], List.Forall₂.nil, rfl⟩
    | false =>
        exact ⟨[{root.point}], List.Forall₂.cons (hull_ofPoint _) List.Forall₂.nil,
          List.sum_singleton⟩
  obtain ⟨ownParts, ownHulls, ownSum⟩ := ownHulls
  have hulls : List.Forall₂ Hull
      (left.ranges false ++ (right.ranges false ++
        (if root.pointDeleted then [] else [NodeRange.ofPoint root.point])))
      (leftParts ++ (rightParts ++ ownParts)) :=
    List.rel_append leftHulls (List.rel_append rightHulls ownHulls)
  have sum : (leftParts ++ (rightParts ++ ownParts)).sum =
      liveOf (root.slot ::ₘ (slots left + slots right)) := by
    rw [List.sum_append, List.sum_append, leftSum, rightSum, ownSum, liveOf_cons, liveOf_add]
    rw [add_comm (if root.slot.deleted = true then _ else _), ← add_assoc]
    rfl
  rw [← sum] at alive ⊢
  have kept : ∀ whole, (whole = true →
      left.someDeleted = false ∧ right.someDeleted = false ∧ root.pointDeleted = false) →
      left.ranges whole ++ (right.ranges whole ++
          (if whole || !root.pointDeleted then [NodeRange.ofPoint root.point] else [])) =
        left.ranges false ++ (right.ranges false ++
          (if root.pointDeleted then [] else [NodeRange.ofPoint root.point])) := by
    intro whole none
    cases whole with
    | false => cases root.pointDeleted <;> rfl
    | true =>
        obtain ⟨onLeft, onRight, own⟩ := none rfl
        rw [ranges_of_not_someDeleted onLeft, ranges_of_not_someDeleted onRight, own]
        rfl
  rw [KdTreeNode.spanned, notAll, Bool.false_or]
  rw [kept _ (by simp [and_assoc])]
  generalize left.ranges false ++ _ = ranges, leftParts ++ _ = parts at hulls alive ⊢
  cases hulls with
  | nil => exact absurd List.sum_nil alive
  | cons head tail =>
      rw [List.sum_cons]
      exact hull_foldl tail head

variable [Field K]

/-- `Update` on valid sons: the node is valid and no label changes what it holds. -/
theorem update_valid (validLeft : Valid left) (validRight : Valid right)
    (own : root.pointDownsampleDeleted = true → root.pointDeleted = true)
    (readyLeft : root.needPushDownToLeft = true → ∀ slot ∈ slots left, slot.deleted = false)
    (readyRight : root.needPushDownToRight = true → ∀ slot ∈ slots right, slot.deleted = false) :
    Valid (.node (root.update left right) left right) ∧
      slots (.node (root.update left right) left right) =
        root.slot ::ₘ (slots left + slots right) := by
  have deletedIff : (root.update left right).treeDeleted = true ↔
      ∀ slot ∈ root.slot ::ₘ (slots left + slots right), slot.deleted = true := by
    simp only [KdTreeNode.update, Bool.and_eq_true, validLeft.allDeleted_iff,
      validRight.allDeleted_iff, Multiset.forall_mem_cons, Multiset.mem_add, or_imp,
      forall_and]
    exact and_comm
  have downIff : (root.update left right).treeDownsampleDeleted = true ↔
      ∀ slot ∈ root.slot ::ₘ (slots left + slots right), slot.downsampled = true := by
    simp only [KdTreeNode.update, Bool.and_eq_true, validLeft.allDownsampleDeleted_iff,
      validRight.allDownsampleDeleted_iff, Multiset.forall_mem_cons, Multiset.mem_add, or_imp,
      forall_and]
    exact and_comm
  have order : ∀ slot ∈ root.slot ::ₘ (slots left + slots right),
      slot.downsampled = true → slot.deleted = true := by
    intro slot member
    rcases Multiset.mem_cons.mp member with rfl | below
    · exact own
    · rcases Multiset.mem_add.mp below with below | below
      · exact validLeft.deleted_of_down slot below
      · exact validRight.deleted_of_down slot below
  have unchanged : ∀ need tree, (∀ slot ∈ slots tree, slot ∈ slots left + slots right) →
      (need = true → ∀ slot ∈ slots tree, slot.deleted = false) →
      (root.update left right).pending need (slots tree) = slots tree := by
    intro need tree inside ready
    cases need with
    | false => rfl
    | true =>
        refine (Multiset.map_congr rfl fun slot member => ?_).trans (Multiset.map_id (slots tree))
        have among : slot ∈ root.slot ::ₘ (slots left + slots right) :=
          Multiset.mem_cons_of_mem (inside slot member)
        have alive := ready rfl slot member
        have keeps : (root.update left right).treeDeleted = false := by
          rw [← Bool.not_eq_true, deletedIff]
          intro every
          rw [every slot among] at alive
          contradiction
        have raw : (root.update left right).treeDownsampleDeleted = false := by
          rw [← Bool.not_eq_true, downIff]
          intro every
          rw [order slot among (every slot among)] at alive
          contradiction
        exact relabel_of_live alive (order slot among) keeps raw
  have same : slots (.node (root.update left right) left right) =
      root.slot ::ₘ (slots left + slots right) := by
    rw [slots]
    change root.slot ::ₘ ((root.update left right).pending root.needPushDownToLeft _ +
      (root.update left right).pending root.needPushDownToRight _) = _
    rw [unchanged _ left (fun slot member => Multiset.mem_add.mpr (.inl member)) readyLeft,
      unchanged _ right (fun slot member => Multiset.mem_add.mpr (.inr member)) readyRight]
  refine ⟨⟨?_, fun need => .inr (readyLeft need), fun need => .inr (readyRight need),
    validLeft, validRight⟩, same⟩
  rw [same]
  refine ⟨?_, ?_, ?_, deletedIff, downIff, order, hull_spanned validLeft validRight⟩
  · rw [Multiset.card_cons, Multiset.card_add, ← validLeft.treeSize_eq, ← validRight.treeSize_eq]
    rfl
  · rw [Multiset.countP_cons, Multiset.countP_add, ← validLeft.invalidPointNum_eq,
      ← validRight.invalidPointNum_eq]
    cases dead : root.pointDeleted <;> simp [KdTreeNode.update, KdTreeNode.slot, dead]
  · rw [Multiset.countP_cons, Multiset.countP_add, ← validLeft.downDelNum_eq,
      ← validRight.downDelNum_eq]
    cases dead : root.pointDownsampleDeleted <;> simp [KdTreeNode.update, KdTreeNode.slot, dead]

end Update

end ScoutStack.IkdTree
