import ScoutStack.IkdTree.Balance
import ScoutStack.IkdTree.Logger
import ScoutStack.Lib.Replay

/-!
# The rebuild thread

A tree that is too large to be rebuilt on the spot waits in `Rebuild_Ptr`.  The other thread
flattens it, builds a new one, redoes what was logged in between, and puts it in its place.
Meanwhile the first thread goes on with the old tree, without rebuilding it, and logs.
-/

namespace ScoutStack.IkdTree

variable {K α : Type*}

/-- `Operation_Logger_Type`, of the operations that are called. -/
inductive Operation (K α : Type*) where
  | addPoint (point : PointType K α)
  | deleteBox (boxpoint : BoxPointType K)
  | downsampleDelete (boxpoint : BoxPointType K)
  | pushDown (treeDeleted treeDownsampleDeleted : Bool)

/-- What is logged for `Delete_by_range`. -/
def deleteBoxLog (box : BoxPointType K) (isDownsample : Bool) : Operation K α :=
  if isDownsample then .downsampleDelete box else .deleteBox box

/-- What `KD_TREE::run_operation` does to the root for `PUSH_DOWN`. -/
def KdTreeNode.runPushDown (root : KdTreeNode K α) (treeDeleted treeDownsampleDeleted : Bool) :
    KdTreeNode K α :=
  let treeDownsampleDeleted' := root.treeDownsampleDeleted || treeDownsampleDeleted
  let pointDownsampleDeleted := root.pointDownsampleDeleted || treeDownsampleDeleted
  let treeDeleted' := treeDeleted || treeDownsampleDeleted'
  let downDelNum := if treeDownsampleDeleted then root.treeSize else root.downDelNum
  { root with
    treeDownsampleDeleted := treeDownsampleDeleted'
    pointDownsampleDeleted := pointDownsampleDeleted
    treeDeleted := treeDeleted'
    pointDeleted := treeDeleted' || pointDownsampleDeleted
    downDelNum := downDelNum
    invalidPointNum := if treeDeleted then root.treeSize else downDelNum
    needPushDownToLeft := true
    needPushDownToRight := true }

/-- Redoing a push-down is receiving the label that was pushed. -/
theorem receive_eq_runPushDown (father son : KdTreeNode K α) :
    father.receive son = son.runPushDown father.treeDeleted father.treeDownsampleDeleted := rfl

section Model

variable [Field K] [LinearOrder K] (settings : Settings K α)

/-- `KD_TREE::run_operation`.  A missing root is dereferenced for its axis and its flags. -/
def runOperation (rebuildPtr : RebuildPtr) (tree : Tree K α) : Operation K α → Option (Tree K α)
  | .addPoint point =>
      match tree with
      | .nullptr => none
      | .node root left right =>
          some (addByPoint settings rebuildPtr point false [] root.divisionAxis
            (.node root left right)).1
  | .deleteBox box => some (deleteByRange settings rebuildPtr box false false [] tree).1
  | .downsampleDelete box => some (deleteByRange settings rebuildPtr box true false [] tree).1
  | .pushDown treeDeleted treeDownsampleDeleted =>
      match tree with
      | .nullptr => none
      | .node root left right =>
          some (.node (root.runPushDown treeDeleted treeDownsampleDeleted) left right)

/-- What the first thread does to the waiting tree, and logs. -/
inductive Calls : Tree K α → Operation K α → Tree K α → Prop where
  | addByPoint (tree) (rebuildPtr : RebuildPtr) (point : PointType K α) (slot : TreePath)
      (fatherAxis : Axis) :
      Calls tree (.addPoint point)
        (addByPoint settings rebuildPtr point false slot fatherAxis tree).1
  | deleteByRange (tree) (rebuildPtr : RebuildPtr) (box : BoxPointType K) (isDownsample : Bool)
      (slot : TreePath) :
      Calls tree (deleteBoxLog box isDownsample)
        (deleteByRange settings rebuildPtr box isDownsample false slot tree).1
  | pushDown (tree) (father : KdTreeNode K α) (settled : father.Settled tree)
      (down : father.treeDownsampleDeleted = true → father.treeDeleted = true) :
      Calls tree (.pushDown father.treeDeleted father.treeDownsampleDeleted)
        (tree.pushed true father)

/-- What the two threads share while a tree is rebuilt: the tree as it was flattened, the new
one, and the log. -/
structure Rebuild (K α : Type*) where
  oldRootNode : Tree K α
  newRootNode : Tree K α
  rebuildLogger : ManualQ (Operation K α)

/-- After `flatten` and `BuildTree` in `KD_TREE::multi_thread_rebuild`. -/
def Rebuild.start (tree : Tree K α) (rebuildLogger : ManualQ (Operation K α)) : Rebuild K α where
  oldRootNode := (flatten tree).1
  newRootNode := buildTree settings.nthElement (flatten tree).2.1
  rebuildLogger := rebuildLogger

/-- A step of either thread.  The first logs while there is room, which the source does not
check.  The other takes the oldest operation out before it redoes it, on a tree that only it
sees. -/
inductive RebuildStep (rebuildPtr : RebuildPtr) : Rebuild K α → Rebuild K α → Prop where
  | logs (state : Rebuild K α) {operation : Operation K α} {oldRootNode : Tree K α}
      (calls : Calls settings state.oldRootNode operation oldRootNode)
      (room : state.rebuildLogger.size < qLen) :
      RebuildStep rebuildPtr state
        { state with
          oldRootNode := oldRootNode
          rebuildLogger := state.rebuildLogger.push operation }
  | searches (state : Rebuild K α) {oldRootNode : Tree K α}
      (pushed : PushedDown state.oldRootNode oldRootNode) :
      RebuildStep rebuildPtr state { state with oldRootNode := oldRootNode }
  | redoes (state : Rebuild K α) {newRootNode : Tree K α}
      (pending : state.rebuildLogger.empty = false)
      (done : runOperation settings rebuildPtr state.newRootNode state.rebuildLogger.front =
        some newRootNode) :
      RebuildStep rebuildPtr state
        { state with
          newRootNode := newRootNode
          rebuildLogger := state.rebuildLogger.pop }

/-- Steps of both threads, however they interleave. -/
def RebuildSteps (rebuildPtr : RebuildPtr) : Rebuild K α → Rebuild K α → Prop :=
  Relation.ReflTransGen (RebuildStep settings rebuildPtr)

end Model

/-! ## Without rebuilding -/

section Counts

variable [Field K] [LinearOrder K] (settings : Settings K α) (rebuildPtr : RebuildPtr)

theorem count_finish (root : KdTreeNode K α) (left right : Tree K α) :
    (finish settings false root left right).1.count = left.count + right.count + 1 := by
  rw [finish, Bool.false_and, if_neg Bool.false_ne_true, Tree.count]

theorem count_addByPoint (point : PointType K α) (tree : Tree K α) : ∀ slot fatherAxis,
    (addByPoint settings rebuildPtr point false slot fatherAxis tree).1.count =
      tree.count + 1 := by
  induction tree using Tree.pushInduction with
  | nullptr =>
      intro slot fatherAxis
      rw [addByPoint]
      rfl
  | node root left right ihLeft ihRight =>
      intro slot fatherAxis
      rw [Tree.count_pushLeft] at ihLeft
      rw [Tree.count_pushRight] at ihRight
      rw [addByPoint]
      simp only [allowSon, Bool.false_and]
      split
      · rw [count_finish, ihLeft, Tree.count_pushRight, Tree.count]
        omega
      · rw [count_finish, ihRight, Tree.count_pushLeft, Tree.count]
        omega

theorem count_deleteByRange (box : BoxPointType K) (isDownsample : Bool) (tree : Tree K α) :
    ∀ slot, (deleteByRange settings rebuildPtr box isDownsample false slot tree).1.count =
      tree.count := by
  induction tree using Tree.pushInduction with
  | nullptr =>
      intro slot
      rw [deleteByRange]
  | node root left right ihLeft ihRight =>
      intro slot
      rw [Tree.count_pushLeft] at ihLeft
      rw [Tree.count_pushRight] at ihRight
      rw [deleteByRange]
      split
      · rfl
      · dsimp only
        split
        · simp [Tree.count]
        · split
          · simp [Tree.count]
          · simp only [allowSon, Bool.false_and]
            rw [count_finish, ihLeft, ihRight, Tree.count]

end Counts

section Live

variable {tree old new : Tree K α} {father : KdTreeNode K α}

theorem card_live_le_count (tree : Tree K α) : (live tree).card ≤ tree.count := by
  have split := card_liveOf (slots tree)
  rw [card_slots] at split
  rw [live]
  omega

/-- Nothing is deleted iff all nodes are live. -/
theorem card_live_eq_count_iff :
    (live tree).card = tree.count ↔ ∀ slot ∈ slots tree, slot.deleted = false := by
  have split := card_liveOf (slots tree)
  rw [card_slots] at split
  constructor
  · intro all slot member
    rw [live] at all
    have none : (slots tree).countP (fun slot => slot.deleted = true) = 0 := by omega
    exact Bool.eq_false_iff.mpr (Multiset.countP_eq_zero.mp none slot member)
  · intro alive
    rw [Multiset.countP_eq_zero.mpr fun slot member =>
      Bool.eq_false_iff.mp (alive slot member)] at split
    rw [live]
    omega

theorem ne_nullptr_iff : tree ≠ .nullptr ↔ 0 < tree.count := by
  cases tree with
  | nullptr => exact ⟨fun some_ => absurd rfl some_, fun some_ => absurd some_ (Nat.lt_irrefl 0)⟩
  | node root left right => exact ⟨fun _ => Nat.succ_pos _, fun _ => Tree.node_ne_nullptr _ _ _⟩

/-- Where nothing is deleted in the old tree, nothing is in the new one. -/
theorem settled_of_live (same : live new = live old) (fewer : new.count ≤ old.count)
    (settled : father.Settled old) : father.Settled new := by
  rcases settled with deletes | alive
  · exact .inl deletes
  · right
    rw [← card_live_eq_count_iff] at alive ⊢
    rw [← same] at alive
    have most := card_live_le_count new
    omega

end Live

section Mirrors

variable [LinearOrder K] {tree old new : Tree K α} {father : KdTreeNode K α}

/-- A label deletes everything or nothing. -/
theorem liveOf_pending (valid : Valid tree) {need : Bool}
    (settled : need = true → father.Settled tree)
    (down : father.treeDownsampleDeleted = true → father.treeDeleted = true) :
    liveOf (father.pending need (slots tree)) =
      if need && father.treeDeleted then 0 else live tree := by
  cases need with
  | false => rfl
  | true =>
      rw [KdTreeNode.pending, if_pos rfl, Bool.true_and]
      split
      · next deletes =>
          rw [liveOf_eq_zero_iff]
          intro slot member
          obtain ⟨old, _, rfl⟩ := Multiset.mem_map.mp member
          simp [KdTreeNode.relabel, deletes]
      · next keeps =>
          have alive := (settled rfl).resolve_left keeps
          have raw : father.treeDownsampleDeleted = false :=
            Bool.eq_false_iff.mpr fun marked => keeps (down marked)
          rw [Multiset.map_congr rfl fun slot member => relabel_of_live (alive slot member)
            (valid.deleted_of_down slot member) (Bool.eq_false_iff.mpr keeps) raw,
            Multiset.map_id', live]

/-- The new tree holds the live points of the old one, and no more deleted ones. -/
structure Mirrors (old new : Tree K α) : Prop where
  validOld : Valid old
  validNew : Valid new
  live_eq : live new = live old
  count_le : new.count ≤ old.count
  ne_nullptr : new ≠ .nullptr

/-- A push-down on both. -/
theorem Mirrors.pushed (mirrors : Mirrors old new) (settled : father.Settled old)
    (down : father.treeDownsampleDeleted = true → father.treeDeleted = true) :
    Mirrors (old.pushed true father) (new.pushed true father) := by
  have settledNew := settled_of_live mirrors.live_eq mirrors.count_le settled
  obtain ⟨validOld, slotsOld⟩ := valid_pushed mirrors.validOld (fun _ => settled) down
  obtain ⟨validNew, slotsNew⟩ := valid_pushed mirrors.validNew (fun _ => settledNew) down
  refine ⟨validOld, validNew, ?_, ?_, ?_⟩
  · rw [live, live, slotsOld, slotsNew,
      liveOf_pending mirrors.validOld (fun _ => settled) down,
      liveOf_pending mirrors.validNew (fun _ => settledNew) down, mirrors.live_eq]
  · rw [Tree.count_pushed, Tree.count_pushed]
    exact mirrors.count_le
  · rw [ne_nullptr_iff, Tree.count_pushed, ← ne_nullptr_iff]
    exact mirrors.ne_nullptr

/-- Searches in the old tree. -/
theorem Mirrors.pushedDown {old' : Tree K α} (mirrors : Mirrors old new)
    (pushed : PushedDown old old') : Mirrors old' new := by
  obtain ⟨valid, same⟩ := mirrors.validOld.of_pushedDown pushed
  refine ⟨valid, mirrors.validNew, ?_, ?_, mirrors.ne_nullptr⟩
  · rw [mirrors.live_eq, live, live, same]
  · rw [← card_slots old', same, card_slots]
    exact mirrors.count_le

variable [Field K] {settings : Settings K α}

/-- A box deleted from both. -/
theorem Mirrors.deleteByRange (mirrors : Mirrors old new) (box : BoxPointType K)
    (isDownsample : Bool) (rebuildPtr rebuildPtr' : RebuildPtr) (slot slot' : TreePath) :
    Mirrors (IkdTree.deleteByRange settings rebuildPtr box isDownsample false slot old).1
      (IkdTree.deleteByRange settings rebuildPtr' box isDownsample false slot' new).1 := by
  have onOld := deleteByRange_spec settings rebuildPtr box isDownsample old mirrors.validOld
    false slot
  have onNew := deleteByRange_spec settings rebuildPtr' box isDownsample new mirrors.validNew
    false slot'
  refine ⟨onOld.valid, onNew.valid, ?_, ?_, ?_⟩
  · rw [onNew.live_eq, onOld.live_eq, mirrors.live_eq]
  · rw [count_deleteByRange, count_deleteByRange]
    exact mirrors.count_le
  · rw [ne_nullptr_iff, count_deleteByRange, ← ne_nullptr_iff]
    exact mirrors.ne_nullptr

/-- What the first thread does and logs can be redone on the new tree. -/
theorem Mirrors.calls {old' : Tree K α} {operation : Operation K α} (rebuildPtr : RebuildPtr)
    (mirrors : Mirrors old new) (calls : Calls settings old operation old') :
    ∃ new', runOperation settings rebuildPtr new operation = some new' ∧ Mirrors old' new' := by
  cases calls with
  | addByPoint rebuildPtrOld point slot fatherAxis =>
      cases rooted : new with
      | nullptr => exact absurd rooted mirrors.ne_nullptr
      | node root left right =>
          refine ⟨_, rfl, ?_⟩
          rw [← rooted]
          obtain ⟨validOld, liveOld, _⟩ := addByPoint_spec settings rebuildPtrOld point old
            mirrors.validOld false slot fatherAxis
          obtain ⟨validNew, liveNew, _⟩ := addByPoint_spec settings rebuildPtr point new
            mirrors.validNew false [] root.divisionAxis
          refine ⟨validOld, validNew, ?_, ?_, ?_⟩
          · rw [liveOld, liveNew, mirrors.live_eq]
          · rw [count_addByPoint, count_addByPoint]
            exact Nat.succ_le_succ mirrors.count_le
          · rw [ne_nullptr_iff, count_addByPoint]
            exact Nat.succ_pos _
  | deleteByRange rebuildPtrOld box isDownsample slot =>
      cases isDownsample with
      | true => exact ⟨_, rfl, mirrors.deleteByRange box true rebuildPtrOld rebuildPtr slot []⟩
      | false => exact ⟨_, rfl, mirrors.deleteByRange box false rebuildPtrOld rebuildPtr slot []⟩
  | pushDown father settled down =>
      cases rooted : new with
      | nullptr => exact absurd rooted mirrors.ne_nullptr
      | node root left right =>
          refine ⟨_, rfl, ?_⟩
          rw [← receive_eq_runPushDown]
          have both := mirrors.pushed settled down
          rwa [rooted] at both

/-- The new tree, as it is built. -/
theorem mirrors_buildTree (valid : Valid tree) (some_ : live tree ≠ 0)
    (nthElement : NthElement K α) :
    Mirrors (flatten tree).1 (buildTree nthElement (flatten tree).2.1) := by
  obtain ⟨stored, _⟩ := flatten_spec tree valid
  obtain ⟨validOld, same⟩ := valid.of_pushedDown (flatten_pushedDown tree)
  have liveOld : live (flatten tree).1 = live tree := by rw [live, same, live]
  have cards : (flatten tree).2.1.length = (live tree).card := by
    rw [← stored, Multiset.coe_card]
  refine ⟨validOld, (buildTree_spec _ _).1, ?_, ?_, ?_⟩
  · rw [live_buildTree, stored, liveOld]
  · rw [count_buildTree, cards, ← liveOld]
    exact card_live_le_count _
  · rw [ne_nullptr_iff, count_buildTree, cards]
    exact Multiset.card_pos.mpr some_

/-! ## The two threads -/

variable (settings) in
/-- Redoing all that is pending makes the new tree mirror the old one. -/
def Rebuild.CatchesUp (rebuildPtr : RebuildPtr) (state : Rebuild K α) : Prop :=
  ∃ log, state.rebuildLogger.Holds log ∧
    Replay.CatchesUp (runOperation settings rebuildPtr) Mirrors
      ⟨state.oldRootNode, state.newRootNode, log⟩

variable {rebuildPtr : RebuildPtr} {state state' : Rebuild K α}
  {rebuildLogger : ManualQ (Operation K α)}

theorem catchesUp_start (valid : Valid tree) (some_ : live tree ≠ 0)
    (idle : rebuildLogger.Holds []) :
    (Rebuild.start settings tree rebuildLogger).CatchesUp settings rebuildPtr :=
  ⟨[], idle, _, rfl, mirrors_buildTree valid some_ _⟩

/-- Either thread keeps the new tree able to catch up. -/
theorem Rebuild.CatchesUp.step (catches : state.CatchesUp settings rebuildPtr)
    (step : RebuildStep settings rebuildPtr state state') :
    state'.CatchesUp settings rebuildPtr := by
  obtain ⟨log, holds, behind⟩ := catches
  have onAct : ∀ (old new : Tree K α) operation old', Mirrors old new →
      Calls settings old operation old' →
      ∃ new', runOperation settings rebuildPtr new operation = some new' ∧ Mirrors old' new' :=
    fun _ _ _ _ mirrors calls => mirrors.calls rebuildPtr calls
  have onIdle : ∀ old new old' : Tree K α, Mirrors old new → PushedDown old old' →
      Mirrors old' new :=
    fun _ _ _ mirrors pushed => mirrors.pushedDown pushed
  cases step with
  | logs calls room => exact ⟨_, holds.push room _, behind.step onAct onIdle (.act _ _ calls)⟩
  | searches pushed => exact ⟨log, holds, behind.step onAct onIdle (.idle _ _ pushed)⟩
  | redoes pending done =>
      obtain ⟨rest, rfl⟩ := holds.exists_front pending
      exact ⟨rest, holds.pop, behind.step onAct onIdle (.redo _ _ done)⟩

theorem Rebuild.CatchesUp.steps (catches : state.CatchesUp settings rebuildPtr)
    (steps : RebuildSteps settings rebuildPtr state state') :
    state'.CatchesUp settings rebuildPtr := by
  induction steps with
  | refl => exact catches
  | tail _ step ih => exact ih.step step

/-- With an empty log the new tree mirrors the old one. -/
theorem Rebuild.CatchesUp.mirrors (catches : state.CatchesUp settings rebuildPtr)
    (empty : state.rebuildLogger.empty = true) :
    Mirrors state.oldRootNode state.newRootNode := by
  obtain ⟨log, holds, behind⟩ := catches
  exact behind.related_of_nil (holds.empty_iff.mp empty)

/-- While something is pending, the other thread can redo it. -/
theorem Rebuild.CatchesUp.redoable (catches : state.CatchesUp settings rebuildPtr)
    (pending : state.rebuildLogger.empty = false) :
    ∃ newRootNode, runOperation settings rebuildPtr state.newRootNode
      state.rebuildLogger.front = some newRootNode := by
  obtain ⟨log, holds, behind⟩ := catches
  obtain ⟨rest, rfl⟩ := holds.exists_front pending
  obtain ⟨newRootNode, done, _⟩ := behind.redoable
  exact ⟨newRootNode, done⟩

/-- The other thread can redo all that is pending. -/
theorem exists_drained (log : List (Operation K α)) :
    ∀ {state : Rebuild K α}, state.rebuildLogger.Holds log →
      state.CatchesUp settings rebuildPtr →
      ∃ drained, RebuildSteps settings rebuildPtr state drained ∧
        drained.oldRootNode = state.oldRootNode ∧ drained.rebuildLogger.empty = true := by
  induction log with
  | nil => exact fun {state} holds _ => ⟨state, .refl, rfl, holds.empty_iff.mpr rfl⟩
  | cons operation log ih =>
      intro state holds catches
      have pending : state.rebuildLogger.empty = false :=
        Bool.eq_false_iff.mpr fun empty => List.cons_ne_nil _ _ (holds.empty_iff.mp empty)
      obtain ⟨newRootNode, done⟩ := catches.redoable pending
      have step := RebuildStep.redoes state pending done
      obtain ⟨drained, steps, same, empty⟩ := ih holds.pop (catches.step step)
      exact ⟨drained, .head step steps, same, empty⟩

/-- An empty log. -/
def newLogger : ManualQ (Operation ℚ Unit) :=
  ManualQ.clear ⟨0, 0, 0, fun _ => .addPoint (.along 0), true⟩

/-- However the two threads interleave, as long as the log has room: with an empty log the new
tree holds the live points of the old one, and until then the log can be redone to its end. -/
theorem rebuilt_agrees (valid : Valid tree) (some_ : live tree ≠ 0) (idle : rebuildLogger.Holds [])
    (steps : RebuildSteps settings rebuildPtr (Rebuild.start settings tree rebuildLogger) state) :
    (state.rebuildLogger.empty = true → Valid state.newRootNode ∧
      live state.newRootNode = live state.oldRootNode ∧ state.newRootNode ≠ .nullptr) ∧
      (state.rebuildLogger.empty = false → ∃ newRootNode, runOperation settings rebuildPtr
        state.newRootNode state.rebuildLogger.front = some newRootNode) ∧
      ∃ drained, RebuildSteps settings rebuildPtr state drained ∧
        drained.oldRootNode = state.oldRootNode ∧ drained.rebuildLogger.empty = true := by
  have catches := (catchesUp_start valid some_ idle).steps steps
  refine ⟨fun empty => ?_, catches.redoable, ?_⟩
  · have mirrors := catches.mirrors empty
    exact ⟨mirrors.validNew, mirrors.live_eq, mirrors.ne_nullptr⟩
  · obtain ⟨log, holds, behind⟩ := catches
    exact exists_drained log holds ⟨log, holds, behind⟩

/-- A point is added, and while that is redone a box is deleted. -/
theorem rebuilt_agrees_corridor : ∃ state : Rebuild ℚ Unit,
    RebuildSteps Settings.initial quiet
        (Rebuild.start Settings.initial
          (buildTree Settings.initial.nthElement [.along 0, .along 1, .along 2, .along 3])
          newLogger) state ∧
      state.rebuildLogger.empty = true ∧
      live state.newRootNode = {.along 0, .along 2, .along 3, .along 5} := by
  have valid := (buildTree_spec (Settings.initial (α := Unit)).nthElement
    [.along 0, .along 1, .along 2, .along 3]).1
  have alive := live_buildTree (Settings.initial (α := Unit)).nthElement
    [.along 0, .along 1, .along 2, .along 3]
  generalize buildTree (Settings.initial (α := Unit)).nthElement _ = tree at valid alive ⊢
  have some_ : live tree ≠ 0 := by
    rw [alive]
    decide +kernel
  have idle : newLogger.Holds [] := ManualQ.holds_clear
  have room : 0 < qLen := by decide
  obtain ⟨validOld, same⟩ := valid.of_pushedDown (flatten_pushedDown tree)
  have adding := addByPoint_spec Settings.initial quiet (.along 5) _ validOld false [] .x
  have deleting := deleteByRange_spec Settings.initial quiet (.along 1 2) false _ adding.1 false []
  have added : RebuildSteps Settings.initial quiet
      (Rebuild.start Settings.initial tree newLogger) _ :=
    .single (.logs _ (.addByPoint _ quiet (.along 5) [] .x) room)
  obtain ⟨newRootNode, redone⟩ := (rebuilt_agrees valid some_ idle added).2.1 rfl
  have deleted := added.tail (.redoes _ rfl redone) |>.tail
    (.logs _ (.deleteByRange _ quiet (.along 1 2) false []) room)
  obtain ⟨drained, steps, kept, empty⟩ := (rebuilt_agrees valid some_ idle deleted).2.2
  refine ⟨drained, deleted.trans steps, empty, ?_⟩
  have agrees := (rebuilt_agrees valid some_ idle (deleted.trans steps)).1 empty
  rw [agrees.2.1, kept]
  refine deleting.live_eq.trans ?_
  rw [adding.2.1, live, same, ← live, alive]
  decide +kernel

end Mirrors

end ScoutStack.IkdTree
