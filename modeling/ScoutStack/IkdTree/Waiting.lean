import ScoutStack.IkdTree.Rebuilding

/-!
# The tree that waits

While `Rebuild_Ptr` stays at a slot, the calls of the first thread change the tree in it by
logged operations and by push-downs of searches only.  No rebuild on the spot takes it away,
since the nodes above it are too large for one.
-/

namespace ScoutStack.IkdTree

variable {K α : Type*}

/-- The tree in a slot. -/
def Tree.under : TreePath → Tree K α → Tree K α
  | [], tree => tree
  | _ :: _, .nullptr => .nullptr
  | .left :: slot, .node _ left _ => left.under slot
  | .right :: slot, .node _ _ right => right.under slot

/-- `Rebuild_Ptr` at a slot. -/
def waitsAt (waiting : TreePath) : RebuildPtr := fun slot => decide (slot = waiting)

theorem count_under_le (slot : TreePath) :
    ∀ tree : Tree K α, (tree.under slot).count ≤ tree.count := by
  induction slot with
  | nil => exact fun tree => le_refl _
  | cons side slot ih =>
      intro tree
      cases tree with
      | nullptr => cases side <;> exact le_refl _
      | node root left right =>
          cases side with
          | left => exact (ih left).trans (by rw [Tree.count]; omega)
          | right => exact (ih right).trans (by rw [Tree.count]; omega)

section Touched

variable [Field K] [LinearOrder K] (settings : Settings K α)

/-- A tree after logged operations, with searches among them. -/
inductive Touched : Tree K α → List (Operation K α) → Tree K α → Prop where
  | refl (tree) : Touched tree [] tree
  | pushedDown {first second third log} (before : Touched first log second)
      (after : PushedDown second third) : Touched first log third
  | calls {first second third log operation} (before : Touched first log second)
      (after : Calls settings second operation third) :
      Touched first (log ++ [operation]) third

variable {settings} {first second third : Tree K α} {log log' : List (Operation K α)}

theorem Touched.trans (before : Touched settings first log second)
    (after : Touched settings second log' third) :
    Touched settings first (log ++ log') third := by
  induction after with
  | refl => rwa [List.append_nil]
  | pushedDown _ last ih => exact ih.pushedDown last
  | calls _ last ih =>
      rw [← List.append_assoc]
      exact ih.calls last

/-- One call. -/
theorem Calls.touched {operation : Operation K α} (calls : Calls settings first operation second) :
    Touched settings first [operation] second :=
  (Touched.refl first).calls calls

/-- The first thread logs what it does to the waiting tree, as long as the log has room. -/
theorem Touched.steps (rebuildPtr : RebuildPtr) {state : Rebuild K α}
    {pending : List (Operation K α)} (touched : Touched settings state.oldRootNode log second)
    (holds : state.rebuildLogger.Holds pending) (room : pending.length + log.length ≤ qLen) :
    ∃ state', RebuildSteps settings rebuildPtr state state' ∧ state'.oldRootNode = second ∧
      state'.rebuildLogger.Holds (pending ++ log) := by
  induction touched with
  | refl => exact ⟨state, .refl, rfl, by rwa [List.append_nil]⟩
  | pushedDown before after ih =>
      obtain ⟨state', steps, rfl, holds'⟩ := ih room
      exact ⟨_, steps.tail (.searches state' after), rfl, holds'⟩
  | @calls second third log operation before after ih =>
      rw [List.length_append, List.length_singleton] at room
      obtain ⟨state', steps, rfl, holds'⟩ := ih (by omega)
      have fits : state'.rebuildLogger.size < qLen := by
        rw [ManualQ.size, holds'.counter_eq, List.length_append]
        omega
      refine ⟨_, steps.tail (.logs state' after fits), rfl, ?_⟩
      rw [← List.append_assoc]
      exact holds'.push fits operation

theorem Calls.count_le {operation : Operation K α} (calls : Calls settings first operation second) :
    first.count ≤ second.count := by
  cases calls with
  | addByPoint rebuildPtr point slot fatherAxis =>
      rw [count_addByPoint]
      exact Nat.le_succ _
  | deleteByRange rebuildPtr box isDownsample slot => rw [count_deleteByRange]
  | pushDown father settled down => rw [Tree.count_pushed]

/-- The waiting tree does not shrink. -/
theorem Touched.count_le (touched : Touched settings first log second) :
    first.count ≤ second.count := by
  induction touched with
  | refl => exact le_refl _
  | pushedDown _ last ih => exact ih.trans last.count_eq.ge
  | calls _ last ih => exact ih.trans last.count_le

end Touched

/-! ## Operations above the slot -/

theorem Tree.pushed_false (tree : Tree K α) (father : KdTreeNode K α) :
    tree.pushed false father = tree := by
  cases tree <;> rfl

section Frame

variable [Field K] [LinearOrder K] (settings : Settings K α) {root : KdTreeNode K α}
  {tree left right : Tree K α}

/-- A push-down from the father reaches the slot or stops above it. -/
theorem under_pushed {need : Bool} {father : KdTreeNode K α} (slot : TreePath)
    (settled : need = true → father.Settled tree)
    (down : father.treeDownsampleDeleted = true → father.treeDeleted = true) :
    ∃ log, Touched settings (tree.under slot) log ((tree.pushed need father).under slot) := by
  cases slot with
  | nil =>
      cases need with
      | true => exact ⟨_, (Calls.pushDown tree father (settled rfl) down).touched⟩
      | false =>
          rw [Tree.pushed_false]
          exact ⟨[], .refl _⟩
  | cons side slot =>
      have same : (tree.pushed need father).under (side :: slot) = tree.under (side :: slot) := by
        cases tree <;> cases side <;> rfl
      rw [same]
      exact ⟨[], .refl _⟩

theorem Valid.under_pushLeft (valid : Valid (.node root left right)) (slot : TreePath) :
    ∃ log, Touched settings (left.under slot) log ((root.pushLeft left).under slot) :=
  under_pushed settings slot valid.2.1 valid.treeDeleted_of_down

theorem Valid.under_pushRight (valid : Valid (.node root left right)) (slot : TreePath) :
    ∃ log, Touched settings (right.under slot) log ((root.pushRight right).under slot) :=
  under_pushed settings slot valid.2.2.1 valid.treeDeleted_of_down

/-- A node above a large tree is not rebuilt on the spot. -/
theorem finish_of_large (root : KdTreeNode K α) (validLeft : Valid left)
    (validRight : Valid right) (allowRebuild : Bool)
    (large : multiThreadRebuildPointNum ≤ left.count + right.count + 1) :
    (finish settings allowRebuild root left right).1 =
      .node (root.update left right) left right := by
  have size : (root.update left right).treeSize = left.count + right.count + 1 := by
    rw [KdTreeNode.update, validLeft.count_eq, validRight.count_eq]
  rw [finish]
  split
  · rw [rebuild, if_pos (by rw [Tree.treeSize, size]; exact large)]
  · rfl

theorem under_finish_left (validLeft : Valid left) (validRight : Valid right)
    (allowRebuild : Bool) {slot : TreePath}
    (large : multiThreadRebuildPointNum ≤ (left.under slot).count) :
    (finish settings allowRebuild root left right).1.under (.left :: slot) =
      left.under slot := by
  have inside := count_under_le slot left
  rw [finish_of_large settings root validLeft validRight allowRebuild (by omega)]
  rfl

theorem under_finish_right (validLeft : Valid left) (validRight : Valid right)
    (allowRebuild : Bool) {slot : TreePath}
    (large : multiThreadRebuildPointNum ≤ (right.under slot).count) :
    (finish settings allowRebuild root left right).1.under (.right :: slot) =
      right.under slot := by
  have inside := count_under_le slot right
  rw [finish_of_large settings root validLeft validRight allowRebuild (by omega)]
  rfl

variable (waiting : TreePath)

/-- What `Add_by_point` does to the tree that waits. -/
theorem addByPoint_under (point : PointType K α) (slot : TreePath) :
    ∀ {tree : Tree K α}, Valid tree → multiThreadRebuildPointNum ≤ (tree.under slot).count →
      ∀ (allowRebuild : Bool) (way : TreePath) (fatherAxis : Axis), waiting = way ++ slot →
        (slot = [] → allowRebuild = false) →
        ∃ log, Touched settings (tree.under slot) log
          ((addByPoint settings (waitsAt waiting) point allowRebuild way fatherAxis
            tree).1.under slot) := by
  induction slot with
  | nil =>
      intro tree _ _ allowRebuild way fatherAxis _ blocked
      rw [blocked rfl]
      exact ⟨_, (Calls.addByPoint tree (waitsAt waiting) point way fatherAxis).touched⟩
  | cons side slot ih =>
      intro tree valid large allowRebuild way fatherAxis here _
      cases tree with
      | nullptr => cases side <;> exact absurd large (Nat.not_le.mpr (Nat.succ_pos _))
      | node root left right =>
          have blocked : ∀ side', side' = side → slot = [] →
              allowSon (waitsAt waiting) allowRebuild (way ++ [side']) = false := by
            rintro side' rfl rfl
            simp [allowSon, waitsAt, here]
          rw [addByPoint]
          cases side with
          | left =>
              obtain ⟨log, pushed⟩ := valid.under_pushLeft settings slot
              have large' := large.trans pushed.count_le
              split
              · obtain ⟨log', added⟩ := ih valid.pushLeft large'
                  (allowSon (waitsAt waiting) allowRebuild (way ++ [.left])) (way ++ [.left])
                  root.divisionAxis (by rw [here, List.append_assoc]; rfl) (blocked .left rfl)
                refine ⟨log ++ log', ?_⟩
                dsimp only
                rw [under_finish_left settings
                  (addByPoint_spec settings _ point _ valid.pushLeft _ _ _).1 valid.pushRight
                  allowRebuild (large'.trans added.count_le)]
                exact pushed.trans added
              · refine ⟨log, ?_⟩
                dsimp only
                rw [under_finish_left settings valid.pushLeft
                  (addByPoint_spec settings _ point _ valid.pushRight _ _ _).1 allowRebuild large']
                exact pushed
          | right =>
              obtain ⟨log, pushed⟩ := valid.under_pushRight settings slot
              have large' := large.trans pushed.count_le
              split
              · refine ⟨log, ?_⟩
                dsimp only
                rw [under_finish_right settings
                  (addByPoint_spec settings _ point _ valid.pushLeft _ _ _).1 valid.pushRight
                  allowRebuild large']
                exact pushed
              · obtain ⟨log', added⟩ := ih valid.pushRight large'
                  (allowSon (waitsAt waiting) allowRebuild (way ++ [.right])) (way ++ [.right])
                  root.divisionAxis (by rw [here, List.append_assoc]; rfl) (blocked .right rfl)
                refine ⟨log ++ log', ?_⟩
                dsimp only
                rw [under_finish_right settings valid.pushLeft
                  (addByPoint_spec settings _ point _ valid.pushRight _ _ _).1 allowRebuild
                  (large'.trans added.count_le)]
                exact pushed.trans added

/-- What `Delete_by_range` does to the tree that waits. -/
theorem deleteByRange_under (box : BoxPointType K) (isDownsample : Bool) (slot : TreePath) :
    ∀ {tree : Tree K α}, Valid tree → multiThreadRebuildPointNum ≤ (tree.under slot).count →
      ∀ (allowRebuild : Bool) (way : TreePath), waiting = way ++ slot →
        (slot = [] → allowRebuild = false) →
        ∃ log, Touched settings (tree.under slot) log
          ((deleteByRange settings (waitsAt waiting) box isDownsample allowRebuild way
            tree).1.under slot) := by
  induction slot with
  | nil =>
      intro tree _ _ allowRebuild way _ blocked
      rw [blocked rfl]
      exact ⟨_, (Calls.deleteByRange tree (waitsAt waiting) box isDownsample way).touched⟩
  | cons side slot ih =>
      intro tree valid large allowRebuild way here _
      cases tree with
      | nullptr => cases side <;> exact absurd large (Nat.not_le.mpr (Nat.succ_pos _))
      | node root left right =>
          have blocked : ∀ side', side' = side → slot = [] →
              allowSon (waitsAt waiting) allowRebuild (way ++ [side']) = false := by
            rintro side' rfl rfl
            simp [allowSon, waitsAt, here]
          have onLeft := (deleteByRange_spec settings (waitsAt waiting) box isDownsample _
            valid.pushLeft (allowSon (waitsAt waiting) allowRebuild (way ++ [.left]))
            (way ++ [.left])).valid
          have onRight := (deleteByRange_spec settings (waitsAt waiting) box isDownsample _
            valid.pushRight (allowSon (waitsAt waiting) allowRebuild (way ++ [.right]))
            (way ++ [.right])).valid
          rw [deleteByRange]
          split
          · exact ⟨[], .refl _⟩
          · cases side with
            | left =>
                obtain ⟨log, pushed⟩ := valid.under_pushLeft settings slot
                have large' := large.trans pushed.count_le
                obtain ⟨log', deleted⟩ := ih valid.pushLeft large'
                  (allowSon (waitsAt waiting) allowRebuild (way ++ [.left])) (way ++ [.left])
                  (by rw [here, List.append_assoc]; rfl) (blocked .left rfl)
                dsimp only
                split
                · exact ⟨log, pushed⟩
                · split
                  · exact ⟨log, pushed⟩
                  · refine ⟨log ++ log', ?_⟩
                    rw [under_finish_left settings onLeft onRight allowRebuild
                      (large'.trans deleted.count_le)]
                    exact pushed.trans deleted
            | right =>
                obtain ⟨log, pushed⟩ := valid.under_pushRight settings slot
                have large' := large.trans pushed.count_le
                obtain ⟨log', deleted⟩ := ih valid.pushRight large'
                  (allowSon (waitsAt waiting) allowRebuild (way ++ [.right])) (way ++ [.right])
                  (by rw [here, List.append_assoc]; rfl) (blocked .right rfl)
                dsimp only
                split
                · exact ⟨log, pushed⟩
                · split
                  · exact ⟨log, pushed⟩
                  · refine ⟨log ++ log', ?_⟩
                    rw [under_finish_right settings onLeft onRight allowRebuild
                      (large'.trans deleted.count_le)]
                    exact pushed.trans deleted

/-- What a search does to the tree that waits. -/
theorem PushedDown.under {tree tree' : Tree K α} (pushed : PushedDown tree tree')
    (slot : TreePath) (valid : Valid tree) :
    ∃ log, Touched settings (tree.under slot) log (tree'.under slot) := by
  induction pushed generalizing slot with
  | refl tree => exact ⟨[], .refl _⟩
  | trans before after ihBefore ihAfter =>
      obtain ⟨log, first⟩ := ihBefore slot valid
      obtain ⟨log', second⟩ := ihAfter slot (valid.of_pushedDown before).1
      exact ⟨log ++ log', first.trans second⟩
  | node onLeft onRight ihLeft ihRight =>
      cases slot with
      | nil => exact ⟨[], (Touched.refl _).pushedDown (.node onLeft onRight)⟩
      | cons side slot =>
          cases side with
          | left =>
              obtain ⟨log, father⟩ := valid.under_pushLeft settings slot
              obtain ⟨log', below⟩ := ihLeft slot valid.pushLeft
              exact ⟨log ++ log', father.trans below⟩
          | right =>
              obtain ⟨log, father⟩ := valid.under_pushRight settings slot
              obtain ⟨log', below⟩ := ihRight slot valid.pushRight
              exact ⟨log ++ log', father.trans below⟩

end Frame

/-! ## Calls of the first thread -/

section Runs

variable [Field K] [LinearOrder K] [FloorRing K] [IsStrictOrderedRing K]
  {settings : Settings K α} {map : KdTree K α} {waiting : TreePath}

/-- A call that finds `Rebuild_Ptr` at the slot, and is no `Build`. -/
def Command.WaitsAt (waiting : TreePath) : Command K α → Prop
  | .build _ => False
  | .addPoints _ additions => ∀ addition ∈ additions,
      addition.before = waitsAt waiting ∧ addition.after = waitsAt waiting
  | .deletePointBoxes boxes => ∀ box ∈ boxes, box.2 = waitsAt waiting
  | _ => True

theorem allowRoot_waitsAt (here : waiting = []) : allowRoot (waitsAt waiting) = false := by
  simp [allowRoot, waitsAt, here]

omit [FloorRing K] [IsStrictOrderedRing K] in
theorem KdTree.addByPoint_under (valid : Valid map.rootNode)
    (large : multiThreadRebuildPointNum ≤ (map.rootNode.under waiting).count)
    (point : PointType K α) {added : KdTree K α}
    (done : map.addByPoint settings (allowRoot (waitsAt waiting)) (waitsAt waiting) point =
      some added) :
    ∃ log, Touched settings (map.rootNode.under waiting) log (added.rootNode.under waiting) := by
  rw [KdTree.addByPoint] at done
  split at done
  · exact absurd done.symm (Option.some_ne_none _)
  · next root left right rooted =>
      rw [rooted] at valid large ⊢
      rw [← Option.some.inj done]
      exact IkdTree.addByPoint_under settings waiting point waiting valid large _ []
        root.divisionAxis rfl allowRoot_waitsAt

omit [IsStrictOrderedRing K] in
theorem KdTree.addPoint_under (valid : Valid map.rootNode)
    (large : multiThreadRebuildPointNum ≤ (map.rootNode.under waiting).count)
    {downsampleOn : Bool} {point : PointType K α} {added : KdTree K α × ℕ}
    (done : map.addPoint settings downsampleOn point (waitsAt waiting) (waitsAt waiting) =
      some added) :
    ∃ log, Touched settings (map.rootNode.under waiting) log
      (added.1.rootNode.under waiting) := by
  rw [KdTree.addPoint] at done
  cases downsampleOn with
  | false =>
      rw [if_neg Bool.false_ne_true] at done
      obtain ⟨after, calls, rfl⟩ := Option.map_eq_some_iff.mp done
      exact KdTree.addByPoint_under valid large point calls
  | true =>
      rw [if_pos rfl] at done
      dsimp only at done
      have searched := searchByRange_pushedDown (boxOfPoint settings point) map.rootNode
      obtain ⟨validSearched, _⟩ := valid.of_pushedDown searched
      obtain ⟨log, first⟩ := searched.under settings waiting valid
      split at done
      · obtain ⟨after, calls, rfl⟩ := Option.map_eq_some_iff.mp done
        split at calls
        · obtain ⟨log', second⟩ := deleteByRange_under settings waiting
            (boxOfPoint settings point) true waiting validSearched (large.trans first.count_le)
            (allowRoot (waitsAt waiting)) [] rfl allowRoot_waitsAt
          obtain ⟨log'', third⟩ := KdTree.addByPoint_under
            (IkdTree.deleteByRange_spec settings _ _ true _ validSearched _ []).valid
            ((large.trans first.count_le).trans second.count_le) _ calls
          exact ⟨_, (first.trans second).trans third⟩
        · obtain ⟨log', second⟩ := KdTree.addByPoint_under validSearched
            (large.trans first.count_le) _ calls
          exact ⟨_, first.trans second⟩
      · rw [← Option.some.inj done]
        exact ⟨log, first⟩

theorem KdTree.addPoints_under (positive : 0 < settings.downsampleSize) (downsampleOn : Bool)
    (additions : List (Addition K α)) :
    ∀ {map : KdTree K α}, Valid map.rootNode →
      multiThreadRebuildPointNum ≤ (map.rootNode.under waiting).count →
      (∀ addition ∈ additions,
        addition.before = waitsAt waiting ∧ addition.after = waitsAt waiting) →
      ∀ added : KdTree K α × ℕ, map.addPoints settings downsampleOn additions = some added →
        ∃ log, Touched settings (map.rootNode.under waiting) log
          (added.1.rootNode.under waiting) := by
  induction additions with
  | nil =>
      intro map _ _ _ added done
      rw [← Option.some.inj done]
      exact ⟨[], .refl _⟩
  | cons addition additions ih =>
      intro map valid large fixed added done
      obtain ⟨first, step, rest⟩ := Option.bind_eq_some_iff.mp done
      obtain ⟨last, calls, rfl⟩ := Option.map_eq_some_iff.mp rest
      have valid' := KdTree.addPoint_valid positive valid step
      obtain ⟨before, after⟩ := fixed addition List.mem_cons_self
      rw [before, after] at step
      obtain ⟨log, here⟩ := KdTree.addPoint_under valid large step
      obtain ⟨log', there⟩ := ih valid' (large.trans here.count_le)
        (fun other member => fixed other (List.mem_cons_of_mem _ member)) last calls
      exact ⟨_, here.trans there⟩

omit [FloorRing K] [IsStrictOrderedRing K] in
theorem KdTree.deletePointBoxes_under (boxes : List (BoxPointType K × RebuildPtr)) :
    ∀ {map : KdTree K α}, Valid map.rootNode →
      multiThreadRebuildPointNum ≤ (map.rootNode.under waiting).count →
      (∀ box ∈ boxes, box.2 = waitsAt waiting) →
      ∃ log, Touched settings (map.rootNode.under waiting) log
        ((map.deletePointBoxes settings boxes).1.rootNode.under waiting) := by
  induction boxes with
  | nil => exact fun _ _ _ => ⟨[], .refl _⟩
  | cons first boxes ih =>
      intro map valid large fixed
      obtain ⟨box, rebuildPtr⟩ := first
      obtain rfl : rebuildPtr = waitsAt waiting := fixed _ List.mem_cons_self
      obtain ⟨log, here⟩ := deleteByRange_under settings waiting box false waiting
        valid large (allowRoot (waitsAt waiting)) [] rfl allowRoot_waitsAt
      obtain ⟨log', there⟩ := ih
        (KdTree.deleteByRange_spec settings map valid (waitsAt waiting) box false).1
        (large.trans here.count_le) fun other member => fixed other (List.mem_cons_of_mem _ member)
      exact ⟨_, here.trans there⟩

/-- A call changes the waiting tree by logged operations. -/
theorem KdTree.step_under (positive : 0 < settings.downsampleSize) (valid : Valid map.rootNode)
    (large : multiThreadRebuildPointNum ≤ (map.rootNode.under waiting).count)
    {command : Command K α} (fixed : command.WaitsAt waiting) {next : KdTree K α}
    (done : map.step settings command = some next) :
    ∃ log, Touched settings (map.rootNode.under waiting) log (next.rootNode.under waiting) := by
  cases command with
  | build cloud => exact absurd fixed id
  | addPoints downsampleOn additions =>
      obtain ⟨added, calls, rfl⟩ := Option.map_eq_some_iff.mp done
      exact KdTree.addPoints_under positive downsampleOn additions valid large fixed added calls
  | deletePointBoxes boxes =>
      rw [← Option.some.inj done]
      exact KdTree.deletePointBoxes_under boxes valid large fixed
  | boxSearch box =>
      rw [← Option.some.inj done]
      exact (searchByRange_pushedDown box map.rootNode).under settings waiting valid
  | nearestSearch kNearest point maxDist =>
      rw [← Option.some.inj done]
      exact (nearestSearch_pushedDown kNearest point maxDist map.rootNode).under settings waiting
        valid
  | acquireRemovedPoints =>
      rw [← Option.some.inj done]
      exact ⟨[], .refl _⟩

theorem KdTree.run_under (positive : 0 < settings.downsampleSize)
    (commands : List (Command K α)) :
    ∀ {map final : KdTree K α}, Valid map.rootNode →
      multiThreadRebuildPointNum ≤ (map.rootNode.under waiting).count →
      (∀ command ∈ commands, command.WaitsAt waiting) → map.run settings commands = some final →
      ∃ log, Touched settings (map.rootNode.under waiting) log
        (final.rootNode.under waiting) := by
  induction commands with
  | nil =>
      intro map final _ _ _ done
      rw [← Option.some.inj done]
      exact ⟨[], .refl _⟩
  | cons command commands ih =>
      intro map final valid large fixed done
      obtain ⟨next, step, rest⟩ := Option.bind_eq_some_iff.mp done
      obtain ⟨log, here⟩ :=
        KdTree.step_under positive valid large (fixed _ List.mem_cons_self) step
      obtain ⟨log', there⟩ := ih (KdTree.step_spec positive valid step).1
        (large.trans here.count_le)
        (fun other member => fixed other (List.mem_cons_of_mem _ member)) rest
      exact ⟨_, here.trans there⟩

end Runs

/-! ## Putting the new tree in -/

section Swap

variable [Field K] [LinearOrder K]

/-- How `KD_TREE::multi_thread_rebuild` puts the new tree in its place and goes up to
`Update` the nodes above it, until one is at work or has a label pending from above. -/
def swapIn (new : Tree K α) (workingFlag : TreePath → Bool) :
    TreePath → TreePath → Bool → Tree K α → Tree K α × Bool
  | [], _, _, _ => (new, true)
  | _ :: _, _, _, .nullptr => (.nullptr, false)
  | .left :: slot, way, pending, .node root left right =>
      let son := swapIn new workingFlag slot (way ++ [.left]) root.needPushDownToLeft left
      if son.2 && !workingFlag way && !pending then
        (.node (root.update son.1 right) son.1 right, true)
      else (.node root son.1 right, false)
  | .right :: slot, way, pending, .node root left right =>
      let son := swapIn new workingFlag slot (way ++ [.right]) root.needPushDownToRight right
      if son.2 && !workingFlag way && !pending then
        (.node (root.update left son.1) left son.1, true)
      else (.node root left son.1, false)

/-- No label is pending at the nodes above a slot. -/
def Tree.Clear : TreePath → Tree K α → Prop
  | [], _ => True
  | _ :: _, .nullptr => True
  | side :: slot, .node root left right =>
      (root.needPushDownToLeft = true → left = .nullptr) ∧
        (root.needPushDownToRight = true → right = .nullptr) ∧
        Tree.Clear slot (match side with
          | .left => left
          | .right => right)

variable {root : KdTreeNode K α} {left right : Tree K α}

omit [Field K] [LinearOrder K] in
theorem slots_of_clear (onLeft : root.needPushDownToLeft = true → left = .nullptr)
    (onRight : root.needPushDownToRight = true → right = .nullptr) :
    slots (.node root left right) = root.slot ::ₘ (slots left + slots right) := by
  rw [slots, pending_pushedDown root (slots left) fun need => by rw [onLeft need, slots],
    pending_pushedDown root (slots right) fun need => by rw [onRight need, slots]]

/-- A node above the slot, whether the way up still goes on or not. -/
theorem swapped_node (left' right' : Tree K α) (valid : Valid (.node root left right))
    (onLeft : root.needPushDownToLeft = true → left' = .nullptr)
    (onRight : root.needPushDownToRight = true → right' = .nullptr)
    (clearLeft : root.needPushDownToLeft = true → left = .nullptr)
    (clearRight : root.needPushDownToRight = true → right = .nullptr)
    (sameLeft : live left' = live left) (sameRight : live right' = live right) (goes : Bool) :
    live (if goes then (.node (root.update left' right') left' right', true)
      else (.node root left' right', false) : Tree K α × Bool).1 = live (.node root left right) ∧
      (goes = true → Valid left' → Valid right' →
        Valid (if goes then (.node (root.update left' right') left' right', true)
          else (.node root left' right', false) : Tree K α × Bool).1) := by
  have before : live (.node root left right) =
      root.ownLive + (live left + live right) := by
    rw [live, slots_of_clear clearLeft clearRight, liveOf_node, liveOf_add]
    rfl
  have after : ∀ root' : KdTreeNode K α, root'.slot = root.slot →
      root'.needPushDownToLeft = root.needPushDownToLeft →
      root'.needPushDownToRight = root.needPushDownToRight →
      live (.node root' left' right') = root.ownLive + (live left' + live right') := by
    intro root' point needLeft needRight
    rw [live, slots_of_clear (needLeft ▸ onLeft) (needRight ▸ onRight), point, liveOf_node,
      liveOf_add]
    rfl
  constructor
  · rw [before, ← sameLeft, ← sameRight]
    cases goes with
    | true => exact after _ rfl rfl rfl
    | false => exact after _ rfl rfl rfl
  · rintro rfl validLeft validRight
    exact (update_valid validLeft validRight valid.pointDeleted_of_down
      (fun need => slots_live_of_null (onLeft need))
      (fun need => slots_live_of_null (onRight need))).1

/-- The new tree in its place holds the same map.  When no node above is at work, the headers
describe it again. -/
theorem Mirrors.swapIn {new : Tree K α} (workingFlag : TreePath → Bool) (slot : TreePath) :
    ∀ {tree : Tree K α}, Valid tree → tree.Clear slot → Mirrors (tree.under slot) new →
      ∀ way pending,
        live (IkdTree.swapIn new workingFlag slot way pending tree).1 = live tree ∧
          ((∀ way, workingFlag way = false) → pending = false →
            (IkdTree.swapIn new workingFlag slot way pending tree).2 = true ∧
              Valid (IkdTree.swapIn new workingFlag slot way pending tree).1) := by
  induction slot with
  | nil => exact fun _ _ mirrors _ _ => ⟨mirrors.live_eq, fun _ _ => ⟨rfl, mirrors.validNew⟩⟩
  | cons side slot ih =>
      intro tree valid clear mirrors way pending
      cases tree with
      | nullptr =>
          have fewer := mirrors.count_le
          have some_ := ne_nullptr_iff.mp mirrors.ne_nullptr
          cases side <;> exact absurd fewer (Nat.not_le.mpr some_)
      | node root left right =>
          obtain ⟨clearLeft, clearRight, below⟩ := clear
          have filled : ∀ {son : Tree K α}, Mirrors (son.under slot) new → son ≠ .nullptr := by
            intro son inside
            have fewer := inside.count_le.trans (count_under_le slot son)
            exact ne_nullptr_iff.mpr ((ne_nullptr_iff.mp inside.ne_nullptr).trans_le fewer)
          cases side with
          | left =>
              have need : root.needPushDownToLeft = false :=
                Bool.eq_false_iff.mpr fun marked => filled mirrors (clearLeft marked)
              obtain ⟨same, goes⟩ := ih valid.2.2.2.1 below mirrors (way ++ [.left])
                root.needPushDownToLeft
              rw [IkdTree.swapIn]
              generalize IkdTree.swapIn new workingFlag slot _ _ left = son at same goes ⊢
              obtain ⟨kept, settled⟩ := swapped_node son.1 right valid
                (fun marked => by rw [need] at marked; contradiction) clearRight clearLeft
                clearRight same rfl (son.2 && !workingFlag way && !pending)
              refine ⟨kept, fun idle top => ?_⟩
              obtain ⟨up, validSon⟩ := goes idle need
              have goesOn : (son.2 && !workingFlag way && !pending) = true := by
                rw [up, idle way, top]
                rfl
              refine ⟨by rw [if_pos goesOn], settled goesOn validSon valid.2.2.2.2⟩
          | right =>
              have need : root.needPushDownToRight = false :=
                Bool.eq_false_iff.mpr fun marked => filled mirrors (clearRight marked)
              obtain ⟨same, goes⟩ := ih valid.2.2.2.2 below mirrors (way ++ [.right])
                root.needPushDownToRight
              rw [IkdTree.swapIn]
              generalize IkdTree.swapIn new workingFlag slot _ _ right = son at same goes ⊢
              obtain ⟨kept, settled⟩ := swapped_node left son.1 valid
                clearLeft (fun marked => by rw [need] at marked; contradiction) clearLeft
                clearRight rfl same (son.2 && !workingFlag way && !pending)
              refine ⟨kept, fun idle top => ?_⟩
              obtain ⟨up, validSon⟩ := goes idle need
              have goesOn : (son.2 && !workingFlag way && !pending) = true := by
                rw [up, idle way, top]
                rfl
              refine ⟨by rw [if_pos goesOn], settled goesOn valid.2.2.2.1 validSon⟩

end Swap

section Thread

variable [Field K] [LinearOrder K] [FloorRing K] [IsStrictOrderedRing K]
  {settings : Settings K α} {final : KdTree K α} {tree : Tree K α}

/-- The first part of a long corridor. -/
def frontTree : Tree ℚ Unit :=
  buildTree Settings.initial.nthElement ((List.range 1500).map fun n : ℕ => .along n)

/-- The rest of it. -/
def backTree : Tree ℚ Unit :=
  buildTree Settings.initial.nthElement [.along 3000, .along 4000]

/-- A place between them, with both as sons, the first as it was flattened. -/
def longCorridor : KdTree ℚ Unit where
  rootNode := .node ((KdTreeNode.init (.along 2000) .x).update (flatten frontTree).1 backTree)
    (flatten frontTree).1 backTree
  pointsDeleted := []

theorem count_frontTree : frontTree.count = 1500 := by
  simp [frontTree, count_buildTree]

theorem valid_frontTree : Valid frontTree := (buildTree_spec _ _).1

theorem live_frontTree : live frontTree ≠ 0 := by
  rw [frontTree, live_buildTree, ← Multiset.card_pos, Multiset.coe_card, List.length_map,
    List.length_range]
  decide

theorem valid_longCorridor : Valid longCorridor.rootNode := by
  have front := (valid_frontTree.of_pushedDown (flatten_pushedDown _)).1
  have back : Valid backTree := (buildTree_spec _ _).1
  exact (update_valid front back (by simp [KdTreeNode.init]) (by simp [KdTreeNode.init])
    (by simp [KdTreeNode.init])).1

/-- A point of the first part. -/
def frontAddition : Addition ℚ Unit := ⟨.along 7, waitsAt [.left], waitsAt [.left]⟩

/-- The first part after the point was added. -/
def grownFront : Tree ℚ Unit :=
  (addByPoint Settings.initial (waitsAt [.left]) (.along 7) false [.left] .x
    (flatten frontTree).1).1

theorem addByPoint_left {K : Type*} [Field K] [LinearOrder K] (settings : Settings K α)
    (rebuildPtr : RebuildPtr) {point : PointType K α} {root : KdTreeNode K α}
    (left right : Tree K α) (allowRebuild : Bool) (slot : TreePath) (fatherAxis : Axis)
    (idle : root.needPushDownToLeft = false ∧ root.needPushDownToRight = false)
    (below : point.coord root.divisionAxis < root.point.coord root.divisionAxis) :
    (addByPoint settings rebuildPtr point allowRebuild slot fatherAxis
        (.node root left right)).1 =
      (finish settings allowRebuild (root.pushedDown left right)
        (addByPoint settings rebuildPtr point
          (allowSon rebuildPtr allowRebuild (slot ++ [.left])) (slot ++ [.left])
          root.divisionAxis left).1 right).1 := by
  rw [addByPoint, if_pos below]
  simp only [KdTreeNode.pushLeft, KdTreeNode.pushRight, idle.1, idle.2, Tree.pushed_false]

theorem grown_longCorridor :
    (addByPoint Settings.initial (waitsAt [.left]) (.along 7) true [] .x
        longCorridor.rootNode).1 =
      .node ((((KdTreeNode.init (.along 2000) .x).update (flatten frontTree).1 backTree).pushedDown
        (flatten frontTree).1 backTree).update grownFront backTree) grownFront backTree := by
  have before : (PointType.along 7).coord .x < (PointType.along 2000).coord .x := by
    norm_num [PointType.along, PointType.coord]
  have valid := valid_longCorridor
  have validGrown := (addByPoint_spec Settings.initial (waitsAt [.left]) (.along 7) _
    valid.2.2.2.1 false [.left] .x).1
  have large : multiThreadRebuildPointNum ≤ grownFront.count + backTree.count + 1 := by
    rw [grownFront, count_addByPoint, (flatten_pushedDown _).count_eq, count_frontTree,
      multiThreadRebuildPointNum]
    omega
  refine (addByPoint_left _ _ _ _ _ _ _ ⟨rfl, rfl⟩ before).trans ?_
  exact finish_of_large _ _ validGrown valid.2.2.2.2 _ large

theorem exists_longCorridor : ∃ final : KdTree ℚ Unit,
    longCorridor.run Settings.initial [.addPoints false [frontAddition]] = some final ∧
      final.rootNode.under [.left] = grownFront ∧ final.rootNode.Clear [.left] ∧
      final.live = .along 7 ::ₘ longCorridor.live := by
  have added := addByPoint_spec Settings.initial (waitsAt [.left]) (.along 7) _
    valid_longCorridor true [] .x
  refine ⟨⟨(addByPoint Settings.initial (waitsAt [.left]) (.along 7) true [] .x
    longCorridor.rootNode).1, _⟩, rfl, ?_, ?_, added.2.1⟩
  · dsimp only
    rw [grown_longCorridor]
    rfl
  · dsimp only
    rw [grown_longCorridor]
    refine ⟨?_, ?_, trivial⟩
    · simp [KdTreeNode.pushedDown, KdTreeNode.update, KdTreeNode.init]
    · simp [KdTreeNode.pushedDown, KdTreeNode.update, KdTreeNode.init]

/-- The new tree of the first part gets the point from the log. -/
theorem exists_grownFront : ∃ state,
    RebuildSteps Settings.initial quiet (Rebuild.start Settings.initial frontTree newLogger)
        state ∧
      state.oldRootNode = grownFront ∧ state.rebuildLogger.empty = true := by
  have start : (Rebuild.start Settings.initial frontTree newLogger).CatchesUp Settings.initial
      quiet :=
    catchesUp_start valid_frontTree live_frontTree ManualQ.holds_clear
  have room : 0 < qLen := by decide
  have logged : RebuildStep Settings.initial quiet
      (Rebuild.start Settings.initial frontTree newLogger) _ :=
    .logs _ (.addByPoint _ (waitsAt [.left]) (.along 7) [.left] .x) room
  obtain ⟨newRootNode, redone⟩ := (start.step logged).redoable rfl
  exact ⟨_, .tail (.single logged) (.redoes _ rfl redone), rfl, rfl⟩

end Thread

end ScoutStack.IkdTree
