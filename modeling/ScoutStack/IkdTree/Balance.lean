import ScoutStack.IkdTree.Runs
import Mathlib.Tactic.Ring

/-!
# Depth of the tree

While no rebuild waits for the other thread, every operation keeps the subtrees balanced, up
to the size from which the other thread rebuilds.  Such a subtree is as deep as the logarithm
of its size, past the size below which nothing is balanced.
-/

namespace ScoutStack.IkdTree

variable {K α : Type*}

/-- Nodes on the longest way down. -/
def Tree.depth : Tree K α → ℕ
  | .nullptr => 0
  | .node _ left right => max left.depth right.depth + 1

/-- A node's tree inside another. -/
inductive Subtree (sub : Tree K α) : Tree K α → Prop where
  | refl : Subtree sub sub
  | left {root left right} (below : Subtree sub left) : Subtree sub (.node root left right)
  | right {root left right} (below : Subtree sub right) : Subtree sub (.node root left right)

/-- No node of a size that is rebuilt on the spot has a son above its share. -/
def Balanced [Field K] [LinearOrder K] (share : K) : Tree K α → Prop
  | .nullptr => True
  | .node _ left right =>
      (minimalUnbalancedTreeSize < left.count + right.count + 1 →
        left.count + right.count + 1 < multiThreadRebuildPointNum →
        (left.count : K) ≤ share * (left.count + right.count : ℕ) ∧
          (right.count : K) ≤ share * (left.count + right.count : ℕ)) ∧
        Balanced share left ∧ Balanced share right

/-- A tree has one slot for each node. -/
theorem card_slots (tree : Tree K α) : (slots tree).card = tree.count := by
  induction tree with
  | nullptr => rfl
  | node root left right ihLeft ihRight =>
      have pending : ∀ need (slots : Multiset (Slot K α)),
          (root.pending need slots).card = slots.card := by
        intro need slots
        cases need with
        | false => rfl
        | true => exact Multiset.card_map _ _
      rw [slots, Multiset.card_cons, Multiset.card_add, pending, pending, ihLeft, ihRight]
      rfl

theorem Tree.depth_le_count (tree : Tree K α) : tree.depth ≤ tree.count := by
  induction tree with
  | nullptr => exact le_refl 0
  | node root left right ihLeft ihRight =>
      rw [Tree.depth, Tree.count]
      omega

section Balance

variable [Field K] [LinearOrder K] {share : K} {root : KdTreeNode K α} {tree left right : Tree K α}

theorem balanced_nullptr : Balanced share (.nullptr : Tree K α) := trivial

/-- Labels do not move nodes. -/
theorem balanced_pushed {need : Bool} (balanced : Balanced share tree) :
    Balanced share (tree.pushed need root) := by
  cases tree with
  | nullptr => exact trivial
  | node son left right => exact balanced

/-- Sons of the same sizes leave a node as balanced as it was. -/
theorem balanced_congr {root' : KdTreeNode K α} {left' right' : Tree K α}
    (balanced : Balanced share (.node root left right)) (sameLeft : left'.count = left.count)
    (sameRight : right'.count = right.count) (balancedLeft : Balanced share left')
    (balancedRight : Balanced share right') : Balanced share (.node root' left' right') := by
  refine ⟨?_, balancedLeft, balancedRight⟩
  rw [sameLeft, sameRight]
  exact balanced.1

theorem Balanced.pushDown (balanced : Balanced share (.node root left right)) :
    Balanced share (root.pushLeft left) ∧ Balanced share (root.pushRight right) ∧
      ∀ root', Balanced share (.node root' (root.pushLeft left) (root.pushRight right)) := by
  have onLeft : Balanced share (root.pushLeft left) := balanced_pushed balanced.2.1
  have onRight : Balanced share (root.pushRight right) := balanced_pushed balanced.2.2
  exact ⟨onLeft, onRight, fun root' => balanced_congr balanced (Tree.count_pushLeft root left)
    (Tree.count_pushRight root right) onLeft onRight⟩

theorem Balanced.of_subtree {sub : Tree K α} (below : Subtree sub tree)
    (balanced : Balanced share tree) : Balanced share sub := by
  induction below with
  | refl => exact balanced
  | left below ih => exact ih balanced.2.1
  | right below ih => exact ih balanced.2.2

/-- Push-downs move no node. -/
theorem Balanced.of_pushedDown {tree' : Tree K α} (pushed : PushedDown tree tree')
    (balanced : Balanced share tree) : Balanced share tree' := by
  induction pushed with
  | refl tree => exact balanced
  | trans before after ihBefore ihAfter => exact ihAfter (ihBefore balanced)
  | node onLeft onRight ihLeft ihRight =>
      obtain ⟨pushedLeft, pushedRight, _⟩ := balanced.pushDown
      exact balanced_congr balanced
        (onLeft.count_eq.trans (Tree.count_pushLeft _ _))
        (onRight.count_eq.trans (Tree.count_pushRight _ _)) (ihLeft pushedLeft)
        (ihRight pushedRight)

end Balance

/-- `TreeSize` is the number of nodes. -/
theorem Valid.count_eq [LinearOrder K] {tree : Tree K α} (valid : Valid tree) :
    tree.treeSize = tree.count := by
  rw [valid.treeSize_eq, card_slots]

theorem count_buildTree [Field K] [LinearOrder K] (nthElement : NthElement K α)
    (points : List (PointType K α)) : (buildTree nthElement points).count = points.length := by
  rw [← card_slots, (buildTree_spec nthElement points).2, Multiset.card_map, Multiset.coe_card]

/-- Flattening stores no more points than there are nodes. -/
theorem length_flatten_le (tree : Tree K α) : (flatten tree).2.1.length ≤ tree.count := by
  induction tree using Tree.pushInduction with
  | nullptr => simp [flatten]
  | node root left right ihLeft ihRight =>
      rw [Tree.count_pushLeft] at ihLeft
      rw [Tree.count_pushRight] at ihRight
      have own : (if root.pointDeleted then [] else [root.point]).length ≤ 1 := by
        split <;> simp
      rw [flatten, Tree.count, List.length_append, List.length_append]
      omega

/-! ## Operations -/

section Operations

variable [Field K] [LinearOrder K] [IsStrictOrderedRing K] {share : K}
  {root : KdTreeNode K α} {tree left right : Tree K α}

/-- The larger half of ten or more. -/
theorem half_le_share (fair : 6 / 11 ≤ share) {rest : ℕ} (many : minimalUnbalancedTreeSize ≤ rest) :
    (rest / 2 : ℕ) ≤ share * (rest : K) ∧ (rest - rest / 2 : ℕ) ≤ share * (rest : K) := by
  have larger : 11 * (rest - rest / 2) ≤ 6 * rest := by
    unfold minimalUnbalancedTreeSize at many
    omega
  have larger' : 11 * ((rest - rest / 2 : ℕ) : K) ≤ 6 * rest := by exact_mod_cast larger
  have smaller : ((rest / 2 : ℕ) : K) ≤ (rest - rest / 2 : ℕ) := by
    exact_mod_cast (by omega : rest / 2 ≤ rest - rest / 2)
  have scaled : 6 / 11 * (rest : K) ≤ share * rest :=
    mul_le_mul_of_nonneg_right fair (Nat.cast_nonneg rest)
  constructor <;> linarith

/-- `BuildTree` splits evenly. -/
theorem buildTree_balanced (fair : 6 / 11 ≤ share) (nthElement : NthElement K α)
    (points : List (PointType K α)) : Balanced share (buildTree nthElement points) := by
  fun_induction buildTree nthElement points with
  | case1 => exact balanced_nullptr
  | case2 first rest axis mid storage left right root ihLeft ihRight =>
      have onLeft : left.count = rest.length / 2 := by
        simp only [left, count_buildTree, List.length_take, storage, NthElement.length_run,
          List.length_cons, mid]
        omega
      have onRight : right.count = rest.length - rest.length / 2 := by
        simp only [right, count_buildTree, List.length_drop, storage, NthElement.length_run,
          List.length_cons, mid]
        omega
      refine ⟨fun large _ => ?_, ihLeft, ihRight⟩
      have total : left.count + right.count = rest.length := by omega
      rw [total, onLeft, onRight]
      exact half_le_share fair (by omega)

variable (settings : Settings K α)

/-- Where the criterion holds, no son is above its share. -/
theorem share_of_criterionCheck (positive : 0 ≤ settings.balanceCriterionParam)
    (large : minimalUnbalancedTreeSize < left.count + right.count + 1)
    (validLeft : Valid left) (validRight : Valid right)
    (passes : criterionCheck settings (root.update left right) left right = false) :
    (left.count : K) ≤ settings.balanceCriterionParam * (left.count + right.count : ℕ) ∧
      (right.count : K) ≤ settings.balanceCriterionParam * (left.count + right.count : ℕ) := by
  have sizeLeft := validLeft.count_eq
  have sizeRight := validRight.count_eq
  have size : (root.update left right).treeSize = left.count + right.count + 1 := by
    rw [KdTreeNode.update, sizeLeft, sizeRight]
  rw [criterionCheck, size, if_neg (not_le.mpr large), Bool.or_eq_false_iff,
    Bool.or_eq_false_iff] at passes
  obtain ⟨_, notAbove, notBelow⟩ := passes
  rw [decide_eq_false_iff_not, not_lt, Nat.add_sub_cancel] at notAbove notBelow
  have some_ : (0 : K) < (left.count + right.count : ℕ) := by
    unfold minimalUnbalancedTreeSize at large
    exact_mod_cast (by omega : 0 < left.count + right.count)
  rw [div_le_iff₀ some_] at notAbove
  rw [le_div_iff₀ some_] at notBelow
  cases null : left.isNull with
  | true =>
      have empty : left.count = 0 := by
        cases left with
        | nullptr => rfl
        | node => exact absurd null Bool.false_ne_true
      rw [null, if_pos rfl, sizeRight] at notAbove
      rw [empty, Nat.cast_zero]
      rw [empty] at notAbove
      exact ⟨mul_nonneg positive (Nat.cast_nonneg _), notAbove⟩
  | false =>
      rw [null, if_neg Bool.false_ne_true, sizeLeft] at notAbove notBelow
      refine ⟨notAbove, ?_⟩
      push_cast at notBelow ⊢
      linarith

/-- An operation that may rebuild leaves a node balanced. -/
theorem finish_balanced (fair : 6 / 11 ≤ settings.balanceCriterionParam) (validLeft : Valid left)
    (validRight : Valid right) (onLeft : Balanced settings.balanceCriterionParam left)
    (onRight : Balanced settings.balanceCriterionParam right) :
    Balanced settings.balanceCriterionParam (finish settings true root left right).1 := by
  have size : (root.update left right).treeSize = left.count + right.count + 1 := by
    rw [KdTreeNode.update, validLeft.count_eq, validRight.count_eq]
  rw [finish, Bool.true_and]
  split
  · rw [rebuild]
    split
    · next huge =>
        rw [Tree.treeSize, size] at huge
        exact ⟨fun _ small => absurd huge (not_le.mpr small), onLeft, onRight⟩
    · exact buildTree_balanced fair _ _
  · next passes =>
      have positive : 0 ≤ settings.balanceCriterionParam := le_trans (by norm_num) fair
      exact ⟨fun large _ => share_of_criterionCheck settings positive large validLeft validRight
        (Bool.eq_false_iff.mpr passes), onLeft, onRight⟩

theorem addByPoint_balanced (fair : 6 / 11 ≤ settings.balanceCriterionParam)
    (point : PointType K α) (tree : Tree K α) (valid : Valid tree)
    (balanced : Balanced settings.balanceCriterionParam tree) : ∀ slot fatherAxis,
      Balanced settings.balanceCriterionParam
        (addByPoint settings quiet point true slot fatherAxis tree).1 := by
  induction tree using Tree.pushInduction with
  | nullptr =>
      intro slot fatherAxis
      rw [addByPoint]
      exact ⟨fun large => absurd large (Nat.not_lt.mpr (Nat.le_add_left 1 9)), trivial, trivial⟩
  | node root left right ihLeft ihRight =>
      intro slot fatherAxis
      obtain ⟨pushedLeft, pushedRight, _⟩ := balanced.pushDown
      rw [addByPoint]
      split
      · exact finish_balanced settings fair
          (addByPoint_spec settings quiet point _ valid.pushLeft true _ _).1 valid.pushRight
          (ihLeft valid.pushLeft pushedLeft _ _) pushedRight
      · exact finish_balanced settings fair valid.pushLeft
          (addByPoint_spec settings quiet point _ valid.pushRight true _ _).1 pushedLeft
          (ihRight valid.pushRight pushedRight _ _)

theorem deleteByRange_balanced (fair : 6 / 11 ≤ settings.balanceCriterionParam)
    (box : BoxPointType K) (isDownsample : Bool) (tree : Tree K α) (valid : Valid tree)
    (balanced : Balanced settings.balanceCriterionParam tree) : ∀ slot,
      Balanced settings.balanceCriterionParam
        (deleteByRange settings quiet box isDownsample true slot tree).1 := by
  induction tree using Tree.pushInduction with
  | nullptr =>
      intro slot
      rw [deleteByRange]
      exact balanced_nullptr
  | node root left right ihLeft ihRight =>
      intro slot
      obtain ⟨pushedLeft, pushedRight, pushed⟩ := balanced.pushDown
      rw [deleteByRange]
      split
      · exact balanced
      · dsimp only
        split
        · exact pushed _
        · split
          · exact pushed _
          · exact finish_balanced settings fair
              (deleteByRange_spec settings quiet box isDownsample _ valid.pushLeft true _).valid
              (deleteByRange_spec settings quiet box isDownsample _ valid.pushRight true _).valid
              (ihLeft valid.pushLeft pushedLeft _) (ihRight valid.pushRight pushedRight _)

end Operations

section Growth

variable [Field K] [LinearOrder K] (settings : Settings K α)

/-- An operation that may rebuild keeps no more nodes than it found. -/
theorem count_finish_le (allowRebuild : Bool) (root : KdTreeNode K α) (left right : Tree K α) :
    (finish settings allowRebuild root left right).1.count ≤ left.count + right.count + 1 := by
  rw [finish]
  split
  · rw [rebuild]
    split
    · exact le_rfl
    · rw [count_buildTree]
      exact length_flatten_le _
  · exact le_rfl

theorem count_addByPoint_le (rebuildPtr : RebuildPtr) (point : PointType K α)
    (tree : Tree K α) : ∀ allowRebuild slot fatherAxis,
      (addByPoint settings rebuildPtr point allowRebuild slot fatherAxis tree).1.count ≤
        tree.count + 1 := by
  induction tree using Tree.pushInduction with
  | nullptr =>
      intro allowRebuild slot fatherAxis
      rw [addByPoint]
      rfl
  | node root left right ihLeft ihRight =>
      intro allowRebuild slot fatherAxis
      rw [Tree.count_pushLeft] at ihLeft
      rw [Tree.count_pushRight] at ihRight
      rw [addByPoint, Tree.count]
      split
      · refine (count_finish_le settings allowRebuild _ _ _).trans ?_
        rw [Tree.count_pushRight]
        have grown := ihLeft (allowSon rebuildPtr allowRebuild (slot ++ [.left])) (slot ++ [.left])
          root.divisionAxis
        omega
      · refine (count_finish_le settings allowRebuild _ _ _).trans ?_
        rw [Tree.count_pushLeft]
        have grown := ihRight (allowSon rebuildPtr allowRebuild (slot ++ [.right]))
          (slot ++ [.right]) root.divisionAxis
        omega

/-- Every point adds a node at most. -/
theorem KdTree.count_addPoints_le [FloorRing K] (additions : List (Addition K α)) :
    ∀ {map : KdTree K α} {added : KdTree K α × ℕ},
      map.addPoints settings false additions = some added →
      added.1.rootNode.count ≤ map.rootNode.count + additions.length := by
  induction additions with
  | nil =>
      intro map added done
      rw [← Option.some.inj done]
      exact le_rfl
  | cons addition additions ih =>
      intro map added done
      obtain ⟨between, first, rest⟩ := Option.bind_eq_some_iff.mp done
      obtain ⟨last, calls, rfl⟩ := Option.map_eq_some_iff.mp rest
      have later := ih calls
      rw [KdTree.addPoint, if_neg Bool.false_ne_true] at first
      obtain ⟨after, adds, rfl⟩ := Option.map_eq_some_iff.mp first
      rw [KdTree.addByPoint] at adds
      split at adds
      · exact absurd adds.symm (Option.some_ne_none _)
      · next root left right rooted =>
          have grown := count_addByPoint_le settings addition.before addition.point
            (.node root left right) (allowRoot addition.before) [] root.divisionAxis
          rw [← Option.some.inj adds] at later
          rw [rooted, List.length_cons]
          dsimp only at later ⊢
          omega

end Growth

/-! ## Runs -/

section Runs

variable [Field K] [LinearOrder K] [FloorRing K] [IsStrictOrderedRing K]
  {settings : Settings K α} {map : KdTree K α}

/-- A call that meets no rebuild of the other thread. -/
def Command.Quiet : Command K α → Prop
  | .addPoints _ additions => ∀ addition ∈ additions,
      addition.before = quiet ∧ addition.after = quiet
  | .deletePointBoxes boxes => ∀ box ∈ boxes, box.2 = quiet
  | _ => True

omit [FloorRing K] in
theorem KdTree.addByPoint_balanced (fair : 6 / 11 ≤ settings.balanceCriterionParam)
    (point : PointType K α) (valid : Valid map.rootNode)
    (balanced : Balanced settings.balanceCriterionParam map.rootNode) {added : KdTree K α}
    (done : map.addByPoint settings true quiet point = some added) :
    Balanced settings.balanceCriterionParam added.rootNode := by
  rw [KdTree.addByPoint] at done
  split at done
  · exact absurd done.symm (Option.some_ne_none _)
  · next root left right rooted =>
      rw [rooted] at valid balanced
      rw [← Option.some.inj done]
      exact IkdTree.addByPoint_balanced settings fair point _ valid balanced _ _

theorem KdTree.addPoint_balanced (fair : 6 / 11 ≤ settings.balanceCriterionParam)
    (downsampleOn : Bool) (point : PointType K α) (valid : Valid map.rootNode)
    (balanced : Balanced settings.balanceCriterionParam map.rootNode) {added : KdTree K α × ℕ}
    (done : map.addPoint settings downsampleOn point quiet quiet = some added) :
    Balanced settings.balanceCriterionParam added.1.rootNode := by
  rw [KdTree.addPoint] at done
  cases downsampleOn with
  | false =>
      rw [if_neg Bool.false_ne_true] at done
      obtain ⟨after, calls, rfl⟩ := Option.map_eq_some_iff.mp done
      exact KdTree.addByPoint_balanced fair point valid balanced calls
  | true =>
      rw [if_pos rfl] at done
      dsimp only at done
      have searched := searchByRange_pushedDown (boxOfPoint settings point) map.rootNode
      obtain ⟨validSearched, _⟩ := valid.of_pushedDown searched
      have balancedSearched := balanced.of_pushedDown searched
      split at done
      · obtain ⟨after, calls, rfl⟩ := Option.map_eq_some_iff.mp done
        split at calls
        · exact KdTree.addByPoint_balanced fair _
            (IkdTree.deleteByRange_spec settings quiet _ true _ validSearched true []).valid
            (deleteByRange_balanced settings fair _ true _ validSearched balancedSearched [])
            calls
        · exact KdTree.addByPoint_balanced fair _ validSearched balancedSearched
            calls
      · rw [← Option.some.inj done]
        exact balancedSearched

theorem KdTree.addPoints_balanced (positive : 0 < settings.downsampleSize)
    (fair : 6 / 11 ≤ settings.balanceCriterionParam) (downsampleOn : Bool)
    (additions : List (Addition K α)) :
    ∀ {map : KdTree K α}, Valid map.rootNode →
      Balanced settings.balanceCriterionParam map.rootNode →
      (∀ addition ∈ additions, addition.before = quiet ∧ addition.after = quiet) →
      ∀ added : KdTree K α × ℕ, map.addPoints settings downsampleOn additions = some added →
        Balanced settings.balanceCriterionParam added.1.rootNode := by
  induction additions with
  | nil =>
      intro map _ balanced _ added done
      rw [← Option.some.inj done]
      exact balanced
  | cons addition additions ih =>
      intro map valid balanced calm added done
      obtain ⟨first, step, rest⟩ := Option.bind_eq_some_iff.mp done
      obtain ⟨last, calls, rfl⟩ := Option.map_eq_some_iff.mp rest
      have valid' := KdTree.addPoint_valid positive valid step
      obtain ⟨before, after⟩ := calm addition List.mem_cons_self
      rw [before, after] at step
      have balanced' :=
        KdTree.addPoint_balanced fair downsampleOn addition.point valid balanced step
      exact ih valid' balanced' (fun other member => calm other (List.mem_cons_of_mem _ member))
        last calls

omit [FloorRing K] in
theorem KdTree.deletePointBoxes_balanced (fair : 6 / 11 ≤ settings.balanceCriterionParam)
    (boxes : List (BoxPointType K × RebuildPtr)) :
    ∀ {map : KdTree K α}, Valid map.rootNode →
      Balanced settings.balanceCriterionParam map.rootNode → (∀ box ∈ boxes, box.2 = quiet) →
      Balanced settings.balanceCriterionParam (map.deletePointBoxes settings boxes).1.rootNode := by
  induction boxes with
  | nil => exact fun _ balanced _ => balanced
  | cons first boxes ih =>
      intro map valid balanced calm
      obtain ⟨box, rebuildPtr⟩ := first
      obtain rfl : rebuildPtr = quiet := calm _ List.mem_cons_self
      refine ih (KdTree.deleteByRange_spec settings map valid quiet box false).1 ?_
        fun other member => calm other (List.mem_cons_of_mem _ member)
      exact deleteByRange_balanced settings fair box false _ valid balanced []

/-- Every call keeps the balance. -/
theorem KdTree.step_balanced (positive : 0 < settings.downsampleSize)
    (fair : 6 / 11 ≤ settings.balanceCriterionParam) (valid : Valid map.rootNode)
    (balanced : Balanced settings.balanceCriterionParam map.rootNode) {command : Command K α}
    (calm : command.Quiet) {next : KdTree K α} (done : map.step settings command = some next) :
    Balanced settings.balanceCriterionParam next.rootNode := by
  cases command with
  | build cloud =>
      rw [← Option.some.inj done]
      exact buildTree_balanced fair _ cloud
  | addPoints downsampleOn additions =>
      obtain ⟨added, calls, rfl⟩ := Option.map_eq_some_iff.mp done
      exact KdTree.addPoints_balanced positive fair downsampleOn additions valid balanced calm
        added calls
  | deletePointBoxes boxes =>
      rw [← Option.some.inj done]
      exact KdTree.deletePointBoxes_balanced fair boxes valid balanced calm
  | boxSearch box =>
      rw [← Option.some.inj done]
      exact balanced.of_pushedDown (searchByRange_pushedDown box map.rootNode)
  | nearestSearch kNearest point maxDist =>
      rw [← Option.some.inj done]
      exact balanced.of_pushedDown
        (nearestSearch_pushedDown kNearest point maxDist map.rootNode)
  | acquireRemovedPoints =>
      rw [← Option.some.inj done]
      exact balanced

theorem KdTree.run_balanced (positive : 0 < settings.downsampleSize)
    (fair : 6 / 11 ≤ settings.balanceCriterionParam) (commands : List (Command K α)) :
    ∀ {map final : KdTree K α}, Valid map.rootNode →
      Balanced settings.balanceCriterionParam map.rootNode →
      (∀ command ∈ commands, command.Quiet) → map.run settings commands = some final →
      Balanced settings.balanceCriterionParam final.rootNode := by
  induction commands with
  | nil =>
      intro map final _ balanced _ done
      rw [← Option.some.inj done]
      exact balanced
  | cons command commands ih =>
      intro map final valid balanced calm done
      obtain ⟨next, step, rest⟩ := Option.bind_eq_some_iff.mp done
      exact ih (KdTree.step_spec positive valid step).1
        (KdTree.step_balanced positive fair valid balanced (calm _ List.mem_cons_self) step)
        (fun other member => calm other (List.mem_cons_of_mem _ member)) rest

end Runs

/-! ## Depth -/

section Depth

variable [Field K] [LinearOrder K] [IsStrictOrderedRing K]

/-- A balanced tree loses its share on every level. -/
theorem Balanced.depth_le {share : K} (fair : 0 ≤ share) (levels : ℕ) :
    ∀ {tree : Tree K α}, Balanced share tree → tree.count < multiThreadRebuildPointNum →
      tree.count * share ^ levels ≤ (minimalUnbalancedTreeSize : K) →
      tree.depth ≤ minimalUnbalancedTreeSize + levels := by
  induction levels with
  | zero =>
      intro tree _ _ small
      rw [pow_zero, mul_one, Nat.cast_le] at small
      exact tree.depth_le_count.trans small
  | succ levels ih =>
      intro tree balanced below small
      by_cases few : tree.count ≤ minimalUnbalancedTreeSize
      · exact tree.depth_le_count.trans (few.trans (Nat.le_add_right _ _))
      · cases tree with
        | nullptr => exact absurd (Nat.zero_le _) few
        | node root left right =>
            rw [Tree.count] at few below small
            obtain ⟨onLeft, onRight⟩ := balanced.1 (not_le.mp few) below
            have shared : ∀ {son : Tree K α},
                (son.count : K) ≤ share * (left.count + right.count : ℕ) →
                son.count * share ^ levels ≤ (minimalUnbalancedTreeSize : K) := by
              intro son onSon
              calc (son.count : K) * share ^ levels
                  ≤ share * (left.count + right.count : ℕ) * share ^ levels :=
                    mul_le_mul_of_nonneg_right onSon (pow_nonneg fair levels)
                _ = (left.count + right.count : ℕ) * share ^ (levels + 1) := by ring
                _ ≤ (left.count + right.count + 1 : ℕ) * share ^ (levels + 1) :=
                    mul_le_mul_of_nonneg_right (Nat.cast_le.mpr (Nat.le_succ _))
                      (pow_nonneg fair _)
                _ ≤ minimalUnbalancedTreeSize := small
            have deepLeft := ih balanced.2.1 (by omega) (shared onLeft)
            have deepRight := ih balanced.2.2 (by omega) (shared onRight)
            rw [Tree.depth]
            omega

/-- A tree of eleven points that gets a hundred more at one end. -/
def oneSided : List (Command ℚ Unit) :=
  [.build ((List.range 11).map fun n : ℕ => .along n),
    .addPoints false ((List.range 100).map fun n : ℕ => .quietly (.along (11 + n)))]

/-- After any calls that meet no rebuild of the other thread, every subtree below the size of
such a rebuild is as deep as the logarithm of its size. -/
theorem depth_le_of_run [FloorRing K] {settings : Settings K α} {map : KdTree K α}
    (positive : 0 < settings.downsampleSize) (fair : 6 / 11 ≤ settings.balanceCriterionParam)
    {commands : List (Command K α)} (calm : ∀ command ∈ commands, command.Quiet)
    (done : KdTree.new.run settings commands = some map) {sub : Tree K α}
    (below : Subtree sub map.rootNode)
    (small : sub.count < multiThreadRebuildPointNum) (levels : ℕ)
    (few : sub.count * settings.balanceCriterionParam ^ levels ≤ (minimalUnbalancedTreeSize : K)) :
    sub.depth ≤ minimalUnbalancedTreeSize + levels := by
  have balanced := KdTree.run_balanced positive fair commands valid_nullptr balanced_nullptr calm
    done
  exact (balanced.of_subtree below).depth_le (le_trans (by norm_num) fair) levels small few

theorem initial_fair : 6 / 11 ≤ (Settings.initial (α := α)).balanceCriterionParam := by
  norm_num [Settings.initial]

theorem depth_le_of_run_oneSided : ∃ map,
    KdTree.new.run Settings.initial oneSided = some map ∧ map.live.card = 111 ∧
      map.rootNode.depth ≤ 15 := by
  have start : (KdTree.new.build Settings.initial
      ((List.range 11).map fun n : ℕ => PointType.along n)).rootNode ≠ .nullptr :=
    KdTree.build_ne_nullptr _ _
  obtain ⟨map, _, calls, _, _, alive, _⟩ := KdTree.addPoints_plain Settings.initial
    ((List.range 100).map fun n : ℕ => .quietly (.along (11 + n)))
    (KdTree.valid_build _ _ _) start
  have done : KdTree.new.run Settings.initial oneSided = some map := by
    simp only [oneSided, KdTree.run, KdTree.step, Option.bind_some, calls, Option.map_some]
  have few := KdTree.count_addPoints_le Settings.initial _ calls
  rw [KdTree.build, count_buildTree, List.length_map, List.length_map, List.length_range,
    List.length_range] at few
  refine ⟨map, done, ?_, ?_⟩
  · rw [alive, KdTree.live_build]
    simp
  · refine depth_le_of_run initial_positive initial_fair ?_ done .refl ?_ 5 ?_
    · simp [oneSided, Command.Quiet, Addition.quietly]
    · exact few.trans_lt (by decide)
    · have most : (map.rootNode.count : ℚ) ≤ 111 := by exact_mod_cast few
      simp only [Settings.initial, minimalUnbalancedTreeSize]
      linarith

end Depth

end ScoutStack.IkdTree
