import ScoutStack.IkdTree.Contents
import ScoutStack.Lib.Heap
import ScoutStack.Lib.Smallest
import Mathlib.Algebra.Order.Field.Basic
import Mathlib.Data.Prod.Lex
import Mathlib.Tactic.Linarith
import Mathlib.Tactic.Positivity

/-!
# Nearest neighbours

`MANUAL_HEAP` and `Search`.  The heap compares distances that differ by less than `1e-10` by
the `x` coordinate of the points, which is an order only when no two distances come that
close without being equal.  Then the search keeps the `k` nearest live points.
-/

namespace ScoutStack.IkdTree

variable {K α : Type*}

/-- `PointType_CMP`. -/
structure PointTypeCmp (K α : Type*) where
  point : PointType K α
  dist : K

/-- `MANUAL_HEAP`.  The memory past `heap_size` holds what was left there. -/
structure ManualHeap (K α : Type*) where
  cap : ℕ
  heapSize : ℕ
  heap : ℕ → PointTypeCmp K α

section Model

variable [Field K] [LinearOrder K]

/-- `PointType_CMP::operator<`. -/
def PointTypeCmp.lt (a b : PointTypeCmp K α) : Bool :=
  if |a.dist - b.dist| < 1 / 10 ^ 10 then decide (a.point.x < b.point.x)
  else decide (a.dist < b.dist)

namespace ManualHeap

/-- A heap after `clear`; `blank` is what the memory starts with. -/
def empty (blank : PointTypeCmp K α) (maxCapacity : ℕ) : ManualHeap K α where
  cap := maxCapacity
  heapSize := 0
  heap _ := blank

/-- `MANUAL_HEAP::top`. -/
def top (q : ManualHeap K α) : PointTypeCmp K α := q.heap 0

/-- `MANUAL_HEAP::push`, with `FloatUp`. -/
def push (q : ManualHeap K α) (point : PointTypeCmp K α) : ManualHeap K α :=
  if q.heapSize ≥ q.cap then q
  else
    { q with
      heap := Heap.floatUp PointTypeCmp.lt (Function.update q.heap q.heapSize point) q.heapSize
        point
      heapSize := q.heapSize + 1 }

/-- `MANUAL_HEAP::pop`, with `MoveDown`. -/
def pop (q : ManualHeap K α) : ManualHeap K α :=
  if q.heapSize = 0 then q
  else
    { q with
      heap := Heap.moveDown PointTypeCmp.lt (q.heapSize - 1)
        (Function.update q.heap 0 (q.heap (q.heapSize - 1))) 0 (q.heap (q.heapSize - 1))
      heapSize := q.heapSize - 1 }

end ManualHeap

variable (kNearest : ℕ) (point : PointType K α)

/-- `max_dist * max_dist`; `INFINITY` is its own square. -/
def maxDistSqr (maxDist : WithTop K) : WithTop K := maxDist.map fun dist => dist * dist

/-- What `KD_TREE::Search` does with the point of a node. -/
def consider (maxDist : WithTop K) (root : KdTreeNode K α) (q : ManualHeap K α) :
    ManualHeap K α :=
  if root.pointDeleted then q
  else
    let dist := calcDist point root.point
    if (dist : WithTop K) ≤ maxDistSqr maxDist ∧ (q.heapSize < kNearest ∨ dist < q.top.dist) then
      (if q.heapSize ≥ kNearest then q.pop else q).push ⟨root.point, dist⟩
    else q

/-- `KD_TREE::Search`, with the tree after its push-downs. -/
def search (maxDist : WithTop K) : Tree K α → ManualHeap K α → Tree K α × ManualHeap K α
  | .nullptr, q => (.nullptr, q)
  | .node root left right, q =>
      if root.treeDeleted then (.node root left right, q)
      else if ((calcBoxDist root.nodeRange point : K) : WithTop K) > maxDistSqr maxDist then
        (.node root left right, q)
      else
        let pushed := root.pushedDown left right
        let q := consider kNearest point maxDist root q
        let distLeftNode := (root.pushLeft left).boxDist point
        let distRightNode := (root.pushRight right).boxDist point
        if q.heapSize < kNearest ∨ distLeftNode < q.top.dist ∧ distRightNode < q.top.dist then
          if distLeftNode ≤ distRightNode then
            let l := search maxDist (root.pushLeft left) q
            let r := if l.2.heapSize < kNearest ∨ distRightNode < l.2.top.dist then
              search maxDist (root.pushRight right) l.2 else (root.pushRight right, l.2)
            (.node pushed l.1 r.1, r.2)
          else
            let r := search maxDist (root.pushRight right) q
            let l := if r.2.heapSize < kNearest ∨ distLeftNode < r.2.top.dist then
              search maxDist (root.pushLeft left) r.2 else (root.pushLeft left, r.2)
            (.node pushed l.1 r.1, l.2)
        else
          let l := if distLeftNode < q.top.dist then search maxDist (root.pushLeft left) q
            else (root.pushLeft left, q)
          let r := if distRightNode < l.2.top.dist then search maxDist (root.pushRight right) l.2
            else (root.pushRight right, l.2)
          (.node pushed l.1 r.1, r.2)
termination_by tree => tree.count
decreasing_by
  all_goals
    simp only [Tree.count, Tree.count_pushLeft, Tree.count_pushRight]
    omega

/-- How `KD_TREE::Nearest_Search` empties the heap: each top goes to the front. -/
def ManualHeap.drain : ℕ → ManualHeap K α → List (PointTypeCmp K α) → List (PointTypeCmp K α)
  | 0, _, found => found
  | rounds + 1, q, found => drain rounds q.pop (q.top :: found)

/-- `KD_TREE::Nearest_Search`: the tree, and `Nearest_Points` with `Point_Distance`. -/
def nearestSearch (maxDist : WithTop K) (tree : Tree K α) :
    Tree K α × List (PointTypeCmp K α) :=
  let found := search kNearest point maxDist tree (ManualHeap.empty ⟨point, 0⟩ (2 * kNearest))
  (found.1, found.2.drain (min kNearest found.2.heapSize) [])

/-- Whatever the heap, `Search` only pushes down. -/
theorem search_pushedDown (maxDist : WithTop K) (tree : Tree K α) :
    ∀ q, PushedDown tree (search kNearest point maxDist tree q).1 := by
  induction tree using Tree.pushInduction with
  | nullptr =>
      intro q
      rw [search]
      exact .refl _
  | node root left right ihLeft ihRight =>
      intro q
      have visit : ∀ {son : Tree K α} {reached : Prop} [Decidable reached] {q},
          (∀ q, PushedDown son (search kNearest point maxDist son q).1) →
          PushedDown son
            (if reached then search kNearest point maxDist son q else (son, q)).1 := by
        intro son reached _ q searched
        split
        · exact searched q
        · exact .refl son
      rw [search]
      split
      · exact .refl _
      · split
        · exact .refl _
        · dsimp only
          split
          · split
            · exact .node (ihLeft _) (visit ihRight)
            · exact .node (visit ihLeft) (ihRight _)
          · exact .node (visit ihLeft) (visit ihRight)

theorem nearestSearch_pushedDown (maxDist : WithTop K) (tree : Tree K α) :
    PushedDown tree (nearestSearch kNearest point maxDist tree).1 :=
  search_pushedDown kNearest point maxDist tree _

end Model

/-! ## The heap -/

section Heap

variable {dists : Set K}

/-- The entries of a heap. -/
def ManualHeap.contents (q : ManualHeap K α) : Multiset (PointTypeCmp K α) :=
  Heap.contents q.heapSize q.heap

/-- The entries whose distances are among the given. -/
def Admits (dists : Set K) (entry : PointTypeCmp K α) : Prop := entry.dist ∈ dists

/-- The order of the heap where it is one. -/
def PointTypeCmp.key (entry : PointTypeCmp K α) : K ×ₗ K := toLex (entry.dist, entry.point.x)

theorem ManualHeap.card_contents (q : ManualHeap K α) : q.contents.card = q.heapSize :=
  Heap.card_contents _ _

variable [LinearOrder K]

/-- A heap in order, with entries whose distances are among the given. -/
structure ManualHeap.Sound (dists : Set K) (q : ManualHeap K α) : Prop where
  ordered : Heap.Ordered PointTypeCmp.key q.heapSize q.heap
  cells : ∀ i < q.heapSize, Admits dists (q.heap i)

namespace ManualHeap

theorem sound_empty (dists : Set K) (blank : PointTypeCmp K α) (maxCapacity : ℕ) :
    (empty blank maxCapacity).Sound dists where
  ordered i _ inside := absurd inside (Nat.not_lt_zero i)
  cells i inside := absurd inside (Nat.not_lt_zero i)

/-- The top of a heap is one of the farthest entries. -/
theorem Sound.le_top {q : ManualHeap K α} (sound : q.Sound dists) {entry : PointTypeCmp K α}
    (member : entry ∈ q.contents) : entry.dist ≤ q.top.dist := by
  obtain ⟨i, inside, rfl⟩ := Heap.mem_contents.mp member
  have order := sound.ordered.le_root i inside
  rw [PointTypeCmp.key, PointTypeCmp.key, Prod.Lex.toLex_le_toLex] at order
  rcases order with less | equal
  · exact less.le
  · exact equal.1.le

end ManualHeap

variable [Field K]

/-- No two of the distances differ by less than `1e-10` without being equal. -/
def Separated (dists : Set K) : Prop :=
  ∀ a ∈ dists, ∀ b ∈ dists, a = b ∨ 1 / 10 ^ 10 ≤ |a - b|

variable [IsStrictOrderedRing K]

theorem agrees_lt (separated : Separated dists) :
    Heap.Agrees PointTypeCmp.key PointTypeCmp.lt (Admits (α := α) dists) := by
  intro a b first second
  rw [PointTypeCmp.lt, PointTypeCmp.key, PointTypeCmp.key, Prod.Lex.toLex_lt_toLex]
  rcases separated a.dist first b.dist second with equal | apart
  · rw [equal, sub_self, abs_zero, if_pos (by positivity), decide_eq_true_iff]
    simp
  · have differ : a.dist ≠ b.dist := by
      intro equal
      rw [equal, sub_self, abs_zero] at apart
      exact absurd apart (not_le.mpr (by positivity))
    rw [if_neg (not_lt.mpr apart), decide_eq_true_iff]
    simp [differ]

namespace ManualHeap

theorem push_spec (separated : Separated dists) {q : ManualHeap K α} (sound : q.Sound dists)
    (room : q.heapSize < q.cap) (entry : PointTypeCmp K α) (good : Admits dists entry) :
    (q.push entry).Sound dists ∧ (q.push entry).contents = entry ::ₘ q.contents ∧
      (q.push entry).cap = q.cap := by
  obtain ⟨ordered, same⟩ := Heap.append_spec (agrees_lt separated) sound.ordered sound.cells good
  have pushed : q.push entry = { q with
      heap := Heap.floatUp PointTypeCmp.lt (Function.update q.heap q.heapSize entry) q.heapSize
        entry
      heapSize := q.heapSize + 1 } := if_neg (not_le.mpr room)
  rw [pushed]
  refine ⟨⟨ordered, Heap.forall_mem_contents.mp ?_⟩, same, rfl⟩
  intro other member
  rw [same] at member
  rcases Multiset.mem_cons.mp member with rfl | old
  · exact good
  · exact Heap.forall_mem_contents.mpr sound.cells other old

theorem pop_spec (separated : Separated dists) {q : ManualHeap K α} (sound : q.Sound dists)
    (size : ℕ) (filled : q.heapSize = size + 1) :
    q.pop.Sound dists ∧ q.contents = q.top ::ₘ q.pop.contents ∧ q.pop.cap = q.cap := by
  have ordered := sound.ordered
  have cells := sound.cells
  rw [filled] at ordered cells
  obtain ⟨kept, same⟩ := Heap.removeTop_spec (agrees_lt separated) ordered cells
  have popped : q.pop = { q with
      heap := Heap.moveDown PointTypeCmp.lt size (Function.update q.heap 0 (q.heap size)) 0
        (q.heap size)
      heapSize := size } := by
    rw [pop, if_neg (by omega), filled]
    rfl
  have contents : q.contents = Heap.contents (size + 1) q.heap := by
    rw [ManualHeap.contents, filled]
  rw [contents, popped]
  refine ⟨⟨kept, Heap.forall_mem_contents.mp ?_⟩, same, rfl⟩
  intro other member
  apply Heap.forall_mem_contents.mpr cells
  rw [same]
  exact Multiset.mem_cons_of_mem member

/-- Emptying a heap puts its entries in order, nearest first. -/
theorem drain_spec (separated : Separated dists) :
    ∀ (rounds : ℕ) {q : ManualHeap K α} (found : List (PointTypeCmp K α)), q.Sound dists →
      q.heapSize = rounds →
      found.Pairwise (fun a b => a.dist ≤ b.dist) →
      (∀ entry ∈ q.contents, ∀ other ∈ found, entry.dist ≤ other.dist) →
      (q.drain rounds found).Pairwise (fun a b => a.dist ≤ b.dist) ∧
        ((q.drain rounds found : List _) : Multiset (PointTypeCmp K α)) = q.contents + found := by
  intro rounds
  induction rounds with
  | zero =>
      intro q found sound size sorted _
      refine ⟨sorted, ?_⟩
      rw [drain, ManualHeap.contents, size, Heap.contents_zero, zero_add]
  | succ rounds ih =>
      intro q found sound size sorted below
      obtain ⟨popped, split, _⟩ := pop_spec separated sound _ size
      have popSize : q.pop.heapSize = rounds := by
        rw [← card_contents]
        have card := congrArg Multiset.card split
        rw [Multiset.card_cons, card_contents, size] at card
        omega
      have top : q.top ∈ q.contents := by
        rw [split]
        exact Multiset.mem_cons_self _ _
      have rest : ∀ entry ∈ q.pop.contents, entry ∈ q.contents := by
        intro entry member
        rw [split]
        exact Multiset.mem_cons_of_mem member
      obtain ⟨order, same⟩ := ih (q.top :: found) popped popSize
        (List.pairwise_cons.mpr ⟨below q.top top, sorted⟩) (by
          intro entry member other among
          rcases List.mem_cons.mp among with rfl | old
          · exact sound.le_top (rest entry member)
          · exact below entry (rest entry member) other old)
      refine ⟨order, same.trans ?_⟩
      rw [split, ← Multiset.cons_coe, Multiset.add_cons, Multiset.cons_add]

end ManualHeap

end Heap

/-! ## The search -/

section Holds

variable [LinearOrder K]

/-- The heap keeps the nearest of what the search has been through. -/
structure Holds (kNearest : ℕ) (dists : Set K) (pool : Multiset (PointTypeCmp K α))
    (q : ManualHeap K α) : Prop where
  sound : q.Sound dists
  cap : q.cap = 2 * kNearest
  keeps : Smallest.Keeps PointTypeCmp.dist kNearest pool q.contents

variable {kNearest : ℕ} {dists : Set K} {pool : Multiset (PointTypeCmp K α)}
  {q : ManualHeap K α}

theorem Holds.heapSize_eq (holds : Holds kNearest dists pool q) :
    q.heapSize = min kNearest pool.card := by
  rw [← q.card_contents, holds.keeps.card_eq]

theorem Holds.le (holds : Holds kNearest dists pool q) : q.heapSize ≤ kNearest := by
  rw [holds.heapSize_eq]
  exact min_le_left _ _

/-- A full heap passes over what is not nearer than its top. -/
theorem Holds.skip (holds : Holds kNearest dists pool q) (full : kNearest ≤ q.heapSize)
    {others : Multiset (PointTypeCmp K α)} (far : ∀ entry ∈ others, q.top.dist ≤ entry.dist) :
    Holds kNearest dists (others + pool) q where
  sound := holds.sound
  cap := holds.cap
  keeps := by
    apply holds.keeps.skip
    · rwa [q.card_contents]
    · intro entry member kept among
      exact (holds.sound.le_top among).trans (far entry member)

/-- A full heap stays full. -/
theorem Holds.full {others : Multiset (PointTypeCmp K α)} {q' : ManualHeap K α}
    (holds : Holds kNearest dists pool q) (full : kNearest ≤ q.heapSize)
    (after : Holds kNearest dists (others + pool) q') : kNearest ≤ q'.heapSize := by
  rw [holds.heapSize_eq] at full
  rw [after.heapSize_eq, Multiset.card_add]
  omega

end Holds

section SearchSpec

variable [Field K] [LinearOrder K]

/-- The entries a search may return. -/
def candidates (point : PointType K α) (maxDist : WithTop K) (points : Multiset (PointType K α)) :
    Multiset (PointTypeCmp K α) :=
  (points.filter fun other => ((calcDist point other : K) : WithTop K) ≤ maxDistSqr maxDist).map
    fun other => ⟨other, calcDist point other⟩

variable {kNearest : ℕ} {point : PointType K α} {maxDist : WithTop K} {dists : Set K}
  {pool : Multiset (PointTypeCmp K α)} {q : ManualHeap K α} {root : KdTreeNode K α}
  {tree left right : Tree K α}

@[simp] theorem candidates_zero : candidates point maxDist 0 = 0 := rfl

@[simp] theorem candidates_add (a b : Multiset (PointType K α)) :
    candidates point maxDist (a + b) = candidates point maxDist a + candidates point maxDist b := by
  rw [candidates, Multiset.filter_add, Multiset.map_add]
  rfl

theorem mem_candidates {points : Multiset (PointType K α)} {entry : PointTypeCmp K α} :
    entry ∈ candidates point maxDist points ↔ ∃ other ∈ points,
      ((calcDist point other : K) : WithTop K) ≤ maxDistSqr maxDist ∧
        ⟨other, calcDist point other⟩ = entry := by
  simp only [candidates, Multiset.mem_map, Multiset.mem_filter, and_assoc]

/-- The sons of a node were searched, in either order. -/
theorem Holds.node (valid : Valid (.node root left right))
    {pools : Multiset (PointTypeCmp K α)} (holds : Holds kNearest dists pools q)
    (searched : pools = candidates point maxDist (live (root.pushLeft left)) +
      candidates point maxDist (live (root.pushRight right)) +
        (candidates point maxDist root.ownLive + pool)) :
    Holds kNearest dists (candidates point maxDist (live (.node root left right)) + pool) q := by
  rw [valid.live_eq, candidates_add, candidates_add]
  convert holds using 1
  rw [searched]
  abel

/-- A tree out of reach offers nothing. -/
theorem Holds.far (holds : Holds kNearest dists pool q)
    (far : ∀ other ∈ live tree,
      ¬((calcDist point other : K) : WithTop K) ≤ maxDistSqr maxDist) :
    Holds kNearest dists (candidates point maxDist (live tree) + pool) q := by
  have none : candidates point maxDist (live tree) = 0 := by
    rw [candidates, Multiset.map_eq_zero, Multiset.filter_eq_nil]
    exact far
  rw [none, zero_add]
  exact holds

variable [IsStrictOrderedRing K]

/-- The point of the node is considered. -/
theorem consider_spec (maxDist : WithTop K) (separated : Separated dists) (positive : 0 < kNearest)
    (holds : Holds kNearest dists pool q)
    (known : ∀ other ∈ root.ownLive, calcDist point other ∈ dists) :
    Holds kNearest dists (candidates point maxDist root.ownLive + pool)
      (consider kNearest point maxDist root q) := by
  rw [consider, ownLive_eq]
  cases dead : root.pointDeleted with
  | true => simpa using holds
  | false =>
      rw [ownLive_eq, dead] at known
      have good : calcDist point root.point ∈ dists :=
        known root.point (Multiset.mem_singleton_self _)
      simp only [Bool.false_eq_true, if_false]
      by_cases near : ((calcDist point root.point : K) : WithTop K) ≤ maxDistSqr maxDist
      · have single : candidates point maxDist {root.point} =
            {⟨root.point, calcDist point root.point⟩} := by
          rw [candidates, Multiset.filter_singleton, if_pos near, Multiset.map_singleton]
        rw [single, Multiset.singleton_add]
        have bound := holds.le
        rcases Nat.lt_or_ge q.heapSize kNearest with room | full
        · rw [if_pos ⟨near, .inl room⟩, if_neg (not_le.mpr room)]
          have fits : q.heapSize < q.cap := by rw [holds.cap]; omega
          obtain ⟨sound, contents, cap⟩ := ManualHeap.push_spec separated holds.sound fits
            ⟨root.point, calcDist point root.point⟩ good
          refine ⟨sound, cap.trans holds.cap, ?_⟩
          rw [contents]
          exact holds.keeps.insert (by rwa [q.card_contents]) _
        · by_cases nearer : calcDist point root.point < q.top.dist
          · rw [if_pos ⟨near, .inr nearer⟩, if_pos full]
            obtain ⟨popped, split, popCap⟩ := ManualHeap.pop_spec separated holds.sound
              (kNearest - 1) (by omega)
            have card := congrArg Multiset.card split
            rw [Multiset.card_cons, q.card_contents, q.pop.card_contents] at card
            obtain ⟨sound, contents, cap⟩ := ManualHeap.push_spec separated popped
              (by rw [popCap, holds.cap]; omega) ⟨root.point, calcDist point root.point⟩ good
            refine ⟨sound, (cap.trans popCap).trans holds.cap, ?_⟩
            have keeps := holds.keeps
            rw [split] at keeps
            rw [contents]
            apply keeps.replace
            · rw [q.pop.card_contents]
              omega
            · intro entry member
              apply holds.sound.le_top
              rw [split]
              exact Multiset.mem_cons_of_mem member
            · exact nearer.le
          · have stays : ¬(((calcDist point root.point : K) : WithTop K) ≤ maxDistSqr maxDist ∧
                (q.heapSize < kNearest ∨ calcDist point root.point < q.top.dist)) := by
              rintro ⟨_, room | less⟩
              · exact absurd full (not_le.mpr room)
              · exact nearer less
            rw [if_neg stays, ← Multiset.singleton_add]
            apply holds.skip full
            intro entry member
            rw [Multiset.mem_singleton.mp member]
            exact not_lt.mp nearer
      · have none : candidates point maxDist {root.point} = 0 := by
          rw [candidates, Multiset.filter_singleton, if_neg near]
          rfl
        rw [if_neg fun both => near both.1, none, zero_add]
        exact holds

/-- A box is no farther than the points in it. -/
theorem calcBoxDist_le {range : NodeRange K} {points : Multiset (PointType K α)}
    (hull : Hull range points) {other : PointType K α} (member : other ∈ points) :
    calcBoxDist range point ≤ calcDist point other := by
  have gap : ∀ axis, boxGap range point axis ≤
      (point.coord axis - other.coord axis) * (point.coord axis - other.coord axis) := by
    intro axis
    obtain ⟨low, high⟩ := hull.encloses other member axis
    rw [boxGap]
    split <;> split <;> nlinarith
  have gapX := gap .x
  have gapY := gap .y
  have gapZ := gap .z
  rw [calcBoxDist, calcDist]
  exact add_le_add (add_le_add gapX gapY) gapZ

theorem boxDist_le (point : PointType K α) (valid : Valid tree) {other : PointType K α}
    (member : other ∈ live tree) :
    tree.boxDist point ≤ ((calcDist point other : K) : WithTop K) := by
  cases tree with
  | nullptr => exact absurd member (Multiset.notMem_zero other)
  | node root left right =>
      rw [Tree.boxDist, WithTop.coe_le_coe]
      exact calcBoxDist_le (valid.hull_of_mem member) member

/-- A son that is searched, or passed over by a full heap for being too far. -/
theorem Holds.visit {son : Tree K α} (valid : Valid son) {reached : Prop} [Decidable reached]
    {visit : ManualHeap K α → Tree K α × ManualHeap K α}
    (searched : ∀ pool q, Holds kNearest dists pool q →
      Holds kNearest dists (candidates point maxDist (live son) + pool) (visit q).2)
    (holds : Holds kNearest dists pool q)
    (stop : ¬reached → kNearest ≤ q.heapSize ∧
      ¬son.boxDist point < ((q.top.dist : K) : WithTop K)) :
    Holds kNearest dists (candidates point maxDist (live son) + pool)
      (if reached then visit q else (son, q)).2 := by
  split
  · exact searched pool q holds
  · next passed =>
      obtain ⟨full, far⟩ := stop passed
      apply holds.skip full
      intro entry member
      obtain ⟨other, among, _, rfl⟩ := mem_candidates.mp member
      exact WithTop.coe_le_coe.mp ((not_lt.mp far).trans (boxDist_le point valid among))

theorem Holds.visit_or {son : Tree K α} (valid : Valid son)
    {visit : ManualHeap K α → Tree K α × ManualHeap K α}
    (searched : ∀ pool q, Holds kNearest dists pool q →
      Holds kNearest dists (candidates point maxDist (live son) + pool) (visit q).2)
    (holds : Holds kNearest dists pool q) :
    Holds kNearest dists (candidates point maxDist (live son) + pool)
      (if q.heapSize < kNearest ∨ son.boxDist point < ((q.top.dist : K) : WithTop K) then visit q
        else (son, q)).2 :=
  holds.visit valid searched fun passed =>
    ⟨not_lt.mp fun room => passed (.inl room), fun near => passed (.inr near)⟩

/-- `Search` keeps the nearest of what it was given and of the tree. -/
theorem search_spec (maxDist : WithTop K) (separated : Separated dists)
    (positive : 0 < kNearest) (tree : Tree K α) (valid : Valid tree)
    (known : ∀ other ∈ live tree, calcDist point other ∈ dists) :
    ∀ (pool : Multiset (PointTypeCmp K α)) (q : ManualHeap K α), Holds kNearest dists pool q →
      Holds kNearest dists (candidates point maxDist (live tree) + pool)
        (search kNearest point maxDist tree q).2 := by
  induction tree using Tree.pushInduction with
  | nullptr =>
      intro pool q holds
      rw [search]
      exact holds.far fun other member => absurd member (Multiset.notMem_zero other)
  | node root left right ihLeft ihRight =>
      intro pool q holds
      have members := valid.live_eq
      have onLeft := ihLeft valid.pushLeft fun other member => known other (by
        rw [members]
        exact Multiset.mem_add.mpr (.inr (Multiset.mem_add.mpr (.inl member))))
      have onRight := ihRight valid.pushRight fun other member => known other (by
        rw [members]
        exact Multiset.mem_add.mpr (.inr (Multiset.mem_add.mpr (.inr member))))
      have own : ∀ other ∈ root.ownLive, calcDist point other ∈ dists := fun other member =>
        known other (by
          rw [members]
          exact Multiset.mem_add.mpr (.inl member))
      have considered := consider_spec maxDist separated positive holds own
      rw [search]
      split
      · next gone =>
          have none : live (.node root left right) = 0 :=
            liveOf_eq_zero_iff.mpr (valid.1.deleted_iff.mp gone)
          apply holds.far
          rw [none]
          exact fun other member => absurd member (Multiset.notMem_zero other)
      · split
        · next far =>
            apply holds.far
            intro other member near
            have bound := boxDist_le point valid member
            exact absurd (bound.trans near) (not_le.mpr far)
        · dsimp only
          generalize consider kNearest point maxDist root q = q' at considered ⊢
          split
          · split
            · have l := onLeft _ _ considered
              exact (l.visit_or valid.pushRight onRight).node valid (by abel)
            · have r := onRight _ _ considered
              exact (r.visit_or valid.pushLeft onLeft).node valid (by abel)
          · next passed =>
              have full := not_lt.mp fun room => passed (.inl room)
              have l := considered.visit valid.pushLeft onLeft fun far => ⟨full, far⟩
              exact (l.visit valid.pushRight onRight fun far =>
                ⟨considered.full full l, far⟩).node valid (by abel)

/-- What `Nearest_Search` returns: the distances of the `k` nearest live points in reach, in
order, each with its point. -/
theorem nearestSearch_spec (valid : Valid tree) (positive : 0 < kNearest)
    (separated : Separated { dist | ∃ other ∈ live tree, calcDist point other = dist }) :
    ((nearestSearch kNearest point maxDist tree).2 : Multiset (PointTypeCmp K α)) ≤
        candidates point maxDist (live tree) ∧
      (nearestSearch kNearest point maxDist tree).2.map PointTypeCmp.dist =
        (((candidates point maxDist (live tree)).map PointTypeCmp.dist).sort (· ≤ ·)).take
          kNearest := by
  have start : Holds kNearest { dist | ∃ other ∈ live tree, calcDist point other = dist } 0
      (ManualHeap.empty ⟨point, 0⟩ (2 * kNearest)) :=
    ⟨ManualHeap.sound_empty _ _ _, rfl, Smallest.keeps_zero _ _⟩
  have holds := search_spec maxDist separated positive tree valid
    (fun other member => ⟨other, member, rfl⟩) 0 _ start
  rw [add_zero] at holds
  rw [nearestSearch]
  generalize search kNearest point maxDist tree _ = found at holds ⊢
  rw [min_eq_right holds.le]
  obtain ⟨order, contents⟩ := ManualHeap.drain_spec separated found.2.heapSize [] holds.sound rfl
    List.Pairwise.nil fun entry _ other member => absurd member List.not_mem_nil
  rw [Multiset.coe_nil, add_zero] at contents
  rw [contents]
  refine ⟨holds.keeps.le, ?_⟩
  rw [← holds.keeps.sort_eq_take, ← contents, Multiset.map_coe, Multiset.coe_sort]
  exact (List.mergeSort_eq_self _ (List.pairwise_map.mpr order)).symm

end SearchSpec

end ScoutStack.IkdTree
