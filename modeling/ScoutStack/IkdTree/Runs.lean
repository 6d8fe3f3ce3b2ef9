import ScoutStack.IkdTree.Voxels

/-!
# Runs of the incremental k-d tree

Whatever calls are made while the rebuild thread swaps nothing in, the tree refines a plain
map: a multiset of points that is built, added to, downsampled voxel by voxel, and cut by boxes.
-/

namespace ScoutStack.IkdTree

variable {K α : Type*} [Field K] [LinearOrder K] [FloorRing K] (settings : Settings K α)

/-- What a call does to the plain map. -/
inductive Becomes :
    Multiset (PointType K α) → Command K α → Multiset (PointType K α) → Prop where
  | build (before) (cloud : List (PointType K α)) : Becomes before (.build cloud) cloud
  | add (before) (additions : List (Addition K α)) :
      Becomes before (.addPoints false additions)
        ((additions.map Addition.point : List _) + before)
  | downsample {before after} {additions : List (Addition K α)}
      (downsampled : Downsampled settings (additions.map Addition.point : List _) before after) :
      Becomes before (.addPoints true additions) after
  | delete (before) (boxes : List (BoxPointType K × RebuildPtr)) :
      Becomes before (.deletePointBoxes boxes)
        (before.filter fun point => ∀ box ∈ boxes, ¬box.1.contains point = true)
  | boxSearch (before) (box : BoxPointType K) : Becomes before (.boxSearch box) before
  | nearestSearch (before) (kNearest : ℕ) (point : PointType K α) (maxDist : WithTop K) :
      Becomes before (.nearestSearch kNearest point maxDist) before
  | acquire (before) : Becomes before .acquireRemovedPoints before

/-- What several calls do to the plain map. -/
inductive BecomesAll :
    Multiset (PointType K α) → List (Command K α) → Multiset (PointType K α) → Prop where
  | nil (points) : BecomesAll points [] points
  | cons {before between after command commands} (first : Becomes settings before command between)
      (rest : BecomesAll between commands after) : BecomesAll before (command :: commands) after

/-- The points that a call deletes by boxes. -/
def boxDeleted (map : KdTree K α) : Command K α → Multiset (PointType K α)
  | .deletePointBoxes boxes =>
      map.live.filter fun point => ∃ box ∈ boxes, box.1.contains point = true
  | _ => 0

/-- The points that a call hands out as removed. -/
def handedOut (map : KdTree K α) : Command K α → Multiset (PointType K α)
  | .acquireRemovedPoints => map.pointsDeleted
  | _ => 0

/-- What a quantity of each call adds up to on a run. -/
def KdTree.total (quantity : KdTree K α → Command K α → Multiset (PointType K α)) :
    KdTree K α → List (Command K α) → Multiset (PointType K α)
  | _, [] => 0
  | map, command :: commands =>
      quantity map command + ((map.step settings command).elim 0 fun next =>
        next.total quantity commands)

variable {map : KdTree K α}

/-! ## One call -/

omit [FloorRing K] in
/-- `Delete_Point_Boxes` removes the live points in the boxes and counts them. -/
theorem KdTree.deletePointBoxes_spec (boxes : List (BoxPointType K × RebuildPtr)) :
    ∀ {map : KdTree K α}, Valid map.rootNode →
      Valid (map.deletePointBoxes settings boxes).1.rootNode ∧
        (map.rootNode ≠ .nullptr →
          (map.deletePointBoxes settings boxes).1.rootNode ≠ .nullptr) ∧
        (map.deletePointBoxes settings boxes).1.live =
          map.live.filter (fun point => ∀ box ∈ boxes, ¬box.1.contains point = true) ∧
        (map.deletePointBoxes settings boxes).2 =
          (map.live.filter fun point => ∃ box ∈ boxes, box.1.contains point = true).card ∧
        (map.deletePointBoxes settings boxes).1.recorded = map.recorded +
          map.live.filter fun point => ∃ box ∈ boxes, box.1.contains point = true := by
  induction boxes with
  | nil =>
      intro map valid
      refine ⟨valid, id, ?_, ?_, ?_⟩
      · simp [KdTree.deletePointBoxes]
      · simp [KdTree.deletePointBoxes]
      · simp [KdTree.deletePointBoxes]
  | cons first boxes ih =>
      intro map valid
      obtain ⟨box, rebuildPtr⟩ := first
      obtain ⟨valid', some', live', counter, recorded', _⟩ :=
        KdTree.deleteByRange_spec settings map valid rebuildPtr box false
      obtain ⟨valid'', some'', live'', counter', recorded''⟩ := ih valid'
      have apart : map.live.filter (fun point => ∃ other ∈ (box, rebuildPtr) :: boxes,
            other.1.contains point = true) =
          inBox box map.live + (offBox box map.live).filter fun point =>
            ∃ other ∈ boxes, other.1.contains point = true := by
        conv_lhs => rw [← inBox_add_offBox box map.live]
        rw [Multiset.filter_add]
        congr 1
        · refine Multiset.filter_eq_self.mpr fun point member => ?_
          exact ⟨_, List.mem_cons_self, (Multiset.mem_filter.mp member).2⟩
        · refine Multiset.filter_congr fun point member => ?_
          have outside := (Multiset.mem_filter.mp member).2
          simp [outside]
      refine ⟨valid'', fun some_ => some'' (some' some_), ?_, ?_, ?_⟩
      · rw [KdTree.deletePointBoxes]
        refine live''.trans ?_
        rw [live', offBox, Multiset.filter_filter]
        refine Multiset.filter_congr fun point _ => ?_
        rw [List.forall_mem_cons]
        exact and_comm
      · rw [KdTree.deletePointBoxes, apart, Multiset.card_add, ← counter, ← live', ← counter']
      · rw [KdTree.deletePointBoxes, apart, ← add_assoc, ← recorded' rfl, ← live', ← recorded'']

/-- `Add_Points` without downsampling adds every point. -/
theorem KdTree.addPoints_plain (additions : List (Addition K α)) :
    ∀ {map : KdTree K α}, Valid map.rootNode → map.rootNode ≠ .nullptr →
      ∃ added count, map.addPoints settings false additions = some (added, count) ∧
        Valid added.rootNode ∧ added.rootNode ≠ .nullptr ∧
        added.live = (additions.map Addition.point : List _) + map.live ∧
        added.recorded = map.recorded := by
  induction additions with
  | nil =>
      intro map valid some_
      exact ⟨map, 0, rfl, valid, some_, (zero_add _).symm, rfl⟩
  | cons addition additions ih =>
      intro map valid some_
      obtain ⟨between, done, valid', some', live', recorded'⟩ := KdTree.addByPoint_spec settings
        map valid some_ (allowRoot addition.before) addition.before addition.point
      obtain ⟨added, rest, doneRest, valid'', some'', live'', recorded''⟩ := ih valid' some'
      refine ⟨added, 0 + rest, ?_, valid'', some'', ?_, recorded''.trans recorded'⟩
      · rw [KdTree.addPoints, KdTree.addPoint, if_neg Bool.false_ne_true, done, Option.map_some,
          Option.bind_some, doneRest, Option.map_some]
      · rw [live'', live', List.map_cons, ← Multiset.cons_coe, Multiset.cons_add,
          Multiset.add_cons]

variable {settings} [IsStrictOrderedRing K]

/-- Without a root there is no adding. -/
theorem KdTree.addPoint_nullptr (null : map.rootNode = .nullptr) (downsampleOn : Bool)
    (point : PointType K α) (before after : RebuildPtr) :
    map.addPoint settings downsampleOn point before after = none := by
  have same := samePoint_self point
  cases downsampleOn with
  | false => simp [KdTree.addPoint, KdTree.addByPoint, null]
  | true =>
      simp [KdTree.addPoint, KdTree.addByPoint, null, searchByRange, downsampleResult, same]

/-- Without a root only an empty `Add_Points` returns. -/
theorem KdTree.addPoints_nullptr {downsampleOn : Bool} {additions : List (Addition K α)}
    {added : KdTree K α × ℕ} (null : map.rootNode = .nullptr)
    (done : map.addPoints settings downsampleOn additions = some added) :
    additions = [] ∧ added.1 = map := by
  cases additions with
  | nil =>
      rw [KdTree.addPoints] at done
      exact ⟨rfl, by rw [← Option.some.inj done]⟩
  | cons addition additions =>
      rw [KdTree.addPoints, KdTree.addPoint_nullptr null, Option.bind_none] at done
      exact absurd done.symm (Option.some_ne_none _)

/-- A point added to a valid tree. -/
theorem KdTree.addPoint_valid (positive : 0 < settings.downsampleSize)
    (valid : Valid map.rootNode) {downsampleOn : Bool} {point : PointType K α}
    {before after : RebuildPtr} {added : KdTree K α × ℕ}
    (done : map.addPoint settings downsampleOn point before after = some added) :
    Valid added.1.rootNode := by
  by_cases null : map.rootNode = .nullptr
  · rw [KdTree.addPoint_nullptr null] at done
    exact absurd done.symm (Option.some_ne_none _)
  · cases downsampleOn with
    | true =>
        obtain ⟨_, _, same, valid', _⟩ :=
          KdTree.addPoint_downsample positive valid null point before after
        obtain rfl := Option.some.inj (same.symm.trans done)
        exact valid'
    | false =>
        obtain ⟨_, same, valid', _⟩ := KdTree.addByPoint_spec settings map valid null
          (allowRoot before) before point
        rw [KdTree.addPoint, if_neg Bool.false_ne_true, same, Option.map_some] at done
        obtain rfl := Option.some.inj done
        exact valid'

/-- One call on a valid tree. -/
theorem KdTree.step_spec (positive : 0 < settings.downsampleSize) (valid : Valid map.rootNode)
    {command : Command K α} {next : KdTree K α} (done : map.step settings command = some next) :
    Valid next.rootNode ∧ Becomes settings map.live command next.live ∧
      handedOut map command + next.recorded ≤ map.recorded + boxDeleted map command := by
  cases command with
  | build cloud =>
      obtain rfl := Option.some.inj done
      refine ⟨map.valid_build settings cloud, ?_, ?_⟩
      · have becomes := @Becomes.build K α _ _ _ settings map.live cloud
        rwa [← map.live_build settings cloud] at becomes
      · change 0 + KdTree.recorded (map.build settings cloud) ≤ map.recorded + 0
        rw [KdTree.recorded, KdTree.build, removed_buildTree, KdTree.recorded, zero_add, zero_add,
          add_zero]
        exact Multiset.le_add_left _ _
  | addPoints downsampleOn additions =>
      rw [KdTree.step] at done
      obtain ⟨added, calls, rfl⟩ := Option.map_eq_some_iff.mp done
      by_cases null : map.rootNode = .nullptr
      · obtain ⟨rfl, same⟩ := KdTree.addPoints_nullptr null calls
        rw [same]
        refine ⟨valid, ?_, le_of_eq (by simp [handedOut, boxDeleted])⟩
        cases downsampleOn with
        | true => exact Becomes.downsample (downsampled_zero _)
        | false => simpa using @Becomes.add K α _ _ _ settings map.live []
      · cases downsampleOn with
        | true =>
            obtain ⟨after, count, same, valid', _, downsampled, recorded⟩ :=
              KdTree.addPoints_downsample positive additions valid null
            obtain rfl := Option.some.inj (same.symm.trans calls)
            refine ⟨valid', Becomes.downsample downsampled, ?_⟩
            simpa [handedOut, boxDeleted] using recorded
        | false =>
            obtain ⟨after, count, same, valid', _, alive, recorded⟩ :=
              KdTree.addPoints_plain settings additions valid null
            obtain rfl := Option.some.inj (same.symm.trans calls)
            refine ⟨valid', ?_, ?_⟩
            · rw [alive]
              exact Becomes.add _ _
            · simp [handedOut, boxDeleted, recorded]
  | deletePointBoxes boxes =>
      obtain rfl := Option.some.inj done
      obtain ⟨valid', _, alive, _, recorded⟩ := KdTree.deletePointBoxes_spec settings boxes valid
      refine ⟨valid', ?_, ?_⟩
      · rw [alive]
        exact Becomes.delete _ _
      · change 0 + _ ≤ _
        rw [recorded, zero_add]
        exact le_refl _
  | boxSearch box =>
      obtain rfl := Option.some.inj done
      obtain ⟨valid', same⟩ := valid.of_pushedDown (searchByRange_pushedDown box map.rootNode)
      obtain ⟨alive, recorded⟩ := map.of_slots same
      refine ⟨valid', ?_, ?_⟩
      · rw [alive]
        exact Becomes.boxSearch _ _
      · simp [handedOut, boxDeleted, recorded]
  | nearestSearch kNearest point maxDist =>
      obtain rfl := Option.some.inj done
      obtain ⟨valid', same⟩ :=
        valid.of_pushedDown (nearestSearch_pushedDown kNearest point maxDist map.rootNode)
      obtain ⟨alive, recorded⟩ := map.of_slots same
      refine ⟨valid', ?_, ?_⟩
      · rw [alive]
        exact Becomes.nearestSearch _ _ _ _
      · simp [handedOut, boxDeleted, recorded]
  | acquireRemovedPoints =>
      obtain rfl := Option.some.inj done
      refine ⟨valid, Becomes.acquire _, ?_⟩
      simp [handedOut, boxDeleted, KdTree.recorded, add_comm]

/-- One call on a tree with a root. -/
theorem KdTree.step_isSome (positive : 0 < settings.downsampleSize) (valid : Valid map.rootNode)
    (some_ : map.rootNode ≠ .nullptr) {command : Command K α}
    (filled : ∀ cloud, command = .build cloud → cloud ≠ []) :
    ∃ next, map.step settings command = some next ∧ Valid next.rootNode ∧
      next.rootNode ≠ .nullptr := by
  cases command with
  | build cloud =>
      obtain ⟨first, rest, rfl⟩ := List.exists_cons_of_ne_nil (filled cloud rfl)
      exact ⟨_, rfl, map.valid_build settings _, KdTree.build_ne_nullptr first rest⟩
  | addPoints downsampleOn additions =>
      cases downsampleOn with
      | true =>
          obtain ⟨after, count, same, valid', some', _⟩ :=
            KdTree.addPoints_downsample positive additions valid some_
          exact ⟨after, by rw [KdTree.step, same, Option.map_some], valid', some'⟩
      | false =>
          obtain ⟨after, count, same, valid', some', _⟩ :=
            KdTree.addPoints_plain settings additions valid some_
          exact ⟨after, by rw [KdTree.step, same, Option.map_some], valid', some'⟩
  | deletePointBoxes boxes =>
      obtain ⟨valid', some', _⟩ := KdTree.deletePointBoxes_spec settings boxes valid
      exact ⟨_, rfl, valid', some' some_⟩
  | boxSearch box =>
      obtain ⟨valid', same⟩ := valid.of_pushedDown (searchByRange_pushedDown box map.rootNode)
      exact ⟨_, rfl, valid', ne_nullptr_of_slots same some_⟩
  | nearestSearch kNearest point maxDist =>
      obtain ⟨valid', same⟩ :=
        valid.of_pushedDown (nearestSearch_pushedDown kNearest point maxDist map.rootNode)
      exact ⟨_, rfl, valid', ne_nullptr_of_slots same some_⟩
  | acquireRemovedPoints => exact ⟨_, rfl, valid, some_⟩

/-! ## Runs -/

/-- A run of the tree is a run of the plain map. -/
theorem KdTree.run_spec (positive : 0 < settings.downsampleSize) (commands : List (Command K α)) :
    ∀ {map final : KdTree K α}, Valid map.rootNode → map.run settings commands = some final →
      Valid final.rootNode ∧ BecomesAll settings map.live commands final.live ∧
        map.total settings handedOut commands + final.recorded ≤
          map.recorded + map.total settings boxDeleted commands := by
  induction commands with
  | nil =>
      intro map final valid done
      obtain rfl := Option.some.inj done
      exact ⟨valid, BecomesAll.nil _, by simp [KdTree.total]⟩
  | cons command commands ih =>
      intro map final valid done
      rw [KdTree.run] at done
      obtain ⟨next, step, rest⟩ := Option.bind_eq_some_iff.mp done
      obtain ⟨valid', becomes, recorded⟩ := KdTree.step_spec positive valid step
      obtain ⟨valid'', becomes', recorded'⟩ := ih valid' rest
      refine ⟨valid'', BecomesAll.cons becomes becomes', ?_⟩
      rw [KdTree.total, KdTree.total, step]
      simp only [Option.elim_some]
      calc handedOut map command + next.total settings handedOut commands + final.recorded
          = handedOut map command + (next.total settings handedOut commands + final.recorded) :=
            add_assoc _ _ _
        _ ≤ handedOut map command + (next.recorded + next.total settings boxDeleted commands) :=
            add_le_add (le_refl _) recorded'
        _ = handedOut map command + next.recorded + next.total settings boxDeleted commands :=
            (add_assoc _ _ _).symm
        _ ≤ map.recorded + boxDeleted map command + next.total settings boxDeleted commands :=
            add_le_add recorded (le_refl _)
        _ = map.recorded + (boxDeleted map command + next.total settings boxDeleted commands) :=
            add_assoc _ _ _

/-- A tree after calls on a new one. -/
theorem KdTree.run_new_spec (positive : 0 < settings.downsampleSize)
    {commands : List (Command K α)} (done : KdTree.new.run settings commands = some map) :
    Valid map.rootNode ∧ BecomesAll settings 0 commands map.live ∧
      KdTree.new.total settings handedOut commands + map.recorded ≤
        KdTree.new.total settings boxDeleted commands := by
  obtain ⟨valid, becomes, recorded⟩ := KdTree.run_spec positive commands valid_nullptr done
  refine ⟨valid, becomes, recorded.trans ?_⟩
  rw [show KdTree.recorded (KdTree.new : KdTree K α) = 0 from rfl, zero_add]

/-- A tree with a root keeps one through calls that build from some point. -/
theorem run_isSome_of_root (positive : 0 < settings.downsampleSize)
    (commands : List (Command K α)) (filled : ∀ cloud, .build cloud ∈ commands → cloud ≠ []) :
    ∀ {map : KdTree K α}, Valid map.rootNode → map.rootNode ≠ .nullptr →
      ∃ final, map.run settings commands = some final ∧ final.rootNode ≠ .nullptr := by
  induction commands with
  | nil => exact fun {map} _ some_ => ⟨map, rfl, some_⟩
  | cons command commands ih =>
      intro map valid some_
      obtain ⟨next, done, valid', some'⟩ := KdTree.step_isSome positive valid some_
        fun cloud equal => filled cloud (equal ▸ List.mem_cons_self)
      obtain ⟨final, rest, rooted⟩ :=
        ih (fun cloud member => filled cloud (List.mem_cons_of_mem _ member)) valid' some'
      refine ⟨final, ?_, rooted⟩
      rw [KdTree.run, done, Option.bind_some]
      exact rest

/-! ## A corridor -/

theorem initial_positive : 0 < (Settings.initial (α := α)).downsampleSize := by
  norm_num [Settings.initial]

/-- A place in a corridor. -/
def PointType.along (x : ℚ) : PointType ℚ Unit where
  x := x
  y := 0
  z := 0
  fields := ()

/-- A part of a corridor. -/
def BoxPointType.along (low high : ℚ) : BoxPointType ℚ where
  vertexMin axis := if axis = .x then low else -1
  vertexMax axis := if axis = .x then high else 1

/-- Nothing is left to the rebuild thread. -/
def quiet : RebuildPtr := fun _ => false

/-- A point that no rebuild of the other thread waits for. -/
def Addition.quietly (point : PointType K α) : Addition K α := ⟨point, quiet, quiet⟩

/-- A corridor that gets a point and loses one. -/
def corridor : List (Command ℚ Unit) :=
  [.build [.along 0, .along 1, .along 2, .along 3],
    .addPoints false [.quietly (.along 5)],
    .deletePointBoxes [(.along 1 2, quiet)],
    .acquireRemovedPoints]

theorem exists_corridor : ∃ map, KdTree.new.run Settings.initial corridor = some map ∧
    map.live = {.along 0, .along 2, .along 3, .along 5} := by
  obtain ⟨map, done, _⟩ := run_isSome_of_root initial_positive corridor.tail (by simp [corridor])
    (KdTree.valid_build _ _ _)
    (KdTree.build_ne_nullptr (.along 0) [.along 1, .along 2, .along 3])
  have run : KdTree.new.run Settings.initial corridor = some map := done
  refine ⟨map, run, ?_⟩
  match map.live, (KdTree.run_new_spec initial_positive run).2.1 with
  | _, .cons (.build ..) (.cons (.add ..) (.cons (.delete ..) (.cons (.acquire _) (.nil _)))) =>
      decide +kernel

/-- After any calls the tree holds what the plain map holds, and answers for it. -/
theorem reachable_answers (positive : 0 < settings.downsampleSize)
    {commands : List (Command K α)} (done : KdTree.new.run settings commands = some map) :
    BecomesAll settings 0 commands map.live ∧
      (∀ box, ((searchByRange box map.rootNode).2 : Multiset (PointType K α)) =
        map.live.filter fun point => box.contains point = true) ∧
      (∀ boxes, (map.deletePointBoxes settings boxes).2 =
        (map.live.filter fun point => ∃ box ∈ boxes, box.1.contains point = true).card) ∧
      map.validnum = map.live.card ∧ map.live.card ≤ map.size := by
  obtain ⟨valid, becomes, _⟩ := KdTree.run_new_spec positive done
  have size := valid.treeSize_eq
  have invalid := valid.invalidPointNum_eq
  have split := card_liveOf (slots map.rootNode)
  refine ⟨becomes, fun box => searchByRange_spec box _ valid,
    fun boxes => (KdTree.deletePointBoxes_spec settings boxes valid).2.2.2.1, ?_, ?_⟩
  · rw [KdTree.validnum, KdTree.live, IkdTree.live]
    omega
  · rw [KdTree.size, KdTree.live, IkdTree.live]
    omega

theorem reachable_answers_corridor : ∃ map,
    KdTree.new.run Settings.initial corridor = some map ∧ map.validnum = 4 ∧
      ((searchByRange (.along 1 4) map.rootNode).2 : Multiset (PointType ℚ Unit)) =
        {.along 2, .along 3} ∧
      (map.deletePointBoxes Settings.initial
        [(.along 1 3, quiet), (.along 2 9, quiet)]).2 = 3 := by
  obtain ⟨map, done, alive⟩ := exists_corridor
  obtain ⟨_, searched, deleted, valid, _⟩ := reachable_answers initial_positive done
  refine ⟨map, done, ?_, ?_, ?_⟩
  · rw [valid, alive]
    rfl
  · rw [searched, alive]
    decide +kernel
  · rw [deleted, alive]
    decide +kernel

/-- After any calls `Nearest_Search` returns the nearest live points in reach, in order. -/
theorem reachable_nearest (positive : 0 < settings.downsampleSize)
    {commands : List (Command K α)} (done : KdTree.new.run settings commands = some map)
    {kNearest : ℕ} (some_ : 0 < kNearest) (point : PointType K α) (maxDist : WithTop K)
    (separated : Separated { dist | ∃ other ∈ map.live, calcDist point other = dist }) :
    ((nearestSearch kNearest point maxDist map.rootNode).2 : Multiset (PointTypeCmp K α)) ≤
        candidates point maxDist map.live ∧
      (nearestSearch kNearest point maxDist map.rootNode).2.map PointTypeCmp.dist =
        (((candidates point maxDist map.live).map PointTypeCmp.dist).sort (· ≤ ·)).take
          kNearest :=
  nearestSearch_spec (KdTree.run_new_spec positive done).1 some_ separated

theorem reachable_nearest_corridor : ∃ map,
    KdTree.new.run Settings.initial corridor = some map ∧
      (nearestSearch 2 (.along (9 / 2)) ⊤ map.rootNode).2 =
        [⟨.along 5, 1 / 4⟩, ⟨.along 3, 9 / 4⟩] := by
  obtain ⟨map, done, alive⟩ := exists_corridor
  refine ⟨map, done, ?_⟩
  have separated : Separated
      { dist | ∃ other ∈ map.live, calcDist (.along (9 / 2)) other = dist } := by
    rintro a ⟨first, here, rfl⟩ b ⟨second, there, rfl⟩
    rw [alive] at here there
    revert first second
    decide +kernel
  obtain ⟨among, sorted⟩ :=
    reachable_nearest initial_positive done (by decide : 0 < 2) (.along (9 / 2)) ⊤ separated
  have dists : (candidates (.along (9 / 2)) ⊤ map.live).map PointTypeCmp.dist =
      ([1 / 4, 9 / 4, 25 / 4, 81 / 4] : List ℚ) := by
    rw [alive]
    decide +kernel
  rw [dists, Multiset.coe_sort, List.mergeSort_of_pairwise (by decide +kernel)] at sorted
  have entries : ∀ entry ∈ candidates (.along (9 / 2)) ⊤ map.live,
      (entry.dist = 1 / 4 → entry.point = .along 5) ∧
        (entry.dist = 9 / 4 → entry.point = .along 3) := by
    rw [alive]
    decide +kernel
  generalize (nearestSearch 2 (.along (9 / 2)) ⊤ map.rootNode).2 = found at among sorted ⊢
  match found, sorted with
  | [⟨nearest, _⟩, ⟨second, _⟩], rfl =>
      have first := (entries _ (Multiset.mem_of_le among List.mem_cons_self)).1 rfl
      have other := (entries _ (Multiset.mem_of_le among
        (List.mem_cons_of_mem _ List.mem_cons_self))).2 rfl
      dsimp only at first other
      rw [first, other]

/-- A call that adds with downsampling only. -/
def Command.Downsampling : Command K α → Prop
  | .build _ => False
  | .addPoints downsampleOn _ => downsampleOn = true
  | _ => True

/-- A call that adds a point to a voxel. -/
def Command.Fills (settings : Settings K α) (key : Axis → ℤ) : Command K α → Prop
  | .addPoints _ additions => ∃ addition ∈ additions, voxelKey settings addition.point = key
  | _ => False

omit [IsStrictOrderedRing K] in
theorem inVoxel_le {key : Axis → ℤ} {points points' : Multiset (PointType K α)}
    (le : points ≤ points') : inVoxel settings key points ≤ inVoxel settings key points' :=
  Multiset.filter_le_filter _ le

omit [IsStrictOrderedRing K] in
/-- A call that fills a voxel leaves one point there, another adds none. -/
theorem Becomes.voxel {before after : Multiset (PointType K α)} {command : Command K α}
    (becomes : Becomes settings before command after) (only : command.Downsampling)
    (key : Axis → ℤ) :
    (command.Fills settings key → (inVoxel settings key after).card ≤ 1) ∧
      (¬command.Fills settings key → inVoxel settings key after ≤ inVoxel settings key before) := by
  cases becomes with
  | build cloud => exact absurd only id
  | add additions => exact absurd only Bool.false_ne_true
  | @downsample _ additions downsampled =>
      obtain ⟨untouched, touched⟩ := downsampled key
      have fills : inVoxel settings key (additions.map Addition.point : List _) ≠ 0 ↔
          ∃ addition ∈ additions, voxelKey settings addition.point = key := by
        rw [Ne, inVoxel, Multiset.filter_eq_nil]
        push Not
        simp
      constructor
      · intro filled
        obtain ⟨best, _, single⟩ := touched (fills.mpr filled)
        rw [single, Multiset.card_singleton]
      · intro free
        exact (untouched (not_not.mp fun some_ => free (fills.mp some_))).le
  | delete boxes =>
      exact ⟨fun filled => absurd filled id, fun _ => inVoxel_le (Multiset.filter_le _ _)⟩
  | boxSearch box => exact ⟨fun filled => absurd filled id, fun _ => le_refl _⟩
  | nearestSearch kNearest point maxDist =>
      exact ⟨fun filled => absurd filled id, fun _ => le_refl _⟩
  | acquire => exact ⟨fun filled => absurd filled id, fun _ => le_refl _⟩

omit [IsStrictOrderedRing K] in
theorem BecomesAll.voxel {before after : Multiset (PointType K α)} {commands : List (Command K α)}
    (becomes : BecomesAll settings before commands after)
    (only : ∀ command ∈ commands, command.Downsampling) (key : Axis → ℤ) :
    ((∃ command ∈ commands, command.Fills settings key) →
        (inVoxel settings key after).card ≤ 1) ∧
      ((¬∃ command ∈ commands, command.Fills settings key) →
        inVoxel settings key after ≤ inVoxel settings key before) := by
  induction becomes with
  | nil points => exact ⟨fun filled => absurd filled (by simp), fun _ => le_refl _⟩
  | @cons before between after command commands first rest ih =>
      obtain ⟨onFirst, others⟩ := List.forall_mem_cons.mp only
      obtain ⟨filledFirst, freeFirst⟩ := first.voxel onFirst key
      obtain ⟨filledRest, freeRest⟩ := ih others
      rw [List.exists_mem_cons_iff]
      by_cases later : ∃ command ∈ commands, command.Fills settings key
      · exact ⟨fun _ => filledRest later, fun free => absurd (.inr later) free⟩
      · refine ⟨fun filled => ?_, fun free => ?_⟩
        · have now := filled.resolve_right later
          exact (Multiset.card_le_card (freeRest later)).trans (filledFirst now)
        · exact (freeRest later).trans (freeFirst fun now => free (.inl now))

/-- When points are added with downsampling only, a voxel that got some keeps at most one live
point through whatever follows, and a voxel that got none only loses points. -/
theorem run_voxel (positive : 0 < settings.downsampleSize) {first commands : List (Command K α)}
    {final : KdTree K α} (started : KdTree.new.run settings first = some map)
    (done : map.run settings commands = some final)
    (only : ∀ command ∈ commands, command.Downsampling) (key : Axis → ℤ) :
    ((∃ command ∈ commands, command.Fills settings key) →
        (inVoxel settings key final.live).card ≤ 1) ∧
      ((¬∃ command ∈ commands, command.Fills settings key) →
        inVoxel settings key final.live ≤ inVoxel settings key map.live) :=
  (KdTree.run_spec positive commands (KdTree.run_new_spec positive started).1 done).2.1.voxel
    only key

theorem run_voxel_corridor : ∃ final,
    (KdTree.new.build Settings.initial [.along 0, .along (1 / 20), .along 1, .along 2]).run
        Settings.initial
        [.addPoints true [.quietly (.along (1 / 10)), .quietly (.along (3 / 20))],
          .deletePointBoxes [(.along 1 2, quiet)]] = some final ∧
      (inVoxel Settings.initial (voxelKey Settings.initial (.along 0)) final.live).card ≤ 1 ∧
      inVoxel Settings.initial (voxelKey Settings.initial (.along 2)) final.live ≤
        {.along 2} := by
  obtain ⟨final, done, _⟩ := run_isSome_of_root initial_positive
    [.addPoints true [.quietly (.along (1 / 10)), .quietly (.along (3 / 20))],
      .deletePointBoxes [(.along 1 2, quiet)]] (by simp)
    (KdTree.valid_build _ _ _)
    (KdTree.build_ne_nullptr (.along 0) [.along (1 / 20), .along 1, .along 2])
  have built : KdTree.new.run Settings.initial
      [.build [.along 0, .along (1 / 20), .along 1, .along 2]] = some _ := rfl
  have voxel := run_voxel initial_positive built done (by simp [Command.Downsampling])
  refine ⟨final, done, (voxel _).1 ⟨_, List.mem_cons_self, .quietly (.along (1 / 10)), ?_⟩,
    ((voxel _).2 ?_).trans ?_⟩
  · exact ⟨List.mem_cons_self, by decide +kernel⟩
  · have apart : ∀ x ∈ [(1 / 10 : ℚ), 3 / 20],
        voxelKey Settings.initial (.along x) ≠ voxelKey Settings.initial (.along 2) := by
      decide +kernel
    simpa [Command.Fills, Addition.quietly] using apart
  · rw [KdTree.live_build]
    decide +kernel

/-! ## Removed points -/

/-- A call that forgets no removed point. -/
def Command.Remembers : Command K α → Prop
  | .build _ => False
  | .addPoints downsampleOn _ => downsampleOn = false
  | _ => True

theorem KdTree.step_recorded (valid : Valid map.rootNode) {command : Command K α}
    (remembers : command.Remembers) {next : KdTree K α}
    (done : map.step settings command = some next) :
    handedOut map command + next.recorded = map.recorded + boxDeleted map command := by
  cases command with
  | build cloud => exact absurd remembers id
  | addPoints downsampleOn additions =>
      obtain rfl : downsampleOn = false := remembers
      rw [KdTree.step] at done
      obtain ⟨added, calls, rfl⟩ := Option.map_eq_some_iff.mp done
      by_cases null : map.rootNode = .nullptr
      · obtain ⟨rfl, same⟩ := KdTree.addPoints_nullptr null calls
        rw [same]
        simp [handedOut, boxDeleted]
      · obtain ⟨after, count, same, _, _, _, recorded⟩ :=
          KdTree.addPoints_plain settings additions valid null
        obtain rfl := Option.some.inj (same.symm.trans calls)
        simp [handedOut, boxDeleted, recorded]
  | deletePointBoxes boxes =>
      obtain rfl := Option.some.inj done
      obtain ⟨_, _, _, _, recorded⟩ := KdTree.deletePointBoxes_spec settings boxes valid
      change 0 + _ = _
      rw [recorded, zero_add]
      rfl
  | boxSearch box =>
      obtain rfl := Option.some.inj done
      obtain ⟨_, same⟩ := valid.of_pushedDown (searchByRange_pushedDown box map.rootNode)
      simp [handedOut, boxDeleted, (map.of_slots same).2]
  | nearestSearch kNearest point maxDist =>
      obtain rfl := Option.some.inj done
      obtain ⟨_, same⟩ :=
        valid.of_pushedDown (nearestSearch_pushedDown kNearest point maxDist map.rootNode)
      simp [handedOut, boxDeleted, (map.of_slots same).2]
  | acquireRemovedPoints =>
      obtain rfl := Option.some.inj done
      simp [handedOut, boxDeleted, KdTree.recorded, add_comm]

theorem KdTree.run_recorded (positive : 0 < settings.downsampleSize)
    (commands : List (Command K α)) :
    ∀ {map final : KdTree K α}, Valid map.rootNode →
      (∀ command ∈ commands, command.Remembers) → map.run settings commands = some final →
      map.total settings handedOut commands + final.recorded =
        map.recorded + map.total settings boxDeleted commands := by
  induction commands with
  | nil =>
      intro map final _ _ done
      obtain rfl := Option.some.inj done
      simp [KdTree.total]
  | cons command commands ih =>
      intro map final valid remembers done
      rw [KdTree.run] at done
      obtain ⟨next, step, rest⟩ := Option.bind_eq_some_iff.mp done
      obtain ⟨onFirst, others⟩ := List.forall_mem_cons.mp remembers
      have here := KdTree.step_recorded valid onFirst step
      have there := ih (KdTree.step_spec positive valid step).1 others rest
      rw [KdTree.total, KdTree.total, step]
      simp only [Option.elim_some]
      rw [add_assoc, there, ← add_assoc, here, add_assoc]

/-- `acquire_removed_points` hands out no more than the boxes deleted.  While nothing is
downsampled or built anew, what it has not handed out yet is all kept. -/
theorem run_removed (positive : 0 < settings.downsampleSize) {cloud : List (PointType K α)}
    {commands : List (Command K α)}
    (done : KdTree.new.run settings (.build cloud :: commands) = some map) :
    KdTree.new.total settings handedOut (.build cloud :: commands) + map.recorded ≤
        KdTree.new.total settings boxDeleted (.build cloud :: commands) ∧
      ((∀ command ∈ commands, command.Remembers) →
        KdTree.new.total settings handedOut (.build cloud :: commands) + map.recorded =
          KdTree.new.total settings boxDeleted (.build cloud :: commands)) := by
  refine ⟨(KdTree.run_new_spec positive done).2.2, fun remembers => ?_⟩
  have built : (KdTree.new.build settings cloud).recorded = 0 := by
    rw [KdTree.recorded, KdTree.build, removed_buildTree]
    rfl
  have equal := KdTree.run_recorded positive commands (KdTree.valid_build _ _ cloud) remembers done
  change 0 + (KdTree.new.build settings cloud).total settings handedOut commands + _ =
    0 + (KdTree.new.build settings cloud).total settings boxDeleted commands
  rw [zero_add, zero_add, equal, built, zero_add]

theorem run_removed_corridor : ∃ map,
    KdTree.new.run Settings.initial corridor = some map ∧
      KdTree.new.total Settings.initial handedOut corridor + map.recorded = {.along 1} := by
  obtain ⟨map, done, _⟩ := exists_corridor
  refine ⟨map, done, ?_⟩
  have equal := (run_removed initial_positive done).2 (by simp [Command.Remembers])
  obtain ⟨added, _, calls, _, _, alive, _⟩ := KdTree.addPoints_plain Settings.initial
    [.quietly (.along 5)] (KdTree.new.valid_build Settings.initial _)
    (KdTree.build_ne_nullptr (.along 0) [.along 1, .along 2, .along 3])
  refine equal.trans ?_
  simp only [KdTree.total, KdTree.step, boxDeleted, calls, Option.map_some,
    Option.elim_some, zero_add, add_zero]
  rw [alive, KdTree.live_build]
  decide +kernel

end ScoutStack.IkdTree
