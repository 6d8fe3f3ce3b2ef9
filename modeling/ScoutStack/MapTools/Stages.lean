import ScoutStack.Lib.Guarded
import ScoutStack.MapTools.Raster

/-!
# The stages of the rasteriser

For each stage the condition under which it is defined, and what it then gives.  All
lengths are taken from a frame: the padded bounds of the cloud, as they are rounded, and how
many cells there are between them.  A cloud and parameters without a frame end in undefined
behaviour.
-/

namespace ScoutStack

open Binary

/-- A stage that gives `result` where it is `safe`, and is undefined elsewhere. -/
abbrev Stage {α : Type} (safe : Prop) (result : α) (outcome : Run α) : Prop :=
  Guarded Failure.undefined safe result outcome

theorem stage_int (value : ℤ) : Stage (InInt value) value (int value) where
  ok fits := if_pos fits
  error fails := if_neg fails

theorem stage_load {α : Type} (vector : List α) (place : ℤ) (default : α) :
    Stage (0 ≤ place ∧ place.toNat < vector.length) (vector.getD place.toNat default)
      (load vector place) where
  ok inside := by
    simp only [load, List.getD_eq_getElem?_getD, List.getElem?_eq_getElem inside.2,
      if_pos inside.1]
    rfl
  error fails := by
    by_cases nonneg : 0 ≤ place
    · have beyond : vector.length ≤ place.toNat := not_lt.mp fun bound => fails ⟨nonneg, bound⟩
      simp only [load, List.getElem?_eq_none beyond]
      rfl
    · simp only [load, if_neg nonneg]
      cases vector[place.toNat]? <;> rfl

theorem stage_store {α : Type} (vector : List α) (place : ℤ) (value : α) :
    Stage (0 ≤ place ∧ place.toNat < vector.length) (vector.set place.toNat value)
      (store vector place value) where
  ok inside := if_pos inside
  error fails := if_neg fails

/-- The machine grants a vector. -/
def Environment.Grants {K : Type} (environment : Environment K) (buffer : Buffer)
    (count : ℕ) : Prop :=
  count ≤ buffer.maxSize ∧ environment.allocates buffer (count * buffer.elementSize) = true

theorem meets_allocate {K : Type} {environment : Environment K} {α : Type} {buffer : Buffer}
    {count : ℕ} {value : α} {allowed : Failure → Prop} (throws : ∀ what, allowed (.thrown what))
    {after : List α → Prop} :
    Meets allowed after (environment.allocate buffer count value) ↔
      (environment.Grants buffer count → after (List.replicate count value)) := by
  unfold Environment.allocate Environment.Grants
  by_cases long : buffer.maxSize < count
  · simp only [if_pos long, not_le.mpr long, false_and, false_implies, iff_true]
    exact throws _
  · by_cases granted : environment.allocates buffer (count * buffer.elementSize) = true
    · simp only [if_neg long, not_lt.mp long, true_and, granted, true_implies]
      rfl
    · simp only [if_neg long, if_neg granted]
      exact iff_of_true (throws _) fun grants => absurd grants.2 granted

theorem mem_interval {first last value : ℤ} :
    value ∈ interval first last ↔ first ≤ value ∧ value ≤ last := by
  simp only [interval, List.mem_map, List.mem_range]
  constructor
  · rintro ⟨step, bound, rfl⟩
    omega
  · intro ⟨low, high⟩
    exact ⟨(value - first).toNat, by omega, by omega⟩

namespace Grid

variable {K : Type} (grid : Grid K)

/-- The number of a cell. -/
def place (x y : ℤ) : ℤ := y * grid.width + x

/-- The number of a cell as a position in a vector. -/
def position (x y : ℤ) : ℕ := (grid.place x y).toNat

variable {grid} {x y : ℤ}

theorem place_nonneg (inside : grid.contains x y) : 0 ≤ grid.place x y :=
  add_nonneg (mul_nonneg inside.2.1 (inside.1.trans inside.2.2.1.le)) inside.1

theorem place_lt (inside : grid.contains x y) : grid.place x y < grid.width * grid.height := by
  have row : (y + 1) * grid.width ≤ grid.height * grid.width :=
    mul_le_mul_of_nonneg_right inside.2.2.2 (inside.1.trans inside.2.2.1.le)
  have column : x < grid.width := inside.2.2.1
  unfold place
  linarith

/-- Different cells have different numbers. -/
theorem position_inj {x' y' : ℤ} (inside : grid.contains x y) (inside' : grid.contains x' y')
    (same : grid.position x y = grid.position x' y') : x = x' ∧ y = y' := by
  have first := place_nonneg inside
  have second := place_nonneg inside'
  have places : grid.place x y = grid.place x' y' := by
    unfold position at same
    omega
  unfold place at places
  have wide : 0 < grid.width := lt_of_le_of_lt inside.1 inside.2.2.1
  have column : x = x' := by
    have left := Int.add_mul_emod_self_right x y grid.width
    have right := Int.add_mul_emod_self_right x' y' grid.width
    rw [Int.emod_eq_of_lt inside.1 inside.2.2.1] at left
    rw [Int.emod_eq_of_lt inside'.1 inside'.2.2.1] at right
    rw [← left, ← right]
    congr 1
    linarith
  constructor
  · exact column
  · rw [column] at places
    exact mul_right_cancel₀ wide.ne' (by linarith)

/-- The index of a cell is exact where it is below 2^31. -/
theorem stage_index (inside : grid.contains x y) :
    Stage (grid.place x y < 2 ^ 31) (grid.place x y) (grid.index x y) := by
  have nonneg := place_nonneg inside
  have row : 0 ≤ y * grid.width := mul_nonneg inside.2.1 (inside.1.trans inside.2.2.1.le)
  have column := inside.1
  have steps : Stage (InInt (y * grid.width) ∧ InInt (grid.place x y)) (grid.place x y)
      (grid.index x y) := (stage_int _).bind fun _ => stage_int _
  apply steps.congr
  unfold InInt place at *
  omega

theorem mem_cells : (x, y) ∈ grid.cells ↔ grid.contains x y := by
  simp only [cells, List.mem_flatMap, List.mem_map, mem_interval, Prod.mk.injEq, contains]
  constructor
  · rintro ⟨_, rows, _, columns, rfl, rfl⟩
    omega
  · intro inside
    exact ⟨y, by omega, x, by omega, rfl, rfl⟩

theorem mem_rasterCells : (x, y) ∈ grid.rasterCells ↔ grid.contains x y := by
  rw [← mem_cells]
  simp [rasterCells, cells]

theorem mem_offsets {low radius dx dy : ℤ} :
    (dx, dy) ∈ offsets low radius ↔ (low ≤ dx ∧ dx ≤ radius) ∧ low ≤ dy ∧ dy ≤ radius := by
  simp only [offsets, List.mem_flatMap, List.mem_map, mem_interval, Prod.mk.injEq]
  constructor
  · rintro ⟨_, rows, _, columns, rfl, rfl⟩
    exact ⟨columns, rows⟩
  · rintro ⟨columns, rows⟩
    exact ⟨dy, rows, dx, columns, rfl, rfl⟩

/-- The number of cells of a grid with positive sides that are in the range of `int`. -/
theorem cellCount_eq {width height : ℤ} (wide : 0 ≤ width) (high : 0 ≤ height)
    (widthFits : InInt width) (heightFits : InInt height) :
    (cellCount width height : ℤ) = width * height := by
  have nonneg : 0 ≤ width * height := mul_nonneg wide high
  have small : width * height < 2 ^ 64 := by
    calc width * height ≤ 2 ^ 31 * 2 ^ 31 :=
          mul_le_mul widthFits.2.le heightFits.2.le high (by norm_num)
      _ < 2 ^ 64 := by norm_num
  rw [cellCount, Int.emod_eq_of_lt nonneg small, Int.toNat_of_nonneg nonneg]

end Grid

/-- The smallest and the largest coordinates of a set of points. -/
structure Box (K : Type) where
  left : K
  right : K
  bottom : K
  top : K
  deriving DecidableEq

/-- The padded box of a cloud, its two sides in cells, and the resolution. -/
structure Frame (K : Type) extends Box K where
  columns : K
  rows : K
  resolution : Double K
  deriving DecidableEq

section Frame

variable {K : Type} [LinearOrder K]

def Box.extend (box : Box K) (point : Point K) : Box K where
  left := min box.left point.x
  right := max box.right point.x
  bottom := min box.bottom point.y
  top := max box.top point.y

/-- The box of a list of points that is not empty. -/
def Box.around : List (Point K) → Option (Box K)
  | [] => none
  | first :: rest => some (rest.foldl Box.extend ⟨first.x, first.x, first.y, first.y⟩)

/-- The point lies in the box. -/
structure Box.Holds (box : Box K) (point : Point K) : Prop where
  left : box.left ≤ point.x
  right : point.x ≤ box.right
  bottom : box.bottom ≤ point.y
  top : point.y ≤ box.top

theorem Box.holds_extend (box : Box K) (point : Point K) : (box.extend point).Holds point where
  left := min_le_right _ _
  right := le_max_right _ _
  bottom := min_le_right _ _
  top := le_max_right _ _

theorem Box.Holds.extend {box : Box K} {point : Point K} (holds : box.Holds point)
    (other : Point K) : (box.extend other).Holds point where
  left := (min_le_left _ _).trans holds.left
  right := holds.right.trans (le_max_left _ _)
  bottom := (min_le_left _ _).trans holds.bottom
  top := holds.top.trans (le_max_left _ _)

theorem Box.holds_foldl {points : List (Point K)} {box : Box K} {point : Point K}
    (holds : box.Holds point ∨ point ∈ points) : (points.foldl Box.extend box).Holds point := by
  induction points generalizing box with
  | nil => simpa using holds
  | cons first rest ih =>
      apply ih
      rcases holds with before | member
      · exact .inl (before.extend first)
      · rcases List.mem_cons.mp member with same | later
        · rw [same]
          exact .inl (box.holds_extend first)
        · exact .inr later

/-- The box around points holds each of them. -/
theorem Box.holds_of_around {points : List (Point K)} {box : Box K}
    (around : Box.around points = some box) {point : Point K} (member : point ∈ points) :
    box.Holds point := by
  cases points with
  | nil => cases member
  | cons first rest =>
      cases around
      apply Box.holds_foldl
      rcases List.mem_cons.mp member with same | later
      · rw [same]
        exact .inl ⟨le_rfl, le_rfl, le_rfl, le_rfl⟩
      · exact .inr later

theorem foldl_extend (points : List (Point K)) (box : Box K) :
    points.foldl Bounds.extend
        ⟨.finite box.left, .finite box.bottom, .finite box.right, .finite box.top⟩ =
      ⟨.finite (points.foldl Box.extend box).left, .finite (points.foldl Box.extend box).bottom,
        .finite (points.foldl Box.extend box).right, .finite (points.foldl Box.extend box).top⟩ := by
  induction points generalizing box with
  | nil => rfl
  | cons first rest ih =>
      simp only [List.foldl_cons, Bounds.extend, Double.min_finite, Double.max_finite]
      exact ih (box.extend first)

variable [Field K] [FloorRing K]

namespace PcdToPgm

variable (node : PcdToPgm K) {cloud : PcdCloud K}

/-- The frame of a cloud that has a finite point, where the padded bounds are finite, and
both sides in cells. -/
def frame (cloud : PcdCloud K) : Option (Frame K) := do
  let box ← Box.around cloud.finitePoints
  let left ← (double (.finite box.left - node.paddingM)).number?
  let right ← (double (.finite box.right + node.paddingM)).number?
  let bottom ← (double (.finite box.bottom - node.paddingM)).number?
  let top ← (double (.finite box.top + node.paddingM)).number?
  let columns ← (node.cellsBetween (.finite left) (.finite right)).number?
  let rows ← (node.cellsBetween (.finite bottom) (.finite top)).number?
  pure ⟨⟨left, right, bottom, top⟩, columns, rows, node.resolution⟩

/-- The padded box of a frame. -/
structure Pads (box : Box K) (frame : Frame K) : Prop where
  left : double (.finite box.left - node.paddingM) = .finite frame.left
  right : double (.finite box.right + node.paddingM) = .finite frame.right
  bottom : double (.finite box.bottom - node.paddingM) = .finite frame.bottom
  top : double (.finite box.top + node.paddingM) = .finite frame.top

theorem frame_eq_some_iff {frame : Frame K} :
    node.frame cloud = some frame ↔
      (∃ box, Box.around cloud.finitePoints = some box ∧ node.Pads box frame) ∧
        node.cellsBetween (.finite frame.left) (.finite frame.right) = .finite frame.columns ∧
        node.cellsBetween (.finite frame.bottom) (.finite frame.top) = .finite frame.rows ∧
        frame.resolution = node.resolution := by
  simp only [PcdToPgm.frame, Option.bind_eq_bind, Option.bind_eq_some_iff,
    Double.number?_eq_some_iff, Option.pure_def, Option.some.injEq]
  constructor
  · rintro ⟨box, around, left, leftEq, right, rightEq, bottom, bottomEq, top, topEq, columns,
      columnsEq, rows, rowsEq, rfl⟩
    exact ⟨⟨box, around, leftEq, rightEq, bottomEq, topEq⟩, columnsEq, rowsEq, rfl⟩
  · rintro ⟨⟨box, around, pads⟩, columns, rows, same⟩
    exact ⟨box, around, _, pads.left, _, pads.right, _, pads.bottom, _, pads.top, _, columns, _,
      rows, by rw [← same]⟩

theorem bounds_of_box {box : Box K}
    (around : Box.around cloud.finitePoints = some box) :
    node.bounds cloud =
      Bounds.pad ⟨.finite box.left, .finite box.bottom, .finite box.right, .finite box.top⟩
        node.paddingM := by
  unfold bounds
  cases points : cloud.finitePoints with
  | nil =>
      rw [points] at around
      contradiction
  | cons first rest =>
      rw [points] at around
      cases around
      rw [List.foldl_cons, ← foldl_extend]
      rfl

theorem bounds_of_frame {frame : Frame K} (framed : node.frame cloud = some frame) :
    node.bounds cloud =
      ⟨.finite frame.left, .finite frame.bottom, .finite frame.right, .finite frame.top⟩ := by
  obtain ⟨⟨box, around, pads⟩, _⟩ := node.frame_eq_some_iff.mp framed
  rw [node.bounds_of_box around]
  simp [Bounds.pad, pads.left, pads.right, pads.bottom, pads.top]

end PcdToPgm

namespace Frame

variable (frame : Frame K)

def width : ℤ := ⌈frame.columns⌉

def height : ℤ := ⌈frame.rows⌉

def grid : Grid K := ⟨frame.width, frame.height, .finite frame.left, .finite frame.bottom⟩

/-- How many cells a coordinate lies above a bound. -/
def cellsFrom (low value : K) : Double K :=
  double (double (.finite value - .finite low) / frame.resolution)

/-- The column of a point, counted from the left edge. -/
def column (point : Point K) : ℤ := ⌊(frame.cellsFrom frame.left point.x).number⌋

/-- The row of a point, counted from the bottom. -/
def row (point : Point K) : ℤ := ⌊(frame.cellsFrom frame.bottom point.y).number⌋

end Frame

/-- The number that a double is rounded to is a value of type `int`. -/
def Converts (rounding : K → ℤ) (value : Double K) : Prop :=
  value.IsFinite ∧ InInt (rounding value.number)

instance (rounding : K → ℤ) (value : Double K) : Decidable (Converts rounding value) :=
  inferInstanceAs (Decidable (_ ∧ _))

theorem stage_toInt [IsStrictOrderedRing K] (rounding : K → ℤ) (value : Double K) :
    Stage (Converts rounding value) (rounding value.number)
      (PcdToPgm.toInt (Double.roundBy rounding value)) := by
  cases value with
  | finite value =>
      rw [Double.roundBy, PcdToPgm.toInt, Double.truncate_intCast]
      exact (stage_int _).congr (by simp [Converts, Double.IsFinite, Double.number])
  | infinite negative => exact ⟨fun converts => converts.1.elim, fun _ => rfl⟩
  | nan => exact ⟨fun converts => converts.1.elim, fun _ => rfl⟩

namespace PcdToPgm

variable (node : PcdToPgm K) {cloud : PcdCloud K}

/-- What is between two bounds is finite only where both of them are. -/
theorem isFinite_of_cellsBetween {low high : Double K}
    (finite : (node.cellsBetween low high).IsFinite) : high.IsFinite ∧ low.IsFinite :=
  (Format.isFinite_of_rounded (Format.isFinite_of_rounded finite).of_div).of_sub

/-- Sides that are numbers come with a frame. -/
theorem framed_of_isFinite
    (wide : (node.cellsBetween (node.bounds cloud).minX (node.bounds cloud).maxX).IsFinite)
    (high : (node.cellsBetween (node.bounds cloud).minY (node.bounds cloud).maxY).IsFinite) :
    ∃ frame, node.frame cloud = some frame := by
  have sides := node.isFinite_of_cellsBetween wide
  have ends := node.isFinite_of_cellsBetween high
  cases around : Box.around cloud.finitePoints with
  | none =>
      have empty : cloud.finitePoints = [] := by
        cases points : cloud.finitePoints with
        | nil => rfl
        | cons first rest =>
            rw [points] at around
            contradiction
      rw [bounds, empty] at sides
      exact (Format.isFinite_of_rounded sides.2).of_sub.1.elim
  | some box =>
      rw [node.bounds_of_box around] at wide high sides ends
      obtain ⟨right, rightEq⟩ := Double.isFinite_iff.mp sides.1
      obtain ⟨left, leftEq⟩ := Double.isFinite_iff.mp sides.2
      obtain ⟨top, topEq⟩ := Double.isFinite_iff.mp ends.1
      obtain ⟨bottom, bottomEq⟩ := Double.isFinite_iff.mp ends.2
      rw [leftEq, rightEq] at wide
      rw [bottomEq, topEq] at high
      obtain ⟨columns, columnsEq⟩ := Double.isFinite_iff.mp wide
      obtain ⟨rows, rowsEq⟩ := Double.isFinite_iff.mp high
      refine ⟨⟨⟨left, right, bottom, top⟩, columns, rows, node.resolution⟩, ?_⟩
      apply node.frame_eq_some_iff.mpr
      exact ⟨⟨box, around, leftEq, rightEq, bottomEq, topEq⟩, columnsEq, rowsEq, rfl⟩

variable [IsStrictOrderedRing K]

/-- The size of the grid, from whatever bounds there are. -/
theorem stage_size :
    Stage (Converts Int.ceil (node.cellsBetween (node.bounds cloud).minX (node.bounds cloud).maxX) ∧
        Converts Int.ceil (node.cellsBetween (node.bounds cloud).minY (node.bounds cloud).maxY))
      ⟨⌈(node.cellsBetween (node.bounds cloud).minX (node.bounds cloud).maxX).number⌉,
        ⌈(node.cellsBetween (node.bounds cloud).minY (node.bounds cloud).maxY).number⌉,
        (node.bounds cloud).minX, (node.bounds cloud).minY⟩
      (node.grid cloud) := by
  unfold grid
  apply Guarded.congr
  · apply Guarded.bind (stage_toInt Int.ceil _)
    intro _
    apply Guarded.bind (stage_toInt Int.ceil _)
    intro _
    exact Guarded.pure _
  · simp

/-- Without a frame the size of the grid is undefined. -/
theorem grid_of_not_framed (unframed : node.frame cloud = none) :
    node.grid cloud = .error .undefined := by
  apply node.stage_size.error
  rintro ⟨wide, high⟩
  obtain ⟨frame, framed⟩ := node.framed_of_isFinite wide.1 high.1
  rw [unframed] at framed
  contradiction

/-- With a frame the grid is that of the frame, where its sides fit. -/
theorem stage_grid {frame : Frame K} (framed : node.frame cloud = some frame) :
    Stage (InInt frame.width ∧ InInt frame.height) frame.grid (node.grid cloud) := by
  obtain ⟨_, columns, rows, _⟩ := node.frame_eq_some_iff.mp framed
  have sized : Stage _ _ (node.grid cloud) := node.stage_size
  rw [node.bounds_of_frame framed, columns, rows] at sized
  exact sized.congr (by simp [Converts, Double.IsFinite, Double.number, Frame.width, Frame.height])

theorem stage_column {frame : Frame K} (framed : node.frame cloud = some frame)
    (point : Point K) : Stage (Converts Int.floor (frame.cellsFrom frame.left point.x))
      (frame.column point) (node.column frame.grid point) := by
  obtain ⟨_, _, _, same⟩ := node.frame_eq_some_iff.mp framed
  rw [Frame.column, Frame.cellsFrom, same]
  exact stage_toInt Int.floor _

theorem stage_row {frame : Frame K} (framed : node.frame cloud = some frame)
    (point : Point K) : Stage (Converts Int.floor (frame.cellsFrom frame.bottom point.y))
      (frame.row point) (node.row frame.grid point) := by
  obtain ⟨_, _, _, same⟩ := node.frame_eq_some_iff.mp framed
  rw [Frame.row, Frame.cellsFrom, same]
  exact stage_toInt Int.floor _

end PcdToPgm

section Counting

/-- A count after one more point in a cell. -/
def bump (count : List UInt32) (position : ℕ) : List UInt32 :=
  count.set position (count.getD position 0 + 1)

theorem length_bump (count : List UInt32) (position : ℕ) :
    (bump count position).length = count.length := List.length_set

theorem length_foldl_bump (positions : List ℕ) (count : List UInt32) :
    (positions.foldl bump count).length = count.length := by
  induction positions generalizing count with
  | nil => rfl
  | cons first rest ih => rw [List.foldl_cons, ih, length_bump]

theorem stage_increment {count : List UInt32} {place : ℤ} (nonneg : 0 ≤ place)
    (inside : place.toNat < count.length) :
    Stage True (bump count place.toNat) (increment count place) := by
  apply Guarded.congr
  · apply Guarded.bind (stage_load count place 0)
    intro _
    exact stage_store count place _
  · simp [nonneg, inside]

theorem stage_countIf (kind : Bool) {count : List UInt32} {place : ℤ} (nonneg : 0 ≤ place)
    (inside : place.toNat < count.length) :
    Stage True (if kind then bump count place.toNat else count) (countIf kind count place) := by
  cases kind with
  | false => exact Guarded.pure count
  | true => exact stage_increment nonneg inside

theorem getD_bump {count : List UInt32} {position i : ℕ} (bound : i < count.length) :
    (bump count position).getD i 0 =
      count.getD i 0 + if position = i then 1 else 0 := by
  simp only [bump, List.getD_eq_getElem?_getD, List.getElem?_set]
  by_cases same : position = i
  · subst same
    simp [bound]
  · simp [same]

/-- A cell counts, in 32 bits, the points that fall into it. -/
theorem getD_foldl_bump (positions : List ℕ) {count : List UInt32} {i : ℕ}
    (bound : i < count.length) :
    (positions.foldl bump count).getD i 0 =
      count.getD i 0 + UInt32.ofNat (positions.count i) := by
  induction positions generalizing count with
  | nil => simp
  | cons first rest ih =>
      rw [List.foldl_cons, ih (by rwa [length_bump]), getD_bump bound, List.count_cons]
      by_cases same : first = i
      · simp only [same, if_true, beq_self_eq_true, UInt32.ofNat_add]
        rw [UInt32.add_assoc]
        congr 1
        exact UInt32.add_comm 1 _
      · simp [same]

theorem getD_mask (count : List UInt32) (i : ℕ) :
    (mask count).getD i 0 ≠ 0 ↔ 0 < count.getD i 0 := by
  simp only [mask, List.getD_eq_getElem?_getD, List.getElem?_map]
  cases count[i]? with
  | none => simp
  | some value =>
      by_cases positive : 0 < value
      · simp [positive]
      · simp [positive]

/-- With fewer than 2^32 points, the mask is set where a point has fallen. -/
theorem getD_mask_foldl_bump {positions : List ℕ} {size i : ℕ} (bound : i < size)
    (few : positions.length < 2 ^ 32) :
    (mask (positions.foldl bump (List.replicate size 0))).getD i 0 ≠ 0 ↔ i ∈ positions := by
  have start : (List.replicate size (0 : UInt32)).getD i 0 = 0 := by
    simp [List.getD_eq_getElem?_getD, bound]
  have count : positions.count i < 2 ^ 32 := lt_of_le_of_lt List.count_le_length few
  rw [getD_mask, getD_foldl_bump positions (by simpa using bound), start, UInt32.zero_add,
    UInt32.lt_iff_toNat_lt, UInt32.toNat_ofNat_of_lt' count]
  exact List.count_pos_iff

end Counting

namespace Grid

variable {grid : Grid K} {x y : ℤ}

omit [LinearOrder K] [Field K] [FloorRing K] in
theorem cellCount_of_contains (inside : grid.contains x y) (widthFits : InInt grid.width)
    (heightFits : InInt grid.height) :
    (cellCount grid.width grid.height : ℤ) = grid.width * grid.height :=
  cellCount_eq (inside.1.trans inside.2.2.1.le) (inside.2.1.trans inside.2.2.2.le) widthFits
    heightFits

omit [LinearOrder K] [Field K] [FloorRing K] in
theorem position_lt (inside : grid.contains x y) (widthFits : InInt grid.width)
    (heightFits : InInt grid.height) : grid.position x y < cellCount grid.width grid.height := by
  have count := cellCount_of_contains inside widthFits heightFits
  have nonneg := place_nonneg inside
  have below := place_lt inside
  unfold position
  omega

end Grid

namespace Frame

variable (frame : Frame K)

/-- The point falls into the grid. -/
abbrev Catches (point : Point K) : Prop :=
  frame.grid.contains (frame.column point) (frame.row point)

def position (point : Point K) : ℕ := frame.grid.position (frame.column point) (frame.row point)

/-- Where binning a point is defined. -/
def Bins (point : Point K) : Prop :=
  Converts Int.floor (frame.cellsFrom frame.left point.x) ∧
    Converts Int.floor (frame.cellsFrom frame.bottom point.y) ∧
    (frame.Catches point → frame.grid.place (frame.column point) (frame.row point) < 2 ^ 31)

instance (point : Point K) : Decidable (frame.Bins point) :=
  inferInstanceAs (Decidable (_ ∧ _ ∧ (_ → _)))

/-- The cells of the points of a kind, one for each point. -/
def hits (kind : Point K → Bool) (points : List (Point K)) : List ℕ :=
  points.filterMap fun point =>
    if kind point ∧ frame.Catches point then some (frame.position point) else none

theorem mem_hits {kind : Point K → Bool} {points : List (Point K)} {i : ℕ} :
    i ∈ frame.hits kind points ↔
      ∃ point ∈ points, kind point ∧ frame.Catches point ∧ frame.position point = i := by
  simp [hits, and_assoc]

end Frame

namespace PcdToPgm

variable (node : PcdToPgm K) {cloud : PcdCloud K}

/-- The counts after one more point. -/
def countFramed (frame : Frame K) (counts : Counts) (point : Point K) : Counts :=
  if frame.Catches point then
    ⟨if node.isFloor point then bump counts.floor (frame.position point) else counts.floor,
      if node.isObstacle point then bump counts.obstacle (frame.position point)
      else counts.obstacle⟩
  else counts

theorem foldl_countFramed (frame : Frame K) (points : List (Point K)) (counts : Counts) :
    points.foldl (node.countFramed frame) counts =
      ⟨(frame.hits node.isFloor points).foldl bump counts.floor,
        (frame.hits node.isObstacle points).foldl bump counts.obstacle⟩ := by
  induction points generalizing counts with
  | nil => rfl
  | cons point points ih =>
      rw [List.foldl_cons, ih]
      by_cases inside : frame.Catches point <;> by_cases floor : node.isFloor point <;>
        by_cases obstacle : node.isObstacle point <;>
        simp [countFramed, Frame.hits, inside, floor, obstacle]

variable [IsStrictOrderedRing K]

theorem stage_countPoint {frame : Frame K} (framed : node.frame cloud = some frame)
    (widthFits : InInt frame.width) (heightFits : InInt frame.height) (counts : Counts)
    (floorSize : counts.floor.length = cellCount frame.width frame.height)
    (obstacleSize : counts.obstacle.length = cellCount frame.width frame.height)
    (point : Point K) :
    Stage (frame.Bins point) (node.countFramed frame counts point)
      (node.countPoint frame.grid counts point) := by
  unfold countPoint countFramed
  apply Guarded.congr
  · apply Guarded.bind (node.stage_column framed point)
    intro _
    apply Guarded.bind (node.stage_row framed point)
    intro _
    apply Guarded.ite
    · intro inside
      have bound := Grid.position_lt inside widthFits heightFits
      have nonneg := Grid.place_nonneg inside
      apply Guarded.bind (Grid.stage_index inside)
      intro _
      apply Guarded.bind (stage_countIf _ nonneg (by rwa [floorSize]))
      intro _
      apply Guarded.bind (stage_countIf _ nonneg (by rwa [obstacleSize]))
      intro _
      exact Guarded.pure _
    · intro _
      exact Guarded.pure counts
  · simp [Frame.Bins]

/-- The counting loop is defined where binning each point is. -/
theorem stage_counts {frame : Frame K} (framed : node.frame cloud = some frame)
    (widthFits : InInt frame.width) (heightFits : InInt frame.height)
    (points : List (Point K)) :
    Stage (∀ point ∈ points, frame.Bins point)
      ⟨(frame.hits node.isFloor points).foldl bump
          (List.replicate (cellCount frame.width frame.height) 0),
        (frame.hits node.isObstacle points).foldl bump
          (List.replicate (cellCount frame.width frame.height) 0)⟩
      (points.foldlM (node.countPoint frame.grid)
        ⟨List.replicate (cellCount frame.width frame.height) 0,
          List.replicate (cellCount frame.width frame.height) 0⟩) := by
  have folded := node.foldl_countFramed frame points
    ⟨List.replicate (cellCount frame.width frame.height) 0,
      List.replicate (cellCount frame.width frame.height) 0⟩
  dsimp only at folded
  rw [← folded]
  apply Guarded.foldlM fun counts =>
    counts.floor.length = cellCount frame.width frame.height ∧
      counts.obstacle.length = cellCount frame.width frame.height
  · intro counts sizes point _
    exact node.stage_countPoint framed widthFits heightFits counts sizes.1 sizes.2 point
  · intro counts point sizes
    unfold countFramed
    split_ifs <;> simp [length_bump, sizes]
  · simp

end PcdToPgm

end Frame

namespace Grid

variable {K : Type} (grid : Grid K)

/-- The output of `dilate` after one more offset. -/
def marked (radius x y : ℤ) (output : List UInt8) (offset : ℤ × ℤ) : List UInt8 :=
  if radius * radius < offset.1 * offset.1 + offset.2 * offset.2 then output
  else if grid.contains (x + offset.1) (y + offset.2) then
    output.set (grid.position (x + offset.1) (y + offset.2)) 1
  else output

/-- The output of `dilate` after one more cell. -/
def spreadFrom (input : List UInt8) (radius : ℤ) (output : List UInt8) (cell : ℤ × ℤ) :
    List UInt8 :=
  if input.getD (grid.position cell.1 cell.2) 0 = 0 then output
  else (offsets (-radius) radius).foldl (grid.marked radius cell.1 cell.2) output

/-- Where the arithmetic at one offset is defined. -/
def MarkSafe (radius x y : ℤ) (offset : ℤ × ℤ) : Prop :=
  InInt (offset.1 * offset.1) ∧ InInt (offset.2 * offset.2) ∧
    InInt (offset.1 * offset.1 + offset.2 * offset.2) ∧ InInt (radius * radius) ∧
    (offset.1 * offset.1 + offset.2 * offset.2 ≤ radius * radius →
      InInt (x + offset.1) ∧ InInt (y + offset.2) ∧
      (grid.contains (x + offset.1) (y + offset.2) →
        grid.place (x + offset.1) (y + offset.2) < 2 ^ 31))

/-- Where the work of `dilate` at one cell is defined. -/
def SpreadSafe (input : List UInt8) (radius : ℤ) (cell : ℤ × ℤ) : Prop :=
  grid.place cell.1 cell.2 < 2 ^ 31 ∧
    (input.getD (grid.position cell.1 cell.2) 0 ≠ 0 → InInt (-radius) ∧
      ∀ offset ∈ offsets (-radius) radius, grid.MarkSafe radius cell.1 cell.2 offset)

variable {grid}

theorem length_marked (radius x y : ℤ) (output : List UInt8) (offset : ℤ × ℤ) :
    (grid.marked radius x y output offset).length = output.length := by
  unfold marked
  split_ifs <;> simp

theorem stage_mark (widthFits : InInt grid.width) (heightFits : InInt grid.height)
    (radius x y : ℤ) {output : List UInt8}
    (size : output.length = cellCount grid.width grid.height) (offset : ℤ × ℤ) :
    Stage (grid.MarkSafe radius x y offset) (grid.marked radius x y output offset)
      (grid.mark radius x y output offset) := by
  unfold mark marked
  apply Guarded.congr
  · apply Guarded.bind (stage_int (offset.1 * offset.1))
    intro _
    apply Guarded.bind (stage_int (offset.2 * offset.2))
    intro _
    apply Guarded.bind (stage_int (offset.1 * offset.1 + offset.2 * offset.2))
    intro _
    apply Guarded.bind (stage_int (radius * radius))
    intro _
    apply Guarded.ite
    · intro _
      exact Guarded.pure output
    · intro _
      apply Guarded.bind (stage_int (x + offset.1))
      intro _
      apply Guarded.bind (stage_int (y + offset.2))
      intro _
      apply Guarded.ite
      · intro inside
        have bound := position_lt inside widthFits heightFits
        apply Guarded.bind (stage_index inside)
        intro _
        apply Guarded.congr (stage_store output _ 1)
        exact ⟨fun _ => trivial, fun _ => ⟨place_nonneg inside, by rwa [size]⟩⟩
      · intro _
        exact Guarded.pure output
  · simp [MarkSafe]

theorem stage_spread (widthFits : InInt grid.width) (heightFits : InInt grid.height)
    {input : List UInt8} (radius : ℤ) {output : List UInt8}
    (inputSize : input.length = cellCount grid.width grid.height)
    (size : output.length = cellCount grid.width grid.height) {cell : ℤ × ℤ}
    (inside : grid.contains cell.1 cell.2) :
    Stage (grid.SpreadSafe input radius cell) (grid.spreadFrom input radius output cell)
      (grid.spread input radius output cell) := by
  have bound := position_lt inside widthFits heightFits
  unfold spread spreadFrom
  apply Guarded.congr
  · apply Guarded.bind (stage_index inside)
    intro _
    apply Guarded.bind (stage_load input (grid.place cell.1 cell.2) 0)
    intro _
    apply Guarded.ite
    · intro _
      exact Guarded.pure output
    · intro _
      apply Guarded.bind (stage_int (-radius))
      intro _
      apply Guarded.foldlM fun output => output.length = cellCount grid.width grid.height
      · intro output size offset _
        exact stage_mark widthFits heightFits radius cell.1 cell.2 size offset
      · intro output offset size
        rw [length_marked, size]
      · exact size
  · have loaded : (grid.place cell.1 cell.2).toNat < input.length := by rwa [inputSize]
    simp [SpreadSafe, place_nonneg inside, loaded, position]

theorem length_spreadFrom (input : List UInt8) (radius : ℤ) (output : List UInt8)
    (cell : ℤ × ℤ) : (grid.spreadFrom input radius output cell).length = output.length := by
  unfold spreadFrom
  split
  next => rfl
  next =>
    induction offsets (-radius) radius generalizing output with
    | nil => rfl
    | cons first rest ih => rw [List.foldl_cons, ih, length_marked]

/-- `dilate` is defined where its work at each cell is. -/
theorem stage_dilate (widthFits : InInt grid.width) (heightFits : InInt grid.height)
    {input output : List UInt8} (radius : ℤ)
    (inputSize : input.length = cellCount grid.width grid.height)
    (size : output.length = cellCount grid.width grid.height) :
    Stage (∀ cell ∈ grid.cells, grid.SpreadSafe input radius cell)
      (grid.cells.foldl (grid.spreadFrom input radius) output)
      (grid.dilate input output radius) := by
  apply Guarded.foldlM fun output => output.length = cellCount grid.width grid.height
  · intro output size cell member
    exact stage_spread widthFits heightFits radius inputSize size (mem_cells.mp member)
  · intro output cell size
    rw [length_spreadFrom, size]
  · exact size

end Grid

end ScoutStack
