import ScoutStack.MapTools.Obstacles

/-!
# The georeference in the YAML file

Origin and resolution are printed with six significant digits.  The error of a cell centre
is affine in the number of the cell, so it is largest at an end of the grid.
-/

namespace ScoutStack

open Decimal

variable {K : Type} [Field K] [LinearOrder K] [FloorRing K] [IsStrictOrderedRing K]

/-- The error of an affine function of the cell is within a bound on a row of cells where
it is within it at both ends. -/
theorem forall_affine_le_iff {shift slope bound : K} {count : ℤ} (nonempty : 1 ≤ count) :
    (∀ k : ℤ, 0 ≤ k → k < count → |shift + (k + 1 / 2) * slope| ≤ bound) ↔
      |shift + slope / 2| ≤ bound ∧ |shift + (count - 1 / 2) * slope| ≤ bound := by
  constructor
  · intro every
    have first := every 0 le_rfl (by omega)
    have last := every (count - 1) (by omega) (by omega)
    push_cast at first last
    constructor
    · convert first using 2
      ring
    · convert last using 2
      ring
  · rintro ⟨first, last⟩ k low high
    have lowK : (0 : K) ≤ k := by exact_mod_cast low
    have highK : (k : K) ≤ count - 1 := by exact_mod_cast Int.le_sub_one_of_lt high
    rw [abs_le] at first last ⊢
    rcases le_total 0 slope with rising | falling
    · constructor
      · nlinarith [mul_nonneg lowK rising]
      · nlinarith [mul_le_mul_of_nonneg_right highK rising]
    · constructor
      · nlinarith [mul_le_mul_of_nonpos_right highK falling]
      · nlinarith [mul_nonneg_of_nonpos_of_nonpos (neg_nonpos.mpr lowK) falling]

/-- The error that six digits make at the first and at the last cell of a row stays within
half a cell. -/
def EndsFit (origin resolution : K) (count : ℤ) : Prop :=
  |sixDigits origin - origin + (sixDigits resolution - resolution) / 2| ≤ resolution / 2 ∧
    |sixDigits origin - origin + (count - 1 / 2) * (sixDigits resolution - resolution)| ≤
      resolution / 2

/-- Six digits are enough where the far end of the row is not further away than a hundred
thousand cells. -/
theorem endsFit_of_near {origin resolution : K} {count : ℤ} (positive : 0 < resolution)
    (nonempty : 1 ≤ count)
    (near : |origin| + (count - 1 / 2) * resolution ≤ 10 ^ 5 * resolution) :
    EndsFit origin resolution count := by
  have shift := abs_sixDigits_sub_le origin
  have slope := abs_sixDigits_sub_le resolution
  rw [abs_of_pos positive] at slope
  have one : (1 : K) ≤ count := by exact_mod_cast nonempty
  have bound : ∀ factor : K, 0 ≤ factor → factor ≤ count - 1 / 2 →
      |sixDigits origin - origin + factor * (sixDigits resolution - resolution)| ≤
        resolution / 2 := by
    intro factor nonneg small
    calc |sixDigits origin - origin + factor * (sixDigits resolution - resolution)|
        ≤ |sixDigits origin - origin| + |factor * (sixDigits resolution - resolution)| :=
          abs_add_le _ _
      _ = |sixDigits origin - origin| + factor * |sixDigits resolution - resolution| := by
          rw [abs_mul, abs_of_nonneg nonneg]
      _ ≤ |origin| / (2 * 10 ^ 5) + (count - 1 / 2) * (resolution / (2 * 10 ^ 5)) := by
          gcongr
          linarith
      _ = (|origin| + (count - 1 / 2) * resolution) / (2 * 10 ^ 5) := by ring
      _ ≤ 10 ^ 5 * resolution / (2 * 10 ^ 5) := by gcongr
      _ = resolution / 2 := by
          field_simp
  constructor
  · have first := bound (1 / 2) (by norm_num) (by linarith)
    convert first using 2
    ring
  · exact bound (count - 1 / 2) (by linarith) le_rfl

namespace PcdToPgm

/-- The numbers that are read from the file put the centre of each cell within half a cell
of the centre at which its points were binned. -/
def Georeferenced (node : PcdToPgm K) (cloud : PcdCloud K) (yaml : MapYaml) : Prop :=
  ∀ grid, node.grid cloud = .ok grid → ∀ x y : ℤ, grid.contains x y →
    ∃ minX minY resolution originX originY read, grid.minX = .finite minX ∧
      grid.minY = .finite minY ∧ node.resolution = .finite resolution ∧
      readDecimal yaml.originX = some originX ∧ readDecimal yaml.originY = some originY ∧
      readDecimal yaml.resolution = some read ∧
      |originX + (x + 1 / 2) * read - (minX + (x + 1 / 2) * resolution)| ≤ resolution / 2 ∧
      |originY + (y + 1 / 2) * read - (minY + (y + 1 / 2) * resolution)| ≤ resolution / 2

/-- The grid has no cells; or six digits are enough for the lower left corner of the padded
box and the resolution, over the columns and over the rows. -/
def SixDigitsSuffice (node : PcdToPgm K) (cloud : PcdCloud K) : Prop :=
  ∃ frame, node.frame cloud = some frame ∧
    (frame.width < 1 ∨ frame.height < 1 ∨ ∃ resolution, node.resolution = .finite resolution ∧
      EndsFit frame.left resolution frame.width ∧ EndsFit frame.bottom resolution frame.height)

variable {node : PcdToPgm K} {environment : Environment K} {cloud : PcdCloud K}
  {frame : Frame K}

theorem Completes.endsFit_iff (completes : node.Completes environment cloud frame)
    (wide : 1 ≤ frame.width) (high : 1 ≤ frame.height) {resolution : K}
    (given : node.resolution = .finite resolution) :
    node.Georeferenced cloud (node.yaml frame.grid) ↔
      EndsFit frame.left resolution frame.width ∧
        EndsFit frame.bottom resolution frame.height := by
  have sized := (node.stage_grid completes.framed).ok ⟨completes.widthFits, completes.heightFits⟩
  have readX : readDecimal (node.yaml frame.grid).originX = some (sixDigits frame.left) :=
    readDecimal_printDouble frame.left
  have readY : readDecimal (node.yaml frame.grid).originY = some (sixDigits frame.bottom) :=
    readDecimal_printDouble frame.bottom
  have readResolution : readDecimal (node.yaml frame.grid).resolution =
      some (sixDigits resolution) := by
    rw [yaml, given]
    exact readDecimal_printDouble resolution
  have error : ∀ (origin : K) (k : ℤ),
      sixDigits origin + (k + 1 / 2) * sixDigits resolution - (origin + (k + 1 / 2) * resolution) =
        sixDigits origin - origin + (k + 1 / 2) * (sixDigits resolution - resolution) := by
    intro origin k
    ring
  unfold EndsFit
  rw [← forall_affine_le_iff wide, ← forall_affine_le_iff high]
  constructor
  · intro placed
    have cells : ∀ x y : ℤ, frame.grid.contains x y →
        |sixDigits frame.left - frame.left +
            (x + 1 / 2) * (sixDigits resolution - resolution)| ≤ resolution / 2 ∧
          |sixDigits frame.bottom - frame.bottom +
            (y + 1 / 2) * (sixDigits resolution - resolution)| ≤ resolution / 2 := by
      intro x y inside
      obtain ⟨minX, minY, other, originX, originY, read, minXEq, minYEq, otherEq, originXEq,
        originYEq, readEq, errorX, errorY⟩ := placed frame.grid sized x y inside
      cases minXEq
      cases minYEq
      cases given.symm.trans otherEq
      cases readX.symm.trans originXEq
      cases readY.symm.trans originYEq
      cases readResolution.symm.trans readEq
      rw [error] at errorX errorY
      exact ⟨errorX, errorY⟩
    constructor
    · intro x low below
      exact (cells x 0 ⟨low, le_rfl, below, high⟩).1
    · intro y low below
      exact (cells 0 y ⟨le_rfl, low, wide, below⟩).2
  · rintro ⟨columns, rows⟩ grid size x y inside
    cases sized.symm.trans size
    refine ⟨frame.left, frame.bottom, resolution, _, _, _, rfl, rfl, given, readX, readY,
      readResolution, ?_, ?_⟩
    · rw [error]
      exact columns x inside.1 inside.2.2.1
    · rw [error]
      exact rows y inside.2.1 inside.2.2.2

/-- The georeference of a completed run survives its text form exactly where six digits
suffice. -/
theorem georeferenced_iff {pgm : Bytes} {yaml : MapYaml}
    (completed : node.generate environment = .completed pgm yaml)
    (loaded : environment.loadPCDFile node.inputPcd = some cloud) :
    node.Georeferenced cloud yaml ↔ node.SixDigitsSuffice cloud := by
  obtain ⟨cloud', frame, completes, rfl, rfl⟩ := node.exists_of_completed completed
  cases loaded.symm.trans completes.loads.file
  have sized := (node.stage_grid completes.framed).ok ⟨completes.widthFits, completes.heightFits⟩
  by_cases cells : 1 ≤ frame.width ∧ 1 ≤ frame.height
  · obtain ⟨wide, high⟩ := cells
    obtain ⟨resolution, given, _⟩ := completes.resolution wide
    rw [completes.endsFit_iff wide high given]
    constructor
    · intro ends
      exact ⟨frame, completes.framed, .inr (.inr ⟨resolution, given, ends⟩)⟩
    · rintro ⟨frame', framed, narrow | low | ⟨other, otherEq, ends⟩⟩
      · cases completes.framed.symm.trans framed
        omega
      · cases completes.framed.symm.trans framed
        omega
      · cases completes.framed.symm.trans framed
        cases given.symm.trans otherEq
        exact ends
  · have empty : frame.width < 1 ∨ frame.height < 1 := by omega
    apply iff_of_true
    · intro grid size x y inside
      cases sized.symm.trans size
      obtain ⟨left, bottom, right, top⟩ := inside
      simp only [Frame.grid] at right top
      omega
    · refine ⟨frame, completes.framed, ?_⟩
      rcases empty with narrow | low
      · exact .inl narrow
      · exact .inr (.inl low)

end PcdToPgm

theorem georeferenced_hall :
    ∃ pgm yaml, hallNode.generate (granting hallCloud) = .completed pgm yaml ∧
      hallNode.Georeferenced hallCloud yaml := by
  have done : (hallNode.generate (granting hallCloud)).isCompleted = true := by decide +kernel
  obtain ⟨pgm, yaml, completed⟩ := Outcome.exists_of_isCompleted done
  refine ⟨pgm, yaml, completed, ?_⟩
  apply (PcdToPgm.georeferenced_iff completed rfl).mpr
  have framed : hallNode.frame hallCloud = some hallFrame := by decide +kernel
  have width : hallFrame.width = 4 := by decide +kernel
  have height : hallFrame.height = 3 := by decide +kernel
  refine ⟨_, framed, .inr (.inr ⟨1, rfl, ?_, ?_⟩)⟩
  · rw [width]
    exact endsFit_of_near one_pos (by norm_num) (by norm_num [hallFrame, abs_of_pos])
  · rw [height]
    exact endsFit_of_near one_pos (by norm_num) (by norm_num [hallFrame, abs_of_pos])

/-- An obstacle point a thousand kilometres away. -/
def farCloud : PcdCloud ℚ where
  points := [some ⟨1234567, 0, 1, 0⟩]
  size_lt := by decide

theorem far_origin_rounded :
    ∃ pgm yaml, hallNode.generate (granting farCloud) = .completed pgm yaml ∧
      ¬hallNode.Georeferenced farCloud yaml := by
  have done : (hallNode.generate (granting farCloud)).isCompleted = true := by decide +kernel
  obtain ⟨pgm, yaml, completed⟩ := Outcome.exists_of_isCompleted done
  refine ⟨pgm, yaml, completed, ?_⟩
  obtain ⟨cloud, frame, completes, _, rfl⟩ := hallNode.exists_of_completed completed
  cases completes.loads.file
  have framed : hallNode.frame farCloud =
      some ⟨⟨2469133 / 2, 2469135 / 2, -1 / 2, 1 / 2⟩, 1, 1, .finite 1⟩ := by decide +kernel
  cases framed.symm.trans completes.framed
  rw [completes.endsFit_iff (by decide +kernel) (by decide +kernel) rfl]
  intro ends
  -- The origin 1234566.5 is printed as 1.23457e+06.
  have printed : sixDigits (2469133 / 2 : ℚ) = 1234570 := by decide +kernel
  have unit : sixDigits (1 : ℚ) = 1 := by decide +kernel
  have error := ends.1.1
  rw [printed, unit] at error
  norm_num [abs_of_pos] at error

end ScoutStack
