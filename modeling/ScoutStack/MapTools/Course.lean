import ScoutStack.Lib.Guarded
import ScoutStack.MapTools.Finalize

/-!
# The course of an invocation

How far an invocation of the finalizer gets, told from its arguments and the directory that
it finds, and what a stopped or finished invocation leaves of the directory.
-/

namespace ScoutStack

open Decimal

variable {K : Type}

/-! ## Steps -/

/-- The property of the directory that a stopped step leaves, and of the value of a step
that passes. -/
abbrev Leaves {α : Type} (Q : Directory K → Prop) (after : α → Prop)
    (step : Finalizing K α) : Prop := Meets (fun stopped => Q stopped.directory) after step

variable {Q : Directory K → Prop}

theorem leaves_proceed {P : Directory K → Prop} {step : FinalizeStep} {fault : Option Extent}
    {dir : Directory K} (stopped : fault ≠ none → Q dir) (passed : fault = none → P dir) :
    Leaves Q P (proceed step fault dir) := by
  cases fault with
  | none => exact passed rfl
  | some extent => exact stopped (by simp)

theorem leaves_require {α : Type} {P : α → Prop} {step : FinalizeStep} {dir : Directory K}
    {value : Option α} (stopped : value = none → Q dir) (passed : ∀ found, value = some found → P found) :
    Leaves Q P (require step dir value) := by
  cases value with
  | none => exact stopped rfl
  | some found => exact passed found rfl

namespace Invocation

variable (invocation : Invocation K)

/-- The source is there and is not the archive itself. -/
def CopyStarts (dir : Directory K) : Prop :=
  invocation.faults.setup = false ∧ invocation.copies dir = true ∧
    (invocation.source.file dir).isFile = true ∧ invocation.source.isRaw = false

/-- The archive step keeps the archive, or copies the source undisturbed. -/
def ArchivePasses (dir : Directory K) : Prop :=
  invocation.copies dir = true → invocation.CopyStarts dir ∧ invocation.faults.copy = none

/-- The archive after its step. -/
def archived (dir : Directory K) : File (PcdCloud K) :=
  if invocation.copies dir then invocation.source.file dir else dir.raw

variable {invocation}

theorem leaves_archive {P : Directory K → Prop} {dir : Directory K}
    (starts : invocation.faults.setup = false) (stopped : ¬invocation.ArchivePasses dir → Q dir)
    (copied : invocation.CopyStarts dir → invocation.faults.copy ≠ none → Q { dir with
      raw := dir.raw.write invocation.faults.copy (invocation.source.file dir) })
    (passed : invocation.ArchivePasses dir → P { dir with raw := invocation.archived dir }) :
    Leaves Q P (invocation.archive dir) := by
  unfold archive
  split
  next copies =>
    split
    next isFile =>
      unfold copy2
      split
      next same =>
        apply stopped
        intro passes
        obtain ⟨⟨_, _, _, different⟩, _⟩ := passes copies
        simp [same] at different
      next other =>
        have begins : invocation.CopyStarts dir := ⟨starts, copies, isFile, by simpa using other⟩
        apply leaves_proceed (copied begins)
        intro unharmed
        have after := passed fun _ => ⟨begins, unharmed⟩
        simpa only [archived, copies, if_true, unharmed, File.write_none] using after
    next missing =>
      apply stopped
      intro passes
      exact missing (passes copies).1.2.2.1
  next kept =>
    have after := passed fun copies => absurd copies kept
    simp only [archived, kept, if_false, Bool.false_eq_true] at after
    exact after

end Invocation

variable [Field K]

/-! ## How far an invocation gets -/

/-- `image` is the archive under the extrinsic of the geometry. -/
def IsImage (trig : Trigonometry K) (mapDir : String) (geometry : Geometry K)
    (raw image : PcdCloud K) : Prop :=
  ∃ params, geometry.transformParams mapDir = some params ∧
    image = (PcdTransform.ofParameters params).transformPointCloud trig raw

theorem IsImage.unique {trig : Trigonometry K} {mapDir : String} {geometry : Geometry K}
    {raw image other : PcdCloud K}
    (left : IsImage trig mapDir geometry raw image)
    (right : IsImage trig mapDir geometry raw other) : image = other := by
  obtain ⟨params, complete, rfl⟩ := left
  obtain ⟨params', complete', rfl⟩ := right
  cases complete.symm.trans complete'
  rfl

namespace Invocation

variable (invocation : Invocation K) (trig : Trigonometry K) (mapDir : String)

/-- The transform node runs and computes `image`. -/
structure AtTransform (dir : Directory K) (geometry : Geometry K) (server : Settings K)
    (image : PcdCloud K) : Prop where
  starts : invocation.faults.setup = false
  copies : invocation.ArchivePasses dir
  configured : invocation.geometry = some geometry
  online : invocation.startMaster = some server
  transforms : ∃ raw, invocation.archived dir = .holds raw ∧ IsImage trig mapDir geometry raw image

/-- The raster node runs with the raw profile. -/
structure AtRaw (dir : Directory K) (geometry : Geometry K) (server : Settings K)
    (image : PcdCloud K) (raw : Settings K) : Prop
    extends invocation.AtTransform trig mapDir dir geometry server image where
  saved : invocation.faults.transform = none
  rawProfile : invocation.profiles .raw = some raw

section Raster

variable [LinearOrder K] [FloorRing K]

/-- The raster node exits with status zero. -/
def RasterPasses (name : ProfileName) (settings : Settings K) (image : PcdCloud K) : Prop :=
  match invocation.rasterOutcome mapDir name settings (.holds image) with
  | .failed (.thrown _) => False
  | .failed .undefined => (invocation.wreckage name).exitsZero = true
  | .pgmOnly _ _ => False
  | .completed _ _ => invocation.faults.pgm name = none ∧ invocation.faults.yaml name = none

/-- The two files after the raster node has run, however it ends. -/
def rasterFiles (name : ProfileName) (settings : Settings K) (image : PcdCloud K)
    (old : MapFiles) : MapFiles :=
  match invocation.rasterOutcome mapDir name settings (.holds image) with
  | .failed (.thrown _) => old
  | .failed .undefined => (invocation.wreckage name).files
  | .pgmOnly pgm _ => { old with pgm := old.pgm.write (invocation.faults.pgm name) (.holds pgm) }
  | .completed pgm yaml =>
      { pgm := old.pgm.write (invocation.faults.pgm name) (.holds pgm)
        yaml := if invocation.faults.pgm name = none then
            old.yaml.write (invocation.faults.yaml name) (.holds yaml)
          else old.yaml }

/-- The raster node runs with the nav profile. -/
structure AtNav (dir : Directory K) (geometry : Geometry K) (server : Settings K)
    (image : PcdCloud K) (raw nav : Settings K) : Prop
    extends invocation.AtRaw trig mapDir dir geometry server image raw where
  rawPasses : invocation.RasterPasses mapDir .raw (server.assign raw) image
  navProfile : invocation.profiles .nav = some nav

/-- The metadata is written. -/
structure AtMetadata (dir : Directory K) (geometry : Geometry K) (server : Settings K)
    (image : PcdCloud K) (raw nav : Settings K) : Prop
    extends invocation.AtNav trig mapDir dir geometry server image raw nav where
  navPasses : invocation.RasterPasses mapDir .nav ((server.assign raw).assign nav) image

/-! ## Rules -/

/-- The directory once the transform node has saved `image`. -/
def withPublic (dir : Directory K) (image : PcdCloud K) : Directory K :=
  { dir with raw := invocation.archived dir, publicMap := .holds image }

/-- The directory after the raster node has run with the raw profile. -/
def withRaw (dir : Directory K) (image : PcdCloud K) (settings : Settings K) : Directory K :=
  (invocation.withPublic dir image).withMap .raw
    (invocation.rasterFiles mapDir .raw settings image (dir.maps .raw))

/-- The directory after the raster node has run with the nav profile. -/
def withNav (dir : Directory K) (image : PcdCloud K) (rawSettings settings : Settings K) :
    Directory K :=
  (invocation.withRaw mapDir dir image rawSettings).withMap .nav
    (invocation.rasterFiles mapDir .nav settings image (dir.maps .nav))

variable {invocation trig mapDir}

omit [LinearOrder K] [FloorRing K] in
omit [Field K] in
theorem pathIn_ne_empty (mapDir name : String) : pathIn mapDir name ≠ "" := by
  intro empty
  simp [pathIn] at empty

omit [LinearOrder K] [FloorRing K] in
/-- The transform node has both paths and loads the archive. -/
theorem transform_eq {geometry : Geometry K} {params : TransformParameters K}
    (complete : geometry.transformParams mapDir = some params) (file : File (PcdCloud K)) :
    (PcdTransform.ofParameters params).transform trig (file.loads (rawPcd mapDir)) =
      match file.content? with
      | none => .error ("Failed to load PCD: " ++ rawPcd mapDir)
      | some cloud => .ok ((PcdTransform.ofParameters params).transformPointCloud trig cloud) := by
  simp only [Geometry.transformParams, Option.bind_eq_bind, Option.bind_eq_some_iff] at complete
  obtain ⟨x, _, y, _, z, _, rollDeg, _, pitchDeg, _, yawDeg, _, complete⟩ := complete
  cases complete
  cases content : file.content? with
  | none =>
      simp [PcdTransform.transform, PcdTransform.ofParameters, File.loads, content, rawPcd,
        publicPcd, pathIn_ne_empty]
  | some cloud =>
      simp [PcdTransform.transform, PcdTransform.ofParameters, File.loads, content, rawPcd,
        publicPcd, pathIn_ne_empty]

omit [LinearOrder K] [FloorRing K] in
theorem leaves_runTransform {P : Directory K → Prop} {dir : Directory K}
    {geometry : Geometry K} {params : TransformParameters K}
    (complete : geometry.transformParams mapDir = some params)
    (stopped : dir.raw.content? = none → Q dir)
    (saved : ∀ raw image, dir.raw = .holds raw → IsImage trig mapDir geometry raw image →
      invocation.faults.transform ≠ none → Q { dir with
        publicMap := dir.publicMap.write invocation.faults.transform (.holds image) })
    (passed : ∀ raw image, dir.raw = .holds raw → IsImage trig mapDir geometry raw image →
      invocation.faults.transform = none → P { dir with publicMap := .holds image }) :
    Leaves Q P (invocation.runTransform trig mapDir params dir) := by
  unfold runTransform
  rw [transform_eq complete]
  cases loaded : dir.raw.content? with
  | none => exact stopped loaded
  | some raw =>
      have archive := File.content?_eq_some.mp loaded
      have image : IsImage trig mapDir geometry raw _ := ⟨params, complete, rfl⟩
      apply leaves_proceed (saved raw _ archive image)
      intro unharmed
      have after := passed raw _ archive image unharmed
      simpa only [unharmed, File.write_none] using after

theorem leaves_runRaster {P : Directory K → Prop} {dir : Directory K} {name : ProfileName}
    {settings : Settings K} {image : PcdCloud K} (held : dir.publicMap = .holds image)
    (left : ¬invocation.RasterPasses mapDir name settings image → Q (dir.withMap name
      (invocation.rasterFiles mapDir name settings image (dir.maps name))))
    (passed : invocation.RasterPasses mapDir name settings image →
      P (dir.withMap name
        (invocation.rasterFiles mapDir name settings image (dir.maps name)))) :
    Leaves Q P (invocation.runRaster mapDir name settings dir) := by
  unfold runRaster
  unfold rasterFiles at left passed
  unfold RasterPasses at left passed
  rw [held]
  cases outcome : invocation.rasterOutcome mapDir name settings (.holds image) with
  | failed failure =>
      cases failure with
      | thrown what =>
          simp only [outcome, not_false_eq_true, true_implies, Directory.withMap_self] at left
          exact left
      | undefined =>
          simp only [outcome] at left passed
          dsimp only
          split
          next zero => exact passed zero
          next nonzero => exact left nonzero
  | pgmOnly pgm what =>
      simp only [outcome, not_false_eq_true, true_implies] at left
      apply meets_bind.mpr
      apply leaves_proceed fun _ => left
      intro _
      exact left
  | completed pgm yaml =>
      simp only [outcome] at left passed
      apply meets_bind.mpr
      apply leaves_proceed
      · intro fault
        simpa only [fault, if_false, false_and, not_false_eq_true, true_implies] using left
      · intro pgmWritten
        simp only [pgmWritten, if_true, true_and] at left passed
        apply leaves_proceed
        · intro fault
          simpa [pgmWritten] using left fault
        · intro yamlWritten
          simpa [pgmWritten, yamlWritten] using passed yamlWritten

/-- A property holds of the directory that an invocation leaves when it holds before and
after each write that the invocation gets to. -/
theorem leaves_finalize {dir : Directory K} (initial : Q dir)
    (copied : invocation.CopyStarts dir → Q { dir with
      raw := dir.raw.write invocation.faults.copy (invocation.source.file dir) })
    (saved : ∀ geometry server image,
      invocation.AtTransform trig mapDir dir geometry server image → Q { dir with
        raw := invocation.archived dir
        publicMap := dir.publicMap.write invocation.faults.transform (.holds image) })
    (rawMap : ∀ geometry server image raw,
      invocation.AtRaw trig mapDir dir geometry server image raw →
        Q (invocation.withRaw mapDir dir image (server.assign raw)))
    (navMap : ∀ geometry server image raw nav,
      invocation.AtNav trig mapDir dir geometry server image raw nav →
        Q (invocation.withNav mapDir dir image (server.assign raw)
          ((server.assign raw).assign nav)))
    (metadata : ∀ geometry server image raw nav,
      invocation.AtMetadata trig mapDir dir geometry server image raw nav → Q
        { invocation.withNav mapDir dir image (server.assign raw)
            ((server.assign raw).assign nav) with
          metadata := dir.metadata.write invocation.faults.metadata
            (.holds (invocation.record geometry raw nav)) }) :
    Leaves Q Q (invocation.finalize trig mapDir dir) := by
  unfold finalize
  split
  next => exact initial
  next begins =>
    have starts : invocation.faults.setup = false := by simpa using begins
    apply meets_bind.mpr
    apply leaves_archive starts (fun _ => initial) (fun begins _ => copied begins)
    intro copies
    have archived : Q { dir with raw := invocation.archived dir } := by
      unfold Invocation.archived
      split
      next copying =>
        obtain ⟨copyStarts, unharmed⟩ := copies copying
        simpa only [unharmed, File.write_none] using copied copyStarts
      next => exact initial
    apply meets_bind.mpr
    apply leaves_require fun _ => archived
    intro geometry configured
    split
    next => exact archived
    next server online =>
      apply meets_bind.mpr
      apply leaves_require fun _ => archived
      intro params complete
      apply meets_bind.mpr
      have reaches : ∀ raw image, invocation.archived dir = .holds raw →
          IsImage trig mapDir geometry raw image →
          invocation.AtTransform trig mapDir dir geometry server image :=
        fun raw image held transforms =>
          ⟨starts, copies, configured, online, raw, held, transforms⟩
      apply leaves_runTransform complete fun _ => archived
      · intro raw image held transforms _
        exact saved geometry server image (reaches raw image held transforms)
      · intro raw image held transforms unharmed
        have atTransform := reaches raw image held transforms
        have written := saved geometry server image atTransform
        simp only [unharmed, File.write_none] at written
        have saved : Q (invocation.withPublic dir image) := written
        apply meets_bind.mpr
        apply leaves_require fun _ => saved
        intro raw rawProfile
        have atRaw : invocation.AtRaw trig mapDir dir geometry server image raw :=
          ⟨atTransform, unharmed, rawProfile⟩
        have drawn := rawMap geometry server image raw atRaw
        apply meets_bind.mpr
        apply leaves_runRaster rfl fun _ => drawn
        intro rawPasses
        apply meets_bind.mpr
        apply leaves_require fun _ => drawn
        intro nav navProfile
        have atNav : invocation.AtNav trig mapDir dir geometry server image raw nav :=
          ⟨atRaw, rawPasses, navProfile⟩
        have drawnNav := navMap geometry server image raw nav atNav
        apply meets_bind.mpr
        apply leaves_runRaster rfl fun _ => drawnNav
        intro navPasses
        apply leaves_proceed
        · intro _
          exact metadata geometry server image raw nav ⟨atNav, navPasses⟩
        · intro _
          exact metadata geometry server image raw nav ⟨atNav, navPasses⟩

/-- The same of the directory itself. -/
theorem leaves_iff {dir : Directory K} :
    Q (invocation.leaves trig mapDir dir) ↔
      Leaves Q Q (invocation.finalize trig mapDir dir) := by
  unfold leaves
  cases invocation.finalize trig mapDir dir <;> rfl

/-- The files of a raster run that completes undisturbed. -/
theorem rasterFiles_eq {name : ProfileName} {settings : Settings K} {image : PcdCloud K}
    {pgm : Bytes} {yaml : MapYaml}
    (completed : invocation.rasterOutcome mapDir name settings (.holds image) =
      .completed pgm yaml)
    (passes : invocation.RasterPasses mapDir name settings image) (old : MapFiles) :
    invocation.rasterFiles mapDir name settings image old = ⟨.holds pgm, .holds yaml⟩ := by
  simp only [RasterPasses, completed] at passes
  simp only [rasterFiles, completed, passes, File.write_none, if_true]

/-- No step stops an invocation that gets to the metadata. -/
theorem AtMetadata.leaves_finalize {dir : Directory K} {geometry : Geometry K}
    {server raw nav : Settings K} {image : PcdCloud K}
    (arrives : invocation.AtMetadata trig mapDir dir geometry server image raw nav)
    (recorded : Q
      { invocation.withNav mapDir dir image (server.assign raw)
          ((server.assign raw).assign nav) with
        metadata := dir.metadata.write invocation.faults.metadata
          (.holds (invocation.record geometry raw nav)) }) :
    Leaves Q Q (invocation.finalize trig mapDir dir) := by
  obtain ⟨cloud, held, transforms⟩ := arrives.transforms
  have computed := transforms
  obtain ⟨params, complete, _⟩ := transforms
  unfold finalize
  rw [if_neg (by simp [arrives.starts])]
  apply meets_bind.mpr
  apply leaves_archive arrives.starts (fun fails => absurd arrives.copies fails)
  · intro begins disturbed
    exact absurd (arrives.copies begins.2.1).2 disturbed
  intro _
  apply meets_bind.mpr
  apply leaves_require (by simp [arrives.configured])
  intro found configured
  cases arrives.configured.symm.trans configured
  simp only [arrives.online]
  apply meets_bind.mpr
  apply leaves_require (by simp [complete])
  intro found given
  apply meets_bind.mpr
  apply leaves_runTransform given
  · intro unread
    simp [held, File.content?] at unread
  · intro _ _ _ _ disturbed
    exact absurd arrives.saved disturbed
  intro cloud' image' held' transforms' _
  cases held.symm.trans held'
  cases computed.unique transforms'
  apply meets_bind.mpr
  apply leaves_require (by simp [arrives.rawProfile])
  intro found rawProfile
  cases arrives.rawProfile.symm.trans rawProfile
  apply meets_bind.mpr
  apply leaves_runRaster rfl (fun fails => absurd arrives.rawPasses fails)
  intro _
  apply meets_bind.mpr
  apply leaves_require (by simp [arrives.navProfile])
  intro found navProfile
  cases arrives.navProfile.symm.trans navProfile
  apply meets_bind.mpr
  apply leaves_runRaster rfl (fun fails => absurd arrives.navPasses fails)
  intro _
  exact leaves_proceed (fun _ => recorded) (fun _ => recorded)

/-- An invocation that gets to the metadata leaves the record of its configuration. -/
theorem AtMetadata.leaves_eq {dir : Directory K} {geometry : Geometry K}
    {server raw nav : Settings K} {image : PcdCloud K}
    (arrives : invocation.AtMetadata trig mapDir dir geometry server image raw nav) :
    invocation.leaves trig mapDir dir =
      { invocation.withNav mapDir dir image (server.assign raw)
          ((server.assign raw).assign nav) with
        metadata := dir.metadata.write invocation.faults.metadata
          (.holds (invocation.record geometry raw nav)) } :=
  (leaves_iff (Q := (· = _))).mpr (arrives.leaves_finalize rfl)

end Raster

end Invocation

end ScoutStack
