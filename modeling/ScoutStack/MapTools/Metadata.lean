import Mathlib.Tactic.NormNum
import ScoutStack.Lib.Machine
import ScoutStack.MapTools.Course
import ScoutStack.MapTools.Decode

/-!
# What the metadata describes

The metadata of a map directory is truthful when the files are what their recorded
configuration makes of the archive.  An invocation keeps it so when it finishes by its own
profiles, when it stops before there is any metadata, and when it rewrites what it finds.
-/

namespace ScoutStack

open Decimal

variable {K : Type} [Field K] [LinearOrder K] [FloorRing K]

/-! ## The metadata -/

/-- The two files are what the raster node makes of the public map by the profile alone. -/
def IsRasterisation (mapDir : String) (name : ProfileName) (profile : Settings K)
    (publicMap : PcdCloud K) (pgm : Bytes) (yaml : MapYaml) : Prop :=
  ∃ environment : Environment K,
    environment.loadPCDFile (publicPcd mapDir) = some publicMap ∧
      (PcdToPgm.ofParameters (profile.rasterParameters mapDir name)).generate environment =
        .completed pgm yaml

/-- The files of the directory are those that the record describes. -/
structure Metadata.Describes (record : Metadata K) (trig : Trigonometry K) (mapDir : String)
    (dir : Directory K) : Prop where
  publicMap : ∃ raw image, dir.raw = .holds raw ∧ dir.publicMap = .holds image ∧
    IsImage trig mapDir record.geometrySnapshot raw image
  maps : ∀ name, ∃ image pgm yaml, dir.publicMap = .holds image ∧
    dir.maps name = ⟨.holds pgm, .holds yaml⟩ ∧
    IsRasterisation mapDir name (record.mapGeneration name) image pgm yaml

/-- Whenever the metadata exists, the directory holds what it describes. -/
def Directory.Truthful (trig : Trigonometry K) (mapDir : String) (dir : Directory K) : Prop :=
  dir.metadata.isFile = true →
    ∃ record, dir.metadata = .holds record ∧ record.Describes trig mapDir dir

omit [Field K] [LinearOrder K] [FloorRing K] in
/-- A profile is all that a node reads where the parameter server holds none of the keys that
the profile leaves out. -/
theorem Settings.assign_eq_of_unset {server profile : Settings K}
    (unset : ∀ key, profile key = none → server key = none) :
    server.assign profile = profile := by
  funext key
  cases given : profile key with
  | none => simp [Settings.assign, given, unset key given]
  | some setting => simp [Settings.assign, given]

namespace Invocation

variable (invocation : Invocation K) (trig : Trigonometry K) (mapDir : String)

/-! ## The condition -/

/-- The raster node makes of the public map what it makes of it by the profile alone. -/
def ByProfile (name : ProfileName) (settings profile : Settings K) (image : PcdCloud K) :
    Prop :=
  ∃ pgm yaml,
    invocation.rasterOutcome mapDir name settings (.holds image) = .completed pgm yaml ∧
      invocation.rasterOutcome mapDir name profile (.holds image) = .completed pgm yaml

/-- Every file that the invocation gets to write is left as it was. -/
structure Repeats (dir : Directory K) : Prop where
  raw : invocation.CopyStarts dir →
    dir.raw.write invocation.faults.copy (invocation.source.file dir) = dir.raw
  publicMap : ∀ geometry server image,
    invocation.AtTransform trig mapDir dir geometry server image →
      dir.publicMap.write invocation.faults.transform (.holds image) = dir.publicMap
  rawMap : ∀ geometry server image raw,
    invocation.AtRaw trig mapDir dir geometry server image raw →
      invocation.rasterFiles mapDir .raw (server.assign raw) image (dir.maps .raw) =
        dir.maps .raw
  navMap : ∀ geometry server image raw nav,
    invocation.AtNav trig mapDir dir geometry server image raw nav →
      invocation.rasterFiles mapDir .nav ((server.assign raw).assign nav) image
        (dir.maps .nav) = dir.maps .nav
  metadata : ∀ geometry server image raw nav,
    invocation.AtMetadata trig mapDir dir geometry server image raw nav →
      dir.metadata.write invocation.faults.metadata
        (.holds (invocation.record geometry raw nav)) = dir.metadata

/-- The invocation finishes by its own profiles, stops before there is any metadata, or
repeats what it finds. -/
inductive Sound (dir : Directory K) : Prop where
  | finishes {geometry : Geometry K} {server raw nav : Settings K} {image : PcdCloud K}
      (arrives : invocation.AtMetadata trig mapDir dir geometry server image raw nav)
      (rawMap : invocation.ByProfile mapDir .raw (server.assign raw) raw image)
      (navMap : invocation.ByProfile mapDir .nav ((server.assign raw).assign nav) nav image)
      (opened : invocation.faults.metadata ≠ some .untouched)
      (whole : invocation.faults.metadata ≠ some .torn)
  | unrecorded (absent : dir.metadata.isFile = false)
      (stops : ∀ geometry server image raw nav,
        invocation.AtMetadata trig mapDir dir geometry server image raw nav →
          invocation.faults.metadata = some .untouched)
  | repeats (same : invocation.Repeats trig mapDir dir)

variable {invocation trig mapDir}

/-! ## Sound invocations -/

/-- The archive after a step that leaves the archive as it was. -/
theorem Repeats.archived_eq {dir : Directory K} (same : invocation.Repeats trig mapDir dir)
    (passes : invocation.ArchivePasses dir) : invocation.archived dir = dir.raw := by
  unfold archived
  split
  next copies =>
    obtain ⟨starts, unharmed⟩ := passes copies
    simpa only [unharmed, File.write_none] using same.raw starts
  next => rfl

theorem Repeats.withPublic_eq {dir : Directory K} (same : invocation.Repeats trig mapDir dir)
    {geometry : Geometry K} {server raw : Settings K} {image : PcdCloud K}
    (atRaw : invocation.AtRaw trig mapDir dir geometry server image raw) :
    invocation.withPublic dir image = dir := by
  have archive := same.archived_eq atRaw.copies
  have publicMap := same.publicMap geometry server image atRaw.toAtTransform
  rw [atRaw.saved, File.write_none] at publicMap
  rw [withPublic, archive, publicMap]

theorem Repeats.withRaw_eq {dir : Directory K} (same : invocation.Repeats trig mapDir dir)
    {geometry : Geometry K} {server raw : Settings K} {image : PcdCloud K}
    (atRaw : invocation.AtRaw trig mapDir dir geometry server image raw) :
    invocation.withRaw mapDir dir image (server.assign raw) = dir := by
  rw [withRaw, same.withPublic_eq atRaw, same.rawMap geometry server image raw atRaw,
    Directory.withMap_self]

theorem Repeats.withNav_eq {dir : Directory K} (same : invocation.Repeats trig mapDir dir)
    {geometry : Geometry K} {server raw nav : Settings K} {image : PcdCloud K}
    (atNav : invocation.AtNav trig mapDir dir geometry server image raw nav) :
    invocation.withNav mapDir dir image (server.assign raw) ((server.assign raw).assign nav) =
      dir := by
  rw [withNav, same.withRaw_eq atNav.toAtRaw,
    same.navMap geometry server image raw nav atNav, Directory.withMap_self]

/-- An invocation that repeats what it finds leaves the directory as it was. -/
theorem Repeats.leaves_eq {dir : Directory K} (same : invocation.Repeats trig mapDir dir) :
    invocation.leaves trig mapDir dir = dir := by
  apply (leaves_iff (Q := (· = dir))).mpr
  apply leaves_finalize
  · rfl
  · intro starts
    rw [same.raw starts]
  · intro geometry server image atTransform
    rw [same.archived_eq atTransform.copies, same.publicMap geometry server image atTransform]
  · intro geometry server image raw atRaw
    exact same.withRaw_eq atRaw
  · intro geometry server image raw nav atNav
    exact same.withNav_eq atNav
  · intro geometry server image raw nav atMetadata
    rw [same.withNav_eq atMetadata.toAtNav,
      same.metadata geometry server image raw nav atMetadata]

/-- An invocation that does not write the metadata leaves it as it was. -/
theorem metadata_leaves {dir : Directory K}
    (stops : ∀ geometry server image raw nav,
      invocation.AtMetadata trig mapDir dir geometry server image raw nav →
        invocation.faults.metadata = some .untouched) :
    (invocation.leaves trig mapDir dir).metadata = dir.metadata := by
  apply (leaves_iff (Q := fun left => left.metadata = dir.metadata)).mpr
  apply leaves_finalize
  · rfl
  · intro _
    rfl
  · intro _ _ _ _
    rfl
  · intro _ _ _ _ _
    rfl
  · intro _ _ _ _ _ _
    rfl
  · intro geometry server image raw nav atMetadata
    simp [stops geometry server image raw nav atMetadata]

/-- Without leftover parameters the raster node works by the profile alone. -/
theorem byProfile_of_unset {name : ProfileName} {server profile : Settings K}
    {image : PcdCloud K} (unset : ∀ key, profile key = none → server key = none)
    (completes :
      (invocation.rasterOutcome mapDir name profile (.holds image)).isCompleted = true) :
    invocation.ByProfile mapDir name (server.assign profile) profile image := by
  obtain ⟨pgm, yaml, completed⟩ := Outcome.exists_of_isCompleted completes
  rw [Settings.assign_eq_of_unset unset]
  exact ⟨pgm, yaml, completed, completed⟩

/-- What the files of a run by its own profile are. -/
theorem ByProfile.describes {name : ProfileName} {settings profile : Settings K}
    {image : PcdCloud K} (own : invocation.ByProfile mapDir name settings profile image)
    (passes : invocation.RasterPasses mapDir name settings image) (old : MapFiles) :
    ∃ pgm yaml,
      invocation.rasterFiles mapDir name settings image old = ⟨.holds pgm, .holds yaml⟩ ∧
        IsRasterisation mapDir name profile image pgm yaml := by
  obtain ⟨pgm, yaml, completed, alone⟩ := own
  refine ⟨pgm, yaml, rasterFiles_eq completed passes old, _, ?_, alone⟩
  simp [File.loads, File.content?]

/-- An invocation that finishes by its own profiles leaves a truthful directory. -/
theorem truthful_of_finishes {dir : Directory K} {geometry : Geometry K}
    {server raw nav : Settings K} {image : PcdCloud K}
    (arrives : invocation.AtMetadata trig mapDir dir geometry server image raw nav)
    (rawMap : invocation.ByProfile mapDir .raw (server.assign raw) raw image)
    (navMap : invocation.ByProfile mapDir .nav ((server.assign raw).assign nav) nav image)
    (opened : invocation.faults.metadata ≠ some .untouched)
    (whole : invocation.faults.metadata ≠ some .torn) :
    (invocation.leaves trig mapDir dir).Truthful trig mapDir := by
  rw [arrives.leaves_eq]
  have written : dir.metadata.write invocation.faults.metadata
      (.holds (invocation.record geometry raw nav)) =
        .holds (invocation.record geometry raw nav) := by
    match fault : invocation.faults.metadata with
    | none => rfl
    | some .whole => rfl
    | some .untouched => exact absurd fault opened
    | some .torn => exact absurd fault whole
  obtain ⟨cloud, held, transforms⟩ := arrives.transforms
  obtain ⟨rawPgm, rawYaml, rawFiles, rawDrawn⟩ :=
    rawMap.describes arrives.rawPasses (dir.maps .raw)
  obtain ⟨navPgm, navYaml, navFiles, navDrawn⟩ :=
    navMap.describes arrives.navPasses (dir.maps .nav)
  intro _
  refine ⟨_, written, ?_, ?_⟩
  · exact ⟨cloud, image, held, rfl, transforms⟩
  · intro name
    cases name with
    | raw =>
        refine ⟨image, rawPgm, rawYaml, rfl, ?_, rawDrawn⟩
        have apart : ProfileName.raw ≠ .nav := by simp
        simp only [withNav, Directory.withMap_maps_of_ne _ apart]
        simpa only [withRaw, Directory.withMap_maps_self] using rawFiles
    | nav =>
        refine ⟨image, navPgm, navYaml, rfl, ?_, navDrawn⟩
        simpa only [withNav, Directory.withMap_maps_self] using navFiles

/-- A sound invocation keeps the directory truthful. -/
theorem Sound.truthful {dir : Directory K} (sound : invocation.Sound trig mapDir dir)
    (truthful : dir.Truthful trig mapDir) :
    (invocation.leaves trig mapDir dir).Truthful trig mapDir := by
  cases sound with
  | finishes arrives rawMap navMap opened whole =>
      exact truthful_of_finishes arrives rawMap navMap opened whole
  | unrecorded absent stops =>
      intro present
      rw [metadata_leaves stops, absent] at present
      contradiction
  | repeats same =>
      rw [same.leaves_eq]
      exact truthful

end Invocation

/-- One step of a run of invocations. -/
def Directory.after (trig : Trigonometry K) (mapDir : String) (dir : Directory K)
    (invocation : Invocation K) : Directory K := invocation.leaves trig mapDir dir

/-- The map directory after each invocation of a run of sound invocations describes only
what it holds. -/
theorem metadata_truthful {trig : Trigonometry K}
    {mapDir : String} {start : Directory K} (truthful : start.Truthful trig mapDir)
    {invocations : List (Invocation K)}
    (sound : Machine.Throughout (Directory.after trig mapDir)
      (fun dir invocation => invocation.Sound trig mapDir dir) start invocations)
    {front : List (Invocation K)} (reached : front <+: invocations) :
    (Machine.run (Directory.after trig mapDir) start front).Truthful trig mapDir := by
  apply Machine.invariant_run _ truthful sound reached
  intro dir invocation holds condition
  exact condition.truthful holds

/-! ## A run -/

/-- Cosine and sine of the angle zero. -/
def zeroTurn : Trigonometry ℚ := ⟨fun _ => 1, fun _ => 0, 22 / 7⟩

/-- A level sensor in front of and over the base. -/
def levelGeometry : Geometry ℚ where
  x := some (.number (.finite (1 / 4)))
  y := some (.number (.finite 0))
  z := some (.number (.finite (1 / 5)))
  rollDeg := some (.number (.finite 0))
  pitchDeg := some (.number (.finite 0))
  yawDeg := some (.number (.finite 0))

/-- Cells of a metre, and else the defaults. -/
def metreProfile : Settings ℚ
  | .resolution => some (.number (.finite 1))
  | _ => none

def hallInvocation : Invocation ℚ where
  mapName := "hall"
  sourcePcd := "/maps/hall/filtered_camera_init.pcd"
  source := .elsewhere (.holds hallCloud)
  replaceRaw := false
  geometry := some levelGeometry
  profiles := fun _ => some metreProfile
  master := none
  machines := fun _ => granting hallCloud
  wreckage := fun _ => ⟨⟨.absent, .absent⟩, false⟩
  createdAt := "2026-01-01T08:00:00"
  faults := {}

/-- The hall in the map frame. -/
def hallImage : PcdCloud ℚ where
  points := [some ⟨1 / 4, 0, 1 / 5, 0⟩, none, some ⟨13 / 4, 2, 6 / 5, 0⟩]
  size_lt := by decide

omit [Field K] [LinearOrder K] [FloorRing K] in
theorem PcdCloud.eq_of_points {left right : PcdCloud K} (same : left.points = right.points) :
    left = right := by
  cases left
  cases right
  cases same
  rfl

theorem isImage_hallImage : IsImage zeroTurn "/maps/hall" levelGeometry hallCloud hallImage := by
  refine ⟨_, rfl, PcdCloud.eq_of_points ?_⟩
  decide +kernel

theorem unset_empty (key : RasterKey) (_ : metreProfile key = none) :
    (fun _ => none : Settings ℚ) key = none :=
  rfl

theorem assign_empty : Settings.assign (fun _ => none) metreProfile = metreProfile :=
  Settings.assign_eq_of_unset unset_empty

theorem assign_metreProfile : Settings.assign metreProfile metreProfile = metreProfile :=
  Settings.assign_eq_of_unset fun _ unset => unset

theorem completes_hallInvocation (name : ProfileName) :
    (hallInvocation.rasterOutcome "/maps/hall" name metreProfile
      (.holds hallImage)).isCompleted = true := by
  cases name
  · decide +kernel
  · decide +kernel

theorem rasterPasses_hallInvocation (name : ProfileName) :
    hallInvocation.RasterPasses "/maps/hall" name metreProfile hallImage := by
  obtain ⟨pgm, yaml, completed⟩ := Outcome.exists_of_isCompleted (completes_hallInvocation name)
  simp only [Invocation.RasterPasses, completed]
  exact ⟨rfl, rfl⟩

/-- The first invocation in an empty directory gets to the metadata. -/
theorem atMetadata_hallInvocation :
    hallInvocation.AtMetadata zeroTurn "/maps/hall" .empty levelGeometry (fun _ => none)
      hallImage metreProfile metreProfile where
  starts := rfl
  copies := fun _ => ⟨⟨rfl, rfl, rfl, rfl⟩, rfl⟩
  configured := rfl
  online := rfl
  transforms := ⟨hallCloud, rfl, isImage_hallImage⟩
  saved := rfl
  rawProfile := rfl
  rawPasses := by
    rw [assign_empty]
    exact rasterPasses_hallInvocation .raw
  navProfile := rfl
  navPasses := by
    rw [assign_empty, assign_metreProfile]
    exact rasterPasses_hallInvocation .nav

theorem sound_hallInvocation : hallInvocation.Sound zeroTurn "/maps/hall" .empty := by
  apply Invocation.Sound.finishes atMetadata_hallInvocation
  · exact Invocation.byProfile_of_unset unset_empty (completes_hallInvocation .raw)
  · rw [assign_empty]
    exact Invocation.byProfile_of_unset (fun _ unset => unset) (completes_hallInvocation .nav)
  · simp [hallInvocation]
  · simp [hallInvocation]

/-- A second invocation without its source. -/
def missingSource : Invocation ℚ :=
  { hallInvocation with replaceRaw := true, source := .elsewhere .absent }

/-- An invocation without its source stops at the archive. -/
theorem repeats_missingSource (dir : Directory ℚ) :
    missingSource.Repeats zeroTurn "/maps/hall" dir := by
  have blocked : ¬missingSource.ArchivePasses dir := by
    intro passes
    have copies : missingSource.copies dir = true := by simp [Invocation.copies, missingSource]
    exact absurd (passes copies).1.2.2.1 (by simp [missingSource, Source.file, File.isFile])
  constructor
  · intro starts
    exact absurd starts.2.2.1 (by simp [missingSource, Source.file, File.isFile])
  · intro _ _ _ atTransform
    exact absurd atTransform.copies blocked
  · intro _ _ _ _ atRaw
    exact absurd atRaw.copies blocked
  · intro _ _ _ _ _ atNav
    exact absurd atNav.copies blocked
  · intro _ _ _ _ _ atMetadata
    exact absurd atMetadata.copies blocked

theorem truthful_empty : (Directory.empty : Directory ℚ).Truthful zeroTurn "/maps/hall" := by
  intro present
  simp [Directory.empty, File.isFile] at present

theorem metadata_truthful_hall :
    let left := Machine.run (Directory.after zeroTurn "/maps/hall") .empty
      [hallInvocation, missingSource]
    left.metadata.isFile = true ∧ left.Truthful zeroTurn "/maps/hall" := by
  have sound : Machine.Throughout (Directory.after zeroTurn "/maps/hall")
      (fun dir invocation => invocation.Sound zeroTurn "/maps/hall" dir) .empty
      [hallInvocation, missingSource] :=
    And.intro sound_hallInvocation (And.intro (.repeats (repeats_missingSource _)) trivial)
  constructor
  · rw [Machine.run_cons, Machine.run_cons, Machine.run_nil, Directory.after,
      (repeats_missingSource _).leaves_eq, Directory.after, atMetadata_hallInvocation.leaves_eq]
    rfl
  · exact metadata_truthful truthful_empty sound List.prefix_rfl

/-- A cloud of one point. -/
def pillarCloud : PcdCloud ℚ where
  points := [some ⟨1, 1, 0, 0⟩]
  size_lt := by decide

/-- A second invocation replaces the archive and cannot read the geometry. -/
def brokenGeometry : Invocation ℚ :=
  { hallInvocation with
    replaceRaw := true
    source := .elsewhere (.holds pillarCloud)
    geometry := none }

/-- It stops between the copy and the transform. -/
theorem after_brokenGeometry (dir : Directory ℚ) :
    Directory.after zeroTurn "/maps/hall" dir brokenGeometry =
      { dir with raw := .holds pillarCloud } := by
  have copies : brokenGeometry.copies dir = true := by
    simp [Invocation.copies, brokenGeometry]
  have archived : brokenGeometry.archive dir = .ok { dir with raw := .holds pillarCloud } := by
    rw [Invocation.archive, if_pos copies]
    rfl
  have starts : ¬brokenGeometry.faults.setup = true := by simp [brokenGeometry, hallInvocation]
  rw [Directory.after, Invocation.leaves, Invocation.finalize, if_neg starts, archived]
  rfl

theorem metadata_stale :
    (Directory.empty : Directory ℚ).Truthful zeroTurn "/maps/hall" ∧
      ¬(Machine.run (Directory.after zeroTurn "/maps/hall") .empty
        [hallInvocation, brokenGeometry]).Truthful zeroTurn "/maps/hall" := by
  constructor
  · exact truthful_empty
  · have first : Directory.after zeroTurn "/maps/hall" .empty hallInvocation = _ :=
      atMetadata_hallInvocation.leaves_eq
    rw [Machine.run_cons, Machine.run_cons, Machine.run_nil, after_brokenGeometry, first]
    intro truthful
    obtain ⟨record, recorded, describes⟩ := truthful rfl
    cases recorded
    obtain ⟨raw, image, rawHeld, imageHeld, params, complete, computed⟩ := describes.publicMap
    cases rawHeld
    cases imageHeld
    -- The public map has the three points of the hall, the archive one.
    have points := congrArg (fun cloud => cloud.points.length) computed
    simp [hallImage, PcdTransform.transformPointCloud, pillarCloud] at points

end ScoutStack
