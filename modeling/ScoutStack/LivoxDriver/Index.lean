import ScoutStack.Lib.Buffer
import ScoutStack.Lib.Decimal
import ScoutStack.LivoxDriver.Queue

/-!
# The indices of the lidars

`CacheIndex` of `cache_index.cpp` gives each lidar an index, under a key that it prints.
-/

namespace ScoutStack.LivoxDriver

open Decimal

/-- `kLivoxLidarType`. -/
def livoxLidarType : BitVec 8 := 8

/-- `GenerateIndexKey`. -/
def generateIndexKey (lidarType : BitVec 8) (handle : ℕ) : Option Bytes :=
  if lidarType = livoxLidarType then
    some ("livox_lidar_".toList.map ascii ++ printNat handle) else none

/-- `CacheIndex`. -/
structure CacheIndex where
  mapIndex : Bytes → Option ℕ
  indexCache : ℕ → Bool

namespace CacheIndex

/-- `CacheIndex()`. -/
def new : CacheIndex where
  mapIndex _ := none
  indexCache _ := false

variable (cache : CacheIndex) (lidarType : BitVec 8) (handle : ℕ)

/-- `GetIndex`. -/
def getIndex : Option ℕ := (generateIndexKey lidarType handle).bind cache.mapIndex

/-- Give an index to a key. -/
def occupy (key : Bytes) (index : ℕ) : CacheIndex where
  mapIndex := Function.update cache.mapIndex key (some index)
  indexCache := Function.update cache.indexCache index true

/-- Take an index from a key. -/
def vacate (key : Bytes) (index : ℕ) : CacheIndex where
  mapIndex := Function.update cache.mapIndex key none
  indexCache := Function.update cache.indexCache index false

/-- `GetFreeIndex`, with the index that it finds. -/
def getFreeIndex : CacheIndex × Option ℕ :=
  match generateIndexKey lidarType handle with
  | none => (cache, none)
  | some key =>
      match cache.mapIndex key with
      | some index => (cache, some index)
      | none =>
          match (List.range maxSourceLidar).find? fun i => !cache.indexCache i with
          | none => (cache, none)
          | some index => (cache.occupy key index, some index)

/-- `LvxGetIndex`. -/
def lvxGetIndex : CacheIndex × Option ℕ :=
  match cache.getIndex lidarType handle with
  | some index => (cache, some index)
  | none => cache.getFreeIndex lidarType handle

/-- `ResetIndex`. -/
def resetIndex : CacheIndex :=
  match generateIndexKey lidarType handle with
  | none => cache
  | some key =>
      match cache.mapIndex key with
      | none => cache
      | some index => cache.vacate key index

/-- A call that can change the indices. -/
inductive Call where
  | getFreeIndex (lidarType : BitVec 8) (handle : ℕ)
  | lvxGetIndex (lidarType : BitVec 8) (handle : ℕ)
  | resetIndex (lidarType : BitVec 8) (handle : ℕ)

/-- The indices after a call. -/
def step : Call → CacheIndex
  | .getFreeIndex lidarType handle => (cache.getFreeIndex lidarType handle).1
  | .lvxGetIndex lidarType handle => (cache.lvxGetIndex lidarType handle).1
  | .resetIndex lidarType handle => cache.resetIndex lidarType handle

/-! ## An index for each lidar -/

/-- No two keys share an index, those in use are marked, and every key is that of a lidar. -/
structure Sound (cache : CacheIndex) : Prop where
  unique : ∀ key key' index, cache.mapIndex key = some index →
    cache.mapIndex key' = some index → key = key'
  inside : ∀ key index, cache.mapIndex key = some index → index < maxSourceLidar
  marked : ∀ index, cache.indexCache index = true ↔ ∃ key, cache.mapIndex key = some index
  keys : ∀ key index, cache.mapIndex key = some index →
    ∃ handle, generateIndexKey livoxLidarType handle = some key

variable {cache lidarType handle} {key : Bytes} {index : ℕ}

theorem sound_new : Sound new where
  unique key _ index given := by simp [new] at given
  inside key index given := by simp [new] at given
  marked index := by simp [new]
  keys key index given := by simp [new] at given

/-- Keys tell lidars apart. -/
theorem generateIndexKey_injective {handle' : ℕ}
    (same : generateIndexKey livoxLidarType handle = generateIndexKey livoxLidarType handle') :
    handle = handle' := by
  simp only [generateIndexKey, if_true, Option.some.injEq, List.append_cancel_left_eq] at same
  have stop : NoDigit [] := fun byte member => by simp at member
  have read := readNat_printNat handle stop
  rw [same, readNat_printNat handle' stop] at read
  simpa using read.symm

theorem exists_of_generateIndexKey (known : generateIndexKey lidarType handle = some key) :
    ∃ handle, generateIndexKey livoxLidarType handle = some key := by
  rw [generateIndexKey] at known
  split at known
  · exact ⟨handle, by rw [generateIndexKey, if_pos rfl, known]⟩
  · simp at known

theorem Sound.occupy (sound : Sound cache) (unknown : cache.mapIndex key = none)
    (free : cache.indexCache index = false) (room : index < maxSourceLidar)
    (known : ∃ handle, generateIndexKey livoxLidarType handle = some key) :
    Sound (cache.occupy key index) := by
  have unused : ∀ other, cache.mapIndex other ≠ some index := fun other given => by
    have used := (sound.marked index).mpr ⟨other, given⟩
    simp [free] at used
  have either : ∀ other index', (cache.occupy key index).mapIndex other = some index' →
      (other = key ∧ index' = index) ∨ (other ≠ key ∧ cache.mapIndex other = some index') := by
    intro other index' given
    by_cases same : other = key
    · subst same
      exact .inl ⟨rfl, by simpa [CacheIndex.occupy, eq_comm] using given⟩
    · exact .inr ⟨same, by simpa [CacheIndex.occupy, same] using given⟩
  refine ⟨fun key₁ key₂ index' first second => ?_, fun other index' given => ?_, fun index' => ?_,
    fun other index' given => ?_⟩
  · rcases either key₁ index' first with ⟨rfl, rfl⟩ | ⟨_, before₁⟩
    · rcases either key₂ index' second with ⟨rfl, _⟩ | ⟨_, before₂⟩
      · rfl
      · exact absurd before₂ (unused key₂)
    · rcases either key₂ index' second with ⟨rfl, rfl⟩ | ⟨_, before₂⟩
      · exact absurd before₁ (unused key₁)
      · exact sound.unique key₁ key₂ index' before₁ before₂
  · rcases either other index' given with ⟨_, rfl⟩ | ⟨_, before⟩
    · exact room
    · exact sound.inside other index' before
  · by_cases same : index' = index
    · subst same
      simp only [CacheIndex.occupy, Function.update_self, true_iff]
      exact ⟨key, by simp⟩
    · simp only [CacheIndex.occupy, Function.update_of_ne same, sound.marked index']
      refine exists_congr fun other => ?_
      by_cases again : other = key
      · subst again
        simp [unknown, Ne.symm same]
      · rw [Function.update_of_ne again]
  · rcases either other index' given with ⟨rfl, _⟩ | ⟨_, before⟩
    · exact known
    · exact sound.keys other index' before

theorem Sound.getFreeIndex (sound : Sound cache) (lidarType : BitVec 8) (handle : ℕ) :
    Sound (cache.getFreeIndex lidarType handle).1 := by
  rw [CacheIndex.getFreeIndex]
  cases known : generateIndexKey lidarType handle with
  | none => exact sound
  | some key =>
      cases given : cache.mapIndex key with
      | some index => simpa [given] using sound
      | none =>
          cases found : (List.range maxSourceLidar).find? fun i => !cache.indexCache i with
          | none => simpa [given, found] using sound
          | some index =>
              have free : cache.indexCache index = false := by
                simpa using List.find?_some found
              have room := List.mem_range.mp (List.mem_of_find?_eq_some found)
              simpa [given, found] using
                sound.occupy given free room (exists_of_generateIndexKey known)

theorem Sound.lvxGetIndex (sound : Sound cache) (lidarType : BitVec 8) (handle : ℕ) :
    Sound (cache.lvxGetIndex lidarType handle).1 := by
  rw [CacheIndex.lvxGetIndex]
  cases cache.getIndex lidarType handle with
  | some index => exact sound
  | none => exact sound.getFreeIndex lidarType handle

theorem Sound.vacate (sound : Sound cache) (given : cache.mapIndex key = some index) :
    Sound (cache.vacate key index) := by
  have kept : ∀ other index', (cache.vacate key index).mapIndex other = some index' →
      other ≠ key ∧ cache.mapIndex other = some index' := by
    intro other index' still
    by_cases same : other = key
    · simp [CacheIndex.vacate, same] at still
    · exact ⟨same, by simpa [CacheIndex.vacate, same] using still⟩
  refine ⟨fun key₁ key₂ index' first second => ?_, fun other index' still => ?_, fun index' => ?_,
    fun other index' still => ?_⟩
  · exact sound.unique key₁ key₂ index' (kept key₁ index' first).2 (kept key₂ index' second).2
  · exact sound.inside other index' (kept other index' still).2
  · by_cases same : index' = index
    · subst same
      simp only [CacheIndex.vacate, Function.update_self, Bool.false_eq_true, false_iff, not_exists]
      intro other still
      obtain ⟨different, before⟩ := kept other index' still
      exact different (sound.unique other key index' before given)
    · simp only [CacheIndex.vacate, Function.update_of_ne same, sound.marked index']
      refine exists_congr fun other => ?_
      by_cases again : other = key
      · subst again
        simp [given, Ne.symm same]
      · rw [Function.update_of_ne again]
  · exact sound.keys other index' (kept other index' still).2

theorem Sound.resetIndex (sound : Sound cache) (lidarType : BitVec 8) (handle : ℕ) :
    Sound (cache.resetIndex lidarType handle) := by
  rw [CacheIndex.resetIndex]
  cases generateIndexKey lidarType handle with
  | none => exact sound
  | some key =>
      cases given : cache.mapIndex key with
      | none => simpa [given] using sound
      | some index => simpa [given] using sound.vacate given

theorem Sound.step (sound : Sound cache) (call : Call) : Sound (cache.step call) := by
  cases call with
  | getFreeIndex lidarType handle => exact sound.getFreeIndex lidarType handle
  | lvxGetIndex lidarType handle => exact sound.lvxGetIndex lidarType handle
  | resetIndex lidarType handle => exact sound.resetIndex lidarType handle

theorem sound_run (calls : List Call) : Sound (Machine.run step new calls) := by
  have kept : ∀ cache call, Sound cache → True → Sound (step cache call) :=
    fun _ call sound _ => sound.step call
  exact Machine.invariant_run kept sound_new (Machine.throughout_true _ calls)
    (List.prefix_refl calls)

/-! ## An index stays -/

theorem getIndex_livoxLidarType (handle : ℕ) :
    ∃ key, generateIndexKey livoxLidarType handle = some key ∧
      ∀ cache : CacheIndex, cache.getIndex livoxLidarType handle = cache.mapIndex key :=
  ⟨_, if_pos rfl, fun cache => by simp [CacheIndex.getIndex, generateIndexKey]⟩

theorem getFreeIndex_kept (given : cache.mapIndex key = some index) (lidarType : BitVec 8)
    (handle : ℕ) : (cache.getFreeIndex lidarType handle).1.mapIndex key = some index := by
  rw [getFreeIndex]
  cases generateIndexKey lidarType handle with
  | none => exact given
  | some key' =>
      cases other : cache.mapIndex key' with
      | some index' => simpa [other] using given
      | none =>
          have different : key ≠ key' := fun same => by simp [← same, given] at other
          cases (List.range maxSourceLidar).find? fun i => !cache.indexCache i with
          | none => simpa [other] using given
          | some index' => simpa [other, occupy, different] using given

/-- A lidar keeps its index until `ResetIndex` is called for it. -/
theorem getIndex_step {handle : ℕ}
    (given : cache.getIndex livoxLidarType handle = some index) {call : Call}
    (other : call ≠ .resetIndex livoxLidarType handle) :
    (cache.step call).getIndex livoxLidarType handle = some index := by
  obtain ⟨key, known, same⟩ := getIndex_livoxLidarType handle
  rw [same] at given ⊢
  cases call with
  | getFreeIndex lidarType handle' => exact getFreeIndex_kept given lidarType handle'
  | lvxGetIndex lidarType handle' =>
      rw [step, lvxGetIndex]
      cases cache.getIndex lidarType handle' with
      | some index' => exact given
      | none => exact getFreeIndex_kept given lidarType handle'
  | resetIndex lidarType handle' =>
      rw [step, resetIndex]
      cases known' : generateIndexKey lidarType handle' with
      | none => exact given
      | some key' =>
          have different : key ≠ key' := by
            intro again
            have livox : lidarType = livoxLidarType := by
              by_contra unknown
              simp [generateIndexKey, unknown] at known'
            subst livox
            rw [again, ← known'] at known
            exact other (by rw [generateIndexKey_injective known])
          cases given' : cache.mapIndex key' with
          | none => simpa [given'] using given
          | some index' => simpa [given', vacate, different] using given

theorem getIndex_run {handle : ℕ} (given : cache.getIndex livoxLidarType handle = some index)
    {calls : List Call} (others : ∀ call ∈ calls, call ≠ .resetIndex livoxLidarType handle) :
    (Machine.run step cache calls).getIndex livoxLidarType handle = some index := by
  have kept : ∀ (cache : CacheIndex) call, cache.getIndex livoxLidarType handle = some index →
      call ≠ .resetIndex livoxLidarType handle →
      (step cache call).getIndex livoxLidarType handle = some index :=
    fun _ _ given other => getIndex_step given other
  exact Machine.invariant_run kept given
    (Machine.throughout_of_forall_mem (fun call member _ => others call member) cache)
    (List.prefix_refl calls)

/-- Lidars have different indices. -/
theorem Sound.getIndex_unique (sound : Sound cache) {handle handle' : ℕ}
    (given : cache.getIndex livoxLidarType handle = some index)
    (given' : cache.getIndex livoxLidarType handle' = some index) : handle = handle' := by
  obtain ⟨key, known, same⟩ := getIndex_livoxLidarType handle
  obtain ⟨key', known', same'⟩ := getIndex_livoxLidarType handle'
  rw [same] at given
  rw [same'] at given'
  rw [sound.unique key key' index given given', ← known'] at known
  exact generateIndexKey_injective known

/-- After any calls, lidars with an index have different ones, below `kMaxSourceLidar`, which
they keep until they are reset; and `GetFreeIndex` refuses a lidar only when every index is held
by one. -/
theorem indices_apart (calls : List Call) :
    (∀ handle handle' index,
      (Machine.run step new calls).getIndex livoxLidarType handle = some index →
      (Machine.run step new calls).getIndex livoxLidarType handle' = some index →
      handle = handle') ∧
    (∀ handle index, (Machine.run step new calls).getIndex livoxLidarType handle = some index →
      index < maxSourceLidar ∧
      ∀ later, (∀ call ∈ later, call ≠ .resetIndex livoxLidarType handle) →
        (Machine.run step new (calls ++ later)).getIndex livoxLidarType handle = some index) ∧
    (∀ handle, ((Machine.run step new calls).getFreeIndex livoxLidarType handle).2 = none →
      ∀ index < maxSourceLidar,
        ∃ holder, (Machine.run step new calls).getIndex livoxLidarType holder = some index) := by
  have sound := sound_run calls
  refine ⟨fun handle handle' index => sound.getIndex_unique, fun handle index given => ⟨?_, ?_⟩,
    fun handle refused index inside => ?_⟩
  · obtain ⟨key, _, same⟩ := getIndex_livoxLidarType handle
    exact sound.inside key index (same _ ▸ given)
  · intro later others
    rw [Machine.run_append]
    exact getIndex_run given others
  · obtain ⟨key, known, _⟩ := getIndex_livoxLidarType handle
    simp only [getFreeIndex, known] at refused
    cases given : (Machine.run step new calls).mapIndex key with
    | some index' => simp [given] at refused
    | none =>
        cases found : (List.range maxSourceLidar).find?
            fun i => !(Machine.run step new calls).indexCache i with
        | some index' => simp [given, found] at refused
        | none =>
            have used : (Machine.run step new calls).indexCache index = true := by
              simpa using List.find?_eq_none.mp found index (List.mem_range.mpr inside)
            obtain ⟨key', held⟩ := (sound.marked index).mp used
            obtain ⟨holder, known'⟩ := sound.keys key' index held
            exact ⟨holder, by rw [getIndex, known', Option.bind_some, held]⟩

end CacheIndex

end ScoutStack.LivoxDriver
