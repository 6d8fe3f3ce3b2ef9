import Mathlib.Data.List.AList
import Mathlib.Data.Multiset.Basic
import Mathlib.Algebra.BigOperators.Group.List.Basic
import Mathlib.Algebra.Ring.Nat
import Mathlib.Data.Finset.Card

/-!
# Hash tables

The contents of a `std::unordered_map` as an association list with distinct
keys.  Lookup, insertion and erasure are those of `AList`.  This module adds
the walks over a whole table: the erasing pass, the collecting pass and the
total of a weight.

Iteration order is not observable, so a pass is characterised by the lookup
function alone and its result is compared up to permutation.
-/

/-- A table from keys to values; each key occurs at most once. -/
abbrev Table (κ α : Type*) := AList fun _ : κ => α

namespace Table

variable {κ α β γ : Type*}

/-- Number of entries. -/
def size (table : Table κ α) : ℕ := table.entries.length

/-- Walk the table and erase every entry that meets the test. -/
def eraseIf (table : Table κ α) (test : κ → α → Bool) : Table κ α where
  entries := table.entries.filter fun entry => !test entry.1 entry.2
  nodupKeys := table.nodupKeys.sublist List.filter_sublist

/-- Walk the table and collect what the entries emit. -/
def collect (table : Table κ α) (emit : κ → α → Option β) : List β :=
  table.entries.filterMap fun entry => emit entry.1 entry.2

/-- Sum of a weight over all entries. -/
def total (table : Table κ α) (weight : κ → α → ℕ) : ℕ :=
  (table.entries.map fun entry => weight entry.1 entry.2).sum

@[simp] theorem size_empty : size (∅ : Table κ α) = 0 := rfl

@[simp] theorem eraseIf_empty (test : κ → α → Bool) :
    eraseIf (∅ : Table κ α) test = ∅ := rfl

@[simp] theorem collect_empty (emit : κ → α → Option β) :
    collect (∅ : Table κ α) emit = [] := rfl

@[simp] theorem total_empty (weight : κ → α → ℕ) :
    total (∅ : Table κ α) weight = 0 := rfl

/-- The emitted entries as a table of their own. -/
private def emitted (table : Table κ α) (emit : κ → α → Option β) : Table κ β where
  entries := table.entries.filterMap fun entry =>
    (emit entry.1 entry.2).map (Sigma.mk entry.1)
  nodupKeys := by
    have distinct := table.nodupKeys
    rw [List.nodupKeys_iff_pairwise] at distinct ⊢
    refine distinct.filterMap _ ?_
    intro left right keysDiffer leftImage leftMember rightImage rightMember
    simp only [Option.map_eq_some_iff] at leftMember rightMember
    obtain ⟨_, _, rfl⟩ := leftMember
    obtain ⟨_, _, rfl⟩ := rightMember
    exact keysDiffer

private theorem collect_eq_map_emitted (table : Table κ α) (emit : κ → α → Option β) :
    table.collect emit = (emitted table emit).entries.map fun entry => entry.2 := by
  simp only [collect, emitted, List.map_filterMap, Option.map_map, Function.comp_def,
    Option.map_id']

variable [DecidableEq κ]

/-- Two tables with the same lookup function hold the same entries. -/
theorem entries_perm_of_lookup_eq {left right : Table κ α}
    (lookups : ∀ key, left.lookup key = right.lookup key) :
    left.entries.Perm right.entries := by
  refine List.lookup_ext left.nodupKeys right.nodupKeys ?_
  intro key value
  have agree := lookups key
  simp only [AList.lookup] at agree
  rw [agree]

/-! ## The erasing pass -/

theorem mem_entries_iff {table : Table κ α} {key : κ} {value : α} :
    (⟨key, value⟩ : Sigma fun _ : κ => α) ∈ table.entries ↔
      table.lookup key = some value := by
  rw [← AList.mem_lookup_iff, Option.mem_def]

@[simp] theorem lookup_eraseIf (table : Table κ α) (test : κ → α → Bool) (key : κ) :
    (table.eraseIf test).lookup key =
      (table.lookup key).filter fun value => !test key value := by
  ext value
  rw [← mem_entries_iff]
  simp only [eraseIf, List.mem_filter, mem_entries_iff, Option.filter_eq_some_iff]

/-! ## The collecting pass -/

theorem mem_collect {table : Table κ α} {emit : κ → α → Option β} {item : β} :
    item ∈ table.collect emit ↔
      ∃ key value, table.lookup key = some value ∧ emit key value = some item := by
  simp only [collect, List.mem_filterMap, Sigma.exists, mem_entries_iff]

private theorem lookup_emitted (table : Table κ α) (emit : κ → α → Option β) (key : κ) :
    (emitted table emit).lookup key = (table.lookup key).bind (emit key) := by
  ext item
  rw [← mem_entries_iff]
  simp only [emitted, List.mem_filterMap, Sigma.exists, mem_entries_iff,
    Option.map_eq_some_iff, Option.bind_eq_some_iff]
  constructor
  · rintro ⟨_, value, found, _, emits, equal⟩
    cases equal
    exact ⟨value, found, emits⟩
  · rintro ⟨value, found, emits⟩
    exact ⟨key, value, found, item, emits, rfl⟩

/-- What a pass collects depends only on what each key emits: two tables, even
of different value types, whose keys emit the same items yield the same items
up to order. -/
theorem collect_perm {left : Table κ α} {right : Table κ β}
    {emitLeft : κ → α → Option γ} {emitRight : κ → β → Option γ}
    (agree : ∀ key, (left.lookup key).bind (emitLeft key) =
      (right.lookup key).bind (emitRight key)) :
    (left.collect emitLeft).Perm (right.collect emitRight) := by
  rw [collect_eq_map_emitted, collect_eq_map_emitted]
  refine List.Perm.map _ (entries_perm_of_lookup_eq fun key => ?_)
  rw [lookup_emitted, lookup_emitted, agree key]

/-- Items that can tell the key they come from are collected once each. -/
theorem nodup_map_collect {table : Table κ α} {emit : κ → α → Option β} {label : β → κ}
    (own : ∀ key value item, table.lookup key = some value → emit key value = some item →
      label item = key) :
    ((table.collect emit).map label).Nodup := by
  have keys : (table.collect emit).map label = (emitted table emit).keys := by
    rw [collect_eq_map_emitted, List.map_map, AList.keys, List.keys]
    apply List.map_congr_left
    intro entry member
    have found : (emitted table emit).lookup entry.1 = some entry.2 := mem_entries_iff.mp member
    rw [lookup_emitted, Option.bind_eq_some_iff] at found
    obtain ⟨value, present, emits⟩ := found
    exact own entry.1 value entry.2 present emits
  rw [keys]
  exact (emitted table emit).nodupKeys

/-- Whether some entry meets a test depends only on whether each key does. -/
theorem any_eq {left : Table κ α} {right : Table κ β} {testLeft : κ → α → Bool}
    {testRight : κ → β → Bool}
    (agree : ∀ key, (left.lookup key).any (testLeft key) =
      (right.lookup key).any (testRight key)) :
    (left.entries.any fun entry => testLeft entry.1 entry.2) =
      right.entries.any fun entry => testRight entry.1 entry.2 := by
  rw [Bool.eq_iff_iff, List.any_eq_true, List.any_eq_true]
  simp only [Sigma.exists, mem_entries_iff]
  apply exists_congr
  intro key
  have same := agree key
  rw [Bool.eq_iff_iff, Option.any_eq_true, Option.any_eq_true] at same
  exact same

/-- Tables with the same keys have the same size. -/
theorem size_eq_of_isSome_eq {left : Table κ α} {right : Table κ β}
    (agree : ∀ key, (left.lookup key).isSome = (right.lookup key).isSome) :
    left.size = right.size := by
  have keysPerm : (left.collect fun key _ => some key).Perm
      (right.collect fun key _ => some key) := by
    refine collect_perm fun key => ?_
    have same := agree key
    cases leftFound : left.lookup key <;> cases rightFound : right.lookup key <;>
      simp_all
  simpa [collect, size] using keysPerm.length_eq

/-! ## Totals -/

private theorem sum_kerase (entries : List (Sigma fun _ : κ => α)) (weight : κ → α → ℕ)
    (key : κ) :
    (entries.map fun entry => weight entry.1 entry.2).sum =
      ((entries.dlookup key).elim 0 (weight key)) +
        ((entries.kerase key).map fun entry => weight entry.1 entry.2).sum := by
  induction entries with
  | nil => rfl
  | cons entry entries ih =>
      obtain ⟨entryKey, value⟩ := entry
      by_cases same : key = entryKey
      · subst same
        have erased : List.kerase key (⟨key, value⟩ :: entries) = entries :=
          List.kerase_cons_eq rfl
        rw [erased]
        simp
      · have kept : List.kerase key (⟨entryKey, value⟩ :: entries) =
            ⟨entryKey, value⟩ :: List.kerase key entries := List.kerase_cons_ne same
        have skipped : List.dlookup key (⟨entryKey, value⟩ :: entries) =
            List.dlookup key entries := List.dlookup_cons_ne _ _ same
        rw [kept, skipped]
        simp only [List.map_cons, List.sum_cons]
        rw [ih]
        omega

/-- An insertion replaces the weight of the old value by that of the new one. -/
theorem total_insert (table : Table κ α) (weight : κ → α → ℕ) (key : κ) (value : α) :
    total (table.insert key value) weight + ((table.lookup key).elim 0 (weight key)) =
      total table weight + weight key value := by
  have split := sum_kerase table.entries weight key
  simp only [total, AList.entries_insert, AList.lookup, List.map_cons, List.sum_cons] at *
  omega

/-- Erasing entries that carry no weight leaves the total unchanged. -/
theorem total_eraseIf (table : Table κ α) (weight : κ → α → ℕ) (test : κ → α → Bool)
    (weightless : ∀ key value, table.lookup key = some value →
      test key value = true → weight key value = 0) :
    total (table.eraseIf test) weight = total table weight := by
  have weightlessEntries : ∀ entry ∈ table.entries,
      test entry.1 entry.2 = true → weight entry.1 entry.2 = 0 := by
    intro entry member
    exact weightless entry.1 entry.2 (mem_entries_iff.mp member)
  simp only [total, eraseIf]
  generalize table.entries = entries at weightlessEntries
  induction entries with
  | nil => rfl
  | cons entry entries ih =>
      have tail := ih fun other member => weightlessEntries other (List.mem_cons_of_mem _ member)
      have head := weightlessEntries entry List.mem_cons_self
      by_cases erased : test entry.1 entry.2 = true
      · simp [erased, head erased, tail]
      · simp [erased, tail]

/-- A total only reads the weights of present entries. -/
theorem total_congr (table : Table κ α) {left right : κ → α → ℕ}
    (agree : ∀ key value, table.lookup key = some value → left key value = right key value) :
    table.total left = table.total right := by
  unfold total
  congr 1
  refine List.map_congr_left fun entry member => ?_
  exact agree entry.1 entry.2 (mem_entries_iff.mp member)

/-! ## Keys -/

/-- The keys of a list that a table does not hold. -/
def newKeys (table : Table κ α) (keys : List κ) : Finset κ :=
  keys.toFinset.filter fun key => key ∉ table

theorem mem_newKeys {table : Table κ α} {keys : List κ} {key : κ} :
    key ∈ table.newKeys keys ↔ key ∈ keys ∧ key ∉ table := by
  rw [newKeys, Finset.mem_filter, List.mem_toFinset]

/-- The first of the listed keys counts unless the table holds it; the others are
counted after it has been inserted. -/
theorem card_newKeys_cons (table : Table κ α) (key : κ) (value : α) (keys : List κ) :
    (table.newKeys (key :: keys)).card =
      (if key ∈ table then 0 else 1) + (newKeys (table.insert key value) keys).card := by
  have later : ∀ other, other ∈ newKeys (table.insert key value) keys ↔
      other ∈ keys ∧ other ≠ key ∧ other ∉ table := by
    intro other
    rw [mem_newKeys, AList.mem_insert, not_or]
  split
  next present =>
    rw [Nat.zero_add]
    congr 1
    ext other
    rw [later, mem_newKeys, List.mem_cons]
    constructor
    · rintro ⟨same | listed, absent⟩
      · rw [same] at absent
        exact absurd present absent
      · refine ⟨listed, ?_, absent⟩
        rintro rfl
        exact absent present
    · rintro ⟨listed, _, absent⟩
      exact ⟨.inr listed, absent⟩
  next absent =>
    have inserted : table.newKeys (key :: keys) =
        insert key (newKeys (table.insert key value) keys) := by
      ext other
      rw [Finset.mem_insert, later, mem_newKeys, List.mem_cons]
      constructor
      · rintro ⟨same | listed, new⟩
        · exact .inl same
        · by_cases same : other = key
          · exact .inl same
          · exact .inr ⟨listed, same, new⟩
      · rintro (rfl | ⟨listed, _, new⟩)
        · exact ⟨.inl rfl, absent⟩
        · exact ⟨.inr listed, new⟩
    rw [inserted, Finset.card_insert_of_notMem (fun member => ((later key).mp member).2.1 rfl),
      Nat.add_comm]

private theorem card_keys (table : Table κ α) : table.keys.toFinset.card = table.size := by
  rw [List.toFinset_card_of_nodup table.keys_nodup]
  exact List.length_map _

private theorem card_keys_union (table : Table κ α) (keys : List κ) :
    (table.keys.toFinset ∪ table.newKeys keys).card =
      table.size + (table.newKeys keys).card := by
  rw [Finset.card_union_of_disjoint, card_keys]
  rw [Finset.disjoint_left]
  intro key old new
  exact (mem_newKeys.mp new).2 (AList.mem_keys.mpr (List.mem_toFinset.mp old))

/-- A table that gains at most the listed keys grows by at most the new ones. -/
theorem size_le_add_newKeys {before after : Table κ α} {keys : List κ}
    (gained : ∀ key, key ∈ after → key ∈ before ∨ key ∈ keys) :
    after.size ≤ before.size + (before.newKeys keys).card := by
  rw [← card_keys_union, ← card_keys]
  apply Finset.card_le_card
  intro key member
  have present : key ∈ after := AList.mem_keys.mpr (List.mem_toFinset.mp member)
  by_cases old : key ∈ before
  · exact Finset.mem_union_left _ (List.mem_toFinset.mpr (AList.mem_keys.mp old))
  · have listed := (gained key present).resolve_left old
    exact Finset.mem_union_right _ (mem_newKeys.mpr ⟨listed, old⟩)

/-- A table that holds only listed keys is no longer than the list. -/
theorem size_le_length {table : Table κ α} {keys : List κ}
    (listed : ∀ key, key ∈ table → key ∈ keys) : table.size ≤ keys.length := by
  rw [← card_keys]
  apply (Finset.card_le_card _).trans (List.toFinset_card_le keys)
  intro key member
  exact List.mem_toFinset.mpr (listed key (AList.mem_keys.mpr (List.mem_toFinset.mp member)))

/-- A table that keeps its keys and gains the listed ones grows by the new ones. -/
theorem size_eq_add_newKeys {before after : Table κ α} {keys : List κ}
    (gained : ∀ key, key ∈ after ↔ key ∈ before ∨ key ∈ keys) :
    after.size = before.size + (before.newKeys keys).card := by
  apply Nat.le_antisymm
  · exact size_le_add_newKeys fun key => (gained key).mp
  · rw [← card_keys_union, ← card_keys]
    apply Finset.card_le_card
    intro key member
    rw [List.mem_toFinset, ← AList.mem_keys, gained]
    rcases Finset.mem_union.mp member with old | new
    · exact .inl (AList.mem_keys.mpr (List.mem_toFinset.mp old))
    · exact .inr (mem_newKeys.mp new).1

end Table
