import Mathlib.Algebra.Order.Group.Multiset
import Mathlib.Data.Multiset.Sort
import Mathlib.Order.Lattice

/-!
# The smallest elements of a pool

`Keeps key k pool kept` says that `kept` is a choice of `k` elements of `pool` with the
smallest keys, or all of `pool` where it has no more.  A search that offers the pool piece
by piece keeps the relation whether it inserts, replaces or skips.
-/

namespace Smallest

variable {α κ : Type*} [LinearOrder κ]

/-- The kept elements and the rest, which is empty unless the choice is full. -/
def Keeps (key : α → κ) (k : ℕ) (pool kept : Multiset α) : Prop :=
  ∃ rest, pool = kept + rest ∧ kept.card ≤ k ∧ (kept.card < k → rest = 0) ∧
    ∀ a ∈ kept, ∀ b ∈ rest, key a ≤ key b

variable {key : α → κ} {k : ℕ} {pool kept : Multiset α}

theorem keeps_zero (key : α → κ) (k : ℕ) : Keeps key k 0 0 :=
  ⟨0, rfl, Nat.zero_le k, fun _ => rfl, fun a member => absurd member (Multiset.notMem_zero a)⟩

namespace Keeps

theorem card_le (keeps : Keeps key k pool kept) : kept.card ≤ k := by
  obtain ⟨_, _, bound, _⟩ := keeps
  exact bound

theorem le (keeps : Keeps key k pool kept) : kept ≤ pool := by
  obtain ⟨rest, rfl, _⟩ := keeps
  exact Multiset.le_add_right kept rest

/-- A choice that is not full holds the whole pool. -/
theorem eq_of_card_lt (keeps : Keeps key k pool kept) (room : kept.card < k) : pool = kept := by
  obtain ⟨rest, rfl, _, full, _⟩ := keeps
  rw [full room, add_zero]

theorem card_eq (keeps : Keeps key k pool kept) : kept.card = min k pool.card := by
  rcases lt_or_ge kept.card k with room | full
  · rw [keeps.eq_of_card_lt room, min_eq_right room.le]
  · have bound := keeps.card_le
    have part := Multiset.card_le_card keeps.le
    omega

/-- There is room for one more. -/
theorem insert (keeps : Keeps key k pool kept) (room : kept.card < k) (a : α) :
    Keeps key k (a ::ₘ pool) (a ::ₘ kept) := by
  refine ⟨0, ?_, ?_, fun _ => rfl, fun b _ c member => absurd member (Multiset.notMem_zero c)⟩
  · rw [keeps.eq_of_card_lt room, add_zero]
  · rw [Multiset.card_cons]
    exact room

/-- A full choice passes over elements that are not below any of its own. -/
theorem skip (keeps : Keeps key k pool kept) (full : k ≤ kept.card) {others : Multiset α}
    (above : ∀ b ∈ others, ∀ a ∈ kept, key a ≤ key b) :
    Keeps key k (others + pool) kept := by
  obtain ⟨rest, rfl, bound, _, order⟩ := keeps
  refine ⟨others + rest, ?_, bound, fun room => absurd full (not_le.mpr room), ?_⟩
  · rw [← add_assoc, ← add_assoc, add_comm others kept]
  · intro a member b among
    rcases Multiset.mem_add.mp among with new | old
    · exact above b new a member
    · exact order a member b old

/-- A full choice gives up a largest element for one that is not above it. -/
theorem replace {top : α} (keeps : Keeps key k pool (top ::ₘ kept)) (full : kept.card + 1 = k)
    (largest : ∀ a ∈ kept, key a ≤ key top) {a : α} (below : key a ≤ key top) :
    Keeps key k (a ::ₘ pool) (a ::ₘ kept) := by
  obtain ⟨rest, rfl, _, _, order⟩ := keeps
  refine ⟨top ::ₘ rest, ?_, ?_, ?_, ?_⟩
  · rw [Multiset.cons_add, Multiset.cons_add, Multiset.add_cons]
  · rw [Multiset.card_cons, full]
  · intro room
    rw [Multiset.card_cons, full] at room
    exact absurd room (lt_irrefl k)
  · intro b member c among
    have under : key b ≤ key top := by
      rcases Multiset.mem_cons.mp member with rfl | old
      · exact below
      · exact largest b old
    rcases Multiset.mem_cons.mp among with rfl | other
    · exact under
    · exact under.trans (order top (Multiset.mem_cons_self top kept) c other)

/-- Whatever the choice, its keys are the first `k` of the sorted keys. -/
theorem sort_eq_take (keeps : Keeps key k pool kept) :
    (kept.map key).sort (· ≤ ·) = ((pool.map key).sort (· ≤ ·)).take k := by
  obtain ⟨rest, rfl, bound, room, order⟩ := keeps
  have split : ((kept + rest).map key).sort (· ≤ ·) =
      (kept.map key).sort (· ≤ ·) ++ (rest.map key).sort (· ≤ ·) := by
    apply List.Perm.eq_of_pairwise' (Multiset.pairwise_sort _ _)
    · rw [List.pairwise_append]
      refine ⟨Multiset.pairwise_sort _ _, Multiset.pairwise_sort _ _, ?_⟩
      intro x first y second
      obtain ⟨a, member, rfl⟩ := Multiset.mem_map.mp ((Multiset.mem_sort _).mp first)
      obtain ⟨b, among, rfl⟩ := Multiset.mem_map.mp ((Multiset.mem_sort _).mp second)
      exact order a member b among
    · rw [← Multiset.coe_eq_coe, Multiset.sort_eq, ← Multiset.coe_add, Multiset.sort_eq,
        Multiset.sort_eq, Multiset.map_add]
  have length : ((kept.map key).sort (· ≤ ·)).length = kept.card := by
    rw [Multiset.length_sort, Multiset.card_map]
  rw [split]
  rcases lt_or_eq_of_le bound with under | full
  · rw [room under, Multiset.map_zero, Multiset.sort_zero, List.append_nil, List.take_of_length_le]
    rw [length]
    exact bound
  · rw [← full, ← length, List.take_left]

end Keeps

end Smallest
