import Mathlib.Algebra.BigOperators.Group.Finset.Basic
import Mathlib.Algebra.Order.BigOperators.Group.Finset

/-!
# Sums over the parties of a system

Every party is in a state of its own, and a weight counts what the states are
worth.  When one party moves, the sum changes by what its two states differ.
-/

namespace Tally

variable {State : Type*}

def total (parties : Nat) (weight : State → Nat) (states : Nat → State) : Nat :=
  ∑ party ∈ Finset.range parties, weight (states party)

theorem total_update {parties party : Nat} (inside : party < parties)
    (weight : State → Nat) (states : Nat → State) (new : State) :
    total parties weight (Function.update states party new) +
        weight (states party) =
      total parties weight states + weight new := by
  have member : party ∈ Finset.range parties := Finset.mem_range.mpr inside
  have others : ∑ other ∈ (Finset.range parties).erase party,
        weight (Function.update states party new other) =
      ∑ other ∈ (Finset.range parties).erase party, weight (states other) := by
    apply Finset.sum_congr rfl
    intro other otherMember
    rw [Function.update_of_ne (Finset.ne_of_mem_erase otherMember)]
  unfold total
  rw [← Finset.add_sum_erase _ _ member, ← Finset.add_sum_erase _ _ member,
    others, Function.update_self]
  omega

theorem total_update_same {parties party : Nat} (inside : party < parties)
    {weight : State → Nat} {states : Nat → State} {new : State}
    (same : weight new = weight (states party)) :
    total parties weight (Function.update states party new) =
      total parties weight states := by
  have changed := total_update inside weight states new
  omega

theorem total_pos_iff {parties : Nat} {weight : State → Nat}
    {states : Nat → State} :
    0 < total parties weight states ↔
      ∃ party < parties, 0 < weight (states party) := by
  simp only [total, Finset.sum_pos_iff, Finset.mem_range]

theorem total_eq_zero_iff {parties : Nat} {weight : State → Nat}
    {states : Nat → State} :
    total parties weight states = 0 ↔
      ∀ party < parties, weight (states party) = 0 := by
  simp only [total, Finset.sum_eq_zero_iff, Finset.mem_range]

theorem total_congr {parties : Nat} {weight other : State → Nat}
    {states : Nat → State}
    (same : ∀ party < parties,
      weight (states party) = other (states party)) :
    total parties weight states = total parties other states :=
  Finset.sum_congr rfl
    (fun party member => same party (Finset.mem_range.mp member))

theorem total_le {parties : Nat} {weight other : State → Nat}
    {states : Nat → State}
    (below : ∀ party < parties,
      weight (states party) ≤ other (states party)) :
    total parties weight states ≤ total parties other states :=
  Finset.sum_le_sum
    (fun party member => below party (Finset.mem_range.mp member))

end Tally
