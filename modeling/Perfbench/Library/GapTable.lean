import Mathlib.Data.List.Basic

/-!
# Tables that are filled out of order

A `GapTable` holds one slot for each position below its length; a slot is
filled or a gap, and the last slot is always filled.  `fill` stores a value in
an existing slot, `extend` stores one at or beyond the end and leaves gaps for
the positions it skips.  The lemmas say what every slot holds afterwards and
how the number of gaps changes.
-/

/-- A table with gaps that ends in a filled slot. -/
structure GapTable (α : Type*) where
  slots : List (Option α)
  lastFilled : ∀ nonempty : slots ≠ [], (slots.getLast nonempty).isSome

namespace GapTable

variable {α : Type*}

@[ext] theorem ext {left right : GapTable α}
    (slots : left.slots = right.slots) : left = right := by
  cases left
  cases right
  simp only at slots
  subst slots
  rfl

def empty : GapTable α :=
  { slots := []
    lastFilled := fun nonempty => absurd rfl nonempty }

def length (table : GapTable α) : Nat := table.slots.length

/-- The value at a position; gaps and positions beyond the end have none. -/
def lookup (table : GapTable α) (position : Nat) : Option α :=
  table.slots[position]?.join

/-- Number of gaps. -/
def gaps (table : GapTable α) : Nat := table.slots.countP Option.isNone

/-- Number of filled slots. -/
def filled (table : GapTable α) : Nat := table.slots.countP Option.isSome

/-- Store a value in an existing slot. -/
def fill (table : GapTable α) (position : Nat) (value : α) : GapTable α :=
  { slots := table.slots.set position (some value)
    lastFilled := fun nonempty => by
      have old : table.slots ≠ [] := by
        intro isEmpty
        simp [isEmpty] at nonempty
      rw [List.getLast_eq_getElem, List.getElem_set]
      split
      · rfl
      · have last := table.lastFilled old
        rw [List.getLast_eq_getElem] at last
        simpa using last }

/-- Store a value at the end, after gaps for the positions skipped. -/
def extend (table : GapTable α) (position : Nat) (value : α) : GapTable α :=
  { slots := table.slots ++
      (List.replicate (position - table.slots.length) none ++ [some value])
    lastFilled := fun nonempty => by simp }

@[simp] theorem length_empty : (empty : GapTable α).length = 0 := rfl

@[simp] theorem lookup_empty (position : Nat) :
    (empty : GapTable α).lookup position = none := by
  simp [lookup, empty]

@[simp] theorem length_fill (table : GapTable α) (position : Nat) (value : α) :
    (table.fill position value).length = table.length := by
  simp [length, fill]

theorem length_extend {table : GapTable α} {position : Nat} (value : α)
    (beyond : table.length ≤ position) :
    (table.extend position value).length = position + 1 := by
  simp only [length] at beyond
  simp only [length, extend, List.length_append, List.length_replicate,
    List.length_cons, List.length_nil]
  omega

theorem lookup_fill {table : GapTable α} {position : Nat} (value : α)
    (inside : position < table.length) (other : Nat) :
    (table.fill position value).lookup other =
      if other = position then some value else table.lookup other := by
  simp only [length] at inside
  by_cases same : other = position
  · subst other
    simp [lookup, fill, inside]
  · have different : position ≠ other := Ne.symm same
    simp [lookup, fill, same, different]

theorem lookup_extend {table : GapTable α} {position : Nat} (value : α)
    (beyond : table.length ≤ position) (other : Nat) :
    (table.extend position value).lookup other =
      if other = position then some value else table.lookup other := by
  simp only [length] at beyond
  simp only [lookup, extend]
  by_cases old : other < table.slots.length
  · have different : other ≠ position := by omega
    rw [List.getElem?_append_left old, if_neg different]
  · have absent : table.slots[other]? = none :=
      List.getElem?_eq_none (by omega)
    rw [List.getElem?_append_right (by omega), absent]
    by_cases skipped : other < position
    · have different : other ≠ position := by omega
      rw [List.getElem?_append_left (by simp; omega), if_neg different,
        List.getElem?_replicate]
      split <;> rfl
    · by_cases same : other = position
      · subst other
        rw [List.getElem?_append_right (by simp), if_pos rfl]
        simp
      · rw [if_neg same, List.getElem?_eq_none (by simp; omega)]

theorem lookup_eq_none_of_length_le {table : GapTable α} {position : Nat}
    (beyond : table.length ≤ position) : table.lookup position = none := by
  simp only [length] at beyond
  simp [lookup, List.getElem?_eq_none beyond]

theorem lt_length_of_lookup {table : GapTable α} {position : Nat} {value : α}
    (found : table.lookup position = some value) :
    position < table.length := by
  by_contra beyond
  rw [lookup_eq_none_of_length_le (by omega)] at found
  exact absurd found (by simp)

theorem lookup_of_mem {table : GapTable α} {value : α}
    (member : some value ∈ table.slots) :
    ∃ position, table.lookup position = some value := by
  obtain ⟨position, inside, equality⟩ := List.getElem_of_mem member
  exact ⟨position, by simp [lookup, inside, equality]⟩

theorem lookup_last {table : GapTable α} {position : Nat}
    (last : table.length = position + 1) :
    ∃ value, table.lookup position = some value := by
  have nonempty : table.slots ≠ [] := by
    intro isEmpty
    simp [length, isEmpty] at last
  have filled := table.lastFilled nonempty
  rw [List.getLast_eq_getElem] at filled
  obtain ⟨value, equality⟩ := Option.isSome_iff_exists.mp filled
  have index : table.slots.length - 1 = position := by
    simp only [length] at last
    omega
  refine ⟨value, ?_⟩
  have inside : position < table.slots.length := by
    simp only [length] at last
    omega
  simp only [index] at equality
  simp [lookup, List.getElem?_eq_getElem inside, equality]

@[simp] theorem gaps_empty : (empty : GapTable α).gaps = 0 := by
  simp [gaps, empty]

theorem gaps_add_filled (table : GapTable α) :
    table.gaps + table.filled = table.length := by
  simp only [gaps, filled, length]
  induction table.slots with
  | nil => rfl
  | cons slot slots induction =>
      cases slot <;> simp <;> omega

theorem gaps_le_length (table : GapTable α) : table.gaps ≤ table.length := by
  have total := table.gaps_add_filled
  omega

theorem gaps_extend (table : GapTable α) (position : Nat) (value : α) :
    (table.extend position value).gaps =
      table.gaps + (position - table.length) := by
  simp [gaps, extend, length, List.countP_append, List.countP_replicate]

theorem gaps_fill_gap {table : GapTable α} {position : Nat} (value : α)
    (inside : position < table.length) (gap : table.lookup position = none) :
    (table.fill position value).gaps + 1 = table.gaps := by
  simp only [length] at inside
  have slot : table.slots[position] = none := by
    simpa [lookup, inside] using gap
  have present : 0 < table.slots.countP Option.isNone := by
    apply List.countP_pos_iff.mpr
    exact ⟨table.slots[position], List.getElem_mem inside, by simp [slot]⟩
  simp only [gaps, fill]
  rw [List.countP_set inside]
  simp only [slot]
  simp
  omega

theorem gaps_fill_filled {table : GapTable α} {position : Nat} {old : α}
    (value : α) (present : table.lookup position = some old) :
    (table.fill position value).gaps = table.gaps := by
  have inside : position < table.slots.length := lt_length_of_lookup present
  have slot : table.slots[position] = some old := by
    simpa [lookup, inside] using present
  simp only [gaps, fill]
  rw [List.countP_set inside]
  simp [slot]

theorem gaps_eq_zero_iff (table : GapTable α) :
    table.gaps = 0 ↔
      ∀ position, position < table.length →
        table.lookup position ≠ none := by
  simp only [gaps, List.countP_eq_zero, length, lookup]
  constructor
  · intro full position inside missing
    have slot : table.slots[position] = none := by
      simpa [inside] using missing
    exact full _ (List.getElem_mem inside) (by simp [slot])
  · intro full slot member isGap
    obtain ⟨position, inside, equality⟩ := List.getElem_of_mem member
    apply full position inside
    have slotNone : table.slots[position] = none := by
      rw [equality]
      simpa using isGap
    simp [inside, slotNone]

end GapTable
