import Mathlib.Data.List.Perm.Subperm

/-!
# Memory that is allocated and released

`new` hands out the next address, `delete` releases one.  An access to
released memory, or to memory that was never handed out, has no result, and
neither has a second `delete`.
-/

structure Arena (α : Type*) where
  cells : List α
  released : List Nat

namespace Arena

variable {α : Type*}

def empty : Arena α where
  cells := []
  released := []

/-- The address of the next allocation. -/
def next (arena : Arena α) : Nat := arena.cells.length

def new (arena : Arena α) (value : α) : Arena α :=
  { arena with cells := arena.cells ++ [value] }

def load (arena : Arena α) (address : Nat) : Option α :=
  if address ∈ arena.released then none else arena.cells[address]?

def delete (arena : Arena α) (address : Nat) : Option (Arena α) :=
  (arena.load address).map (fun _ =>
    { arena with released := address :: arena.released })

/-- Only allocated memory was released, and all of it once. -/
structure WellFormed (arena : Arena α) : Prop where
  allocated : ∀ address ∈ arena.released, address < arena.next
  once : arena.released.Nodup

theorem load_lt_next {arena : Arena α} {address : Nat} {value : α}
    (loaded : arena.load address = some value) : address < arena.next := by
  unfold load at loaded
  split at loaded
  · cases loaded
  · exact (List.getElem?_eq_some_iff.mp loaded).1

theorem load_notReleased {arena : Arena α} {address : Nat} {value : α}
    (loaded : arena.load address = some value) :
    address ∉ arena.released := by
  intro released
  rw [load, if_pos released] at loaded
  cases loaded

theorem load_new {arena : Arena α} {address : Nat}
    (old : address < arena.next) (value : α) :
    (arena.new value).load address = arena.load address := by
  simp only [load, new, List.getElem?_append_left old]

theorem load_new_next {arena : Arena α} (wellFormed : arena.WellFormed)
    (value : α) : (arena.new value).load arena.next = some value := by
  have fresh : arena.next ∉ (arena.new value).released := by
    intro released
    have below := wellFormed.allocated arena.next released
    exact Nat.lt_irrefl _ below
  rw [load, if_neg fresh, new, next, List.getElem?_concat_length]

theorem load_of_released {arena : Arena α} {address : Nat}
    (released : address ∈ arena.released) : arena.load address = none := by
  rw [load, if_pos released]

/-- A successful `delete` releases what could be read. -/
theorem delete_eq_some_iff {arena after : Arena α} {address : Nat} :
    arena.delete address = some after ↔
      (∃ value, arena.load address = some value) ∧
        after = { arena with released := address :: arena.released } := by
  rw [delete, Option.map_eq_some_iff]
  constructor
  · intro deleted
    obtain ⟨value, loaded, result⟩ := deleted
    exact ⟨⟨value, loaded⟩, result.symm⟩
  · intro deleted
    obtain ⟨⟨value, loaded⟩, result⟩ := deleted
    exact ⟨value, loaded, result.symm⟩

theorem delete_of_load {arena : Arena α} {address : Nat} {value : α}
    (loaded : arena.load address = some value) :
    arena.delete address =
      some { arena with released := address :: arena.released } :=
  delete_eq_some_iff.mpr ⟨⟨value, loaded⟩, rfl⟩

theorem load_delete_ne {arena after : Arena α} {address other : Nat}
    (deleted : arena.delete address = some after) (different : other ≠ address) :
    after.load other = arena.load other := by
  obtain ⟨_, rfl⟩ := delete_eq_some_iff.mp deleted
  simp [load, different]

theorem wellFormed_empty : (empty : Arena α).WellFormed := by
  constructor
  · intro address released
    cases released
  · exact List.nodup_nil

theorem WellFormed.new {arena : Arena α} (wellFormed : arena.WellFormed)
    (value : α) : (arena.new value).WellFormed := by
  constructor
  · intro address released
    have below := wellFormed.allocated address released
    simp only [next, Arena.new, List.length_append] at below ⊢
    omega
  · exact wellFormed.once

theorem WellFormed.delete {arena after : Arena α} {address : Nat}
    (wellFormed : arena.WellFormed)
    (deleted : arena.delete address = some after) : after.WellFormed := by
  obtain ⟨⟨value, loaded⟩, rfl⟩ := delete_eq_some_iff.mp deleted
  constructor
  · intro other released
    rcases List.mem_cons.mp released with same | earlier
    · rw [same]
      exact @load_lt_next α arena address value loaded
    · exact wellFormed.allocated other earlier
  · exact List.nodup_cons.mpr ⟨load_notReleased loaded, wellFormed.once⟩

end Arena
