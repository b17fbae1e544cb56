import Mathlib.Data.List.Basic

/-!
# Reads of a memory region

A program that fills in a state from a memory region keeps a log of the
offsets it reads.  `Within` says that all of them lie below a limit.
-/

/-- A state with the offsets read so far. -/
structure Traced (σ : Type*) where
  state : σ
  reads : List Nat

namespace Traced

variable {σ : Type*}

/-- The offsets of a field are read. -/
def read (traced : Traced σ) (start width : Nat) : Traced σ :=
  { traced with reads := traced.reads ++ List.range' start width }

/-- A field is read and changes the state. -/
def load (traced : Traced σ) (start width : Nat) (change : σ → σ) : Traced σ :=
  { traced.read start width with state := change traced.state }

/-- The state changes without a read. -/
def set (traced : Traced σ) (change : σ → σ) : Traced σ :=
  { traced with state := change traced.state }

def Within (limit : Nat) (traced : Traced σ) : Prop :=
  ∀ offset ∈ traced.reads, offset < limit

@[simp] theorem read_state (traced : Traced σ) (start width : Nat) :
    (traced.read start width).state = traced.state := rfl

@[simp] theorem load_state (traced : Traced σ) (start width : Nat)
    (change : σ → σ) :
    (traced.load start width change).state = change traced.state := rfl

@[simp] theorem set_state (traced : Traced σ) (change : σ → σ) :
    (traced.set change).state = change traced.state := rfl

variable {limit start width : Nat} {traced : Traced σ}

theorem Within.read (within : traced.Within limit)
    (inside : start + width ≤ limit) :
    (traced.read start width).Within limit := by
  intro offset member
  rcases List.mem_append.mp member with earlier | here
  · exact within offset earlier
  · rw [List.mem_range'_1] at here
    omega

theorem Within.load (within : traced.Within limit) (change : σ → σ)
    (inside : start + width ≤ limit) :
    (traced.load start width change).Within limit :=
  within.read inside

theorem Within.set (within : traced.Within limit) (change : σ → σ) :
    (traced.set change).Within limit := within

end Traced
