import Mathlib.Algebra.BigOperators.Group.List.Basic
import Mathlib.Algebra.CharZero.Defs
import Mathlib.Algebra.Field.Defs
import Mathlib.Algebra.GroupWithZero.Basic
import Mathlib.Data.List.Rotate
import Mathlib.Data.Nat.Cast.Basic
import Mathlib.Data.Nat.ModEq
import Mathlib.Logic.Function.Iterate

/-!
# Cursors that go round

A cursor in an index type of `bound` values is advanced before every read and
goes back to zero behind the last item.  The test for the last item adds one
to the index and wraps with it, so a list that fills the type but for one
value is left at its end.
-/

namespace CyclicCursor

/-- Advance an index over a list of `size` items. -/
def advance (bound size index : Nat) : Nat :=
  let next := (index + 1) % bound
  if size < (next + 1) % bound then 0 else next

/-- The index after so many steps from zero. -/
def position (bound size steps : Nat) : Nat :=
  (advance bound size)^[steps] 0

variable {bound size index : Nat}

theorem position_succ (steps : Nat) :
    position bound size (steps + 1) =
      advance bound size (position bound size steps) :=
  Function.iterate_succ_apply' _ _ _

theorem advance_inside (inside : index + 1 < size) (small : index + 1 < bound) :
    advance bound size index = index + 1 := by
  have next : (index + 1) % bound = index + 1 := Nat.mod_eq_of_lt small
  have after : (index + 1 + 1) % bound ≤ index + 1 + 1 := Nat.mod_le _ _
  rw [advance, next]
  apply if_neg
  omega

theorem advance_last (different : size + 1 ≠ bound)
    (last : index + 1 = min size bound) : advance bound size index = 0 := by
  rcases Nat.lt_or_ge size bound with fits | full
  · have atSize : index + 1 = size := by omega
    have next : size % bound = size := Nat.mod_eq_of_lt fits
    have after : (size + 1) % bound = size + 1 := Nat.mod_eq_of_lt (by omega)
    rw [advance, atSize, next, after]
    exact if_pos (Nat.lt_succ_self size)
  · have atBound : index + 1 = bound := by omega
    rw [advance, atBound, Nat.mod_self]
    exact ite_self 0

theorem advance_eq (different : size + 1 ≠ bound)
    (inside : index < min size bound) :
    advance bound size index = (index + 1) % min size bound := by
  rcases Nat.lt_or_ge (index + 1) (min size bound) with before | last
  · rw [Nat.mod_eq_of_lt before]
    exact advance_inside (by omega) (by omega)
  · have atEnd : index + 1 = min size bound := by omega
    rw [atEnd, Nat.mod_self]
    exact advance_last different atEnd

theorem position_eq (nonempty : 0 < size) (indices : 0 < bound)
    (different : size + 1 ≠ bound) (steps : Nat) :
    position bound size steps = steps % min size bound := by
  have positive : 0 < min size bound := by omega
  induction steps with
  | zero => exact (Nat.zero_mod _).symm
  | succ steps induction =>
      have inside : steps % min size bound < min size bound :=
        Nat.mod_lt _ positive
      rw [position_succ, induction, advance_eq different inside,
        Nat.mod_add_mod]

theorem position_lt (nonempty : 0 < size) (indices : 0 < bound)
    (different : size + 1 ≠ bound) (steps : Nat) :
    position bound size steps < size := by
  have positive : 0 < min size bound := by omega
  rw [position_eq nonempty indices different]
  exact lt_of_lt_of_le (Nat.mod_lt _ positive) (Nat.min_le_left _ _)

theorem position_outside (same : size + 1 = bound) :
    position bound size size = size := by
  have walked : ∀ steps, steps ≤ size →
      position bound size steps = steps := by
    intro steps
    induction steps with
    | zero => exact fun _ => rfl
    | succ steps induction =>
        intro inside
        have next : (steps + 1) % bound = steps + 1 :=
          Nat.mod_eq_of_lt (by omega)
        have after : ¬size < (steps + 1 + 1) % bound := by
          have below := Nat.mod_lt (steps + 1 + 1) (show 0 < bound by omega)
          omega
        rw [position_succ, induction (by omega), advance, next, if_neg after]
  exact walked size (Nat.le_refl size)

variable {Item : Type*} {items : Nat → Item} {offset : Nat}

/-- Items that repeat after `offset` steps depend on the step only modulo
`offset`. -/
theorem repeating {sequence : Nat → Item}
    (repeats : ∀ step, sequence (step + offset) = sequence step) (step : Nat) :
    sequence step = sequence (step % offset) := by
  have several : ∀ times,
      sequence (step % offset + offset * times) = sequence (step % offset) := by
    intro times
    induction times with
    | zero => rfl
    | succ times induction =>
        rw [Nat.mul_succ, ← Nat.add_assoc, repeats, induction]
  have whole := several (step / offset)
  rwa [Nat.mod_add_div] at whole

/-- A cursor that is ahead by `offset` reads the same items as one that goes
round all of them exactly when the items repeat after `offset`, also where
there are more items than indices. -/
theorem ahead_iff (divides : offset ∣ bound) (indices : 0 < bound) :
    (∀ step, items ((step + offset) % min size bound) = items (step % size)) ↔
      ∀ step, items ((step + offset) % size) = items (step % size) := by
  rcases Nat.le_total size bound with fits | larger
  · rw [Nat.min_eq_left fits]
  rw [Nat.min_eq_right larger]
  constructor
  · intro reads step
    have indexed : ∀ index, items (index % bound) =
        items ((index + offset) % bound) := by
      intro index
      have inside : index % bound < bound := Nat.mod_lt _ indices
      have read := reads (index % bound)
      rw [Nat.mod_add_mod, Nat.mod_eq_of_lt (lt_of_lt_of_le inside larger)]
        at read
      exact read.symm
    rw [← reads (step + offset), ← reads step, ← indexed (step + offset)]
  · intro repeats step
    have byRemainder := @repeating Item offset (fun step => items (step % size))
      repeats
    have small : (step + offset) % bound % size = (step + offset) % bound := by
      rcases Nat.eq_or_lt_of_le larger with same | more
      · rw [← same, Nat.mod_mod]
      · exact Nat.mod_eq_of_lt (lt_trans (Nat.mod_lt _ indices) more)
    have aheadRemainder := byRemainder ((step + offset) % bound)
    simp only [small, Nat.mod_mod_of_dvd _ divides, Nat.add_mod_right]
      at aheadRemainder
    rw [aheadRemainder]
    exact (byRemainder step).symm

theorem repeats_iff (nonempty : 0 < size) :
    (∀ step, items ((step + offset) % size) = items (step % size)) ↔
      ∀ index, index < size →
        items ((index + offset) % size) = items index := by
  constructor
  · intro repeats index inside
    rw [repeats index, Nat.mod_eq_of_lt inside]
  · intro repeats step
    rw [← repeats (step % size) (Nat.mod_lt _ nonempty), Nat.mod_add_mod]

section Windows

variable {Entry : Type*} {samples outputs : List Entry} {start cycles : Nat}

/-- What is read is what the cursor points to after each advance. -/
def ReadBy (bound : Nat) (samples outputs : List Entry) : Prop :=
  ∀ step, step < outputs.length →
    outputs[step]? = samples[position bound samples.length (step + 1)]?

/-- The `count`-th item read is item `count`, round the list. -/
def InTurn (samples outputs : List Entry) : Prop :=
  ∀ count, 0 < count → count ≤ outputs.length →
    outputs[count - 1]? = samples[count % samples.length]?

theorem ReadBy.inTurn (readBy : ReadBy bound samples outputs)
    (nonempty : 0 < samples.length) (indexable : samples.length < bound)
    (different : samples.length + 1 ≠ bound) : InTurn samples outputs := by
  intro count positive inside
  have read := readBy (count - 1) (by omega)
  rw [Nat.sub_add_cancel positive,
    position_eq nonempty (by omega) different,
    Nat.min_eq_left (Nat.le_of_lt indexable)] at read
  exact read

/-- One item less than indices: what is read ends before the whole list. -/
theorem ReadBy.length_lt (readBy : ReadBy bound samples outputs)
    (nonempty : 0 < samples.length) (same : samples.length + 1 = bound) :
    outputs.length < samples.length := by
  by_contra longer
  have inside : samples.length - 1 < outputs.length := by omega
  have read := readBy (samples.length - 1) inside
  rw [Nat.sub_add_cancel nonempty, position_outside same,
    List.getElem?_eq_getElem inside,
    List.getElem?_eq_none (Nat.le_refl _)] at read
  exact absurd read (by simp)

/-- The cursor and what was read with it. -/
structure Reading (bound : Nat) (samples : List Entry) (index : Nat)
    (outputs : List Entry) : Prop where
  index_eq : index = position bound samples.length outputs.length
  readBy : ReadBy bound samples outputs

theorem Reading.zero (bound : Nat) (samples : List Entry) :
    Reading bound samples 0 [] := by
  refine ⟨rfl, ?_⟩
  intro step inside
  exact absurd inside (Nat.not_lt_zero step)

theorem Reading.next (reading : Reading bound samples index outputs)
    {entry : Entry}
    (read : samples[advance bound samples.length index]? = some entry) :
    Reading bound samples (advance bound samples.length index)
      (outputs ++ [entry]) := by
  have moved : advance bound samples.length index =
      position bound samples.length (outputs.length + 1) := by
    rw [position_succ, ← reading.index_eq]
  refine ⟨?_, ?_⟩
  · rw [moved, List.length_append]
    rfl
  · intro step inside
    rw [List.length_append, List.length_singleton] at inside
    rcases Nat.lt_or_ge step outputs.length with earlier | last
    · rw [List.getElem?_append_left earlier]
      exact reading.readBy step earlier
    · have atEnd : step = outputs.length := by omega
      rw [atEnd, List.getElem?_append_right (Nat.le_refl _), Nat.sub_self,
        ← moved, read]
      rfl

theorem Reading.advance_lt (reading : Reading bound samples index outputs)
    (nonempty : 0 < samples.length) (indices : 0 < bound)
    (different : samples.length + 1 ≠ bound) :
    advance bound samples.length index < samples.length := by
  rw [reading.index_eq, ← position_succ]
  exact position_lt nonempty indices different (outputs.length + 1)

theorem InTurn.window_eq_rotate (inTurn : InTurn samples outputs)
    (inside : start + samples.length ≤ outputs.length) :
    (outputs.drop start).take samples.length = samples.rotate (start + 1) := by
  apply List.ext_getElem?
  intro index
  rcases Nat.lt_or_ge index samples.length with small | large
  · have read := inTurn (start + index + 1) (by omega) (by omega)
    rw [Nat.add_sub_cancel] at read
    rw [List.getElem?_take_of_lt small, List.getElem?_drop, read,
      List.getElem?_rotate small, Nat.add_comm start index, Nat.add_assoc]
  · rw [List.getElem?_eq_none (le_trans (List.length_take_le _ _) large),
      List.getElem?_eq_none (by rw [List.length_rotate]; exact large)]

theorem InTurn.window_perm (inTurn : InTurn samples outputs)
    (inside : start + samples.length ≤ outputs.length) :
    ((outputs.drop start).take samples.length).Perm samples := by
  rw [inTurn.window_eq_rotate inside]
  exact List.rotate_perm samples (start + 1)

theorem InTurn.sum_cycles {Total : Type*} [AddCommMonoid Total]
    (inTurn : InTurn samples outputs) (value : Entry → Total)
    (inside : start + cycles * samples.length ≤ outputs.length) :
    (((outputs.drop start).take (cycles * samples.length)).map value).sum =
      cycles • (samples.map value).sum := by
  induction cycles with
  | zero => simp
  | succ cycles induction =>
      rw [Nat.succ_mul] at inside
      have earlier := induction (by omega)
      have last := (inTurn.window_perm
        (show start + cycles * samples.length + samples.length ≤
          outputs.length by omega)).map value
      rw [Nat.succ_mul, List.take_add, List.map_append, List.sum_append,
        earlier, List.drop_drop, last.sum_eq, succ_nsmul]

/-- The mean of some values. -/
def mean {Quotient : Type*} [DivisionRing Quotient] (values : List Quotient) :
    Quotient :=
  values.sum / values.length

theorem InTurn.mean_cycles {Quotient : Type*} [Field Quotient]
    [CharZero Quotient] (inTurn : InTurn samples outputs)
    (value : Entry → Quotient) (positive : 0 < cycles)
    (inside : start + cycles * samples.length ≤ outputs.length) :
    mean (((outputs.drop start).take (cycles * samples.length)).map value) =
      mean (samples.map value) := by
  have nonzero : (cycles : Quotient) ≠ 0 :=
    Nat.cast_ne_zero.mpr (Nat.ne_of_gt positive)
  have length : ((outputs.drop start).take (cycles * samples.length)).length =
      cycles * samples.length := by
    rw [List.length_take, List.length_drop]
    omega
  rw [mean, mean, inTurn.sum_cycles value inside, List.length_map, length,
    List.length_map, nsmul_eq_mul, Nat.cast_mul]
  exact mul_div_mul_left _ _ nonzero

end Windows

end CyclicCursor
