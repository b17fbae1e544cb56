import Mathlib.Data.List.Basic
import Mathlib.Data.List.Induction

/-!
# Loops with an eight-bit index

`for (uint8_t i = 0; i < size; i++)` ends only when the size fits into the
index; otherwise the index wraps and the loop goes on.  `visited` lists the
indices of its first steps.
-/

namespace ByteLoop

/-- `i++`. -/
def next (i : Nat) : Nat := (i + 1) % 256

theorem next_le (i : Nat) : next i ≤ i + 1 := Nat.mod_le _ _

theorem next_lt (i : Nat) : next i < 256 := Nat.mod_lt _ (by decide)

theorem next_eq {size i : Nat} (small : size < 256) (index : i < size) :
    next i = i + 1 :=
  Nat.mod_eq_of_lt (by omega)

/-- The indices visited from `index` on, in at most `steps` steps. -/
def visited (size : Nat) : (steps : Nat) → (index : Nat) → List Nat
  | 0, _ => []
  | steps + 1, index =>
      if index < size then index :: visited size steps ((index + 1) % 256)
      else []

/-- The items of a list that the loop over it calls up. -/
def items {α : Type*} (list : List α) (steps : Nat) : List α :=
  (visited list.length steps 0).filterMap (fun index => list[index]?)

theorem items_nil {α : Type*} (steps : Nat) :
    items ([] : List α) steps = [] := by
  simp [items]

theorem items_singleton {α : Type*} (item : α) (steps : Nat) :
    items [item] (steps + 1) = [item] := by
  have ended : visited 1 steps (0 + 1) = [] := by
    cases steps with
    | zero => rfl
    | succ steps => simp [visited]
  simp [items, visited, ended]

theorem items_pair {α : Type*} (first second : α) (rest : List α) :
    items (first :: second :: rest) 2 = [first, second] := by
  simp [items, visited]

/-- The indices of the whole loop, if it ends: a loop that is still going
after as many steps as the index has values goes on for ever. -/
def whole (size : Nat) : Option (List Nat) :=
  if (visited size 256 0).length < 256 then some (visited size 256 0) else none

theorem visited_range {size steps index : Nat} (small : size < 256)
    (enough : size ≤ index + steps) :
    visited size steps index = List.range' index (size - index) := by
  induction steps generalizing index with
  | zero =>
      have ended : size - index = 0 := by omega
      rw [ended]
      rfl
  | succ steps induction =>
      rw [visited]
      split
      · rename_i inside
        have next : (index + 1) % 256 = index + 1 :=
          Nat.mod_eq_of_lt (by omega)
        have rest : size - index = size - (index + 1) + 1 := by omega
        rw [next, induction (by omega), rest, List.range'_succ]
      · have ended : size - index = 0 := by omega
        rw [ended]
        rfl

theorem visited_unending {size steps index : Nat} (large : 256 ≤ size)
    (inside : index < 256) : (visited size steps index).length = steps := by
  induction steps generalizing index with
  | zero => rfl
  | succ steps induction =>
      have next : (index + 1) % 256 < 256 := Nat.mod_lt _ (by decide)
      rw [visited, if_pos (by omega), List.length_cons, induction next]

theorem whole_eq (size : Nat) :
    whole size = if size < 256 then some (List.range size) else none := by
  rcases Nat.lt_or_ge size 256 with small | large
  · have indices : visited size 256 0 = List.range size := by
      rw [visited_range small (by omega), List.range_eq_range', Nat.sub_zero]
    rw [whole, indices, List.length_range]
  · have unending : (visited size 256 0).length = 256 :=
      visited_unending large (by decide)
    rw [whole, if_neg (by omega), if_neg (by omega)]

theorem mem_of_mem_items {α : Type*} {list : List α} {steps : Nat} {item : α}
    (member : item ∈ items list steps) : item ∈ list := by
  obtain ⟨index, _, found⟩ := List.mem_filterMap.mp member
  exact List.mem_of_getElem? found

/-- What a body does with the state it finds. -/
inductive Body (σ : Type*) where
  | goOn (state : σ)
  /-- `break` or `return` -/
  | leave (state : σ)

/-- A loop that is over: the indices it visited, whether its body left it, and
the state it left behind. -/
structure Trip (σ : Type*) where
  visited : List Nat
  left : Bool
  state : σ
  deriving DecidableEq

/-- The loop from `index` on; none where it is not over after the given
number of tests. -/
def trip {σ : Type*} (size : Nat) (body : Nat → σ → Body σ) :
    (steps : Nat) → (index : Nat) → (state : σ) → Option (Trip σ)
  | 0, _, _ => none
  | steps + 1, index, state =>
      if index < size then
        match body index state with
        | .goOn state =>
            (trip size body steps (next index) state).map (fun rest =>
              { rest with visited := index :: rest.visited })
        | .leave state => some { visited := [index], left := true, state }
      else some { visited := [], left := false, state }

/-- The loop ends and, unless its body leaves it, visits every index once. -/
def Completes {σ : Type*} (size : Nat) (loop : Nat → Option (Trip σ)) : Prop :=
  ∃ steps trip, loop steps = some trip ∧
    (trip.left = false → trip.visited = List.range size)

theorem trip_of_small {σ : Type*} {size steps index : Nat}
    {body : Nat → σ → Body σ} {state : σ} (small : size < 256)
    (enough : size < index + steps) (inside : index ≤ size) :
    ∃ trip, ByteLoop.trip size body steps index state = some trip ∧
      (trip.left = false →
        trip.visited = List.range' index (size - index)) := by
  induction steps generalizing index state with
  | zero => omega
  | succ steps induction =>
      rw [trip]
      by_cases more : index < size
      · rw [if_pos more]
        cases body index state with
        | leave after => exact ⟨_, rfl, by simp⟩
        | goOn after =>
            have next : next index = index + 1 := next_eq small more
            obtain ⟨rest, ended, indices⟩ :=
              @induction (index + 1) after (by omega) (by omega)
            have remaining : size - index = size - (index + 1) + 1 := by omega
            rw [next]
            refine ⟨{ rest with visited := index :: rest.visited }, ?_, ?_⟩
            · simp only [ended, Option.map_some]
            · intro stayed
              rw [remaining, List.range'_succ, ← indices stayed]
      · have ended : size - index = 0 := by omega
        rw [if_neg more, ended]
        exact ⟨_, rfl, fun _ => rfl⟩

theorem trip_of_large {σ : Type*} {size steps index : Nat}
    {body : Nat → σ → Body σ} {state : σ} (large : 256 ≤ size)
    (inside : index < 256)
    (stays : ∀ index state, ∃ after, body index state = .goOn after) :
    trip size body steps index state = none := by
  induction steps generalizing index state with
  | zero => rfl
  | succ steps induction =>
      obtain ⟨after, going⟩ := stays index state
      rw [trip, if_pos (by omega), going]
      simp only [induction (next_lt index), Option.map_none]

theorem completes_of_small {σ : Type*} {size : Nat} {body : Nat → σ → Body σ}
    {state : σ} (small : size < 256) :
    Completes size (fun steps => trip size body steps 0 state) := by
  obtain ⟨trip, ended, indices⟩ :=
    @trip_of_small σ size (size + 1) 0 body state small (by omega) (by omega)
  refine ⟨size + 1, trip, ended, ?_⟩
  intro stayed
  rw [indices stayed, Nat.sub_zero, List.range_eq_range']

theorem completes_iff {σ : Type*} {size : Nat} {body : Nat → σ → Body σ}
    {state : σ}
    (stays : ∀ index state, ∃ after, body index state = .goOn after) :
    Completes size (fun steps => trip size body steps 0 state) ↔
      size < 256 := by
  constructor
  · rintro ⟨steps, trip, ended, -⟩
    by_contra large
    have unending : ByteLoop.trip size body steps 0 state = none :=
      trip_of_large (by omega) (by decide) stays
    cases unending.symm.trans ended
  · exact completes_of_small

/-- A loop that its body never leaves folds the body over its indices. -/
theorem trip_goOn {σ : Type*} {size steps index : Nat} {act : Nat → σ → σ}
    {state : σ} (small : size < 256) (enough : size < index + steps)
    (inside : index ≤ size) :
    trip size (fun index state => .goOn (act index state)) steps index state =
      some
        { visited := List.range' index (size - index)
          left := false
          state := (List.range' index (size - index)).foldl
            (fun state index => act index state) state } := by
  induction steps generalizing index state with
  | zero => omega
  | succ steps induction =>
      rw [trip]
      by_cases more : index < size
      · have next : next index = index + 1 := next_eq small more
        have remaining : size - index = size - (index + 1) + 1 := by omega
        rw [if_pos more, next, remaining, List.range'_succ]
        simp only [@induction (index + 1) (act index state) (by omega)
          (by omega), Option.map_some, List.foldl_cons]
      · have ended : size - index = 0 := by omega
        rw [if_neg more, ended]
        rfl

/-- The body of a loop over a list acts on the item at the index. -/
def onItem {α σ : Type*} (list : List α) (act : α → σ → σ) (index : Nat)
    (state : σ) : σ :=
  match list[index]? with
  | some item => act item state
  | none => state

theorem foldl_onItem {α σ : Type*} (list : List α) (act : α → σ → σ)
    (state : σ) :
    (List.range list.length).foldl
        (fun state index => onItem list act index state) state =
      list.foldl (fun state item => act item state) state := by
  induction list using List.reverseRecOn with
  | nil => rfl
  | append_singleton list last induction =>
      have earlier : (List.range list.length).foldl
          (fun state index => onItem (list ++ [last]) act index state) state =
            (List.range list.length).foldl
              (fun state index => onItem list act index state) state := by
        apply List.foldl_ext
        intro state index member
        have inside := List.mem_range.mp member
        rw [onItem, onItem, List.getElem?_append_left inside]
      rw [List.length_append, List.length_singleton, List.range_succ,
        List.foldl_append, earlier, induction, List.foldl_append]
      simp [onItem]

theorem getElem?_foldl_modify {α : Type*} (list : List α)
    (act : Nat → α → α) (count index : Nat) :
    ((List.range count).foldl
        (fun list index => list.modify index (act index)) list)[index]? =
      if index < count then list[index]?.map (act index) else list[index]? := by
  induction count with
  | zero => rfl
  | succ count induction =>
      rw [List.range_succ, List.foldl_append, List.foldl_cons, List.foldl_nil,
        List.getElem?_modify, induction]
      by_cases last : count = index
      · subst last
        simp
      · have inside : index < count + 1 ↔ index < count := by omega
        simp [last, inside]

/-- A loop that changes the item at its index changes each item once. -/
theorem foldl_modify {α : Type*} (list : List α) (act : Nat → α → α) :
    (List.range list.length).foldl
        (fun list index => list.modify index (act index)) list =
      list.mapIdx act := by
  apply List.ext_getElem?
  intro index
  rw [getElem?_foldl_modify, List.getElem?_mapIdx]
  by_cases inside : index < list.length
  · rw [if_pos inside]
  · have nothing := List.getElem?_eq_none (Nat.le_of_not_lt inside)
    rw [if_neg inside, nothing, Option.map_none]

/-- Over a list that is short enough a loop acts on its items in order. -/
theorem trip_onItem {α σ : Type*} {list : List α} {act : α → σ → σ}
    {state : σ} (small : list.length < 256) :
    trip list.length (fun index state => .goOn (onItem list act index state))
        (list.length + 1) 0 state =
      some
        { visited := List.range list.length
          left := false
          state := list.foldl (fun state item => act item state) state } := by
  rw [trip_goOn small (by omega) (by omega), Nat.sub_zero,
    ← List.range_eq_range', foldl_onItem]

end ByteLoop
