import Mathlib.Data.List.Nodup
import Mathlib.Logic.Function.Basic
import Perfbench.Library.ByteLoop
import Perfbench.Library.History

/-!
# The list indexes of switches

A switch that connects calls the tenants that are registered with it.  Each
appends the switch to its own list and writes the index there to the one
connection of the switch.  The switches do so in threads of their own.
-/

namespace Perfbench

/-- The switches of a testcase, and for each the tenants to call.  A tenant is
registered with a switch once, and no two of its switches have the same id. -/
structure Registration where
  switches : Nat
  swId : Nat → Nat
  listeners : Nat → List Nat
  once : ∀ s, (listeners s).Nodup
  distinct : ∀ t s other, t ∈ listeners s → t ∈ listeners other →
    swId s = swId other → s = other

/-- `PacketInSandwichSingle`: all the tenants are registered with every
switch. -/
def packetInSandwichSingle (tenants numSwitches : Nat) : Registration where
  switches := numSwitches
  swId := id
  listeners := fun _ => List.range tenants
  once := fun _ => List.nodup_range
  distinct := fun _ _ _ _ _ same => same

/-- `PacketInSandwich`: every tenant has switches of its own, numbered from 0
again. -/
def packetInSandwich (tenants numSwitches : Nat) : Registration where
  switches := tenants * numSwitches
  swId := fun s => s % numSwitches
  listeners := fun s => [s / numSwitches]
  once := fun _ => by simp
  distinct := by
    intro t s other registered otherRegistered same
    have quotient : s / numSwitches = other / numSwitches :=
      (List.mem_singleton.mp registered).symm.trans
        (List.mem_singleton.mp otherRegistered)
    rw [← Nat.div_add_mod s numSwitches, quotient, same, Nat.div_add_mod]

/-- Where the thread of a switch is in its `dispatch_event`. -/
inductive SwitchThread where
  | ready
  /-- before the call of the listener with this index, or the end -/
  | appending (k : Nat)
  /-- the tenant has the switch in its list -/
  | reading (k t : Nat)
  /-- the size of the list was read -/
  | writing (k i : Nat)
  | done
  deriving DecidableEq

structure SwitchConns where
  /-- `conn_ids` of the tenants -/
  connIds : Nat → List Nat
  /-- `list_index` of the connections of the switches -/
  listIndex : Nat → Option Nat
  threads : Nat → SwitchThread

namespace SwitchConns

def start : SwitchConns where
  connIds := fun _ => []
  listIndex := fun _ => none
  threads := fun _ => .ready

def threadStep (reg : Registration) (state : SwitchConns) (s : Nat) :
    SwitchThread → SwitchConns
  | .ready =>
      { state with threads := Function.update state.threads s (.appending 0) }
  | .appending k =>
      match (reg.listeners s)[k]? with
      | none =>
          { state with threads := Function.update state.threads s .done }
      | some t =>
          { state with
            connIds := Function.update state.connIds t
              (state.connIds t ++ [reg.swId s])
            threads := Function.update state.threads s (.reading k t) }
  | .reading k t =>
      { state with
        threads := Function.update state.threads s
          (.writing k ((state.connIds t).length - 1)) }
  | .writing k i =>
      { state with
        listIndex := Function.update state.listIndex s (some i)
        threads := Function.update state.threads s
          (.appending (ByteLoop.next k)) }
  | .done => state

/-- The thread of switch `s` makes its next step. -/
def step (reg : Registration) (state : SwitchConns) (s : Nat) : SwitchConns :=
  if s < reg.switches then threadStep reg state s (state.threads s) else state

def run (reg : Registration) (steps : List Nat) : SwitchConns :=
  steps.foldl (step reg) start

theorem run_snoc (reg : Registration) (past : List Nat) (s : Nat) :
    run reg (past ++ [s]) = step reg (run reg past) s := by
  rw [run, List.foldl_append]
  rfl

/-- All the events are handled. -/
def Handled (reg : Registration) (state : SwitchConns) : Prop :=
  ∀ s < reg.switches, state.threads s = .done

instance (reg : Registration) (state : SwitchConns) :
    Decidable (Handled reg state) :=
  inferInstanceAs (Decidable (∀ s < reg.switches, _))

/-- The list index of a switch points to it in the list of each of its tenants,
and no two switches of a tenant have the same. -/
structure Consistent (reg : Registration) (state : SwitchConns) : Prop where
  points : ∀ s < reg.switches, ∀ t ∈ reg.listeners s,
    ∃ i, state.listIndex s = some i ∧
      (state.connIds t)[i]? = some (reg.swId s)
  differ : ∀ s < reg.switches, ∀ other < reg.switches, s ≠ other →
    ∀ t ∈ reg.listeners s, t ∈ reg.listeners other →
      state.listIndex s ≠ state.listIndex other

/-- Where the list of a tenant has the switch. -/
def position (reg : Registration) (state : SwitchConns) (s t : Nat) : Nat :=
  (state.connIds t).idxOf (reg.swId s)

/-- A switch is appended to the list of a tenant at the position that it has
in the list of its first tenant; and when its last tenant reads the size, the
switch is still the last one of the list. -/
def OrderlyAt (reg : Registration) (state : SwitchConns) (s : Nat) :
    SwitchThread → Prop
  | .appending k => 0 < k →
      ∀ first ∈ (reg.listeners s)[0]?, ∀ t ∈ (reg.listeners s)[k]?,
        (state.connIds t).length = position reg state s first
  | .reading k t => k + 1 = (reg.listeners s).length →
      (state.connIds t).getLast? = some (reg.swId s)
  | _ => True

def Orderly (reg : Registration) (state : SwitchConns) (s : Nat) : Prop :=
  OrderlyAt reg state s (state.threads s)

instance (reg : Registration) (state : SwitchConns) (s : Nat) :
    ∀ thread, Decidable (OrderlyAt reg state s thread)
  | .appending _ =>
      inferInstanceAs (Decidable (_ → ∀ _ ∈ _, ∀ _ ∈ _, _))
  | .reading _ _ => inferInstanceAs (Decidable (_ → _))
  | .ready => isTrue trivial
  | .writing _ _ => isTrue trivial
  | .done => isTrue trivial

instance (reg : Registration) (state : SwitchConns) (s : Nat) :
    Decidable (Orderly reg state s) :=
  inferInstanceAs (Decidable (OrderlyAt reg state s _))

def OrderlyRun (reg : Registration) (steps : List Nat) : Prop :=
  History.Admissible
    (fun past s => s < reg.switches → Orderly reg (run reg past) s) steps

instance (reg : Registration) (steps : List Nat) :
    Decidable (OrderlyRun reg steps) :=
  inferInstanceAs (Decidable (History.Admissible _ steps))

/-- How many of its listeners a switch was appended by. -/
def appended (reg : Registration) (s : Nat) : SwitchThread → Nat
  | .ready => 0
  | .appending k => k
  | .reading k _ => k + 1
  | .writing k _ => k + 1
  | .done => (reg.listeners s).length

/-- The indexes of a thread are those of its listeners. -/
def Indexed (reg : Registration) (s : Nat) : SwitchThread → Prop
  | .appending k => k ≤ (reg.listeners s).length
  | .reading k t => (reg.listeners s)[k]? = some t
  | .writing k _ => k < (reg.listeners s).length
  | _ => True

/-- The index of the loop over the listeners does not wrap. -/
def Small (reg : Registration) : Prop :=
  ∀ s < reg.switches, (reg.listeners s).length < 256

structure Sound (reg : Registration) (state : SwitchConns) : Prop where
  indexed : ∀ s < reg.switches, Indexed reg s (state.threads s)
  members : ∀ t id, id ∈ state.connIds t ↔
    ∃ s < reg.switches, ∃ k < appended reg s (state.threads s),
      (reg.listeners s)[k]? = some t ∧ reg.swId s = id
  nodup : ∀ t, (state.connIds t).Nodup

theorem sound_start (reg : Registration) : Sound reg start := by
  constructor
  · exact fun _ _ => trivial
  · intro t id
    refine iff_of_false (by simp [start]) ?_
    rintro ⟨s, _, k, below, _⟩
    exact absurd below (Nat.not_lt_zero k)
  · exact fun _ => List.nodup_nil

/-- Everything that a step of the thread of a switch can do. -/
inductive Moved (reg : Registration) (state : SwitchConns) (s : Nat) :
    SwitchConns → Prop where
  | idle (still : s < reg.switches → state.threads s = .done) :
      Moved reg state s state
  | event (inside : s < reg.switches) (before : state.threads s = .ready) :
      Moved reg state s
        { state with
          threads := Function.update state.threads s (.appending 0) }
  | finished {k : Nat} (inside : s < reg.switches)
      (before : state.threads s = .appending k)
      (index : (reg.listeners s)[k]? = none) :
      Moved reg state s
        { state with threads := Function.update state.threads s .done }
  | append {k t : Nat} (inside : s < reg.switches)
      (before : state.threads s = .appending k)
      (index : (reg.listeners s)[k]? = some t) :
      Moved reg state s
        { state with
          connIds := Function.update state.connIds t
            (state.connIds t ++ [reg.swId s])
          threads := Function.update state.threads s (.reading k t) }
  | read {k t : Nat} (inside : s < reg.switches)
      (before : state.threads s = .reading k t) :
      Moved reg state s
        { state with
          threads := Function.update state.threads s
            (.writing k ((state.connIds t).length - 1)) }
  | written {k i : Nat} (inside : s < reg.switches)
      (before : state.threads s = .writing k i) :
      Moved reg state s
        { state with
          listIndex := Function.update state.listIndex s (some i)
          threads := Function.update state.threads s
            (.appending (ByteLoop.next k)) }

theorem step_moved (reg : Registration) (state : SwitchConns) (s : Nat) :
    Moved reg state s (step reg state s) := by
  by_cases inside : s < reg.switches
  · simp only [step, if_pos inside]
    cases before : state.threads s with
    | ready => exact .event inside before
    | appending k =>
        cases index : (reg.listeners s)[k]? with
        | none =>
            simp only [threadStep, index]
            exact .finished inside before index
        | some t =>
            simp only [threadStep, index]
            exact .append inside before index
    | reading k t => exact .read inside before
    | writing k i => exact .written inside before
    | done => exact .idle (fun _ => before)
  · simp only [step, if_neg inside]
    exact .idle (fun below => absurd below inside)

theorem Sound.thread {reg : Registration} {state next : SwitchConns} {s : Nat}
    {thread : SwitchThread} (sound : Sound reg state)
    (indexed : Indexed reg s thread)
    (same : appended reg s thread = appended reg s (state.threads s))
    (connIds : next.connIds = state.connIds)
    (threads : next.threads = Function.update state.threads s thread) :
    Sound reg next := by
  have appendedSame : ∀ other, appended reg other (next.threads other) =
      appended reg other (state.threads other) := by
    intro other
    by_cases equal : other = s
    · subst equal
      rw [threads, Function.update_self, same]
    · rw [threads, Function.update_of_ne equal]
  constructor
  · intro other inside
    rw [threads]
    by_cases equal : other = s
    · subst equal
      rwa [Function.update_self]
    · rw [Function.update_of_ne equal]
      exact sound.indexed other inside
  · intro t id
    simp only [connIds, sound.members, appendedSame]
  · rw [connIds]
    exact sound.nodup

theorem Sound.notMem {reg : Registration} {state : SwitchConns} {s k t : Nat}
    (sound : Sound reg state) (before : state.threads s = .appending k)
    (index : (reg.listeners s)[k]? = some t) :
    reg.swId s ∉ state.connIds t := by
  intro member
  obtain ⟨other, _, j, below, otherIndex, same⟩ :=
    (sound.members t _).mp member
  have equal : other = s := reg.distinct t other s
    (List.mem_of_getElem? otherIndex) (List.mem_of_getElem? index) same
  subst equal
  rw [before, appended] at below
  have inside : k < (reg.listeners other).length :=
    (List.getElem?_eq_some_iff.mp index).1
  have sameIndex : j = k := (List.getElem?_inj (Nat.lt_trans below inside)
    (reg.once other)).mp (otherIndex.trans index.symm)
  omega

theorem Sound.append {reg : Registration} {state : SwitchConns} {s k t : Nat}
    (sound : Sound reg state) (inside : s < reg.switches)
    (before : state.threads s = .appending k)
    (index : (reg.listeners s)[k]? = some t) :
    Sound reg
      { state with
        connIds := Function.update state.connIds t
          (state.connIds t ++ [reg.swId s])
        threads := Function.update state.threads s (.reading k t) } := by
  have others : ∀ other, other ≠ s →
      Function.update state.threads s (.reading k t) other =
        state.threads other := fun other different =>
    Function.update_of_ne different _ _
  constructor
  · intro other otherInside
    by_cases equal : other = s
    · subst equal
      simpa [Indexed] using index
    · simpa [others other equal] using sound.indexed other otherInside
  · intro u id
    have earlier : id ∈ Function.update state.connIds t
        (state.connIds t ++ [reg.swId s]) u ↔
        id ∈ state.connIds u ∨ u = t ∧ id = reg.swId s := by
      by_cases equal : u = t
      · subst equal
        simp
      · simp [equal]
    rw [earlier, sound.members]
    constructor
    · rintro (⟨other, otherInside, j, below, otherIndex, same⟩ | ⟨rfl, rfl⟩)
      · refine ⟨other, otherInside, j, ?_, otherIndex, same⟩
        by_cases equal : other = s
        · subst equal
          rw [before, appended] at below
          simp only [Function.update_self, appended]
          omega
        · simpa [others other equal] using below
      · exact ⟨s, inside, k, by simp [appended], index, rfl⟩
    · rintro ⟨other, otherInside, j, below, otherIndex, same⟩
      by_cases equal : other = s
      · subst equal
        simp only [Function.update_self, appended] at below
        rcases Nat.lt_or_eq_of_le (Nat.le_of_lt_succ below) with lower | here
        · exact .inl ⟨other, otherInside, j, by rw [before]; exact lower,
            otherIndex, same⟩
        · rw [here, index, Option.some.injEq] at otherIndex
          exact .inr ⟨otherIndex.symm, same.symm⟩
      · simp only [others other equal] at below
        exact .inl ⟨other, otherInside, j, below, otherIndex, same⟩
  · intro u
    by_cases equal : u = t
    · subst equal
      simp only [Function.update_self]
      rw [← List.concat_eq_append]
      exact (sound.nodup u).concat (sound.notMem before index)
    · simp only [Function.update_of_ne equal]
      exact sound.nodup u

theorem Sound.move {reg : Registration} {state next : SwitchConns} {s : Nat}
    (small : Small reg) (sound : Sound reg state)
    (moved : Moved reg state s next) : Sound reg next := by
  cases moved with
  | idle _ => exact sound
  | event inside before =>
      refine sound.thread (Nat.zero_le _) ?_ rfl rfl
      rw [before]
      rfl
  | @finished k inside before index =>
      refine @Sound.thread reg state _ s .done sound trivial ?_ rfl rfl
      have bound := sound.indexed s inside
      rw [before] at bound ⊢
      exact Nat.le_antisymm (List.getElem?_eq_none_iff.mp index) bound
  | append inside before index => exact sound.append inside before index
  | @read k t inside before =>
      have bound := sound.indexed s inside
      rw [before] at bound
      refine @Sound.thread reg state _ s (.writing k _) sound
        (List.getElem?_eq_some_iff.mp bound).1 ?_ rfl rfl
      rw [before]
      rfl
  | @written k i inside before =>
      have bound := sound.indexed s inside
      rw [before] at bound
      have next : ByteLoop.next k = k + 1 :=
        ByteLoop.next_eq (small s inside) bound
      refine sound.thread ?_ ?_ rfl rfl
      · rw [next]
        exact bound
      · rw [before, next]
        rfl

theorem sound_run {reg : Registration} (small : Small reg)
    (steps : List Nat) : Sound reg (run reg steps) := by
  induction steps using List.reverseRecOn with
  | nil => exact sound_start reg
  | append_singleton past s induction =>
      rw [run_snoc]
      exact induction.move small (step_moved reg _ s)

end SwitchConns

end Perfbench
