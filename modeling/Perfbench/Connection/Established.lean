import Mathlib.Data.List.Count
import Mathlib.Logic.Function.Basic
import Mathlib.Tactic.ByContra
import Perfbench.Library.ByteLoop
import Perfbench.Library.History

/-!
# New connections and a running send loop

The controller appends a connection to its list first and calls the callback
that sets up the tables of the connection afterwards.  A send loop that is
already running takes every connection that is in the list.
-/

namespace Perfbench

/-- The vectors of the counter with an entry for each connection. -/
inductive Table where
  | requests
  | responses
  | lastResponseXid
  | missingResponses
  | reqXids
  | reqTimes
  | reqBytes
  | reqMsgtypes
  | respXids
  | respTimes
  | respBytes
  | respMsgtypes
  deriving DecidableEq

/-- The tables in the order in which the callback appends to them. -/
def Table.all : List Table :=
  [.requests, .responses, .lastResponseXid, .missingResponses,
    .reqXids, .reqTimes, .reqBytes, .reqMsgtypes,
    .respXids, .respTimes, .respBytes, .respMsgtypes]

/-- The next step of `ctrl_conn_established`. -/
inductive Stage where
  | connId
  | listIndex
  /-- the tables to append to; then the packet is created -/
  | tables (rest : List Table)
  | tenantConnected
  deriving DecidableEq

/-- The connections of a tenant, in the threads of its controller and of its
send loop. -/
structure Tenancy where
  /-- `Controller::conns` -/
  conns : List Nat
  /-- `list_index` of the connections, where it was set -/
  listIndex : Nat → Option Nat
  connIds : List Nat
  /-- the lengths of the tables -/
  length : Table → Nat
  /-- the connection whose callback is under way, and the next step of it -/
  callback : Option (Nat × Stage)
  connected : Bool
  running : Bool
  /-- the index of the send loop over the connections -/
  c : Nat

namespace Tenancy

def start : Tenancy where
  conns := []
  listIndex := fun _ => none
  connIds := []
  length := fun _ => 0
  callback := none
  connected := false
  running := false
  c := 0

inductive Step where
  /-- the handshake of a connection ends -/
  | established (id : Nat)
  /-- the next step of the callback -/
  | callback
  /-- the tenants are connected, and the send loop starts -/
  | allConnected
  /-- the next connection, or the end, of the send loop over them -/
  | sendLoop
  deriving DecidableEq

def callbackStep (state : Tenancy) (id : Nat) : Stage → Tenancy
  | .connId =>
      { state with
        connIds := state.connIds ++ [id]
        callback := some (id, .listIndex) }
  | .listIndex =>
      { state with
        listIndex := Function.update state.listIndex id
          (some (state.connIds.length - 1))
        callback := some (id, .tables Table.all) }
  | .tables (table :: rest) =>
      { state with
        length := Function.update state.length table (state.length table + 1)
        callback := some (id, .tables rest) }
  | .tables [] => { state with callback := some (id, .tenantConnected) }
  | .tenantConnected =>
      { state with
        connected := true
        callback := none }

/-- The controller has one thread, so that one callback follows the other. -/
def step (state : Tenancy) : Step → Tenancy
  | .established id =>
      match state.callback with
      | none =>
          { state with
            conns := state.conns ++ [id]
            callback := some (id, .connId) }
      | some _ => state
  | .callback =>
      match state.callback with
      | none => state
      | some (id, stage) => callbackStep state id stage
  | .allConnected =>
      if state.connected then { state with running := true } else state
  | .sendLoop =>
      if state.running then
        if state.c < state.conns.length then
          { state with c := ByteLoop.next state.c }
        else { state with c := 0 }
      else state

def run (steps : List Step) : Tenancy := steps.foldl step start

theorem run_snoc (past : List Step) (next : Step) :
    run (past ++ [next]) = step (run past) next := by
  rw [run, List.foldl_append]
  rfl

/-- The connection that a step of the send loop takes. -/
def taken (state : Tenancy) : Step → Option Nat
  | .sendLoop => if state.running then state.conns[state.c]? else none
  | _ => none

/-- `list_index` is set, and all the tables have an entry for it. -/
def Ready (state : Tenancy) (id : Nat) : Prop :=
  ∃ i, state.listIndex id = some i ∧ ∀ table, i < state.length table

/-- Every connection that the send loop takes is ready. -/
def ReadyRun (steps : List Step) : Prop :=
  History.Admissible
    (fun past next => ∀ id, taken (run past) next = some id →
      Ready (run past) id)
    steps

/-- The callback of the connection, which is new, has not set its index; or it
has not appended to all the tables. -/
def Unfinished (state : Tenancy) (id : Nat) : Prop :=
  (state.callback = some (id, .connId) ∨
      state.callback = some (id, .listIndex)) ∧ state.conns.count id = 1 ∨
    ∃ table rest, state.callback = some (id, .tables (table :: rest))

def FinishedRun (steps : List Step) : Prop :=
  History.Admissible
    (fun past next => ∀ id, taken (run past) next = some id →
      ¬Unfinished (run past) id)
    steps

/-- The tables that the callback has still to append to. -/
def pending (callback : Option (Nat × Stage)) (table : Table) : Nat :=
  match callback with
  | some (_, .listIndex) => 1
  | some (_, .tables rest) => if table ∈ rest then 1 else 0
  | _ => 0

/-- Whether the callback of a connection has still to set its index. -/
def Entering (state : Tenancy) (id : Nat) : Prop :=
  state.callback = some (id, .connId) ∨ state.callback = some (id, .listIndex)

/-- Whether the callback of a connection has set its index. -/
def Indexed (state : Tenancy) (id : Nat) : Prop :=
  (∃ rest, state.callback = some (id, .tables rest)) ∨
    state.callback = some (id, .tenantConnected)

structure Sound (state : Tenancy) : Prop where
  lengths : ∀ table,
    state.length table + pending state.callback table = state.connIds.length
  order : ∀ id rest, state.callback = some (id, .tables rest) → rest.Nodup
  unset : ∀ id, id ∉ state.conns → state.listIndex id = none
  member : ∀ id stage, state.callback = some (id, stage) → id ∈ state.conns
  fresh : ∀ id, Entering state id → state.conns.count id = 1 →
    state.listIndex id = none
  indexed : ∀ id, Indexed state id → 0 < state.connIds.length ∧
    state.listIndex id = some (state.connIds.length - 1)
  ready : ∀ id ∈ state.conns,
    ¬Indexed state id → ¬(Entering state id ∧ state.conns.count id = 1) →
      Ready state id

theorem sound_start : Sound start := by
  constructor
  · exact fun _ => rfl
  · rintro id rest equal
    cases equal
  · exact fun _ _ => rfl
  · rintro id stage equal
    cases equal
  · rintro id (equal | equal) <;> cases equal
  · rintro id (⟨rest, equal⟩ | equal) <;> cases equal
  · rintro id member
    cases member

theorem Ready.longer {state next : Tenancy} {id : Nat} (ready : Ready state id)
    (listIndex : next.listIndex id = state.listIndex id)
    (lengths : ∀ table, state.length table ≤ next.length table) :
    Ready next id := by
  obtain ⟨i, index, below⟩ := ready
  exact ⟨i, listIndex.trans index,
    fun table => Nat.lt_of_lt_of_le (below table) (lengths table)⟩

theorem Sound.established {state : Tenancy} (sound : Sound state) (id : Nat)
    (idle : state.callback = none) :
    Sound { state with
      conns := state.conns ++ [id], callback := some (id, .connId) } := by
  constructor
  · intro table
    simpa [pending, idle] using sound.lengths table
  · rintro other rest equal
    cases equal
  · intro other absent
    exact sound.unset other (fun member => absent (by simp [member]))
  · rintro other stage equal
    cases equal
    simp
  · intro other entering once
    have same : id = other := by
      rcases entering with equal | equal
      · cases equal
        rfl
      · cases equal
    subst same
    apply sound.unset id
    rw [← List.count_eq_zero]
    simpa using once
  · rintro other (⟨rest, equal⟩ | equal) <;> cases equal
  · intro other member _ notFresh
    have earlier : other ∈ state.conns := by
      by_contra absent
      rcases List.mem_append.mp member with earlier | new
      · exact absent earlier
      · have same := List.mem_singleton.mp new
        subst same
        refine notFresh ⟨.inl rfl, ?_⟩
        simp [List.count_eq_zero.mpr absent]
    have notEntering : ¬Entering state other := by
      rintro (equal | equal) <;> rw [idle] at equal <;> cases equal
    have notIndexed : ¬Indexed state other := by
      rintro (⟨rest, equal⟩ | equal) <;> rw [idle] at equal <;> cases equal
    have ready := sound.ready other earlier notIndexed
      (fun fresh => notEntering fresh.1)
    exact ready.longer rfl (fun _ => Nat.le_refl _)

/-- What the callback of one connection does leaves the others ready. -/
theorem Sound.others {state : Tenancy} {id other : Nat} {stage : Stage}
    (sound : Sound state) (callback : state.callback = some (id, stage))
    (different : other ≠ id) (member : other ∈ state.conns) :
    Ready state other := by
  apply sound.ready other member
  · rintro (⟨rest, equal⟩ | equal) <;> rw [callback] at equal <;>
      cases equal <;> exact different rfl
  · rintro ⟨equal | equal, _⟩ <;> rw [callback] at equal <;>
      cases equal <;> exact different rfl

theorem Sound.connId {state : Tenancy} {id : Nat} (sound : Sound state)
    (callback : state.callback = some (id, .connId)) :
    Sound (callbackStep state id .connId) := by
  have member := sound.member id _ callback
  constructor
  · intro table
    have length := sound.lengths table
    simp only [pending, callback] at length
    simp [callbackStep, pending, ← length]
  · rintro other rest equal
    cases equal
  · exact sound.unset
  · rintro other stage equal
    cases equal
    exact member
  · intro other entering once
    have same : id = other := by
      rcases entering with equal | equal
      · cases equal
      · cases equal
        rfl
    subst same
    exact sound.fresh id (.inl callback) once
  · rintro other (⟨rest, equal⟩ | equal) <;> cases equal
  · intro other otherMember _ notFresh
    have ready : Ready state other := by
      by_cases same : other = id
      · subst same
        apply sound.ready other otherMember
        · rintro (⟨rest, equal⟩ | equal) <;> rw [callback] at equal <;>
            cases equal
        · exact fun fresh => notFresh ⟨.inr rfl, fresh.2⟩
      · exact sound.others callback same otherMember
    exact ready.longer rfl (fun _ => Nat.le_refl _)

theorem Sound.listIndex {state : Tenancy} {id : Nat} (sound : Sound state)
    (callback : state.callback = some (id, .listIndex)) :
    Sound (callbackStep state id .listIndex) := by
  have member := sound.member id _ callback
  constructor
  · intro table
    have length := sound.lengths table
    have inAll : table ∈ Table.all := by cases table <;> decide
    simp only [pending, callback] at length
    simp [callbackStep, pending, inAll, length]
  · rintro other rest equal
    cases equal
    decide
  · intro other absent
    have different : other ≠ id := fun same => absent (by rwa [same])
    have unset := sound.unset other absent
    simpa [callbackStep, different] using unset
  · rintro other stage equal
    cases equal
    exact member
  · rintro other (equal | equal) <;> cases equal
  · rintro other (⟨rest, equal⟩ | equal)
    · cases equal
      have length := sound.lengths .requests
      simp only [pending, callback] at length
      refine ⟨?_, by simp [callbackStep]⟩
      simp only [callbackStep]
      omega
    · cases equal
  · intro other otherMember notIndexed _
    have different : other ≠ id := by
      intro same
      subst same
      exact notIndexed (.inl ⟨_, rfl⟩)
    refine (sound.others callback different otherMember).longer ?_
      (fun _ => Nat.le_refl _)
    simp [callbackStep, different]

theorem Sound.table {state : Tenancy} {id : Nat} {first : Table}
    {rest : List Table} (sound : Sound state)
    (callback : state.callback = some (id, .tables (first :: rest))) :
    Sound (callbackStep state id (.tables (first :: rest))) := by
  have member := sound.member id _ callback
  have order := sound.order id _ callback
  rw [List.nodup_cons] at order
  constructor
  · intro table
    have length := sound.lengths table
    simp only [pending, callback, List.mem_cons] at length
    by_cases same : table = first
    · subst same
      simp only [callbackStep, pending, Function.update_self, order.1,
        if_false, true_or, if_true] at length ⊢
      omega
    · simpa [callbackStep, pending, same] using length
  · rintro other others equal
    cases equal
    exact order.2
  · exact sound.unset
  · rintro other stage equal
    cases equal
    exact member
  · rintro other (equal | equal) <;> cases equal
  · rintro other (⟨others, equal⟩ | equal)
    · cases equal
      exact sound.indexed id (.inl ⟨_, callback⟩)
    · cases equal
  · intro other otherMember notIndexed _
    have different : other ≠ id := by
      intro same
      subst same
      exact notIndexed (.inl ⟨_, rfl⟩)
    refine (sound.others callback different otherMember).longer rfl ?_
    intro table
    by_cases same : table = first
    · simp [callbackStep, same]
    · simp [callbackStep, same]

theorem Sound.packet {state : Tenancy} {id : Nat} (sound : Sound state)
    (callback : state.callback = some (id, .tables [])) :
    Sound (callbackStep state id (.tables [])) := by
  have member := sound.member id _ callback
  constructor
  · intro table
    simpa [callbackStep, pending, callback] using sound.lengths table
  · rintro other rest equal
    cases equal
  · exact sound.unset
  · rintro other stage equal
    cases equal
    exact member
  · rintro other (equal | equal) <;> cases equal
  · rintro other (⟨rest, equal⟩ | equal)
    · cases equal
    · cases equal
      exact sound.indexed id (.inl ⟨[], callback⟩)
  · intro other otherMember notIndexed _
    have different : other ≠ id := by
      intro same
      subst same
      exact notIndexed (.inr rfl)
    exact (sound.others callback different otherMember).longer rfl
      (fun _ => Nat.le_refl _)

theorem Sound.filled {state : Tenancy} {id : Nat} (sound : Sound state)
    (indexed : Indexed state id)
    (filled : ∀ table, pending state.callback table = 0) : Ready state id := by
  obtain ⟨some, index⟩ := sound.indexed id indexed
  refine ⟨_, index, ?_⟩
  intro table
  have length := sound.lengths table
  rw [filled table] at length
  omega

theorem Sound.connected {state : Tenancy} {id : Nat} (sound : Sound state)
    (callback : state.callback = some (id, .tenantConnected)) :
    Sound (callbackStep state id .tenantConnected) := by
  constructor
  · intro table
    simpa [callbackStep, pending, callback] using sound.lengths table
  · rintro other rest equal
    cases equal
  · exact sound.unset
  · rintro other stage equal
    cases equal
  · rintro other (equal | equal) <;> cases equal
  · rintro other (⟨rest, equal⟩ | equal) <;> cases equal
  · intro other otherMember _ _
    have ready : Ready state other := by
      by_cases same : other = id
      · subst same
        exact sound.filled (.inr callback) (by simp [pending, callback])
      · exact sound.others callback same otherMember
    exact ready.longer rfl (fun _ => Nat.le_refl _)

/-- The send loop and its start leave what the callbacks write alone. -/
theorem Sound.congr {state next : Tenancy} (sound : Sound state)
    (conns : next.conns = state.conns)
    (listIndex : next.listIndex = state.listIndex)
    (connIds : next.connIds = state.connIds)
    (length : next.length = state.length)
    (callback : next.callback = state.callback) : Sound next := by
  obtain ⟨lengths, order, unset, member, fresh, indexed, ready⟩ := sound
  constructor
  · simpa only [length, connIds, callback] using lengths
  · simpa only [callback] using order
  · simpa only [conns, listIndex] using unset
  · simpa only [conns, callback] using member
  · simpa only [Entering, conns, listIndex, callback] using fresh
  · simpa only [Indexed, connIds, listIndex, callback] using indexed
  · simpa only [Entering, Indexed, Ready, conns, listIndex, length, callback]
      using ready

theorem Sound.step {state : Tenancy} (sound : Sound state) (next : Step) :
    Sound (Tenancy.step state next) := by
  cases next with
  | established id =>
      cases callback : state.callback with
      | none =>
          simpa only [Tenancy.step, callback] using
            sound.established id callback
      | some _ => simpa only [Tenancy.step, callback] using sound
  | callback =>
      cases callback : state.callback with
      | none => simpa only [Tenancy.step, callback] using sound
      | some current =>
          obtain ⟨id, stage⟩ := current
          simp only [Tenancy.step, callback]
          cases stage with
          | connId => exact sound.connId callback
          | listIndex => exact sound.listIndex callback
          | tables rest =>
              cases rest with
              | nil => exact sound.packet callback
              | cons first rest => exact sound.table callback
          | tenantConnected => exact sound.connected callback
  | allConnected =>
      simp only [Tenancy.step]
      split
      · exact sound.congr rfl rfl rfl rfl rfl
      · exact sound
  | sendLoop =>
      simp only [Tenancy.step]
      split
      · split
        · exact sound.congr rfl rfl rfl rfl rfl
        · exact sound.congr rfl rfl rfl rfl rfl
      · exact sound

theorem sound_run (steps : List Step) : Sound (run steps) := by
  induction steps using List.reverseRecOn with
  | nil => exact sound_start
  | append_singleton past next induction =>
      rw [run_snoc]
      exact induction.step next

theorem ready_iff {state : Tenancy} (sound : Sound state) {id : Nat}
    (member : id ∈ state.conns) : Ready state id ↔ ¬Unfinished state id := by
  by_cases indexed : Indexed state id
  · obtain ⟨some, index⟩ := sound.indexed id indexed
    rcases indexed with ⟨rest, callback⟩ | callback
    · cases rest with
      | nil =>
          refine iff_of_true ?_ ?_
          · exact sound.filled (.inl ⟨[], callback⟩)
              (by simp [pending, callback])
          · simp [Unfinished, callback]
      | cons first rest =>
          refine iff_of_false ?_ ?_
          · rintro ⟨i, equal, below⟩
            have length := sound.lengths first
            have inside := below first
            simp only [pending, callback, List.mem_cons_self, if_true]
              at length
            rw [index, Option.some.injEq] at equal
            omega
          · exact fun finished => finished (.inr ⟨first, rest, callback⟩)
    · refine iff_of_true ?_ ?_
      · exact sound.filled (.inr callback) (by simp [pending, callback])
      · simp [Unfinished, callback]
  · have noTables : ¬∃ table rest,
        state.callback = some (id, .tables (table :: rest)) := by
      rintro ⟨table, rest, callback⟩
      exact indexed (.inl ⟨_, callback⟩)
    by_cases fresh : Entering state id ∧ state.conns.count id = 1
    · refine iff_of_false ?_ (fun finished => finished (.inl fresh))
      rintro ⟨i, index, _⟩
      rw [sound.fresh id fresh.1 fresh.2] at index
      cases index
    · refine iff_of_true (sound.ready id member indexed fresh) ?_
      rintro (unset | unfilled)
      · exact fresh unset
      · exact noTables unfilled

/-- The send loop takes ready connections only exactly when it takes none whose
callback is unfinished. -/
theorem readyRun_iff (steps : List Step) :
    ReadyRun steps ↔ FinishedRun steps := by
  have same : ∀ (past : List Step) (next : Step),
      (∀ id, taken (run past) next = some id → Ready (run past) id) ↔
        ∀ id, taken (run past) next = some id →
          ¬Unfinished (run past) id := by
    intro past next
    refine forall₂_congr ?_
    intro id equal
    refine ready_iff (sound_run past) ?_
    cases next with
    | sendLoop =>
        simp only [taken] at equal
        split at equal
        · exact List.mem_of_getElem? equal
        · cases equal
    | _ => cases equal
  simp only [ReadyRun, FinishedRun, same]

/-- The whole handshake of a connection. -/
def handshake (id : Nat) : List Step :=
  .established id :: List.replicate 16 .callback

/-- The send loop runs, and takes a second connection that was just appended
to the list. -/
def lateSwitch : List Step :=
  handshake 0 ++ [.allConnected, .established 1, .sendLoop]

theorem readyRun_lateSwitch :
    taken (run lateSwitch) .sendLoop = some 1 ∧
      (run lateSwitch).listIndex 1 = none ∧
      ¬ReadyRun (lateSwitch ++ [.sendLoop]) := by
  have taken : taken (run lateSwitch) .sendLoop = some 1 := by decide
  have unset : (run lateSwitch).listIndex 1 = none := by decide
  refine ⟨taken, unset, ?_⟩
  intro ready
  obtain ⟨i, index, _⟩ :=
    ((History.admissible_snoc lateSwitch _).mp ready).2 1 taken
  rw [unset] at index
  cases index

end Tenancy

end Perfbench
