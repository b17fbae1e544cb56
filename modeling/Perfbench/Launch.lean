import Mathlib.Logic.Function.Basic
import Perfbench.Library.ByteLoop
import Perfbench.Testcases.StartUp

/-!
# Waiting for the tenants

A tenant reports that it is connected when its controller has the connections
that the testcase asks for.  A thread of its own looks at the flags of all the
tenants again and again; when it has found them all set it resets the counters
and starts the send loops.
-/

namespace Perfbench

/-- What `ctrl_conn_established` asks for before it calls `tenant_connected`,
of the numbers of dataports of `Controller::conns`. -/
def TestcaseClass.reports (numSwitches : Int) (conns : List Nat) :
    TestcaseClass → Bool
  | .flowStatsRequest => !conns.any (fun switchPorts => switchPorts < 2)
  | .packetOut => !conns.any (fun switchPorts => switchPorts < 2)
  | .packetIn => !conns.any (fun switchPorts => switchPorts < 2)
  | .flowMod => !conns.any (fun switchPorts => switchPorts < 2)
  | .flowModSandwich => conns.length == numSwitches
  | .flowModSandwichSingle => conns.length == numSwitches
  | .packetInSandwich => conns.length == numSwitches
  | .packetInSandwichSingle => conns.length == numSwitches
  | _ => true

/-- Testcases that ask for dataports fail for want of them; the others wait. -/
def TestcaseClass.failsFor (conns : List Nat) : TestcaseClass → Bool
  | .flowStatsRequest => conns.any (fun switchPorts => switchPorts < 2)
  | .packetOut => conns.any (fun switchPorts => switchPorts < 2)
  | .packetIn => conns.any (fun switchPorts => switchPorts < 2)
  | .flowMod => conns.any (fun switchPorts => switchPorts < 2)
  | _ => false

/-- Where the thread of `wait_for_tenants_to_connect` is. -/
inductive Waiter where
  /-- at the head of the loop over the tenants, with `_all_t_connected` -/
  | scanning (i : Nat) (allConnected : Bool)
  | sleeping (allConnected : Bool)
  /-- at the head of the loop of `all_tenants_connected` -/
  | resetting (i : Nat)
  /-- the counter of the tenant is reset -/
  | starting (i : Nat)
  | done
  deriving DecidableEq

/-- The tenants are numbered from 0. -/
structure Launch where
  /-- `Controller::conns` of the tenants, by the number of dataports -/
  conns : Nat → List Nat
  connected : Nat → Bool
  /-- calls of `tenant_failed` -/
  failures : Nat
  waiter : Waiter
  running : Bool
  /-- calls of `cntr->reset` -/
  resets : Nat → Nat
  /-- threads of `send_loop` -/
  sendThreads : Nat → Nat

namespace Launch

def start : Launch where
  conns := fun _ => []
  connected := fun _ => false
  failures := 0
  waiter := .scanning 0 false
  running := false
  resets := fun _ => 0
  sendThreads := fun _ => 0

inductive Step where
  /-- a connection of a tenant is established -/
  | established (t switchPorts : Nat)
  /-- a connection of a tenant is closed -/
  | closed (t : Nat)
  /-- the next step of the waiting thread -/
  | wait
  deriving DecidableEq

/-- `ctrl_conn_established`. -/
def established (numSwitches : Int) (testcase : TestcaseClass)
    (t switchPorts : Nat) (state : Launch) : Launch :=
  let conns := state.conns t ++ [switchPorts]
  { state with
    conns := Function.update state.conns t conns
    connected :=
      if testcase.reports numSwitches conns then
        Function.update state.connected t true
      else state.connected
    failures :=
      if testcase.failsFor conns then state.failures + 1 else state.failures }

/-- `tenant_disconnected`. -/
def closed (t : Nat) (state : Launch) : Launch :=
  { state with
    connected := Function.update state.connected t false
    failures := state.failures + 1 }

def waiterStep (tenants : Nat) (state : Launch) : Waiter → Launch
  | .scanning i allConnected =>
      if i < tenants then
        if state.connected i then
          { state with waiter := .scanning (ByteLoop.next i) true }
        else { state with waiter := .sleeping false }
      else { state with waiter := .sleeping allConnected }
  | .sleeping allConnected =>
      if allConnected then
        { state with
          running := true
          waiter := .resetting 0 }
      else { state with waiter := .scanning 0 false }
  | .resetting i =>
      if i < tenants then
        { state with
          resets := Function.update state.resets i (state.resets i + 1)
          waiter := .starting i }
      else { state with waiter := .done }
  | .starting i =>
      { state with
        sendThreads :=
          Function.update state.sendThreads i (state.sendThreads i + 1)
        waiter := .resetting (ByteLoop.next i) }
  | .done => state

def step (numSwitches : Int) (testcases : List TestcaseClass)
    (state : Launch) : Step → Launch
  | .established t switchPorts =>
      match testcases[t]? with
      | some testcase => state.established numSwitches testcase t switchPorts
      | none => state
  | .closed t => if t < testcases.length then state.closed t else state
  | .wait => waiterStep testcases.length state state.waiter

def run (numSwitches : Int) (testcases : List TestcaseClass)
    (steps : List Step) : Launch :=
  steps.foldl (step numSwitches testcases) start

theorem run_append (numSwitches : Int) (testcases : List TestcaseClass)
    (past future : List Step) :
    run numSwitches testcases (past ++ future) =
      future.foldl (step numSwitches testcases)
        (run numSwitches testcases past) :=
  List.foldl_append

/-- The tenant has reported at some time, for the connections that it had
then. -/
def Reported (numSwitches : Int) (testcases : List TestcaseClass)
    (state : Launch) (t : Nat) : Prop :=
  ∃ testcase front, testcases[t]? = some testcase ∧
    front ≠ [] ∧ front <+: state.conns t ∧
      testcase.reports numSwitches front = true

def AllReported (numSwitches : Int) (testcases : List TestcaseClass)
    (state : Launch) : Prop :=
  ∀ t < testcases.length, Reported numSwitches testcases state t

/-- The tenants below the first index have a counter that was reset, those
below the second one a send loop. -/
structure Begun (resets sendThreads : Nat) (state : Launch) : Prop where
  resets : ∀ t, state.resets t = if t < resets then 1 else 0
  sendThreads : ∀ t, state.sendThreads t = if t < sendThreads then 1 else 0

/-- What holds where the waiting thread is. -/
def Known (numSwitches : Int) (testcases : List TestcaseClass)
    (state : Launch) : Waiter → Prop
  | .scanning i allConnected =>
      Begun 0 0 state ∧ i < 256 ∧ (0 < i → allConnected = true) ∧
        (allConnected = true → 0 < testcases.length) ∧
          ∀ t < i, t < testcases.length →
            Reported numSwitches testcases state t
  | .sleeping allConnected =>
      Begun 0 0 state ∧ (allConnected = true →
        0 < testcases.length ∧ testcases.length < 256 ∧
          AllReported numSwitches testcases state)
  | .resetting i =>
      Begun i i state ∧ i ≤ testcases.length ∧ testcases.length < 256 ∧
        AllReported numSwitches testcases state
  | .starting i =>
      Begun (i + 1) i state ∧ i < testcases.length ∧
        testcases.length < 256 ∧ AllReported numSwitches testcases state
  | .done =>
      Begun testcases.length testcases.length state ∧
        testcases.length < 256 ∧ AllReported numSwitches testcases state

structure Sound (numSwitches : Int) (testcases : List TestcaseClass)
    (state : Launch) : Prop where
  flags : ∀ t, state.connected t = true →
    Reported numSwitches testcases state t
  known : Known numSwitches testcases state state.waiter

theorem sound_start (numSwitches : Int) (testcases : List TestcaseClass) :
    Sound numSwitches testcases start := by
  refine ⟨?_, ?_⟩
  · intro t connected
    exact absurd connected (by simp [start])
  · refine ⟨⟨fun _ => rfl, fun _ => rfl⟩, by decide, ?_, ?_, ?_⟩
    · intro positive
      exact absurd positive (by decide)
    · intro connected
      exact absurd connected (by decide)
    · intro t before
      exact absurd before (Nat.not_lt_zero t)

section Steps

variable {numSwitches : Int} {testcases : List TestcaseClass}
  {state next : Launch}

theorem Reported.mono {t : Nat}
    (reported : Reported numSwitches testcases state t)
    (longer : state.conns t <+: next.conns t) :
    Reported numSwitches testcases next t := by
  obtain ⟨testcase, front, present, nonempty, starts, reports⟩ := reported
  exact ⟨testcase, front, present, nonempty, starts.trans longer, reports⟩

/-- Connections that come and go leave alone what the waiting thread knows. -/
theorem Known.mono {waiter : Waiter}
    (known : Known numSwitches testcases state waiter)
    (longer : ∀ t, state.conns t <+: next.conns t)
    (resets : next.resets = state.resets)
    (sendThreads : next.sendThreads = state.sendThreads) :
    Known numSwitches testcases next waiter := by
  have begun : ∀ first second, Begun first second state →
      Begun first second next := by
    intro first second begun
    exact ⟨resets ▸ begun.resets, sendThreads ▸ begun.sendThreads⟩
  have all : AllReported numSwitches testcases state →
      AllReported numSwitches testcases next :=
    fun reported t inside => (reported t inside).mono (longer t)
  cases waiter with
  | scanning i allConnected =>
      obtain ⟨was, small, flag, some, reported⟩ := known
      refine ⟨begun _ _ was, small, flag, some, ?_⟩
      intro t before inside
      exact (reported t before inside).mono (longer t)
  | sleeping allConnected =>
      refine ⟨begun _ _ known.1, ?_⟩
      intro connected
      obtain ⟨some, few, reported⟩ := known.2 connected
      exact ⟨some, few, all reported⟩
  | resetting i =>
      exact ⟨begun _ _ known.1, known.2.1, known.2.2.1, all known.2.2.2⟩
  | starting i =>
      exact ⟨begun _ _ known.1, known.2.1, known.2.2.1, all known.2.2.2⟩
  | done => exact ⟨begun _ _ known.1, known.2.1, all known.2.2⟩

theorem Sound.established {testcase : TestcaseClass} {t : Nat}
    (sound : Sound numSwitches testcases state)
    (present : testcases[t]? = some testcase) (switchPorts : Nat) :
    Sound numSwitches testcases
      (state.established numSwitches testcase t switchPorts) := by
  have longer : ∀ u, state.conns u <+:
      (state.established numSwitches testcase t switchPorts).conns u := by
    intro u
    by_cases same : u = t
    · subst same
      simp [Launch.established]
    · simp [Launch.established, Function.update_of_ne same]
  refine ⟨?_, sound.known.mono longer rfl rfl⟩
  intro u connected
  by_cases reports : testcase.reports numSwitches
      (state.conns t ++ [switchPorts]) = true
  · by_cases same : u = t
    · subst same
      exact ⟨testcase, state.conns u ++ [switchPorts], present, by simp,
        by simp [Launch.established], reports⟩
    · have before : state.connected u = true := by
        simpa [Launch.established, reports, Function.update_of_ne same]
          using connected
      exact (sound.flags u before).mono (longer u)
  · have before : state.connected u = true := by
      simpa [Launch.established, reports] using connected
    exact (sound.flags u before).mono (longer u)

theorem Sound.closed (sound : Sound numSwitches testcases state) (t : Nat) :
    Sound numSwitches testcases (state.closed t) := by
  refine ⟨?_, sound.known.mono (fun _ => List.prefix_rfl) rfl rfl⟩
  intro u connected
  by_cases same : u = t
  · subst same
    exact absurd connected (by simp [Launch.closed])
  · apply sound.flags u
    simpa [Launch.closed, Function.update_of_ne same] using connected

theorem Begun.reset {i : Nat} (begun : Begun i i state) :
    Begun (i + 1) i
      { state with
        resets := Function.update state.resets i (state.resets i + 1) } := by
  refine ⟨?_, begun.sendThreads⟩
  intro t
  by_cases same : t = i
  · subst same
    simp [begun.resets]
  · have before : t < i + 1 ↔ t < i := by omega
    simp [Function.update_of_ne same, begun.resets, before]

theorem Begun.started {i : Nat} (begun : Begun (i + 1) i state) :
    Begun (i + 1) (i + 1)
      { state with
        sendThreads :=
          Function.update state.sendThreads i (state.sendThreads i + 1) } := by
  refine ⟨begun.resets, ?_⟩
  intro t
  by_cases same : t = i
  · subst same
    simp [begun.sendThreads]
  · have before : t < i + 1 ↔ t < i := by omega
    simp [Function.update_of_ne same, begun.sendThreads, before]

theorem Sound.wait (sound : Sound numSwitches testcases state) :
    Sound numSwitches testcases
      (waiterStep testcases.length state state.waiter) := by
  have known := sound.known
  have same : ∀ t, state.conns t <+: state.conns t :=
    fun _ => List.prefix_rfl
  cases place : state.waiter with
  | scanning i allConnected =>
      rw [place] at known
      obtain ⟨begun, small, flag, some, reported⟩ := known
      rw [waiterStep]
      split
      · rename_i inside
        split
        · rename_i connected
          refine ⟨sound.flags, ⟨begun.resets, begun.sendThreads⟩,
            ByteLoop.next_lt i, fun _ => rfl, fun _ => by omega, ?_⟩
          intro t before there
          have next := ByteLoop.next_le i
          rcases Nat.lt_or_eq_of_le (Nat.le_of_lt_succ
            (Nat.lt_of_lt_of_le before next)) with earlier | now
          · exact reported t earlier there
          · rw [now]
            exact sound.flags i connected
        · refine ⟨sound.flags, ⟨begun.resets, begun.sendThreads⟩, ?_⟩
          intro connected
          exact absurd connected (by decide)
      · rename_i outside
        refine ⟨sound.flags, ⟨begun.resets, begun.sendThreads⟩, ?_⟩
        intro connected
        refine ⟨some connected, by omega, ?_⟩
        intro t inside
        exact reported t (by omega) inside
  | sleeping allConnected =>
      rw [place] at known
      obtain ⟨begun, all⟩ := known
      rw [waiterStep]
      split
      · rename_i connected
        obtain ⟨_, few, reported⟩ := all connected
        exact ⟨sound.flags, ⟨begun.resets, begun.sendThreads⟩,
          Nat.zero_le _, few, reported⟩
      · refine ⟨sound.flags, ⟨begun.resets, begun.sendThreads⟩, by decide, ?_,
          ?_, ?_⟩
        · intro positive
          exact absurd positive (by decide)
        · intro connected
          exact absurd connected (by decide)
        · intro t before
          exact absurd before (Nat.not_lt_zero t)
  | resetting i =>
      rw [place] at known
      obtain ⟨begun, inside, few, reported⟩ := known
      rw [waiterStep]
      split
      · rename_i more
        have reset := begun.reset
        exact ⟨sound.flags, ⟨reset.resets, reset.sendThreads⟩, more, few,
          reported⟩
      · have ended : i = testcases.length := by omega
        subst ended
        exact ⟨sound.flags, ⟨begun.resets, begun.sendThreads⟩, few, reported⟩
  | starting i =>
      rw [place] at known
      obtain ⟨begun, inside, few, reported⟩ := known
      have started := begun.started
      rw [waiterStep, ByteLoop.next_eq few inside]
      exact ⟨sound.flags, ⟨started.resets, started.sendThreads⟩, inside, few,
        reported⟩
  | done =>
      rw [waiterStep]
      exact sound

theorem Sound.step (sound : Sound numSwitches testcases state)
    (taken : Step) :
    Sound numSwitches testcases
      (Launch.step numSwitches testcases state taken) := by
  cases taken with
  | established t switchPorts =>
      rw [Launch.step]
      split
      · rename_i testcase present
        exact sound.established present switchPorts
      · exact sound
  | closed t =>
      rw [Launch.step]
      split
      · exact sound.closed t
      · exact sound
  | wait => exact sound.wait

theorem sound_run (steps : List Step) :
    Sound numSwitches testcases (run numSwitches testcases steps) := by
  induction steps using List.reverseRecOn with
  | nil => exact sound_start numSwitches testcases
  | append_singleton past taken induction =>
      rw [run_append]
      exact induction.step taken

end Steps

/-- No counter is reset twice and no send loop started twice, none before every
tenant has reported. -/
structure Barrier (numSwitches : Int) (testcases : List TestcaseClass)
    (state : Launch) : Prop where
  once : ∀ t, state.sendThreads t ≤ state.resets t ∧ state.resets t ≤ 1
  reported : ∀ t, 0 < state.resets t →
    t < testcases.length ∧ testcases.length < 256 ∧
      AllReported numSwitches testcases state

theorem Begun.once {resets sendThreads : Nat} {state : Launch}
    (begun : Begun resets sendThreads state) (ordered : sendThreads ≤ resets)
    (t : Nat) : state.sendThreads t ≤ state.resets t ∧ state.resets t ≤ 1 := by
  rw [begun.resets, begun.sendThreads]
  split
  · split
    · exact ⟨Nat.le_refl 1, Nat.le_refl 1⟩
    · omega
  · split
    · exact ⟨Nat.zero_le 1, Nat.le_refl 1⟩
    · exact ⟨Nat.le_refl 0, Nat.zero_le 1⟩

theorem Begun.inside {resets sendThreads t : Nat} {state : Launch}
    (begun : Begun resets sendThreads state) (reset : 0 < state.resets t) :
    t < resets := by
  rw [begun.resets] at reset
  split at reset
  · assumption
  · exact absurd reset (Nat.lt_irrefl 0)

theorem Sound.barrier {numSwitches : Int} {testcases : List TestcaseClass}
    {state : Launch} (sound : Sound numSwitches testcases state) :
    Barrier numSwitches testcases state := by
  have known := sound.known
  cases place : state.waiter with
  | scanning i allConnected =>
      rw [place] at known
      refine ⟨known.1.once (Nat.le_refl 0), ?_⟩
      intro t reset
      exact absurd (known.1.inside reset) (Nat.not_lt_zero t)
  | sleeping allConnected =>
      rw [place] at known
      refine ⟨known.1.once (Nat.le_refl 0), ?_⟩
      intro t reset
      exact absurd (known.1.inside reset) (Nat.not_lt_zero t)
  | resetting i =>
      rw [place] at known
      obtain ⟨begun, inside, few, reported⟩ := known
      refine ⟨begun.once (Nat.le_refl i), ?_⟩
      intro t reset
      exact ⟨Nat.lt_of_lt_of_le (begun.inside reset) inside, few, reported⟩
  | starting i =>
      rw [place] at known
      obtain ⟨begun, inside, few, reported⟩ := known
      refine ⟨begun.once (Nat.le_succ i), ?_⟩
      intro t reset
      exact ⟨Nat.lt_of_lt_of_le (begun.inside reset) inside, few, reported⟩
  | done =>
      rw [place] at known
      obtain ⟨begun, few, reported⟩ := known
      refine ⟨begun.once (Nat.le_refl _), ?_⟩
      intro t reset
      exact ⟨begun.inside reset, few, reported⟩

/-- However the connections come and go, a measurement begins only after every
tenant has had the connections that its testcase asks for. -/
theorem run_barrier (numSwitches : Int) (testcases : List TestcaseClass)
    (steps : List Step) :
    Barrier numSwitches testcases (run numSwitches testcases steps) :=
  (sound_run steps).barrier

/-- The steps left to the waiting thread when all flags stay set. -/
def rank (tenants : Nat) : Waiter → Nat
  | .sleeping false => 3 * tenants + 4
  | .scanning i _ => (tenants - i) + 2 * tenants + 3
  | .sleeping true => 2 * tenants + 2
  | .resetting i => 2 * (tenants - i) + 1
  | .starting i => 2 * (tenants - i)
  | .done => 0

theorem rank_le (tenants : Nat) (waiter : Waiter) :
    rank tenants waiter ≤ 3 * tenants + 4 := by
  cases waiter with
  | scanning i allConnected =>
      simp only [rank]
      omega
  | sleeping allConnected =>
      cases allConnected with
      | false => exact Nat.le_refl _
      | true =>
          simp only [rank]
          omega
  | resetting i =>
      simp only [rank]
      omega
  | starting i =>
      simp only [rank]
      omega
  | done => exact Nat.zero_le _

section Progress

variable {numSwitches : Int} {testcases : List TestcaseClass}
  {state : Launch}

def AllConnected (testcases : List TestcaseClass) (state : Launch) : Prop :=
  ∀ t < testcases.length, state.connected t = true

theorem waiterStep_connected (waiter : Waiter) :
    (waiterStep testcases.length state waiter).connected =
      state.connected := by
  cases waiter with
  | scanning i allConnected =>
      rw [waiterStep]
      split
      · split
        · rfl
        · rfl
      · rfl
  | sleeping allConnected =>
      rw [waiterStep]
      split
      · rfl
      · rfl
  | resetting i =>
      rw [waiterStep]
      split
      · rfl
      · rfl
  | starting i => rfl
  | done => rfl

theorem AllConnected.step (connected : AllConnected testcases state)
    {taken : Step} (stays : ∀ t, taken ≠ .closed t) :
    AllConnected testcases (Launch.step numSwitches testcases state taken) := by
  cases taken with
  | established t switchPorts =>
      rw [Launch.step]
      split
      · rename_i testcase present
        intro u inside
        simp only [Launch.established]
        split
        · by_cases same : u = t
          · rw [same, Function.update_self]
          · rw [Function.update_of_ne same]
            exact connected u inside
        · exact connected u inside
      · exact connected
  | closed t => exact absurd rfl (stays t)
  | wait =>
      intro u inside
      rw [Launch.step, waiterStep_connected]
      exact connected u inside

theorem rank_wait (sound : Sound numSwitches testcases state)
    (connected : AllConnected testcases state)
    (nonempty : 0 < testcases.length) (few : testcases.length < 256) :
    rank testcases.length
        (waiterStep testcases.length state state.waiter).waiter ≤
      rank testcases.length state.waiter - 1 := by
  have known := sound.known
  cases place : state.waiter with
  | scanning i allConnected =>
      rw [place] at known
      rw [waiterStep]
      split
      · rename_i inside
        rw [if_pos (connected i inside), ByteLoop.next_eq few inside]
        simp only [rank]
        omega
      · have flag : allConnected = true := known.2.2.1 (by omega)
        subst flag
        simp only [rank]
        omega
  | sleeping allConnected =>
      cases allConnected with
      | false =>
          simp only [waiterStep, Bool.false_eq_true, if_false, rank]
          omega
      | true =>
          simp only [waiterStep, if_true, rank]
          omega
  | resetting i =>
      rw [waiterStep]
      split
      · simp only [rank]
        omega
      · exact Nat.zero_le _
  | starting i =>
      rw [place] at known
      have inside := known.2.1
      rw [waiterStep, ByteLoop.next_eq few inside]
      simp only [rank]
      omega
  | done =>
      rw [waiterStep, place]
      exact Nat.zero_le _

theorem rank_step (sound : Sound numSwitches testcases state)
    (connected : AllConnected testcases state)
    (nonempty : 0 < testcases.length) (few : testcases.length < 256)
    (taken : Step) :
    rank testcases.length
        (Launch.step numSwitches testcases state taken).waiter ≤
      rank testcases.length state.waiter -
        if taken = .wait then 1 else 0 := by
  cases taken with
  | established t switchPorts =>
      rw [Launch.step]
      split
      · exact Nat.le_refl _
      · exact Nat.le_refl _
  | closed t =>
      rw [Launch.step]
      split
      · exact Nat.le_refl _
      · exact Nat.le_refl _
  | wait => exact rank_wait sound connected nonempty few

theorem rank_run {future : List Step}
    (sound : Sound numSwitches testcases state)
    (connected : AllConnected testcases state)
    (nonempty : 0 < testcases.length) (few : testcases.length < 256)
    (stays : ∀ t, .closed t ∉ future) :
    rank testcases.length
        (future.foldl (Launch.step numSwitches testcases) state).waiter ≤
      rank testcases.length state.waiter - future.count .wait := by
  induction future generalizing state with
  | nil => exact Nat.le_refl _
  | cons taken future induction =>
      have open' : ∀ t, taken ≠ .closed t := by
        intro t same
        exact stays t (same ▸ List.mem_cons_self)
      have later := induction (sound.step taken) (connected.step open')
        (fun t member => stays t (List.mem_cons_of_mem taken member))
      have now := rank_step sound connected nonempty few taken
      rw [List.foldl_cons, List.count_cons]
      simp only [beq_iff_eq]
      omega

theorem done_of_rank (sound : Sound numSwitches testcases state)
    (nothing : rank testcases.length state.waiter = 0) :
    state.waiter = .done := by
  have known := sound.known
  cases place : state.waiter with
  | scanning i allConnected => simp [place, rank] at nothing
  | sleeping allConnected =>
      cases allConnected with
      | false => simp [place, rank] at nothing
      | true => simp [place, rank] at nothing
  | resetting i => simp [place, rank] at nothing
  | starting i =>
      rw [place] at known
      have inside := known.2.1
      simp only [place, rank] at nothing
      omega
  | done => rfl

end Progress

/-- All counters are reset and all send loops started, once each. -/
structure Launched (tenants : Nat) (state : Launch) : Prop where
  running : state.waiter = .done
  resets : ∀ t < tenants, state.resets t = 1
  sendThreads : ∀ t < tenants, state.sendThreads t = 1

/-- Once all tenants are connected and stay so, the waiting thread starts all
send loops within so many of its steps, whatever connections come meanwhile. -/
theorem run_launches {numSwitches : Int} {testcases : List TestcaseClass}
    {past future : List Step} (nonempty : testcases ≠ [])
    (few : testcases.length < 256)
    (connected : AllConnected testcases (run numSwitches testcases past))
    (stays : ∀ t, .closed t ∉ future)
    (enough : 3 * testcases.length + 4 ≤ future.count .wait) :
    Launched testcases.length
      (run numSwitches testcases (past ++ future)) := by
  have sound := @sound_run numSwitches testcases past
  have positive := List.length_pos_iff.mpr nonempty
  have left := rank_run sound connected positive few stays
  have bound := rank_le testcases.length
    (run numSwitches testcases past).waiter
  rw [← run_append] at left
  have final := @sound_run numSwitches testcases (past ++ future)
  have arrived := done_of_rank final (by omega)
  have known := final.known
  rw [arrived] at known
  refine ⟨arrived, ?_, ?_⟩
  · intro t inside
    rw [known.1.resets, if_pos inside]
  · intro t inside
    rw [known.1.sendThreads, if_pos inside]

/-- A tenant with two switches and one without sandwich. -/
def sampleTestcases : List TestcaseClass := [.flowModSandwich, .echoRequest]

/-- The thread waits in between. -/
def samplePast : List Step :=
  [.wait, .established 0 2, .wait, .established 1 0, .wait,
    .established 0 2]

theorem samplePast_connected :
    AllConnected sampleTestcases (run 2 sampleTestcases samplePast) := by
  unfold AllConnected
  decide

theorem run_launches_sample :
    Launched sampleTestcases.length
      (run 2 sampleTestcases (samplePast ++ List.replicate 10 .wait)) :=
  run_launches (by decide) (by decide) samplePast_connected
    (by simp) (by decide)

end Launch

end Perfbench
