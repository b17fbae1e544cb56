import Mathlib.Data.List.Sort
import Mathlib.Logic.Function.Basic
import Perfbench.Connection.OFConnection
import Perfbench.Controller

/-!
# The index loops of the program

The loops over tenants, connections, callbacks and switch ports all count in a
`uint8_t`, and nothing keeps their containers below 256 elements.  From there
on a loop that is not left by its body never ends.
-/

namespace Perfbench

/-- What the loops over the tenants do to one of them. -/
structure Tenant where
  /-- calls of `cntr->reset` -/
  resets : Nat
  /-- threads of `send_loop` -/
  sendThreads : Nat
  /-- calls of `testcase->finish` -/
  finishes : Nat
  deriving DecidableEq

/-- `requests` of the counter, by list index, and the messages sent, each with
its list index and xid. -/
structure BurstRound where
  requests : Nat → Nat
  sent : List (Nat × Nat)

/-- The containers that the loops run over.  The connections are given by their
list index, and each of them has its entry in the counter. -/
structure Containers where
  tenants : List Tenant
  conns : List Nat
  eventListeners : EventType → List Testcase
  connection : OFConnection

/-- A flag of the tenants as a loop reads it, given the loop's step and the
tenant; other threads set the flags meanwhile. -/
abbrev FlagReads := Nat → Nat → Bool

namespace IndexLoops

open ByteLoop

/-- The loop of `tenant_finished`; it is left by `return` before
`all_tenants_finished` is called. -/
def tenantFinished (finished : FlagReads) (tenants : List Tenant)
    (steps : Nat) : Option (Trip Nat) :=
  trip tenants.length
    (fun i step =>
      if finished step i = false then .leave step else .goOn (step + 1))
    steps 0 0

/-- The state of the scan for connected tenants. -/
structure ConnectScan where
  step : Nat
  allConnected : Bool

/-- One scan of `wait_for_tenants_to_connect`. -/
def waitForTenantsToConnect (connected : FlagReads) (tenants : List Tenant)
    (steps : Nat) : Option (Trip ConnectScan) :=
  trip tenants.length
    (fun i scan =>
      if connected scan.step i = false then
        .leave { scan with allConnected := false }
      else .goOn { step := scan.step + 1, allConnected := true })
    steps 0 { step := 0, allConnected := false }

/-- The loop of `all_tenants_connected`. -/
def allTenantsConnected (tenants : List Tenant) (steps : Nat) :
    Option (Trip (List Tenant)) :=
  trip tenants.length
    (fun i tenants => .goOn (tenants.modify i (fun tenant =>
      { tenant with
        resets := tenant.resets + 1
        sendThreads := tenant.sendThreads + 1 })))
    steps 0 tenants

/-- The loop of `stop_tenants`. -/
def stopTenants (tenants : List Tenant) (steps : Nat) :
    Option (Trip (List Tenant)) :=
  trip tenants.length
    (fun i tenants => .goOn (tenants.modify i (fun tenant =>
      { tenant with finishes := tenant.finishes + 1 })))
    steps 0 tenants

/-- A message is numbered, sent and counted. -/
def sendMessage (listIndex : Nat) (round : BurstRound) : BurstRound :=
  let requests := round.requests listIndex
  { requests :=
      Function.update round.requests listIndex (uint32 (requests + 1))
    sent := round.sent ++
      [(listIndex, uint32 (requests + 10000000 * listIndex + 1))] }

/-- The loop of a burst over the connections of the controller. -/
def sendRound (requests : Nat → Nat) (conns : List Nat) (steps : Nat) :
    Option (Trip BurstRound) :=
  trip conns.length (fun c round => .goOn (onItem conns sendMessage c round))
    steps 0 { requests, sent := [] }

/-- The loop of `dispatch_event` with the callbacks it calls.  No callback
registers another one for the event it is called for. -/
def dispatchEvent (listeners : List Testcase) (steps : Nat) :
    Option (Trip (List Testcase)) :=
  trip listeners.length
    (fun i called =>
      .goOn (onItem listeners (fun callback called => called ++ [callback]) i
        called))
    steps 0 []

/-- With the flag set, only real dataports are returned. -/
def pushPort (dpOnly : Bool) (portNo : Nat) (ports : List Nat) : List Nat :=
  if dpOnly then if portNo ≤ 256 then ports ++ [portNo] else ports
  else ports ++ [portNo]

def portsLoop (dpOnly : Bool) (switchPorts : List Nat) (steps : Nat) :
    Option (Trip (List Nat)) :=
  trip switchPorts.length
    (fun i ports => .goOn (onItem switchPorts (pushPort dpOnly) i ports))
    steps 0 []

/-- The ports of the switch, in the version of the connection. -/
def portNumbers (connection : OFConnection) : List Nat :=
  if connection.version = 1 then connection.switchPorts10
  else if connection.version = 4 then connection.switchPorts13
  else []

/-- `OFConnection::switch_ports`; the flag is set by default. -/
def switchPorts (dpOnly : Bool) (connection : OFConnection) (steps : Nat) :
    Option (List Nat) :=
  (if connection.version = 1 then
      portsLoop dpOnly connection.switchPorts10 steps
    else if connection.version = 4 then
      portsLoop dpOnly connection.switchPorts13 steps
    else some { visited := [], left := false, state := [] }).map
      (fun trip => trip.state.insertionSort (· ≤ ·))

/-- Each loop ends and, unless it is left by its body, visits each element
once; the ports of the switch come out sorted. -/
structure LoopsComplete (containers : Containers) (requests : Nat → Nat)
    (finished connected : FlagReads) : Prop where
  tenantFinished : Completes containers.tenants.length
    (tenantFinished finished containers.tenants)
  waitForTenantsToConnect : Completes containers.tenants.length
    (waitForTenantsToConnect connected containers.tenants)
  allTenantsConnected : Completes containers.tenants.length
    (allTenantsConnected containers.tenants)
  stopTenants : Completes containers.tenants.length
    (stopTenants containers.tenants)
  sendRound : Completes containers.conns.length
    (sendRound requests containers.conns)
  dispatchEvent : ∀ eventType,
    Completes (containers.eventListeners eventType).length
      (dispatchEvent (containers.eventListeners eventType))
  portsLoop : Completes (portNumbers containers.connection).length
    (portsLoop true (portNumbers containers.connection))
  switchPorts : ∃ steps ports,
    switchPorts true containers.connection steps = some ports ∧
      ports.Pairwise (· ≤ ·) ∧
      ports.Perm ((portNumbers containers.connection).filter (· ≤ 256))

/-- No container is too large for the index. -/
structure ContainersSmall (containers : Containers) : Prop where
  tenants : containers.tenants.length < 256
  conns : containers.conns.length < 256
  eventListeners : ∀ eventType,
    (containers.eventListeners eventType).length < 256
  ports : (portNumbers containers.connection).length < 256

theorem foldl_pushPort (switchPorts ports : List Nat) :
    switchPorts.foldl (fun ports portNo => pushPort true portNo ports) ports =
      ports ++ switchPorts.filter (· ≤ 256) := by
  induction switchPorts generalizing ports with
  | nil => simp
  | cons portNo switchPorts induction =>
      rw [List.foldl_cons, induction]
      by_cases dataport : portNo ≤ 256
      · simp [pushPort, dataport]
      · simp [pushPort, dataport]

/-- Once the loop is running it does not matter in which version the ports were
announced. -/
theorem switchPorts_succ (dpOnly : Bool) (connection : OFConnection)
    (steps : Nat) :
    switchPorts dpOnly connection (steps + 1) =
      (portsLoop dpOnly (portNumbers connection) (steps + 1)).map
        (fun trip => trip.state.insertionSort (· ≤ ·)) := by
  unfold switchPorts portNumbers
  split
  · rfl
  · split
    · rfl
    · rfl

theorem switchPorts_sorted {connection : OFConnection}
    (small : (portNumbers connection).length < 256) :
    ∃ steps ports, switchPorts true connection steps = some ports ∧
      ports.Pairwise (· ≤ ·) ∧
      ports.Perm ((portNumbers connection).filter (· ≤ 256)) := by
  refine ⟨(portNumbers connection).length + 1,
    ((portNumbers connection).filter (· ≤ 256)).insertionSort (· ≤ ·),
    ?_, List.pairwise_insertionSort _ _, List.perm_insertionSort _ _⟩
  rw [switchPorts_succ, portsLoop, trip_onItem small, foldl_pushPort]
  rfl

/-- Whatever the flags are read to be, all the loops do what they should
exactly when no container has 256 elements. -/
theorem loopsComplete_iff (containers : Containers) (requests : Nat → Nat)
    (finished connected : FlagReads) :
    LoopsComplete containers requests finished connected ↔
      ContainersSmall containers := by
  constructor
  · intro complete
    exact
      { tenants := (completes_iff (fun _ _ => ⟨_, rfl⟩)).mp complete.stopTenants
        conns := (completes_iff (fun _ _ => ⟨_, rfl⟩)).mp complete.sendRound
        eventListeners := fun eventType =>
          (completes_iff (fun _ _ => ⟨_, rfl⟩)).mp
            (complete.dispatchEvent eventType)
        ports := (completes_iff (fun _ _ => ⟨_, rfl⟩)).mp complete.portsLoop }
  · intro small
    exact
      { tenantFinished := completes_of_small small.tenants
        waitForTenantsToConnect := completes_of_small small.tenants
        allTenantsConnected := completes_of_small small.tenants
        stopTenants := completes_of_small small.tenants
        sendRound := completes_of_small small.conns
        dispatchEvent := fun eventType =>
          completes_of_small (small.eventListeners eventType)
        portsLoop := completes_of_small small.ports
        switchPorts := switchPorts_sorted small.ports }

/-- 256 tenants, and nothing else. -/
def manyTenants : Containers :=
  { tenants :=
      List.replicate 256 { resets := 0, sendThreads := 0, finishes := 0 }
    conns := []
    eventListeners := fun _ => []
    connection := OFConnection.new }

/-- They are stopped over and over again. -/
theorem loopsComplete_manyTenants :
    ¬LoopsComplete manyTenants (fun _ => 0) (fun _ _ => true)
      (fun _ _ => true) := by
  intro complete
  have stopped := (completes_iff (fun _ _ => ⟨_, rfl⟩)).mp complete.stopTenants
  rw [manyTenants, List.length_replicate] at stopped
  exact absurd stopped (by decide)

end IndexLoops

end Perfbench
