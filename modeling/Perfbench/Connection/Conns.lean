import Perfbench.Connection.Running

/-!
# The list of connections

`Controller::conns` gets every connection that is established and loses none.
The sandwich testcases compare its length with the number of switches and
take that for the number of switches that are connected.
-/

namespace Perfbench

namespace OFServer

/-- The connections of a server by their id, the ids in `Controller::conns`,
and the state of both at each call of `tenant_connected`. -/
structure Connections where
  ofconnections : List OFConnection
  conns : List Nat
  tenantConnected : List (List Nat × List OFConnection)

/-- A new connection, or an event of one that there is. -/
inductive ServerEvent where
  | started
  | on (id : Nat) (event : Event)

namespace Connections

def initial : Connections :=
  { ofconnections := []
    conns := []
    tenantConnected := [] }

/-- What a callback does to the lists: `conns.push_back`, and for CTRL_CONN_UP
the `ctrl_conn_established` of a sandwich testcase. -/
def apply (numSwitches : Int) (id : Nat) (server : Connections) :
    Effect EventType → Connections
  | .pushConn => { server with conns := server.conns ++ [id] }
  | .dispatch .connUp =>
      if int32 server.conns.length = numSwitches then
        { server with
          tenantConnected := server.tenantConnected ++
            [(server.conns, server.ofconnections)] }
      else server
  | _ => server

def step (ofsc : OFServerSettings) (numSwitches : Int)
    (server : Connections) : ServerEvent → Connections
  | .started =>
      { server with ofconnections := server.ofconnections ++ [.new] }
  | .on id event =>
      match server.ofconnections[id]? with
      | none => server
      | some cc =>
          let reaction := react ofsc cc event
          reaction.2.foldl (apply numSwitches id)
            { server with
              ofconnections := server.ofconnections.set id reaction.1 }

def run (ofsc : OFServerSettings) (numSwitches : Int)
    (events : List ServerEvent) : Connections :=
  events.foldl (step ofsc numSwitches) initial

theorem run_snoc (ofsc : OFServerSettings) (numSwitches : Int)
    (past : List ServerEvent) (event : ServerEvent) :
    run ofsc numSwitches (past ++ [event]) =
      (run ofsc numSwitches past).step ofsc numSwitches event := by
  simp [run]

def Up (ofconnections : List OFConnection) (id : Nat) : Prop :=
  ∃ cc, ofconnections[id]? = some cc ∧ cc.state = .running

/-- The list holds the running connections, each of them once. -/
structure Accurate (server : Connections) : Prop where
  distinct : server.conns.Nodup
  running : ∀ id, id ∈ server.conns ↔ Up server.ofconnections id

/-- At a call of `tenant_connected` at least so many connections are up. -/
def SwitchesUp (numSwitches : Int) (call : List Nat × List OFConnection) :
    Prop :=
  ∃ ids : List Nat, ids.Nodup ∧ numSwitches ≤ ids.length ∧
    ∀ id ∈ ids, Up call.2 id

end Connections

/-- A running connection fails, is declared dead or is closed. -/
def leaves (ofsc : OFServerSettings) (cc : OFConnection) : Event → Prop
  | .message msg =>
      cc.state = .running ∧ ofsc.handshake ∧ msg.ofType = 0 ∧
        ¬compatible ofsc msg
  | .timer => cc.state = .running ∧ cc.alive = false ∧ cc.connected
  | .down => cc.state = .running ∧ cc.connected

theorem messageCallback_running {msg : OFMessage} {cc : OFConnection}
    (running : cc.state = .running) :
    (Controller.messageCallback msg cc).1 = cc := by
  unfold Controller.messageCallback
  rw [if_pos running, if_pos running]
  split
  · rfl
  · split
    · rfl
    · split <;> rfl

theorem dispatchAll_running (ofsc : OFServerSettings) {msg : OFMessage}
    {cc : OFConnection} (running : cc.state = .running) :
    (dispatchAll ofsc msg cc).1 = cc := by
  unfold dispatchAll
  split
  · exact messageCallback_running running
  · rfl

theorem dispatchAll_failed (ofsc : OFServerSettings) {msg : OFMessage}
    {cc : OFConnection} (failed : cc.state = .failed) (hello : msg.ofType = 0) :
    (dispatchAll ofsc msg cc).1.state = .failed := by
  unfold dispatchAll
  split
  · unfold Controller.messageCallback
    rw [if_neg (by omega), if_neg (by omega), hello]
    exact failed
  · exact failed

/-- A running connection stays so unless it fails, is declared dead or is
closed. -/
theorem react_running_iff (ofsc : OFServerSettings) {cc : OFConnection}
    (event : Event) (running : cc.state = .running) :
    (react ofsc cc event).1.state = .running ↔ ¬leaves ofsc cc event := by
  cases event with
  | message msg =>
      simp only [leaves, running, true_and, react]
      unfold baseMessageCallback
      split
      · rename_i echoRequest
        simp only [Reaction.after, dispatchAll_running ofsc running, running,
          true_iff]
        omega
      · split
        · rename_i hello
          split
          · rename_i compatible
            simp only [Reaction.after, dispatchAll_running ofsc running,
              running, true_iff]
            exact fun left => left.2.2 compatible
          · rename_i incompatible
            simp only [Reaction.after]
            rw [dispatchAll_failed ofsc rfl hello.2]
            simp [hello, incompatible]
        · rename_i notHello
          have stays : ¬(ofsc.handshake ∧ msg.ofType = 0 ∧
              ¬compatible ofsc msg) := by
            rintro ⟨handshake, hello, _⟩
            exact notHello ⟨handshake, hello⟩
          simp only [stays, not_false_iff, iff_true]
          split
          · have aliveState : (if msg.xid = echoXid then cc.setAlive true
                else cc).state = .running := by
              split
              · exact running
              · exact running
            rw [dispatchAll_running ofsc aliveState]
            exact aliveState
          · rw [if_neg (by simp [running]), messageCallback_running running]
            exact running
  | timer =>
      simp only [leaves, running, true_and, react, sendEcho]
      cases alive : cc.alive with
      | true => simp [running]
      | false =>
          simp only [Bool.false_eq_true, if_false, OFConnection.close_state]
          cases connected : cc.connected with
          | true => simp
          | false => simp [running]
  | down =>
      simp only [leaves, running, true_and, react, baseConnectionDown,
        OFConnection.close_state]
      cases connected : cc.connected with
      | true => simp
      | false => simp

namespace Connections

theorem apply_ofconnections (numSwitches : Int) (id : Nat)
    (server : Connections) (effect : Effect EventType) :
    (server.apply numSwitches id effect).ofconnections =
      server.ofconnections := by
  unfold apply
  split
  · rfl
  · split <;> rfl
  · rfl

theorem apply_conns (numSwitches : Int) (id : Nat) (server : Connections)
    (effect : Effect EventType) :
    (server.apply numSwitches id effect).conns =
      server.conns ++ List.replicate ([effect].count .pushConn) id := by
  unfold apply
  split
  · rfl
  · split <;> simp
  · rename_i notPush _
    have other : [effect].count .pushConn = 0 :=
      List.count_eq_zero_of_not_mem (by simpa using Ne.symm notPush)
    simp [other]

theorem foldl_conns (numSwitches : Int) (id : Nat)
    (effects : List (Effect EventType)) (server : Connections) :
    (effects.foldl (apply numSwitches id) server).ofconnections =
        server.ofconnections ∧
      (effects.foldl (apply numSwitches id) server).conns =
        server.conns ++ List.replicate (effects.count .pushConn) id := by
  induction effects generalizing server with
  | nil => simp
  | cons effect effects induction =>
      obtain ⟨ofconnections, conns⟩ :=
        induction (server.apply numSwitches id effect)
      refine ⟨ofconnections.trans (apply_ofconnections _ _ _ _), ?_⟩
      rw [List.foldl_cons, conns, apply_conns, List.append_assoc,
        List.replicate_append_replicate, ← List.count_append]
      rfl

theorem apply_calls {numSwitches : Int} {id : Nat} {server : Connections}
    {effect : Effect EventType} {call : List Nat × List OFConnection}
    (member : call ∈ (server.apply numSwitches id effect).tenantConnected) :
    call ∈ server.tenantConnected ∨
      int32 server.conns.length = numSwitches ∧
        call = (server.conns, server.ofconnections) := by
  unfold apply at member
  split at member
  · exact .inl member
  · split at member
    · rename_i switches
      rcases List.mem_append.mp member with earlier | last
      · exact .inl earlier
      · exact .inr ⟨switches, List.mem_singleton.mp last⟩
    · exact .inl member
  · exact .inl member

/-- The calls of `tenant_connected` see as many connections as there are
switches, in a part of the list. -/
theorem foldl_calls (numSwitches : Int) (id : Nat)
    (effects : List (Effect EventType)) (server : Connections) :
    ∀ call ∈ (effects.foldl (apply numSwitches id) server).tenantConnected,
      call ∈ server.tenantConnected ∨
        int32 call.1.length = numSwitches ∧
          call.1 <+: (effects.foldl (apply numSwitches id) server).conns ∧
          call.2 = server.ofconnections := by
  induction effects generalizing server with
  | nil => exact fun call member => .inl member
  | cons effect effects induction =>
      intro call member
      rcases induction (server.apply numSwitches id effect) call member with
        earlier | ⟨switches, inside, states⟩
      · rcases apply_calls earlier with before | ⟨switches, rfl⟩
        · exact .inl before
        · refine .inr ⟨switches, ?_, rfl⟩
          rw [(foldl_conns numSwitches id (effect :: effects) server).2]
          exact List.prefix_append _ _
      · exact .inr ⟨switches, inside,
          states.trans (apply_ofconnections _ _ _ _)⟩

/-- No running connection is lost. -/
def KeepsRunning (ofsc : OFServerSettings) (numSwitches : Int)
    (past : List ServerEvent) : ServerEvent → Prop
  | .started => True
  | .on id event =>
      ∀ cc, (run ofsc numSwitches past).ofconnections[id]? = some cc →
        ¬leaves ofsc cc event

/-- At every point of the run the list is accurate, and where the tenant is
told that it is connected all the switches are up. -/
structure AccurateRun (ofsc : OFServerSettings) (numSwitches : Int)
    (events : List ServerEvent) : Prop where
  accurate : ∀ past future, events = past ++ future →
    Accurate (run ofsc numSwitches past)
  connected : ∀ call ∈ (run ofsc numSwitches events).tenantConnected,
    SwitchesUp numSwitches call

theorem Up.append {ofconnections : List OFConnection} {id : Nat} :
    Up (ofconnections ++ [.new]) id ↔ Up ofconnections id := by
  constructor
  · rintro ⟨cc, present, running⟩
    rw [List.getElem?_append] at present
    split at present
    · exact ⟨cc, present, running⟩
    · have isNew : cc = .new := by
        rw [List.getElem?_singleton] at present
        split at present
        · exact (Option.some.inj present).symm
        · cases present
      rw [isNew] at running
      cases running
  · rintro ⟨cc, present, running⟩
    refine ⟨cc, ?_, running⟩
    rw [List.getElem?_append_left (List.getElem?_eq_some_iff.mp present).1]
    exact present

theorem up_set {ofconnections : List OFConnection} {id : Nat}
    {cc next : OFConnection} (present : ofconnections[id]? = some cc)
    (other : Nat) :
    Up (ofconnections.set id next) other ↔
      if id = other then next.state = .running else Up ofconnections other := by
  have inside := (List.getElem?_eq_some_iff.mp present).1
  unfold Up
  rw [List.getElem?_set]
  by_cases same : id = other
  · simp [same, same ▸ inside]
  · simp [same]

theorem step_on {ofsc : OFServerSettings} {numSwitches : Int}
    {server : Connections} {id : Nat} {cc : OFConnection}
    (present : server.ofconnections[id]? = some cc) (event : Event) :
    (server.step ofsc numSwitches (.on id event)).ofconnections =
        server.ofconnections.set id (react ofsc cc event).1 ∧
      (server.step ofsc numSwitches (.on id event)).conns =
        server.conns ++
          List.replicate ((react ofsc cc event).2.count .pushConn) id := by
  simp only [step, present]
  exact foldl_conns numSwitches id _ _

theorem step_none {ofsc : OFServerSettings} {numSwitches : Int}
    {server : Connections} {id : Nat}
    (absent : server.ofconnections[id]? = none) (event : Event) :
    server.step ofsc numSwitches (.on id event) = server := by
  simp only [step, absent]

theorem Accurate.step {ofsc : OFServerSettings} {numSwitches : Int}
    {server : Connections} (accurate : Accurate server) {event : ServerEvent}
    (keepsRunning : ∀ id connEvent, event = .on id connEvent →
      ∀ cc, server.ofconnections[id]? = some cc → ¬leaves ofsc cc connEvent) :
    Accurate (server.step ofsc numSwitches event) := by
  cases event with
  | started =>
      exact ⟨accurate.distinct, fun id =>
        (accurate.running id).trans Up.append.symm⟩
  | on id event =>
      cases present : server.ofconnections[id]? with
      | none =>
          rw [step_none present]
          exact accurate
      | some cc =>
          obtain ⟨ofconnections, conns⟩ := @step_on ofsc numSwitches _ _ _
            present event
          have stays := keepsRunning id event rfl cc present
          have listed : id ∈ server.conns ↔ cc.state = .running := by
            rw [accurate.running id, Up, present]
            simp
          by_cases entering : cc.state ≠ .running ∧ completes event
          · have enters := react_enters ofsc entering.1 entering.2
            rw [enters.pushed, List.replicate_one] at conns
            have unlisted : id ∉ server.conns := by
              rw [listed]
              exact entering.1
            refine ⟨?_, ?_⟩
            · rw [conns, List.nodup_append]
              refine ⟨accurate.distinct, by simp, ?_⟩
              intro other member last lastMember same
              rw [List.mem_singleton.mp lastMember] at same
              exact unlisted (same ▸ member)
            · intro other
              rw [conns, ofconnections, up_set present, List.mem_append,
                List.mem_singleton]
              by_cases same : id = other
              · simp [same, enters.running]
              · simp [same, Ne.symm same, accurate.running other]
          · have keeps : Keeps cc.state (react ofsc cc event) := by
              apply react_keeps
              by_cases running : cc.state = .running
              · exact .inl running
              · exact .inr (by simpa [running] using entering)
            have sameState : (react ofsc cc event).1.state = .running ↔
                cc.state = .running := by
              constructor
              · exact keeps.running
              · intro running
                exact (react_running_iff ofsc event running).mpr stays
            rw [keeps.pushed, List.replicate_zero, List.append_nil] at conns
            refine ⟨conns.symm ▸ accurate.distinct, ?_⟩
            intro other
            rw [conns, ofconnections, up_set present]
            by_cases same : id = other
            · rw [if_pos same, sameState, ← same]
              exact listed
            · rw [if_neg same]
              exact accurate.running other

theorem accurate_run {ofsc : OFServerSettings} {numSwitches : Int}
    {events : List ServerEvent}
    (admissible : History.Admissible (KeepsRunning ofsc numSwitches) events) :
    Accurate (run ofsc numSwitches events) := by
  refine admissible.invariant ⟨List.nodup_nil, by simp [run, initial, Up]⟩ ?_
  intro past event _ keepsRunning accurate
  rw [run_snoc]
  apply accurate.step
  rintro id connEvent rfl
  exact keepsRunning

/-- A call that a step adds finds the switches up if the step leaves the list
accurate. -/
theorem connected_step {ofsc : OFServerSettings} {numSwitches : Int}
    {server : Connections} {event : ServerEvent}
    (accurate : Accurate (server.step ofsc numSwitches event))
    (earlier : ∀ call ∈ server.tenantConnected, SwitchesUp numSwitches call) :
    ∀ call ∈ (server.step ofsc numSwitches event).tenantConnected,
      SwitchesUp numSwitches call := by
  intro call member
  cases event with
  | started => exact earlier call member
  | on id event =>
      cases present : server.ofconnections[id]? with
      | none =>
          rw [step_none present] at member
          exact earlier call member
      | some cc =>
          simp only [Connections.step, present] at member accurate
          rcases foldl_calls numSwitches id _ _ call member with
            before | ⟨switches, inside, states⟩
          · exact earlier call before
          · refine ⟨call.1, accurate.distinct.sublist inside.sublist, ?_, ?_⟩
            · rw [← switches]
              exact int32_le _
            · intro other listed
              have up := (accurate.running other).mp (inside.subset listed)
              rw [(foldl_conns numSwitches id _ _).1] at up
              rw [states]
              exact up

/-- The list of connections is accurate throughout a run exactly when no
running connection fails, is declared dead or is closed in it. -/
theorem accurateRun_iff (ofsc : OFServerSettings) (numSwitches : Int)
    (events : List ServerEvent) :
    AccurateRun ofsc numSwitches events ↔
      History.Admissible (KeepsRunning ofsc numSwitches) events := by
  constructor
  · intro accurateRun
    have accurate := accurateRun.accurate
    clear accurateRun
    induction events using List.reverseRecOn with
    | nil => exact History.admissible_nil
    | append_singleton past event induction =>
        rw [History.admissible_snoc]
        refine ⟨induction ?_, ?_⟩
        · intro first second split
          exact accurate first (second ++ [event]) (by rw [split]; simp)
        · have before := accurate past [event] rfl
          have after := accurate (past ++ [event]) [] (by simp)
          cases event with
          | started => trivial
          | on id event =>
              intro cc present left
              obtain ⟨ofconnections, conns⟩ := @step_on ofsc numSwitches _ _ _
                present event
              have running : cc.state = .running := by
                cases event with
                | message msg => exact left.1
                | timer => exact left.1
                | down => exact left.1
              have listed := (before.running id).mpr ⟨cc, present, running⟩
              have up := (after.running id).mp (by
                rw [run_snoc, conns]
                exact List.mem_append_left _ listed)
              rw [run_snoc, ofconnections, up_set present, if_pos rfl] at up
              exact (react_running_iff ofsc event running).mp up left
  · intro admissible
    refine ⟨?_, ?_⟩
    · rintro past future rfl
      exact accurate_run admissible.past
    · refine admissible.invariant (by simp [run, initial]) ?_
      intro past event pastAdmissible keepsRunning connected
      rw [run_snoc]
      have accurate : Accurate (run ofsc numSwitches (past ++ [event])) :=
        accurate_run ((History.admissible_snoc past event).mpr
          ⟨pastAdmissible, keepsRunning⟩)
      rw [run_snoc] at accurate
      exact connected_step accurate connected

/-- The messages of a switch that connects. -/
def handshakeOf (id : Nat) : List ServerEvent :=
  [.started, .on id (.message (OFMessage.header 1 0 8 15)),
    .on id (.message (OFMessage.header 1 6 32 15))]

/-- A switch that connects, closes its connection and connects again. -/
def reconnected : List ServerEvent :=
  handshakeOf 0 ++ [.on 0 .down] ++ handshakeOf 1

/-- With two switches expected the tenant is told that it is connected when
one is. -/
theorem accurateRun_reconnected :
    (run (startController 10) 2 reconnected).conns = [0, 1] ∧
      (run (startController 10) 2 reconnected).tenantConnected.length = 1 ∧
      ¬AccurateRun (startController 10) 2 reconnected := by
  refine ⟨by decide +kernel, by decide +kernel, ?_⟩
  intro accurateRun
  have accurate := accurateRun.accurate reconnected [] (by simp)
  have up := (accurate.running 0).mp (by decide +kernel)
  obtain ⟨cc, present, running⟩ := up
  have down : ((run (startController 10) 2 reconnected).ofconnections[0]?.map
      OFConnection.state) = some .down := by
    decide +kernel
  rw [present, Option.map_some, running] at down
  cases down

end Connections

end OFServer

end Perfbench
