import Perfbench.Connection.OFServer
import Perfbench.Counter.Run
import Perfbench.Library.Removal

/-!
# EchoRequest runs with their liveness check

The server sends echo requests of its own, all with the same xid, which is
that of a request of the first connection, too.  Their replies go the way of
all echo replies: to every callback registered for them, and to the counter.
A connection without a reply is closed, which finishes every tenant.
-/

namespace Perfbench

/-- What happens in an EchoRequest run, on connections numbered by their list
index.  A reply comes with the first steps of the loop over the callbacks; the
callbacks read the clock, and past the ends of the tables. -/
inductive EchoEvent where
  | established (connId : Int) (version switchPorts : Nat)
  | allConnected (now : ℚ)
  | request (connIndex : Nat) (msg : Message)
  | echoReply (connIndex xid steps : Nat) (clock : Nat → ℚ)
      (pastEnd : Nat → PastEnd)
  | newInterval (now : ℚ)
  /-- the timer of `send_echo` fires -/
  | timer (connIndex : Nat)
  /-- the reply to the request of `send_echo` -/
  | livenessReply (connIndex steps : Nat) (clock : Nat → ℚ)
      (pastEnd : Nat → PastEnd)

/-- What is done to the counter of a testcase. -/
inductive CounterCall where
  | counting (event : Event)
  | reset (now : ℚ)
  /-- `count_response` for a reply to the liveness check -/
  | liveness (connIndex : Nat) (msg : Message) (pastEnd : PastEnd)
  /-- `finish`, once the liveness check has closed a connection -/
  | finish

def EchoEvent.isLiveness : EchoEvent → Bool
  | .timer _ => true
  | .livenessReply _ _ _ _ => true
  | _ => false

namespace CounterCall

def isLiveness : CounterCall → Bool
  | .liveness _ _ _ => true
  | .finish => true
  | _ => false

/-- The calls of the controller's only thread; the senders and the reporter
have threads of their own. -/
def byController : CounterCall → Bool
  | .counting (.established _) => true
  | .counting (.request _ _) => false
  | .counting (.response _ _ _) => true
  | .counting (.newInterval _) => false
  | .reset _ => false
  | .liveness _ _ _ => true
  | .finish => true

end CounterCall

/-- A counter in use: whether the controller's thread is in a search without
end, and whether the testcase is finished. -/
structure Counting where
  counter : Counter
  stuck : Bool
  finished : Bool

namespace Counting

def start : Counting where
  counter := .initial
  stuck := false
  finished := false

def respond (pastEnd : PastEnd) (msg : Message) (connIndex : Nat)
    (counting : Counting) : Counting :=
  { counting with
    counter := counting.counter.countResponse pastEnd msg connIndex
    stuck := counting.counter.searchesOn pastEnd msg connIndex }

def make (counting : Counting) : CounterCall → Counting
  | .counting (.response connIndex msg pastEnd) =>
      counting.respond pastEnd msg connIndex
  | .counting event =>
      { counting with counter := counting.counter.step event }
  | .reset now => { counting with counter := counting.counter.reset now }
  | .liveness connIndex msg pastEnd => counting.respond pastEnd msg connIndex
  | .finish => { counting with finished := true }

/-- The calls of a thread that is in a search without end are not made.  What
is counted after `finish` enters neither the report nor the logfile. -/
def call (counting : Counting) (call : CounterCall) : Counting :=
  if counting.finished ∨ (counting.stuck ∧ call.byController) then counting
  else counting.make call

/-- The measurement goes on. -/
structure Going (counting : Counting) : Prop where
  notFinished : counting.finished = false
  notStuck : counting.stuck = false

end Counting

/-- The controller of an EchoRequest tenant and its connections. -/
structure EchoTenant where
  controller : Controller
  ofconnections : List OFConnection
  /-- the requests of `send_echo` that are not yet answered -/
  unanswered : Nat → Nat

namespace EchoTenant

def start (tenantId : Nat) : EchoTenant where
  controller := .start .echoRequest tenantId
  ofconnections := []
  unanswered := fun _ => 0

/-- A connection after its handshake. -/
def running (version : Nat) : OFConnection :=
  (OFConnection.new.setVersion version).setState .running

/-- The effects that call the callbacks for echo replies, and what each of
these hands to the counter. -/
def handedOver (tenant : EchoTenant) (effects : List (Effect EventType))
    (xid steps : Nat) (clock : Nat → ℚ) : List Message :=
  (effects.flatMap (fun effect =>
    match effect with
    | .dispatch .echoReply =>
        tenant.controller.receive
          (.echoReply { xid, time := 0, bytes := 8, msgType := 3 }) steps
    | _ => [])).mapIdx (fun k msg => { msg with time := clock k })

/-- An echo reply reaches the server. -/
def reply (ofsc : OFServerSettings) (tenant : EchoTenant)
    (connIndex xid steps : Nat) (clock : Nat → ℚ) :
    EchoTenant × List Message :=
  match tenant.ofconnections[connIndex]? with
  | none => (tenant, [])
  | some cc =>
      let reaction := OFServer.react ofsc cc
        (.message (OFMessage.header cc.version 3 8 xid))
      ({ tenant with
          ofconnections := tenant.ofconnections.set connIndex reaction.1 },
        tenant.handedOver reaction.2 xid steps clock)

/-- The callbacks for a closed connection: each has the tenant fail, which
finishes the testcases of all tenants. -/
def disconnected (tenant : EchoTenant) (effects : List (Effect EventType)) :
    List CounterCall :=
  effects.flatMap (fun effect =>
    match effect with
    | .dispatch .connDown =>
        (tenant.controller.dispatchEvent .connDown 256).map (fun _ => .finish)
    | _ => [])

/-- The timer of a connection fires. -/
def timer (ofsc : OFServerSettings) (tenant : EchoTenant) (connIndex : Nat) :
    EchoTenant × List CounterCall :=
  match tenant.ofconnections[connIndex]? with
  | none => (tenant, [])
  | some cc =>
      let reaction := OFServer.react ofsc cc .timer
      ({ tenant with
          ofconnections := tenant.ofconnections.set connIndex reaction.1
          unanswered := Function.update tenant.unanswered connIndex
            (tenant.unanswered connIndex +
              (sentMessages reaction.2).length) },
        tenant.disconnected reaction.2)

def step (ofsc : OFServerSettings) (tenant : EchoTenant) :
    EchoEvent → EchoTenant × List CounterCall
  | .established connId version switchPorts =>
      ({ tenant with
          controller := tenant.controller.connEstablished switchPorts
          ofconnections := tenant.ofconnections ++ [running version] },
        [.counting (.established connId)])
  | .allConnected now => (tenant, [.reset now])
  | .request connIndex msg => (tenant, [.counting (.request connIndex msg)])
  | .echoReply connIndex xid steps clock pastEnd =>
      let received := reply ofsc tenant connIndex xid steps clock
      (received.1, received.2.mapIdx (fun k msg =>
        .counting (.response connIndex msg (pastEnd k))))
  | .newInterval now => (tenant, [.counting (.newInterval now)])
  | .timer connIndex => timer ofsc tenant connIndex
  | .livenessReply connIndex steps clock pastEnd =>
      if 0 < tenant.unanswered connIndex then
        let received := reply ofsc tenant connIndex echoXid steps clock
        ({ received.1 with
            unanswered := Function.update tenant.unanswered connIndex
              (tenant.unanswered connIndex - 1) },
          received.2.mapIdx (fun k msg =>
            .liveness connIndex msg (pastEnd k)))
      else (tenant, [])

def calls (ofsc : OFServerSettings) :
    EchoTenant → List EchoEvent → List CounterCall
  | _, [] => []
  | tenant, event :: events =>
      (step ofsc tenant event).2 ++ calls ofsc (step ofsc tenant event).1 events

/-- The tenant after a run. -/
def after (ofsc : OFServerSettings) (tenant : EchoTenant)
    (events : List EchoEvent) : EchoTenant :=
  events.foldl (fun tenant event => (step ofsc tenant event).1) tenant

theorem calls_append (ofsc : OFServerSettings) (tenant : EchoTenant)
    (first second : List EchoEvent) :
    tenant.calls ofsc (first ++ second) =
      tenant.calls ofsc first ++
        (tenant.after ofsc first).calls ofsc second := by
  induction first generalizing tenant with
  | nil => rfl
  | cons event first induction =>
      rw [List.cons_append, calls, calls, induction, List.append_assoc]
      rfl

theorem calls_snoc (ofsc : OFServerSettings) (tenant : EchoTenant)
    (past : List EchoEvent) (event : EchoEvent) :
    tenant.calls ofsc (past ++ [event]) =
      tenant.calls ofsc past ++
        ((tenant.after ofsc past).step ofsc event).2 := by
  rw [calls_append, calls, calls, List.append_nil]

end EchoTenant

/-- An echo reply is dispatched whatever the state of its connection. -/
theorem OFServer.react_echoReply (ofsc : OFServerSettings)
    (cc : OFConnection) (version xid : Nat) :
    (react ofsc cc (.message (OFMessage.header version 3 8 xid))).2 =
      if ofsc.livenessCheck ∧ ¬ofsc.dispatchAllMessages then []
      else [.dispatch .echoReply] := by
  have dispatched : ∀ cc : OFConnection,
      (Controller.messageCallback (OFMessage.header version 3 8 xid) cc).2 =
        [.dispatch .echoReply] := fun _ => rfl
  cases liveness : ofsc.livenessCheck with
  | true =>
      cases all : ofsc.dispatchAllMessages with
      | true =>
          simpa [react, baseMessageCallback, OFMessage.header, liveness,
            dispatchAll, all] using dispatched _
      | false =>
          simp [react, baseMessageCallback, OFMessage.header, liveness,
            dispatchAll, all]
  | false =>
      simpa [react, baseMessageCallback, OFMessage.header, liveness] using
        dispatched _

theorem rest_counting {msgs : List Message} (call : Nat → Message → Event) :
    Removal.rest CounterCall.isLiveness
        (msgs.mapIdx (fun k msg => .counting (call k msg))) =
      msgs.mapIdx (fun k msg => .counting (call k msg)) := by
  rw [Removal.rest, List.filter_eq_self]
  intro made member
  obtain ⟨k, inside, rfl⟩ := List.mem_mapIdx.mp member
  rfl

theorem rest_liveness {msgs : List Message} (connIndex : Nat)
    (pastEnd : Nat → PastEnd) :
    Removal.rest CounterCall.isLiveness
        (msgs.mapIdx (fun k msg =>
          .liveness connIndex msg (pastEnd k))) = [] := by
  rw [Removal.rest, List.filter_eq_nil_iff]
  intro made member
  obtain ⟨k, inside, rfl⟩ := List.mem_mapIdx.mp member
  simp [CounterCall.isLiveness]

theorem OFServer.react_timer (ofsc : OFServerSettings) (cc : OFConnection) :
    (react ofsc cc .timer).2 =
      if cc.alive then cc.send (OFMessage.header cc.version 2 8 echoXid)
      else [.dispatch .connDown] := by
  rw [react, sendEcho]
  split
  · rfl
  · rfl

namespace EchoTenant

/-- The same callbacks and the same connections, in whatever states. -/
structure Alike (tenant other : EchoTenant) : Prop where
  controller : tenant.controller = other.controller
  connections : tenant.ofconnections.length = other.ofconnections.length

variable {ofsc : OFServerSettings} {tenant other : EchoTenant}

theorem eq_finish_of_mem_disconnected {effects : List (Effect EventType)}
    {call : CounterCall} (member : call ∈ tenant.disconnected effects) :
    call = .finish := by
  obtain ⟨effect, _, called⟩ := List.mem_flatMap.mp member
  split at called
  · obtain ⟨callback, _, same⟩ := List.mem_map.mp called
    exact same.symm
  · cases called

/-- What is done about a reply leaves the callbacks and the connections. -/
theorem alike_reply (connIndex xid steps : Nat) (clock : Nat → ℚ) :
    Alike (tenant.reply ofsc connIndex xid steps clock).1 tenant := by
  unfold reply
  split
  · exact ⟨rfl, rfl⟩
  · exact ⟨rfl, List.length_set⟩

theorem alike_timer (connIndex : Nat) :
    Alike (tenant.timer ofsc connIndex).1 tenant := by
  unfold timer
  split
  · exact ⟨rfl, rfl⟩
  · exact ⟨rfl, List.length_set⟩

theorem rest_timer (connIndex : Nat) :
    Removal.rest CounterCall.isLiveness (tenant.timer ofsc connIndex).2 =
      [] := by
  unfold timer
  split
  · rfl
  · rw [Removal.rest, List.filter_eq_nil_iff]
    intro call member
    rw [eq_finish_of_mem_disconnected member]
    simp [CounterCall.isLiveness]

theorem Alike.reply (alike : Alike tenant other) (connIndex xid steps : Nat)
    (clock : Nat → ℚ) :
    (tenant.reply ofsc connIndex xid steps clock).2 =
      (other.reply ofsc connIndex xid steps clock).2 := by
  rcases Nat.lt_or_ge connIndex tenant.ofconnections.length with
    inside | outside
  · have otherInside := inside
    rw [alike.connections] at otherInside
    simp only [EchoTenant.reply, List.getElem?_eq_getElem inside,
      List.getElem?_eq_getElem otherInside, OFServer.react_echoReply,
      handedOver, alike.controller]
  · have otherOutside := outside
    rw [alike.connections] at otherOutside
    simp only [EchoTenant.reply, List.getElem?_eq_none outside,
      List.getElem?_eq_none otherOutside]

theorem Alike.trans {third : EchoTenant} (first : Alike tenant other)
    (second : Alike other third) : Alike tenant third :=
  ⟨first.controller.trans second.controller,
    first.connections.trans second.connections⟩

theorem Alike.symm (alike : Alike tenant other) : Alike other tenant :=
  ⟨alike.controller.symm, alike.connections.symm⟩

/-- The liveness check changes no more than states of connections, and makes
no other calls than its own. -/
theorem step_liveness {event : EchoEvent} (liveness : event.isLiveness = true) :
    Alike (tenant.step ofsc event).1 tenant ∧
      Removal.rest CounterCall.isLiveness (tenant.step ofsc event).2 = [] := by
  cases event with
  | timer connIndex => exact ⟨alike_timer connIndex, rest_timer connIndex⟩
  | livenessReply connIndex steps clock pastEnd =>
      have unchanged :=
        @alike_reply ofsc tenant connIndex echoXid steps clock
      simp only [step]
      split
      · exact ⟨⟨unchanged.controller, unchanged.connections⟩,
          rest_liveness connIndex pastEnd⟩
      · exact ⟨⟨rfl, rfl⟩, rfl⟩
  | established connId version switchPorts => cases liveness
  | allConnected now => cases liveness
  | request connIndex msg => cases liveness
  | echoReply connIndex xid steps clock pastEnd => cases liveness
  | newInterval now => cases liveness

/-- Whatever else happens does the same whether or not the liveness check is
made. -/
theorem Alike.step {event : EchoEvent} (alike : Alike tenant other)
    (test : event.isLiveness = false) :
    Alike (tenant.step ofsc event).1 (other.step ofsc event).1 ∧
      Removal.rest CounterCall.isLiveness (tenant.step ofsc event).2 =
        (other.step ofsc event).2 := by
  cases event with
  | timer connIndex => cases test
  | livenessReply connIndex steps clock pastEnd => cases test
  | established connId version switchPorts =>
      refine ⟨⟨?_, ?_⟩, rfl⟩
      · simp only [EchoTenant.step, alike.controller]
      · simp only [EchoTenant.step, List.length_append, alike.connections]
  | allConnected now => exact ⟨alike, rfl⟩
  | request connIndex msg => exact ⟨alike, rfl⟩
  | newInterval now => exact ⟨alike, rfl⟩
  | echoReply connIndex xid steps clock pastEnd =>
      simp only [EchoTenant.step]
      refine ⟨?_, ?_⟩
      · exact ((alike_reply ..).trans alike).trans (alike_reply ..).symm
      · rw [rest_counting, alike.reply]

theorem Alike.calls (alike : Alike tenant other) (events : List EchoEvent) :
    other.calls ofsc (Removal.rest EchoEvent.isLiveness events) =
      Removal.rest CounterCall.isLiveness (tenant.calls ofsc events) := by
  induction events generalizing tenant other with
  | nil => rfl
  | cons event events induction =>
      rw [EchoTenant.calls, Removal.rest_append]
      cases liveness : event.isLiveness with
      | true =>
          obtain ⟨unchanged, none⟩ :=
            @step_liveness ofsc tenant event liveness
          rw [none, List.nil_append, ← induction (unchanged.trans alike),
            Removal.rest, List.filter_cons_of_neg (by simp [liveness]),
            Removal.rest]
      | false =>
          obtain ⟨next, same⟩ := @Alike.step ofsc tenant other event alike
            liveness
          rw [same, ← induction next, Removal.rest,
            List.filter_cons_of_pos (by simp [liveness]), EchoTenant.calls,
            Removal.rest]

end EchoTenant

end Perfbench
