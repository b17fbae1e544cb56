import Perfbench.Library.ByteLoop
import Perfbench.Testcases.PacketIn

/-!
# The controller and the replies it hands over

The controller keeps a list of callbacks for each type of event and calls all
of them when one occurs.  Several testcases register their callback for
replies whenever a connection is established, so a reply reaches the counter
once for every connection that registered.
-/

namespace Perfbench

/-- The types of controller events. -/
inductive EventType where
  | packetIn
  | connDown
  | connUp
  | echoRequest
  | echoReply
  | featuresReply
  | statsReply
  | multipartReply
  deriving DecidableEq

/-- A message from a switch, with what the testcases read of it. -/
inductive SwitchMsg where
  | echoReply (reply : Message)
  | featuresReply (reply : Message)
  | packetIn (time : ℚ) (msg : PacketInMsg)
  | statsReply (reply : Message)
  | multipartReply (reply : Message)

namespace SwitchMsg

/-- The message type in the OpenFlow header. -/
def ofType : SwitchMsg → Nat
  | .echoReply _ => 3
  | .featuresReply _ => 6
  | .packetIn _ _ => 10
  | .statsReply _ => 17
  | .multipartReply _ => 19

end SwitchMsg

inductive Testcase where
  | featuresRequest
  | echoRequest
  | portStatsRequest
  | flowStatsRequest
  | packetIn
  deriving DecidableEq

/-- The callbacks registered for each type of event, each the
`ctrl_event_callback` of a testcase, and the number of switch ports of each
connection. -/
structure Controller where
  testcase : Testcase
  tenantId : Nat
  conns : List Nat
  eventListeners : EventType → List Testcase

inductive ControllerEvent where
  | established (switchPorts : Nat)
  | received (msg : SwitchMsg)
  | closed

namespace Controller

def registerForEvent (callback : Testcase) (eventType : EventType)
    (controller : Controller) : Controller :=
  { controller with
    eventListeners := fun other =>
      if other = eventType then
        controller.eventListeners eventType ++ [callback]
      else controller.eventListeners other }

/-- The callbacks that the loop of `dispatch_event` calls in its first
steps. -/
def dispatchEvent (eventType : EventType) (steps : Nat)
    (controller : Controller) : List Testcase :=
  ByteLoop.items (controller.eventListeners eventType) steps

end Controller

namespace Testcase

def startTestcase (testcase : Testcase) (controller : Controller) :
    Controller :=
  match testcase with
  | .featuresRequest => controller.registerForEvent testcase .featuresReply
  | .echoRequest => controller
  | .portStatsRequest => controller
  | .flowStatsRequest => controller
  | .packetIn => controller

/-- The registrations of `ctrl_conn_established`. -/
def ctrlConnEstablished (testcase : Testcase) (controller : Controller) :
    Controller :=
  match testcase with
  | .featuresRequest => controller
  | .echoRequest => controller.registerForEvent testcase .echoReply
  | .portStatsRequest =>
      (controller.registerForEvent testcase .statsReply).registerForEvent
        testcase .multipartReply
  | .flowStatsRequest =>
      if controller.conns.any (fun switchPorts => switchPorts < 2) then
        controller
      else
        (controller.registerForEvent testcase .statsReply).registerForEvent
          testcase .multipartReply
  | .packetIn =>
      if controller.conns.any (fun switchPorts => switchPorts < 2) then
        controller
      else controller.registerForEvent testcase .packetIn

/-- The reply branches of `ctrl_event_callback`: what is handed to
`count_response`. -/
def handOver (tenantId : Nat) : Testcase → SwitchMsg → Option Message
  | .featuresRequest, .featuresReply reply => some reply
  | .echoRequest, .echoReply reply => some reply
  | .portStatsRequest, .statsReply reply => some reply
  | .portStatsRequest, .multipartReply reply => some reply
  | .flowStatsRequest, .statsReply reply => some reply
  | .flowStatsRequest, .multipartReply reply => some reply
  | .packetIn, .packetIn time msg => PacketIn.processPacketIn tenantId time msg
  | _, _ => none

end Testcase

namespace Controller

/-- `start_controller` and `start_testcase`. -/
def start (testcase : Testcase) (tenantId : Nat) : Controller :=
  let controller : Controller :=
    { testcase
      tenantId
      conns := []
      eventListeners := fun _ => [] }
  testcase.startTestcase
    ((controller.registerForEvent testcase .connUp).registerForEvent testcase
      .connDown)

/-- The event dispatched for a message on a running connection. -/
def messageEvent (ofType : Nat) : Option EventType :=
  if ofType = 10 then some .packetIn
  else if ofType = 6 then some .featuresReply
  else if ofType = 2 then some .echoRequest
  else if ofType = 3 then some .echoReply
  else if ofType = 17 then some .statsReply
  else if ofType = 19 then some .multipartReply
  else none

/-- The calls of `count_response` for a message on a running connection, in
the first steps of the dispatch loop. -/
def receive (msg : SwitchMsg) (steps : Nat) (controller : Controller) :
    List Message :=
  match messageEvent msg.ofType with
  | none => []
  | some eventType =>
      (controller.dispatchEvent eventType steps).filterMap
        (fun callback => callback.handOver controller.tenantId msg)

/-- A new connection enters the list and is announced to the callbacks for
it; 256 steps end a loop over at most 255 of them. -/
def connEstablished (switchPorts : Nat) (controller : Controller) :
    Controller :=
  let connected :=
    { controller with conns := controller.conns ++ [switchPorts] }
  (connected.dispatchEvent .connUp 256).foldl
    (fun controller callback => callback.ctrlConnEstablished controller)
    connected

/-- Messages and closed connections change neither list. -/
def step (controller : Controller) : ControllerEvent → Controller
  | .established switchPorts => controller.connEstablished switchPorts
  | .received _ => controller
  | .closed => controller

def run (controller : Controller) (events : List ControllerEvent) :
    Controller :=
  events.foldl step controller

end Controller

/-- The switch ports of the connections established in a run. -/
def establishedPorts (events : List ControllerEvent) : List Nat :=
  events.filterMap (fun event => match event with
    | .established switchPorts => some switchPorts
    | .received _ => none
    | .closed => none)

namespace Testcase

/-- How often the testcase is registered for its replies once connections with
these ports are established. -/
def registrations : Testcase → List Nat → Nat
  | .featuresRequest, _ => 1
  | .echoRequest, ports => ports.length
  | .portStatsRequest, ports => ports.length
  | .flowStatsRequest, ports =>
      (ports.takeWhile (fun switchPorts => 2 ≤ switchPorts)).length
  | .packetIn, ports =>
      (ports.takeWhile (fun switchPorts => 2 ≤ switchPorts)).length

/-- The events of the testcase's replies. -/
def replyEvents : Testcase → List EventType
  | .featuresRequest => [.featuresReply]
  | .echoRequest => [.echoReply]
  | .portStatsRequest => [.statsReply, .multipartReply]
  | .flowStatsRequest => [.statsReply, .multipartReply]
  | .packetIn => [.packetIn]

end Testcase

namespace Controller

/-- The listeners are those that the connections registered. -/
structure Registered (testcase : Testcase) (tenantId : Nat) (ports : List Nat)
    (controller : Controller) : Prop where
  tenantId : controller.tenantId = tenantId
  conns : controller.conns = ports
  connUp : controller.eventListeners .connUp = [testcase]
  replies : ∀ eventType ∈ testcase.replyEvents,
    controller.eventListeners eventType =
      List.replicate (testcase.registrations ports) testcase
  callbacks : ∀ eventType, ∀ callback ∈ controller.eventListeners eventType,
    callback = testcase

theorem registerForEvent_listeners (callback : Testcase)
    (eventType other : EventType) (controller : Controller) :
    (controller.registerForEvent callback eventType).eventListeners other =
      if other = eventType then
        controller.eventListeners eventType ++ [callback]
      else controller.eventListeners other := rfl

/-- Register one callback for several events. -/
def registerAll (callback : Testcase) (eventTypes : List EventType)
    (controller : Controller) : Controller :=
  eventTypes.foldl
    (fun controller eventType => controller.registerForEvent callback eventType)
    controller

theorem registerAll_listeners (callback : Testcase)
    (eventTypes : List EventType) (controller : Controller)
    (other : EventType) :
    (controller.registerAll callback eventTypes).eventListeners other =
      controller.eventListeners other ++
        List.replicate (eventTypes.count other) callback := by
  induction eventTypes generalizing controller with
  | nil => simp [registerAll]
  | cons eventType eventTypes induction =>
      have rest := induction (controller.registerForEvent callback eventType)
      rw [registerForEvent_listeners] at rest
      change (registerAll callback eventTypes _).eventListeners other = _
      rw [rest, List.count_cons]
      by_cases same : other = eventType
      · simp [same, List.replicate_succ]
      · have different : eventType ≠ other := Ne.symm same
        simp [same, different]

theorem registerAll_fields (callback : Testcase) (eventTypes : List EventType)
    (controller : Controller) :
    (controller.registerAll callback eventTypes).tenantId =
        controller.tenantId ∧
      (controller.registerAll callback eventTypes).conns =
        controller.conns := by
  induction eventTypes generalizing controller with
  | nil => exact ⟨rfl, rfl⟩
  | cons eventType eventTypes induction => exact induction _

/-- The state of a controller whose testcase is registered `count` times for
its replies. -/
theorem registered_registerAll {testcase : Testcase} {tenantId : Nat}
    {ports : List Nat} {controller : Controller} {eventTypes : List EventType}
    (tenant : controller.tenantId = tenantId) (conns : controller.conns = ports)
    (connUp : controller.eventListeners .connUp ++
      List.replicate (eventTypes.count .connUp) testcase = [testcase])
    (replies : ∀ eventType ∈ testcase.replyEvents,
      controller.eventListeners eventType ++
          List.replicate (eventTypes.count eventType) testcase =
        List.replicate (testcase.registrations ports) testcase)
    (callbacks : ∀ eventType,
      ∀ callback ∈ controller.eventListeners eventType, callback = testcase) :
    Registered testcase tenantId ports
      (controller.registerAll testcase eventTypes) := by
  obtain ⟨sameTenant, sameConns⟩ :=
    registerAll_fields testcase eventTypes controller
  refine ⟨sameTenant.trans tenant, sameConns.trans conns, ?_, ?_, ?_⟩
  · rw [registerAll_listeners]
    exact connUp
  · intro eventType member
    rw [registerAll_listeners]
    exact replies eventType member
  · intro eventType callback member
    rw [registerAll_listeners] at member
    rcases List.mem_append.mp member with old | new
    · exact callbacks eventType callback old
    · exact List.eq_of_mem_replicate new

theorem registered_start (testcase : Testcase) (tenantId : Nat) :
    Registered testcase tenantId [] (start testcase tenantId) := by
  have started : start testcase tenantId =
      registerAll testcase
        (.connUp :: .connDown ::
          if testcase = .featuresRequest then [.featuresReply] else [])
        { testcase, tenantId, conns := [], eventListeners := fun _ => [] } := by
    cases testcase <;> rfl
  rw [started]
  refine registered_registerAll rfl rfl ?_ ?_ ?_
  · cases testcase <;> rfl
  · simp only [List.nil_append]
    cases testcase <;> decide
  · intro eventType callback member
    simp at member

end Controller

namespace Testcase

/-- A new connection does not register the testcase, given the ports of all
connections. -/
def declines : Testcase → List Nat → Bool
  | .featuresRequest, _ => true
  | .echoRequest, _ => false
  | .portStatsRequest, _ => false
  | .flowStatsRequest, ports => ports.any (fun switchPorts => switchPorts < 2)
  | .packetIn, ports => ports.any (fun switchPorts => switchPorts < 2)

theorem ctrlConnEstablished_eq (testcase : Testcase)
    (controller : Controller) :
    testcase.ctrlConnEstablished controller =
      controller.registerAll testcase
        (if testcase.declines controller.conns then []
          else testcase.replyEvents) := by
  cases testcase with
  | featuresRequest => rfl
  | echoRequest => rfl
  | portStatsRequest => rfl
  | flowStatsRequest =>
      by_cases few : Testcase.flowStatsRequest.declines controller.conns = true
      · rw [if_pos few]
        exact if_pos few
      · rw [if_neg few]
        exact if_neg few
  | packetIn =>
      by_cases few : Testcase.packetIn.declines controller.conns = true
      · rw [if_pos few]
        exact if_pos few
      · rw [if_neg few]
        exact if_neg few

/-- The connections register as long as all switches so far have ports
enough. -/
theorem takeWhile_ports (ports : List Nat) (switchPorts : Nat) :
    ((ports ++ [switchPorts]).takeWhile (fun count => 2 ≤ count)).length =
      (ports.takeWhile (fun count => 2 ≤ count)).length +
        if (ports ++ [switchPorts]).any (fun count => count < 2) then 0
        else 1 := by
  induction ports with
  | nil =>
      by_cases few : switchPorts < 2
      · have tooFew : ¬2 ≤ switchPorts := by omega
        simp only [List.nil_append, List.takeWhile_cons, List.any_cons, tooFew,
          few, decide_true, decide_false, Bool.true_or, if_true,
          Bool.false_eq_true, if_false]
        rfl
      · have enough : 2 ≤ switchPorts := by omega
        simp only [List.nil_append, List.takeWhile_cons, List.any_cons, enough,
          few, decide_true, decide_false, if_true]
        rfl
  | cons first ports induction =>
      by_cases few : first < 2
      · have tooFew : ¬2 ≤ first := by omega
        simp only [List.cons_append, List.takeWhile_cons, List.any_cons, tooFew,
          few, decide_true, decide_false, Bool.true_or, if_true,
          Bool.false_eq_true, if_false]
        rfl
      · have enough : 2 ≤ first := by omega
        simp only [List.cons_append, List.takeWhile_cons, enough,
          decide_true, if_true, List.length_cons, induction, List.any_cons,
          few, decide_false, Bool.false_or]
        omega

theorem registrations_snoc (testcase : Testcase) (ports : List Nat)
    (switchPorts : Nat) :
    testcase.registrations (ports ++ [switchPorts]) =
      testcase.registrations ports +
        if testcase.declines (ports ++ [switchPorts]) then 0 else 1 := by
  cases testcase with
  | featuresRequest => rfl
  | echoRequest => simp [registrations, declines]
  | portStatsRequest => simp [registrations, declines]
  | flowStatsRequest => exact takeWhile_ports ports switchPorts
  | packetIn => exact takeWhile_ports ports switchPorts

theorem count_replyEvents (testcase : Testcase) :
    testcase.replyEvents.count .connUp = 0 ∧
      ∀ eventType ∈ testcase.replyEvents,
        testcase.replyEvents.count eventType = 1 := by
  cases testcase <;> decide

theorem handOver_replyEvents {testcase : Testcase} {tenantId : Nat}
    {msg : SwitchMsg} {handed : Message}
    (handOver : testcase.handOver tenantId msg = some handed) :
    ∃ eventType ∈ testcase.replyEvents,
      Controller.messageEvent msg.ofType = some eventType := by
  cases testcase <;> cases msg <;>
    simp_all [Testcase.handOver, replyEvents, Controller.messageEvent,
      SwitchMsg.ofType]

theorem exists_handOver (testcase : Testcase) (tenantId : Nat) :
    ∃ msg handed, testcase.handOver tenantId msg = some handed := by
  let reply : Message := { xid := 1, time := 0, bytes := 8, msgType := 0 }
  cases testcase with
  | featuresRequest => exact ⟨.featuresReply reply, reply, rfl⟩
  | echoRequest => exact ⟨.echoReply reply, reply, rfl⟩
  | portStatsRequest => exact ⟨.statsReply reply, reply, rfl⟩
  | flowStatsRequest => exact ⟨.statsReply reply, reply, rfl⟩
  | packetIn =>
      refine ⟨.packetIn 0
        { totalLen := 60
          dstPort := some (PacketIn.tenantPort tenantId)
          payload := ['1']
          length := 78
          msgType := 10 },
        { xid := 1, time := 0, bytes := 78, msgType := 10 }, ?_⟩
      have xid : PacketIn.payloadXid ['1'] = some 1 := by decide
      simp [handOver, PacketIn.processPacketIn, xid]

end Testcase

namespace Controller

theorem connEstablished_eq {testcase : Testcase} {tenantId switchPorts : Nat}
    {ports : List Nat} {controller : Controller}
    (registered : Registered testcase tenantId ports controller) :
    controller.connEstablished switchPorts =
      testcase.ctrlConnEstablished
        { controller with conns := controller.conns ++ [switchPorts] } := by
  simp only [connEstablished, dispatchEvent, registered.connUp]
  rw [ByteLoop.items_singleton]
  rfl

theorem Registered.connEstablished {testcase : Testcase}
    {tenantId switchPorts : Nat} {ports : List Nat} {controller : Controller}
    (registered : Registered testcase tenantId ports controller) :
    Registered testcase tenantId (ports ++ [switchPorts])
      (controller.connEstablished switchPorts) := by
  rw [connEstablished_eq registered, Testcase.ctrlConnEstablished_eq,
    registered.conns]
  obtain ⟨noConnUp, once⟩ := testcase.count_replyEvents
  refine registered_registerAll registered.tenantId rfl ?_ ?_ ?_
  · have unchanged : (if testcase.declines (ports ++ [switchPorts]) then []
        else testcase.replyEvents).count EventType.connUp = 0 := by
      split
      · rfl
      · exact noConnUp
    rw [unchanged, registered.connUp]
    rfl
  · intro eventType member
    rw [registered.replies eventType member, Testcase.registrations_snoc]
    split
    · simp
    · rw [once eventType member, List.replicate_append_replicate]
  · exact registered.callbacks

theorem registered_run (testcase : Testcase) (tenantId : Nat)
    (events : List ControllerEvent) :
    Registered testcase tenantId (establishedPorts events)
      ((start testcase tenantId).run events) := by
  induction events using List.reverseRecOn with
  | nil => exact registered_start testcase tenantId
  | append_singleton past event induction =>
      have stepped : (start testcase tenantId).run (past ++ [event]) =
          ((start testcase tenantId).run past).step event := by
        simp [run]
      rw [stepped, establishedPorts, List.filterMap_append]
      cases event with
      | established switchPorts => exact induction.connEstablished
      | received msg => simpa [establishedPorts, step] using induction
      | closed => simpa [establishedPorts, step] using induction

/-- A reply is handed over once for every registration, until the loop ends
or wraps. -/
theorem receive_reply {testcase : Testcase} {tenantId : Nat} {ports : List Nat}
    {controller : Controller} {msg : SwitchMsg} {handed : Message}
    (registered : Registered testcase tenantId ports controller)
    (handOver : testcase.handOver tenantId msg = some handed) (steps : Nat) :
    controller.receive msg steps =
      (ByteLoop.items
        (List.replicate (testcase.registrations ports) testcase) steps).map
          (fun _ => handed) := by
  obtain ⟨eventType, member, event⟩ := Testcase.handOver_replyEvents handOver
  simp only [receive, event, dispatchEvent, registered.replies eventType member,
    registered.tenantId]
  rw [← List.filterMap_eq_map]
  apply List.filterMap_congr
  intro callback called
  have same := List.eq_of_mem_replicate (ByteLoop.mem_of_mem_items called)
  rw [same, handOver]
  rfl

theorem receive_other {testcase : Testcase} {tenantId : Nat} {ports : List Nat}
    {controller : Controller} {msg : SwitchMsg}
    (registered : Registered testcase tenantId ports controller)
    (handOver : testcase.handOver tenantId msg = none) (steps : Nat) :
    controller.receive msg steps = [] := by
  rw [receive]
  split
  · rfl
  · rename_i eventType _
    rw [List.filterMap_eq_nil_iff]
    intro callback called
    rw [registered.callbacks eventType callback
      (ByteLoop.mem_of_mem_items called), registered.tenantId, handOver]

end Controller

/-- Whatever connections were established, every message is handed to the
counter at most once exactly when the testcase registered at most once. -/
theorem handedOver_once_iff (testcase : Testcase) (tenantId : Nat)
    (events : List ControllerEvent) :
    (∀ msg steps, (((Controller.start testcase tenantId).run events).receive msg
        steps).length ≤ 1) ↔
      testcase.registrations (establishedPorts events) ≤ 1 := by
  have registered := Controller.registered_run testcase tenantId events
  constructor
  · intro once
    obtain ⟨msg, handed, handOver⟩ := testcase.exists_handOver tenantId
    have twoSteps := once msg 2
    rw [Controller.receive_reply registered handOver, List.length_map]
      at twoSteps
    by_contra several
    obtain ⟨rest, count⟩ : ∃ rest,
        testcase.registrations (establishedPorts events) = rest + 2 :=
      ⟨testcase.registrations (establishedPorts events) - 2, by omega⟩
    rw [count, List.replicate_succ, List.replicate_succ,
      ByteLoop.items_pair] at twoSteps
    exact absurd twoSteps (by simp)
  · intro atMostOne msg steps
    cases handOver : testcase.handOver tenantId msg with
    | none => simp [Controller.receive_other registered handOver]
    | some handed =>
        rw [Controller.receive_reply registered handOver, List.length_map]
        rcases Nat.le_one_iff_eq_zero_or_eq_one.mp atMostOne with none | one
        · rw [none, List.replicate_zero, ByteLoop.items_nil]
          exact Nat.zero_le 1
        · rw [one, List.replicate_one]
          cases steps with
          | zero => exact Nat.zero_le 1
          | succ steps =>
              rw [ByteLoop.items_singleton]
              exact Nat.le_refl 1

/-- Two connections of an EchoRequest run, each with two switch ports. -/
def twoEchoConnections : List ControllerEvent :=
  [.established 2, .established 2]

/-- A single reply is handed to the counter twice. -/
theorem handedOver_twoEchoConnections :
    (((Controller.start .echoRequest 1).run twoEchoConnections).receive
        (.echoReply { xid := 1, time := 2, bytes := 8, msgType := 3 })
        256).length = 2 ∧
      ¬∀ msg steps, (((Controller.start .echoRequest 1).run
        twoEchoConnections).receive msg steps).length ≤ 1 := by
  refine ⟨by decide, ?_⟩
  intro once
  exact absurd (once
    (.echoReply { xid := 1, time := 2, bytes := 8, msgType := 3 }) 256)
    (by decide)

end Perfbench
