import Perfbench.Connection.Versions
import Perfbench.Measurement
import Perfbench.Testcases.FeaturesRequest

/-!
# The replies of the emulated switch

The handshake of a connection needs one FEATURES_REQUEST and its reply; from
then on those on their way are the ones of the test.  The switch answers them
in order, so at any time the requests of a connection are those answered,
those whose reply is on its way, and those on their way themselves.
-/

namespace Perfbench

namespace FeaturesRequest

def ofTypeXids (ofType : Nat) (messages : List OFMessage) : List Nat :=
  (messages.filter (fun msg => msg.ofType == ofType)).map OFMessage.xid

namespace Link

/-- The xids of the requests on their way to the switch. -/
def asked (link : Link) : List Nat := ofTypeXids 5 link.toSwitch

/-- The xids of the replies on their way back. -/
def replied (link : Link) : List Nat := ofTypeXids 6 link.toController

/-- The HELLOs of the switch on their way. -/
def hellos (link : Link) : List Nat := ofTypeXids 0 link.toController

/-- The messages that the switch sends. -/
def FromSwitch (msg : OFMessage) : Prop :=
  msg.ofType = 0 ∨ msg.ofType = 2 ∨ msg.ofType = 3 ∨
    msg.ofType = 6 ∧ msg.version = 1

/-- The messages that the controller sends to a connection of OpenFlow 1.0. -/
def FromController (msg : OFMessage) : Prop :=
  msg.ofType = 0 ∨ msg.ofType = 1 ∨ msg.ofType = 2 ∨ msg.ofType = 3 ∨
    msg.ofType = 5

/-- Before the handshake is made at most one of its messages is on its way,
and only while the connection is open. -/
structure Handshaking (link : Link) : Prop where
  notRunning : link.controllerEnd.state ≠ .running
  once : link.hellos.length + link.asked.length + link.replied.length ≤ 1
  connected : 0 < link.hellos.length + link.asked.length + link.replied.length →
    link.controllerEnd.connected = true

/-- After it the requests issued are those answered and those on their way. -/
structure Running (events : List ConnEvent) (link : Link) : Prop where
  running : link.controllerEnd.state = .running
  connected : link.controllerEnd.connected = true
  noHello : link.hellos = []
  conserved : issued events = answered events ++ link.replied ++ link.asked

structure Sound (events : List Event) (link : Link) : Prop where
  fromSwitch : ∀ msg ∈ link.toController, FromSwitch msg
  fromController : ∀ msg ∈ link.toSwitch, FromController msg
  handshaking : link.listIndex = none → link.Handshaking
  running : ∀ connIndex, link.listIndex = some connIndex →
    link.Running (onConn connIndex events)

end Link

theorem ofTypeXids_append (ofType : Nat) (first second : List OFMessage) :
    ofTypeXids ofType (first ++ second) =
      ofTypeXids ofType first ++ ofTypeXids ofType second := by
  simp [ofTypeXids]

theorem ofTypeXids_cons (ofType : Nat) (msg : OFMessage)
    (messages : List OFMessage) :
    ofTypeXids ofType (msg :: messages) =
      (if msg.ofType = ofType then [msg.xid] else []) ++
        ofTypeXids ofType messages := by
  by_cases same : msg.ofType = ofType
  · simp [ofTypeXids, same]
  · simp [ofTypeXids, same]

theorem ofTypeXids_nil (ofType : Nat) : ofTypeXids ofType [] = [] := rfl

theorem settings_flags :
    Switch.settings.livenessCheck = true ∧ Switch.settings.handshake = true ∧
      Switch.settings.dispatchAllMessages = false :=
  ⟨rfl, rfl, rfl⟩

section Switch

variable {msg : OFMessage} {waiting : List OFMessage} {link : Link}

theorem switchReceives_featuresRequest
    (queue : link.toSwitch = msg :: waiting) (request : msg.ofType = 5) :
    ∃ switchEnd switchTimed, switchReceives link =
      some
        { link with
          switchEnd
          switchTimed
          toSwitch := waiting
          toController := link.toController ++ [OFClient.featuresReply msg] } := by
  have silent : ∀ cc, Switch.messageCallback 4 [1, 2] msg cc = [] := by
    intro cc
    simp [Switch.messageCallback, request]
  by_cases running : link.switchEnd.state = .running
  · refine ⟨link.switchEnd, link.switchTimed, ?_⟩
    simp [switchReceives, queue, OFClient.baseMessageCallback, request, silent,
      running, settings_flags, performSwitch]
  · refine ⟨(link.switchEnd.setVersion msg.version).setState .running, true, ?_⟩
    simp [switchReceives, queue, OFClient.baseMessageCallback, request, silent,
      running, settings_flags, performSwitch, Switch.connectionCallback]

/-- The reply to an echo request; other messages have none. -/
def echoReplies (reply msg : OFMessage) : List OFMessage :=
  if msg.ofType = 2 then [reply] else []

theorem echoReplies_ofType {reply : OFMessage} (echo : reply.ofType = 3) :
    ∀ sent ∈ echoReplies reply msg, sent.ofType = 3 := by
  intro sent member
  unfold echoReplies at member
  split at member
  · rw [List.mem_singleton.mp member]
    exact echo
  · exact absurd member List.not_mem_nil

theorem switchReceives_other (queue : link.toSwitch = msg :: waiting)
    (fromController : Link.FromController msg) (other : msg.ofType ≠ 5) :
    ∃ switchEnd, switchReceives link =
      some
        { link with
          switchEnd
          toSwitch := waiting
          toController := link.toController ++
            echoReplies (OFMessage.header msg.version 3 8 msg.xid) msg } := by
  rcases fromController with hello | error | echo | reply | request
  · refine ⟨link.switchEnd, ?_⟩
    simp [switchReceives, queue, OFClient.baseMessageCallback, hello,
      OFClient.incompatible, OFClient.dispatchAll, settings_flags, echoReplies]
  · refine ⟨link.switchEnd, ?_⟩
    simp [switchReceives, queue, OFClient.baseMessageCallback, error,
      Switch.messageCallback, echoReplies]
  · refine ⟨link.switchEnd, ?_⟩
    simp [switchReceives, queue, OFClient.baseMessageCallback, echo,
      OFClient.dispatchAll, settings_flags, performSwitch, echoReplies]
  · refine ⟨if msg.xid = echoXid then link.switchEnd.setAlive true
      else link.switchEnd, ?_⟩
    simp [switchReceives, queue, OFClient.baseMessageCallback, reply,
      OFClient.dispatchAll, settings_flags, echoReplies]
  · exact absurd request other

end Switch

section Controller

open Negotiation (startController_flags compatible_iff)

variable {ofVersion : Int} {index : Nat} {time : ℚ} {pastEnd : PastEnd}
  {msg : OFMessage} {waiting : List OFMessage} {bench : Bench} {link : Link}

/-- A HELLO is answered with a FEATURES_REQUEST, or the negotiation fails. -/
theorem controllerReceives_hello (queue : link.toController = msg :: waiting)
    (hello : msg.ofType = 0) :
    ∃ controllerEnd sent,
      controllerReceives ofVersion index time pastEnd bench link =
        some (bench,
          { link with
            controllerEnd
            toController := waiting
            toSwitch := link.toSwitch ++ sent }) ∧
      (controllerEnd = link.controllerEnd ∧
          sent = [OFMessage.header msg.version 5 8 msg.xid] ∨
        controllerEnd.state = .failed ∧
          (sent = [OFServer.helloFailed msg] ∨ sent = [])) := by
  have undispatched : ∀ cc, OFServer.dispatchAll (startController ofVersion) msg
      cc = (cc, []) := by
    intro cc
    simp [OFServer.dispatchAll, startController_flags,
      Controller.messageCallback, Controller.messageEvent, hello]
  by_cases compatible : OFServer.compatible (startController ofVersion) msg
  · refine ⟨link.controllerEnd, [OFMessage.header msg.version 5 8 msg.xid],
      ?_, .inl ⟨rfl, rfl⟩⟩
    simp [controllerReceives, queue, OFServer.react,
      OFServer.baseMessageCallback, startController_flags, hello, compatible,
      undispatched, Reaction.after, perform]
  · by_cases isOpen : link.controllerEnd.connected = true
    · refine ⟨link.controllerEnd.close.setState .failed,
        [OFServer.helloFailed msg], ?_, .inr ⟨rfl, .inl rfl⟩⟩
      simp [controllerReceives, queue, OFServer.react,
        OFServer.baseMessageCallback, startController_flags, hello,
        compatible, undispatched, Reaction.after, perform,
        Controller.connectionCallback, OFConnection.send, isOpen]
    · refine ⟨link.controllerEnd.close.setState .failed, [], ?_,
        .inr ⟨rfl, .inr rfl⟩⟩
      simp [controllerReceives, queue, OFServer.react,
        OFServer.baseMessageCallback, startController_flags, hello,
        compatible, undispatched, Reaction.after,
        Controller.connectionCallback, OFConnection.send, isOpen]

theorem controllerReceives_echo (queue : link.toController = msg :: waiting)
    (echo : msg.ofType = 2 ∨ msg.ofType = 3) :
    ∃ alive, controllerReceives ofVersion index time pastEnd bench link =
      some (bench,
        { link with
          controllerEnd := link.controllerEnd.setAlive alive
          toController := waiting
          toSwitch := link.toSwitch ++
            echoReplies { msg with ofType := 3 } msg }) := by
  have same : link.controllerEnd.setAlive link.controllerEnd.alive =
      link.controllerEnd := rfl
  rcases echo with request | reply
  · refine ⟨link.controllerEnd.alive, ?_⟩
    simp [controllerReceives, queue, OFServer.react, same,
      OFServer.baseMessageCallback, startController_flags, request,
      OFServer.dispatchAll, Controller.messageCallback,
      Controller.messageEvent, Reaction.after, perform, echoReplies]
  · by_cases known : msg.xid = echoXid
    · refine ⟨true, ?_⟩
      simp [controllerReceives, queue, OFServer.react,
        OFServer.baseMessageCallback, startController_flags, reply, known,
        OFServer.dispatchAll, Controller.messageCallback,
        Controller.messageEvent, perform, echoReplies]
    · refine ⟨link.controllerEnd.alive, ?_⟩
      simp [controllerReceives, queue, OFServer.react, same,
        OFServer.baseMessageCallback, startController_flags, reply, known,
        OFServer.dispatchAll, Controller.messageCallback,
        Controller.messageEvent, perform, echoReplies]

theorem controllerReceives_counted {tenantId connIndex : Nat}
    {ports : List Nat}
    (registered : Controller.Registered .featuresRequest tenantId ports
      bench.controller)
    (queue : link.toController = msg :: waiting) (reply : msg.ofType = 6)
    (running : link.controllerEnd.state = .running)
    (established : link.listIndex = some connIndex) :
    controllerReceives ofVersion index time pastEnd bench link =
      some
        ({ bench with
            events := bench.events ++
              [.response connIndex
                { xid := msg.xid, time, bytes := msg.length, msgType := 6 }
                pastEnd] },
          { link with toController := waiting }) := by
  have handedOver := @Controller.receive_reply .featuresRequest tenantId ports
    bench.controller
    (.featuresReply
      { xid := msg.xid, time, bytes := msg.length, msgType := 6 }) _
    registered rfl 256
  have once : Testcase.featuresRequest.registrations ports = 1 := rfl
  rw [once, List.replicate_one, ByteLoop.items_singleton] at handedOver
  simp [controllerReceives, queue, OFServer.react,
    OFServer.baseMessageCallback, startController_flags, reply, running,
    Controller.messageCallback, perform, established, processFeaturesReply,
    handedOver]

/-- The FEATURES_REPLY that ends the handshake establishes the connection. -/
theorem controllerReceives_established {tenantId : Nat} {ports : List Nat}
    (registered : Controller.Registered .featuresRequest tenantId ports
      bench.controller)
    (queue : link.toController = msg :: waiting) (reply : msg.ofType = 6)
    (version : msg.version = 1)
    (handshake : link.controllerEnd.state ≠ .running) :
    ∃ controllerEnd,
      controllerReceives ofVersion index time pastEnd bench link =
        some
          ({ bench with
              controller := bench.controller.connEstablished msg.ports.length
              events := bench.events ++ [.established (index : Int)]
              conns := bench.conns ++ [index] },
            { link with
              controllerEnd
              toController := waiting
              controllerTimed := true
              listIndex := some (connections bench.events) }) ∧
      controllerEnd.state = .running ∧
      controllerEnd.connected = link.controllerEnd.connected := by
  have callbacks : bench.controller.dispatchEvent .connUp 256 =
      [Testcase.featuresRequest] := by
    rw [Controller.dispatchEvent, registered.connUp]
    exact ByteLoop.items_singleton _ 255
  have count : connections (bench.events ++ [.established (index : Int)]) - 1 =
      connections bench.events := by
    simp [connections_snoc, Event.establishes]
  refine ⟨{ link.controllerEnd.setVersion 1 with
    switchPorts10 := msg.ports
    state := .running }, ?_, rfl, rfl⟩
  simp [controllerReceives, queue, OFServer.react,
    OFServer.baseMessageCallback, startController_flags, reply, version,
    handshake, Controller.messageCallback, Controller.establish,
    Controller.connectionCallback, Reaction.after, perform,
    ctrlConnEstablished, callbacks, count, OFConnection.setState,
    OFConnection.setVersion]

end Controller

section Sound

variable {events : List Event} {link after : Link} {msg : OFMessage}
  {waiting sent : List OFMessage}

theorem ofTypeXids_of_ne {ofType other : Nat} {messages : List OFMessage}
    (all : ∀ msg ∈ messages, msg.ofType = other) (different : other ≠ ofType) :
    ofTypeXids ofType messages = [] := by
  have none : messages.filter (fun msg => msg.ofType == ofType) = [] := by
    rw [List.filter_eq_nil_iff]
    intro msg member
    simp [all msg member, different]
  rw [ofTypeXids, none]
  rfl

/-- A step of a link in which no HELLO arrives and the requests on their way
stay there, whether answered or not. -/
theorem Link.Sound.quiet (sound : link.Sound events)
    (fromSwitch : ∀ msg ∈ after.toController, Link.FromSwitch msg)
    (fromController : ∀ msg ∈ after.toSwitch, Link.FromController msg)
    (listIndex : after.listIndex = link.listIndex)
    (state : after.controllerEnd.state = link.controllerEnd.state)
    (connected : after.controllerEnd.connected = link.controllerEnd.connected)
    (hellos : after.hellos = link.hellos)
    (onTheirWay : after.replied ++ after.asked = link.replied ++ link.asked) :
    after.Sound events := by
  have count := congrArg List.length onTheirWay
  rw [List.length_append, List.length_append] at count
  refine ⟨fromSwitch, fromController, ?_, ?_⟩
  · intro unestablished
    rw [listIndex] at unestablished
    obtain ⟨notRunning, once, isOpen⟩ := sound.handshaking unestablished
    refine ⟨?_, ?_, ?_⟩
    · rw [state]
      exact notRunning
    · rw [hellos]
      omega
    · intro pending
      rw [connected]
      apply isOpen
      rw [hellos] at pending
      omega
  · intro connIndex established
    rw [listIndex] at established
    obtain ⟨running, isOpen, noHello, conserved⟩ :=
      sound.running connIndex established
    refine ⟨?_, ?_, ?_, ?_⟩
    · rw [state]
      exact running
    · rw [connected]
      exact isOpen
    · rw [hellos]
      exact noHello
    · rw [conserved, List.append_assoc, List.append_assoc, onTheirWay]

theorem Link.Sound.elsewhere {later : List Event} (sound : link.Sound events)
    (same : ∀ connIndex, link.listIndex = some connIndex →
      onConn connIndex later = onConn connIndex events) :
    link.Sound later := by
  refine ⟨sound.fromSwitch, sound.fromController, sound.handshaking, ?_⟩
  intro connIndex established
  rw [same connIndex established]
  exact sound.running connIndex established

theorem Link.sound_start (ofVersion : Int) (events : List Event) :
    (Link.start ofVersion).Sound events := by
  refine ⟨?_, ?_, ?_, ?_⟩
  · intro msg member
    simp only [Link.start, OFClient.greeting, settings_flags, if_true,
      List.mem_singleton] at member
    rw [member]
    exact .inl rfl
  · intro msg member
    simp only [Link.start, OFServer.greeting,
      Negotiation.startController_flags, if_true, Bool.false_eq_true,
      and_false, if_false, List.mem_singleton] at member
    rw [member]
    exact .inl rfl
  · intro _
    refine ⟨by simp [Link.start, OFConnection.new], ?_, fun _ => rfl⟩
    simp [Link.start, Link.hellos, Link.asked, Link.replied, ofTypeXids,
      OFClient.greeting, OFServer.greeting, settings_flags,
      Negotiation.startController_flags, OFMessage.header]
  · intro connIndex established
    exact absurd established (by simp [Link.start])

theorem Link.Sound.switchReceives (sound : link.Sound events)
    (result : FeaturesRequest.switchReceives link = some after) :
    after.Sound events ∧ after.listIndex = link.listIndex := by
  cases queue : link.toSwitch with
  | nil => simp [FeaturesRequest.switchReceives, queue] at result
  | cons msg waiting =>
      have fromController : ∀ other ∈ waiting, Link.FromController other := by
        intro other member
        apply sound.fromController
        rw [queue]
        exact List.mem_cons_of_mem msg member
      have first := sound.fromController msg (by rw [queue]; exact .head _)
      by_cases request : msg.ofType = 5
      · obtain ⟨switchEnd, switchTimed, received⟩ :=
          switchReceives_featuresRequest queue request
        rw [result, Option.some.injEq] at received
        subst received
        refine ⟨sound.quiet ?_ fromController rfl rfl rfl ?_ ?_, rfl⟩
        · intro other member
          rcases List.mem_append.mp member with old | new
          · exact sound.fromSwitch other old
          · rw [List.mem_singleton.mp new]
            exact .inr (.inr (.inr ⟨rfl, rfl⟩))
        · rw [Link.hellos, ofTypeXids_append]
          exact List.append_nil _
        · have asked : link.asked = msg.xid :: ofTypeXids 5 waiting := by
            rw [Link.asked, queue, ofTypeXids_cons, if_pos request]
            rfl
          rw [Link.replied, ofTypeXids_append, asked, List.append_assoc]
          rfl
      · obtain ⟨switchEnd, received⟩ :=
          switchReceives_other queue first request
        rw [result, Option.some.injEq] at received
        subst received
        have echoes : ∀ sent ∈ echoReplies
            (OFMessage.header msg.version 3 8 msg.xid) msg, sent.ofType = 3 :=
          echoReplies_ofType rfl
        refine ⟨sound.quiet ?_ fromController rfl rfl rfl ?_ ?_, rfl⟩
        · intro other member
          rcases List.mem_append.mp member with old | new
          · exact sound.fromSwitch other old
          · exact .inr (.inr (.inl (echoes other new)))
        · rw [Link.hellos, ofTypeXids_append,
            ofTypeXids_of_ne echoes (by decide), List.append_nil, Link.hellos]
        · have asked : link.asked = ofTypeXids 5 waiting := by
            rw [Link.asked, queue, ofTypeXids_cons, if_neg request]
            rfl
          rw [Link.replied, ofTypeXids_append,
            ofTypeXids_of_ne echoes (by decide), List.append_nil, asked]
          rfl

theorem sentMessages_send (cc : OFConnection) (msg : OFMessage) :
    sentMessages (cc.send msg : List (Effect EventType)) =
      if cc.connected then [msg] else [] := by
  unfold OFConnection.send
  split
  · rfl
  · rfl

theorem Link.Sound.switchTimer (sound : link.Sound events)
    (result : FeaturesRequest.switchTimer link = some after) :
    after.Sound events ∧ after.listIndex = link.listIndex := by
  unfold FeaturesRequest.switchTimer at result
  split at result
  · rename_i timed
    rw [Option.some.injEq] at result
    subst result
    have echoes : ∀ msg ∈ sentMessages (OFClient.sendEcho link.switchEnd).2,
        msg.ofType = 2 := by
      intro msg member
      simp only [OFClient.sendEcho, timed.2, if_true, OFConnection.send]
        at member
      split at member
      · rw [List.mem_singleton.mp member]
        rfl
      · exact absurd member List.not_mem_nil
    refine ⟨sound.quiet ?_ sound.fromController rfl rfl rfl ?_ ?_, rfl⟩
    · intro msg member
      rcases List.mem_append.mp member with old | new
      · exact sound.fromSwitch msg old
      · exact .inr (.inl (echoes msg new))
    · rw [Link.hellos, ofTypeXids_append, ofTypeXids_of_ne echoes (by decide),
        List.append_nil, Link.hellos]
    · rw [Link.replied, ofTypeXids_append,
        ofTypeXids_of_ne echoes (by decide), List.append_nil]
      rfl
  · cases result

theorem Link.Sound.controllerTimer {ofVersion : Int}
    (sound : link.Sound events)
    (result : FeaturesRequest.controllerTimer ofVersion link = some after) :
    after.Sound events ∧ after.listIndex = link.listIndex := by
  unfold FeaturesRequest.controllerTimer at result
  split at result
  · rename_i timed
    rw [Option.some.injEq] at result
    have reacts : OFServer.react (startController ofVersion) link.controllerEnd
        .timer = (link.controllerEnd.setAlive false,
          link.controllerEnd.send
            (OFMessage.header link.controllerEnd.version 2 8 echoXid)) := by
      rw [OFServer.react, OFServer.sendEcho, if_pos timed.2]
    rw [reacts, sentMessages_send] at result
    subst result
    have echoes : ∀ msg ∈ (if link.controllerEnd.connected then
        [OFMessage.header link.controllerEnd.version 2 8 echoXid] else []),
        msg.ofType = 2 := by
      intro msg member
      split at member
      · rw [List.mem_singleton.mp member]
        rfl
      · exact absurd member List.not_mem_nil
    refine ⟨sound.quiet sound.fromSwitch ?_ rfl rfl rfl rfl ?_, rfl⟩
    · intro msg member
      rcases List.mem_append.mp member with old | new
      · exact sound.fromController msg old
      · exact .inr (.inr (.inl (echoes msg new)))
    · rw [Link.asked, ofTypeXids_append, ofTypeXids_of_ne echoes (by decide),
        List.append_nil]
      rfl
  · cases result

theorem Link.Sound.send {connIndex xid : Nat} {request : OFMessage}
    {later : List Event} (sound : link.Sound events)
    (established : link.listIndex = some connIndex)
    (ofType : request.ofType = 5) (sameXid : request.xid = xid)
    (issuedLater : issued (onConn connIndex later) =
      issued (onConn connIndex events) ++ [xid])
    (answeredLater : answered (onConn connIndex later) =
      answered (onConn connIndex events)) :
    ({ link with
        toSwitch := link.toSwitch ++ sentMessages
          (link.controllerEnd.send request :
            List (Effect EventType)) }).Sound later := by
  obtain ⟨running, isOpen, noHello, conserved⟩ :=
    sound.running connIndex established
  rw [sentMessages_send, if_pos isOpen]
  refine ⟨sound.fromSwitch, ?_, ?_, ?_⟩
  · intro msg member
    rcases List.mem_append.mp member with old | new
    · exact sound.fromController msg old
    · rw [List.mem_singleton.mp new]
      exact .inr (.inr (.inr (.inr ofType)))
  · intro unestablished
    exact absurd (unestablished.symm.trans established) (by simp)
  · intro other same
    rw [established, Option.some.injEq] at same
    subst same
    refine ⟨running, isOpen, noHello, ?_⟩
    rw [issuedLater, answeredLater, conserved, Link.asked, Link.asked,
      ofTypeXids_append, ofTypeXids_cons, if_pos ofType, sameXid]
    simp [ofTypeXids_nil, Link.replied]

theorem Link.Sound.rest (sound : link.Sound events)
    (queue : link.toController = msg :: waiting) :
    ∀ other ∈ waiting, Link.FromSwitch other := by
  intro other member
  apply sound.fromSwitch
  rw [queue]
  exact List.mem_cons_of_mem msg member

theorem Link.Sound.hello (sound : link.Sound events)
    (queue : link.toController = msg :: waiting) (hello : msg.ofType = 0) :
    link.listIndex = none ∧ link.controllerEnd.connected = true ∧
      ofTypeXids 0 waiting = [] ∧ ofTypeXids 6 waiting = [] ∧
      link.asked = [] := by
  have hellos : link.hellos = msg.xid :: ofTypeXids 0 waiting := by
    rw [Link.hellos, queue, ofTypeXids_cons, if_pos hello]
    rfl
  have replied : link.replied = ofTypeXids 6 waiting := by
    rw [Link.replied, queue, ofTypeXids_cons, if_neg (by omega)]
    rfl
  have unestablished : link.listIndex = none := by
    cases established : link.listIndex with
    | none => rfl
    | some connIndex =>
        have noHello := (sound.running connIndex established).noHello
        rw [hellos] at noHello
        cases noHello
  obtain ⟨notRunning, once, isOpen⟩ := sound.handshaking unestablished
  rw [hellos, replied] at once isOpen
  simp only [List.length_cons] at once isOpen
  refine ⟨unestablished, isOpen (by omega), ?_, ?_, ?_⟩
  all_goals
    apply List.eq_nil_of_length_eq_zero
    omega

theorem Link.Sound.greeted {controllerEnd : OFConnection}
    (sound : link.Sound events) (queue : link.toController = msg :: waiting)
    (hello : msg.ofType = 0)
    (outcome : controllerEnd = link.controllerEnd ∧
        sent = [OFMessage.header msg.version 5 8 msg.xid] ∨
      controllerEnd.state = .failed ∧
        (sent = [OFServer.helloFailed msg] ∨ sent = [])) :
    ({ link with
        controllerEnd
        toController := waiting
        toSwitch := link.toSwitch ++ sent }).Sound events := by
  obtain ⟨unestablished, connected, noHello, noReply, noRequest⟩ :=
    sound.hello queue hello
  obtain ⟨notRunning, _, _⟩ := sound.handshaking unestablished
  rw [Link.asked] at noRequest
  have errors : (sent = [OFServer.helloFailed msg] ∨ sent = []) →
      ∀ other ∈ sent, other.ofType = 1 := by
    rintro (rfl | rfl) other member
    · rw [List.mem_singleton.mp member]
      rfl
    · exact absurd member List.not_mem_nil
  have fromController : ∀ other ∈ link.toSwitch ++ sent,
      Link.FromController other := by
    intro other member
    rcases List.mem_append.mp member with old | new
    · exact sound.fromController other old
    · rcases outcome with ⟨_, asks⟩ | ⟨_, fails⟩
      · rw [asks, List.mem_singleton] at new
        rw [new]
        exact .inr (.inr (.inr (.inr rfl)))
      · exact .inr (.inl (errors fails other new))
  refine ⟨sound.rest queue, fromController, ?_, ?_⟩
  · intro _
    rcases outcome with ⟨same, asks⟩ | ⟨failed, fails⟩
    · refine ⟨?_, ?_, fun _ => ?_⟩
      · rw [same]
        exact notRunning
      · simp only [Link.hellos, Link.asked, Link.replied, noHello, noReply,
          ofTypeXids_append, noRequest, asks]
        exact Nat.le_refl 1
      · rw [same]
        exact connected
    · have silent := ofTypeXids_of_ne (errors fails)
        (by decide : (1 : Nat) ≠ 5)
      have nothing : ({ link with
          controllerEnd
          toController := waiting
          toSwitch := link.toSwitch ++ sent } : Link).asked = [] := by
        rw [Link.asked, ofTypeXids_append, noRequest, silent]
        rfl
      refine ⟨?_, ?_, ?_⟩
      · rw [failed]
        decide
      · rw [nothing, Link.hellos, Link.replied, noHello, noReply]
        exact Nat.zero_le 1
      · intro pending
        rw [nothing, Link.hellos, Link.replied, noHello, noReply] at pending
        exact absurd pending (Nat.lt_irrefl 0)
  · intro connIndex established
    exact absurd (unestablished.symm.trans established) (by simp)

theorem Link.Sound.echoed {alive : Bool} (sound : link.Sound events)
    (queue : link.toController = msg :: waiting)
    (echo : msg.ofType = 2 ∨ msg.ofType = 3) :
    ({ link with
        controllerEnd := link.controllerEnd.setAlive alive
        toController := waiting
        toSwitch := link.toSwitch ++
          echoReplies { msg with ofType := 3 } msg }).Sound events := by
  have echoes : ∀ sent ∈ echoReplies { msg with ofType := 3 } msg,
      sent.ofType = 3 := echoReplies_ofType rfl
  refine sound.quiet (sound.rest queue) ?_ rfl rfl rfl ?_ ?_
  · intro other member
    rcases List.mem_append.mp member with old | new
    · exact sound.fromController other old
    · exact .inr (.inr (.inr (.inl (echoes other new))))
  · rw [Link.hellos, Link.hellos, queue, ofTypeXids_cons, if_neg (by omega)]
    rfl
  · rw [Link.asked, ofTypeXids_append, ofTypeXids_of_ne echoes (by decide),
      List.append_nil, Link.replied, Link.replied, queue, ofTypeXids_cons,
      if_neg (by omega)]
    rfl

theorem Link.Sound.established {controllerEnd : OFConnection} {connIndex : Nat}
    {later : List Event} (sound : link.Sound events)
    (queue : link.toController = msg :: waiting) (reply : msg.ofType = 6)
    (unestablished : link.listIndex = none)
    (running : controllerEnd.state = .running)
    (connected : controllerEnd.connected = link.controllerEnd.connected)
    (fresh : onConn connIndex later = []) :
    ({ link with
        controllerEnd
        toController := waiting
        controllerTimed := true
        listIndex := some connIndex }).Sound later := by
  have hellos : link.hellos = ofTypeXids 0 waiting := by
    rw [Link.hellos, queue, ofTypeXids_cons, if_neg (by omega)]
    rfl
  have replied : link.replied = msg.xid :: ofTypeXids 6 waiting := by
    rw [Link.replied, queue, ofTypeXids_cons, if_pos reply]
    rfl
  obtain ⟨_, once, isOpen⟩ := sound.handshaking unestablished
  rw [hellos, replied] at once isOpen
  simp only [List.length_cons] at once isOpen
  have noHello : ofTypeXids 0 waiting = [] := by
    apply List.eq_nil_of_length_eq_zero
    omega
  have noReply : ofTypeXids 6 waiting = [] := by
    apply List.eq_nil_of_length_eq_zero
    omega
  have noRequest : link.asked = [] := by
    apply List.eq_nil_of_length_eq_zero
    omega
  refine ⟨sound.rest queue, sound.fromController, ?_, ?_⟩
  · intro impossible
    cases impossible
  · intro other same
    rw [Option.some.injEq] at same
    subst same
    refine ⟨running, connected.trans (isOpen (by omega)), noHello, ?_⟩
    rw [fresh, Link.replied, noReply]
    exact noRequest.symm

theorem Link.Sound.counted {connIndex : Nat} {later : List Event}
    (sound : link.Sound events) (queue : link.toController = msg :: waiting)
    (reply : msg.ofType = 6) (established : link.listIndex = some connIndex)
    (issuedLater : issued (onConn connIndex later) =
      issued (onConn connIndex events))
    (answeredLater : answered (onConn connIndex later) =
      answered (onConn connIndex events) ++ [msg.xid]) :
    ({ link with toController := waiting }).Sound later := by
  have replied : link.replied = msg.xid :: ofTypeXids 6 waiting := by
    rw [Link.replied, queue, ofTypeXids_cons, if_pos reply]
    rfl
  obtain ⟨running, isOpen, noHello, conserved⟩ :=
    sound.running connIndex established
  have hellos : link.hellos = ofTypeXids 0 waiting := by
    rw [Link.hellos, queue, ofTypeXids_cons, if_neg (by omega)]
    rfl
  refine ⟨sound.rest queue, sound.fromController, ?_, ?_⟩
  · intro unestablished
    exact absurd (unestablished.symm.trans established) (by simp)
  · intro other same
    have sameIndex : connIndex = other := by
      rw [established, Option.some.injEq] at same
      exact same
    subst sameIndex
    refine ⟨running, isOpen, hellos.symm.trans noHello, ?_⟩
    rw [issuedLater, answeredLater, conserved, replied]
    simp [Link.replied, Link.asked]

end Sound

/-- What comes of a message to the controller. -/
inductive Received (index : Nat) (time : ℚ) (pastEnd : PastEnd)
    (msg : OFMessage) (waiting : List OFMessage) (bench : Bench)
    (link : Link) : Bench × Link → Prop where
  | hello {controllerEnd : OFConnection} {sent : List OFMessage}
      (ofType : msg.ofType = 0)
      (outcome : controllerEnd = link.controllerEnd ∧
          sent = [OFMessage.header msg.version 5 8 msg.xid] ∨
        controllerEnd.state = .failed ∧
          (sent = [OFServer.helloFailed msg] ∨ sent = [])) :
      Received index time pastEnd msg waiting bench link
        (bench,
          { link with
            controllerEnd
            toController := waiting
            toSwitch := link.toSwitch ++ sent })
  | echo {alive : Bool} (ofType : msg.ofType = 2 ∨ msg.ofType = 3) :
      Received index time pastEnd msg waiting bench link
        (bench,
          { link with
            controllerEnd := link.controllerEnd.setAlive alive
            toController := waiting
            toSwitch := link.toSwitch ++
              echoReplies { msg with ofType := 3 } msg })
  | established {controllerEnd : OFConnection} (ofType : msg.ofType = 6)
      (unestablished : link.listIndex = none)
      (running : controllerEnd.state = .running)
      (connected : controllerEnd.connected = link.controllerEnd.connected) :
      Received index time pastEnd msg waiting bench link
        ({ bench with
            controller := bench.controller.connEstablished msg.ports.length
            events := bench.events ++ [.established (index : Int)]
            conns := bench.conns ++ [index] },
          { link with
            controllerEnd
            toController := waiting
            controllerTimed := true
            listIndex := some (connections bench.events) })
  | counted {connIndex : Nat} (ofType : msg.ofType = 6)
      (established : link.listIndex = some connIndex) :
      Received index time pastEnd msg waiting bench link
        ({ bench with
            events := bench.events ++
              [.response connIndex
                { xid := msg.xid, time, bytes := msg.length, msgType := 6 }
                pastEnd] },
          { link with toController := waiting })

/-- A message waiting for the controller can be received, and this is what
comes of it. -/
theorem Link.Sound.received {ofVersion : Int} {tenantId : Nat}
    {ports : List Nat} {events : List Event} {bench : Bench} {link : Link}
    {msg : OFMessage} {waiting : List OFMessage} (sound : link.Sound events)
    (registered : Controller.Registered .featuresRequest tenantId ports
      bench.controller)
    (queue : link.toController = msg :: waiting) (index : Nat) (time : ℚ)
    (pastEnd : PastEnd) :
    ∃ result,
      controllerReceives ofVersion index time pastEnd bench link =
        some result ∧
      Received index time pastEnd msg waiting bench link result := by
  rcases sound.fromSwitch msg (by rw [queue]; exact .head _) with
    hello | request | reply | ⟨features, version⟩
  · obtain ⟨controllerEnd, sent, received, outcome⟩ :=
      @controllerReceives_hello ofVersion index time pastEnd msg waiting bench
        link queue hello
    exact ⟨_, received, .hello hello outcome⟩
  · obtain ⟨alive, received⟩ := @controllerReceives_echo ofVersion index time
      pastEnd msg waiting bench link queue (.inl request)
    exact ⟨_, received, .echo (.inl request)⟩
  · obtain ⟨alive, received⟩ := @controllerReceives_echo ofVersion index time
      pastEnd msg waiting bench link queue (.inr reply)
    exact ⟨_, received, .echo (.inr reply)⟩
  · cases established : link.listIndex with
    | some connIndex =>
        have running := (sound.running connIndex established).running
        have received := @controllerReceives_counted ofVersion index time
          pastEnd msg waiting bench link tenantId connIndex ports registered
          queue features running established
        exact ⟨_, received, .counted features established⟩
    | none =>
        have handshake := (sound.handshaking established).notRunning
        obtain ⟨controllerEnd, received, running, connected⟩ :=
          @controllerReceives_established ofVersion index time pastEnd msg
            waiting bench link tenantId ports registered queue features version
            handshake
        exact ⟨_, received,
          .established features established running connected⟩

theorem Link.Sound.of_received {ofVersion : Int} {tenantId index : Nat}
    {time : ℚ} {pastEnd : PastEnd} {ports : List Nat} {events : List Event}
    {bench : Bench} {link : Link} {result : Bench × Link}
    (sound : link.Sound events)
    (registered : Controller.Registered .featuresRequest tenantId ports
      bench.controller)
    (taken : controllerReceives ofVersion index time pastEnd bench link =
      some result) :
    ∃ msg waiting, link.toController = msg :: waiting ∧
      Received index time pastEnd msg waiting bench link result := by
  cases queue : link.toController with
  | nil => simp [controllerReceives, queue] at taken
  | cons msg waiting =>
      obtain ⟨other, same, received⟩ := @Link.Sound.received ofVersion tenantId
        ports events bench link msg waiting sound registered queue index time
        pastEnd
      rw [taken, Option.some.injEq] at same
      subst same
      exact ⟨msg, waiting, rfl, received⟩

end FeaturesRequest

end Perfbench
