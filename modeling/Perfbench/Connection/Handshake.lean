import Perfbench.Connection.Settings

/-!
# The handshake of two ends with any settings

`OFServer` and `OFClient` with whatever settings they were built.  The
greeting of the switch decides: the controller asks for the features only if it
supports the version in it, asks in that version, and the reply always is one
of OpenFlow 1.0.
-/

namespace Perfbench

open Negotiation (Supports)

namespace Handshake

/-- Two ends that are up and have sent their greeting. -/
def start (controller switch : OFServerSettings) : Negotiation :=
  { left := .new
    right := .new
    toLeft := OFClient.greeting switch
    toRight := OFServer.greeting controller }

def controllerReacts (controller : OFServerSettings) (msg : OFMessage)
    (cc : OFConnection) : OFConnection × List OFMessage :=
  let reaction := OFServer.baseMessageCallback controller msg cc
  (reaction.1, sentMessages reaction.2)

def switchReacts (switch : OFServerSettings) (factory : Nat)
    (dataports : List Nat) (msg : OFMessage) (cc : OFConnection) :
    OFConnection × List OFMessage :=
  let reaction := OFClient.baseMessageCallback switch factory dataports msg cc
  (reaction.1, sentMessages reaction.2)

def run (controller switch : OFServerSettings) (factory : Nat)
    (dataports : List Nat) (deliveries : List FifoPair.Delivery) :
    Negotiation :=
  FifoPair.run (controllerReacts controller)
    (switchReacts switch factory dataports) (start controller switch)
    deliveries

/-- Both ends make the handshake, and the controller supports the version that
the switch greets with. -/
structure Meet (controller switch : OFServerSettings) : Prop where
  controllerGreets : controller.handshake = true
  switchGreets : switch.handshake = true
  supported : Supports controller switch.maxSupportedVersion

section Messages

variable (controller switch : OFServerSettings)

/-- The messages from the switch: its greeting, and replies if the two meet. -/
inductive FromSwitch : OFMessage → Prop where
  | hello {msg} (greets : switch.handshake = true) (hello : msg.ofType = 0)
      (version : msg.version = switch.maxSupportedVersion)
      (length : msg.length = 8) : FromSwitch msg
  | featuresReply {msg} (meet : Meet controller switch)
      (reply : msg.ofType = 6) (version : msg.version = 1) : FromSwitch msg

/-- The messages from the controller: its greeting, the error of a failed
negotiation, and requests if the two meet. -/
inductive FromController : OFMessage → Prop where
  | hello {msg} (hello : msg.ofType = 0) : FromController msg
  | error {msg} (error : msg.ofType = 1) : FromController msg
  | featuresRequest {msg} (meet : Meet controller switch)
      (request : msg.ofType = 5)
      (version : msg.version = switch.maxSupportedVersion) :
      FromController msg

/-- A connection runs only if the two meet, and then with one version. -/
def RunsWith (version : Nat) (cc : OFConnection) : Prop :=
  cc.state = .running → Meet controller switch ∧ cc.version = version

end Messages

variable {controller switch : OFServerSettings}

theorem compatible_iff {msg : OFMessage} (length : msg.length = 8) :
    OFServer.compatible controller msg ↔ Supports controller msg.version := by
  have short : ¬(controller.useHelloElements = true ∧ msg.length > 8 ∧
      msg.element.elemType = 1 ∧ msg.element.length ≥ 8) := by
    rw [length]
    exact fun elements => absurd elements.2.1 (by decide)
  rw [OFServer.compatible, OFServer.clientSupportedVersions, if_neg short,
    Supports]

theorem messageCallback_hello {msg : OFMessage} (hello : msg.ofType = 0)
    (cc : OFConnection) : Controller.messageCallback msg cc = (cc, []) := by
  simp [Controller.messageCallback, Controller.messageEvent, hello]

theorem dispatchAll_hello {msg : OFMessage} (hello : msg.ofType = 0)
    (cc : OFConnection) :
    OFServer.dispatchAll controller msg cc = (cc, []) := by
  rw [OFServer.dispatchAll, messageCallback_hello hello]
  exact ite_self _

theorem controllerReacts_supported {msg : OFMessage}
    (greets : controller.handshake = true) (hello : msg.ofType = 0)
    (length : msg.length = 8) (supported : Supports controller msg.version)
    (cc : OFConnection) :
    controllerReacts controller msg cc =
      (cc, [OFMessage.header msg.version 5 8 msg.xid]) := by
  simp [controllerReacts, OFServer.baseMessageCallback, hello, greets,
    (compatible_iff length).mpr supported, dispatchAll_hello hello,
    Reaction.after, sentMessages]

theorem controllerReacts_unsupported {msg : OFMessage}
    (greets : controller.handshake = true) (hello : msg.ofType = 0)
    (length : msg.length = 8) (unsupported : ¬Supports controller msg.version)
    (cc : OFConnection) :
    controllerReacts controller msg cc =
      (cc.close.setState .failed,
        sentMessages (cc.send (OFServer.helloFailed msg) :
          List (Effect EventType))) := by
  have failed : ¬OFServer.compatible controller msg :=
    fun compatible => unsupported ((compatible_iff length).mp compatible)
  simp [controllerReacts, OFServer.baseMessageCallback, hello, greets, failed,
    dispatchAll_hello hello, Reaction.after, Controller.connectionCallback]

theorem eq_of_mem_sentMessages {Event : Type} {cc : OFConnection}
    {msg sent : OFMessage}
    (member : sent ∈ sentMessages (cc.send msg : List (Effect Event))) :
    sent = msg := by
  obtain ⟨effect, effectMember, isSent⟩ := List.mem_filterMap.mp member
  rw [OFConnection.mem_send effectMember, Option.some.injEq] at isSent
  exact isSent.symm

theorem controllerReacts_ungreeted {msg : OFMessage}
    (silent : controller.handshake = false) (hello : msg.ofType = 0)
    (cc : OFConnection) : controllerReacts controller msg cc = (cc, []) := by
  simp [controllerReacts, OFServer.baseMessageCallback, hello, silent,
    messageCallback_hello hello, sentMessages]

theorem controllerReacts_featuresReply {msg : OFMessage}
    (reply : msg.ofType = 6) (version : msg.version = 1) (cc : OFConnection) :
    (controllerReacts controller msg cc).2 = [] ∧
      (controllerReacts controller msg cc).1.state = .running ∧
      (cc.state = .running ∧ (controllerReacts controller msg cc).1 = cc ∨
        (controllerReacts controller msg cc).1.version = 1) := by
  by_cases running : cc.state = .running
  · simp [controllerReacts, OFServer.baseMessageCallback, reply, running,
      Controller.messageCallback, sentMessages]
  · cases handshake : controller.handshake with
    | false =>
        simp [controllerReacts, OFServer.baseMessageCallback, reply,
          running, handshake, Controller.messageCallback, version,
          Controller.establish, Reaction.after, Controller.connectionCallback,
          sentMessages]
    | true =>
        cases check : controller.livenessCheck with
        | false =>
            simp [controllerReacts, OFServer.baseMessageCallback, reply,
              running, handshake, check, Controller.messageCallback, version,
              Controller.establish, Reaction.after,
              Controller.connectionCallback, sentMessages]
        | true =>
            simp [controllerReacts, OFServer.baseMessageCallback, reply,
              running, handshake, check, Controller.messageCallback, version,
              Controller.establish, Reaction.after,
              Controller.connectionCallback, sentMessages]

theorem controllerReacts_keeps {msg : OFMessage} {cc : OFConnection}
    (message : FromSwitch controller switch msg)
    (runs : RunsWith controller switch 1 cc) :
    RunsWith controller switch 1 (controllerReacts controller msg cc).1 ∧
      ∀ sent ∈ (controllerReacts controller msg cc).2,
        FromController controller switch sent := by
  cases message with
  | hello greets hello version length =>
      cases handshake : controller.handshake with
      | false =>
          rw [controllerReacts_ungreeted handshake hello]
          exact ⟨runs, by simp⟩
      | true =>
          by_cases supported : Supports controller msg.version
          · rw [controllerReacts_supported handshake hello length supported]
            refine ⟨runs, ?_⟩
            intro sent member
            rw [List.mem_singleton.mp member]
            rw [version] at supported ⊢
            exact .featuresRequest ⟨handshake, greets, supported⟩ rfl rfl
          · rw [controllerReacts_unsupported handshake hello length supported]
            refine ⟨?_, ?_⟩
            · intro running
              rw [OFConnection.setState_state] at running
              cases running
            · intro sent member
              rw [eq_of_mem_sentMessages member]
              exact .error rfl
  | featuresReply meet reply version =>
      obtain ⟨silent, -, same | entered⟩ :=
        @controllerReacts_featuresReply controller msg reply version cc
      · rw [silent, same.2]
        exact ⟨runs, by simp⟩
      · rw [silent]
        exact ⟨fun _ => ⟨meet, entered⟩, by simp⟩

theorem messageCallback_handshake {msg : OFMessage}
    (handshake : msg.ofType = 0 ∨ msg.ofType = 1 ∨ msg.ofType = 5)
    (factory : Nat) (dataports : List Nat) (conn : OFConnection) :
    Switch.messageCallback factory dataports msg conn = [] := by
  rcases handshake with hello | error | request
  · simp [Switch.messageCallback, hello]
  · simp [Switch.messageCallback, error]
  · simp [Switch.messageCallback, request]

theorem switchReacts_unanswered {msg : OFMessage}
    (message : msg.ofType = 0 ∨ msg.ofType = 1) (factory : Nat)
    (dataports : List Nat) (cc : OFConnection) :
    switchReacts switch factory dataports msg cc = (cc, []) := by
  have silent : ∀ conn : OFConnection,
      Switch.messageCallback factory dataports msg conn = [] :=
    messageCallback_handshake (message.imp_right .inl) factory dataports
  rcases message with hello | error
  · simp [switchReacts, OFClient.baseMessageCallback, hello, silent,
      OFClient.incompatible, OFClient.dispatchAll, sentMessages]
  · simp [switchReacts, OFClient.baseMessageCallback, error, silent,
      sentMessages]

theorem switchReacts_featuresRequest {msg : OFMessage}
    (greets : switch.handshake = true) (request : msg.ofType = 5)
    (factory : Nat) (dataports : List Nat) (cc : OFConnection) :
    (switchReacts switch factory dataports msg cc).2 =
        [OFClient.featuresReply msg] ∧
      (switchReacts switch factory dataports msg cc).1.state = .running ∧
      (cc.state = .running ∧
          (switchReacts switch factory dataports msg cc).1 = cc ∨
        (switchReacts switch factory dataports msg cc).1.version =
          msg.version) := by
  have silent : ∀ conn : OFConnection,
      Switch.messageCallback factory dataports msg conn = [] :=
    messageCallback_handshake (.inr (.inr request)) factory dataports
  by_cases running : cc.state = .running
  · simp [switchReacts, OFClient.baseMessageCallback, greets, request,
      running, silent, sentMessages]
  · cases check : switch.livenessCheck with
    | false =>
        simp [switchReacts, OFClient.baseMessageCallback, greets, check,
          request, running, silent, Switch.connectionCallback, sentMessages]
    | true =>
        simp [switchReacts, OFClient.baseMessageCallback, greets, check,
          request, running, silent, Switch.connectionCallback, sentMessages]

theorem switchReacts_keeps {msg : OFMessage} {cc : OFConnection}
    (factory : Nat) (dataports : List Nat)
    (message : FromController controller switch msg)
    (runs : RunsWith controller switch switch.maxSupportedVersion cc) :
    RunsWith controller switch switch.maxSupportedVersion
        (switchReacts switch factory dataports msg cc).1 ∧
      ∀ sent ∈ (switchReacts switch factory dataports msg cc).2,
        FromSwitch controller switch sent := by
  cases message with
  | hello hello =>
      rw [switchReacts_unanswered (.inl hello)]
      exact ⟨runs, by simp⟩
  | error error =>
      rw [switchReacts_unanswered (.inr error)]
      exact ⟨runs, by simp⟩
  | featuresRequest meet request version =>
      obtain ⟨replied, -, same | entered⟩ :=
        switchReacts_featuresRequest meet.switchGreets request factory
          dataports cc
      · rw [replied, same.2]
        refine ⟨runs, ?_⟩
        intro sent member
        rw [List.mem_singleton.mp member]
        exact .featuresReply meet rfl rfl
      · rw [replied]
        refine ⟨fun _ => ⟨meet, entered.trans version⟩, ?_⟩
        intro sent member
        rw [List.mem_singleton.mp member]
        exact .featuresReply meet rfl rfl

theorem start_holds :
    FifoPair.Holds (RunsWith controller switch 1)
      (RunsWith controller switch switch.maxSupportedVersion)
      (FromSwitch controller switch) (FromController controller switch)
      (start controller switch) := by
  refine ⟨?_, ?_, ?_, ?_⟩
  · intro running
    cases running
  · intro running
    cases running
  · intro msg member
    rw [start, OFClient.greeting] at member
    split at member
    · rename_i greets
      rw [List.mem_singleton.mp member]
      exact .hello greets rfl rfl rfl
    · cases member
  · intro msg member
    rw [start, OFServer.greeting] at member
    split at member
    · rw [List.mem_singleton.mp member]
      apply FromController.hello
      split <;> rfl
    · cases member

/-- In every order of the messages, each end runs only if the two meet: the
controller with 1.0, the switch with the version that it greeted with. -/
theorem run_holds (factory : Nat) (dataports : List Nat)
    (deliveries : List FifoPair.Delivery) :
    FifoPair.Holds (RunsWith controller switch 1)
      (RunsWith controller switch switch.maxSupportedVersion)
      (FromSwitch controller switch) (FromController controller switch)
      (run controller switch factory dataports deliveries) := by
  apply start_holds.run
  · intro msg cc message runs
    exact controllerReacts_keeps message runs
  · intro msg cc message runs
    exact switchReacts_keeps factory dataports message runs

def BothRunning (negotiation : Negotiation) : Prop :=
  negotiation.left.state = .running ∧ negotiation.right.state = .running

/-- The HELLO of the controller, which the switch leaves unanswered, the HELLO
of the switch, the request, and the reply. -/
theorem run_whole (meet : Meet controller switch) (factory : Nat)
    (dataports : List Nat) :
    BothRunning (run controller switch factory dataports
      [.toRight, .toLeft, .toRight, .toLeft]) := by
  obtain ⟨controllerGreets, switchGreets, supported⟩ := meet
  obtain ⟨greeting, greets, hello⟩ : ∃ greeting : OFMessage,
      OFServer.greeting controller = [greeting] ∧ greeting.ofType = 0 := by
    rw [OFServer.greeting, if_pos controllerGreets]
    refine ⟨_, rfl, ?_⟩
    split <;> rfl
  let answer := OFMessage.header switch.maxSupportedVersion 0 8
    (echoXid * 2 ^ 24)
  let request := OFMessage.header switch.maxSupportedVersion 5 8 answer.xid
  have answered : OFClient.greeting switch = [answer] := by
    rw [OFClient.greeting, if_pos switchGreets]
  have asked : controllerReacts controller answer .new = (.new, [request]) :=
    controllerReacts_supported controllerGreets rfl rfl supported .new
  obtain ⟨replied, switchRuns, -⟩ :=
    @switchReacts_featuresRequest switch request switchGreets rfl factory
      dataports .new
  obtain ⟨-, controllerRuns, -⟩ :=
    @controllerReacts_featuresReply controller (OFClient.featuresReply request)
      rfl rfl .new
  have left : (run controller switch factory dataports
      [.toRight, .toLeft, .toRight, .toLeft]).left =
        (controllerReacts controller (OFClient.featuresReply request)
          .new).1 := by
    simp [run, start, FifoPair.run, FifoPair.step, greets, answered,
      switchReacts_unanswered (.inl hello), asked, replied]
  have right : (run controller switch factory dataports
      [.toRight, .toLeft, .toRight, .toLeft]).right =
        (switchReacts switch factory dataports request .new).1 := by
    simp [run, start, FifoPair.run, FifoPair.step, greets, answered,
      switchReacts_unanswered (.inl hello), asked, replied]
  rw [BothRunning, left, right]
  exact ⟨controllerRuns, switchRuns⟩

theorem bothRunning_iff (factory : Nat) (dataports : List Nat) :
    (∃ deliveries, BothRunning
      (run controller switch factory dataports deliveries)) ↔
      Meet controller switch := by
  constructor
  · intro reached
    obtain ⟨deliveries, running, -⟩ := reached
    exact ((run_holds factory dataports deliveries).left running).1
  · intro meet
    exact ⟨_, run_whole meet factory dataports⟩

end Handshake

/-- The largest of some versions. -/
structure Largest (versions : List Nat) (version : Nat) : Prop where
  member : version ∈ versions
  upper : ∀ other ∈ versions, other ≤ version

theorem Offers.largest_eq {versions : List Nat} {ofsc : OFServerSettings}
    (offers : Offers versions ofsc) {version : Nat}
    (largest : Largest versions version) :
    ofsc.maxSupportedVersion = version := by
  apply Nat.le_antisymm
  · exact largest.upper _ offers.offered
  · exact offers.largest _ largest.member

/-- What the settings of two ends lead to. -/
structure Handshake.Outcome (controller switch : OFServerSettings)
    (supported : List Nat) (version factory : Nat) (dataports : List Nat) :
    Prop where
  versions : ∀ deliveries, BothRunning
    (run controller switch factory dataports deliveries) →
    (run controller switch factory dataports deliveries).left.version = 1 ∧
      (run controller switch factory dataports deliveries).right.version =
        version
  reachable : (∃ deliveries, BothRunning
    (run controller switch factory dataports deliveries)) ↔
      controller.handshake = true ∧ switch.handshake = true ∧
        version ∈ supported

/-- However the settings of the two ends were built, and in every order of
their messages: both come to run exactly if both make the handshake and the
largest version set for the switch is one of those set for the controller.
The controller then runs with 1.0, and the switch with that version. -/
theorem Handshake.run_outcome {controller switch : List Setting}
    (controllerShort : ∀ version ∈ versionsOf controller, version < 32)
    (switchShort : ∀ version ∈ versionsOf switch, version < 32)
    {version : Nat} (largest : Largest (declared switch) version)
    (factory : Nat) (dataports : List Nat) :
    Handshake.Outcome (.build controller) (.build switch) (declared controller)
      version factory dataports := by
  have short : version < 32 :=
    declared_short switchShort version largest.member
  have greeted : (OFServerSettings.build switch).maxSupportedVersion =
      version := (build_offers switchShort).largest_eq largest
  have supports := (build_offers controllerShort).supports version short
  refine ⟨?_, ?_⟩
  · intro deliveries running
    have holds := @run_holds (.build controller) (.build switch) factory
      dataports deliveries
    rw [← greeted]
    exact ⟨(holds.left running.1).2, (holds.right running.2).2⟩
  · rw [bothRunning_iff]
    constructor
    · intro meet
      refine ⟨meet.controllerGreets, meet.switchGreets, ?_⟩
      rw [← supports, ← greeted]
      exact meet.supported
    · intro settings
      refine ⟨settings.1, settings.2.1, ?_⟩
      rw [greeted, supports]
      exact settings.2.2

/-- The controller with 1.0 and 1.3, a switch with 1.3 only. -/
theorem Handshake.run_outcome_sample :
    Handshake.Outcome
      (.build [.supportedVersion 1, .supportedVersion 4, .echoInterval 600])
      (.build [.supportedVersion 4]) [1, 4] 4 4 [] :=
  @Handshake.run_outcome
    [.supportedVersion 1, .supportedVersion 4, .echoInterval 600]
    [.supportedVersion 4] (by decide) (by decide) 4 ⟨by decide, by decide⟩ 4 []

end Perfbench
