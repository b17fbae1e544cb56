import Perfbench.Connection.OFClient
import Perfbench.Connection.OFServer
import Perfbench.Library.FifoPair

/-!
# The version of a connection

The controller takes the version of a connection from the FEATURES_REPLY, the
switch from the FEATURES_REQUEST.  Its reply is one of OpenFlow 1.0 whatever
the request was, so two ends that both speak only OpenFlow 1.3 agree on it in
their HELLOs and then run the connection with different versions.
-/

namespace Perfbench

/-- A controller and a switch, with the messages between them. -/
abbrev Negotiation := FifoPair OFConnection OFConnection OFMessage

namespace Negotiation

/-- Both ends are up and have sent their greeting. -/
def start (controllerOf switchOf : Int) : Negotiation :=
  { left := .new
    right := .new
    toLeft := OFClient.greeting (switchSettings switchOf)
    toRight := OFServer.greeting (startController controllerOf) }

def controllerReacts (controllerOf : Int) (msg : OFMessage)
    (cc : OFConnection) : OFConnection × List OFMessage :=
  let reaction :=
    OFServer.baseMessageCallback (startController controllerOf) msg cc
  (reaction.1, sentMessages reaction.2)

def switchReacts (switchOf : Int) (dataports : List Nat) (msg : OFMessage)
    (cc : OFConnection) : OFConnection × List OFMessage :=
  let reaction := OFClient.baseMessageCallback (switchSettings switchOf)
    (factoryVersion switchOf) dataports msg cc
  (reaction.1, sentMessages reaction.2)

def run (controllerOf switchOf : Int) (dataports : List Nat)
    (deliveries : List FifoPair.Delivery) : Negotiation :=
  FifoPair.run (controllerReacts controllerOf)
    (switchReacts switchOf dataports) (start controllerOf switchOf) deliveries

def Supports (ofsc : OFServerSettings) (version : Nat) : Prop :=
  ofsc.supportedVersions &&& versionBit version ≠ 0

instance (ofsc : OFServerSettings) (version : Nat) :
    Decidable (Supports ofsc version) :=
  inferInstanceAs (Decidable (_ ≠ _))

/-- Where both ends are running they have the same version, and both support
it. -/
def Agreed (controllerOf switchOf : Int) (negotiation : Negotiation) : Prop :=
  negotiation.left.state = .running → negotiation.right.state = .running →
    negotiation.left.version = negotiation.right.version ∧
      Supports (startController controllerOf) negotiation.left.version ∧
      Supports (switchSettings switchOf) negotiation.right.version

instance (controllerOf switchOf : Int) (negotiation : Negotiation) :
    Decidable (Agreed controllerOf switchOf negotiation) :=
  inferInstanceAs (Decidable (_ → _))

theorem startController_eq (ofVersion : Int) :
    startController ofVersion =
      if ofVersion = 10 then startController 10 else startController 13 := by
  by_cases ten : ofVersion = 10
  · rw [if_pos ten, ten]
  · simp only [startController, if_neg ten]
    rfl

theorem switchSettings_eq (ofVersion : Int) :
    switchSettings ofVersion =
      if ofVersion = 10 then switchSettings 10 else switchSettings 13 := by
  by_cases ten : ofVersion = 10
  · rw [if_pos ten, ten]
  · simp only [switchSettings, if_neg ten]
    rfl

/-- A connection in the handshake, or running with version 1. -/
def AtVersionOne (cc : OFConnection) : Prop :=
  cc.state = .handshake ∨ cc.state = .running ∧ cc.version = 1

/-- The messages of version 1 of the two types. -/
def OfVersionOne (first second : Nat) (msg : OFMessage) : Prop :=
  msg.version = 1 ∧ (msg.ofType = first ∨ msg.ofType = second)

theorem startController_flags (controllerOf : Int) :
    (startController controllerOf).livenessCheck = true ∧
      (startController controllerOf).handshake = true ∧
      (startController controllerOf).dispatchAllMessages = true ∧
      (startController controllerOf).useHelloElements = false :=
  ⟨rfl, rfl, rfl, rfl⟩

theorem switchSettings_flags (switchOf : Int) :
    (switchSettings switchOf).livenessCheck = true ∧
      (switchSettings switchOf).handshake = true ∧
      (switchSettings switchOf).dispatchAllMessages = false :=
  ⟨rfl, rfl, rfl⟩

theorem compatible_iff (controllerOf : Int) (msg : OFMessage) :
    OFServer.compatible (startController controllerOf) msg ↔
      Supports (startController controllerOf) msg.version := by
  simp only [OFServer.compatible, OFServer.clientSupportedVersions,
    startController_flags, Bool.false_eq_true, false_and, if_false, Supports]

theorem controller_hello {controllerOf : Int} {msg : OFMessage}
    (hello : msg.ofType = 0)
    (supported : Supports (startController controllerOf) msg.version)
    (cc : OFConnection) :
    controllerReacts controllerOf msg cc =
      (cc, [OFMessage.header msg.version 5 8 msg.xid]) := by
  have dispatched : OFServer.dispatchAll (startController controllerOf) msg cc =
      (cc, []) := by
    simp [OFServer.dispatchAll, startController_flags,
      Controller.messageCallback, Controller.messageEvent, hello]
  simp [controllerReacts, OFServer.baseMessageCallback, startController_flags,
    hello, (compatible_iff controllerOf msg).mpr supported, dispatched,
    Reaction.after, sentMessages]

theorem controller_featuresReply {controllerOf : Int} {msg : OFMessage}
    (reply : msg.ofType = 6) (version : msg.version = 1) (cc : OFConnection) :
    (controllerReacts controllerOf msg cc).2 = [] ∧
      (cc.state = .running ∧ (controllerReacts controllerOf msg cc).1 = cc ∨
        (controllerReacts controllerOf msg cc).1.state = .running ∧
          (controllerReacts controllerOf msg cc).1.version = 1) := by
  by_cases running : cc.state = .running
  · simp [controllerReacts, OFServer.baseMessageCallback,
      startController_flags, reply, running, Controller.messageCallback,
      sentMessages]
  · simp [controllerReacts, OFServer.baseMessageCallback,
      startController_flags, reply, running, Controller.messageCallback,
      version, Controller.establish, Reaction.after,
      Controller.connectionCallback, sentMessages]

theorem controller_versionOne {msg : OFMessage} {cc : OFConnection}
    (message : OfVersionOne 0 6 msg) (connection : AtVersionOne cc) :
    AtVersionOne (controllerReacts 10 msg cc).1 ∧
      ∀ sent ∈ (controllerReacts 10 msg cc).2, OfVersionOne 0 5 sent := by
  obtain ⟨version, hello | reply⟩ := message
  · have supported : Supports (startController 10) msg.version := by
      rw [version]
      decide
    rw [controller_hello hello supported]
    refine ⟨connection, ?_⟩
    intro sent member
    rw [List.mem_singleton.mp member]
    exact ⟨version, .inr rfl⟩
  · obtain ⟨silent, same | entered⟩ :=
      @controller_featuresReply 10 msg reply version cc
    · rw [silent, same.2]
      exact ⟨connection, by simp⟩
    · rw [silent]
      exact ⟨.inr entered, by simp⟩

theorem switch_hello {switchOf : Int} {dataports : List Nat} {msg : OFMessage}
    (hello : msg.ofType = 0) (cc : OFConnection) :
    switchReacts switchOf dataports msg cc = (cc, []) := by
  simp [switchReacts, OFClient.baseMessageCallback, switchSettings_flags,
    hello, OFClient.incompatible, OFClient.dispatchAll, sentMessages]

theorem switch_featuresRequest {switchOf : Int} {dataports : List Nat}
    {msg : OFMessage} (request : msg.ofType = 5) (cc : OFConnection) :
    (switchReacts switchOf dataports msg cc).2 = [OFClient.featuresReply msg] ∧
      (cc.state = .running ∧ (switchReacts switchOf dataports msg cc).1 = cc ∨
        (switchReacts switchOf dataports msg cc).1.state = .running ∧
          (switchReacts switchOf dataports msg cc).1.version =
            msg.version) := by
  have silent : ∀ conn : OFConnection, Switch.messageCallback
      (factoryVersion switchOf) dataports msg conn = [] := by
    intro conn
    simp [Switch.messageCallback, request]
  by_cases running : cc.state = .running
  · simp [switchReacts, OFClient.baseMessageCallback, switchSettings_flags,
      request, running, silent, sentMessages]
  · simp [switchReacts, OFClient.baseMessageCallback, switchSettings_flags,
      request, running, silent, Switch.connectionCallback, sentMessages]

theorem switch_versionOne (dataports : List Nat) {msg : OFMessage}
    {cc : OFConnection} (message : OfVersionOne 0 5 msg)
    (connection : AtVersionOne cc) :
    AtVersionOne (switchReacts 10 dataports msg cc).1 ∧
      ∀ sent ∈ (switchReacts 10 dataports msg cc).2, OfVersionOne 0 6 sent := by
  obtain ⟨version, hello | request⟩ := message
  · rw [switch_hello hello]
    exact ⟨connection, by simp⟩
  · obtain ⟨replied, same | entered⟩ :=
      @switch_featuresRequest 10 dataports msg request cc
    · rw [replied, same.2]
      refine ⟨connection, ?_⟩
      intro sent member
      rw [List.mem_singleton.mp member]
      exact ⟨rfl, .inr rfl⟩
    · rw [replied]
      refine ⟨.inr ⟨entered.1, entered.2.trans version⟩, ?_⟩
      intro sent member
      rw [List.mem_singleton.mp member]
      exact ⟨rfl, .inr rfl⟩

/-- A HELLO of a version that the controller does not support. -/
def Unsupported (controllerOf : Int) (msg : OFMessage) : Prop :=
  msg.ofType = 0 ∧ ¬Supports (startController controllerOf) msg.version

theorem controller_unsupported {controllerOf : Int} {msg : OFMessage}
    (unsupported : Unsupported controllerOf msg) (cc : OFConnection) :
    ∀ sent ∈ (controllerReacts controllerOf msg cc).2,
      sent.ofType = 0 ∨ sent.ofType = 1 := by
  obtain ⟨hello, notSupported⟩ := unsupported
  have incompatible :
      ¬OFServer.compatible (startController controllerOf) msg := by
    rwa [compatible_iff]
  have dispatched : ∀ conn : OFConnection,
      OFServer.dispatchAll (startController controllerOf) msg conn =
        (conn, []) := by
    intro conn
    simp [OFServer.dispatchAll, startController_flags,
      Controller.messageCallback, Controller.messageEvent, hello]
  intro sent member
  simp only [controllerReacts, OFServer.baseMessageCallback,
    startController_flags, hello, incompatible, dispatched, Reaction.after,
    sentMessages, true_and, Controller.connectionCallback,
    List.append_nil] at member
  obtain ⟨effect, effectMember, isSent⟩ := List.mem_filterMap.mp member
  rw [OFConnection.mem_send effectMember, Option.some.injEq] at isSent
  rw [← isSent]
  exact .inr rfl

theorem switch_unanswered {switchOf : Int} {dataports : List Nat}
    {msg : OFMessage} (message : msg.ofType = 0 ∨ msg.ofType = 1)
    (cc : OFConnection) :
    switchReacts switchOf dataports msg cc = (cc, []) := by
  rcases message with hello | error
  · exact switch_hello hello cc
  · simp [switchReacts, OFClient.baseMessageCallback, switchSettings_flags,
      error, Switch.messageCallback, sentMessages]

theorem greeting_startController (controllerOf : Int) :
    OFServer.greeting (startController controllerOf) =
      [OFMessage.header (startController controllerOf).maxSupportedVersion
        0 8 echoXid] := by
  simp [OFServer.greeting, startController_flags]

theorem run_unsupported {controllerOf switchOf : Int}
    (unsupported : ¬Supports (startController controllerOf)
      (switchSettings switchOf).maxSupportedVersion)
    (dataports : List Nat) (deliveries : List FifoPair.Delivery) :
    (run controllerOf switchOf dataports deliveries).right.state =
      .handshake := by
  have greeted : FifoPair.Holds (fun _ => True)
      (fun cc => cc.state = .handshake) (Unsupported controllerOf)
      (fun msg => msg.ofType = 0 ∨ msg.ofType = 1)
      (start controllerOf switchOf) := by
    refine ⟨trivial, rfl, ?_, ?_⟩
    · intro msg member
      rw [List.mem_singleton.mp member]
      exact ⟨rfl, unsupported⟩
    · intro msg member
      simp only [start, greeting_startController] at member
      rw [List.mem_singleton.mp member]
      exact .inl rfl
  refine (greeted.run ?_ ?_ deliveries).right
  · intro msg cc hello _
    exact ⟨trivial, controller_unsupported hello cc⟩
  · intro msg cc message handshake
    rw [switch_unanswered message]
    exact ⟨handshake, by simp⟩

theorem run_versionOne (dataports : List Nat)
    (deliveries : List FifoPair.Delivery) :
    AtVersionOne (run 10 10 dataports deliveries).left ∧
      AtVersionOne (run 10 10 dataports deliveries).right := by
  have greeted : FifoPair.Holds AtVersionOne AtVersionOne (OfVersionOne 0 6)
      (OfVersionOne 0 5) (start 10 10) := by
    refine ⟨.inl rfl, .inl rfl, ?_, ?_⟩
    · intro msg member
      rw [List.mem_singleton.mp member]
      exact ⟨rfl, .inl rfl⟩
    · intro msg member
      rw [List.mem_singleton.mp member]
      exact ⟨rfl, .inl rfl⟩
  have ends : FifoPair.Holds AtVersionOne AtVersionOne (OfVersionOne 0 6)
      (OfVersionOne 0 5) (run 10 10 dataports deliveries) := by
    apply greeted.run
    · intro msg cc message connection
      exact controller_versionOne message connection
    · intro msg cc message connection
      exact switch_versionOne dataports message connection
  exact ⟨ends.left, ends.right⟩

theorem AtVersionOne.version_of_running {cc : OFConnection}
    (atVersionOne : AtVersionOne cc) (running : cc.state = .running) :
    cc.version = 1 := by
  rcases atVersionOne with handshake | entered
  · rw [handshake] at running
    contradiction
  · exact entered.2

theorem factoryVersion_eq (ofVersion : Int) :
    factoryVersion ofVersion =
      if ofVersion = 10 then factoryVersion 10 else factoryVersion 13 := by
  by_cases ten : ofVersion = 10
  · rw [if_pos ten, ten]
  · simp only [factoryVersion, if_neg ten]
    rfl

theorem run_eq (controllerOf switchOf : Int) (dataports : List Nat)
    (deliveries : List FifoPair.Delivery) :
    run controllerOf switchOf dataports deliveries =
      run (if controllerOf = 10 then 10 else 13)
        (if switchOf = 10 then 10 else 13) dataports deliveries := by
  have controller : startController controllerOf =
      startController (if controllerOf = 10 then 10 else 13) := by
    rw [startController_eq, apply_ite startController]
  have switch : switchSettings switchOf =
      switchSettings (if switchOf = 10 then 10 else 13) := by
    rw [switchSettings_eq, apply_ite switchSettings]
  have factory : factoryVersion switchOf =
      factoryVersion (if switchOf = 10 then 10 else 13) := by
    rw [factoryVersion_eq, apply_ite factoryVersion]
  have controllerSame : controllerReacts controllerOf =
      controllerReacts (if controllerOf = 10 then 10 else 13) := by
    funext msg cc
    simp only [controllerReacts, ← controller]
  have switchSame : switchReacts switchOf dataports =
      switchReacts (if switchOf = 10 then 10 else 13) dataports := by
    funext msg cc
    simp only [switchReacts, ← switch, ← factory]
  simp only [run, start, ← controller, ← switch, ← controllerSame,
    ← switchSame]

/-- The HELLO of the switch, the FEATURES_REQUEST, and the FEATURES_REPLY; the
switch gets the HELLO of the controller first. -/
def wholeHandshake : List FifoPair.Delivery :=
  [.toLeft, .toRight, .toRight, .toLeft]

theorem run_versionFour (dataports : List Nat) :
    (run 13 13 dataports wholeHandshake).left.state = .running ∧
      (run 13 13 dataports wholeHandshake).right.state = .running ∧
      (run 13 13 dataports wholeHandshake).left.version = 1 ∧
      (run 13 13 dataports wholeHandshake).right.version = 4 :=
  ⟨rfl, rfl, rfl, rfl⟩

/-- The two ends agree on their version, in every order of their messages,
exactly when one of them is set to OpenFlow 1.0. -/
theorem agreed_iff (controllerOf switchOf : Int) (dataports : List Nat) :
    (∀ deliveries, Agreed controllerOf switchOf
        (run controllerOf switchOf dataports deliveries)) ↔
      controllerOf = 10 ∨ switchOf = 10 := by
  constructor
  · intro agreed
    by_contra neither
    obtain ⟨controllerFour, switchFour⟩ := not_or.mp neither
    have agreedFour := agreed wholeHandshake
    rw [run_eq, if_neg controllerFour, if_neg switchFour] at agreedFour
    obtain ⟨leftRunning, rightRunning, leftVersion, rightVersion⟩ :=
      run_versionFour dataports
    have equal := (agreedFour leftRunning rightRunning).1
    rw [leftVersion, rightVersion] at equal
    contradiction
  · intro versionOne deliveries leftRunning rightRunning
    by_cases both : controllerOf = 10 ∧ switchOf = 10
    · obtain ⟨rfl, rfl⟩ := both
      obtain ⟨left, right⟩ := run_versionOne dataports deliveries
      have leftVersion := left.version_of_running leftRunning
      have rightVersion := right.version_of_running rightRunning
      rw [leftVersion, rightVersion]
      exact ⟨rfl, by decide, by decide⟩
    · have unsupported : ¬Supports (startController controllerOf)
          (switchSettings switchOf).maxSupportedVersion := by
        rw [startController_eq, switchSettings_eq]
        rcases versionOne with controllerOne | switchOne
        · rw [if_pos controllerOne,
            if_neg (fun switchOne => both ⟨controllerOne, switchOne⟩)]
          decide
        · rw [if_pos switchOne,
            if_neg (fun controllerOne => both ⟨controllerOne, switchOne⟩)]
          decide
      have handshake := run_unsupported unsupported dataports deliveries
      rw [handshake] at rightRunning
      contradiction

/-- Both ends with OpenFlow 1.3 run with versions 1 and 4. -/
theorem agreed_openFlow13 :
    ¬Agreed 13 13 (run 13 13 [] wholeHandshake) := by
  decide

end Negotiation

end Perfbench
