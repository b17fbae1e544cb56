import Perfbench.Connection.OFConnection
import Perfbench.Controller

/-!
# The controller's end of a connection

The handshake is made in two places: `OFServer::base_message_callback` answers
HELLO and sets up the timer, `Controller::message_callback` puts the connection
into the running state.  Both only look at whether it is running already.
-/

namespace Perfbench

/-- The settings that `start_controller` makes. -/
def startController (ofVersion : Int) : OFServerSettings :=
  let ofscVersion := if ofVersion = 10 then 1 else 4
  { OFServerSettings.default.supportedVersion ofscVersion with
    echoInterval := 600
    livenessCheck := true
    handshake := true
    dispatchAllMessages := true }

/-- A connection after a callback, and what the callback did. -/
abbrev Reaction := OFConnection × List (Effect EventType)

/-- What was done before, and the reaction after it. -/
def Reaction.after (before : List (Effect EventType)) (reaction : Reaction) :
    Reaction :=
  (reaction.1, before ++ reaction.2)

namespace Controller

def connectionCallback : ConnectionEvent → List (Effect EventType)
  | .started => []
  | .established => [.dispatch .connUp]
  | .failedNegotiation => []
  | .closed => [.dispatch .connDown]
  | .dead => [.dispatch .connDown]

/-- `MultipartRequestPortDescription`. -/
def portDescRequest : OFMessage :=
  { OFMessage.header 4 18 16 0 with mpartType := 13 }

/-- The lines that end a handshake. -/
def establish (cc : OFConnection) : Reaction :=
  Reaction.after [.pushConn]
    (cc.setState .running, connectionCallback .established)

def messageCallback (msg : OFMessage) (ofconn : OFConnection) : Reaction :=
  if msg.ofType = 6 then
    if ofconn.state = .running then (ofconn, [.dispatch .featuresReply])
    else
      let ofconn := ofconn.setVersion msg.version
      if ofconn.version = 1 then
        establish { ofconn with switchPorts10 := msg.ports }
      else if ofconn.version = 4 then (ofconn, ofconn.send portDescRequest)
      else (ofconn, [])
  else if msg.ofType = 19 then
    if ofconn.state = .running then (ofconn, [.dispatch .multipartReply])
    else establish { ofconn with switchPorts13 := msg.ports }
  else
    match messageEvent msg.ofType with
    | some eventType => (ofconn, [.dispatch eventType])
    | none => (ofconn, [])

end Controller

namespace OFServer

/-- Dispatch, or be done. -/
def dispatchAll (ofsc : OFServerSettings) (msg : OFMessage)
    (cc : OFConnection) : Reaction :=
  if ofsc.dispatchAllMessages then Controller.messageCallback msg cc
  else (cc, [])

/-- The versions that a HELLO offers. -/
def clientSupportedVersions (ofsc : OFServerSettings) (msg : OFMessage) : Nat :=
  if ofsc.useHelloElements ∧ msg.length > 8 ∧ msg.element.elemType = 1 ∧
      msg.element.length ≥ 8 then msg.element.bitmap
  else versionBit msg.version

def compatible (ofsc : OFServerSettings) (msg : OFMessage) : Prop :=
  ofsc.supportedVersions &&& clientSupportedVersions ofsc msg ≠ 0

instance (ofsc : OFServerSettings) (msg : OFMessage) :
    Decidable (compatible ofsc msg) :=
  inferInstanceAs (Decidable (_ ≠ _))

def helloFailed (msg : OFMessage) : OFMessage :=
  { OFMessage.header msg.version 1 12 msg.xid with error := (0, 0) }

def baseMessageCallback (ofsc : OFServerSettings) (msg : OFMessage)
    (cc : OFConnection) : Reaction :=
  if ofsc.livenessCheck ∧ msg.ofType = 2 then
    Reaction.after [.send { msg with ofType := 3 }] (dispatchAll ofsc msg cc)
  else if ofsc.handshake ∧ msg.ofType = 0 then
    if compatible ofsc msg then
      Reaction.after [.send (OFMessage.header msg.version 5 8 msg.xid)]
        (dispatchAll ofsc msg cc)
    else
      Reaction.after
        (cc.send (helloFailed msg) ++
          Controller.connectionCallback .failedNegotiation)
        (dispatchAll ofsc msg (cc.close.setState .failed))
  else if ofsc.livenessCheck ∧ msg.ofType = 3 then
    dispatchAll ofsc msg (if msg.xid = echoXid then cc.setAlive true else cc)
  else if ofsc.handshake ∧ msg.ofType = 6 ∧ cc.state ≠ .running then
    Reaction.after
      (if ofsc.livenessCheck then
        [.addTimedCallback (ofsc.echoInterval * 1000)] else [])
      (Controller.messageCallback msg (cc.setVersion msg.version))
  else Controller.messageCallback msg cc

/-- The messages that a new connection begins with. -/
def greeting (ofsc : OFServerSettings) : List OFMessage :=
  if ofsc.handshake then
    let hello := OFMessage.header ofsc.maxSupportedVersion 0
      (if ofsc.useHelloElements then 16 else 8) echoXid
    [if ofsc.maxSupportedVersion ≥ 4 ∧ ofsc.useHelloElements then
      { hello with
        element :=
          { elemType := 1, length := 8, bitmap := ofsc.supportedVersions } }
      else hello]
  else []

/-- The DOWN event of the connection. -/
def baseConnectionDown (cc : OFConnection) : Reaction :=
  (cc.close, Controller.connectionCallback .closed)

def sendEcho (cc : OFConnection) : Reaction :=
  if cc.alive then
    (cc.setAlive false, cc.send (OFMessage.header cc.version 2 8 echoXid))
  else (cc.close, Controller.connectionCallback .dead)

/-- What happens to a connection: a message arrives, the timer of `send_echo`
fires, or the other end is gone. -/
inductive Event where
  | message (msg : OFMessage)
  | timer
  | down
  deriving DecidableEq

def react (ofsc : OFServerSettings) (cc : OFConnection) : Event → Reaction
  | .message msg => baseMessageCallback ofsc msg cc
  | .timer => sendEcho cc
  | .down => baseConnectionDown cc

end OFServer

end Perfbench
