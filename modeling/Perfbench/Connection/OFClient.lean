import Perfbench.Connection.OFConnection

/-!
# The switch's end of a connection

`OFClient` makes the switch's part of the handshake, and `Switch` answers the
requests that come after it.
-/

namespace Perfbench

/-- The types of switch events. -/
inductive SwitchEventType where
  | connUp
  | connDown
  | flowMod
  deriving DecidableEq

/-- The settings of a switch of the sandwich testcases. -/
def switchSettings (ofVersion : Int) : OFServerSettings :=
  let ofscVersion := if ofVersion = 10 then 1 else 4
  { OFServerSettings.default.supportedVersion ofscVersion with
    echoInterval := 120 }

/-- The version of the messages that the testcase's packet factory makes. -/
def factoryVersion (ofVersion : Int) : Nat := if ofVersion = 10 then 1 else 4

/-- A connection of a switch after a callback, and what the callback did. -/
abbrev SwitchReaction := OFConnection × List (Effect SwitchEventType)

namespace Switch

/-- The settings that the constructor makes, which a switch on its own
keeps. -/
def settings : OFServerSettings :=
  { OFServerSettings.default.supportedVersion 4 with
    echoInterval := 600 }

/-- What a closed connection leads to besides, a new connection, is not part of
this one. -/
def connectionCallback (event : ConnectionEvent) (conn : OFConnection) :
    SwitchReaction :=
  match event with
  | .closed => (conn.close, [.dispatch .connDown])
  | .established => (conn, [.dispatch .connUp])
  | _ => (conn, [])

/-- A reply of the packet factory. -/
def reply (version ofType : Nat) (request : OFMessage) : OFMessage :=
  OFMessage.header version ofType 0 request.xid

def handleStatsRequest (factory : Nat) (msg : OFMessage)
    (conn : OFConnection) : List (Effect SwitchEventType) :=
  if msg.mpartType = 0 then
    conn.send (reply factory (if factory = 1 then 17 else 19) msg)
  else []

/-- The replies of OpenFlow 1.3 only; `dataports` are those of the datapath. -/
def handleMultipartRequest (factory : Nat) (dataports : List Nat)
    (msg : OFMessage) (conn : OFConnection) : List (Effect SwitchEventType) :=
  if msg.mpartType = 0 then
    conn.send (reply factory (if factory = 1 then 17 else 19) msg)
  else if msg.mpartType = 13 then
    conn.send
      { reply 4 19 msg with
        mpartType := 13
        ports := 0xfffffffe :: dataports }
  else if msg.mpartType = 11 then
    conn.send { reply 4 19 msg with mpartType := 11 }
  else []

def handleBarrierRequest (factory : Nat) (msg : OFMessage)
    (conn : OFConnection) : List (Effect SwitchEventType) :=
  conn.send (reply factory (if factory = 1 then 19 else 21) msg)

def handleGetConfigReq (factory : Nat) (msg : OFMessage)
    (conn : OFConnection) : List (Effect SwitchEventType) :=
  conn.send (reply factory 8 msg)

def handleRoleRequest (msg : OFMessage) (conn : OFConnection) :
    List (Effect SwitchEventType) :=
  conn.send (reply 4 25 msg)

def messageCallback (factory : Nat) (dataports : List Nat) (msg : OFMessage)
    (conn : OFConnection) : List (Effect SwitchEventType) :=
  if conn.version = 1 then
    if msg.ofType = 18 then handleBarrierRequest factory msg conn
    else if msg.ofType = 14 then [.dispatch .flowMod]
    else if msg.ofType = 16 then handleStatsRequest factory msg conn
    else if msg.ofType = 7 then handleGetConfigReq factory msg conn
    else []
  else if conn.version = 4 then
    if msg.ofType = 20 then handleBarrierRequest factory msg conn
    else if msg.ofType = 14 then [.dispatch .flowMod]
    else if msg.ofType = 18 then
      handleMultipartRequest factory dataports msg conn
    else if msg.ofType = 7 then handleGetConfigReq factory msg conn
    else if msg.ofType = 24 then handleRoleRequest msg conn
    else []
  else []

end Switch

namespace OFClient

/-- The reply to any FEATURES_REQUEST is one of OpenFlow 1.0. -/
def featuresReply (request : OFMessage) : OFMessage :=
  { OFMessage.header 1 6 128 request.xid with ports := [1, 2] }

/-- The test for versions in common negates a pointer, which is never null. -/
def incompatible (_version : Nat) : Bool := false

def helloFailed (msg : OFMessage) : OFMessage :=
  { OFMessage.header msg.version 1 12 msg.xid with error := (0, 0) }

/-- Dispatch a message unless it is one that only the base class handles. -/
def dispatchAll (ofsc : OFServerSettings) (factory : Nat)
    (dataports : List Nat) (msg : OFMessage) (cc : OFConnection) :
    List (Effect SwitchEventType) :=
  if ofsc.dispatchAllMessages then
    Switch.messageCallback factory dataports msg cc
  else []

def baseMessageCallback (ofsc : OFServerSettings) (factory : Nat)
    (dataports : List Nat) (msg : OFMessage) (cc : OFConnection) :
    SwitchReaction :=
  if ofsc.livenessCheck ∧ msg.ofType = 2 then
    (cc, .send (OFMessage.header msg.version 3 8 msg.xid) ::
      dispatchAll ofsc factory dataports msg cc)
  else if ofsc.handshake ∧ msg.ofType = 0 then
    if incompatible msg.version then
      let failed := cc.close.setState .failed
      (failed, cc.send (helloFailed msg) ++
        dispatchAll ofsc factory dataports msg failed)
    else (cc, dispatchAll ofsc factory dataports msg cc)
  else if ofsc.livenessCheck ∧ msg.ofType = 3 then
    let alive := if msg.xid = echoXid then cc.setAlive true else cc
    (alive, dispatchAll ofsc factory dataports msg alive)
  else if ofsc.handshake ∧ msg.ofType = 5 then
    let running := (cc.setVersion msg.version).setState .running
    let established : SwitchReaction :=
      if cc.state ≠ .running then
        (running,
          (if ofsc.livenessCheck then
            [.addTimedCallback (ofsc.echoInterval * 1000)] else []) ++
          (Switch.connectionCallback .established running).2)
      else (cc, [])
    (established.1,
      established.2 ++ [.send (featuresReply msg)] ++
        Switch.messageCallback factory dataports msg established.1)
  else (cc, Switch.messageCallback factory dataports msg cc)

/-- The message that a new connection begins with; its xid is not put into
network order. -/
def greeting (ofsc : OFServerSettings) : List OFMessage :=
  if ofsc.handshake then
    [OFMessage.header ofsc.maxSupportedVersion 0 8 (echoXid * 2 ^ 24)]
  else []

/-- A dead connection of the switch is closed, too. -/
def sendEcho (cc : OFConnection) : SwitchReaction :=
  if cc.alive then
    (cc.setAlive false, cc.send (OFMessage.header cc.version 2 8 echoXid))
  else Switch.connectionCallback .dead cc.close

end OFClient

end Perfbench
