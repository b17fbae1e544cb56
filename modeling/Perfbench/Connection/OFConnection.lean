import Mathlib.Data.List.Basic
import Perfbench.MachineInteger

/-!
# OpenFlow connections

What both ends of a connection have in common: the settings of a server or a
client, the messages with the fields that the handshake looks at, and the
class `OFConnection`.
-/

namespace Perfbench

/-- `1 << version`; a shift beyond the width is undefined and counts modulo
32 here, as the hardware does. -/
def versionBit (version : Nat) : Nat := 1 <<< (version % 32)

/-- The loop of `add_version` that counts the bits of a bitmap. -/
def bitLength : (fuel : Nat) → Nat → Nat
  | 0, _ => 0
  | fuel + 1, x => if x > 0 then bitLength fuel (x >>> 1) + 1 else 0

structure OFServerSettings where
  supportedVersions : Nat
  maxSupportedVersion : Nat
  versionSetByHand : Bool
  echoInterval : Nat
  livenessCheck : Bool
  handshake : Bool
  dispatchAllMessages : Bool
  useHelloElements : Bool
  deriving DecidableEq

namespace OFServerSettings

def addVersion (version : Nat) (ofsc : OFServerSettings) : OFServerSettings :=
  let supportedVersions := ofsc.supportedVersions ||| versionBit version
  { ofsc with
    supportedVersions
    maxSupportedVersion := bitLength 32 supportedVersions - 1 }

/-- The constructor. -/
def default : OFServerSettings :=
  { addVersion 1
      { supportedVersions := 0
        maxSupportedVersion := 0
        versionSetByHand := false
        echoInterval := 15
        livenessCheck := true
        handshake := true
        dispatchAllMessages := false
        useHelloElements := false } with
    versionSetByHand := false }

def supportedVersion (version : Nat) (ofsc : OFServerSettings) :
    OFServerSettings :=
  -- the default 1.0 goes with the first version that is set
  addVersion version
    (if ofsc.versionSetByHand then ofsc
      else { ofsc with versionSetByHand := true, supportedVersions := 0 })

end OFServerSettings

/-- The first element behind the header of a long HELLO. -/
structure HelloElement where
  elemType : Nat
  length : Nat
  bitmap : Nat
  deriving DecidableEq

/-- The header of a message and, of the bodies, what the two ends read. -/
structure OFMessage where
  version : Nat
  ofType : Nat
  length : Nat
  xid : Nat
  element : HelloElement
  error : Nat × Nat
  mpartType : Nat
  ports : List Nat
  deriving DecidableEq

namespace OFMessage

/-- A message that is only a header. -/
def header (version ofType length xid : Nat) : OFMessage :=
  { version
    ofType
    length
    xid
    element := { elemType := 0, length := 0, bitmap := 0 }
    error := (0, 0)
    mpartType := 0
    ports := [] }

end OFMessage

/-- `ECHO_XID` and `HELLO_XID`. -/
def echoXid : Nat := 0x0F

inductive ConnectionState where
  | handshake
  | running
  | failed
  | down
  deriving DecidableEq

/-- The events of `OFConnection`. -/
inductive ConnectionEvent where
  | started
  | established
  | failedNegotiation
  | closed
  | dead
  deriving DecidableEq

/-- What a callback does besides changing the connection: send a message, set
up the timer, append the connection to `Controller::conns`, or hand an event
to the listeners. -/
inductive Effect (Event : Type) where
  | send (msg : OFMessage)
  | addTimedCallback (interval : Nat)
  | pushConn
  | dispatch (event : Event)
  deriving DecidableEq

/-- The messages among the effects. -/
def sentMessages {EventType : Type} (effects : List (Effect EventType)) :
    List OFMessage :=
  effects.filterMap (fun effect => match effect with
    | .send msg => some msg
    | _ => none)

/-- The class `OFConnection`; `connected` says that `conn` is not `NULL`. -/
structure OFConnection where
  connected : Bool
  state : ConnectionState
  alive : Bool
  version : Nat
  switchPorts10 : List Nat
  switchPorts13 : List Nat
  deriving DecidableEq

namespace OFConnection

def new : OFConnection :=
  { connected := true
    state := .handshake
    alive := true
    version := 0
    switchPorts10 := []
    switchPorts13 := [] }

def setState (state : ConnectionState) (cc : OFConnection) : OFConnection :=
  { cc with state }

def setVersion (version : Nat) (cc : OFConnection) : OFConnection :=
  { cc with version }

def setAlive (alive : Bool) (cc : OFConnection) : OFConnection :=
  { cc with alive }

def send {Event : Type} (msg : OFMessage) (cc : OFConnection) :
    List (Effect Event) :=
  if cc.connected then [.send msg] else []

def close (cc : OFConnection) : OFConnection :=
  if cc.connected then { cc.setState .down with connected := false } else cc

@[simp] theorem setState_state (state : ConnectionState) (cc : OFConnection) :
    (cc.setState state).state = state := rfl

@[simp] theorem setVersion_state (version : Nat) (cc : OFConnection) :
    (cc.setVersion version).state = cc.state := rfl

@[simp] theorem setAlive_state (alive : Bool) (cc : OFConnection) :
    (cc.setAlive alive).state = cc.state := rfl

@[simp] theorem setState_version (state : ConnectionState)
    (cc : OFConnection) : (cc.setState state).version = cc.version := rfl

@[simp] theorem setVersion_version (version : Nat) (cc : OFConnection) :
    (cc.setVersion version).version = version := rfl

@[simp] theorem setAlive_version (alive : Bool) (cc : OFConnection) :
    (cc.setAlive alive).version = cc.version := rfl

theorem close_state (cc : OFConnection) :
    cc.close.state = if cc.connected then .down else cc.state := by
  unfold close
  split <;> rfl

theorem mem_send {Event : Type} {msg : OFMessage} {cc : OFConnection}
    {effect : Effect Event} (member : effect ∈ cc.send msg) :
    effect = .send msg := by
  unfold send at member
  split at member
  · exact List.mem_singleton.mp member
  · cases member

end OFConnection

end Perfbench
