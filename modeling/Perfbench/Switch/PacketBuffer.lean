import Perfbench.Library.Arena
import Perfbench.Library.PartialRun
import Perfbench.MachineInteger
import Perfbench.Switch.Datapath

/-!
# The packet buffer

The datapaths of a process keep the packets that they report to the controller
until a FlowMod or a PacketOut names their buffer.  The buffers hold pointers,
the packets are released by whoever handles them last, and the ids of the
buffers come from one counter.  A step that reads or releases a packet that is
not there, or an entry that a vector does not have, has no result.
-/

namespace Perfbench

/-- `OFPP_IN_PORT` and the other ports that stand for no port. -/
def ofppInPort : Nat := 0xfff8
def ofppFlood : Nat := 0xfffb
def ofppAll : Nat := 0xfffc
def ofppController : Nat := 0xfffd

/-- A buffer id of -1. -/
def noBuffer : Nat := 0xffffffff

/-- The actions of OpenFlow 1.0; only outputs are carried out. -/
inductive Action where
  | output (port maxLen : Nat)
  | other
deriving DecidableEq, Repr

/-- `struct packet`: it points to where its bytes were received, and they are
whatever the memory holds there when they are read. -/
structure SwPacket where
  inPort : Nat
  data : Nat
  len : Nat
deriving DecidableEq, Repr

namespace SwPacket

/-- The first bytes that the memory holds at the packet's data. -/
def bytes (pkt : SwPacket) (memory : Nat → UInt8) (len : Nat) : List UInt8 :=
  (List.range len).map (fun offset => memory (pkt.data + offset))

/-- The packet whose fields are extracted. -/
def captured (pkt : SwPacket) (memory : Nat → UInt8) : CapturedPacket where
  inPort := pkt.inPort
  packet :=
    { data := fun offset => memory (pkt.data + offset)
      len := pkt.len }

end SwPacket

inductive PacketInReason where
  | noMatch
  | action
deriving DecidableEq, Repr

/-- What the switch fills in of a PacketIn. -/
structure SwPacketIn where
  bufferId : Nat
  inPort : Nat
  totalLen : Nat
  reason : PacketInReason
  data : List UInt8
deriving DecidableEq, Repr

/-- What `handle_packet_out` reads of a PacketOut; its data lie in the
message. -/
structure SwPacketOut where
  bufferId : Nat
  inPort : Nat
  data : Nat
  dataLen : Nat
  actions : List Action

/-- A frame injected into a port, or a message sent to the controller. -/
inductive Emission where
  | frame (port : Nat) (bytes : List UInt8)
  | packetIn (msg : SwPacketIn)
deriving DecidableEq, Repr

/-- A datapath without its buffer; its ports are numbered from 1, and `conn`
tells whether the pointer to the connection is set. -/
structure DatapathState where
  flowTable : List (Flow Action)
  ports : Nat
  conn : Bool

/-- All datapaths of a process.  `bufferId` has been incremented
`increments` times. -/
structure Datapaths where
  packets : Arena SwPacket
  increments : Nat
  datapath : Nat → DatapathState
  pktBuffer : Nat → List (Nat × Option Nat)
  emitted : List (Nat × Emission)

namespace Datapaths

/-- Switches with the given numbers of ports, before they connect. -/
def initial (ports : Nat → Nat) : Datapaths where
  packets := .empty
  increments := 0
  datapath := fun dp =>
    { flowTable := []
      ports := ports dp
      conn := false }
  pktBuffer := fun _ => []
  emitted := []

def bufferId (state : Datapaths) : Nat := uint32 state.increments

def emit (dp : Nat) (emissions : List Emission) (state : Datapaths) :
    Datapaths :=
  { state with
    emitted := state.emitted ++ emissions.map (fun emission => (dp, emission)) }

/-- A pointer is null or an address. -/
def load (state : Datapaths) (pkt : Option Nat) : Option SwPacket :=
  pkt.bind state.packets.load

/-- `pkt_buffer.insert`, which keeps an entry that is there. -/
def insertBuffer (dp id : Nat) (pkt : Option Nat) (state : Datapaths) :
    Datapaths :=
  if ((state.pktBuffer dp).lookup id).isSome then state
  else
    { state with
      pktBuffer := Function.update state.pktBuffer dp
        ((id, pkt) :: state.pktBuffer dp) }

/-- The packet is put into the buffer under the next id. -/
def bufferPacket (dp : Nat) (pkt : Option Nat) (state : Datapaths) :
    Datapaths :=
  let state := { state with increments := state.increments + 1 }
  state.insertBuffer dp state.bufferId pkt

/-- The element of `ports` at a port's index, if there is one. -/
def portOutputPacket (dp port : Nat) (bytes : List UInt8) (state : Datapaths) :
    Option Datapaths :=
  if 1 ≤ port ∧ port ≤ (state.datapath dp).ports then
    some (state.emit dp [.frame port bytes])
  else none

/-- The message is sent without a look at the pointer to the connection. -/
def sendPacketIn (dp : Nat) (msg : SwPacketIn) (state : Datapaths) :
    Option Datapaths :=
  if (state.datapath dp).conn then some (state.emit dp [.packetIn msg])
  else none

/-- The loop over the ports. -/
def flood (memory : Nat → UInt8) (dp : Nat) (pkt : Option Nat) :
    List Nat → Datapaths → Option Datapaths
  | [], state => some state
  | port :: ports, state =>
      (state.load pkt).bind (fun packet =>
        if port = packet.inPort then flood memory dp pkt ports state
        else
          flood memory dp pkt ports
            (state.emit dp [.frame port (packet.bytes memory packet.len)]))

def actionHandler (memory : Nat → UInt8) (dp : Nat) (pkt : Option Nat)
    (act : Action) (state : Datapaths) : Option Datapaths :=
  match act with
  | .other => some state
  | .output port maxLen =>
      if port = ofppInPort then
        (state.load pkt).bind (fun packet =>
          state.portOutputPacket dp packet.inPort
            (packet.bytes memory packet.len))
      else if port = ofppFlood ∨ port = ofppAll then
        state.flood memory dp pkt (List.range' 1 (state.datapath dp).ports)
      else if port = ofppController then
        (state.load pkt).bind (fun packet =>
          (state.bufferPacket dp pkt).sendPacketIn dp
            { bufferId := noBuffer
              inPort := packet.inPort
              totalLen := packet.len % 2 ^ 16
              reason := .action
              data := packet.bytes memory
                (if packet.len > maxLen then maxLen else packet.len) })
      else
        (state.load pkt).bind (fun packet =>
          state.portOutputPacket dp port (packet.bytes memory packet.len))

def runActions (memory : Nat → UInt8) (dp : Nat) (pkt : Option Nat) :
    List Action → Datapaths → Option Datapaths
  | [], state => some state
  | act :: acts, state =>
      (state.actionHandler memory dp pkt act).bind
        (runActions memory dp pkt acts)

def newPacket (pkt : SwPacket) (state : Datapaths) : Datapaths :=
  { state with packets := state.packets.new pkt }

/-- `delete` does nothing with a null pointer. -/
def deletePacket (pkt : Option Nat) (state : Datapaths) : Option Datapaths :=
  match pkt with
  | none => some state
  | some address =>
      (state.packets.delete address).map
        (fun packets => { state with packets })

/-- `SwPort::packet_handler`; a packet that a flow matches is not released. -/
def packetHandler (memory : Nat → UInt8) (dp : Nat) (pkt : SwPacket)
    (len : Nat) (state : Datapaths) : Option Datapaths :=
  let address := some state.packets.next
  let state := state.newPacket pkt
  match Datapath.packetHandler (state.datapath dp).flowTable
      (pkt.captured memory) with
  | some flow => state.runActions memory dp address flow.actions
  | none =>
      let state := state.bufferPacket dp address
      if (state.datapath dp).conn then
        some (state.emit dp [.packetIn
          { bufferId := state.bufferId
            inPort := pkt.inPort
            totalLen := len % 2 ^ 16
            reason := .noMatch
            data := pkt.bytes memory pkt.len }])
      else some state

/-- The pointer that `pkt_buffer[id]` has, null where there was none. -/
def pointer (dp id : Nat) (state : Datapaths) : Option Nat :=
  ((state.pktBuffer dp).lookup id).getD none

def setFlowTable (dp : Nat) (flowTable : List (Flow Action))
    (state : Datapaths) : Datapaths :=
  { state with
    datapath := Function.update state.datapath dp
      { state.datapath dp with flowTable } }

/-- The flow table does not depend on the buffered packet. -/
def handleFlowMod (memory : Nat → UInt8) (dp : Nat) (fm : SwFlowMod Action)
    (state : Datapaths) : Option Datapaths :=
  let state := state.setFlowTable dp
    (Datapath.handleFlowMod (state.datapath dp).flowTable fm none).1
  if fm.command = .add ∧ fm.bufferId ≠ noBuffer then
    let pkt := state.pointer dp fm.bufferId
    let state := state.insertBuffer dp fm.bufferId none
    (state.load pkt).bind (fun packet =>
      if (Datapath.newFlow fm).pktMatch (packet.captured memory).pktMatch then
        (state.runActions memory dp pkt fm.actions).bind (deletePacket pkt)
      else some state)
  else some state

def handlePacketOut (memory : Nat → UInt8) (dp : Nat) (po : SwPacketOut)
    (state : Datapaths) : Option Datapaths :=
  if po.bufferId = noBuffer then
    let pkt := some state.packets.next
    let state := state.newPacket
      { inPort := po.inPort
        data := po.data
        len := po.dataLen }
    (state.runActions memory dp pkt po.actions).bind (deletePacket pkt)
  else
    let pkt := state.pointer dp po.bufferId
    let state := state.insertBuffer dp po.bufferId none
    (state.runActions memory dp pkt po.actions).bind (deletePacket pkt)

end Datapaths

/-- What happens to a datapath, and the memory at that time.  Each is handled
as a whole, with no other handler in between, though every port has a capture
thread of its own. -/
inductive DatapathEvent where
  | connected (dp : Nat)
  | captured (dp : Nat) (pkt : SwPacket) (len : Nat) (memory : Nat → UInt8)
  | flowMod (dp : Nat) (fm : SwFlowMod Action) (memory : Nat → UInt8)
  | packetOut (dp : Nat) (po : SwPacketOut) (memory : Nat → UInt8)

namespace Datapaths

def connect (dp : Nat) (state : Datapaths) : Datapaths :=
  { state with
    datapath := Function.update state.datapath dp
      { state.datapath dp with conn := true } }

def step (state : Datapaths) : DatapathEvent → Option Datapaths
  | .connected dp => some (state.connect dp)
  | .captured dp pkt len memory => state.packetHandler memory dp pkt len
  | .flowMod dp fm memory => state.handleFlowMod memory dp fm
  | .packetOut dp po memory => state.handlePacketOut memory dp po

/-- A run from the start of the switches in which no handlers overlap, as long
as it has a result. -/
def run (ports : Nat → Nat) (events : List DatapathEvent) : Option Datapaths :=
  PartialRun.run step (initial ports) events

/-- A frame is reported, and the controller has it flooded. -/
def reportedEvents : List DatapathEvent :=
  [.connected 0,
    .captured 0
      { inPort := 1
        data := 0
        len := 1 } 60 (fun _ => 7),
    .packetOut 0
      { bufferId := 1
        inPort := 1
        data := 0
        dataLen := 0
        actions := [.output ofppFlood 0] } (fun _ => 7)]

end Datapaths

end Perfbench
