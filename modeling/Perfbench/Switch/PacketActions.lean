import Perfbench.Switch.PacketBuffer

/-!
# What the actions do with a packet

As long as the packet can be read, what its actions emit depends on the packet,
the ports and the connection alone, and every output to the controller takes
one buffer id.
-/

namespace Perfbench

namespace Action

/-- Whether an action buffers the packet. -/
def toController : Action → Bool
  | .other => false
  | .output port _ => port == ofppController

end Action

namespace DatapathState

def portFrame (dp : DatapathState) (port : Nat) (bytes : List UInt8) :
    Option (List Emission) :=
  if 1 ≤ port ∧ port ≤ dp.ports then some [.frame port bytes] else none

/-- The ports that a flooded packet leaves through. -/
def floodPorts (dp : DatapathState) (pkt : SwPacket) : List Nat :=
  (List.range' 1 dp.ports).filter (fun port => port ≠ pkt.inPort)

def actionEmissions (dp : DatapathState) (memory : Nat → UInt8)
    (pkt : SwPacket) : Action → Option (List Emission)
  | .other => some []
  | .output port maxLen =>
      if port = ofppInPort then
        dp.portFrame pkt.inPort (pkt.bytes memory pkt.len)
      else if port = ofppFlood ∨ port = ofppAll then
        some ((dp.floodPorts pkt).map
          (fun out => .frame out (pkt.bytes memory pkt.len)))
      else if port = ofppController then
        if dp.conn then
          some [.packetIn
            { bufferId := noBuffer
              inPort := pkt.inPort
              totalLen := pkt.len % 2 ^ 16
              reason := .action
              data := pkt.bytes memory
                (if pkt.len > maxLen then maxLen else pkt.len) }]
        else none
      else dp.portFrame port (pkt.bytes memory pkt.len)

def emissions (dp : DatapathState) (memory : Nat → UInt8) (pkt : SwPacket) :
    List Action → Option (List Emission)
  | [] => some []
  | act :: acts =>
      (dp.actionEmissions memory pkt act).bind (fun first =>
        (dp.emissions memory pkt acts).map (fun rest => first ++ rest))

end DatapathState

namespace Datapaths

variable {state : Datapaths} {memory : Nat → UInt8} {dp : Nat}
  {pkt : Option Nat} {packet : SwPacket}

@[simp] theorem emit_nil : state.emit dp [] = state := by
  simp [emit]

theorem emit_emit (first second : List Emission) :
    (state.emit dp first).emit dp second = state.emit dp (first ++ second) := by
  simp [emit]

@[simp] theorem emit_load (emissions : List Emission) :
    (state.emit dp emissions).load pkt = state.load pkt := rfl

@[simp] theorem emit_datapath (emissions : List Emission) :
    (state.emit dp emissions).datapath = state.datapath := rfl

@[simp] theorem insertBuffer_packets (id : Nat) :
    (state.insertBuffer dp id pkt).packets = state.packets := by
  unfold insertBuffer
  split <;> rfl

@[simp] theorem insertBuffer_datapath (id : Nat) :
    (state.insertBuffer dp id pkt).datapath = state.datapath := by
  unfold insertBuffer
  split <;> rfl

@[simp] theorem insertBuffer_increments (id : Nat) :
    (state.insertBuffer dp id pkt).increments = state.increments := by
  unfold insertBuffer
  split <;> rfl

@[simp] theorem insertBuffer_emitted (id : Nat) :
    (state.insertBuffer dp id pkt).emitted = state.emitted := by
  unfold insertBuffer
  split <;> rfl

@[simp] theorem insertBuffer_load (id : Nat) (other : Option Nat) :
    (state.insertBuffer dp id pkt).load other = state.load other := by
  simp [load]

@[simp] theorem bufferPacket_packets :
    (state.bufferPacket dp pkt).packets = state.packets := by
  simp [bufferPacket]

@[simp] theorem bufferPacket_datapath :
    (state.bufferPacket dp pkt).datapath = state.datapath := by
  simp [bufferPacket]

@[simp] theorem bufferPacket_increments :
    (state.bufferPacket dp pkt).increments = state.increments + 1 := by
  simp [bufferPacket]

@[simp] theorem bufferPacket_emitted :
    (state.bufferPacket dp pkt).emitted = state.emitted := by
  simp [bufferPacket]

@[simp] theorem bufferPacket_load (other : Option Nat) :
    (state.bufferPacket dp pkt).load other = state.load other := by
  simp [load]

theorem insertBuffer_emit (id : Nat) (emissions : List Emission) :
    (state.emit dp emissions).insertBuffer dp id pkt =
      (state.insertBuffer dp id pkt).emit dp emissions := by
  unfold insertBuffer
  by_cases present : ((state.pktBuffer dp).lookup id).isSome
  · rw [if_pos present]
    exact if_pos present
  · rw [if_neg present]
    exact if_neg present

theorem bufferPacket_emit (emissions : List Emission) :
    (state.emit dp emissions).bufferPacket dp pkt =
      (state.bufferPacket dp pkt).emit dp emissions := by
  let counted := { state with increments := state.increments + 1 }
  exact @insertBuffer_emit counted dp pkt counted.bufferId emissions

/-- The packet is buffered a number of times. -/
def bufferCopies (dp : Nat) (pkt : Option Nat) : Nat → Datapaths → Datapaths
  | 0, state => state
  | copies + 1, state => bufferCopies dp pkt copies (state.bufferPacket dp pkt)

section Copies

variable (copies : Nat)

@[simp] theorem bufferCopies_packets :
    (state.bufferCopies dp pkt copies).packets = state.packets := by
  induction copies generalizing state with
  | zero => rfl
  | succ copies induction => simp [bufferCopies, induction]

@[simp] theorem bufferCopies_load (other : Option Nat) :
    (state.bufferCopies dp pkt copies).load other = state.load other := by
  simp [load]

@[simp] theorem bufferCopies_datapath :
    (state.bufferCopies dp pkt copies).datapath = state.datapath := by
  induction copies generalizing state with
  | zero => rfl
  | succ copies induction => simp [bufferCopies, induction]

@[simp] theorem bufferCopies_increments :
    (state.bufferCopies dp pkt copies).increments =
      state.increments + copies := by
  induction copies generalizing state with
  | zero => rfl
  | succ copies induction =>
      rw [bufferCopies, induction, bufferPacket_increments]
      omega

@[simp] theorem bufferCopies_emitted :
    (state.bufferCopies dp pkt copies).emitted = state.emitted := by
  induction copies generalizing state with
  | zero => rfl
  | succ copies induction => simp [bufferCopies, induction]

theorem bufferCopies_emit (emissions : List Emission) :
    (state.emit dp emissions).bufferCopies dp pkt copies =
      (state.bufferCopies dp pkt copies).emit dp emissions := by
  induction copies generalizing state with
  | zero => rfl
  | succ copies induction =>
      rw [bufferCopies, bufferPacket_emit, induction, bufferCopies]

end Copies

theorem portOutputPacket_eq (port : Nat) (bytes : List UInt8) :
    state.portOutputPacket dp port bytes =
      ((state.datapath dp).portFrame port bytes).map
        (fun emissions => state.emit dp emissions) := by
  unfold portOutputPacket DatapathState.portFrame
  split <;> rfl

theorem flood_live (loaded : state.load pkt = some packet)
    (ports : List Nat) :
    state.flood memory dp pkt ports =
      some (state.emit dp
        ((ports.filter (fun port => port ≠ packet.inPort)).map
          (fun port => .frame port (packet.bytes memory packet.len)))) := by
  induction ports generalizing state with
  | nil => simp [flood]
  | cons port ports induction =>
      rw [flood, loaded, Option.bind_some]
      by_cases ingress : port = packet.inPort
      · rw [if_pos ingress, induction loaded]
        simp [ingress]
      · rw [if_neg ingress, induction (by simpa using loaded), emit_emit]
        simp [ingress]

theorem actionHandler_live (loaded : state.load pkt = some packet)
    (act : Action) :
    state.actionHandler memory dp pkt act =
      ((state.datapath dp).actionEmissions memory packet act).map
        (fun emissions =>
          (state.bufferCopies dp pkt (if act.toController then 1 else 0)).emit
            dp emissions) := by
  cases act with
  | other => simp [actionHandler, DatapathState.actionEmissions, bufferCopies,
      Action.toController]
  | output port maxLen =>
      simp only [actionHandler, DatapathState.actionEmissions, loaded,
        Option.bind_some, Action.toController, beq_iff_eq]
      by_cases ingress : port = ofppInPort
      · have notController : port ≠ ofppController := by
          rw [ingress]
          decide
        rw [if_pos ingress, if_pos ingress, if_neg notController,
          portOutputPacket_eq]
        rfl
      · rw [if_neg ingress, if_neg ingress]
        by_cases flooded : port = ofppFlood ∨ port = ofppAll
        · have notController : port ≠ ofppController := by
            rcases flooded with rfl | rfl <;> decide
          rw [if_pos flooded, if_pos flooded, if_neg notController,
            flood_live loaded]
          rfl
        · rw [if_neg flooded, if_neg flooded]
          by_cases controller : port = ofppController
          · rw [if_pos controller, if_pos controller, if_pos controller,
              sendPacketIn, bufferPacket_datapath]
            split <;> rfl
          · rw [if_neg controller, if_neg controller, if_neg controller,
              portOutputPacket_eq]
            rfl

theorem runActions_live (loaded : state.load pkt = some packet)
    (acts : List Action) :
    state.runActions memory dp pkt acts =
      ((state.datapath dp).emissions memory packet acts).map (fun emissions =>
        (state.bufferCopies dp pkt (acts.countP Action.toController)).emit dp
          emissions) := by
  induction acts generalizing state with
  | nil => simp [runActions, DatapathState.emissions, bufferCopies]
  | cons act acts induction =>
      rw [runActions, DatapathState.emissions, actionHandler_live loaded]
      cases first : (state.datapath dp).actionEmissions memory packet act with
      | none => rfl
      | some emissions =>
          have still : ((state.bufferCopies dp pkt
              (if act.toController then 1 else 0)).emit dp emissions).load pkt =
                some packet := by
            rw [emit_load, bufferCopies_load]
            exact loaded
          simp only [Option.map_some, Option.bind_some, induction still,
            emit_datapath, bufferCopies_datapath, Option.map_map]
          congr 1
          funext rest
          simp only [Function.comp_apply, bufferCopies_emit, emit_emit]
          rw [List.countP_cons]
          cases act.toController with
          | false => rfl
          | true => rfl

end Datapaths

end Perfbench
