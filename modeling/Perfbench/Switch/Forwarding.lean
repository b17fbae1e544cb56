import Perfbench.Switch.PacketMemory

/-!
# Which frames leave through which ports

Every step of a datapath handles one packet at most.  A frame that it injects
is a copy of that packet, and a port gets one copy for each action that sends
the packet there.
-/

namespace Perfbench

/-- Whether an action injects a packet into a port. -/
def Action.sendsTo (ports inPort port : Nat) : Action → Bool
  | .other => false
  | .output out _ =>
      if out = ofppInPort then port == inPort
      else if out = ofppFlood ∨ out = ofppAll then
        decide (1 ≤ port ∧ port ≤ ports) && port != inPort
      else if out = ofppController then false
      else port == out

def Emission.frameOn (port : Nat) : Emission → Option (List UInt8)
  | .frame out bytes => if out = port then some bytes else none
  | .packetIn _ => none

/-- The frames injected into a port, in their order. -/
def framesOn (dp port : Nat) (emitted : List (Nat × Emission)) :
    List (List UInt8) :=
  emitted.filterMap (fun entry =>
    if entry.1 = dp then entry.2.frameOn port else none)

theorem framesOn_append (dp port : Nat)
    (first second : List (Nat × Emission)) :
    framesOn dp port (first ++ second) =
      framesOn dp port first ++ framesOn dp port second :=
  List.filterMap_append

theorem framesOn_emissions (dp target port : Nat)
    (emissions : List Emission) :
    framesOn target port (emissions.map (fun emission => (dp, emission))) =
      if dp = target then emissions.filterMap (Emission.frameOn port)
      else [] := by
  rw [framesOn, List.filterMap_map]
  by_cases here : dp = target
  · rw [if_pos here]
    congr 1
    funext emission
    simp [here]
  · rw [if_neg here]
    simp [here]

namespace DatapathState

variable {dp : DatapathState} {memory : Nat → UInt8} {packet : SwPacket}

theorem mem_floodPorts {port : Nat} :
    port ∈ dp.floodPorts packet ↔
      (1 ≤ port ∧ port ≤ dp.ports) ∧ port ≠ packet.inPort := by
  simp only [floodPorts, List.mem_filter, List.mem_range'_1, ne_eq,
    decide_not, Bool.not_eq_true', decide_eq_false_iff_not]
  omega

theorem flood_frameOn (port : Nat) (bytes : List UInt8) :
    ((dp.floodPorts packet).map
        (fun out => Emission.frame out bytes)).filterMap
          (Emission.frameOn port) =
      if port ∈ dp.floodPorts packet then [bytes] else [] := by
  have distinct : (dp.floodPorts packet).Nodup :=
    List.Nodup.filter _ List.nodup_range'
  generalize dp.floodPorts packet = outs at distinct ⊢
  induction outs with
  | nil => rfl
  | cons out outs induction =>
      obtain ⟨fresh, restDistinct⟩ := List.nodup_cons.mp distinct
      rw [List.map_cons, List.filterMap_cons, Emission.frameOn]
      by_cases here : out = port
      · subst here
        rw [if_pos rfl, induction restDistinct, if_neg fresh]
        simp
      · rw [if_neg here, induction restDistinct]
        simp [Ne.symm here]

theorem portFrame_frameOn {out : Nat} {bytes : List UInt8}
    {emissions : List Emission}
    (emits : dp.portFrame out bytes = some emissions) (port : Nat) :
    emissions.filterMap (Emission.frameOn port) =
      if port == out then [bytes] else [] := by
  unfold portFrame at emits
  split at emits
  · cases emits
    by_cases here : out = port
    · simp [Emission.frameOn, here]
    · simp [Emission.frameOn, here, Ne.symm here]
  · cases emits

theorem actionEmissions_frameOn {act : Action} {emissions : List Emission}
    (emits : dp.actionEmissions memory packet act = some emissions)
    (port : Nat) :
    emissions.filterMap (Emission.frameOn port) =
      if act.sendsTo dp.ports packet.inPort port then
        [packet.bytes memory packet.len]
      else [] := by
  cases act with
  | other =>
      cases emits
      rfl
  | output out maxLen =>
      simp only [actionEmissions] at emits
      by_cases ingress : out = ofppInPort
      · rw [if_pos ingress] at emits
        rw [portFrame_frameOn emits port]
        simp only [Action.sendsTo, if_pos ingress]
      · rw [if_neg ingress] at emits
        by_cases flooded : out = ofppFlood ∨ out = ofppAll
        · rw [if_pos flooded, Option.some.injEq] at emits
          rw [← emits, flood_frameOn]
          simp [Action.sendsTo, ingress, flooded, mem_floodPorts]
        · rw [if_neg flooded] at emits
          by_cases controller : out = ofppController
          · rw [if_pos controller] at emits
            have sends : (Action.output out maxLen).sendsTo dp.ports
                packet.inPort port = false := by
              simp only [Action.sendsTo, if_neg ingress, if_neg flooded,
                if_pos controller]
            rw [sends]
            split at emits
            · cases emits
              rfl
            · cases emits
          · rw [if_neg controller] at emits
            rw [portFrame_frameOn emits port]
            simp only [Action.sendsTo, if_neg ingress, if_neg flooded,
              if_neg controller]

theorem emissions_frameOn {acts : List Action} {emissions : List Emission}
    (emits : dp.emissions memory packet acts = some emissions) (port : Nat) :
    emissions.filterMap (Emission.frameOn port) =
      List.replicate
        (acts.countP (Action.sendsTo dp.ports packet.inPort port))
        (packet.bytes memory packet.len) := by
  induction acts generalizing emissions with
  | nil =>
      cases emits
      rfl
  | cons act acts induction =>
      rw [DatapathState.emissions] at emits
      obtain ⟨first, firstEmits, restEmits⟩ := Option.bind_eq_some_iff.mp emits
      obtain ⟨rest, emitsRest, rfl⟩ := Option.map_eq_some_iff.mp restEmits
      rw [List.filterMap_append, actionEmissions_frameOn firstEmits,
        induction emitsRest, List.countP_cons]
      cases act.sendsTo dp.ports packet.inPort port with
      | false => rfl
      | true => simp [List.replicate_succ]

end DatapathState

namespace Datapaths

/-- A packet that a step handles, and with which actions. -/
structure Handled where
  dp : Nat
  packet : SwPacket
  actions : List Action
  memory : Nat → UInt8

/-- The copies of a handled packet that are injected into a port. -/
def Handled.frames (handled : Handled) (ports : Nat → Nat)
    (target port : Nat) : List (List UInt8) :=
  if handled.dp = target then
    List.replicate
      (handled.actions.countP
        (Action.sendsTo (ports handled.dp) handled.packet.inPort port))
      (handled.packet.bytes handled.memory handled.packet.len)
  else []

/-- What a step handles: a captured packet that a flow matches, a buffered one
that a new flow matches, or the packet of a PacketOut. -/
def handled (state : Datapaths) : DatapathEvent → Option Handled
  | .connected _ => none
  | .captured dp packet _ memory =>
      (Datapath.packetHandler (state.datapath dp).flowTable
          (packet.captured memory)).map
        (fun flow => { dp, packet, actions := flow.actions, memory })
  | .flowMod dp fm memory =>
      if fm.command = .add ∧ fm.bufferId ≠ noBuffer then
        (state.load (state.pointer dp fm.bufferId)).bind (fun packet =>
          if (Datapath.newFlow fm).pktMatch
              (packet.captured memory).pktMatch then
            some { dp, packet, actions := fm.actions, memory }
          else none)
      else none
  | .packetOut dp po memory =>
      if po.bufferId = noBuffer then
        some
          { dp
            packet :=
              { inPort := po.inPort
                data := po.data
                len := po.dataLen }
            actions := po.actions
            memory }
      else
        (state.load (state.pointer dp po.bufferId)).map
          (fun packet => { dp, packet, actions := po.actions, memory })

/-- What the steps of a run handle, one after the other. -/
def handledFrom : Datapaths → List DatapathEvent → List Handled
  | _, [] => []
  | state, event :: events =>
      (state.handled event).toList ++
        ((state.step event).map
          (fun after => handledFrom after events)).getD []

section Step

variable {state after : Datapaths} {memory : Nat → UInt8} {dp : Nat}
  {pkt : Option Nat} {ports : Nat → Nat}

/-- The frames of a packet that may not be there. -/
def framesOf (ports : Nat → Nat) (target port : Nat)
    (handled : Option Handled) : List (List UInt8) :=
  handled.toList.flatMap (fun handled => handled.frames ports target port)

theorem framesOn_emit (emissions : List Emission) (target port : Nat) :
    framesOn target port (state.emit dp emissions).emitted =
      framesOn target port state.emitted ++
        if dp = target then emissions.filterMap (Emission.frameOn port)
        else [] := by
  rw [emit, framesOn_append, framesOn_emissions]

theorem runActions_frames {acts : List Action}
    (numbered : (state.datapath dp).ports = ports dp)
    (ran : state.runActions memory dp pkt acts = some after)
    (target port : Nat) :
    framesOn target port after.emitted =
      framesOn target port state.emitted ++
        framesOf ports target port ((state.load pkt).map (fun packet =>
          { dp, packet, actions := acts, memory })) := by
  cases loaded : state.load pkt with
  | none =>
      rw [runActions_null loaded ran]
      simp [framesOf]
  | some packet =>
      rw [runActions_live loaded] at ran
      obtain ⟨emissions, emits, rfl⟩ := Option.map_eq_some_iff.mp ran
      rw [framesOn_emit, bufferCopies_emitted,
        DatapathState.emissions_frameOn emits, numbered]
      simp [framesOf, Handled.frames]

theorem released_frames {acts : List Action}
    (numbered : (state.datapath dp).ports = ports dp)
    (done : (state.runActions memory dp pkt acts).bind (deletePacket pkt) =
      some after) (target port : Nat) :
    framesOn target port after.emitted =
      framesOn target port state.emitted ++
        framesOf ports target port ((state.load pkt).map (fun packet =>
          { dp, packet, actions := acts, memory })) := by
  obtain ⟨middle, ran, deleted⟩ := Option.bind_eq_some_iff.mp done
  rw [← runActions_frames numbered ran]
  cases pkt with
  | none =>
      cases deleted
      rfl
  | some address =>
      obtain ⟨packets, _, rfl⟩ := Option.map_eq_some_iff.mp deleted
      rfl

theorem newPacket_load (wellFormed : state.packets.WellFormed)
    (packet : SwPacket) :
    (state.newPacket packet).load (some state.packets.next) = some packet :=
  Arena.load_new_next wellFormed packet

theorem step_frames {event : DatapathEvent}
    (wellFormed : state.packets.WellFormed)
    (numbered : HasPorts ports state)
    (stepped : state.step event = some after) (target port : Nat) :
    framesOn target port after.emitted =
      framesOn target port state.emitted ++
        framesOf ports target port (state.handled event) := by
  cases event with
  | connected dp =>
      cases stepped
      simp [connect, handled, framesOf]
  | captured dp packet len memory =>
      simp only [step, packetHandler] at stepped
      have table : ((state.newPacket packet).datapath dp).flowTable =
        (state.datapath dp).flowTable := rfl
      rw [table] at stepped
      simp only [handled]
      cases found : Datapath.packetHandler (state.datapath dp).flowTable
          (packet.captured memory) with
      | none =>
          rw [found] at stepped
          simp only at stepped
          split at stepped
          · cases stepped
            simp [framesOn_emit, Emission.frameOn, framesOf, newPacket]
          · cases stepped
            simp [framesOf, newPacket]
      | some flow =>
          rw [found] at stepped
          have same : ((state.newPacket packet).datapath dp).ports =
            ports dp := numbered dp
          have frames := runActions_frames same stepped target port
          rw [newPacket_load wellFormed] at frames
          exact frames
  | flowMod dp fm memory =>
      simp only [step, handleFlowMod] at stepped
      simp only [handled]
      split at stepped
      · rename_i named
        rw [if_pos named]
        obtain ⟨packet, loaded, rest⟩ := Option.bind_eq_some_iff.mp stepped
        have there : state.load (state.pointer dp fm.bufferId) =
            some packet := by
          simpa [load, pointer, setFlowTable] using loaded
        rw [there, Option.bind_some]
        split at rest
        · rename_i matching
          have frames := released_frames (by
            rw [insertBuffer_datapath, setFlowTable_ports, numbered dp]) rest
            target port
          rw [loaded, insertBuffer_emitted] at frames
          rw [if_pos matching]
          exact frames
        · rename_i notMatching
          cases rest
          rw [if_neg notMatching, insertBuffer_emitted]
          simp [framesOf, setFlowTable]
      · rename_i unnamed
        cases stepped
        rw [if_neg unnamed]
        simp [framesOf, setFlowTable]
  | packetOut dp po memory =>
      simp only [step, handlePacketOut] at stepped
      simp only [handled]
      split at stepped
      · rename_i unbuffered
        have same : ∀ packet, ((state.newPacket packet).datapath dp).ports =
          ports dp := fun _ => numbered dp
        have frames := released_frames (same _) stepped target port
        rw [newPacket_load wellFormed] at frames
        rw [if_pos unbuffered]
        exact frames
      · rename_i buffered
        have frames := released_frames (by
          rw [insertBuffer_datapath, numbered dp]) stepped target port
        rw [insertBuffer_emitted, insertBuffer_load] at frames
        rw [if_neg buffered]
        exact frames

end Step

/-- In every run the frames injected into a port are the copies of the packets
that the steps handled, with the bytes that are in memory at the step that
sends them. -/
theorem run_frames {ports : Nat → Nat} {events : List DatapathEvent}
    {state : Datapaths} (result : run ports events = some state)
    (target port : Nat) :
    framesOn target port state.emitted =
      (handledFrom (initial ports) events).flatMap
        (fun handled => handled.frames ports target port) := by
  suffices fromState : ∀ start, start.packets.WellFormed →
      HasPorts ports start →
      PartialRun.run step start events = some state →
      framesOn target port state.emitted =
        framesOn target port start.emitted ++
          (handledFrom start events).flatMap
            (fun handled => handled.frames ports target port) from
    fromState (initial ports) Arena.wellFormed_empty (fun _ => rfl) result
  clear result
  induction events with
  | nil =>
      intro start wellFormed numbered result
      cases result
      simp [handledFrom]
  | cons event events induction =>
      intro start wellFormed numbered result
      obtain ⟨after, stepped, rest⟩ := Option.bind_eq_some_iff.mp result
      have afterNumbered : HasPorts ports after := by
        intro dp
        rw [step_ports stepped, numbered dp]
      rw [induction after (step_wellFormed wellFormed stepped) afterNumbered
        rest, step_frames wellFormed numbered stepped, handledFrom, stepped,
        List.flatMap_append, List.append_assoc]
      rfl

theorem run_frames_reported :
    ∃ state, run (fun _ => 2) reportedEvents = some state ∧
      framesOn 0 2 state.emitted = [[7]] :=
  ⟨_, rfl, (@run_frames (fun _ => 2) reportedEvents _ rfl 0 2).trans rfl⟩

end Datapaths

end Perfbench
