import Perfbench.Switch.PacketActions

/-!
# What every step keeps of the packets and the datapaths

A step allocates one packet at most and releases one at most, whatever the
buffers hold; ports are never added, and a connection stays known.
-/

namespace Perfbench

namespace Datapaths

variable {state after : Datapaths} {memory : Nat → UInt8} {dp : Nat}
  {pkt : Option Nat}

theorem flood_null (missing : state.load pkt = none) {ports : List Nat}
    (flooded : state.flood memory dp pkt ports = some after) :
    after = state := by
  cases ports with
  | nil =>
      cases flooded
      rfl
  | cons port ports =>
      rw [flood, missing] at flooded
      cases flooded

theorem actionHandler_null (missing : state.load pkt = none) {act : Action}
    (ran : state.actionHandler memory dp pkt act = some after) :
    after = state := by
  cases act with
  | other =>
      cases ran
      rfl
  | output port maxLen =>
      simp only [actionHandler, missing, Option.bind_none] at ran
      split at ran
      · cases ran
      · split at ran
        · exact flood_null missing ran
        · split at ran <;> cases ran

theorem runActions_null (missing : state.load pkt = none)
    {acts : List Action}
    (ran : state.runActions memory dp pkt acts = some after) :
    after = state := by
  induction acts generalizing state with
  | nil =>
      cases ran
      rfl
  | cons act acts induction =>
      obtain ⟨middle, first, rest⟩ := Option.bind_eq_some_iff.mp ran
      have unchanged := actionHandler_null missing first
      subst unchanged
      exact induction missing rest

theorem runActions_some {acts : List Action}
    (ran : state.runActions memory dp pkt acts = some after) :
    ∃ copies emissions,
      after = (state.bufferCopies dp pkt copies).emit dp emissions := by
  cases loaded : state.load pkt with
  | none =>
      refine ⟨0, [], ?_⟩
      rw [runActions_null loaded ran, emit_nil]
      rfl
  | some packet =>
      rw [runActions_live loaded] at ran
      obtain ⟨emissions, _, result⟩ := Option.map_eq_some_iff.mp ran
      exact ⟨acts.countP Action.toController, emissions, result.symm⟩

theorem runActions_packets {acts : List Action}
    (ran : state.runActions memory dp pkt acts = some after) :
    after.packets = state.packets := by
  obtain ⟨copies, emissions, rfl⟩ := runActions_some ran
  exact bufferCopies_packets copies

theorem runActions_datapath {acts : List Action}
    (ran : state.runActions memory dp pkt acts = some after) :
    after.datapath = state.datapath := by
  obtain ⟨copies, emissions, rfl⟩ := runActions_some ran
  exact bufferCopies_datapath copies

@[simp] theorem setFlowTable_packets (flowTable : List (Flow Action)) :
    (state.setFlowTable dp flowTable).packets = state.packets := rfl

/-- Nothing else of the packets changes when the actions have been run and
the packet has been released. -/
theorem released_packets {acts : List Action}
    (done : (state.runActions memory dp pkt acts).bind (deletePacket pkt) =
      some after) :
    after.packets = state.packets ∨
      ∃ address, state.packets.delete address = some after.packets := by
  obtain ⟨middle, ran, deleted⟩ := Option.bind_eq_some_iff.mp done
  have kept := runActions_packets ran
  cases pkt with
  | none =>
      cases deleted
      exact .inl kept
  | some address =>
      obtain ⟨packets, result, rfl⟩ := Option.map_eq_some_iff.mp deleted
      rw [kept] at result
      exact .inr ⟨address, result⟩

theorem released_datapath {acts : List Action}
    (done : (state.runActions memory dp pkt acts).bind (deletePacket pkt) =
      some after) :
    after.datapath = state.datapath := by
  obtain ⟨middle, ran, deleted⟩ := Option.bind_eq_some_iff.mp done
  rw [← runActions_datapath ran]
  cases pkt with
  | none =>
      cases deleted
      rfl
  | some address =>
      obtain ⟨packets, _, rfl⟩ := Option.map_eq_some_iff.mp deleted
      rfl

theorem released_wellFormed {acts : List Action}
    (wellFormed : state.packets.WellFormed)
    (done : (state.runActions memory dp pkt acts).bind (deletePacket pkt) =
      some after) :
    after.packets.WellFormed := by
  rcases released_packets done with kept | ⟨address, deleted⟩
  · rw [kept]
    exact wellFormed
  · exact wellFormed.delete deleted

theorem packetHandler_packets {packet : SwPacket} {len : Nat}
    (handled : state.packetHandler memory dp packet len = some after) :
    after.packets = state.packets.new packet := by
  simp only [packetHandler] at handled
  split at handled
  · exact runActions_packets handled
  · split at handled
    · cases handled
      exact bufferPacket_packets
    · cases handled
      exact bufferPacket_packets

theorem packetHandler_datapath {packet : SwPacket} {len : Nat}
    (handled : state.packetHandler memory dp packet len = some after) :
    after.datapath = state.datapath := by
  simp only [packetHandler] at handled
  split at handled
  · exact (runActions_datapath handled).trans rfl
  · split at handled
    · cases handled
      exact bufferPacket_datapath
    · cases handled
      exact bufferPacket_datapath

theorem step_wellFormed {event : DatapathEvent}
    (wellFormed : state.packets.WellFormed)
    (stepped : state.step event = some after) : after.packets.WellFormed := by
  cases event with
  | connected dp =>
      cases stepped
      exact wellFormed
  | captured dp packet len memory =>
      rw [packetHandler_packets stepped]
      exact wellFormed.new packet
  | flowMod dp fm memory =>
      simp only [step, handleFlowMod] at stepped
      split at stepped
      · obtain ⟨packet, _, rest⟩ := Option.bind_eq_some_iff.mp stepped
        split at rest
        · refine released_wellFormed ?_ rest
          rw [insertBuffer_packets]
          exact wellFormed
        · cases rest
          rw [insertBuffer_packets]
          exact wellFormed
      · cases stepped
        exact wellFormed
  | packetOut dp po memory =>
      simp only [step, handlePacketOut] at stepped
      split at stepped
      · exact released_wellFormed (wellFormed.new _) stepped
      · refine released_wellFormed ?_ stepped
        rw [insertBuffer_packets]
        exact wellFormed

theorem setFlowTable_ports (flowTable : List (Flow Action)) (other : Nat) :
    ((state.setFlowTable dp flowTable).datapath other).ports =
      (state.datapath other).ports := by
  by_cases same : other = dp
  · simp [setFlowTable, same]
  · simp [setFlowTable, same]

theorem step_ports {event : DatapathEvent}
    (stepped : state.step event = some after) (other : Nat) :
    (after.datapath other).ports = (state.datapath other).ports := by
  cases event with
  | connected dp =>
      cases stepped
      by_cases same : other = dp
      · simp [connect, same]
      · simp [connect, same]
  | captured dp packet len memory =>
      rw [packetHandler_datapath stepped]
  | flowMod dp fm memory =>
      simp only [step, handleFlowMod] at stepped
      split at stepped
      · obtain ⟨packet, _, rest⟩ := Option.bind_eq_some_iff.mp stepped
        split at rest
        · rw [released_datapath rest, insertBuffer_datapath,
            setFlowTable_ports]
        · cases rest
          rw [insertBuffer_datapath, setFlowTable_ports]
      · cases stepped
        rw [setFlowTable_ports]
  | packetOut dp po memory =>
      simp only [step, handlePacketOut] at stepped
      split at stepped
      · rw [released_datapath stepped]
        rfl
      · rw [released_datapath stepped, insertBuffer_datapath]

/-- The datapaths have the given numbers of ports. -/
def HasPorts (ports : Nat → Nat) (state : Datapaths) : Prop :=
  ∀ dp, (state.datapath dp).ports = ports dp

variable {ports : Nat → Nat} {events : List DatapathEvent}

end Datapaths

end Perfbench
