import Perfbench.Switch.BufferRefinement

/-!
# Controllers that a datapath is safe with

A controller that connects before it sends, uses ports that exist and takes
every buffer it was told of at most once never makes a datapath read or
release memory that is not there.
-/

namespace Perfbench

/-- The ports that stand for no port, and those that exist. -/
def Action.PortExists (ports : Nat) : Action → Prop
  | .other => True
  | .output port _ =>
      port = ofppInPort ∨ port = ofppFlood ∨ port = ofppAll ∨
        port = ofppController ∨ (1 ≤ port ∧ port ≤ ports)

instance (ports : Nat) : DecidablePred (Action.PortExists ports)
  | .other => isTrue trivial
  | .output _ _ => inferInstanceAs (Decidable (_ ∨ _))

namespace Datapaths

/-- Frames come in through ports, and messages over connections; actions name
ports that there are. -/
def PortsExist (ports : Nat → Nat) (past : List DatapathEvent) :
    DatapathEvent → Prop
  | .connected _ => True
  | .captured dp packet _ _ => 1 ≤ packet.inPort ∧ packet.inPort ≤ ports dp
  | .flowMod dp fm _ =>
      .connected dp ∈ past ∧
        ∀ act ∈ fm.actions, act.PortExists (ports dp)
  | .packetOut dp po _ =>
      .connected dp ∈ past ∧
        (∀ act ∈ po.actions, act.PortExists (ports dp)) ∧
          (po.bufferId = noBuffer → 1 ≤ po.inPort ∧ po.inPort ≤ ports dp)

/-- No buffer is named twice. -/
def NamesOnce (past : List DatapathEvent) (event : DatapathEvent) : Prop :=
  ∀ buffer, event.names = some buffer →
    ∀ earlier ∈ past, earlier.names ≠ some buffer

end Datapaths

theorem DatapathState.actionEmissions_isSome {dp : DatapathState}
    {packet : SwPacket} {act : Action} (memory : Nat → UInt8)
    (exist : act.PortExists dp.ports) (conn : dp.conn = true)
    (inPort : 1 ≤ packet.inPort ∧ packet.inPort ≤ dp.ports) :
    ∃ emissions, dp.actionEmissions memory packet act = some emissions := by
  have framed : ∀ port bytes, 1 ≤ port ∧ port ≤ dp.ports →
      dp.portFrame port bytes = some [.frame port bytes] := by
    intro port bytes inside
    rw [portFrame, if_pos inside]
  cases act with
  | other => exact ⟨[], rfl⟩
  | output port maxLen =>
      simp only [actionEmissions]
      split
      · exact ⟨_, framed _ _ inPort⟩
      · split
        · exact ⟨_, rfl⟩
        · split
          · exact ⟨_, rfl⟩
          · rename_i notInPort notFlood notController
            refine ⟨_, framed port _ ?_⟩
            simp only [Action.PortExists, notInPort, notController,
              false_or] at exist
            rcases exist with flood | all | inside
            · exact absurd (.inl flood) notFlood
            · exact absurd (.inr all) notFlood
            · exact inside

theorem DatapathState.emissions_isSome {dp : DatapathState}
    {packet : SwPacket} {acts : List Action} (memory : Nat → UInt8)
    (exist : ∀ act ∈ acts, act.PortExists dp.ports) (conn : dp.conn = true)
    (inPort : 1 ≤ packet.inPort ∧ packet.inPort ≤ dp.ports) :
    ∃ emissions, dp.emissions memory packet acts = some emissions := by
  induction acts with
  | nil => exact ⟨[], rfl⟩
  | cons act acts induction =>
      obtain ⟨first, firstEmits⟩ := actionEmissions_isSome memory
        (exist act List.mem_cons_self) conn inPort
      obtain ⟨rest, restEmits⟩ := induction
        (fun later member => exist later (List.mem_cons_of_mem act member))
      exact ⟨first ++ rest, by
        rw [DatapathState.emissions, firstEmits, restEmits]
        rfl⟩

theorem Datapath.mem_handleFlowMod {flowTable : List (Flow Action)}
    {fm : SwFlowMod Action} {buffered : Option CapturedPacket}
    {flow : Flow Action}
    (member : flow ∈ (Datapath.handleFlowMod flowTable fm buffered).1) :
    flow ∈ flowTable ∨ flow = Datapath.newFlow fm := by
  unfold Datapath.handleFlowMod at member
  cases command : fm.command with
  | add =>
      rw [command] at member
      rcases (List.mem_orderedInsert (RankLE Flow.priority)).mp member with
        new | old
      · exact .inr new
      · exact .inl (List.mem_of_mem_eraseP old)
  | delete =>
      rw [command] at member
      exact .inl (List.mem_filter.mp member).1
  | modify =>
      rw [command] at member
      exact .inl member
  | modifyStrict =>
      rw [command] at member
      exact .inl member
  | deleteStrict =>
      rw [command] at member
      exact .inl member

namespace BufferLedger

/-- The ledger of a careful controller has what its next message needs. -/
structure Ready (ports : Nat → Nat) (past : List DatapathEvent)
    (ledger : BufferLedger) : Prop where
  numbered : ∀ dp, (ledger.datapath dp).ports = ports dp
  conn : ∀ dp, .connected dp ∈ past → (ledger.datapath dp).conn = true
  flows : ∀ dp, ∀ flow ∈ (ledger.datapath dp).flowTable,
    (ledger.datapath dp).conn = true ∧
      ∀ act ∈ flow.actions, act.PortExists (ports dp)
  waiting : ∀ dp id, Announced ledger.emitted dp id →
    (∀ earlier ∈ past, earlier.names ≠ some (dp, id)) →
      ∃ packet, ledger.waiting dp id = some packet
  inPorts : ∀ dp id packet, ledger.waiting dp id = some packet →
    1 ≤ packet.inPort ∧ packet.inPort ≤ ports dp

variable {ports : Nat → Nat} {past : List DatapathEvent}
  {ledger : BufferLedger} {event : DatapathEvent} {dp : Nat}
  {packet : SwPacket} {memory : Nat → UInt8}

namespace Ready

theorem more (ready : Ready ports past ledger)
    (notConnected : ∀ dp, event ≠ .connected dp) :
    Ready ports (past ++ [event]) ledger := by
  refine ⟨ready.numbered, ?_, ready.flows, ?_, ready.inPorts⟩
  · intro dp connected
    rcases List.mem_append.mp connected with early | late
    · exact ready.conn dp early
    · exact absurd (List.mem_singleton.mp late).symm (notConnected dp)
  · intro dp id announced unnamed
    exact ready.waiting dp id announced
      (fun earlier member => unnamed earlier (List.mem_append_left _ member))

theorem connected (ready : Ready ports past ledger) (dp : Nat) :
    Ready ports (past ++ [.connected dp])
      { ledger with
        datapath := Function.update ledger.datapath dp
          { ledger.datapath dp with conn := true } } := by
  refine ⟨?_, ?_, ?_, ?_, ready.inPorts⟩
  · intro target
    by_cases same : target = dp
    · simpa [same] using ready.numbered dp
    · simpa [same] using ready.numbered target
  · intro target connected
    by_cases same : target = dp
    · simp [same]
    · have early : .connected target ∈ past := by
        simpa [same] using connected
      simpa [same] using ready.conn target early
  · intro target flow member
    by_cases same : target = dp
    · subst same
      have exist := (ready.flows target flow (by simpa using member)).2
      simpa using exist
    · simpa [same] using ready.flows target flow (by simpa [same] using member)
  · intro target id announced unnamed
    exact ready.waiting target id announced
      (fun earlier member => unnamed earlier (List.mem_append_left _ member))

theorem forward (ready : Ready ports past ledger) {acts : List Action}
    (memory : Nat → UInt8)
    (exist : ∀ act ∈ acts, act.PortExists (ports dp))
    (conn : (ledger.datapath dp).conn = true)
    (inPort : 1 ≤ packet.inPort ∧ packet.inPort ≤ ports dp) :
    ∃ after, ledger.forward memory dp packet acts = some after ∧
      Ready ports past after := by
  rw [← ready.numbered dp] at exist inPort
  obtain ⟨emissions, emits⟩ :=
    DatapathState.emissions_isSome memory exist conn inPort
  refine ⟨_, by rw [BufferLedger.forward, emits]; rfl, ?_⟩
  refine ⟨ready.numbered, ready.conn, ready.flows, ?_, ready.inPorts⟩
  intro target id announced
  exact ready.waiting target id
    ((announced_emissions emits ledger.emitted dp target id).mp announced)

theorem handBack (ready : Ready ports past ledger) {id : Nat}
    (notConnected : ∀ dp, event ≠ .connected dp)
    (names : event.names = some (dp, id)) :
    Ready ports (past ++ [event]) (ledger.handBack dp id) := by
  have next := ready.more notConnected
  have kept : ∀ {target other}, (target, other) ≠ (dp, id) →
      (ledger.handBack dp id).waiting target other =
        ledger.waiting target other := by
    intro target other different
    unfold BufferLedger.handBack
    by_cases same : target = dp
    · subst same
      have differentId : other ≠ id := by
        intro equal
        exact different (by rw [equal])
      simp [differentId]
    · simp [same]
  have gone : (ledger.handBack dp id).waiting dp id = none := by
    simp [BufferLedger.handBack]
  refine ⟨next.numbered, next.conn, next.flows, ?_, ?_⟩
  · intro target other announced unnamed
    have different : (target, other) ≠ (dp, id) := by
      intro equal
      apply unnamed event (by simp)
      rw [names, equal]
    rw [kept different]
    exact next.waiting target other announced unnamed
  · intro target other packet waits
    by_cases same : (target, other) = (dp, id)
    · cases same
      rw [gone] at waits
      cases waits
    · rw [kept same] at waits
      exact ready.inPorts target other packet waits

theorem report (ready : Ready ports past ledger) (memory : Nat → UInt8)
    (len : Nat) (inPort : 1 ≤ packet.inPort ∧ packet.inPort ≤ ports dp) :
    Ready ports past (ledger.report memory dp packet len) := by
  have new : (ledger.report memory dp packet len).waiting dp
      (ledger.increments + 1) = some packet := by
    simp [BufferLedger.report]
  have kept : ∀ {target other}, (target, other) ≠ (dp, ledger.increments + 1) →
      (ledger.report memory dp packet len).waiting target other =
        ledger.waiting target other := by
    intro target other different
    unfold BufferLedger.report
    by_cases same : target = dp
    · subst same
      have differentId : other ≠ ledger.increments + 1 := by
        intro equal
        exact different (by rw [equal])
      simp [differentId]
    · simp [same]
  refine ⟨ready.numbered, ready.conn, ready.flows, ?_, ?_⟩
  · intro target other announced unnamed
    by_cases same : (target, other) = (dp, ledger.increments + 1)
    · cases same
      exact ⟨packet, new⟩
    · rw [kept same]
      apply ready.waiting target other _ unnamed
      rcases (announced_packetIn ledger.emitted dp _ target other).mp
        announced with early | ⟨sameDp, -, sameId⟩
      · exact early
      · exact absurd (by rw [sameDp, sameId]) same
  · intro target other waitingPacket waits
    by_cases same : (target, other) = (dp, ledger.increments + 1)
    · cases same
      rw [new] at waits
      cases waits
      exact inPort
    · rw [kept same] at waits
      exact ready.inPorts target other waitingPacket waits

theorem setFlowTable (ready : Ready ports past ledger)
    {fm : SwFlowMod Action} (conn : (ledger.datapath dp).conn = true)
    (exist : ∀ act ∈ fm.actions, act.PortExists (ports dp)) :
    Ready ports past (ledger.setFlowTable dp
      (Datapath.handleFlowMod (ledger.datapath dp).flowTable fm none).1) := by
  refine ⟨?_, ?_, ?_, ready.waiting, ready.inPorts⟩
  · intro target
    by_cases same : target = dp
    · simpa [BufferLedger.setFlowTable, same] using ready.numbered dp
    · simpa [BufferLedger.setFlowTable, same] using ready.numbered target
  · intro target connected
    by_cases same : target = dp
    · simpa [BufferLedger.setFlowTable, same] using conn
    · simpa [BufferLedger.setFlowTable, same] using ready.conn target connected
  · intro target flow member
    by_cases same : target = dp
    · subst same
      simp only [BufferLedger.setFlowTable, Function.update_self] at member ⊢
      rcases Datapath.mem_handleFlowMod member with old | rfl
      · exact ready.flows target flow old
      · exact ⟨conn, exist⟩
    · simp only [BufferLedger.setFlowTable, Function.update_of_ne same]
        at member ⊢
      exact ready.flows target flow member

theorem step (ready : Ready ports past ledger)
    (exist : Datapaths.PortsExist ports past event)
    (once : Datapaths.NamesOnce past event)
    (announced : ∀ dp id, event.names = some (dp, id) →
      Announced ledger.emitted dp id) :
    ∃ after, ledger.step event = some after ∧
      Ready ports (past ++ [event]) after := by
  cases event with
  | connected dp => exact ⟨_, rfl, ready.connected dp⟩
  | captured dp packet len memory =>
      simp only [BufferLedger.step, BufferLedger.captured]
      cases found : Datapath.packetHandler (ledger.datapath dp).flowTable
          (packet.captured memory) with
      | some flow =>
          have member := List.mem_of_find?_eq_some found
          obtain ⟨conn, portsExist⟩ := ready.flows dp flow member
          obtain ⟨after, forwarded, afterReady⟩ :=
            ready.forward memory portsExist conn exist
          exact ⟨after, forwarded, afterReady.more (by simp)⟩
      | none =>
          simp only
          split
          · exact ⟨_, rfl, (ready.report memory len exist).more (by simp)⟩
          · refine ⟨_, rfl, more ?_ (by simp)⟩
            exact ⟨ready.numbered, ready.conn, ready.flows, ready.waiting,
              ready.inPorts⟩
  | flowMod dp fm memory =>
      obtain ⟨connected, portsExist⟩ := exist
      have conn := ready.conn dp connected
      have set := ready.setFlowTable conn portsExist
      simp only [BufferLedger.step, BufferLedger.flowMod]
      by_cases named : fm.command = .add ∧ fm.bufferId ≠ noBuffer
      · have names : (DatapathEvent.flowMod dp fm memory).names =
            some (dp, fm.bufferId) := if_pos named
        obtain ⟨packet, waits⟩ := ready.waiting dp fm.bufferId
          (announced dp fm.bufferId names) (once _ names)
        have inPort := ready.inPorts dp fm.bufferId packet waits
        have stillWaits : (ledger.setFlowTable dp (Datapath.handleFlowMod
            (ledger.datapath dp).flowTable fm none).1).waiting dp
              fm.bufferId = some packet := waits
        rw [if_pos named, stillWaits, Option.bind_some]
        split
        · have stillConn : ((ledger.setFlowTable dp (Datapath.handleFlowMod
              (ledger.datapath dp).flowTable fm none).1).datapath dp).conn =
                true := by
            simpa [BufferLedger.setFlowTable] using conn
          obtain ⟨after, forwarded, afterReady⟩ :=
            set.forward memory portsExist stillConn inPort
          rw [forwarded]
          exact ⟨_, rfl, afterReady.handBack (by simp) names⟩
        · exact ⟨_, rfl, set.more (by simp)⟩
      · rw [if_neg named]
        exact ⟨_, rfl, set.more (by simp)⟩
  | packetOut dp po memory =>
      obtain ⟨connected, portsExist, inPort⟩ := exist
      have conn := ready.conn dp connected
      simp only [BufferLedger.step, BufferLedger.packetOut]
      by_cases alone : po.bufferId = noBuffer
      · rw [if_pos alone]
        obtain ⟨after, forwarded, afterReady⟩ :=
          @forward ports past ledger dp
            { inPort := po.inPort
              data := po.data
              len := po.dataLen } ready po.actions memory portsExist conn
            (inPort alone)
        exact ⟨after, forwarded, afterReady.more (by simp)⟩
      · have names : (DatapathEvent.packetOut dp po memory).names =
            some (dp, po.bufferId) := if_neg alone
        obtain ⟨packet, waits⟩ := ready.waiting dp po.bufferId
          (announced dp po.bufferId names) (once _ names)
        obtain ⟨after, forwarded, afterReady⟩ :=
          ready.forward memory portsExist conn
            (ready.inPorts dp po.bufferId packet waits)
        rw [if_neg alone, waits, Option.bind_some, forwarded]
        exact ⟨_, rfl, afterReady.handBack (by simp) names⟩

end Ready

end BufferLedger

namespace Datapaths

end Datapaths

end Perfbench
