import Perfbench.Switch.PacketMemory

/-!
# What the packet buffer is for

A ledger says what the controller may expect of the buffers: a packet that was
reported to it waits under its id until a FlowMod or a PacketOut takes it.  The
datapaths with their pointers do what the ledger does, and come to a step
without a result exactly where the ledger does, as long as the controller
names ids that it was told and the counter does not wrap.
-/

namespace Perfbench

/-- The packets that wait, for every datapath and id. -/
structure BufferLedger where
  increments : Nat
  datapath : Nat → DatapathState
  waiting : Nat → Nat → Option SwPacket
  emitted : List (Nat × Emission)

namespace BufferLedger

def initial (ports : Nat → Nat) : BufferLedger where
  increments := 0
  datapath := (Datapaths.initial ports).datapath
  waiting := fun _ _ => none
  emitted := []

/-- The actions of a packet take an id for each output to the controller. -/
def forward (memory : Nat → UInt8) (dp : Nat) (packet : SwPacket)
    (acts : List Action) (ledger : BufferLedger) : Option BufferLedger :=
  ((ledger.datapath dp).emissions memory packet acts).map (fun emissions =>
    { ledger with
      increments := ledger.increments + acts.countP Action.toController
      emitted := ledger.emitted ++
        emissions.map (fun emission => (dp, emission)) })

/-- A packet is reported to the controller and waits. -/
def report (memory : Nat → UInt8) (dp : Nat) (packet : SwPacket) (len : Nat)
    (ledger : BufferLedger) : BufferLedger :=
  let id := ledger.increments + 1
  { ledger with
    increments := id
    waiting := Function.update ledger.waiting dp
      (Function.update (ledger.waiting dp) id (some packet))
    emitted := ledger.emitted ++
      [(dp, .packetIn
        { bufferId := id
          inPort := packet.inPort
          totalLen := len % 2 ^ 16
          reason := .noMatch
          data := packet.bytes memory packet.len })] }

/-- Nobody waits for an id any more. -/
def handBack (dp id : Nat) (ledger : BufferLedger) : BufferLedger :=
  { ledger with
    waiting := Function.update ledger.waiting dp
      (Function.update (ledger.waiting dp) id none) }

def setFlowTable (dp : Nat) (flowTable : List (Flow Action))
    (ledger : BufferLedger) : BufferLedger :=
  { ledger with
    datapath := Function.update ledger.datapath dp
      { ledger.datapath dp with flowTable } }

def captured (memory : Nat → UInt8) (dp : Nat) (packet : SwPacket) (len : Nat)
    (ledger : BufferLedger) : Option BufferLedger :=
  match Datapath.packetHandler (ledger.datapath dp).flowTable
      (packet.captured memory) with
  | some flow => ledger.forward memory dp packet flow.actions
  | none =>
      if (ledger.datapath dp).conn then
        some (ledger.report memory dp packet len)
      else some { ledger with increments := ledger.increments + 1 }

def flowMod (memory : Nat → UInt8) (dp : Nat) (fm : SwFlowMod Action)
    (ledger : BufferLedger) : Option BufferLedger :=
  let ledger := ledger.setFlowTable dp
    (Datapath.handleFlowMod (ledger.datapath dp).flowTable fm none).1
  if fm.command = .add ∧ fm.bufferId ≠ noBuffer then
    (ledger.waiting dp fm.bufferId).bind (fun packet =>
      if (Datapath.newFlow fm).pktMatch (packet.captured memory).pktMatch then
        (ledger.forward memory dp packet fm.actions).map
          (handBack dp fm.bufferId)
      else some ledger)
  else some ledger

def packetOut (memory : Nat → UInt8) (dp : Nat) (po : SwPacketOut)
    (ledger : BufferLedger) : Option BufferLedger :=
  if po.bufferId = noBuffer then
    ledger.forward memory dp
      { inPort := po.inPort
        data := po.data
        len := po.dataLen } po.actions
  else
    (ledger.waiting dp po.bufferId).bind (fun packet =>
      (ledger.forward memory dp packet po.actions).map
        (handBack dp po.bufferId))

def step (ledger : BufferLedger) : DatapathEvent → Option BufferLedger
  | .connected dp =>
      some
        { ledger with
          datapath := Function.update ledger.datapath dp
            { ledger.datapath dp with conn := true } }
  | .captured dp packet len memory => ledger.captured memory dp packet len
  | .flowMod dp fm memory => ledger.flowMod memory dp fm
  | .packetOut dp po memory => ledger.packetOut memory dp po

def run (ports : Nat → Nat) (events : List DatapathEvent) :
    Option BufferLedger :=
  PartialRun.run step (initial ports) events

end BufferLedger

/-- The datapath and the id of the buffer that a message names. -/
def DatapathEvent.names : DatapathEvent → Option (Nat × Nat)
  | .connected _ => none
  | .captured _ _ _ _ => none
  | .flowMod dp fm _ =>
      if fm.command = .add ∧ fm.bufferId ≠ noBuffer then some (dp, fm.bufferId)
      else none
  | .packetOut dp po _ =>
      if po.bufferId = noBuffer then none else some (dp, po.bufferId)

/-- A datapath has sent a PacketIn with the id of a buffer. -/
def Announced (emitted : List (Nat × Emission)) (dp id : Nat) : Prop :=
  ∃ msg, (dp, Emission.packetIn msg) ∈ emitted ∧ msg.reason = .noMatch ∧
    msg.bufferId = id

namespace Datapaths

/-- The controller names buffers that it was told of. -/
def NamesAnnounced (ports : Nat → Nat) (past : List DatapathEvent)
    (event : DatapathEvent) : Prop :=
  ∀ state, run ports past = some state → ∀ dp id,
    event.names = some (dp, id) → Announced state.emitted dp id

/-- The counter has not reached the id that stands for no buffer. -/
def FewIds (ports : Nat → Nat) (past : List DatapathEvent)
    (event : DatapathEvent) : Prop :=
  ∀ state, run ports (past ++ [event]) = some state →
    state.increments < noBuffer

/-- What the ledger says of the datapaths. -/
structure Stands (state : Datapaths) (ledger : BufferLedger) : Prop where
  wellFormed : state.packets.WellFormed
  increments : state.increments = ledger.increments
  datapath : state.datapath = ledger.datapath
  emitted : state.emitted = ledger.emitted
  stored : ∀ dp id, ((state.pktBuffer dp).lookup id).isSome →
    id ≤ state.increments
  held : ∀ dp id, Announced state.emitted dp id →
    ∃ address, (state.pktBuffer dp).lookup id = some (some address) ∧
      address < state.packets.next ∧
        state.packets.load address = ledger.waiting dp id
  apart : ∀ dp id other otherId address, Announced state.emitted dp id →
    Announced state.emitted other otherId →
      (state.pktBuffer dp).lookup id = some (some address) →
        (state.pktBuffer other).lookup otherId = some (some address) →
          dp = other ∧ id = otherId

end Datapaths

theorem DatapathState.actionEmissions_reason {dp : DatapathState}
    {memory : Nat → UInt8} {packet : SwPacket} {act : Action}
    {emissions : List Emission} {msg : SwPacketIn}
    (emits : dp.actionEmissions memory packet act = some emissions)
    (member : .packetIn msg ∈ emissions) : msg.reason = .action := by
  have frameless : ∀ {port bytes frames},
      dp.portFrame port bytes = some frames → .packetIn msg ∉ frames := by
    intro port bytes frames result inside
    unfold portFrame at result
    split at result
    · cases result
      simp at inside
    · cases result
  cases act with
  | other =>
      cases emits
      simp at member
  | output port maxLen =>
      simp only [actionEmissions] at emits
      split at emits
      · exact absurd member (frameless emits)
      · split at emits
        · cases emits
          simp at member
        · split at emits
          · split at emits
            · cases emits
              simp only [List.mem_singleton, Emission.packetIn.injEq] at member
              rw [member]
            · cases emits
          · exact absurd member (frameless emits)

theorem DatapathState.emissions_reason {dp : DatapathState}
    {memory : Nat → UInt8} {packet : SwPacket} {acts : List Action}
    {emissions : List Emission} {msg : SwPacketIn}
    (emits : dp.emissions memory packet acts = some emissions)
    (member : .packetIn msg ∈ emissions) : msg.reason = .action := by
  induction acts generalizing emissions with
  | nil =>
      cases emits
      simp at member
  | cons act acts induction =>
      rw [DatapathState.emissions] at emits
      obtain ⟨first, firstEmits, restEmits⟩ := Option.bind_eq_some_iff.mp emits
      obtain ⟨rest, emitsRest, rfl⟩ := Option.map_eq_some_iff.mp restEmits
      rcases List.mem_append.mp member with early | late
      · exact actionEmissions_reason firstEmits early
      · exact induction emitsRest late

theorem announced_emissions {dp : DatapathState} {memory : Nat → UInt8}
    {packet : SwPacket} {acts : List Action} {emissions : List Emission}
    (emits : dp.emissions memory packet acts = some emissions)
    (emitted : List (Nat × Emission)) (source target id : Nat) :
    Announced
        (emitted ++ emissions.map (fun emission => (source, emission)))
        target id ↔
      Announced emitted target id := by
  constructor
  · intro announced
    obtain ⟨msg, member, reason, idEq⟩ := announced
    rcases List.mem_append.mp member with early | late
    · exact ⟨msg, early, reason, idEq⟩
    · obtain ⟨emission, inside, equal⟩ := List.mem_map.mp late
      cases equal
      have otherReason := DatapathState.emissions_reason emits inside
      rw [otherReason] at reason
      cases reason
  · intro announced
    obtain ⟨msg, member, reason, idEq⟩ := announced
    exact ⟨msg, List.mem_append_left _ member, reason, idEq⟩

theorem announced_packetIn (emitted : List (Nat × Emission)) (dp : Nat)
    (msg : SwPacketIn) (target id : Nat) :
    Announced (emitted ++ [(dp, .packetIn msg)]) target id ↔
      Announced emitted target id ∨
        target = dp ∧ msg.reason = .noMatch ∧ id = msg.bufferId := by
  constructor
  · intro announced
    obtain ⟨other, member, reason, idEq⟩ := announced
    rcases List.mem_append.mp member with early | late
    · exact .inl ⟨other, early, reason, idEq⟩
    · cases List.mem_singleton.mp late
      exact .inr ⟨rfl, reason, idEq.symm⟩
  · intro either
    rcases either with early | ⟨rfl, reason, rfl⟩
    · obtain ⟨other, member, reason, idEq⟩ := early
      exact ⟨other, List.mem_append_left _ member, reason, idEq⟩
    · exact ⟨msg, List.mem_append_right _ (List.mem_singleton_self _), reason,
        rfl⟩

end Perfbench
