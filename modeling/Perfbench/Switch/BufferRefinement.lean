import Perfbench.Switch.BufferLedger

/-!
# The packet buffer keeps its ledger

Ids that were announced keep their pointers, each to a packet of its own, and
a packet is released when its id is taken.  So the pointers can be followed as
long as the ledger has the packets.
-/

namespace Perfbench

namespace Datapaths

variable {state : Datapaths} {dp : Nat} {pkt : Option Nat}

theorem insertBuffer_lookup (dp id : Nat) (pkt : Option Nat)
    (other otherId : Nat) :
    ((state.insertBuffer dp id pkt).pktBuffer other).lookup otherId =
      if other = dp ∧ otherId = id ∧ (state.pktBuffer dp).lookup id = none then
        some pkt
      else (state.pktBuffer other).lookup otherId := by
  unfold insertBuffer
  cases found : (state.pktBuffer dp).lookup id with
  | some entry => simp
  | none =>
      by_cases same : other = dp
      · subst same
        by_cases sameId : otherId = id
        · simp [sameId]
        · have differs : (otherId == id) = false := by
            simpa using sameId
          simp [sameId, List.lookup_cons, differs]
      · simp [same]

theorem insertBuffer_present {id : Nat} {entry : Option Nat}
    (found : (state.pktBuffer dp).lookup id = some entry) :
    state.insertBuffer dp id pkt = state := by
  rw [insertBuffer, found]
  rfl

/-- Ids come from the counter. -/
def Stored (state : Datapaths) : Prop :=
  ∀ dp id, ((state.pktBuffer dp).lookup id).isSome → id ≤ state.increments

theorem bufferPacket_lookup (few : state.increments + 1 < 2 ^ 32)
    (stored : Stored state) (other id : Nat) :
    ((state.bufferPacket dp pkt).pktBuffer other).lookup id =
      if other = dp ∧ id = state.increments + 1 then some pkt
      else (state.pktBuffer other).lookup id := by
  have fresh : (state.pktBuffer dp).lookup (state.increments + 1) = none := by
    cases found : (state.pktBuffer dp).lookup (state.increments + 1) with
    | none => rfl
    | some entry =>
        have bound := stored dp (state.increments + 1) (by simp [found])
        omega
  rw [bufferPacket, insertBuffer_lookup]
  simp only [bufferId, uint32_of_lt few, fresh, and_true]

theorem bufferPacket_stored (few : state.increments + 1 < 2 ^ 32)
    (stored : Stored state) : Stored (state.bufferPacket dp pkt) := by
  intro other id present
  rw [bufferPacket_lookup few stored] at present
  rw [bufferPacket_increments]
  split at present
  · rename_i new
    omega
  · have bound := stored other id present
    omega

theorem bufferCopies_stored {copies : Nat}
    (few : state.increments + copies < 2 ^ 32) (stored : Stored state) :
    Stored (state.bufferCopies dp pkt copies) := by
  induction copies generalizing state with
  | zero => exact stored
  | succ copies induction =>
      apply induction
      · rw [bufferPacket_increments]
        omega
      · exact bufferPacket_stored (by omega) stored

theorem bufferCopies_lookup {copies : Nat}
    (few : state.increments + copies < 2 ^ 32) (stored : Stored state)
    {other id : Nat} (old : id ≤ state.increments) :
    ((state.bufferCopies dp pkt copies).pktBuffer other).lookup id =
      (state.pktBuffer other).lookup id := by
  induction copies generalizing state with
  | zero => rfl
  | succ copies induction =>
      have one : state.increments + 1 < 2 ^ 32 := by omega
      rw [bufferCopies, induction _ (bufferPacket_stored one stored) _,
        bufferPacket_lookup one stored]
      · have different : ¬(other = dp ∧ id = state.increments + 1) := by
          omega
        rw [if_neg different]
      · rw [bufferPacket_increments]
        omega
      · rw [bufferPacket_increments]
        omega

variable {ledger : BufferLedger} {memory : Nat → UInt8} {packet : SwPacket}

namespace Stands

theorem old (stands : Stands state ledger) {id : Nat}
    (announced : Announced state.emitted dp id) : id ≤ state.increments := by
  obtain ⟨address, found, _⟩ := stands.held dp id announced
  exact stands.stored dp id (by simp [found])

theorem forward (stands : Stands state ledger)
    (loaded : state.load pkt = some packet) (acts : List Action)
    (few : ∀ after, state.runActions memory dp pkt acts = some after →
      after.increments < 2 ^ 32) :
    Option.Rel Stands (state.runActions memory dp pkt acts)
      (ledger.forward memory dp packet acts) := by
  rw [BufferLedger.forward, ← stands.datapath]
  rw [runActions_live loaded] at few ⊢
  cases emits : (state.datapath dp).emissions memory packet acts with
  | none => exact .none
  | some emissions =>
      apply Option.Rel.some
      rw [emits] at few
      have few := few _ rfl
      simp only [emit, bufferCopies_increments] at few
      have announced := announced_emissions emits state.emitted dp
      have kept : ∀ {other id}, Announced state.emitted other id →
          ((state.bufferCopies dp pkt
              (acts.countP Action.toController)).pktBuffer other).lookup id =
            (state.pktBuffer other).lookup id := by
        intro other id told
        exact bufferCopies_lookup few stands.stored (stands.old told)
      constructor
      · simpa [emit] using stands.wellFormed
      · simp [emit, stands.increments]
      · simp [emit, stands.datapath]
      · simp [emit, stands.emitted]
      · exact bufferCopies_stored few stands.stored
      · intro other id told
        simp only [emit, bufferCopies_emitted, announced] at told
        obtain ⟨address, found, below, load⟩ := stands.held other id told
        refine ⟨address, ?_, ?_, ?_⟩
        · exact (kept told).trans found
        · simpa [emit] using below
        · simpa [emit] using load
      · intro other id third thirdId address told thirdTold found thirdFound
        simp only [emit, bufferCopies_emitted, announced] at told thirdTold
        simp only [emit] at found thirdFound
        rw [kept told] at found
        rw [kept thirdTold] at thirdFound
        exact stands.apart other id third thirdId address told thirdTold found
          thirdFound

theorem withPackets (stands : Stands state ledger) {packets : Arena SwPacket}
    (wellFormed : packets.WellFormed)
    (grown : state.packets.next ≤ packets.next)
    (same : ∀ dp id address, Announced state.emitted dp id →
      (state.pktBuffer dp).lookup id = some (some address) →
        address < state.packets.next →
          packets.load address = state.packets.load address) :
    Stands { state with packets } ledger := by
  refine ⟨wellFormed, stands.increments, stands.datapath, stands.emitted,
    stands.stored, ?_, stands.apart⟩
  intro dp id announced
  obtain ⟨address, found, below, load⟩ := stands.held dp id announced
  refine ⟨address, found, ?_, ?_⟩
  · exact Nat.lt_of_lt_of_le below grown
  · exact (same dp id address announced found below).trans load

theorem newPacket (stands : Stands state ledger) (packet : SwPacket) :
    Stands (state.newPacket packet) ledger := by
  apply stands.withPackets (stands.wellFormed.new packet)
  · simp [Arena.next, Arena.new]
  · intro dp id address _ _ below
    exact Arena.load_new below packet

theorem setFlowTable (stands : Stands state ledger) (dp : Nat)
    (flowTable : List (Flow Action)) :
    Stands (state.setFlowTable dp flowTable)
      (ledger.setFlowTable dp flowTable) := by
  refine ⟨stands.wellFormed, stands.increments, ?_, stands.emitted,
    stands.stored, stands.held, stands.apart⟩
  simp [Datapaths.setFlowTable, BufferLedger.setFlowTable, stands.datapath]

/-- The packet of an announced id is released, and nobody waits for it. -/
theorem handBack (stands : Stands state ledger) {id address : Nat}
    (announced : Announced state.emitted dp id)
    (found : (state.pktBuffer dp).lookup id = some (some address))
    (loaded : state.packets.load address = some packet) :
    ∃ after, state.deletePacket (some address) = some after ∧
      Stands after (ledger.handBack dp id) := by
  have deleted := Arena.delete_of_load loaded
  refine ⟨_, by rw [deletePacket, deleted]; rfl, ?_⟩
  refine ⟨stands.wellFormed.delete deleted, stands.increments,
    stands.datapath, stands.emitted, stands.stored, ?_, stands.apart⟩
  intro other otherId otherAnnounced
  obtain ⟨otherAddress, otherFound, below, load⟩ :=
    stands.held other otherId otherAnnounced
  refine ⟨otherAddress, otherFound, below, ?_⟩
  by_cases same : other = dp ∧ otherId = id
  · obtain ⟨rfl, rfl⟩ := same
    rw [found, Option.some.injEq, Option.some.injEq] at otherFound
    subst otherFound
    have released : Arena.load
        { state.packets with
          released := address :: state.packets.released } address = none :=
      Arena.load_of_released List.mem_cons_self
    simp [BufferLedger.handBack, released]
  · have different : otherAddress ≠ address := by
      intro equal
      subst equal
      exact same (stands.apart other otherId dp id otherAddress otherAnnounced
        announced otherFound found)
    rw [Arena.load_delete_ne deleted different, load]
    unfold BufferLedger.handBack
    by_cases sameDp : other = dp
    · subst sameDp
      have differentId : otherId ≠ id := fun equal => same ⟨rfl, equal⟩
      simp [differentId]
    · simp [sameDp]

theorem bufferPacket (stands : Stands state ledger)
    (few : state.increments + 1 < 2 ^ 32) (dp : Nat) (pkt : Option Nat) :
    Stands (state.bufferPacket dp pkt)
      { ledger with increments := ledger.increments + 1 } := by
  have kept : ∀ {other id}, Announced state.emitted other id →
      ((state.bufferPacket dp pkt).pktBuffer other).lookup id =
        (state.pktBuffer other).lookup id := by
    intro other id announced
    have bound := stands.old announced
    rw [bufferPacket_lookup few stands.stored]
    exact if_neg (by omega)
  constructor
  · simpa using stands.wellFormed
  · simp [stands.increments]
  · simp [stands.datapath]
  · simp [stands.emitted]
  · exact bufferPacket_stored few stands.stored
  · intro other id announced
    rw [bufferPacket_emitted] at announced
    rw [bufferPacket_packets, kept announced]
    exact stands.held other id announced
  · intro other id third thirdId address announced thirdAnnounced found
      thirdFound
    rw [bufferPacket_emitted] at announced thirdAnnounced
    rw [kept announced] at found
    rw [kept thirdAnnounced] at thirdFound
    exact stands.apart other id third thirdId address announced thirdAnnounced
      found thirdFound

theorem report (stands : Stands state ledger)
    (few : state.increments + 1 < 2 ^ 32) (memory : Nat → UInt8) (dp : Nat)
    (packet : SwPacket) (len : Nat) :
    Stands
      (((state.newPacket packet).bufferPacket dp
          (some state.packets.next)).emit dp
        [.packetIn
          { bufferId := state.increments + 1
            inPort := packet.inPort
            totalLen := len % 2 ^ 16
            reason := .noMatch
            data := packet.bytes memory packet.len }])
      (ledger.report memory dp packet len) := by
  have buffered := (stands.newPacket packet).bufferPacket few dp
    (some state.packets.next)
  have lookup : ∀ other id,
      (((state.newPacket packet).bufferPacket dp
          (some state.packets.next)).pktBuffer other).lookup id =
        if other = dp ∧ id = state.increments + 1 then
          some (some state.packets.next)
        else (state.pktBuffer other).lookup id :=
    bufferPacket_lookup few (stands.newPacket packet).stored
  have told : ∀ {msg other id},
      Announced (((state.newPacket packet).bufferPacket dp
          (some state.packets.next)).emit dp [.packetIn msg]).emitted other
          id ↔
        Announced state.emitted other id ∨
          other = dp ∧ msg.reason = .noMatch ∧ id = msg.bufferId := by
    intro msg other id
    have same : ((state.newPacket packet).bufferPacket dp
        (some state.packets.next)).emitted = state.emitted :=
      bufferPacket_emitted
    rw [emit, same]
    exact announced_packetIn state.emitted dp msg other id
  have next : (state.packets.new packet).next = state.packets.next + 1 := by
    simp [Arena.next, Arena.new]
  refine ⟨buffered.wellFormed, buffered.increments, buffered.datapath, ?_,
    buffered.stored, ?_, ?_⟩
  · simp [emit, BufferLedger.report, Datapaths.newPacket, stands.emitted,
      stands.increments]
  · intro other id announced
    rw [told] at announced
    simp only [emit, bufferPacket_packets, lookup]
    rcases announced with early | ⟨rfl, -, rfl⟩
    · have bound := stands.old early
      have different : ¬(other = dp ∧ id = state.increments + 1) := by omega
      obtain ⟨address, found, below, load⟩ :=
        (stands.newPacket packet).held other id early
      refine ⟨address, (if_neg different).trans found, below, load.trans ?_⟩
      rw [BufferLedger.report]
      by_cases same : other = dp
      · subst same
        have differentId : id ≠ ledger.increments + 1 := by
          rw [← stands.increments]
          omega
        simp [differentId]
      · simp [same]
    · refine ⟨state.packets.next, if_pos ⟨rfl, rfl⟩, ?_, ?_⟩
      · simp only [Datapaths.newPacket, next]
        omega
      · rw [BufferLedger.report, stands.increments]
        simp only [Function.update_self]
        exact Arena.load_new_next stands.wellFormed packet
  · -- announced before, an id has an address before the new one
    have older : ∀ {other id address}, Announced state.emitted other id →
        (state.pktBuffer other).lookup id = some (some address) →
          address < state.packets.next := by
      intro other id address announced found
      obtain ⟨known, knownFound, below, _⟩ := stands.held other id announced
      rw [found, Option.some.injEq, Option.some.injEq] at knownFound
      rw [knownFound]
      exact below
    intro other id third thirdId address announced thirdAnnounced found
      thirdFound
    rw [told] at announced thirdAnnounced
    simp only [emit, lookup] at found thirdFound
    rcases announced with early | ⟨rfl, -, rfl⟩
    · have bound := stands.old early
      rw [if_neg (by omega)] at found
      rcases thirdAnnounced with thirdEarly | ⟨rfl, -, rfl⟩
      · have thirdBound := stands.old thirdEarly
        rw [if_neg (by omega)] at thirdFound
        exact stands.apart other id third thirdId address early thirdEarly
          found thirdFound
      · rw [if_pos ⟨rfl, rfl⟩, Option.some.injEq, Option.some.injEq]
          at thirdFound
        have below := older early found
        omega
    · rw [if_pos ⟨rfl, rfl⟩, Option.some.injEq, Option.some.injEq] at found
      rcases thirdAnnounced with thirdEarly | ⟨rfl, -, rfl⟩
      · have thirdBound := stands.old thirdEarly
        rw [if_neg (by omega)] at thirdFound
        have below := older thirdEarly thirdFound
        omega
      · exact ⟨rfl, rfl⟩

theorem captured (stands : Stands state ledger) {len : Nat}
    (few : ∀ after, state.packetHandler memory dp packet len = some after →
      after.increments < noBuffer) :
    Option.Rel Stands (state.packetHandler memory dp packet len)
      (ledger.captured memory dp packet len) := by
  have same : ((state.newPacket packet).datapath dp) = ledger.datapath dp :=
    congrFun stands.datapath dp
  simp only [packetHandler, BufferLedger.captured, bufferPacket_datapath,
    same] at few ⊢
  cases found : Datapath.packetHandler (ledger.datapath dp).flowTable
      (packet.captured memory) with
  | some flow =>
      apply (stands.newPacket packet).forward
      · exact Arena.load_new_next stands.wellFormed packet
      · intro after ran
        have bound := few after (by rw [found]; exact ran)
        exact Nat.lt_trans bound (by decide)
  | none =>
      rw [found] at few
      simp only at few ⊢
      have small : state.increments + 1 < 2 ^ 32 := by
        split at few
        · have bound := few _ rfl
          simp only [emit, bufferPacket_increments, Datapaths.newPacket,
            noBuffer] at bound
          omega
        · have bound := few _ rfl
          simp only [bufferPacket_increments, Datapaths.newPacket,
            noBuffer] at bound
          omega
      split
      · apply Option.Rel.some
        have reported := stands.report small memory dp packet len
        have id : ((state.newPacket packet).bufferPacket dp
            (some state.packets.next)).bufferId = state.increments + 1 := by
          rw [bufferId, bufferPacket_increments]
          exact uint32_of_lt small
        rw [id]
        exact reported
      · exact .some ((stands.newPacket packet).bufferPacket small dp _)

/-- What an announced id stands for outlasts the actions of a packet. -/
theorem runActions_kept (stands : Stands state ledger) {after : Datapaths}
    {acts : List Action}
    (ran : state.runActions memory dp pkt acts = some after)
    (few : after.increments < 2 ^ 32) {other id : Nat}
    (announced : Announced state.emitted other id) :
    Announced after.emitted other id ∧
      (after.pktBuffer other).lookup id =
        (state.pktBuffer other).lookup id := by
  obtain ⟨copies, emissions, rfl⟩ := runActions_some ran
  simp only [emit, bufferCopies_increments] at few
  constructor
  · obtain ⟨msg, member, told⟩ := announced
    refine ⟨msg, ?_, told⟩
    rw [emit, bufferCopies_emitted]
    exact List.mem_append_left _ member
  · exact bufferCopies_lookup few stands.stored (stands.old announced)

theorem taken (stands : Stands state ledger) {id address : Nat}
    (announced : Announced state.emitted dp id)
    (found : (state.pktBuffer dp).lookup id = some (some address))
    (loaded : state.packets.load address = some packet) (acts : List Action)
    (few : ∀ after,
      (state.runActions memory dp (some address) acts).bind
        (deletePacket (some address)) = some after →
          after.increments < noBuffer) :
    Option.Rel Stands
      ((state.runActions memory dp (some address) acts).bind
        (deletePacket (some address)))
      ((ledger.forward memory dp packet acts).map
        (BufferLedger.handBack dp id)) := by
  have still : ∀ middle,
      state.runActions memory dp (some address) acts = some middle →
        middle.packets.load address = some packet := by
    intro middle ran
    rw [runActions_packets ran]
    exact loaded
  have small : ∀ middle,
      state.runActions memory dp (some address) acts = some middle →
        middle.increments < 2 ^ 32 := by
    intro middle ran
    have deleted : middle.deletePacket (some address) = some
        { middle with
          packets :=
            { middle.packets with
              released := address :: middle.packets.released } } := by
      rw [deletePacket, Arena.delete_of_load (still middle ran)]
      rfl
    have bound := few _ (by rw [ran, Option.bind_some, deleted])
    exact Nat.lt_trans bound (by decide)
  have related := @forward state dp (some address) ledger memory
    packet stands loaded acts small
  cases ran : state.runActions memory dp (some address) acts with
  | none =>
      rw [ran] at related
      cases forwarded : ledger.forward memory dp packet acts with
      | none => exact .none
      | some next =>
          rw [forwarded] at related
          cases related
  | some middle =>
      rw [ran] at related
      cases forwarded : ledger.forward memory dp packet acts with
      | none =>
          rw [forwarded] at related
          cases related
      | some next =>
          rw [forwarded] at related
          cases related with
          | some middleStands =>
              have kept := stands.runActions_kept ran (small middle ran)
                announced
              obtain ⟨after, deleted, afterStands⟩ := middleStands.handBack
                kept.1 (kept.2.trans found) (still middle ran)
              rw [Option.bind_some, deleted]
              exact .some afterStands

theorem unbuffered (stands : Stands state ledger) (acts : List Action)
    (few : ∀ after,
      ((state.newPacket packet).runActions memory dp
          (some state.packets.next) acts).bind
        (deletePacket (some state.packets.next)) = some after →
          after.increments < noBuffer) :
    Option.Rel Stands
      (((state.newPacket packet).runActions memory dp
          (some state.packets.next) acts).bind
        (deletePacket (some state.packets.next)))
      (ledger.forward memory dp packet acts) := by
  have allocated := stands.newPacket packet
  have loaded : (state.newPacket packet).load (some state.packets.next) =
      some packet :=
    Arena.load_new_next stands.wellFormed packet
  have deleted : ∀ middle,
      (state.newPacket packet).runActions memory dp (some state.packets.next)
        acts = some middle →
      middle.packets.delete state.packets.next = some
        { middle.packets with
          released := state.packets.next :: middle.packets.released } := by
    intro middle ran
    apply Arena.delete_of_load
    rw [runActions_packets ran]
    exact loaded
  have small : ∀ middle,
      (state.newPacket packet).runActions memory dp (some state.packets.next)
        acts = some middle → middle.increments < 2 ^ 32 := by
    intro middle ran
    have bound := few _ (by
      rw [ran, Option.bind_some, deletePacket, deleted middle ran]
      rfl)
    exact Nat.lt_trans bound (by decide)
  have related := allocated.forward loaded acts small
  cases ran : (state.newPacket packet).runActions memory dp
      (some state.packets.next) acts with
  | none =>
      rw [ran] at related
      exact related
  | some middle =>
      rw [ran] at related
      rw [Option.bind_some, deletePacket, deleted middle ran]
      cases forwarded : ledger.forward memory dp packet acts with
      | none =>
          rw [forwarded] at related
          cases related
      | some next =>
          rw [forwarded] at related
          cases related with
          | some middleStands =>
              apply Option.Rel.some
              apply middleStands.withPackets
              · exact middleStands.wellFormed.delete (deleted middle ran)
              · exact Nat.le_refl _
              · intro other id address announced found _
                have told : Announced state.emitted other id := by
                  rw [runActions_live loaded] at ran
                  obtain ⟨emissions, emits, rfl⟩ :=
                    Option.map_eq_some_iff.mp ran
                  rw [emit, bufferCopies_emitted,
                    announced_emissions emits] at announced
                  exact announced
                have kept := (allocated.runActions_kept ran (small middle ran)
                  told).2
                obtain ⟨known, knownFound, below, _⟩ :=
                  stands.held other id told
                have equal : known = address := by
                  rw [kept] at found
                  have both := knownFound.symm.trans found
                  simpa using both
                apply Arena.load_delete_ne (deleted middle ran)
                omega

end Stands

theorem Stands.step (stands : Stands state ledger) {event : DatapathEvent}
    (announced : ∀ dp id, event.names = some (dp, id) →
      Announced state.emitted dp id)
    (few : ∀ after, state.step event = some after →
      after.increments < noBuffer) :
    Option.Rel Stands (state.step event) (ledger.step event) := by
  cases event with
  | connected dp =>
      apply Option.Rel.some
      refine ⟨stands.wellFormed, stands.increments, ?_, stands.emitted,
        stands.stored, stands.held, stands.apart⟩
      simp [connect, stands.datapath]
  | captured dp packet len memory => exact stands.captured few
  | flowMod dp fm memory =>
      have set := stands.setFlowTable dp
        (Datapath.handleFlowMod (state.datapath dp).flowTable fm none).1
      simp only [Datapaths.step, Datapaths.handleFlowMod, BufferLedger.step,
        BufferLedger.flowMod] at few ⊢
      rw [← stands.datapath]
      by_cases named : fm.command = .add ∧ fm.bufferId ≠ noBuffer
      · simp only [if_pos named] at few ⊢
        have told := announced dp fm.bufferId (by
          simp only [DatapathEvent.names, if_pos named])
        obtain ⟨address, found, _, load⟩ := set.held dp fm.bufferId told
        have pointer : (state.setFlowTable dp
            (Datapath.handleFlowMod (state.datapath dp).flowTable fm
              none).1).pointer dp fm.bufferId = some address := by
          rw [Datapaths.pointer, found]
          rfl
        rw [pointer, insertBuffer_present found] at few ⊢
        simp only [Datapaths.load, Option.bind_some, load] at few ⊢
        cases waits : ((ledger.setFlowTable dp
            (Datapath.handleFlowMod (state.datapath dp).flowTable fm
              none).1).waiting dp fm.bufferId) with
        | none => exact .none
        | some packet =>
            rw [waits] at few load
            simp only [Option.bind_some] at few ⊢
            split
            · rename_i matching
              simp only [if_pos matching] at few
              exact set.taken told found load fm.actions few
            · exact .some set
      · simp only [if_neg named]
        exact .some set
  | packetOut dp po memory =>
      simp only [Datapaths.step, Datapaths.handlePacketOut, BufferLedger.step,
        BufferLedger.packetOut] at few ⊢
      by_cases alone : po.bufferId = noBuffer
      · simp only [if_pos alone] at few ⊢
        exact stands.unbuffered po.actions few
      · simp only [if_neg alone] at few ⊢
        have told := announced dp po.bufferId (by
          simp only [DatapathEvent.names, if_neg alone])
        obtain ⟨address, found, _, load⟩ := stands.held dp po.bufferId told
        have pointer : state.pointer dp po.bufferId = some address := by
          rw [Datapaths.pointer, found]
          rfl
        rw [pointer, insertBuffer_present found] at few ⊢
        cases waits : ledger.waiting dp po.bufferId with
        | none =>
            rw [waits] at load
            -- the packet was released, and is released again at the latest
            have gone : ((state.runActions memory dp (some address)
                po.actions).bind (deletePacket (some address))) = none := by
              cases ran : state.runActions memory dp (some address)
                  po.actions with
              | none => rfl
              | some middle =>
                  rw [Option.bind_some, deletePacket, runActions_packets ran,
                    Arena.delete, load]
                  rfl
            rw [gone]
            exact .none
        | some packet =>
            rw [waits] at load
            exact stands.taken told found load po.actions few

/-- The messages of a controller that goes by what it was told. -/
def InformedStep (ports : Nat → Nat) (past : List DatapathEvent)
    (event : DatapathEvent) : Prop :=
  NamesAnnounced ports past event ∧ FewIds ports past event

theorem stands_initial (ports : Nat → Nat) :
    Stands (initial ports) (.initial ports) := by
  have nothing : ∀ dp id, ¬Announced (initial ports).emitted dp id := by
    intro dp id announced
    obtain ⟨msg, member, _⟩ := announced
    cases member
  refine ⟨Arena.wellFormed_empty, rfl, rfl, rfl, ?_, ?_, ?_⟩
  · intro dp id present
    cases present
  · intro dp id announced
    exact absurd announced (nothing dp id)
  · intro dp id other otherId address announced
    exact absurd announced (nothing dp id)

/-- In every run with an informed controller the datapaths do what the ledger
does, and no step lacks a packet unless nobody waits for the named one. -/
theorem run_refines {ports : Nat → Nat} {events : List DatapathEvent}
    (informed : History.Admissible (InformedStep ports) events) :
    Option.Rel Stands (run ports events) (BufferLedger.run ports events) := by
  refine PartialRun.simulation informed (stands_initial ports) ?_
  intro past event state ledger allowed reached _ stands
  apply stands.step
  · exact allowed.1 state reached
  · intro after stepped
    apply allowed.2 after
    rw [run, PartialRun.run_snoc, reached]
    exact stepped

theorem reportedEvents_informed :
    History.Admissible (InformedStep (fun _ => 2)) reportedEvents := by
  refine ⟨⟨?_, ?_⟩, ⟨?_, ?_⟩, ⟨?_, ?_⟩, trivial⟩
  · intro state _ dp id names
    cases names
  · intro state reached
    cases reached
    decide
  · intro state _ dp id names
    cases names
  · intro state reached
    cases reached
    decide
  · intro state reached dp id names
    cases reached
    cases names
    exact ⟨_, List.mem_cons_self, rfl, rfl⟩
  · intro state reached
    cases reached
    decide

theorem run_refines_reported :
    Option.Rel Stands (run (fun _ => 2) reportedEvents)
      (BufferLedger.run (fun _ => 2) reportedEvents) :=
  run_refines reportedEvents_informed

end Datapaths

end Perfbench
