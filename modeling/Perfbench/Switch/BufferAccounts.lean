import Perfbench.Switch.BufferLedger
import Perfbench.Switch.Forwarding

/-!
# Buffer ids and packets of all switches

The switches of a process share the counter of the buffer ids, so that the ids
they announce ascend over all of them.  Every captured frame is allocated, and
only a buffered packet that a message takes is given back.
-/

namespace Perfbench

def Emission.announcedId : Emission → Option Nat
  | .frame _ _ => none
  | .packetIn msg => if msg.reason = .noMatch then some msg.bufferId else none

/-- The buffer ids that the controllers were told, in their order. -/
def announcedIds (emitted : List (Nat × Emission)) : List Nat :=
  emitted.filterMap (fun entry => entry.2.announcedId)

/-- Each announced id is a new one, up to a number of ids taken. -/
structure AscendingTo (bound : Nat) (ids : List Nat) : Prop where
  ascending : ids.Pairwise (· < ·)
  positive : ∀ id ∈ ids, 0 < id
  below : ∀ id ∈ ids, id ≤ bound

theorem AscendingTo.mono {bound larger : Nat} {ids : List Nat}
    (ascends : AscendingTo bound ids) (grown : bound ≤ larger) :
    AscendingTo larger ids :=
  ⟨ascends.ascending, ascends.positive,
    fun id member => Nat.le_trans (ascends.below id member) grown⟩

theorem AscendingTo.next {bound : Nat} {ids : List Nat}
    (ascends : AscendingTo bound ids) :
    AscendingTo (bound + 1) (ids ++ [bound + 1]) := by
  constructor
  · apply List.pairwise_append.mpr
    refine ⟨ascends.ascending, List.pairwise_singleton _ _, ?_⟩
    intro id member last lastMember
    have below := ascends.below id member
    rw [List.mem_singleton.mp lastMember]
    omega
  · intro id member
    rcases List.mem_append.mp member with early | late
    · exact ascends.positive id early
    · rw [List.mem_singleton.mp late]
      omega
  · intro id member
    rcases List.mem_append.mp member with early | late
    · have below := ascends.below id early
      omega
    · rw [List.mem_singleton.mp late]

theorem announcedIds_emissions {dp : DatapathState} {memory : Nat → UInt8}
    {packet : SwPacket} {acts : List Action} {emissions : List Emission}
    (emits : dp.emissions memory packet acts = some emissions)
    (emitted : List (Nat × Emission)) (source : Nat) :
    announcedIds
        (emitted ++ emissions.map (fun emission => (source, emission))) =
      announcedIds emitted := by
  have silent : emissions.filterMap Emission.announcedId = [] := by
    apply List.filterMap_eq_nil_iff.mpr
    intro emission member
    cases emission with
    | frame port bytes => rfl
    | packetIn msg =>
        have reason := DatapathState.emissions_reason emits member
        simp [Emission.announcedId, reason]
  rw [announcedIds, List.filterMap_append, List.filterMap_map]
  simp only [Function.comp_def, silent, List.append_nil]
  rfl

/-- Whether a frame was captured. -/
def DatapathEvent.isCaptured : DatapathEvent → Bool
  | .captured _ _ _ _ => true
  | _ => false

namespace Datapaths

variable {state after : Datapaths} {memory : Nat → UInt8} {dp : Nat}
  {pkt : Option Nat}

/-- The ids that were announced are among those taken, and none comes
twice. -/
def Announcing (state : Datapaths) : Prop :=
  state.increments < 2 ^ 32 →
    AscendingTo state.increments (announcedIds state.emitted)

/-- Only the ids that are taken change. -/
structure SameIds (state after : Datapaths) : Prop where
  grown : state.increments ≤ after.increments
  same : announcedIds after.emitted = announcedIds state.emitted

theorem SameIds.announcing (ids : SameIds state after)
    (announcing : Announcing state) : Announcing after := by
  intro few
  rw [ids.same]
  exact (announcing (Nat.lt_of_le_of_lt ids.grown few)).mono ids.grown

theorem SameIds.of_eq (increments : after.increments = state.increments)
    (emitted : after.emitted = state.emitted) : SameIds state after :=
  ⟨Nat.le_of_eq increments.symm, by rw [emitted]⟩

theorem SameIds.trans {last : Datapaths} (first : SameIds state after)
    (second : SameIds after last) : SameIds state last :=
  ⟨Nat.le_trans first.grown second.grown, second.same.trans first.same⟩

theorem runActions_ids {acts : List Action}
    (ran : state.runActions memory dp pkt acts = some after) :
    SameIds state after := by
  cases loaded : state.load pkt with
  | none =>
      rw [runActions_null loaded ran]
      exact ⟨Nat.le_refl _, rfl⟩
  | some packet =>
      rw [runActions_live loaded] at ran
      obtain ⟨emissions, emits, rfl⟩ := Option.map_eq_some_iff.mp ran
      constructor
      · simp [emit]
      · rw [emit, bufferCopies_emitted, announcedIds_emissions emits]

theorem released_ids {acts : List Action}
    (done : (state.runActions memory dp pkt acts).bind (deletePacket pkt) =
      some after) : SameIds state after := by
  obtain ⟨middle, ran, deleted⟩ := Option.bind_eq_some_iff.mp done
  have ids := runActions_ids ran
  cases pkt with
  | none =>
      cases deleted
      exact ids
  | some address =>
      obtain ⟨packets, _, rfl⟩ := Option.map_eq_some_iff.mp deleted
      exact ids.trans (.of_eq rfl rfl)

theorem step_ids {event : DatapathEvent} (message : event.isCaptured = false)
    (stepped : state.step event = some after) : SameIds state after := by
  cases event with
  | connected dp =>
      cases stepped
      exact .of_eq rfl rfl
  | captured dp packet len memory => cases message
  | flowMod dp fm memory =>
      simp only [step, handleFlowMod] at stepped
      split at stepped
      · obtain ⟨packet, _, rest⟩ := Option.bind_eq_some_iff.mp stepped
        have entered : SameIds state ((state.setFlowTable dp
            (Datapath.handleFlowMod (state.datapath dp).flowTable fm
              none).1).insertBuffer dp fm.bufferId none) :=
          .of_eq (insertBuffer_increments _) (insertBuffer_emitted _)
        split at rest
        · exact entered.trans (released_ids rest)
        · cases rest
          exact entered
      · cases stepped
        exact .of_eq rfl rfl
  | packetOut dp po memory =>
      simp only [step, handlePacketOut] at stepped
      split at stepped
      · have allocated : ∀ packet, SameIds state (state.newPacket packet) :=
          fun _ => .of_eq rfl rfl
        exact (allocated _).trans (released_ids stepped)
      · have entered : SameIds state (state.insertBuffer dp po.bufferId none) :=
          .of_eq (insertBuffer_increments _) (insertBuffer_emitted _)
        exact entered.trans (released_ids stepped)

theorem packetHandler_announcing {packet : SwPacket} {len : Nat}
    (announcing : Announcing state)
    (handled : state.packetHandler memory dp packet len = some after) :
    Announcing after := by
  simp only [packetHandler] at handled
  split at handled
  · have allocated : SameIds state (state.newPacket packet) := .of_eq rfl rfl
    exact (allocated.trans (runActions_ids handled)).announcing announcing
  · split at handled
    · cases handled
      intro few
      simp only [emit, bufferPacket_increments, newPacket] at few ⊢
      have ascends := (announcing (by omega)).next
      have id : uint32 (state.increments + 1) = state.increments + 1 :=
        uint32_of_lt few
      have told : ∀ data total, announcedIds
          (state.emitted ++ [(dp, .packetIn
            { bufferId := state.increments + 1
              inPort := packet.inPort
              totalLen := total
              reason := .noMatch
              data := data })]) =
            announcedIds state.emitted ++ [state.increments + 1] := by
        intro data total
        simp [announcedIds, Emission.announcedId]
      simpa [bufferId, id, told] using ascends
    · cases handled
      have ids : SameIds state ((state.newPacket packet).bufferPacket dp
          (some state.packets.next)) := by
        constructor
        · rw [bufferPacket_increments]
          exact Nat.le_succ _
        · rw [bufferPacket_emitted]
          rfl
      exact ids.announcing announcing

theorem step_announcing {event : DatapathEvent}
    (announcing : Announcing state)
    (stepped : state.step event = some after) : Announcing after := by
  cases captures : event.isCaptured with
  | false => exact (step_ids captures stepped).announcing announcing
  | true =>
      cases event with
      | captured dp packet len memory =>
          exact packetHandler_announcing announcing stepped
      | connected dp => cases captures
      | flowMod dp fm memory => cases captures
      | packetOut dp po memory => cases captures

/-- Where the handlers do not overlap and the counter does not wrap, the buffer
ids that the switches announce ascend, over all switches. -/
theorem run_ids {ports : Nat → Nat} {events : List DatapathEvent}
    (result : run ports events = some state)
    (few : state.increments < 2 ^ 32) :
    (announcedIds state.emitted).Pairwise (· < ·) ∧
      ∀ id ∈ announcedIds state.emitted, 0 < id ∧ id ≤ state.increments := by
  have start : Announcing (initial ports) :=
    fun _ => ⟨List.Pairwise.nil, by simp [announcedIds, initial],
      by simp [announcedIds, initial]⟩
  have announcing : Announcing state := by
    apply PartialRun.always result start
    intro event state after holds stepped
    exact step_announcing holds stepped
  have ascends := announcing few
  exact ⟨ascends.ascending,
    fun id member => ⟨ascends.positive id member, ascends.below id member⟩⟩

end Datapaths

end Perfbench
