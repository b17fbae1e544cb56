import Perfbench.Library.RankedSearch
import Perfbench.Switch.AddFlow

/-!
# Which flow a packet meets

The flows that FlowMods have left, the newest first, say what the table
answers: the set keeps them in the order of their priorities, newer ones before
older ones, and the first that matches is applied.
-/

namespace Perfbench

namespace Datapath

variable {α : Type}

/-- An ADD replaces the newest flow that strictly matches the new one, a
DELETE removes those that its match covers, and nothing else changes the
table. -/
def leave (flows : List (Flow α)) (fm : SwFlowMod α) : List (Flow α) :=
  match fm.command with
  | .add =>
      newFlow fm :: flows.eraseP (fun other => other.strictMatch (newFlow fm))
  | .delete =>
      flows.filter (fun other =>
        !(newFlow { fm with actions := [] }).nonStrictMatch other)
  | _ => flows

/-- The flows that are left after a sequence of FlowMods, the newest first. -/
def flowsLeft (flowMods : List (SwFlowMod α × Option CapturedPacket)) :
    List (Flow α) :=
  flowMods.foldl (fun flows fm => leave flows fm.1) []

theorem flowsLeft_snoc (past : List (SwFlowMod α × Option CapturedPacket))
    (fm : SwFlowMod α × Option CapturedPacket) :
    flowsLeft (past ++ [fm]) = leave (flowsLeft past) fm.1 := by
  rw [flowsLeft, List.foldl_append]
  rfl

theorem tableAfter_flowsLeft
    (flowMods : List (SwFlowMod α × Option CapturedPacket)) :
    tableAfter flowMods =
      (flowsLeft flowMods).insertionSort (RankLE Flow.priority) := by
  induction flowMods using List.reverseRecOn with
  | nil => rfl
  | append_singleton past fm induction =>
      rw [tableAfter_snoc, flowsLeft_snoc, handleFlowMod, leave, induction]
      cases fm.1.command with
      | add => exact addFlow_sorted (newFlow fm.1) (flowsLeft past)
      | delete => exact RankedList.filter_insertionSort (flowsLeft past)
      | modify => rfl
      | modifyStrict => rfl
      | deleteStrict => rfl

/-- After every sequence of FlowMods a packet meets the newest of the matching
flows of lowest priority among those that are left, and goes to the controller
exactly when none of them matches. -/
theorem packetHandler_eq_some_iff
    (flowMods : List (SwFlowMod α × Option CapturedPacket))
    (pkt : CapturedPacket) :
    (∀ flow, packetHandler (tableAfter flowMods) pkt = some flow ↔
      RankedList.FirstLowest Flow.priority
        (fun other => other.pktMatch pkt.pktMatch) (flowsLeft flowMods)
        flow) ∧
      (packetHandler (tableAfter flowMods) pkt = none ↔
        ∀ flow ∈ flowsLeft flowMods, flow.pktMatch pkt.pktMatch = false) := by
  rw [tableAfter_flowsLeft, packetHandler]
  refine ⟨fun flow => RankedList.find?_insertionSort_eq_some_iff, ?_⟩
  rw [List.find?_eq_none]
  constructor
  · intro unmatched flow left
    have member := (List.mem_insertionSort (RankLE Flow.priority)).mpr left
    simpa using unmatched flow member
  · intro unmatched flow member
    have left := (List.mem_insertionSort (RankLE Flow.priority)).mp member
    simp [unmatched flow left]

end Datapath

end Perfbench
