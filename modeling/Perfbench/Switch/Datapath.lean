import Perfbench.Library.SearchTree
import Perfbench.Switch.FlowMatch

/-!
# The flow table

`Datapath::handle_flow_mod` changes the flow table, a set ordered by
`cmp_priority`.  `SwPort::packet_handler` looks for a flow that matches a
packet in the order of the set.
-/

namespace Perfbench

inductive FlowModCommand where
  | add
  | modify
  | modifyStrict
  | delete
  | deleteStrict
deriving DecidableEq, Repr

/-- What `handle_flow_mod` reads of a FlowMod message. -/
structure SwFlowMod (α : Type) where
  command : FlowModCommand
  priority : Nat
  match_ : Match
  actions : List α
  bufferId : Nat

/-- `struct packet`. -/
structure CapturedPacket where
  inPort : Nat
  packet : Packet

/-- The fields of a packet, in a new match; the loop over the VLAN tags ends
before it has run for every byte. -/
def CapturedPacket.pktMatch (pkt : CapturedPacket) : MatchFields :=
  match Flow.extractFlowFields (pkt.packet.len + 1) pkt.packet
      { (default : MatchFields) with inPort := pkt.inPort } with
  | some result => result.state
  | none => default

namespace Datapath

variable {α : Type}

/-- `cmp_priority`, which is no strict order. -/
def cmpPriority (lhs rhs : Flow α) : Bool := lhs.priority ≤ rhs.priority

/-- `flow_table.insert`, on the flows in the order of the set. -/
def insertFlow (flow : Flow α) (flowTable : List (Flow α)) : List (Flow α) :=
  flowTable.orderedInsert (RankLE Flow.priority) flow

/-- The flow of an ADD; the masks are those of `Flow::Flow`. -/
def newFlow (fm : SwFlowMod α) : Flow α where
  priority := fm.priority
  match_ := fm.match_
  nwDstMask := 0xffffffff
  nwSrcMask := 0xffffffff
  actions := fm.actions

/-- The first flow that the new one strictly matches is erased. -/
def addFlow (flow : Flow α) (flowTable : List (Flow α)) : List (Flow α) :=
  insertFlow flow (flowTable.eraseP (fun other => other.strictMatch flow))

/-- The table after a FlowMod, and the actions applied to the packet that is
buffered under its id; none stands for a missing packet, whose port is read
nevertheless. -/
def handleFlowMod (flowTable : List (Flow α)) (fm : SwFlowMod α)
    (buffered : Option CapturedPacket) : List (Flow α) × Option (List α) :=
  match fm.command with
  | .add =>
      let flow := newFlow fm
      let reaction : Option (List α) :=
        if fm.bufferId = 0xffffffff then some []
        else
          buffered.map (fun pkt =>
            if flow.pktMatch pkt.pktMatch then flow.actions else [])
      (addFlow flow flowTable, reaction)
  | .delete =>
      -- only the match of the compared flow is set
      let flow := newFlow { fm with actions := [] }
      (flowTable.filter (fun other => !flow.nonStrictMatch other), some [])
  | _ => (flowTable, some [])

/-- The table after a sequence of FlowMods, each with what is buffered under
its id. -/
def tableAfter (flowMods : List (SwFlowMod α × Option CapturedPacket)) :
    List (Flow α) :=
  flowMods.foldl (fun flowTable fm => (handleFlowMod flowTable fm.1 fm.2).1) []

/-- The flow whose actions `SwPort::packet_handler` applies; without one the
packet goes to the controller. -/
def packetHandler (flowTable : List (Flow α)) (pkt : CapturedPacket) :
    Option (Flow α) :=
  flowTable.find? (fun flow => flow.pktMatch pkt.pktMatch)

/-- The flows in the order in which the set keeps them. -/
def Ordered (flowTable : List (Flow α)) : Prop :=
  flowTable.Pairwise (RankLE Flow.priority)

theorem insertFlow_ordered {flow : Flow α} {flowTable : List (Flow α)}
    (ordered : Ordered flowTable) : Ordered (insertFlow flow flowTable) :=
  ordered.orderedInsert flow flowTable

theorem insertUnique_eq_insertFlow {flow : Flow α} {tree : SearchTree (Flow α)}
    (ordered : Ordered tree.toList) :
    tree.insertUnique cmpPriority flow = insertFlow flow tree.toList :=
  SearchTree.insertUnique_eq ordered

theorem addFlow_ordered {flow : Flow α} {flowTable : List (Flow α)}
    (ordered : Ordered flowTable) : Ordered (addFlow flow flowTable) :=
  insertFlow_ordered (ordered.sublist List.eraseP_sublist)

theorem handleFlowMod_ordered {flowTable : List (Flow α)} (fm : SwFlowMod α)
    (buffered : Option CapturedPacket) (ordered : Ordered flowTable) :
    Ordered (handleFlowMod flowTable fm buffered).1 := by
  unfold handleFlowMod
  cases fm.command with
  | add => exact addFlow_ordered ordered
  | delete => exact ordered.sublist List.filter_sublist
  | modify => exact ordered
  | modifyStrict => exact ordered
  | deleteStrict => exact ordered

theorem tableAfter_snoc
    (flowMods : List (SwFlowMod α × Option CapturedPacket))
    (fm : SwFlowMod α × Option CapturedPacket) :
    tableAfter (flowMods ++ [fm]) =
      (handleFlowMod (tableAfter flowMods) fm.1 fm.2).1 := by
  rw [tableAfter, List.foldl_append]
  rfl

theorem tableAfter_ordered
    (flowMods : List (SwFlowMod α × Option CapturedPacket)) :
    Ordered (tableAfter flowMods) := by
  induction flowMods using List.reverseRecOn with
  | nil => exact List.Pairwise.nil
  | append_singleton past fm induction =>
      rw [tableAfter_snoc]
      exact handleFlowMod_ordered fm.1 fm.2 induction

/-- A flow of the table that matches the packet, and none of higher priority
does. -/
structure HighestMatch (flowTable : List (Flow α)) (pkt : CapturedPacket)
    (flow : Flow α) : Prop where
  member : flow ∈ flowTable
  matching : flow.pktMatch pkt.pktMatch = true
  highest : ∀ other ∈ flowTable, other.pktMatch pkt.pktMatch = true →
    other.priority ≤ flow.priority

theorem find?_lowest {flowTable : List (Flow α)} {condition : Flow α → Bool}
    {found other : Flow α} (ordered : Ordered flowTable)
    (first : flowTable.find? condition = some found)
    (member : other ∈ flowTable)
    (meets : condition other = true) : found.priority ≤ other.priority := by
  obtain ⟨_, before, after, rfl, fails⟩ :=
    List.find?_eq_some_iff_append.mp first
  rcases List.mem_append.mp member with earlier | later
  · have notMeets := fails other earlier
    simp [meets] at notMeets
  · rcases List.mem_cons.mp later with rfl | behind
    · exact Nat.le_refl other.priority
    · exact List.rel_of_pairwise_cons (List.pairwise_append.mp ordered).2.1
        behind

/-- For every table produced by FlowMods and every packet that some flow
matches, a matching flow of the highest priority is applied exactly when all
matching flows have one priority. -/
theorem packetHandler_highest_iff
    (flowMods : List (SwFlowMod α × Option CapturedPacket))
    (pkt : CapturedPacket)
    (matched : ∃ flow ∈ tableAfter flowMods,
      flow.pktMatch pkt.pktMatch = true) :
    (∃ flow, packetHandler (tableAfter flowMods) pkt = some flow ∧
        HighestMatch (tableAfter flowMods) pkt flow) ↔
      ∀ left ∈ tableAfter flowMods, ∀ right ∈ tableAfter flowMods,
        left.pktMatch pkt.pktMatch = true →
          right.pktMatch pkt.pktMatch = true →
            left.priority = right.priority := by
  have ordered := tableAfter_ordered flowMods
  generalize tableAfter flowMods = flowTable at *
  constructor
  · rintro ⟨flow, applied, highest⟩ left leftMember right rightMember
      leftMatches rightMatches
    have leftLow := find?_lowest ordered applied leftMember leftMatches
    have rightLow := find?_lowest ordered applied rightMember rightMatches
    have leftHigh := highest.highest left leftMember leftMatches
    have rightHigh := highest.highest right rightMember rightMatches
    omega
  · intro same
    obtain ⟨other, otherMember, otherMatches⟩ := matched
    cases applied : packetHandler flowTable pkt with
    | none =>
        have fails := List.find?_eq_none.mp applied other otherMember
        exact absurd otherMatches fails
    | some flow =>
        have member := List.mem_of_find?_eq_some applied
        have matching := List.find?_some applied
        refine ⟨flow, rfl, member, matching, ?_⟩
        intro rival rivalMember rivalMatches
        exact Nat.le_of_eq
          (same rival rivalMember flow member rivalMatches matching)

/-- An ADD without a buffered packet. -/
def addOf (priority : Nat) (match_ : Match) (actions : List α) :
    SwFlowMod α × Option CapturedPacket :=
  ({ command := .add, priority, match_, actions, bufferId := 0xffffffff }, none)

/-- `OFPFW_ALL`. -/
def matchAll : Match := { (default : Match) with wildcards := 0x3fffff }

/-- A frame of no bytes on port 1. -/
def emptyPacket : CapturedPacket := { inPort := 1, packet := .ofBytes [] }

/-- Packets from port 1. -/
def matchInPort : Match :=
  { (default : Match) with
    inPort := 1
    wildcards := 0x3ffffe }

/-- Two flows of one priority that both match. -/
def equalFlows : List (SwFlowMod Nat × Option CapturedPacket) :=
  [addOf 7 matchAll [10], addOf 7 matchInPort [20]]

theorem packetHandler_highest_iff_equal :
    ((tableAfter equalFlows).countP (fun flow =>
        flow.pktMatch emptyPacket.pktMatch) = 2) ∧
      ((∃ flow, packetHandler (tableAfter equalFlows) emptyPacket = some flow ∧
          HighestMatch (tableAfter equalFlows) emptyPacket flow) ↔
        ∀ left ∈ tableAfter equalFlows, ∀ right ∈ tableAfter equalFlows,
          left.pktMatch emptyPacket.pktMatch = true →
            right.pktMatch emptyPacket.pktMatch = true →
              left.priority = right.priority) :=
  ⟨by decide, packetHandler_highest_iff equalFlows emptyPacket (by decide)⟩

/-- Of two flows that match everything the one of lower priority is
applied. -/
theorem packetHandler_lower :
    (∃ flow ∈ tableAfter [addOf 1 matchAll [10], addOf 2 matchAll [20]],
        flow.pktMatch emptyPacket.pktMatch = true) ∧
      ¬∃ flow,
        packetHandler (tableAfter [addOf 1 matchAll [10],
          addOf 2 matchAll [20]]) emptyPacket = some flow ∧
        HighestMatch (tableAfter [addOf 1 matchAll [10],
          addOf 2 matchAll [20]]) emptyPacket flow := by
  refine ⟨by decide, ?_⟩
  rintro ⟨flow, applied, highest⟩
  have low : packetHandler (tableAfter [addOf 1 matchAll [10],
      addOf 2 matchAll [20]]) emptyPacket =
        some (newFlow (addOf 1 matchAll [10]).1) := by decide
  rw [low, Option.some.injEq] at applied
  have bound := highest.highest (newFlow (addOf 2 matchAll [20]).1) (by decide)
    (by decide)
  rw [← applied] at bound
  exact absurd bound (by decide)

end Datapath

end Perfbench
