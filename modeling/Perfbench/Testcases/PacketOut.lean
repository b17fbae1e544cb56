import Perfbench.Counter.Bookkeeping
import Perfbench.SendLoop
import Perfbench.Testcases.PacketIn

/-!
# The PacketOut testcase

Every PacketOut carries its xid as decimal text through the switch and back to
the dataplane socket, where the response is counted on the first connection,
whatever connection the request was sent on.
-/

namespace Perfbench

/-- A PacketOut that sends a frame from one port of the switch to another. -/
structure PacketOutMsg where
  xid : Nat
  inPort : Nat
  outPort : Nat
  payload : List Char
deriving DecidableEq

namespace PacketOut

/-- `char payload[10]`. -/
def payloadBuffer : Nat := 10

/-- `%08d` of the xid, which is taken for an `int`. -/
def payloadText (xid : Nat) : List Char := DecimalText.padded 8 (int32 xid)

/-- The text and its terminating zero stay within the buffer. -/
def FitsBuffer (payload : List Char) : Prop :=
  payload.length + 1 ≤ payloadBuffer

/-- The ports are the first two of the first connection's switch; `at` throws
where there are fewer. -/
def createPacketout (switchPorts : List Nat) (xid : Nat) :
    Option PacketOutMsg :=
  switchPorts[0]?.bind (fun inPort =>
    switchPorts[1]?.map (fun outPort =>
      { xid, inPort, outPort, payload := payloadText xid }))

/-- Every xid is read back from its text, also one that has a sign as an
`int`. -/
theorem payloadXid_payloadText {xid : Nat} (fits : xid < 2 ^ 32) :
    PacketIn.payloadXid (payloadText xid) = some xid := by
  obtain ⟨lower, upper⟩ := int32_bounds xid
  rw [payloadText, PacketIn.payloadXid_padded lower upper, uint32OfInt_int32,
    uint32_of_lt fits]

/-- The number that is printed is the one that is read back. -/
theorem payloadXid_short {n : Nat} (short : n < 10 ^ 9) :
    PacketIn.payloadXid (DecimalText.padded 8 n) = some n ∧
      PacketIn.payloadXid (payloadText n) = some n := by
  have kept : int32 n = n := int32_of_bounds (by omega) (by omega)
  have text : payloadText n = DecimalText.padded 8 n := by
    rw [payloadText, kept]
  have read := payloadXid_payloadText (show n < 2 ^ 32 by omega)
  refine ⟨?_, read⟩
  rw [← text]
  exact read

theorem payloadXid_short_nineDigits :
    PacketIn.payloadXid (DecimalText.padded 8 (102000450 : Nat)) =
        some 102000450 ∧
      PacketIn.payloadXid (payloadText 102000450) = some 102000450 :=
  payloadXid_short (by decide)

/-- The response is counted on connection 0; none where `std::stoi` throws. -/
def dataplanePacketReceived (pastEnd : PastEnd) (time : ℚ) (msgSize : Nat)
    (payload : List Char) (counter : Counter) : Option Counter :=
  (PacketIn.payloadXid payload).map (fun xid =>
    counter.countResponse pastEnd
      { xid, time, bytes := uint32 msgSize, msgType := 255 } 0)

end PacketOut

/-- A request that the send loop issued: the connection, the place in its
request table, and the message. -/
structure IssuedPacketOut where
  connIndex : Nat
  position : Nat
  msg : PacketOutMsg
deriving DecidableEq

/-- The counter, the requests issued so far, and how many of their packets
have returned. -/
structure PacketOutRun where
  counter : Counter
  sent : List IssuedPacketOut
  returned : Nat

inductive PacketOutEvent where
  | established (connId : Int)
  | send (connIndex : Nat) (time : ℚ) (length : Nat)
  | received (time : ℚ) (msgSize : Nat) (pastEnd : PastEnd)
  | newInterval (now : ℚ)

namespace PacketOutRun

def start : PacketOutRun :=
  { counter := Counter.initial
    sent := []
    returned := 0 }

/-- The send loop numbers and counts a request; the packets return in the order
in which they were sent, each once. -/
def step (switchPorts : List Nat) (state : PacketOutRun) :
    PacketOutEvent → Option PacketOutRun
  | .established connId =>
      some { state with counter := state.counter.connEstablished connId }
  | .send connIndex time length =>
      (SendLoop.nextXid connIndex state.counter).bind (fun xid =>
        (PacketOut.createPacketout switchPorts xid).map (fun msg =>
          { state with
            counter := state.counter.countRequest
              { xid := msg.xid, time, bytes := length, msgType := 13 }
              connIndex
            sent := state.sent ++
              [{ connIndex
                 position := ((state.counter.conns[connIndex]?).map
                   (fun tables => tables.reqXids.length)).getD 0
                 msg }] }))
  | .received time msgSize pastEnd =>
      state.sent[state.returned]?.bind (fun request =>
        (PacketOut.dataplanePacketReceived pastEnd time msgSize
            request.msg.payload state.counter).map (fun counter =>
          { state with
            counter
            returned := state.returned + 1 }))
  | .newInterval now =>
      some { state with counter := state.counter.newInterval now }

def run (switchPorts : List Nat) (state : PacketOutRun) :
    List PacketOutEvent → Option PacketOutRun
  | [] => some state
  | event :: events =>
      (state.step switchPorts event).bind (fun next =>
        next.run switchPorts events)

/-- What holds at the start and is kept by every step holds after every
run. -/
theorem run_invariant {switchPorts : List Nat}
    {Invariant : PacketOutRun → Prop}
    (keeps : ∀ state event next, Invariant state →
      state.step switchPorts event = some next → Invariant next)
    {events : List PacketOutEvent} {state final : PacketOutRun}
    (first : Invariant state)
    (run : state.run switchPorts events = some final) : Invariant final := by
  induction events generalizing state with
  | nil =>
      rw [PacketOutRun.run, Option.some.injEq] at run
      rw [← run]
      exact first
  | cons event events induction =>
      rw [PacketOutRun.run, Option.bind_eq_some_iff] at run
      obtain ⟨next, stepped, rest⟩ := run
      exact induction (keeps state event next first stepped) rest

/-- The response is in the slot of its request. -/
def Recorded (counter : Counter) (request : IssuedPacketOut) : Prop :=
  ∃ tables, counter.conns[request.connIndex]? = some tables ∧
    tables.respXids[request.position]? = some request.msg.xid ∧
    tables.respMsgtypes[request.position]? = some 255

/-- The number of a request, as the send loop gives it. -/
def number (request : IssuedPacketOut) : Nat :=
  uint32 (xidBase request.connIndex + request.position + 1)

/-- At most nine digits, or at most eight behind a minus sign. -/
def ShortNumber (number : Nat) : Prop :=
  number < 10 ^ 9 ∨ 2 ^ 32 - 10 ^ 8 < number

instance (number : Nat) : Decidable (ShortNumber number) :=
  inferInstanceAs (Decidable (_ ∨ _))

theorem fitsBuffer_iff {xid : Nat} (fits : xid < 2 ^ 32) :
    PacketOut.FitsBuffer (PacketOut.payloadText xid) ↔ ShortNumber xid := by
  simp only [PacketOut.FitsBuffer, PacketOut.payloadBuffer,
    PacketOut.payloadText, ShortNumber]
  rcases Nat.lt_or_ge xid (2 ^ 31) with small | large
  · have kept : int32 xid = .ofNat xid :=
      int32_of_bounds (by omega) (by omega)
    have digits := @DecimalText.paddedDigits_length_le_iff 8 xid 9 (by decide)
      (by decide)
    rw [kept, DecimalText.padded]
    omega
  · have negative : int32 xid = .negSucc (2 ^ 32 - xid - 1) := by
      rw [int32_of_ge large fits, Int.negSucc_eq]
      omega
    have digits := @DecimalText.paddedDigits_length_le_iff (8 - 1)
      (2 ^ 32 - xid - 1 + 1) 8 (by decide) (by decide)
    rw [negative, DecimalText.padded, List.length_cons]
    omega

/-- The requests on a connection. -/
def onConnIndex (connIndex : Nat) (sent : List IssuedPacketOut) :
    List IssuedPacketOut :=
  sent.filter (fun request => request.connIndex = connIndex)

/-- What the tables and the requests of every run keep to. -/
structure Tracked (state : PacketOutRun) : Prop where
  returned_le : state.returned ≤ state.sent.length
  numbered : ∀ request ∈ state.sent, request.msg.xid = number request ∧
    request.msg.payload = PacketOut.payloadText request.msg.xid ∧
    request.connIndex < state.counter.conns.length
  positions : ∀ connIndex,
    (onConnIndex connIndex state.sent).map IssuedPacketOut.position =
      List.range (onConnIndex connIndex state.sent).length
  tables : ∀ connIndex tables, state.counter.conns[connIndex]? = some tables →
    tables.Bookkept ∧
      tables.reqXids = (onConnIndex connIndex state.sent).map
        (fun request => request.msg.xid) ∧
      (connIndex ≠ 0 → tables.respXids = [])

theorem tracked_start : Tracked start := by
  refine ⟨Nat.le_refl 0, ?_, ?_, ?_⟩
  · intro request member
    exact absurd member List.not_mem_nil
  · intro connIndex
    rfl
  · intro connIndex tables present
    simp [start, Counter.initial] at present

theorem Tracked.onConnIndex_nil {state : PacketOutRun}
    (tracked : Tracked state) {connIndex : Nat}
    (outside : state.counter.conns.length ≤ connIndex) :
    onConnIndex connIndex state.sent = [] := by
  rw [onConnIndex, List.filter_eq_nil_iff]
  intro request member
  have inside := (tracked.numbered request member).2.2
  have different : request.connIndex ≠ connIndex := by omega
  simp [different]

theorem Tracked.established {state : PacketOutRun} (tracked : Tracked state)
    (connId : Int) :
    Tracked
      { state with counter := state.counter.connEstablished connId } := by
  refine ⟨tracked.returned_le, ?_, tracked.positions, ?_⟩
  · intro request member
    obtain ⟨xid, payload, inside⟩ := tracked.numbered request member
    refine ⟨xid, payload, ?_⟩
    rw [Counter.connEstablished, List.length_append]
    exact Nat.lt_add_right _ inside
  · intro connIndex tables present
    rw [Counter.connEstablished] at present
    rcases Nat.lt_or_ge connIndex state.counter.conns.length with old | new
    · rw [List.getElem?_append_left old] at present
      exact tracked.tables connIndex tables present
    · rw [List.getElem?_append_right new, List.getElem?_singleton] at present
      split at present
      · rw [Option.some.injEq] at present
        subst present
        refine ⟨ConnTables.bookkept_fresh connId, ?_, fun _ => rfl⟩
        simp only [tracked.onConnIndex_nil new]
        rfl
      · exact absurd present (by simp)

theorem Tracked.newInterval {state : PacketOutRun} (tracked : Tracked state)
    (now : ℚ) :
    Tracked { state with counter := state.counter.newInterval now } :=
  ⟨tracked.returned_le, tracked.numbered, tracked.positions, tracked.tables⟩

theorem onConnIndex_snoc (connIndex : Nat) (sent : List IssuedPacketOut)
    (request : IssuedPacketOut) :
    onConnIndex connIndex (sent ++ [request]) =
      onConnIndex connIndex sent ++
        if request.connIndex = connIndex then [request] else [] := by
  rw [onConnIndex, List.filter_append, onConnIndex]
  split
  · rename_i same
    simp [same]
  · rename_i different
    simp [different]

theorem step_send {switchPorts : List Nat} {state next : PacketOutRun}
    {connIndex length : Nat} {time : ℚ}
    (stepped : state.step switchPorts (.send connIndex time length) =
      some next) :
    ∃ tables msg, state.counter.conns[connIndex]? = some tables ∧
      msg.xid = uint32 (tables.requests + 10000000 * connIndex + 1) ∧
      msg.payload = PacketOut.payloadText msg.xid ∧
      next =
        { state with
          counter := state.counter.countRequest
            { xid := msg.xid, time, bytes := length, msgType := 13 } connIndex
          sent := state.sent ++
            [{ connIndex, position := tables.reqXids.length, msg }] } := by
  simp only [step, SendLoop.nextXid, PacketOut.createPacketout,
    Option.bind_eq_some_iff, Option.map_eq_some_iff] at stepped
  obtain ⟨xid, ⟨tables, present, xidEq⟩, _,
    ⟨inPort, _, outPort, _, rfl⟩, rfl⟩ := stepped
  rw [present, Option.map_some, Option.getD_some]
  refine ⟨tables, ⟨xid, inPort, outPort, PacketOut.payloadText xid⟩, rfl,
    xidEq.symm, ?_, rfl⟩
  dsimp only

theorem Tracked.send {switchPorts : List Nat} {state next : PacketOutRun}
    {connIndex length : Nat} {time : ℚ} (tracked : Tracked state)
    (stepped : state.step switchPorts (.send connIndex time length) =
      some next) : Tracked next := by
  obtain ⟨tables, msg, present, xid, payload, rfl⟩ := step_send stepped
  have inside := (List.getElem?_eq_some_iff.mp present).1
  obtain ⟨kept, reqXids, responses⟩ := tracked.tables connIndex tables present
  have position : tables.reqXids.length =
      (onConnIndex connIndex state.sent).length := by
    rw [reqXids, List.length_map]
  refine ⟨?_, ?_, ?_, ?_⟩
  · have le := tracked.returned_le
    simp only [List.length_append]
    omega
  · intro request member
    simp only [Counter.countRequest, List.length_modify]
    rcases List.mem_append.mp member with earlier | last
    · exact tracked.numbered request earlier
    · rw [List.mem_singleton.mp last]
      refine ⟨?_, payload, inside⟩
      simp only [number, xid, kept.requests, uint32, xidBase]
      omega
  · intro other
    have earlier := tracked.positions other
    simp only [onConnIndex_snoc]
    by_cases same : connIndex = other
    · subst same
      simp only [if_true, List.map_append, List.map_singleton, earlier,
        List.length_append, List.length_singleton, List.range_succ, position]
    · simp only [if_neg same, List.append_nil, earlier]
  · intro other otherTables found
    simp only [Counter.countRequest_conn] at found
    simp only [onConnIndex_snoc]
    by_cases same : connIndex = other
    · subst same
      rw [if_pos rfl, present, Option.map_some, Option.some.injEq] at found
      subst found
      refine ⟨kept.pushRequest _, ?_, responses⟩
      simp [ConnTables.pushRequest, reqXids]
    · rw [if_neg same] at found
      rw [if_neg same, List.append_nil]
      exact tracked.tables other otherTables found

theorem step_received {switchPorts : List Nat} {state next : PacketOutRun}
    {time : ℚ} {msgSize : Nat} {pastEnd : PastEnd} (tracked : Tracked state)
    (stepped : state.step switchPorts (.received time msgSize pastEnd) =
      some next) :
    ∃ request, state.sent[state.returned]? = some request ∧
      next =
        { state with
          counter := state.counter.countResponse pastEnd
            { xid := request.msg.xid
              time
              bytes := uint32 msgSize
              msgType := 255 } 0
          returned := state.returned + 1 } := by
  simp only [step, PacketOut.dataplanePacketReceived,
    Option.bind_eq_some_iff, Option.map_eq_some_iff] at stepped
  obtain ⟨request, sent, _, ⟨xid, parsed, rfl⟩, rfl⟩ := stepped
  obtain ⟨numberEq, payload, _⟩ :=
    tracked.numbered request (List.mem_of_getElem? sent)
  have small : request.msg.xid < 2 ^ 32 := by
    rw [numberEq]
    exact uint32_lt _
  rw [payload, PacketOut.payloadXid_payloadText small, Option.some.injEq]
    at parsed
  subst parsed
  exact ⟨request, sent, rfl⟩

theorem Tracked.received {switchPorts : List Nat} {state next : PacketOutRun}
    {time : ℚ} {msgSize : Nat} {pastEnd : PastEnd} (tracked : Tracked state)
    (stepped : state.step switchPorts (.received time msgSize pastEnd) =
      some next) : Tracked next := by
  obtain ⟨request, sent, rfl⟩ := step_received tracked stepped
  refine ⟨(List.getElem?_eq_some_iff.mp sent).1, ?_, tracked.positions, ?_⟩
  · intro other member
    obtain ⟨xid, payload, inside⟩ := tracked.numbered other member
    refine ⟨xid, payload, ?_⟩
    have length := Counter.step_conns_length state.counter
      (.response 0
        { xid := request.msg.xid
          time
          bytes := uint32 msgSize
          msgType := 255 } pastEnd)
    simp only [Counter.step, Event.establishes, Bool.false_eq_true, if_false,
      Nat.add_zero] at length
    rw [length]
    exact inside
  · intro connIndex tables present
    simp only [Counter.countResponse_conn] at present
    by_cases first : 0 = connIndex
    · rw [if_pos first, Option.map_eq_some_iff] at present
      obtain ⟨before, found, rfl⟩ := present
      obtain ⟨kept, reqXids, _⟩ := tracked.tables connIndex before found
      refine ⟨kept.answer _ _, ?_, fun other => absurd first.symm other⟩
      exact (ConnTables.answer_reqs _ _ _).1.trans reqXids
    · rw [if_neg first] at present
      exact tracked.tables connIndex tables present

/-- The requests whose packets have returned. -/
def returnedRequests (state : PacketOutRun) : List IssuedPacketOut :=
  state.sent.take state.returned

/-- All texts fit into their buffer, and only packets of the first connection
have returned. -/
structure FirstOnly (state : PacketOutRun) : Prop where
  short : ∀ request ∈ state.sent, ShortNumber (number request)
  first : ∀ request ∈ state.returnedRequests, request.connIndex = 0

/-- The tables of the first connection after its first packets returned in
order. -/
structure InOrder (returned : Nat) (tables : ConnTables) : Prop where
  responses : tables.responses = returned
  lastResponseXid : tables.lastResponseXid = returned
  respXids : tables.respXids = List.range' 1 returned
  respMsgtypes : tables.respMsgtypes = List.replicate returned 255

theorem Tracked.returned_position {state : PacketOutRun}
    (tracked : Tracked state) (firstOnly : FirstOnly state) {index : Nat}
    {request : IssuedPacketOut} (returned : index < state.returned)
    (sent : state.sent[index]? = some request) :
    request.connIndex = 0 ∧ request.position = index ∧
      (onConnIndex 0 state.sent)[index]? = some request := by
  have found : state.returnedRequests[index]? = some request := by
    rw [returnedRequests, List.getElem?_take_of_lt returned, sent]
  have split : onConnIndex 0 state.sent =
      state.returnedRequests ++
        onConnIndex 0 (state.sent.drop state.returned) := by
    have whole := List.take_append_drop state.returned state.sent
    rw [returnedRequests, onConnIndex, ← whole, List.filter_append, whole]
    congr 1
    rw [List.filter_eq_self]
    intro other member
    exact decide_eq_true (firstOnly.first other member)
  refine ⟨firstOnly.first request (List.mem_of_getElem? found), ?_⟩
  have here : (onConnIndex 0 state.sent)[index]? = some request := by
    rw [split, List.getElem?_append_left
      (List.getElem?_eq_some_iff.mp found).1, found]
  have positions := congrArg (fun list => list[index]?) (tracked.positions 0)
  have inside := (List.getElem?_eq_some_iff.mp here).1
  simp only [List.getElem?_map, here, Option.map_some,
    List.getElem?_range inside, Option.some.injEq] at positions
  exact ⟨positions, here⟩

theorem FirstOnly.of_append {state : PacketOutRun}
    {later : List IssuedPacketOut} {counter : Counter} {returned : Nat}
    (le : state.returned ≤ returned)
    (inside : state.returned ≤ state.sent.length)
    (firstOnly : FirstOnly
      { counter, sent := state.sent ++ later, returned }) :
    FirstOnly state := by
  refine ⟨?_, ?_⟩
  · intro request member
    exact firstOnly.short request (List.mem_append_left later member)
  · intro request member
    apply firstOnly.first request
    have shorter : state.sent.take state.returned =
        ((state.sent ++ later).take returned).take state.returned := by
      rw [List.take_take, Nat.min_eq_left le,
        List.take_append_of_le_length inside]
    rw [returnedRequests, shorter] at member
    exact List.mem_of_mem_take member

/-- While all texts fit there are fewer than `10 ^ 9` requests on the first
connection. -/
theorem Tracked.position_lt {state : PacketOutRun} (tracked : Tracked state)
    (firstOnly : FirstOnly state) {request : IssuedPacketOut}
    (member : request ∈ state.sent) (first : request.connIndex = 0) :
    request.position + 1 < 10 ^ 9 := by
  by_contra large
  have requestMember : request.position ∈
      (onConnIndex 0 state.sent).map IssuedPacketOut.position :=
    List.mem_map_of_mem (List.mem_filter.mpr ⟨member, decide_eq_true first⟩)
  have limit : 10 ^ 9 - 1 ∈
      (onConnIndex 0 state.sent).map IssuedPacketOut.position := by
    rw [tracked.positions 0, List.mem_range] at requestMember ⊢
    omega
  obtain ⟨other, otherMember, position⟩ := List.mem_map.mp limit
  obtain ⟨otherSent, otherFirst⟩ := List.mem_filter.mp otherMember
  have short := firstOnly.short other otherSent
  rw [number, of_decide_eq_true otherFirst, position] at short
  exact absurd short (by decide)

theorem InOrder.respond {tables : ConnTables} {returned : Nat} {msg : Message}
    {pastEnd : PastEnd} (inOrder : InOrder returned tables)
    (small : returned + 1 < 2 ^ 31) (xid : msg.xid = returned + 1)
    (msgType : msg.msgType = 255)
    (request : tables.reqXids[returned]? = some (returned + 1)) :
    InOrder (returned + 1) (tables.respond pastEnd msg) := by
  have start : tables.searchStart = returned := by
    rw [ConnTables.searchStart, inOrder.responses]
    exact clampToInt_of_lt (by omega)
  have read : tables.readXid pastEnd returned = returned + 1 := by
    rw [ConnTables.readXid, List.getD_eq_getElem?_getD, request,
      Option.getD_some]
  have matched : tables.matchResponse pastEnd msg.xid = .inOrder returned := by
    rw [ConnTables.matchResponse, inOrder.lastResponseXid, start, read,
      if_neg (by omega), if_neg (by omega), if_neg (by omega)]
  rw [ConnTables.respond, matched]
  refine ⟨?_, xid, ?_, ?_⟩
  · simp only [ConnTables.answer, ConnTables.pushResponse,
      ConnTables.pushSlot, inOrder.responses]
    exact uint32_of_lt (by omega)
  · simp only [ConnTables.answer, ConnTables.pushResponse,
      ConnTables.pushSlot, inOrder.respXids, xid]
    rw [List.range'_concat]
    simp [Nat.add_comm]
  · simp only [ConnTables.answer, ConnTables.pushResponse,
      ConnTables.pushSlot, inOrder.respMsgtypes, msgType]
    exact List.replicate_succ'.symm

/-- What every run keeps to: the first connection answers its requests in
order while only its packets return. -/
structure Sequenced (state : PacketOutRun) : Prop where
  tracked : Tracked state
  inOrder : FirstOnly state → ∀ tables,
    state.counter.conns[0]? = some tables → InOrder state.returned tables

theorem sequenced_start : Sequenced start := by
  refine ⟨tracked_start, ?_⟩
  intro _ tables present
  simp [start, Counter.initial] at present

theorem Sequenced.established {state : PacketOutRun}
    (sequenced : Sequenced state) (connId : Int) :
    Sequenced
      { state with counter := state.counter.connEstablished connId } := by
  have tracked := sequenced.tracked
  refine ⟨tracked.established connId, ?_⟩
  intro firstOnly tables present
  rw [Counter.connEstablished] at present
  rcases Nat.lt_or_ge 0 state.counter.conns.length with old | new
  · rw [List.getElem?_append_left old] at present
    exact sequenced.inOrder ⟨firstOnly.short, firstOnly.first⟩ tables present
  · rw [List.getElem?_append_right new, List.getElem?_singleton] at present
    have none : state.returned = 0 := by
      have le := tracked.returned_le
      cases requests : state.sent with
      | nil =>
          rw [requests] at le
          exact Nat.le_zero.mp le
      | cons request later =>
          have inside := (tracked.numbered request (by simp [requests])).2.2
          exact absurd inside (by omega)
    split at present
    · rw [Option.some.injEq] at present
      subst present
      simp only [none]
      exact ⟨rfl, rfl, rfl, rfl⟩
    · exact absurd present (by simp)

theorem Sequenced.send {switchPorts : List Nat} {state next : PacketOutRun}
    {connIndex length : Nat} {time : ℚ} (sequenced : Sequenced state)
    (stepped : state.step switchPorts (.send connIndex time length) =
      some next) : Sequenced next := by
  have tracked := sequenced.tracked
  refine ⟨tracked.send stepped, ?_⟩
  obtain ⟨_, msg, _, _, _, rfl⟩ := step_send stepped
  intro firstOnly tables present
  have earlier := FirstOnly.of_append (Nat.le_refl _) tracked.returned_le
    firstOnly
  simp only [Counter.countRequest_conn] at present
  split at present
  · rw [Option.map_eq_some_iff] at present
    obtain ⟨before, found, rfl⟩ := present
    obtain ⟨responses, last, respXids, respMsgtypes⟩ :=
      sequenced.inOrder earlier before found
    exact ⟨responses, last, respXids, respMsgtypes⟩
  · exact sequenced.inOrder earlier tables present

theorem Sequenced.received {switchPorts : List Nat}
    {state next : PacketOutRun} {time : ℚ} {msgSize : Nat}
    {pastEnd : PastEnd} (sequenced : Sequenced state)
    (stepped : state.step switchPorts (.received time msgSize pastEnd) =
      some next) : Sequenced next := by
  have tracked := sequenced.tracked
  have trackedNext := tracked.received stepped
  refine ⟨trackedNext, ?_⟩
  obtain ⟨request, sent, rfl⟩ := step_received tracked stepped
  intro firstOnly tables present
  have earlier : FirstOnly state := by
    apply @FirstOnly.of_append state [] _ (state.returned + 1)
      (Nat.le_succ _) tracked.returned_le
    rw [List.append_nil]
    exact firstOnly
  obtain ⟨first, position, here⟩ :=
    trackedNext.returned_position firstOnly (Nat.lt_succ_self _) sent
  have member := List.mem_of_getElem? sent
  have small := tracked.position_lt earlier member first
  have xid : request.msg.xid = state.returned + 1 := by
    rw [(tracked.numbered request member).1, number, first, position,
      uint32_of_lt (by simp only [xidBase]; omega), xidBase]
    omega
  simp only [Counter.countResponse_conn, if_true,
    Option.map_eq_some_iff] at present
  obtain ⟨before, found, rfl⟩ := present
  apply (sequenced.inOrder earlier before found).respond (by omega) xid rfl
  rw [(tracked.tables 0 before found).2.1, List.getElem?_map, here,
    Option.map_some, xid]

theorem run_sequenced {switchPorts : List Nat} {events : List PacketOutEvent}
    {final : PacketOutRun} (run : start.run switchPorts events = some final) :
    Sequenced final := by
  apply run_invariant _ sequenced_start run
  intro state event next sequenced stepped
  cases event with
  | established connId =>
      rw [step, Option.some.injEq] at stepped
      rw [← stepped]
      exact sequenced.established connId
  | newInterval now =>
      rw [step, Option.some.injEq] at stepped
      rw [← stepped]
      refine ⟨sequenced.tracked.newInterval now, ?_⟩
      intro firstOnly
      exact sequenced.inOrder ⟨firstOnly.short, firstOnly.first⟩
  | send connIndex time length => exact sequenced.send stepped
  | received time msgSize pastEnd => exact sequenced.received stepped

/-- While only packets of the first connection return, the response of each is
in the slot of its request. -/
theorem Sequenced.recorded {state : PacketOutRun}
    (sequenced : Sequenced state) (firstOnly : FirstOnly state)
    {request : IssuedPacketOut} (member : request ∈ state.returnedRequests) :
    Recorded state.counter request := by
  obtain ⟨tracked, inOrder⟩ := sequenced
  obtain ⟨index, inside, found⟩ := List.getElem_of_mem member
  have shorter : index < state.returned := by
    rw [returnedRequests, List.length_take] at inside
    omega
  have sent : state.sent[index]? = some request := by
    rw [← List.getElem?_take_of_lt shorter, ← found]
    exact List.getElem?_eq_getElem inside
  obtain ⟨first, position, _⟩ :=
    tracked.returned_position firstOnly shorter sent
  have sentMember := List.mem_of_getElem? sent
  obtain ⟨xid, _, established⟩ := tracked.numbered request sentMember
  have small := tracked.position_lt firstOnly sentMember first
  rw [first] at established
  have present := List.getElem?_eq_getElem established
  obtain ⟨_, _, respXids, respMsgtypes⟩ := inOrder firstOnly _ present
  refine ⟨_, by rw [first, present], ?_, ?_⟩
  · rw [respXids, xid, number, first, position,
      uint32_of_lt (by simp only [xidBase]; omega), xidBase,
      List.getElem?_range' shorter]
    simp only [Option.some.injEq]
    omega
  · rw [respMsgtypes, position, List.getElem?_replicate, if_pos shorter]

/-- Every text fits into its buffer, and every response is recorded in the
slot of its request. -/
structure Returned (state : PacketOutRun) : Prop where
  fits : ∀ request ∈ state.sent, PacketOut.FitsBuffer request.msg.payload
  recorded : ∀ request ∈ state.returnedRequests,
    Recorded state.counter request

/-- In every run this is so exactly when the numbers are short and only
packets of the first connection have returned. -/
theorem returned_iff {switchPorts : List Nat} {events : List PacketOutEvent}
    {final : PacketOutRun} (run : start.run switchPorts events = some final) :
    Returned final ↔ FirstOnly final := by
  have sequenced := run_sequenced run
  have tracked := sequenced.tracked
  have fits_iff : ∀ request ∈ final.sent,
      PacketOut.FitsBuffer request.msg.payload ↔
        ShortNumber (number request) := by
    intro request member
    obtain ⟨xid, payload, _⟩ := tracked.numbered request member
    rw [payload, xid]
    exact fitsBuffer_iff (uint32_lt _)
  constructor
  · intro returned
    refine ⟨?_, ?_⟩
    · intro request member
      exact (fits_iff request member).mp (returned.fits request member)
    · intro request member
      obtain ⟨tables, present, slot, _⟩ := returned.recorded request member
      by_contra other
      rw [(tracked.tables request.connIndex tables present).2.2 other] at slot
      exact absurd slot (by simp)
  · intro firstOnly
    refine ⟨?_, ?_⟩
    · intro request member
      exact (fits_iff request member).mpr (firstOnly.short request member)
    · intro request member
      exact sequenced.recorded firstOnly member

/-- Two connections; a packet returns on the first one, and then one on the
given connection. -/
def twoPackets (connIndex : Nat) : List PacketOutEvent :=
  [.established 7, .established 8, .send 0 1 90, .received 2 50 zeroPastEnd,
    .send connIndex 3 90, .received 4 50 zeroPastEnd]

theorem returned_iff_twoPackets :
    ∃ final, start.run [1, 2] (twoPackets 0) = some final ∧
      (Returned final ↔ FirstOnly final) :=
  ⟨_, rfl, @returned_iff [1, 2] (twoPackets 0) _ rfl⟩

/-- The response to a request on the second connection is not recorded
there. -/
theorem returned_secondConnection :
    ∃ final, start.run [1, 2] (twoPackets 1) = some final ∧
      ¬Returned final := by
  refine ⟨_, rfl, ?_⟩
  intro returned
  obtain ⟨tables, present, slot, _⟩ := returned.recorded _
    (List.mem_cons_of_mem _ List.mem_cons_self)
  have tracked := (@run_sequenced [1, 2] (twoPackets 1) _ rfl).tracked
  rw [(tracked.tables 1 tables present).2.2 (by decide)] at slot
  exact absurd slot (by simp)

end PacketOutRun

end Perfbench
