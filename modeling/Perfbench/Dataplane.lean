import Perfbench.Counter.Bookkeeping
import Perfbench.Counter.ConnRun
import Perfbench.Testcases.PacketIn

/-!
# Sending on the dataplane

The dataplane branch of the send loop counts every packet under the number of
requests so far, which starts at zero.  Zero is also what the counter takes
for the last response before there is one, so the response to the first packet
is rejected, and the slot of that packet later becomes a placeholder.
-/

namespace Perfbench

/-- The counter, the payloads of the packets on their way, and the messages
handed to `count_response`. -/
structure Dataplane where
  counter : Counter
  wire : List (List Char)
  received : List Message
  deriving DecidableEq

inductive DataplaneEvent where
  | send (time : ℚ)
  | packetIn (time : ℚ) (length : Nat) (pastEnd : PastEnd)

/-- Number of packets sent. -/
def packetsSent (events : List DataplaneEvent) : Nat :=
  events.countP (fun event => match event with
    | .send _ => true
    | .packetIn _ _ _ => false)

namespace Dataplane

def start (connId : Int) : Dataplane :=
  { counter := Counter.initial.connEstablished connId
    wire := []
    received := [] }

/-- The dataplane branch counts a packet and sends it with the payload set
just before; a PacketIn brings the oldest packet on its way. -/
def step (tenantId : Nat) (dataplane : Dataplane) :
    DataplaneEvent → Option Dataplane
  | .send time =>
      let requests := Counter.accumulate
        (dataplane.counter.conns.map ConnTables.requests)
      some
        { dataplane with
          counter := dataplane.counter.countRequest
            { xid := uint32OfInt requests, time, bytes := 8, msgType := 255 } 0
          wire :=
            dataplane.wire ++ [PacketIn.setPacketPayload dataplane.counter] }
  | .packetIn time length pastEnd =>
      match dataplane.wire with
      | [] => none
      | payload :: wire =>
          (PacketIn.processPacketIn tenantId time
            { totalLen := 60
              dstPort := some (PacketIn.tenantPort tenantId)
              payload
              length
              msgType := 10 }).map (fun msg =>
            { counter := dataplane.counter.countResponse pastEnd msg 0
              wire
              received := dataplane.received ++ [msg] })

def run (tenantId : Nat) (dataplane : Dataplane) :
    List DataplaneEvent → Option Dataplane
  | [] => some dataplane
  | event :: events =>
      (dataplane.step tenantId event).bind (fun next =>
        next.run tenantId events)

/-- What holds at the start and is kept by sending and receiving holds after
every run, of the number of packets sent so far. -/
theorem run_invariant {tenantId : Nat} {Invariant : Nat → Dataplane → Prop}
    (send : ∀ sent dataplane time next, Invariant sent dataplane →
      dataplane.step tenantId (.send time) = some next →
      Invariant (sent + 1) next)
    (packetIn : ∀ sent dataplane time length pastEnd next,
      Invariant sent dataplane →
      dataplane.step tenantId (.packetIn time length pastEnd) = some next →
      Invariant sent next)
    {events : List DataplaneEvent} {sent : Nat} {dataplane final : Dataplane}
    (first : Invariant sent dataplane)
    (run : dataplane.run tenantId events = some final) :
    Invariant (sent + packetsSent events) final := by
  induction events generalizing sent dataplane with
  | nil =>
      rw [Dataplane.run, Option.some.injEq] at run
      rw [← run]
      exact first
  | cons event events induction =>
      rw [Dataplane.run, Option.bind_eq_some_iff] at run
      obtain ⟨next, stepped, rest⟩ := run
      cases event with
      | send time =>
          have total : sent + packetsSent (.send time :: events) =
              sent + 1 + packetsSent events := by
            simp only [packetsSent, List.countP_cons, if_true]
            omega
          rw [total]
          exact induction (send sent dataplane time next first stepped) rest
      | packetIn time length pastEnd =>
          have total : packetsSent (.packetIn time length pastEnd :: events) =
              packetsSent events := by
            simp [packetsSent]
          rw [total]
          exact induction
            (packetIn sent dataplane time length pastEnd next first stepped)
            rest

theorem step_packetIn {tenantId : Nat} {dataplane next : Dataplane} {time : ℚ}
    {length : Nat} {pastEnd : PastEnd}
    (stepped : dataplane.step tenantId (.packetIn time length pastEnd) =
      some next) :
    ∃ payload wire xid, dataplane.wire = payload :: wire ∧
      PacketIn.payloadXid payload = some xid ∧
      next =
        { counter := dataplane.counter.countResponse pastEnd
            { xid, time, bytes := length, msgType := 10 } 0
          wire
          received := dataplane.received ++
            [{ xid, time, bytes := length, msgType := 10 }] } := by
  rw [step] at stepped
  cases onWire : dataplane.wire with
  | nil => simp [onWire] at stepped
  | cons payload wire =>
      simp only [onWire, PacketIn.processPacketIn, ne_eq, not_true_eq_false,
        if_false, Option.map_map, Option.map_eq_some_iff] at stepped
      obtain ⟨xid, xidEq, rfl⟩ := stepped
      exact ⟨payload, wire, xid, rfl, xidEq, rfl⟩

theorem responses_lt {tenantId : Nat} {connId : Int}
    {events : List DataplaneEvent} {final : Dataplane}
    (run : (start connId).run tenantId events = some final) :
    ∃ tables, final.counter.conns[0]? = some tables ∧
      tables.responses < 2 ^ 32 := by
  have kept := @run_invariant tenantId
    (fun _ dataplane => ∃ tables,
      dataplane.counter.conns[0]? = some tables ∧ tables.Bookkept)
    (by
      rintro sent dataplane time next ⟨tables, present, kept⟩ stepped
      rw [step, Option.some.injEq] at stepped
      subst stepped
      exact ⟨_, Counter.step_conn present (.request 0 _), kept.run _⟩)
    (by
      rintro sent dataplane time length pastEnd next ⟨tables, present, kept⟩
        stepped
      obtain ⟨_, _, _, _, _, rfl⟩ := step_packetIn stepped
      exact ⟨_, Counter.step_conn present (.response 0 _ pastEnd), kept.run _⟩)
    events 0 (start connId) final
    ⟨_, rfl, ConnTables.bookkept_fresh connId⟩ run
  obtain ⟨tables, present, kept⟩ := kept
  refine ⟨tables, present, ?_⟩
  rw [kept.responses]
  exact uint32_lt _

/-- The first slot does not exist yet, or is a placeholder. -/
def FirstSlotEmpty (tables : ConnTables) : Prop :=
  (tables.respMsgtypes = [] ∧ tables.responses = 0) ∨
    tables.respMsgtypes.head? = some 0

/-- What a dataplane run with fewer than `2 ^ 32` packets keeps to. -/
structure Numbering (sent : Nat) (dataplane : Dataplane) : Prop where
  tables : ∃ tables, dataplane.counter.conns = [tables] ∧
    tables.Bookkept ∧ tables.reqXids = List.range sent ∧
    (tables.lastResponseXid = 0 ∨
      tables.lastResponseXid < dataplane.received.length) ∧
    FirstSlotEmpty tables
  delivered : dataplane.received.length + dataplane.wire.length = sent
  wire : ∀ position payload, dataplane.wire[position]? = some payload →
    PacketIn.payloadXid payload = some (dataplane.received.length + position)
  received : ∀ msg ∈ dataplane.received, msg.msgType = 10

theorem numbering_start (connId : Int) : Numbering 0 (start connId) := by
  refine ⟨⟨ConnTables.fresh connId, rfl, ConnTables.bookkept_fresh connId, rfl,
    .inl rfl, .inl ⟨rfl, rfl⟩⟩, rfl, ?_, ?_⟩
  · intro position payload found
    simp [start] at found
  · intro msg member
    simp [start] at member

theorem Numbering.send {tenantId sent : Nat} {dataplane next : Dataplane}
    {time : ℚ} (numbering : Numbering sent dataplane)
    (fits : sent + 1 < 2 ^ 32)
    (stepped : dataplane.step tenantId (.send time) = some next) :
    Numbering (sent + 1) next := by
  obtain ⟨⟨tables, conns, kept, reqXids, last, firstSlot⟩, delivered, wire,
    received⟩ := numbering
  have requests : tables.requests = sent := by
    rw [kept.requests, reqXids, List.length_range, uint32_of_lt (by omega)]
  have total : Counter.accumulate
      (dataplane.counter.conns.map ConnTables.requests) = int32 sent := by
    rw [conns, List.map_singleton, requests, Counter.accumulate_singleton]
  have xid : uint32OfInt (int32 sent) = sent := by
    rw [uint32OfInt_int32, uint32_of_lt (by omega)]
  have payload :=
    PacketIn.payloadXid_setPacketPayload dataplane.counter
  rw [total, xid] at payload
  simp only [step, total, xid, Option.some.injEq] at stepped
  subst stepped
  refine ⟨?_, ?_, ?_, received⟩
  · refine ⟨tables.pushRequest
      { xid := sent, time, bytes := 8, msgType := 255 }, ?_,
      kept.pushRequest _, ?_, ?_, ?_⟩
    · simp [Counter.countRequest, conns]
    · simp [ConnTables.pushRequest, reqXids, List.range_succ]
    · simpa only [ConnTables.pushRequest] using last
    · simpa only [FirstSlotEmpty, ConnTables.pushRequest] using firstSlot
  · simp only [List.length_append, List.length_singleton]
    omega
  · intro position other found
    rcases Nat.lt_or_ge position dataplane.wire.length with old | new
    · rw [List.getElem?_append_left old] at found
      exact wire position other found
    · rw [List.getElem?_append_right new, List.getElem?_singleton] at found
      split at found
      · rename_i first
        rw [Option.some.injEq] at found
        have here : dataplane.received.length + position = sent := by omega
        rw [← found, here]
        exact payload
      · simp at found

/-- Before any slot exists the search ends at the response's own request,
past all the requests before it. -/
theorem matchResponse_firstSlot {tables : ConnTables} {pastEnd : PastEnd}
    {xid sent : Nat} (requests : tables.requests = sent)
    (reqXids : tables.reqXids = List.range sent) (fits : sent < 2 ^ 32)
    (onWay : xid < sent) (higher : tables.lastResponseXid < xid)
    (none : tables.responses = 0) :
    tables.matchResponse pastEnd xid = .skipping xid xid := by
  have start : tables.searchStart = 0 := by
    rw [ConnTables.searchStart, none]
    exact clampToInt_of_lt (by decide)
  have read : ∀ index, index < sent →
      tables.readXid pastEnd index = index := by
    intro index inside
    simp [ConnTables.readXid, reqXids, inside]
  have last : tables.lastRequestIndex = sent - 1 := by
    rw [ConnTables.lastRequestIndex, requests]
    exact uint32Pred_of_pos (by omega) fits
  have ahead : tables.readXid pastEnd tables.searchStart < xid ∧ xid ≠ 0 := by
    rw [start, read 0 (by omega)]
    omega
  have found := @IndexSearch.searchUp_eq_some (2 ^ 32)
    (tables.answersAt pastEnd xid) (sent - 1) (2 ^ 32) 0 0 xid (by omega)
    (by omega) (by omega) (by omega) (by omega)
    (by simp [ConnTables.answersAt, read xid onWay])
    (by
      intro candidate _ candidateLt
      have different : xid ≠ candidate := by omega
      simp [ConnTables.answersAt, read candidate (by omega), different])
  have notSame : xid ≠ tables.lastResponseXid := by omega
  have notLate : ¬xid < tables.lastResponseXid := by omega
  rw [ConnTables.matchResponse, if_neg notSame, if_neg notLate, if_pos ahead,
    ConnTables.searchSkipped, start, last, found]
  simp

/-- The first response is returned early, and before a later one the slots of
all skipped packets become placeholders. -/
theorem firstSlotEmpty_respond {tables : ConnTables} {pastEnd : PastEnd}
    {msg : Message} {sent : Nat} (requests : tables.requests = sent)
    (reqXids : tables.reqXids = List.range sent) (fits : sent < 2 ^ 32)
    (onWay : msg.xid < sent)
    (last : tables.lastResponseXid = 0 ∨ tables.lastResponseXid < msg.xid)
    (firstSlot : FirstSlotEmpty tables) :
    FirstSlotEmpty (tables.respond pastEnd msg) ∧
      ((tables.respond pastEnd msg).lastResponseXid = msg.xid ∨
        (tables.respond pastEnd msg).lastResponseXid =
          tables.lastResponseXid) := by
  rw [ConnTables.respond]
  by_cases same : msg.xid = tables.lastResponseXid
  · rw [ConnTables.matchResponse, if_pos same]
    exact ⟨firstSlot, .inr rfl⟩
  · have notLate : ¬msg.xid < tables.lastResponseXid := by omega
    rcases firstSlot with ⟨empty, none⟩ | placeholder
    · rw [matchResponse_firstSlot requests reqXids fits onWay (by omega) none]
      refine ⟨.inr ?_, .inl rfl⟩
      obtain ⟨earlier, xid⟩ : ∃ earlier, msg.xid = earlier + 1 :=
        ⟨msg.xid - 1, by omega⟩
      rw [ConnTables.answer, ConnTables.pushResponse_respMsgtypes,
        ConnTables.pushSkipped_respMsgtypes, empty, xid]
      rfl
    · rw [ConnTables.matchResponse, if_neg same, if_neg notLate]
      have kept : ∀ added, (tables.respMsgtypes ++ added).head? = some 0 := by
        intro added
        rw [List.head?_append, placeholder]
        rfl
      split
      · split
        · rw [ConnTables.answer_notFound]
          exact ⟨.inr placeholder, .inr rfl⟩
        · refine ⟨.inr ?_, .inl rfl⟩
          rw [ConnTables.answer, ConnTables.pushResponse_respMsgtypes,
            ConnTables.pushSkipped_respMsgtypes, List.append_assoc]
          exact kept _
      · refine ⟨.inr ?_, .inl rfl⟩
        rw [ConnTables.answer, ConnTables.pushResponse_respMsgtypes]
        exact kept _

theorem countResponse_single {counter : Counter} {tables : ConnTables}
    {pastEnd : PastEnd} {msg : Message} (conns : counter.conns = [tables]) :
    (counter.countResponse pastEnd msg 0).conns =
      [tables.respond pastEnd msg] := by
  have present : counter.conns[0]? = some tables := by
    rw [conns]
    rfl
  simp only [Counter.countResponse, present]
  cases index : (tables.matchResponse pastEnd msg.xid).index with
  | none =>
      rw [ConnTables.respond, Counter.answer_of_index_none index]
      exact conns
  | some reqSearchIndex => simp [conns, ConnTables.respond]

theorem Numbering.packetIn {tenantId sent : Nat} {dataplane next : Dataplane}
    {time : ℚ} {length : Nat} {pastEnd : PastEnd}
    (numbering : Numbering sent dataplane) (fits : sent < 2 ^ 32)
    (stepped : dataplane.step tenantId (.packetIn time length pastEnd) =
      some next) : Numbering sent next := by
  obtain ⟨⟨tables, conns, kept, reqXids, last, firstSlot⟩, delivered, wire,
    received⟩ := numbering
  obtain ⟨payload, rest, xid, onWire, payloadXid, rfl⟩ := step_packetIn stepped
  rw [onWire, List.length_cons] at delivered
  have numbered : xid = dataplane.received.length := by
    have carried := wire 0 payload (by rw [onWire]; rfl)
    rw [payloadXid, Option.some.injEq] at carried
    exact carried
  have requests : tables.requests = sent := by
    rw [kept.requests, reqXids, List.length_range, uint32_of_lt fits]
  obtain ⟨stillEmpty, lastXid⟩ := @firstSlotEmpty_respond tables pastEnd
    { xid, time, bytes := length, msgType := 10 } sent requests reqXids fits
    (by simp only; omega) (by simp only; omega) firstSlot
  change _ = xid ∨ _ at lastXid
  refine ⟨?_, ?_, ?_, ?_⟩
  · refine ⟨tables.respond pastEnd
      { xid, time, bytes := length, msgType := 10 }, ?_, kept.answer _ _, ?_,
      ?_, stillEmpty⟩
    · exact countResponse_single conns
    · rw [ConnTables.respond, (ConnTables.answer_reqs _ _ _).1, reqXids]
    · simp only [List.length_append, List.length_singleton]
      omega
  · simp only [List.length_append, List.length_singleton]
    omega
  · intro position other found
    have carried := wire (position + 1) other (by rw [onWire]; exact found)
    rw [carried, List.length_append, List.length_singleton]
    simp only [Option.some.injEq]
    omega
  · intro msg member
    rcases List.mem_append.mp member with old | new
    · exact received msg old
    · rw [List.mem_singleton] at new
      rw [new]

/-- In a run with fewer than `2 ^ 32` packets the first slot stays empty. -/
theorem numbering_run {tenantId : Nat} {connId : Int}
    {events : List DataplaneEvent} {final : Dataplane}
    (fits : packetsSent events < 2 ^ 32)
    (run : (start connId).run tenantId events = some final) :
    Numbering (packetsSent events) final := by
  have kept := @run_invariant tenantId
    (fun sent dataplane => sent < 2 ^ 32 → Numbering sent dataplane)
    (fun _ _ _ _ numbering stepped sentFits =>
      (numbering (by omega)).send sentFits stepped)
    (fun _ _ _ _ _ _ numbering stepped sentFits =>
      (numbering sentFits).packetIn sentFits stepped)
    events 0 (start connId) final (fun _ => numbering_start connId) run
  rw [Nat.zero_add] at kept
  exact kept fits

theorem run_nothing {tenantId : Nat} {connId : Int}
    {events : List DataplaneEvent} {final : Dataplane}
    (none : packetsSent events = 0)
    (run : (start connId).run tenantId events = some final) :
    final = start connId := by
  have kept := @run_invariant tenantId
    (fun sent dataplane => sent = 0 → dataplane = start connId)
    (by
      intro sent dataplane time next _ _ isZero
      exact absurd isZero (Nat.succ_ne_zero sent))
    (by
      intro sent dataplane time length pastEnd next unchanged stepped isZero
      rw [unchanged isZero] at stepped
      simp [step, start] at stepped)
    events 0 (start connId) final (fun _ => rfl) run
  exact kept (by omega)

end Dataplane

/-- All packets are counted as answered, none as missing or lost, and each
slot holds the response received for its packet. -/
structure DataplaneCounted (sent : Nat) (dataplane : Dataplane) : Prop where
  tables : ∃ tables, dataplane.counter.conns[0]? = some tables ∧
    tables.responses = sent ∧ tables.missingResponses = 0 ∧
    ∀ (index : Nat) (msg : Message), dataplane.received[index]? = some msg →
      tables.respXids[index]? = some msg.xid ∧
        tables.respTimes[index]? = some msg.time ∧
        tables.respBytes[index]? = some msg.bytes ∧
        tables.respMsgtypes[index]? = some msg.msgType
  losses : dataplane.counter.intervalLosses = 0

/-- When every packet sent has come back, in order and once, the counter is
right only if there was none. -/
theorem dataplane_counted_iff {tenantId : Nat} {connId : Int}
    {events : List DataplaneEvent} {final : Dataplane}
    (run : (Dataplane.start connId).run tenantId events = some final)
    (delivered : final.wire = []) :
    DataplaneCounted (packetsSent events) final ↔ packetsSent events = 0 := by
  constructor
  · rintro ⟨⟨tables, present, responses, _, slots⟩, _⟩
    obtain ⟨counted, countedAt, small⟩ := Dataplane.responses_lt run
    have same : tables = counted :=
      Option.some.inj (present.symm.trans countedAt)
    have fits : packetsSent events < 2 ^ 32 := by
      rw [← responses, same]
      exact small
    obtain ⟨⟨shown, conns, _, _, _, firstSlot⟩, total, _, received⟩ :=
      Dataplane.numbering_run fits run
    rw [delivered, List.length_nil, Nat.add_zero] at total
    by_contra some_sent
    have inside : 0 < final.received.length := by omega
    have slot := (slots 0 _ (List.getElem?_eq_getElem inside)).2.2.2
    rw [received _ (List.getElem_mem inside)] at slot
    rw [conns, List.getElem?_cons_zero, Option.some.injEq] at present
    rw [← present] at slot
    rcases firstSlot with ⟨isEmpty, _⟩ | placeholder
    · simp [isEmpty] at slot
    · rw [List.head?_eq_getElem?, slot] at placeholder
      simp at placeholder
  · intro none
    rw [none, Dataplane.run_nothing none run]
    refine ⟨⟨_, rfl, rfl, rfl, ?_⟩, rfl⟩
    intro index msg found
    simp [Dataplane.start] at found

/-- A packet is sent and comes back. -/
def onePacket : List DataplaneEvent := [.send 1, .packetIn 2 78 zeroPastEnd]

/-- The state after it: one request, and no response. -/
def onePacketReturned : Dataplane :=
  { counter := (Counter.initial.connEstablished 7).countRequest
      { xid := 0, time := 1, bytes := 8, msgType := 255 } 0
    wire := []
    received := [{ xid := 0, time := 2, bytes := 78, msgType := 10 }] }

theorem onePacket_run :
    (Dataplane.start 7).run 1 onePacket = some onePacketReturned := by
  decide

theorem dataplane_counted_iff_onePacket :
    DataplaneCounted (packetsSent onePacket) onePacketReturned ↔
      packetsSent onePacket = 0 :=
  dataplane_counted_iff onePacket_run rfl

/-- The only packet that was sent is answered, and not counted. -/
theorem dataplane_onePacket :
    (Dataplane.start 7).run 1 onePacket = some onePacketReturned ∧
      onePacketReturned.wire = [] ∧
      onePacketReturned.counter.conns.map ConnTables.responses = [0] ∧
      ¬DataplaneCounted (packetsSent onePacket) onePacketReturned := by
  refine ⟨onePacket_run, rfl, by decide, ?_⟩
  rintro ⟨⟨tables, present, responses, _⟩, _⟩
  have shown : onePacketReturned.counter.conns[0]?.map ConnTables.responses =
      some 0 := by decide
  rw [present, Option.map_some, responses, Option.some.injEq] at shown
  exact absurd shown (by decide)

end Perfbench
