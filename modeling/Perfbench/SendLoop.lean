import Perfbench.Counter.Connections
import Perfbench.Library.ByteLoop
import Perfbench.Testcases.FlowModSandwich

/-!
# The numbering of the send loop

For every connection in turn `PacketDispatcher::send_loop` gives the packet
the xid after the connection's last one, in a block of ten million xids for
each connection, and counts it as a request.  The xids tell requests and
connections apart as long as no connection leaves its block and no block
leaves the 32 bits.
-/

namespace Perfbench

namespace SendLoop

/-- Request number + 10M * list index; `at` throws where there is no such
connection. -/
def nextXid (listIndex : Nat) (counter : Counter) : Option Nat :=
  counter.conns[listIndex]?.map (fun tables =>
    uint32 (tables.requests + 10000000 * listIndex + 1))

/-- The message sent to a connection, and what `count_request` gets of it. -/
def sendMessage (packet : FlowMod) (listIndex : Nat) (time : ℚ)
    (counter : Counter) : Option (FlowMod × Message) :=
  (nextXid listIndex counter).map (fun xid =>
    let msg := FlowModSandwich.prePacketSend { packet with xid }
    (msg,
      { xid := msg.xid
        time
        bytes := msg.length
        msgType := msg.msgType }))

/-- A packet of a burst goes to one connection after the other. -/
def sendToAll (packet : FlowMod) (time : ℚ) :
    List Nat → Counter → Option (List Event)
  | [], _ => some []
  | listIndex :: listIndices, counter =>
      (sendMessage packet listIndex time counter).bind (fun sent =>
        (sendToAll packet time listIndices
            (counter.countRequest sent.2 listIndex)).map
          (fun events => .request listIndex sent.2 :: events))

/-- The requests of a burst with a packet at each of the given times, in the
first steps of the loop over the connections. -/
def sendBurst (packet : FlowMod) (steps : Nat) :
    List ℚ → Counter → Option (List Event)
  | [], _ => some []
  | time :: times, counter =>
      (sendToAll packet time (ByteLoop.visited counter.conns.length steps 0)
          counter).bind (fun events =>
        (sendBurst packet steps times (counter.run events)).map
          (fun future => events ++ future))

end SendLoop

/-- The requests of a run are those of the send loop, in bursts or not. -/
def SentByLoop (packet : FlowMod) (past : List Event) : Event → Prop
  | .request listIndex msg =>
      ∃ sent, SendLoop.sendMessage packet listIndex msg.time
        (Counter.initial.run past) = some (sent, msg)
  | .established _ => True
  | .response _ _ _ => True
  | .newInterval _ => True

def Event.sentXid : Event → Option Nat
  | .request _ msg => some msg.xid
  | _ => none

/-- The xids of all requests, on whatever connection. -/
def sentXids (events : List Event) : List Nat :=
  events.filterMap Event.sentXid

/-- No two requests share an xid, and the switch recovers the connection from
each. -/
structure IdentifiesRequests (packet : FlowMod) (events : List Event) :
    Prop where
  distinct : (sentXids events).Nodup
  recovered : ∀ connIndex, ∀ msg ∈ requestsOf (onConn connIndex events),
    (FlowModSandwich.counted (FlowModSandwich.prePacketSend
      { packet with xid := msg.xid })).map Prod.snd = some connIndex

/-- Every connection stays in its block, and the block in the 32 bits. -/
def WithinBlocks (events : List Event) : Prop :=
  ∀ connIndex, requestsOf (onConn connIndex events) ≠ [] →
    (requestsOf (onConn connIndex events)).length < 10000000 ∧
      xidBase connIndex + (requestsOf (onConn connIndex events)).length < 2 ^ 32

theorem prePacketSend_xid (msg : FlowMod) :
    (FlowModSandwich.prePacketSend msg).xid = msg.xid := by
  unfold FlowModSandwich.prePacketSend
  split
  · rfl
  · split <;> rfl

theorem mem_sentXids {events : List Event} {xid : Nat}
    (member : xid ∈ sentXids events) :
    ∃ connIndex, xid ∈ issued (onConn connIndex events) := by
  obtain ⟨event, eventMember, sent⟩ := List.mem_filterMap.mp member
  cases event with
  | established connId => simp [Event.sentXid] at sent
  | response connIndex msg pastEnd => simp [Event.sentXid] at sent
  | newInterval now => simp [Event.sentXid] at sent
  | request connIndex msg =>
      have xidEq : msg.xid = xid := by simpa [Event.sentXid] using sent
      refine ⟨connIndex, List.mem_map.mpr ⟨msg, ?_, xidEq⟩⟩
      refine List.mem_filterMap.mpr ⟨.request msg, ?_, rfl⟩
      exact List.mem_filterMap.mpr ⟨_, eventMember, by simp [Event.onConn]⟩

theorem sentXids_snoc (past : List Event) (event : Event) :
    sentXids (past ++ [event]) = sentXids past ++ event.sentXid.toList := by
  cases sent : event.sentXid with
  | none => simp [sentXids, sent]
  | some xid => simp [sentXids, sent]

theorem requestsOf_onConn_request (connIndex listIndex : Nat)
    (past : List Event) (msg : Message) :
    requestsOf (onConn connIndex (past ++ [.request listIndex msg])) =
      if listIndex = connIndex then
        requestsOf (onConn connIndex past) ++ [msg]
      else requestsOf (onConn connIndex past) := by
  rw [onConn_append, onConn_cons]
  by_cases same : listIndex = connIndex
  · simp [Event.onConn, same]
  · simp [Event.onConn, same]

/-- The requests of a connection are numbered in its block, up to the
truncation to 32 bits. -/
theorem sent_xid {packet : FlowMod} {events : List Event}
    (connected : History.Admissible OnEstablished events)
    (sent : History.Admissible (SentByLoop packet) events) :
    ∀ connIndex position msg,
      (requestsOf (onConn connIndex events))[position]? = some msg →
        msg.xid = uint32 (xidBase connIndex + position + 1) := by
  revert connected
  refine sent.invariant ?_ ?_
  · intro _ connIndex position msg found
    simp at found
  · intro past event _ byLoop induction connected connIndex position msg found
    have earlier := induction connected.past connIndex position
    cases event with
    | established connId =>
        apply earlier msg
        simpa [onConn_append, onConn_cons, Event.onConn] using found
    | response index response pastEnd =>
        apply earlier msg
        by_cases same : index = connIndex
        · simpa [onConn_append, onConn_cons, Event.onConn, same] using found
        · simpa [onConn_append, onConn_cons, Event.onConn, same] using found
    | newInterval now =>
        apply earlier msg
        simpa [onConn_append, onConn_cons, Event.onConn] using found
    | request listIndex request =>
        rw [requestsOf_onConn_request] at found
        by_cases same : listIndex = connIndex
        · subst listIndex
          rw [if_pos rfl] at found
          rcases Nat.lt_or_ge position
              (requestsOf (onConn connIndex past)).length with old | new
          · rw [List.getElem?_append_left old] at found
            exact earlier msg found
          · rw [List.getElem?_append_right new, List.getElem?_singleton]
              at found
            split at found
            · rename_i last
              obtain ⟨message, sentMessage⟩ := byLoop
              simp only [SendLoop.sendMessage, SendLoop.nextXid,
                Option.map_eq_some_iff, Prod.mk.injEq] at sentMessage
              obtain ⟨xid, ⟨tables, present, xidEq⟩, -, requestEq⟩ :=
                sentMessage
              obtain ⟨kept, reqXids⟩ :=
                Counter.initial_bookkept connected.past present
              have requests : tables.requests =
                  uint32 (requestsOf (onConn connIndex past)).length := by
                rw [kept.requests, reqXids, issued, List.length_map]
              rw [Option.some.injEq] at found
              rw [← found, ← requestEq]
              simp only [prePacketSend_xid]
              rw [← xidEq, requests]
              simp only [uint32, xidBase]
              omega
            · simp at found
        · rw [if_neg same] at found
          exact earlier msg found

/-- While the xids fit into 32 bits the requests of a connection are numbered
consecutively. -/
theorem sent_numbered {packet : FlowMod} {events : List Event} {connIndex : Nat}
    (connected : History.Admissible OnEstablished events)
    (sent : History.Admissible (SentByLoop packet) events)
    (fits : xidBase connIndex + (requestsOf (onConn connIndex events)).length <
      2 ^ 32) :
    History.Admissible (Numbered (xidBase connIndex + 1))
      (onConn connIndex events) := by
  induction events using List.reverseRecOn with
  | nil => exact History.admissible_nil
  | append_singleton past event induction =>
      have lastXid := sent_xid connected sent connIndex
      rw [onConn_append, requestsOf_append, List.length_append] at fits
      have pastNumbered := induction connected.past sent.past (by omega)
      rw [onConn_append, onConn_singleton] at *
      cases seen : event.onConn connIndex with
      | none => simpa using pastNumbered
      | some connEvent =>
          rw [seen, Option.toList_some] at fits lastXid
          rw [Option.toList_some, History.admissible_snoc]
          refine ⟨pastNumbered, ?_⟩
          cases connEvent with
          | response msg pastEnd => trivial
          | request msg =>
              have xid := lastXid (requestsOf (onConn connIndex past)).length
                msg (by simp)
              rw [requestsOf_request, List.length_singleton] at fits
              rw [uint32_of_lt (by omega)] at xid
              simp only [Numbered]
              omega

namespace SendLoop

/-- The requests of a burst are sent by the loop on established
connections. -/
def BurstStep (packet : FlowMod) (past : List Event) (event : Event) : Prop :=
  OnEstablished past event ∧ SentByLoop packet past event

theorem sendToAll_admissible {packet : FlowMod} {time : ℚ}
    {listIndices : List Nat} {past events : List Event}
    (sent : sendToAll packet time listIndices (Counter.initial.run past) =
      some events) :
    History.AdmissibleFrom (BurstStep packet) past events := by
  induction listIndices generalizing past events with
  | nil =>
      rw [sendToAll, Option.some.injEq] at sent
      subst events
      trivial
  | cons listIndex listIndices induction =>
      rw [sendToAll, Option.bind_eq_some_iff] at sent
      obtain ⟨⟨message, msg⟩, here, rest⟩ := sent
      rw [Option.map_eq_some_iff] at rest
      obtain ⟨future, later, rfl⟩ := rest
      have stepped : (Counter.initial.run past).countRequest msg listIndex =
          Counter.initial.run (past ++ [.request listIndex msg]) := by
        rw [Counter.run_snoc]
        rfl
      have sameTime : msg.time = time := by
        simp only [sendMessage, Option.map_eq_some_iff, Prod.mk.injEq] at here
        obtain ⟨_, _, _, rfl⟩ := here
        rfl
      rw [stepped] at later
      refine ⟨⟨?_, message, sameTime ▸ here⟩, induction later⟩
      simp only [sendMessage, nextXid, Option.map_map,
        Option.map_eq_some_iff] at here
      obtain ⟨tables, present, _⟩ := here
      change listIndex < connections past
      rw [← Counter.initial_conns_length]
      exact (List.getElem?_eq_some_iff.mp present).1

theorem sendBurst_admissible {packet : FlowMod} {steps : Nat} {times : List ℚ}
    {past events : List Event}
    (sent : sendBurst packet steps times (Counter.initial.run past) =
      some events) :
    History.AdmissibleFrom (BurstStep packet) past events := by
  induction times generalizing past events with
  | nil =>
      rw [sendBurst, Option.some.injEq] at sent
      subst events
      trivial
  | cons time times induction =>
      rw [sendBurst, Option.bind_eq_some_iff] at sent
      obtain ⟨here, first, rest⟩ := sent
      rw [Option.map_eq_some_iff] at rest
      obtain ⟨future, later, rfl⟩ := rest
      rw [History.admissibleFrom_append]
      rw [← Counter.run_append] at later
      exact ⟨sendToAll_admissible first, induction later⟩

/-- A burst continues a run of the send loop, so what is said of such runs
holds after any sequence of bursts. -/
theorem burst_continues {packet : FlowMod} {steps : Nat} {times : List ℚ}
    {past events : List Event}
    (connected : History.Admissible OnEstablished past)
    (byLoop : History.Admissible (SentByLoop packet) past)
    (sent : sendBurst packet steps times (Counter.initial.run past) =
      some events) :
    History.Admissible OnEstablished (past ++ events) ∧
      History.Admissible (SentByLoop packet) (past ++ events) := by
  have burst := sendBurst_admissible sent
  rw [History.admissible_append, History.admissible_append]
  exact ⟨⟨connected, burst.mono (fun _ _ allowed => allowed.1)⟩,
    byLoop, burst.mono (fun _ _ allowed => allowed.2)⟩

end SendLoop

/-- Ten million requests are too many for a block, whatever its position. -/
theorem block_of_recovered {connIndex count : Nat} (positive : 0 < count)
    (recovered : ∀ position, position < count →
      uint32 (xidBase connIndex + position + 1) / 10000000 = connIndex) :
    count < 10000000 ∧ xidBase connIndex + count < 2 ^ 32 := by
  simp only [uint32, xidBase] at *
  have short : count < 10000000 := by
    by_contra long
    have last := recovered 9999999 (by omega)
    omega
  have last := recovered (count - 1) (by omega)
  omega

theorem sent_xid_within {packet : FlowMod} {events : List Event}
    (connected : History.Admissible OnEstablished events)
    (sent : History.Admissible (SentByLoop packet) events)
    (within : WithinBlocks events) {connIndex xid : Nat}
    (member : xid ∈ issued (onConn connIndex events)) :
    ∃ position, position < (requestsOf (onConn connIndex events)).length ∧
      (requestsOf (onConn connIndex events)).length < 10000000 ∧
      xid = xidBase connIndex + position + 1 ∧ xid < 2 ^ 32 := by
  obtain ⟨msg, msgMember, rfl⟩ := List.mem_map.mp member
  obtain ⟨position, inside, msgEq⟩ := List.getElem_of_mem msgMember
  have xid := sent_xid connected sent connIndex position msg
    (by rw [List.getElem?_eq_getElem inside, msgEq])
  obtain ⟨short, fits⟩ := within connIndex (List.ne_nil_of_mem msgMember)
  rw [uint32_of_lt (by omega)] at xid
  exact ⟨position, inside, short, xid, by omega⟩

theorem withinBlocks_past {first second : List Event}
    (within : WithinBlocks (first ++ second)) : WithinBlocks first := by
  intro connIndex nonempty
  have longer := within connIndex (by
    rw [onConn_append, requestsOf_append]
    simp [nonempty])
  rw [onConn_append, requestsOf_append, List.length_append] at longer
  omega

theorem distinct_of_withinBlocks {packet : FlowMod} {events : List Event}
    (connected : History.Admissible OnEstablished events)
    (sent : History.Admissible (SentByLoop packet) events)
    (within : WithinBlocks events) : (sentXids events).Nodup := by
  induction events using List.reverseRecOn with
  | nil => exact List.nodup_nil
  | append_singleton past event induction =>
      have pastDistinct :=
        induction connected.past sent.past (withinBlocks_past within)
      rw [sentXids_snoc]
      cases event with
      | established connId => simpa [Event.sentXid] using pastDistinct
      | response index msg pastEnd => simpa [Event.sentXid] using pastDistinct
      | newInterval now => simpa [Event.sentXid] using pastDistinct
      | request listIndex msg =>
          refine List.nodup_append.mpr
            ⟨pastDistinct, by simp [Event.sentXid], ?_⟩
          intro xid member other otherMember same
          have otherEq : other = msg.xid := by
            simpa [Event.sentXid] using otherMember
          obtain ⟨connIndex, earlier⟩ := mem_sentXids member
          obtain ⟨position, inside, short, xidEq, _⟩ := sent_xid_within
            connected.past sent.past (withinBlocks_past within) earlier
          have requests :=
            requestsOf_onConn_request listIndex listIndex past msg
          rw [if_pos rfl] at requests
          have lastXid := sent_xid connected sent listIndex
            (requestsOf (onConn listIndex past)).length msg
            (by rw [requests]; simp)
          obtain ⟨lastShort, lastFits⟩ := within listIndex (by simp [requests])
          rw [requests, List.length_append, List.length_singleton]
            at lastShort lastFits
          rw [uint32_of_lt (by omega)] at lastXid
          simp only [xidBase] at xidEq lastXid
          have sameConn : connIndex = listIndex := by omega
          subst sameConn
          omega

/-- In every run of the send loop the xids identify requests and connections
exactly when every connection stays within its block. -/
theorem xids_identify_iff {packet : FlowMod} {events : List Event}
    (version : packet.version = 1 ∨ packet.version = 4)
    (connected : History.Admissible OnEstablished events)
    (sent : History.Admissible (SentByLoop packet) events) :
    IdentifiesRequests packet events ↔ WithinBlocks events := by
  have recover : ∀ xid, xid < 2 ^ 32 →
      (FlowModSandwich.counted (FlowModSandwich.prePacketSend
        { packet with xid })).map Prod.snd = some (xid / 10000000) := by
    intro xid fits
    have counted := @FlowModSandwich.counted_prePacketSend { packet with xid }
      (FlowModSandwich.prePacketSend { packet with xid }).xid version fits
    rw [counted]
    rfl
  constructor
  · intro identifies connIndex nonempty
    apply block_of_recovered (List.length_pos_of_ne_nil nonempty)
    intro position inside
    have requestAt := List.getElem?_eq_getElem inside
    have xid := sent_xid connected sent connIndex position _ requestAt
    have recovered := identifies.recovered connIndex _ (List.getElem_mem inside)
    rw [xid, recover _ (uint32_lt _), Option.some.injEq] at recovered
    exact recovered
  · intro within
    refine ⟨distinct_of_withinBlocks connected sent within, ?_⟩
    intro connIndex msg member
    obtain ⟨position, inside, short, xid, fits⟩ := sent_xid_within connected
      sent within (List.mem_map_of_mem member)
    rw [recover _ fits, xid, Option.some.injEq, xidBase]
    omega

/-- The FlowMod packet of tenant 1, in OpenFlow 1.0. -/
def sandwichPacket : FlowMod :=
  FlowModSandwich.createPacket 1
    { version := 1
      xid := 0
      priority := 0
      nwSrc := 0
      metadata := 0
      length := 80
      msgType := 14 }

/-- Two connections and a burst of one message to each. -/
def oneBurst : List Event :=
  [.established 7, .established 8,
    .request 0 { xid := 1, time := 1, bytes := 80, msgType := 14 },
    .request 1 { xid := 10000001, time := 1, bytes := 80, msgType := 14 }]

theorem xids_identify_iff_oneBurst :
    IdentifiesRequests sandwichPacket oneBurst ↔ WithinBlocks oneBurst := by
  refine xids_identify_iff (.inl rfl) (by decide) ?_
  exact ⟨trivial, trivial, ⟨_, rfl⟩, ⟨_, rfl⟩, trivial⟩

/-- A connection to which `count` messages are sent. -/
def longBurst (count : Nat) : List Event :=
  .established 7 :: (List.range count).map (fun position =>
    .request 0 { xid := position + 1, time := 1, bytes := 80, msgType := 14 })

theorem longBurst_succ (count : Nat) :
    longBurst (count + 1) = longBurst count ++
      [.request 0
        { xid := count + 1, time := 1, bytes := 80, msgType := 14 }] := by
  simp [longBurst, List.range_succ]

theorem requestsOf_longBurst (count : Nat) :
    (requestsOf (onConn 0 (longBurst count))).length = count := by
  induction count with
  | zero => rfl
  | succ count induction =>
      rw [longBurst_succ, requestsOf_onConn_request, if_pos rfl,
        List.length_append, induction]
      rfl

theorem longBurst_connected (count : Nat) :
    History.Admissible OnEstablished (longBurst count) := by
  induction count with
  | zero => exact ⟨trivial, trivial⟩
  | succ count induction =>
      rw [longBurst_succ, History.admissible_snoc]
      refine ⟨induction, ?_⟩
      simp [OnEstablished, longBurst, connections, List.countP_cons,
        Event.establishes]

theorem longBurst_sent {count : Nat} (fits : count < 2 ^ 32) :
    History.Admissible (SentByLoop sandwichPacket) (longBurst count) := by
  induction count with
  | zero => exact ⟨trivial, trivial⟩
  | succ count induction =>
      rw [longBurst_succ, History.admissible_snoc]
      refine ⟨induction (by omega), ?_⟩
      have inside :
          0 < (Counter.initial.run (longBurst count)).conns.length := by
        rw [Counter.initial_conns_length]
        simp [longBurst, connections, List.countP_cons, Event.establishes]
      have present := List.getElem?_eq_getElem inside
      obtain ⟨kept, reqXids⟩ :=
        Counter.initial_bookkept (longBurst_connected count) present
      refine ⟨FlowModSandwich.prePacketSend
        { sandwichPacket with xid := count + 1 }, ?_⟩
      rw [SendLoop.sendMessage, SendLoop.nextXid, present, Option.map_some,
        kept.requests, reqXids, issued, List.length_map, requestsOf_longBurst]
      have numbered : uint32 (uint32 count + 10000000 * 0 + 1) = count + 1 := by
        simp only [uint32]
        omega
      rw [numbered]
      rfl

/-- The ten millionth request of the first connection is taken for one of the
second. -/
theorem xids_longBurst :
    (sandwichPacket.version = 1 ∨ sandwichPacket.version = 4) ∧
      History.Admissible OnEstablished (longBurst 10000000) ∧
      History.Admissible (SentByLoop sandwichPacket) (longBurst 10000000) ∧
      ¬IdentifiesRequests sandwichPacket (longBurst 10000000) := by
  refine ⟨.inl rfl, longBurst_connected _, longBurst_sent (by decide), ?_⟩
  intro identifies
  have last : (Event.request 0
      { xid := 9999999 + 1, time := 1, bytes := 80, msgType := 14 }) ∈
        longBurst 10000000 := by
    refine List.mem_cons_of_mem _ (List.mem_map.mpr ⟨9999999, ?_, rfl⟩)
    exact List.mem_range.mpr (by decide)
  have member : ({ xid := 9999999 + 1, time := 1, bytes := 80, msgType := 14 } :
      Message) ∈ requestsOf (onConn 0 (longBurst 10000000)) := by
    refine List.mem_filterMap.mpr ⟨.request _, ?_, rfl⟩
    exact List.mem_filterMap.mpr ⟨_, last, rfl⟩
  exact absurd (identifies.recovered 0 _ member) (by decide)

end Perfbench
