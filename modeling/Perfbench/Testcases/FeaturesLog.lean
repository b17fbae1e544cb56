import Perfbench.Counter.InOrder
import Perfbench.Testcases.FeaturesRuns

/-!
# What FeaturesRequest measures of the emulated switch

Every request is answered, on the way, or answered with the reply on the way,
in this order.  The logfile therefore shows the replies one after the other,
and whatever is on the way can be delivered.
-/

namespace Perfbench

/-- The rows of a connection whose responses are in order show one after the
other. -/
theorem logged_inOrder {events : List Event} {connIndex : Nat}
    (connected : History.Admissible OnEstablished events)
    (inside : connIndex < connections events)
    (run : InOrderRun (xidBase connIndex) (onConn connIndex events)) :
    ∃ tables, (Counter.initial.run events).conns[connIndex]? = some tables ∧
      tables.missingResponses = 0 ∧
      tables.responses = (responsesOf (onConn connIndex events)).length ∧
      (writeLogfile (Counter.initial.run events)).filter
          (fun row => row.connIndex == connIndex) =
        (requestsOf (onConn connIndex events)).mapIdx
          (fun position request => LogRow.of connIndex request
            (responsesOf (onConn connIndex events))[position]?) := by
  obtain ⟨connId, present⟩ := Counter.initial_conn connected inside
  obtain ⟨shows, _, filled⟩ := @Exchange.refines_inOrder _ connId _ run
  rw [shows] at present
  have rows := @logConns_filter 0 connIndex _ _ present
  rw [Nat.zero_add] at rows
  have requests := Exchange.ofRun_requests (xidBase connIndex)
    (onConn connIndex events)
  refine ⟨_, present, filled.missing, filled.length, ?_⟩
  rw [writeLogfile, rows, logTables]
  apply List.ext_getElem?
  intro position
  rw [List.getElem?_map, List.getElem?_mapIdx]
  have length : ((Exchange.ofRun (xidBase connIndex)
      (onConn connIndex events)).tables connId
        (xidBase connIndex)).reqXids.length =
      (requestsOf (onConn connIndex events)).length := by
    simp [Exchange.tables, requests]
  rw [length]
  cases requestAt : (requestsOf (onConn connIndex events))[position]? with
  | none =>
      rw [List.getElem?_eq_none
        (by simpa using List.getElem?_eq_none_iff.mp requestAt)]
      rfl
  | some request =>
      have within := (List.getElem?_eq_some_iff.mp requestAt).1
      rw [List.getElem?_range within, Option.map_some, Option.map_some,
        Exchange.logRow_tables connIndex (by rw [requests]; exact requestAt),
        filled.lookup]

namespace FeaturesRequest

/-- In every run of a tenant with emulated switches, the requests of a
connection are those answered, those whose reply is on its way, and those on
their way to the switch, in this order: as long as no connection closes none is
lost, answered twice or overtaken, whatever else is exchanged. -/
theorem run_conserves {ofVersion : Int} {tenantId : Nat} {steps : List Step}
    {final : Bench} (result : run ofVersion tenantId steps = some final)
    {index connIndex : Nat} {link : Link}
    (present : final.links[index]? = some link)
    (established : link.listIndex = some connIndex) :
    issued (onConn connIndex final.events) =
      answered (onConn connIndex final.events) ++ link.replied ++
        link.asked := by
  have consistent := run_consistent result
  have sound := consistent.sound index link present
  exact (sound.running connIndex established).conserved

theorem Consistent.inOrderRun {tenantId : Nat} {bench : Bench}
    (consistent : Consistent tenantId bench)
    (within : WithinBlocks bench.events) {index connIndex : Nat} {link : Link}
    (present : bench.links[index]? = some link)
    (established : link.listIndex = some connIndex)
    (nonempty : requestsOf (onConn connIndex bench.events) ≠ []) :
    InOrderRun (xidBase connIndex) (onConn connIndex bench.events) := by
  obtain ⟨connected, byLoop, answers⟩ := consistent.measured
  obtain ⟨short, fits⟩ := within connIndex nonempty
  have numbered := sent_numbered connected byLoop fits
  have conserved := ((consistent.sound index link present).running connIndex
    established).conserved
  refine ⟨inOrder_of_xids numbered (answersIssued_onConn answers connIndex) ?_,
    fits, by omega⟩
  intro position xid found
  have sameAt : (issued (onConn connIndex bench.events))[position]? =
      some xid := by
    obtain ⟨inside, _⟩ := List.getElem?_eq_some_iff.mp found
    rw [conserved, List.append_assoc, List.getElem?_append_left inside]
    exact found
  rw [issued, List.getElem?_map] at sameAt
  obtain ⟨request, requestAt, rfl⟩ := Option.map_eq_some_iff.mp sameAt
  exact requestsOf_xid numbered position request requestAt

/-- While the connections keep to their blocks of xids, no response is missing
and the rows of the logfile show them in the order of the requests, the first
row included. -/
theorem run_logs {ofVersion : Int} {tenantId : Nat} {steps : List Step}
    {final : Bench} (result : run ofVersion tenantId steps = some final)
    (within : WithinBlocks final.events) {index connIndex : Nat} {link : Link}
    (present : final.links[index]? = some link)
    (established : link.listIndex = some connIndex)
    (nonempty : requestsOf (onConn connIndex final.events) ≠ []) :
    ∃ tables,
      (Counter.initial.run final.events).conns[connIndex]? = some tables ∧
      tables.missingResponses = 0 ∧
      tables.responses =
        (responsesOf (onConn connIndex final.events)).length ∧
      (writeLogfile (Counter.initial.run final.events)).filter
          (fun row => row.connIndex == connIndex) =
        (requestsOf (onConn connIndex final.events)).mapIdx
          (fun position request => LogRow.of connIndex request
            (responsesOf (onConn connIndex final.events))[position]?) := by
  have consistent := run_consistent result
  apply logged_inOrder consistent.measured.connected
  · exact consistent.numbered index link connIndex present established
  · exact consistent.inOrderRun within present established nonempty

/-- A handshake, and two requests of which the first is answered. -/
def sampleSteps : List Step :=
  [.connect, .toSwitch 0, .toController 0 0 zeroPastEnd, .toSwitch 0,
    .toController 0 0 zeroPastEnd, .send 0 1, .send 0 2, .toSwitch 0,
    .toController 0 3 zeroPastEnd]

theorem sampleSteps_isSome : (run 13 1 sampleSteps).isSome = true := rfl

def sampleFinal : Bench := (run 13 1 sampleSteps).get sampleSteps_isSome

theorem sampleSteps_run : run 13 1 sampleSteps = some sampleFinal :=
  (Option.some_get sampleSteps_isSome).symm

def sampleLink : Link := sampleFinal.links[0]?.getD (Link.start 13)

theorem sampleLink_present : sampleFinal.links[0]? = some sampleLink := rfl

theorem sampleLink_established : sampleLink.listIndex = some 0 := rfl

def sampleMessage (xid : Nat) (time : ℚ) (bytes msgType : Nat) : Message :=
  { xid
    time
    bytes
    msgType }

theorem sampleFinal_events :
    sampleFinal.events =
      [.established 0, .request 0 (sampleMessage 1 1 8 5),
        .request 0 (sampleMessage 2 2 8 5),
        .response 0 (sampleMessage 1 3 128 6) zeroPastEnd] := rfl

theorem sampleFinal_within : WithinBlocks sampleFinal.events := by
  intro connIndex nonempty
  by_cases first : connIndex = 0
  · subst first
    exact ⟨by decide, by decide⟩
  · have different : 0 ≠ connIndex := Ne.symm first
    have nothing : requestsOf (onConn connIndex sampleFinal.events) = [] := by
      simp [sampleFinal_events, onConn_cons, Event.onConn, different]
    exact absurd nothing nonempty

theorem run_conserves_sample :
    issued (onConn 0 sampleFinal.events) =
      answered (onConn 0 sampleFinal.events) ++ sampleLink.replied ++
        sampleLink.asked :=
  run_conserves sampleSteps_run sampleLink_present sampleLink_established

theorem run_logs_sample :
    ∃ tables, (Counter.initial.run sampleFinal.events).conns[0]? =
        some tables ∧
      tables.missingResponses = 0 ∧
      tables.responses = (responsesOf (onConn 0 sampleFinal.events)).length ∧
      (writeLogfile (Counter.initial.run sampleFinal.events)).filter
          (fun row => row.connIndex == 0) =
        (requestsOf (onConn 0 sampleFinal.events)).mapIdx
          (fun position request => LogRow.of 0 request
            (responsesOf (onConn 0 sampleFinal.events))[position]?) :=
  run_logs sampleSteps_run sampleFinal_within sampleLink_present
    sampleLink_established (List.ne_nil_of_length_pos (by decide))

end FeaturesRequest

end Perfbench
