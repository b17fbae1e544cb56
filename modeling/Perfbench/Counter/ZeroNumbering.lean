import Perfbench.Counter.Arrivals

/-!
# Requests numbered from zero

On the dataplane the requests are numbered from zero, which is also what the
counter takes for the last response before there is one.  It rejects every
response to the first request, and apart from these it treats such a run as
the run in which all xids are raised by one.
-/

namespace Perfbench

def Message.raised (msg : Message) : Message := { msg with xid := msg.xid + 1 }

def PastEnd.raised (pastEnd : PastEnd) : PastEnd :=
  { pastEnd with xids := fun index => pastEnd.xids index + 1 }

/-- The event with its xids raised; responses to the first request are left
out. -/
def ConnEvent.raised : ConnEvent → Option ConnEvent
  | .request msg => some (.request msg.raised)
  | .response msg pastEnd =>
      if msg.xid = 0 then none else some (.response msg.raised pastEnd.raised)

theorem ConnEvent.raised_response {msg : Message} (positive : msg.xid ≠ 0)
    (pastEnd : PastEnd) :
    (ConnEvent.response msg pastEnd).raised =
      some (.response msg.raised pastEnd.raised) :=
  if_neg positive

theorem ConnEvent.raised_cases {event translated : ConnEvent}
    (translation : event.raised = some translated) :
    (∃ msg, event = .request msg ∧ translated = .request msg.raised) ∨
      (∃ msg pastEnd, event = .response msg pastEnd ∧ msg.xid ≠ 0 ∧
        translated = .response msg.raised pastEnd.raised) := by
  cases event with
  | request msg => exact .inl ⟨msg, rfl, (Option.some.inj translation).symm⟩
  | response msg pastEnd =>
      by_cases zero : msg.xid = 0
      · rw [ConnEvent.raised, if_pos zero] at translation
        exact absurd translation (by simp)
      · rw [ConnEvent.raised_response zero] at translation
        exact .inr ⟨msg, pastEnd, rfl, zero, (Option.some.inj translation).symm⟩

def raisedEvents (events : List ConnEvent) : List ConnEvent :=
  events.filterMap ConnEvent.raised

theorem raisedEvents_append (past future : List ConnEvent) :
    raisedEvents (past ++ future) = raisedEvents past ++ raisedEvents future :=
  List.filterMap_append

theorem raisedEvents_cons (event : ConnEvent) (events : List ConnEvent) :
    raisedEvents (event :: events) =
      event.raised.toList ++ raisedEvents events :=
  filterMap_cons_toList _ event events

theorem raisedEvents_singleton (event : ConnEvent) :
    raisedEvents [event] = event.raised.toList := by
  rw [raisedEvents_cons]
  exact List.append_nil _

theorem requestsOf_raisedEvents (events : List ConnEvent) :
    requestsOf (raisedEvents events) =
      (requestsOf events).map Message.raised := by
  induction events with
  | nil => rfl
  | cons event events induction =>
      rw [raisedEvents_cons, requestsOf_append, induction, requestsOf_cons]
      cases event with
      | request msg => rfl
      | response msg pastEnd =>
          rw [ConnEvent.raised]
          split
          · rfl
          · rfl

theorem responsesOf_raisedEvents (events : List ConnEvent) :
    responsesOf (raisedEvents events) =
      ((responsesOf events).filter (fun msg => msg.xid != 0)).map
        Message.raised := by
  induction events with
  | nil => rfl
  | cons event events induction =>
      rw [raisedEvents_cons, responsesOf_append, induction, responsesOf_cons]
      cases event with
      | request msg => rfl
      | response msg pastEnd =>
          rw [ConnEvent.raised]
          split
          · rename_i zero
            simp [ConnEvent.received, zero]
          · rename_i positive
            simp [ConnEvent.received, positive]

theorem mem_issued_raisedEvents (events : List ConnEvent) (xid : Nat) :
    xid + 1 ∈ issued (raisedEvents events) ↔ xid ∈ issued events := by
  simp [issued, requestsOf_raisedEvents, Message.raised]

theorem mem_answered_raisedEvents (events : List ConnEvent) (xid : Nat) :
    xid + 1 ∈ answered (raisedEvents events) ↔
      xid ≠ 0 ∧ xid ∈ answered events := by
  simp only [answered, responsesOf_raisedEvents, List.map_map, List.mem_map,
    List.mem_filter, Function.comp_apply, Message.raised]
  constructor
  · rintro ⟨msg, ⟨member, positive⟩, same⟩
    obtain rfl : msg.xid = xid := by omega
    exact ⟨by simpa using positive, msg, member, rfl⟩
  · rintro ⟨positive, msg, member, rfl⟩
    exact ⟨msg, ⟨member, by simpa using positive⟩, rfl⟩

/-- Raising the xids of a dataplane run gives a run numbered from one. -/
theorem ConsecutiveRun.raised {events : List ConnEvent}
    (run : ConsecutiveRun 0 events) : ConnRun 0 (raisedEvents events) := by
  have requests : (requestsOf (raisedEvents events)).length =
      (requestsOf events).length := by
    rw [requestsOf_raisedEvents, List.length_map]
  have countsFit := run.countsFit
  refine ⟨?_, by omega, by omega⟩
  refine run.steps.filterMap ?_
  rintro past event translated ⟨numbered, answersIssued, readsNoXid⟩ translation
  change ConnStep (0 + 1) (raisedEvents past) translated
  rcases ConnEvent.raised_cases translation with
    ⟨msg, rfl, rfl⟩ | ⟨msg, pastEnd, rfl, _, rfl⟩
  · refine ⟨?_, trivial, trivial⟩
    change msg.xid = _ at numbered
    simp only [Numbered, Message.raised, requestsOf_raisedEvents,
      List.length_map]
    omega
  · refine ⟨trivial, ?_, ?_⟩
    · exact (mem_issued_raisedEvents past msg.xid).mpr answersIssued
    · intro index member
      exact readsNoXid index
        ((mem_issued_raisedEvents past (pastEnd.xids index)).mp member)

namespace ConnTables

/-- Tables with the xids one lower; the zero of a placeholder stays. -/
def lowered (tables : ConnTables) : ConnTables :=
  { tables with
    lastResponseXid := tables.lastResponseXid - 1
    reqXids := tables.reqXids.map (fun xid => xid - 1)
    respXids := tables.respXids.map (fun xid => xid - 1) }

section Search

variable {tables : ConnTables} {pastEnd : PastEnd}

theorem readXid_lowered (requests : ∀ xid ∈ tables.reqXids, 0 < xid)
    (index : Nat) :
    tables.readXid pastEnd.raised index =
      tables.lowered.readXid pastEnd index + 1 := by
  simp only [readXid, lowered, List.getD_eq_getElem?_getD, List.getElem?_map]
  cases read : tables.reqXids[index]? with
  | none => rfl
  | some xid =>
      have positive := requests xid (List.mem_of_getElem? read)
      simp only [Option.map_some, Option.getD_some]
      omega

theorem answersAt_lowered (requests : ∀ xid ∈ tables.reqXids, 0 < xid)
    (respXid : Nat) :
    tables.lowered.answersAt pastEnd respXid =
      tables.answersAt pastEnd.raised (respXid + 1) := by
  funext index
  rw [answersAt, answersAt, readXid_lowered requests, Bool.eq_iff_iff,
    beq_iff_eq, beq_iff_eq, Nat.add_right_cancel_iff]

theorem searchLate_lowered (requests : ∀ xid ∈ tables.reqXids, 0 < xid)
    (respXid : Nat) :
    tables.lowered.searchLate pastEnd respXid =
      tables.searchLate pastEnd.raised (respXid + 1) := by
  rw [searchLate, answersAt_lowered requests]
  rfl

theorem searchSkipped_lowered (requests : ∀ xid ∈ tables.reqXids, 0 < xid)
    (respXid : Nat) :
    tables.lowered.searchSkipped pastEnd respXid =
      tables.searchSkipped pastEnd.raised (respXid + 1) := by
  rw [searchSkipped, answersAt_lowered requests]
  rfl

theorem matchResponse_lowered (requests : ∀ xid ∈ tables.reqXids, 0 < xid)
    {respXid : Nat} (positive : respXid ≠ 0) :
    tables.lowered.matchResponse pastEnd respXid =
      tables.matchResponse pastEnd.raised (respXid + 1) := by
  have same : respXid = tables.lowered.lastResponseXid ↔
      respXid + 1 = tables.lastResponseXid := by
    simp only [lowered]
    omega
  have lower : respXid < tables.lowered.lastResponseXid ↔
      respXid + 1 < tables.lastResponseXid := by
    simp only [lowered]
    omega
  have start : tables.lowered.searchStart = tables.searchStart := rfl
  have ahead : tables.lowered.readXid pastEnd tables.searchStart < respXid ↔
      tables.readXid pastEnd.raised tables.searchStart < respXid + 1 := by
    rw [readXid_lowered requests]
    omega
  have notFound : tables.lowered.notFound = tables.notFound := rfl
  have raisedPositive : respXid + 1 ≠ 0 := by omega
  simp only [matchResponse, same, lower, start, ahead, positive, notFound,
    raisedPositive, searchLate_lowered requests,
    searchSkipped_lowered requests, ne_eq, not_false_eq_true, and_true]

end Search

theorem lowered_pushPlaceholder :
    Function.Semiconj lowered (pushSlot placeholder)
      (pushSlot placeholder) := by
  intro tables
  simp [lowered, pushSlot, placeholder]

theorem lowered_pushResponse (msg : Message) (tables : ConnTables) :
    (tables.pushResponse msg.raised).lowered =
      tables.lowered.pushResponse msg := by
  simp [lowered, pushResponse, pushSlot, Message.raised]

theorem lowered_pushSkipped (skipped : Nat) (tables : ConnTables) :
    (tables.pushSkipped skipped).lowered =
      tables.lowered.pushSkipped skipped := by
  have padded := lowered_pushPlaceholder.iterate_right skipped tables
  simp only [pushSkipped, ← padded]
  rfl

theorem lowered_answer (msg : Message) (tables : ConnTables)
    (matched : Matched) :
    (tables.answer msg.raised matched).lowered =
      tables.lowered.answer msg matched := by
  cases matched with
  | rejected => rfl
  | unending => rfl
  | late index =>
      simp [answer, fillSlot, lowered, Message.raised, List.map_set]
  | inOrder index => exact lowered_pushResponse msg tables
  | skipping index skipped =>
      rw [answer, lowered_pushResponse, lowered_pushSkipped]
      rfl

theorem lowered_pushRequest (msg : Message) (tables : ConnTables) :
    (tables.pushRequest msg.raised).lowered =
      tables.lowered.pushRequest msg := by
  simp [lowered, pushRequest, Message.raised]

end ConnTables

namespace Exchange

variable {connId : Int}

theorem tables_positive (events : List ConnEvent) :
    ∀ xid ∈ ((ofRun 0 (raisedEvents events)).tables connId 0).reqXids,
      0 < xid := by
  intro xid member
  simp only [tables, ofRun_requests, requestsOf_raisedEvents, List.map_map,
    List.mem_map] at member
  obtain ⟨msg, _, rfl⟩ := member
  exact Nat.succ_pos msg.xid

/-- A response to the request numbered zero is rejected in every state. -/
theorem matchResponse_zero {exchange : Exchange} {pastEnd : PastEnd}
    (aligned : Aligned 0 exchange)
    (requests : ∀ xid ∈ (exchange.tables connId 0).reqXids, 0 < xid)
    (readsNoXid : ∀ index, pastEnd.xids index ≠ 0) :
    (exchange.tables connId 0).lowered.matchResponse pastEnd 0 =
      .rejected := by
  rcases Nat.lt_or_ge 1 exchange.answers.length with several | atMostOne
  · have last : (exchange.tables connId 0).lowered.lastResponseXid =
        exchange.answers.length - 1 := by
      have nonempty : exchange.answers.length ≠ 0 := by omega
      simp [ConnTables.lowered, tables, nonempty]
    have search := @Aligned.searchLate 0 exchange connId pastEnd.raised 0
      aligned several (by
        intro index same
        simp only [PastEnd.raised] at same
        exact readsNoXid index (by omega))
    rw [ConnTables.matchResponse, last, if_neg (by omega), if_pos (by omega),
      ConnTables.searchLate_lowered requests, search, if_pos rfl]
  · have last : (exchange.tables connId 0).lowered.lastResponseXid = 0 := by
      simp only [ConnTables.lowered, tables]
      split
      · rfl
      · omega
    rw [ConnTables.matchResponse, last, if_pos rfl]

/-- A run numbered from zero leaves the tables of the raised run, lowered
again. -/
theorem run_lowered {events : List ConnEvent} (run : ConsecutiveRun 0 events) :
    (ConnTables.fresh connId).run events =
      ((ofRun 0 (raisedEvents events)).tables connId 0).lowered := by
  refine run.invariant ?_ ?_
  · intro _
    rfl
  · intro past event run allowed induction
    obtain ⟨_, answersIssued, readsNoXid⟩ := allowed
    have pastRaised := run.past.raised
    have raised := run.raised
    have shows := (@refines 0 connId _ pastRaised).1
    rw [← (refines raised).1, ConnTables.run_snoc, induction,
      raisedEvents_append, ConnTables.run_append, shows,
      raisedEvents_singleton]
    cases event with
    | request msg => exact (ConnTables.lowered_pushRequest msg _).symm
    | response msg pastEnd =>
        obtain ⟨_, aligned⟩ := @refines 0 connId _ pastRaised
        have positive := @tables_positive connId past
        rw [ConnTables.step, ConnTables.respond]
        by_cases zero : msg.xid = 0
        · have dropped : (ConnEvent.response msg pastEnd).raised = none :=
            if_pos zero
          rw [dropped, zero, matchResponse_zero aligned positive]
          · rfl
          · intro index same
            apply readsNoXid index
            rw [same, ← zero]
            exact answersIssued
        · rw [ConnEvent.raised_response zero,
            ConnTables.matchResponse_lowered positive zero,
            ← ConnTables.lowered_answer]
          rfl

/-- Past the first request the branch of a response is that of the raised
run. -/
theorem matchResponse_raised {past : List ConnEvent} {msg : Message}
    {pastEnd : PastEnd} (run : ConsecutiveRun 0 past)
    (answersIssued : msg.xid ∈ issued past)
    (readsNoXid : ∀ index, pastEnd.xids index ∉ issued past) :
    ((ConnTables.fresh connId).run past).matchResponse pastEnd msg.xid =
      if msg.xid = 0 then .rejected
      else (ofRun 0 (raisedEvents past)).matched msg.xid := by
  have raised := run.raised
  obtain ⟨_, aligned⟩ := @refines 0 connId _ raised
  have positive := @tables_positive connId past
  rw [run_lowered run]
  by_cases zero : msg.xid = 0
  · rw [if_pos zero, zero]
    apply matchResponse_zero aligned positive
    intro other same
    exact readsNoXid other (same ▸ zero ▸ answersIssued)
  · rw [if_neg zero, ConnTables.matchResponse_lowered positive zero]
    exact @matchResponse_ofRun 0 connId msg.raised _ pastEnd.raised aligned
      raised.numbered ((mem_issued_raisedEvents past msg.xid).mpr answersIssued)
      (fun other member => readsNoXid other
        ((mem_issued_raisedEvents past (pastEnd.xids other)).mp member))

theorem lookup_zero_raised {events : List ConnEvent}
    (run : ConsecutiveRun 0 events) :
    (ofRun 0 (raisedEvents events)).answers.lookup 0 = none := by
  by_contra filled
  have member := answered_of_filled run.raised filled
  have positive := (mem_answered_raisedEvents events 0).mp member
  exact positive.1 rfl

/-- The exchange of a consecutively numbered run. -/
def ofConsecutive (first : Nat) (events : List ConnEvent) : Exchange :=
  match first with
  | 0 => ofRun 0 (raisedEvents events)
  | base + 1 => ofRun base events

theorem index_matchResponse {first : Nat} {past : List ConnEvent}
    {msg : Message} {pastEnd : PastEnd} {index : Nat}
    (run : ConsecutiveRun first past) (answersIssued : msg.xid ∈ issued past)
    (readsNoXid : ∀ index, pastEnd.xids index ∉ issued past)
    (accepted : (((ConnTables.fresh connId).run past).matchResponse pastEnd
      msg.xid).index = some index) :
    msg.xid = first + index := by
  cases first with
  | zero =>
      rw [matchResponse_raised run answersIssued readsNoXid] at accepted
      split at accepted
      · exact absurd accepted (by simp [Matched.index])
      · rw [matched_index accepted, Nat.zero_add]
  | succ base =>
      obtain ⟨shows, aligned⟩ := @refines base connId past run
      obtain ⟨_, xid⟩ := issued_position run.numbered answersIssued
      rw [shows, matchResponse_ofRun aligned run.numbered answersIssued
        readsNoXid] at accepted
      rw [matched_index accepted, Nat.add_right_comm]
      exact xid

theorem count_shown {answers : GapTable Message} {shownXid : Message → Nat}
    (placeholderXid : shownXid ConnTables.placeholder = 0)
    (recordedXid : ∀ position msg, answers.lookup position = some msg →
      shownXid msg ≠ 0) :
    (answers.slots.map (fun slot => shownXid (shown slot))).count 0 =
      answers.gaps := by
  simp only [List.count, List.countP_map, GapTable.gaps]
  apply List.countP_congr
  intro slot member
  cases slot with
  | none => simp [shown, placeholderXid]
  | some msg =>
      obtain ⟨position, found⟩ := GapTable.lookup_of_mem member
      have recorded := recordedXid position msg found
      simp [shown, recorded]

/-- What the tables count is what the exchange does, whatever the numbering
starts from. -/
theorem counts_ofConsecutive {first : Nat} {events : List ConnEvent}
    (run : ConsecutiveRun first events) :
    ((ConnTables.fresh connId).run events).responses =
        (ofConsecutive first events).answers.length ∧
      ((ConnTables.fresh connId).run events).missingResponses =
        (ofConsecutive first events).missing ∧
      ((ConnTables.fresh connId).run events).respXids.length =
        (ofConsecutive first events).answers.length ∧
      ((ConnTables.fresh connId).run events).respXids.count 0 =
        (ofConsecutive first events).answers.gaps := by
  cases first with
  | zero =>
      obtain ⟨_, aligned⟩ := @refines 0 connId _ run.raised
      have firstEmpty := lookup_zero_raised run
      rw [run_lowered run, ofConsecutive]
      refine ⟨rfl, rfl, by simp [ConnTables.lowered, tables, GapTable.length],
        ?_⟩
      simp only [ConnTables.lowered, tables, List.map_map]
      apply @count_shown _ (fun msg => msg.xid - 1) rfl
      intro position msg found
      have xid := aligned.answerXid position msg found
      have positive : position ≠ 0 := by
        rintro rfl
        rw [firstEmpty] at found
        exact absurd found (by simp)
      omega
  | succ base =>
      obtain ⟨shows, aligned⟩ := @refines base connId events run
      rw [shows, ofConsecutive]
      refine ⟨rfl, rfl, by simp [tables, GapTable.length], ?_⟩
      apply count_shown rfl
      intro position msg found
      have xid := aligned.answerXid position msg found
      omega

end Exchange

end Perfbench
