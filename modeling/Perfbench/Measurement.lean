import Mathlib.Data.List.Find
import Mathlib.Data.List.Nodup
import Perfbench.Logfile
import Perfbench.SendLoop

/-!
# What a run measures

When the requests come from the send loop and the responses answer requests of
the connection they come back to, every connection has a run as the counter's
results assume it, and the rows of the logfile show the responses.
-/

namespace Perfbench

/-- Connection and message of a response. -/
def Event.returned : Event → Option (Nat × Message)
  | .response connIndex msg _ => some (connIndex, msg)
  | _ => none

/-- The responses of all connections, in order of arrival. -/
def returnedTo (events : List Event) : List (Nat × Message) :=
  events.filterMap Event.returned

/-- A response answers a request of its connection. -/
def AnswersSent (past : List Event) : Event → Prop
  | .established _ => True
  | .request _ _ => True
  | .response connIndex msg _ => msg.xid ∈ issued (onConn connIndex past)
  | .newInterval _ => True

theorem returnedTo_snoc (past : List Event) (event : Event) :
    returnedTo (past ++ [event]) =
      returnedTo past ++ event.returned.toList := by
  rw [returnedTo, List.filterMap_append, ← returnedTo]
  congr 1

theorem responsesOf_onConn (connIndex : Nat) (events : List Event) :
    responsesOf (onConn connIndex events) =
      ((returnedTo events).filter (fun entry => entry.1 == connIndex)).map
        Prod.snd := by
  induction events with
  | nil => rfl
  | cons event events induction =>
      have split : returnedTo (event :: events) =
          event.returned.toList ++ returnedTo events :=
        filterMap_cons_toList _ event events
      rw [onConn_cons, responsesOf_append, induction, split]
      cases event with
      | established connId => rfl
      | request index msg =>
          by_cases same : index = connIndex
          · simp [Event.onConn, Event.returned, same]
          · simp [Event.onConn, Event.returned, same]
      | newInterval now => rfl
      | response index msg pastEnd =>
          by_cases same : index = connIndex
          · simp [Event.onConn, Event.returned, same]
          · simp [Event.onConn, Event.returned, same]

theorem established_of_issued {events : List Event} {connIndex xid : Nat}
    (connected : History.Admissible OnEstablished events)
    (requested : xid ∈ issued (onConn connIndex events)) :
    connIndex < connections events := by
  by_contra outside
  have nothing : onConn connIndex events = [] :=
    Counter.onConn_of_connections_le connected (Nat.not_lt.mp outside)
  rw [nothing] at requested
  exact absurd requested List.not_mem_nil

/-- A request is answered at most once when the xids returned are distinct. -/
theorem answersOnce_iff (events : List ConnEvent) :
    History.Admissible AnswersOnce events ↔ (answered events).Nodup := by
  induction events using List.reverseRecOn with
  | nil => simp [History.admissible_nil, answered]
  | append_singleton past event induction =>
      rw [History.admissible_snoc, induction, answered_append]
      cases event with
      | request msg => simp [AnswersOnce, answered]
      | response msg pastEnd =>
          have single : answered [.response msg pastEnd] = [msg.xid] := rfl
          have last : AnswersOnce past (.response msg pastEnd) ↔
              msg.xid ∉ answered past := Iff.rfl
          rw [single, last, List.nodup_append]
          simp only [List.nodup_cons, List.not_mem_nil, not_false_iff,
            List.nodup_nil, true_and, and_true, List.mem_singleton]
          constructor
          · intro both
            refine ⟨both.1, ?_⟩
            intro xid member other otherEq same
            exact both.2 (otherEq ▸ same ▸ member)
          · intro both
            exact ⟨both.1, fun member => both.2 _ member _ rfl rfl⟩

theorem answersIssued_onConn {events : List Event}
    (answers : History.Admissible AnswersSent events) (connIndex : Nat) :
    History.Admissible AnswersIssued (onConn connIndex events) := by
  apply answers.filterMap
  intro past event seen allowed same
  cases event with
  | established connId => simp [Event.onConn] at same
  | newInterval now => simp [Event.onConn] at same
  | request index msg =>
      simp only [Event.onConn, Option.ite_none_right_eq_some,
        Option.some.injEq] at same
      rw [← same.2]
      trivial
  | response index msg pastEnd =>
      simp only [Event.onConn, Option.ite_none_right_eq_some,
        Option.some.injEq] at same
      rw [← same.2, ← same.1]
      exact allowed

/-- The responses of a connection read none of the xids past the tables. -/
def ConnEvent.ReadsNo (xids : List Nat) : ConnEvent → Prop
  | .request _ => True
  | .response _ pastEnd => ∀ position, pastEnd.xids position ∉ xids

theorem readsNoXid_of_readsNo {xids : List Nat} {events : List ConnEvent}
    (reads : ∀ event ∈ events, ConnEvent.ReadsNo xids event)
    (inside : ∀ xid ∈ issued events, xid ∈ xids) :
    History.Admissible ReadsNoXid events := by
  induction events using List.reverseRecOn with
  | nil => exact History.admissible_nil
  | append_singleton past event induction =>
      have earlier : ∀ xid ∈ issued past, xid ∈ xids := by
        intro xid member
        apply inside
        rw [issued_append]
        exact List.mem_append_left _ member
      refine (History.admissible_snoc past event).mpr ⟨?_, ?_⟩
      · apply induction _ earlier
        intro other member
        exact reads other (List.mem_append_left _ member)
      · cases event with
        | request msg => trivial
        | response msg pastEnd =>
            have last := reads (.response msg pastEnd) (by simp)
            intro position member
            exact last position (earlier _ member)

theorem sentXids_of_issued {events : List Event} {connIndex xid : Nat}
    (requested : xid ∈ issued (onConn connIndex events)) :
    xid ∈ sentXids events := by
  obtain ⟨msg, member, rfl⟩ := List.mem_map.mp requested
  obtain ⟨connEvent, connMember, sent⟩ := List.mem_filterMap.mp member
  obtain ⟨event, eventMember, seen⟩ := List.mem_filterMap.mp connMember
  refine List.mem_filterMap.mpr ⟨event, eventMember, ?_⟩
  cases event with
  | established connId => simp [Event.onConn] at seen
  | newInterval now => simp [Event.onConn] at seen
  | response index response pastEnd =>
      simp only [Event.onConn, Option.ite_none_right_eq_some,
        Option.some.injEq] at seen
      rw [← seen.2] at sent
      simp [ConnEvent.sent] at sent
  | request index request =>
      simp only [Event.onConn, Option.ite_none_right_eq_some,
        Option.some.injEq] at seen
      rw [← seen.2, ConnEvent.sent, Option.some.injEq] at sent
      rw [← sent]
      rfl

def EventsReadNo (xids : List Nat) (events : List Event) : Prop :=
  ∀ connIndex, ∀ event ∈ onConn connIndex events, event.ReadsNo xids

theorem EventsReadNo.snoc {xids : List Nat} {events : List Event}
    {event : Event} (reads : EventsReadNo xids events)
    (last : ∀ connIndex connEvent, event.onConn connIndex = some connEvent →
      connEvent.ReadsNo xids) : EventsReadNo xids (events ++ [event]) := by
  intro connIndex connEvent member
  rw [onConn_append, onConn_singleton, List.mem_append] at member
  rcases member with old | new
  · exact reads connIndex connEvent old
  · exact last connIndex connEvent (by simpa using new)

/-- The rows of a connection, past the first one, show the responses to its
requests, when each is answered at most once. -/
theorem logged_row {events : List Event} {connIndex position : Nat}
    {request : Message}
    (connected : History.Admissible OnEstablished events)
    (run : ConnRun (xidBase connIndex) (onConn connIndex events))
    (once : History.Admissible AnswersOnce (onConn connIndex events))
    (positive : 0 < position)
    (requestAt : (requestsOf (onConn connIndex events))[position]? =
      some request) :
    ((writeLogfile (Counter.initial.run events)).filter
        (fun row => row.connIndex == connIndex))[position]? =
      some (LogRow.of connIndex request
        (responseTo (onConn connIndex events) request.xid)) := by
  have issuedXid : request.xid ∈ issued (onConn connIndex events) :=
    List.mem_map_of_mem (List.mem_of_getElem? requestAt)
  have inside := established_of_issued connected issuedXid
  obtain ⟨connId, present⟩ := Counter.initial_conn connected inside
  rw [(Exchange.refines run).1] at present
  have rows := @logConns_filter 0 connIndex _ _ present
  rw [Nat.zero_add] at rows
  have requests := Exchange.ofRun_requests (xidBase connIndex)
    (onConn connIndex events)
  have within := (List.getElem?_eq_some_iff.mp requestAt).1
  obtain ⟨lookup, _⟩ := Exchange.answers_ofRun run once
  have xid := requestsOf_xid run.numbered position request requestAt
  have sameXid : xidBase connIndex + position + 1 = request.xid := by omega
  have row := @Exchange.logRow_tables _ connId (xidBase connIndex) connIndex
    position request (by rw [requests]; exact requestAt)
  rw [lookup, kept_of_pos _ positive, sameXid] at row
  rw [writeLogfile, rows, logTables, List.getElem?_map,
    List.getElem?_range (by simpa [Exchange.tables, requests] using within),
    Option.map_some, row]

/-- Such runs are runs of the counter on every connection, as long as the
connections keep to their blocks. -/
theorem connRun_of_answersSent {packet : FlowMod} {events : List Event}
    (connected : History.Admissible OnEstablished events)
    (byLoop : History.Admissible (SentByLoop packet) events)
    (answers : History.Admissible AnswersSent events)
    (within : WithinBlocks events)
    (reads : EventsReadNo (sentXids events) events) {connIndex : Nat}
    (nonempty : requestsOf (onConn connIndex events) ≠ []) :
    ConnRun (xidBase connIndex) (onConn connIndex events) := by
  obtain ⟨short, fits⟩ := within connIndex nonempty
  have numbered := sent_numbered connected byLoop fits
  have readsNoXid := readsNoXid_of_readsNo (reads connIndex) (by
    intro xid member
    exact sentXids_of_issued member)
  have answersIssued := answersIssued_onConn answers connIndex
  exact ⟨numbered.and (answersIssued.and readsNoXid), by omega, by omega⟩

end Perfbench
