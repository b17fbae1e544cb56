import Mathlib.Algebra.Order.Ring.Rat
import Perfbench.Counter.Connections
import Perfbench.Counter.ZeroNumbering

/-!
# Latency accounting

The interval statistics count the responses recorded since the last
`newInterval`, and add up how long after its request each of them arrived.
-/

namespace Perfbench

/-- A response that `count_response` records, and its connection. -/
structure Accepted where
  connIndex : Nat
  msg : Message

namespace Counter

def acceptedStep (counter : Counter) (accepted : List Accepted) :
    Event → List Accepted
  | .established _ => accepted
  | .request _ _ => accepted
  | .response connIndex msg pastEnd =>
      if counter.accepts pastEnd msg connIndex then
        accepted ++ [{ connIndex, msg }]
      else accepted
  | .newInterval _ => []

/-- The responses accepted since the last new interval, after `accepted`. -/
def acceptedFrom (counter : Counter) (accepted : List Accepted) :
    List Event → List Accepted
  | [] => accepted
  | event :: future =>
      acceptedFrom (counter.step event) (counter.acceptedStep accepted event)
        future

theorem acceptedFrom_snoc (counter : Counter) (accepted : List Accepted)
    (past : List Event) (event : Event) :
    counter.acceptedFrom accepted (past ++ [event]) =
      (counter.run past).acceptedStep (counter.acceptedFrom accepted past)
        event := by
  induction past generalizing counter accepted with
  | nil => rfl
  | cons first past induction => exact induction _ _

end Counter

/-- The responses a run from the start accepts since its last new interval. -/
def acceptedSince (events : List Event) : List Accepted :=
  Counter.initial.acceptedFrom [] events

theorem acceptedSince_snoc (past : List Event) (event : Event) :
    acceptedSince (past ++ [event]) =
      (Counter.initial.run past).acceptedStep (acceptedSince past) event :=
  Counter.acceptedFrom_snoc Counter.initial [] past event

/-- When the request with an xid was sent. -/
def sentAt (events : List ConnEvent) (xid : Nat) : ℚ :=
  ((requestsOf events).find? (fun request => request.xid == xid)).elim 0
    Message.time

/-- From the sending of its request to the arrival of the response. -/
def Accepted.latency (events : List Event) (accepted : Accepted) : ℚ :=
  accepted.msg.time -
    sentAt (onConn accepted.connIndex events) accepted.msg.xid

theorem sentAt_append {past : List ConnEvent} (future : List ConnEvent)
    {xid : Nat} (member : xid ∈ issued past) :
    sentAt (past ++ future) xid = sentAt past xid := by
  obtain ⟨request, requestMember, rfl⟩ := List.mem_map.mp member
  have found : ((requestsOf past).find?
      (fun other => other.xid == request.xid)).isSome := by
    rw [List.find?_isSome]
    exact ⟨request, requestMember, by simp⟩
  obtain ⟨first, firstEq⟩ := Option.isSome_iff_exists.mp found
  simp [sentAt, List.find?_append, firstEq]

theorem sentAt_position {first position : Nat} {events : List ConnEvent}
    (numbered : History.Admissible (Numbered first) events) {request : Message}
    (requestAt : (requestsOf events)[position]? = some request) :
    sentAt events (first + position) = request.time := by
  have xid := requestsOf_xid numbered position request requestAt
  have member : request ∈ requestsOf events :=
    List.mem_of_getElem? requestAt
  cases found : (requestsOf events).find?
      (fun other => other.xid == first + position) with
  | none =>
      rw [List.find?_eq_none] at found
      exact absurd xid (by simpa using found request member)
  | some named =>
      have namedXid : named.xid = first + position := by
        simpa using List.find?_some found
      obtain ⟨other, inside, otherEq⟩ :=
        List.getElem_of_mem (List.mem_of_find?_eq_some found)
      have otherAt : (requestsOf events)[other]? = some named := by
        rw [List.getElem?_eq_getElem inside, otherEq]
      have otherXid := requestsOf_xid numbered other named otherAt
      have same : other = position := by omega
      subst same
      rw [requestAt, Option.some.injEq] at otherAt
      simp [sentAt, found, otherAt]

namespace Exchange

theorem readTime_sentAt {first : Nat} {connId : Int} {past : List ConnEvent}
    {msg : Message} {pastEnd : PastEnd} {index : Nat}
    (run : ConsecutiveRun first past) (answersIssued : msg.xid ∈ issued past)
    (readsNoXid : ∀ index, pastEnd.xids index ∉ issued past)
    (accepted : (((ConnTables.fresh connId).run past).matchResponse pastEnd
      msg.xid).index = some index) :
    ((ConnTables.fresh connId).run past).readTime pastEnd index =
      sentAt past msg.xid := by
  have xid := index_matchResponse run answersIssued readsNoXid accepted
  obtain ⟨target, inside, targetXid⟩ :=
    (mem_issued_iff run.numbered msg.xid).mp answersIssued
  obtain rfl : target = index := by omega
  have requestAt := List.getElem?_eq_getElem inside
  have times := (ConnTables.run_reqs (ConnTables.fresh connId) past).2
  rw [xid, sentAt_position run.numbered requestAt, ConnTables.readTime, times]
  simp [ConnTables.fresh, inside]

end Exchange

/-- What the interval statistics are after a run; the responses accepted are
among those to issued requests. -/
structure Accounted (events : List Event) : Prop where
  responses : (Counter.initial.run events).intervalResponses =
    int32 (acceptedSince events).length
  latencySum : (Counter.initial.run events).intervalLatencySum =
    ((acceptedSince events).map (Accepted.latency events)).sum
  ofRequests : ∀ accepted ∈ acceptedSince events,
    accepted.msg.xid ∈ issued (onConn accepted.connIndex events)

/-- A longer run keeps the latencies of the responses accepted before. -/
theorem Accounted.latency_append {past : List Event}
    (accounted : Accounted past) (future : List Event) :
    (acceptedSince past).map (Accepted.latency (past ++ future)) =
      (acceptedSince past).map (Accepted.latency past) := by
  apply List.map_congr_left
  intro accepted member
  rw [Accepted.latency, Accepted.latency, onConn_append,
    sentAt_append _ (accounted.ofRequests accepted member)]

theorem Accounted.ofRequests_append {past : List Event}
    (accounted : Accounted past) (future : List Event) :
    ∀ accepted ∈ acceptedSince past,
      accepted.msg.xid ∈
        issued (onConn accepted.connIndex (past ++ future)) := by
  intro accepted member
  rw [onConn_append, issued_append, List.mem_append]
  exact .inl (accounted.ofRequests accepted member)

/-- Events that leave the interval statistics alone keep them accounted. -/
theorem Accounted.keep {past : List Event} (accounted : Accounted past)
    {event : Event}
    (accepted : acceptedSince (past ++ [event]) = acceptedSince past)
    (responses : (Counter.initial.run (past ++ [event])).intervalResponses =
      (Counter.initial.run past).intervalResponses)
    (latencySum : (Counter.initial.run (past ++ [event])).intervalLatencySum =
      (Counter.initial.run past).intervalLatencySum) :
    Accounted (past ++ [event]) := by
  refine ⟨?_, ?_, ?_⟩
  · rw [responses, accepted]
    exact accounted.responses
  · rw [latencySum, accepted, accounted.latency_append]
    exact accounted.latencySum
  · rw [accepted]
    exact accounted.ofRequests_append [event]

theorem Accounted.response {past : List Event} (accounted : Accounted past)
    {first connIndex : Nat} {msg : Message} {pastEnd : PastEnd}
    (connected : History.Admissible OnEstablished past)
    (inside : connIndex < connections past)
    (run : ConsecutiveRun first (onConn connIndex past))
    (answersIssued : msg.xid ∈ issued (onConn connIndex past))
    (readsNoXid : ∀ index,
      pastEnd.xids index ∉ issued (onConn connIndex past)) :
    Accounted (past ++ [.response connIndex msg pastEnd]) := by
  obtain ⟨connId, present⟩ := Counter.initial_conn connected inside
  have accepted := acceptedSince_snoc past (.response connIndex msg pastEnd)
  rw [Counter.acceptedStep, Counter.accepts, present] at accepted
  cases index : (((ConnTables.fresh connId).run
      (onConn connIndex past)).matchResponse pastEnd msg.xid).index with
  | none =>
      have same : Counter.initial.run
          (past ++ [.response connIndex msg pastEnd]) =
            Counter.initial.run past := by
        rw [Counter.run_snoc]
        simp [Counter.step, Counter.countResponse, present, index]
      apply accounted.keep
      · simpa [index] using accepted
      · rw [same]
      · rw [same]
  | some reqSearchIndex =>
      have latency :=
        Exchange.readTime_sentAt run answersIssued readsNoXid index
      have sent := sentAt_append (onConn connIndex
        [.response connIndex msg pastEnd]) answersIssued
      have nowAccepted :
          acceptedSince (past ++ [.response connIndex msg pastEnd]) =
            acceptedSince past ++ [⟨connIndex, msg⟩] := by
        simpa [index] using accepted
      refine ⟨?_, ?_, ?_⟩
      · rw [Counter.run_snoc, nowAccepted, List.length_append]
        simp [Counter.step, Counter.countResponse, present, index,
          accounted.responses, int32_succ]
      · rw [Counter.run_snoc, nowAccepted, List.map_append, List.sum_append,
          accounted.latency_append, ← accounted.latencySum]
        simp [Counter.step, Counter.countResponse, present, index, latency,
          Accepted.latency, onConn_append, sent]
      · intro other member
        rw [nowAccepted, List.mem_append, List.mem_singleton] at member
        rcases member with old | rfl
        · exact accounted.ofRequests_append _ other old
        · rw [onConn_append, issued_append, List.mem_append]
          exact .inl answersIssued

theorem accounted_run {firstXid : Nat → Nat} {events : List Event}
    (connected : History.Admissible OnEstablished events)
    (runs : ∀ connIndex, onConn connIndex events ≠ [] →
      ConsecutiveRun (firstXid connIndex) (onConn connIndex events)) :
    Accounted events := by
  revert runs
  refine connected.invariant ?_ ?_
  · intro _
    exact ⟨rfl, rfl, fun _ member => by simp [acceptedSince,
      Counter.acceptedFrom] at member⟩
  · intro past event pastConnected onEstablished induction runs
    have pastRuns : ∀ connIndex, onConn connIndex past ≠ [] →
        ConsecutiveRun (firstXid connIndex) (onConn connIndex past) := by
      intro connIndex nonempty
      have run := runs connIndex (by simp [onConn_append, nonempty])
      rw [onConn_append] at run
      exact run.past
    have accounted : Accounted past := induction pastRuns
    have accepted := acceptedSince_snoc past event
    cases event with
    | established connId =>
        apply accounted.keep accepted
        · rw [Counter.run_snoc]
          rfl
        · rw [Counter.run_snoc]
          rfl
    | request connIndex msg =>
        apply accounted.keep accepted
        · rw [Counter.run_snoc]
          rfl
        · rw [Counter.run_snoc]
          rfl
    | newInterval now =>
        have none : acceptedSince (past ++ [.newInterval now]) = [] := accepted
        refine ⟨?_, ?_, ?_⟩
        · rw [Counter.run_snoc, none]
          rfl
        · rw [Counter.run_snoc, none]
          rfl
        · simp [none]
    | response connIndex msg pastEnd =>
        have seen : onConn connIndex
            (past ++ [.response connIndex msg pastEnd]) =
              onConn connIndex past ++ [.response msg pastEnd] := by
          simp [onConn_append, onConn_cons, Event.onConn]
        have run := runs connIndex (by simp [seen])
        rw [seen] at run
        obtain ⟨_, answersIssued, readsNoXid⟩ := run.steps.event_allowed
        exact accounted.response pastConnected onEstablished run.past
          answersIssued readsNoXid

/-- After every run the interval counts the responses accepted in it, and its
latency sum is that of each response and its own request. -/
theorem interval_latency {firstXid : Nat → Nat} {events : List Event}
    (connected : History.Admissible OnEstablished events)
    (runs : ∀ connIndex, onConn connIndex events ≠ [] →
      ConsecutiveRun (firstXid connIndex) (onConn connIndex events))
    (fits : (acceptedSince events).length < 2 ^ 31) :
    (Counter.initial.run events).intervalResponses =
        (acceptedSince events).length ∧
      (Counter.initial.run events).intervalLatencySum =
        ((acceptedSince events).map (Accepted.latency events)).sum := by
  have accounted := accounted_run connected runs
  refine ⟨?_, accounted.latencySum⟩
  rw [accounted.responses]
  exact int32_of_bounds (by omega) (by omega)

/-- Two connections, with a reply in the first interval and two in the
second. -/
def twoIntervals : List Event :=
  [.established 7, .established 8, ask 0 0 1, ask 0 1 2, ask 1 0 2,
    reply 1 0 3, .newInterval 4, ask 0 2 5, reply 0 2 6, reply 0 1 7]

theorem twoIntervals_runs (connIndex : Nat)
    (nonempty : onConn connIndex twoIntervals ≠ []) :
    ConnRun (xidBase connIndex) (onConn connIndex twoIntervals) := by
  rcases connIndex with - | - | other
  · refine ConsecutiveRun.of_zeroPastEnd (by decide) ?_ (by decide) (by decide)
      (by decide) (by decide)
    simp [twoIntervals, onConn_cons, Event.onConn, ask, reply,
      ConnEvent.ZeroPastEnd]
  · refine ConsecutiveRun.of_zeroPastEnd (by decide) ?_ (by decide) (by decide)
      (by decide) (by decide)
    simp [twoIntervals, onConn_cons, Event.onConn, ask, reply,
      ConnEvent.ZeroPastEnd]
  · exact absurd rfl nonempty

theorem interval_latency_twoIntervals :
    (Counter.initial.run twoIntervals).intervalResponses =
        (acceptedSince twoIntervals).length ∧
      (Counter.initial.run twoIntervals).intervalLatencySum =
        ((acceptedSince twoIntervals).map
          (Accepted.latency twoIntervals)).sum :=
  interval_latency (by decide) twoIntervals_runs (by decide)

end Perfbench
