import Perfbench.Connection.EchoRun
import Perfbench.Counter.StrayResponse

/-!
# The liveness check and the measurement

What is measured is the same without the liveness check exactly when its
replies end in the early returns of `count_response` and no connection is
closed for want of one.
-/

namespace Perfbench

/-- The tables of all the connections, the loss counter and the latency total;
and whether the measurement goes on, by the controller's thread and at all. -/
structure Measurement where
  conns : List ConnTables
  intervalLosses : Int
  intervalLatencySum : ℚ
  stuck : Bool
  finished : Bool
  deriving DecidableEq

def Counting.measurement (counting : Counting) : Measurement :=
  { conns := counting.counter.conns
    intervalLosses := counting.counter.intervalLosses
    intervalLatencySum := counting.counter.intervalLatencySum
    stuck := counting.stuck
    finished := counting.finished }

def counted (calls : List CounterCall) : Counting :=
  Removal.run Counting.call Counting.start calls

/-- At every point of the run, the run without the liveness check has made the
same other calls, has measured the same, and goes on the same. -/
def LivenessUnobserved (ofsc : OFServerSettings) (tenant : EchoTenant)
    (events : List EchoEvent) : Prop :=
  ∀ first second, tenant.calls ofsc events = first ++ second →
    Removal.rest CounterCall.isLiveness first <+:
        tenant.calls ofsc (Removal.rest EchoEvent.isLiveness events) ∧
      (counted first).measurement =
        (counted (Removal.rest CounterCall.isLiveness first)).measurement

/-- A response ends in an early return: it repeats the last one; or its xid is
lower and none of the requests before is its request; or its xid is higher than
that of the next request, a request was counted, and none of the requests from
there is. -/
def Ignored (pastEnd : PastEnd) (tables : ConnTables) (xid : Nat) : Prop :=
  xid = tables.lastResponseXid ∨
    (xid < tables.lastResponseXid ∧
      ∀ index, Walked tables.searchStart index →
        tables.readXid pastEnd index ≠ xid) ∨
    (tables.lastResponseXid < xid ∧
      tables.readXid pastEnd tables.searchStart < xid ∧
      tables.lastRequestIndex ≠ 2 ^ 32 - 1 ∧
      ∀ k < 2 ^ 32,
        (∀ j < k, (tables.searchStart + j + 1) % 2 ^ 32 ≤
          tables.lastRequestIndex) →
        tables.readXid pastEnd ((tables.searchStart + k) % 2 ^ 32) ≠ xid)

/-- As long as the measurement goes on, the counter ignores every liveness
reply that it is called for. -/
def LivenessIgnored (calls : List CounterCall) : Prop :=
  History.Admissible
    (fun past call => (counted past).Going → ∀ connIndex msg pastEnd,
      call = .liveness connIndex msg pastEnd →
        ∀ tables, (counted past).counter.conns[connIndex]? = some tables →
          Ignored pastEnd tables msg.xid)
    calls

/-- As long as the measurement goes on, no timer fires on a connection that has
not answered since it last fired. -/
def LivenessAnswered (ofsc : OFServerSettings) (tenant : EchoTenant)
    (events : List EchoEvent) : Prop :=
  History.Admissible
    (fun past event => (counted (tenant.calls ofsc past)).Going →
      ∀ connIndex, event = .timer connIndex →
        ∀ cc, (tenant.after ofsc past).ofconnections[connIndex]? = some cc →
          cc.alive = true)
    events

namespace ConnTables

variable {tables : ConnTables} {pastEnd : PastEnd} {xid : Nat}

theorem answersAt_eq_false_iff {index : Nat} :
    tables.answersAt pastEnd xid index = false ↔
      tables.readXid pastEnd index ≠ xid := by
  rw [answersAt, beq_eq_false_iff_ne]
  exact ne_comm

theorem searchSkipped_eq_none_iff :
    tables.searchSkipped pastEnd xid = none ↔
      ∀ k < 2 ^ 32,
        (∀ j < k, (tables.searchStart + j + 1) % 2 ^ 32 ≤
          tables.lastRequestIndex) →
        tables.readXid pastEnd ((tables.searchStart + k) % 2 ^ 32) ≠ xid := by
  have small : tables.searchStart < 2 ^ 32 := by
    have := tables.searchStart_lt
    omega
  rw [searchSkipped, IndexSearch.searchUp_eq_none_iff small]
  simp only [answersAt_eq_false_iff]

/-- A loop that finds nothing never ends exactly where the model says so. -/
theorem notFound_unending_iff
    (none : tables.searchSkipped pastEnd xid = none) :
    tables.notFound = .unending ↔
      ∀ fuel, (IndexSearch.testedUp (2 ^ 32) (tables.answersAt pastEnd xid)
        tables.lastRequestIndex fuel tables.searchStart).length = fuel := by
  have start := tables.searchStart_lt
  unfold notFound
  split
  · rename_i top
    refine iff_of_true rfl ?_
    intro fuel
    rw [top]
    apply IndexSearch.testedUp_length_of_top (by decide) (by omega)
    intro candidate below
    have missed := searchSkipped_eq_none_iff.mp none
      ((candidate + 2 ^ 32 - tables.searchStart) % 2 ^ 32)
      (Nat.mod_lt _ (by decide)) (fun j _ => by rw [top]; omega)
    rw [answersAt_eq_false_iff]
    have reached : (tables.searchStart +
        (candidate + 2 ^ 32 - tables.searchStart) % 2 ^ 32) % 2 ^ 32 =
        candidate := by omega
    rwa [reached] at missed
  · rename_i notTop
    refine iff_of_false (by simp) ?_
    intro endless
    have last : tables.lastRequestIndex < 2 ^ 32 := uint32Pred_lt _
    have bound := @IndexSearch.testedUp_length_le (2 ^ 32)
      (tables.answersAt pastEnd xid) tables.lastRequestIndex (2 ^ 32 + 1)
      tables.searchStart (by omega) (by omega)
    rw [endless] at bound
    omega

theorem matchResponse_ignored :
    tables.matchResponse pastEnd xid = .rejected ↔
      Ignored pastEnd tables xid := by
  rcases Nat.lt_trichotomy xid tables.lastResponseXid with
    lower | same | higher
  · have notSame : xid ≠ tables.lastResponseXid := Nat.ne_of_lt lower
    have notHigher : ¬tables.lastResponseXid < xid := by omega
    have searched := @searchLate_eq_none_iff tables pastEnd xid
    simp only [answersAt_eq_false_iff] at searched
    simp only [Ignored, notSame, lower, notHigher, false_and, or_false,
      false_or, true_and, ← searched, matchResponse, if_false, if_true]
    cases tables.searchLate pastEnd xid with
    | none => simp
    | some index => simp
  · simp [Ignored, matchResponse, same]
  · have notSame : xid ≠ tables.lastResponseXid := Ne.symm (Nat.ne_of_lt higher)
    have notLower : ¬xid < tables.lastResponseXid := by omega
    have positive : xid ≠ 0 := by omega
    have searched := @searchSkipped_eq_none_iff tables pastEnd xid
    simp only [Ignored, notSame, notLower, higher, false_and, false_or,
      true_and, ← searched, matchResponse, if_false, positive, ne_eq,
      not_false_eq_true, and_true]
    by_cases ahead : tables.readXid pastEnd tables.searchStart < xid
    · rw [if_pos ahead]
      cases tables.searchSkipped pastEnd xid with
      | none => simp [notFound, ahead]
      | some found => simp
    · rw [if_neg ahead]
      simp [ahead]

/-- An accepted response leaves a trace: a longer table or one missing
response less. -/
theorem answer_ne {matched : Matched} {reqSearchIndex : Nat}
    (accepted : matched.index = some reqSearchIndex) (msg : Message) :
    tables.answer msg matched ≠ tables := by
  intro same
  cases matched with
  | rejected => simp [Matched.index] at accepted
  | unending => simp [Matched.index] at accepted
  | late index =>
      have missing := congrArg missingResponses same
      simp only [answer, fillSlot, uint32Pred] at missing
      omega
  | inOrder index =>
      have length := congrArg (List.length ∘ respMsgtypes) same
      simp [answer, pushResponse_respMsgtypes] at length
  | skipping index skipped =>
      have length := congrArg (List.length ∘ respMsgtypes) same
      simp only [answer, Function.comp_apply, pushResponse_respMsgtypes,
        pushSkipped_respMsgtypes, List.length_append,
        List.length_singleton] at length
      omega

end ConnTables

namespace Counting

variable {counting : Counting} {connIndex : Nat} {tables : ConnTables}
  {pastEnd : PastEnd} {msg : Message}

theorem respond_eq_of_ignored (going : counting.Going)
    (present : counting.counter.conns[connIndex]? = some tables)
    (ignored : Ignored pastEnd tables msg.xid) :
    counting.respond pastEnd msg connIndex = counting := by
  have rejected := ConnTables.matchResponse_ignored.mpr ignored
  have unchanged := Counter.countResponse_rejected present rejected
  have returns : counting.counter.searchesOn pastEnd msg connIndex = false := by
    simp [Counter.searchesOn, present, rejected]
  rw [respond, unchanged, returns, ← going.notStuck]

/-- Any other response can be told: by the tables, or by its search that does
not end. -/
theorem ignored_of_measurement_eq (going : counting.Going)
    (present : counting.counter.conns[connIndex]? = some tables)
    (same : (counting.respond pastEnd msg connIndex).measurement =
      counting.measurement) :
    Ignored pastEnd tables msg.xid := by
  rw [← ConnTables.matchResponse_ignored]
  cases accepted : (tables.matchResponse pastEnd msg.xid).index with
  | none =>
      have stuck := congrArg Measurement.stuck same
      simp only [measurement, respond, Counter.searchesOn, present,
        going.notStuck, beq_eq_false_iff_ne] at stuck
      cases branch : tables.matchResponse pastEnd msg.xid with
      | rejected => rfl
      | unending => exact absurd branch stuck
      | late index => simp [branch, Matched.index] at accepted
      | inOrder index => simp [branch, Matched.index] at accepted
      | skipping index skipped => simp [branch, Matched.index] at accepted
  | some reqSearchIndex =>
      have conns := congrArg Measurement.conns same
      have inside := (List.getElem?_eq_some_iff.mp present).1
      have shown := congrArg (fun conns => conns[connIndex]?) conns
      simp only [measurement, respond, Counter.countResponse, present, accepted,
        List.getElem?_set_self inside, Option.some.injEq] at shown
      exact absurd shown (ConnTables.answer_ne accepted msg)

theorem respond_absent (going : counting.Going)
    (absent : counting.counter.conns[connIndex]? = none) :
    counting.respond pastEnd msg connIndex = counting := by
  have unchanged : counting.counter.countResponse pastEnd msg connIndex =
      counting.counter := by simp [Counter.countResponse, absent]
  have returns : counting.counter.searchesOn pastEnd msg connIndex = false := by
    simp [Counter.searchesOn, absent]
  rw [respond, unchanged, returns, ← going.notStuck]

theorem call_of_going (going : counting.Going) (call : CounterCall) :
    counting.call call = counting.make call := by
  rw [Counting.call, going.notFinished, going.notStuck]
  simp

/-- Once the measurement does not go on, the liveness check does nothing. -/
theorem call_liveness_of_not_going (notGoing : ¬counting.Going)
    {call : CounterCall} (liveness : call.isLiveness = true) :
    counting.call call = counting := by
  have byController : call.byController = true := by
    cases call with
    | counting event => cases liveness
    | reset now => cases liveness
    | liveness connIndex msg pastEnd => rfl
    | finish => rfl
  rw [Counting.call, if_pos]
  cases finished : counting.finished with
  | true => exact .inl rfl
  | false =>
      cases stuck : counting.stuck with
      | true => exact .inr ⟨rfl, byController⟩
      | false => exact absurd ⟨finished, stuck⟩ notGoing

theorem call_liveness_visible (counting : Counting) (call : CounterCall)
    (liveness : call.isLiveness = true)
    (same : (counting.call call).measurement = counting.measurement) :
    counting.call call = counting := by
  by_cases going : counting.Going
  · rw [call_of_going going] at same ⊢
    cases call with
    | counting event => cases liveness
    | reset now => cases liveness
    | liveness connIndex msg pastEnd =>
        cases present : counting.counter.conns[connIndex]? with
        | none => exact respond_absent going present
        | some tables =>
            exact respond_eq_of_ignored going present
              (ignored_of_measurement_eq going present same)
    | finish =>
        have finished := congrArg Measurement.finished same
        simp [make, measurement, going.notFinished] at finished
  · exact call_liveness_of_not_going going liveness

theorem call_liveness_eq_iff (counting : Counting) (call : CounterCall) :
    (call.isLiveness = true → counting.call call = counting) ↔
      (counting.Going → call ≠ .finish) ∧
        (counting.Going → ∀ connIndex msg pastEnd,
          call = .liveness connIndex msg pastEnd →
          ∀ tables, counting.counter.conns[connIndex]? = some tables →
            Ignored pastEnd tables msg.xid) := by
  constructor
  · intro idle
    refine ⟨?_, ?_⟩
    · rintro going rfl
      have finished := congrArg Counting.finished (idle rfl)
      rw [call_of_going going] at finished
      simp [make, going.notFinished] at finished
    · rintro going connIndex msg pastEnd rfl tables present
      have same := idle rfl
      rw [call_of_going going] at same
      exact ignored_of_measurement_eq going present
        (congrArg Counting.measurement same)
  · rintro ⟨notFinish, ignored⟩ liveness
    by_cases going : counting.Going
    · rw [call_of_going going]
      cases call with
      | counting event => cases liveness
      | reset now => cases liveness
      | liveness connIndex msg pastEnd =>
          cases present : counting.counter.conns[connIndex]? with
          | none => exact respond_absent going present
          | some tables =>
              exact respond_eq_of_ignored going present
                (ignored going connIndex msg pastEnd rfl tables present)
      | finish => exact absurd rfl (notFinish going)
    · exact call_liveness_of_not_going going liveness

end Counting

namespace EchoTenant

/-- The only callback for closed connections is that of the testcase. -/
structure Watching (tenant : EchoTenant) : Prop where
  registered : ∃ tenantId ports,
    Controller.Registered .echoRequest tenantId ports tenant.controller
  connDown : tenant.controller.eventListeners .connDown = [.echoRequest]

variable {ofsc : OFServerSettings} {tenant : EchoTenant}

theorem watching_start (tenantId : Nat) : (start tenantId).Watching :=
  ⟨⟨tenantId, [], Controller.registered_start .echoRequest tenantId⟩, rfl⟩

theorem Watching.step (watching : tenant.Watching) (event : EchoEvent) :
    (tenant.step ofsc event).1.Watching := by
  have alike : ∀ {other : EchoTenant}, Alike other tenant →
      other.Watching := by
    intro other alike
    exact ⟨alike.controller ▸ watching.registered,
      alike.controller ▸ watching.connDown⟩
  cases event with
  | established connId version switchPorts =>
      obtain ⟨⟨tenantId, ports, registered⟩, connDown⟩ := watching
      refine ⟨⟨tenantId, _, registered.connEstablished⟩, ?_⟩
      simp only [EchoTenant.step]
      rw [Controller.connEstablished_eq registered]
      simpa [Testcase.ctrlConnEstablished, Controller.registerForEvent] using
        connDown
  | allConnected now => exact watching
  | request connIndex msg => exact watching
  | echoReply connIndex xid steps clock pastEnd => exact alike (alike_reply ..)
  | newInterval now => exact watching
  | timer connIndex => exact alike (alike_timer connIndex)
  | livenessReply connIndex steps clock pastEnd =>
      exact alike (step_liveness rfl).1

theorem Watching.after (watching : tenant.Watching)
    (events : List EchoEvent) : (tenant.after ofsc events).Watching := by
  induction events generalizing tenant with
  | nil => exact watching
  | cons event events induction => exact induction (watching.step event)

/-- A timer finishes the testcases exactly when it closes the connection. -/
theorem Watching.timer (watching : tenant.Watching) (connIndex : Nat) :
    ((tenant.timer ofsc connIndex).2 = [] ∧
        ∀ cc, tenant.ofconnections[connIndex]? = some cc → cc.alive = true) ∨
      ((tenant.timer ofsc connIndex).2 = [.finish] ∧
        ∃ cc, tenant.ofconnections[connIndex]? = some cc ∧
          cc.alive = false) := by
  unfold EchoTenant.timer
  cases present : tenant.ofconnections[connIndex]? with
  | none =>
      left
      exact ⟨rfl, fun cc some => by cases some⟩
  | some cc =>
      simp only [OFServer.react_timer]
      cases alive : cc.alive with
      | true =>
          left
          refine ⟨?_, ?_⟩
          · rw [if_pos rfl, disconnected, List.flatMap_eq_nil_iff]
            intro effect member
            rw [OFConnection.mem_send member]
          · rintro other ⟨⟩
            exact alive
      | false =>
          right
          refine ⟨?_, cc, rfl, alive⟩
          rw [if_neg Bool.false_ne_true, disconnected, List.flatMap_singleton,
            Controller.dispatchEvent, watching.connDown,
            ByteLoop.items_singleton]
          rfl

theorem ne_finish_of_mem_step {event : EchoEvent} {call : CounterCall}
    (notTimer : ∀ connIndex, event ≠ .timer connIndex)
    (member : call ∈ (tenant.step ofsc event).2) : call ≠ .finish := by
  cases event with
  | established connId version switchPorts =>
      rw [List.mem_singleton.mp member]
      simp
  | allConnected now =>
      rw [List.mem_singleton.mp member]
      simp
  | request connIndex msg =>
      rw [List.mem_singleton.mp member]
      simp
  | echoReply connIndex xid steps clock pastEnd =>
      obtain ⟨k, _, rfl⟩ := List.mem_mapIdx.mp member
      simp
  | newInterval now =>
      rw [List.mem_singleton.mp member]
      simp
  | timer connIndex => exact absurd rfl (notTimer connIndex)
  | livenessReply connIndex steps clock pastEnd =>
      simp only [step] at member
      split at member
      · obtain ⟨k, _, rfl⟩ := List.mem_mapIdx.mp member
        simp
      · cases member

/-- The liveness check finishes nothing exactly when every timer finds its
connection alive. -/
theorem Watching.answered_iff (watching : tenant.Watching)
    (events : List EchoEvent) :
    History.Admissible
        (fun past call => (counted past).Going → call ≠ .finish)
        (tenant.calls ofsc events) ↔
      LivenessAnswered ofsc tenant events := by
  induction events using List.reverseRecOn with
  | nil => exact iff_of_true History.admissible_nil History.admissible_nil
  | append_singleton past event induction =>
      rw [calls_snoc, History.admissible_append, induction, LivenessAnswered,
        LivenessAnswered, History.admissible_snoc]
      apply and_congr_right
      intro _
      by_cases timer : ∃ connIndex, event = .timer connIndex
      · obtain ⟨connIndex, rfl⟩ := timer
        rcases (watching.after past).timer connIndex with
          ⟨calls, alive⟩ | ⟨calls, cc, present, dead⟩
        · rw [EchoTenant.step, calls]
          refine iff_of_true trivial ?_
          rintro _ index ⟨⟩
          exact alive
        · rw [EchoTenant.step, calls]
          simp only [History.AdmissibleFrom, and_true]
          constructor
          · intro notFinish going
            exact absurd rfl (notFinish going)
          · intro alive going
            have lives := alive going connIndex rfl cc present
            rw [dead] at lives
            cases lives
      · have notTimer := not_exists.mp timer
        refine iff_of_true ?_ ?_
        · apply History.admissibleFrom_of_forall
          intro call member _ _
          exact ne_finish_of_mem_step notTimer member
        · intro _ connIndex same
          exact absurd same (notTimer connIndex)

end EchoTenant

/-- The liveness check goes unobserved exactly when every connection answers
before its next timer and every reply handed to the counter is ignored. -/
theorem livenessUnobserved_iff (ofVersion : Int) (tenantId : Nat)
    (events : List EchoEvent) :
    LivenessUnobserved (startController ofVersion) (.start tenantId) events ↔
      LivenessAnswered (startController ofVersion) (.start tenantId) events ∧
        LivenessIgnored
          ((EchoTenant.start tenantId).calls (startController ofVersion)
            events) := by
  have removed := @EchoTenant.Alike.calls (startController ofVersion)
    (.start tenantId) (.start tenantId) ⟨rfl, rfl⟩ events
  have unobserved := @Removal.unobserved_iff _ _ _ _ _ _ Counting.start
    Counting.call_liveness_visible
    ((EchoTenant.start tenantId).calls (startController ofVersion) events)
  simp only [Counting.call_liveness_eq_iff] at unobserved
  rw [← (EchoTenant.watching_start tenantId).answered_iff, LivenessIgnored,
    ← History.admissible_and]
  unfold counted
  rw [← unobserved]
  constructor
  · intro same first second split
    exact (same first second split).2
  · intro same first second split
    refine ⟨?_, same first second split⟩
    rw [removed, split, Removal.rest_append]
    exact List.prefix_append _ _

/-- One request on each of two connections; the one on the second is still
unanswered when the liveness check sends its own, whose reply is then the
answer to it. -/
def unansweredRequest : List EchoEvent :=
  [.established 1 1 2, .established 2 1 2, .allConnected 0,
    .request 1 { xid := 10000001, time := 1, bytes := 8, msgType := 2 },
    .timer 1, .livenessReply 1 1 (fun _ => 2) (fun _ => zeroPastEnd)]

theorem livenessUnobserved_unansweredRequest :
    ¬LivenessUnobserved (startController 10) (.start 0) unansweredRequest := by
  intro unobserved
  have same := (unobserved
    ((EchoTenant.start 0).calls (startController 10) unansweredRequest) []
    (List.append_nil _).symm).2
  have shown := congrArg
    (fun measurement => measurement.conns.map ConnTables.respXids) same
  exact absurd shown (by decide)

end Perfbench
