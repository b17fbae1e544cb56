import Mathlib.Algebra.Order.Ring.Rat
import Perfbench.Counter.Delivery

/-!
# The logfile

`BaseTestCase::write_logfile` writes one row for each request, with the entry
of the response tables at the same index.  The rows of a connection are right
when each shows the response delivered to its request; they are exactly when
the first request's response does not arrive after another one.
-/

namespace Perfbench

/-- One line of the logfile. -/
structure LogRow where
  reqXid : Nat
  reqMsgtype : Nat
  reqTime : ℚ
  reqBytes : Nat
  respMsgtype : Nat
  respTime : ℚ
  respBytes : Nat
  lat : ℚ
  connIndex : Nat
  deriving DecidableEq

/-- The row of request `r`, with zeros where the response tables are too
short. -/
def logRow (connIndex : Nat) (tables : ConnTables) (r : Nat) : LogRow :=
  let recorded := r + 1 ≤ tables.respMsgtypes.length
  let reqTime := tables.reqTimes.getD r 0
  let respTime := if recorded then tables.respTimes.getD r 0 else 0
  { reqXid := tables.reqXids.getD r 0
    reqMsgtype := tables.reqMsgtypes.getD r 0
    reqTime
    reqBytes := tables.reqBytes.getD r 0
    respMsgtype := if recorded then tables.respMsgtypes.getD r 0 else 0
    respTime
    respBytes := if recorded then tables.respBytes.getD r 0 else 0
    lat := if respTime = 0 then 0 else (respTime - reqTime) * 1000
    connIndex }

def logTables (connIndex : Nat) (tables : ConnTables) : List LogRow :=
  (List.range tables.reqXids.length).map (logRow connIndex tables)

/-- The outer loop of `write_logfile`, over the connections from `connIndex`
on. -/
def logConns (connIndex : Nat) : List ConnTables → List LogRow
  | [] => []
  | tables :: conns =>
      logTables connIndex tables ++ logConns (connIndex + 1) conns

def writeLogfile (counter : Counter) : List LogRow :=
  logConns 0 counter.conns

/-- The row of a request and the response delivered to it, if any. -/
def LogRow.of (connIndex : Nat) (request : Message)
    (response : Option Message) : LogRow :=
  let shown := response.getD ConnTables.placeholder
  { reqXid := request.xid
    reqMsgtype := request.msgType
    reqTime := request.time
    reqBytes := request.bytes
    respMsgtype := shown.msgType
    respTime := shown.time
    respBytes := shown.bytes
    lat := if shown.time = 0 then 0 else (shown.time - request.time) * 1000
    connIndex }

/-- The rows of a connection are its requests in issue order, each with the
response delivered to it. -/
def LogCorrect (connIndex : Nat) (events : List ConnEvent)
    (counter : Counter) : Prop :=
  (writeLogfile counter).filter (fun row => row.connIndex == connIndex) =
    (requestsOf events).map (fun request =>
      LogRow.of connIndex request (responseTo events request.xid))

/-- The response to the first request comes before every other response,
unless it shows the same zeros as no response. -/
def FirstReplyOnTime (base : Nat) (events : List ConnEvent) : Prop :=
  ∀ msg, responseTo events (base + 1) = some msg →
    (responsesOf events).head? = some msg ∨
      (msg.msgType = 0 ∧ msg.time = 0 ∧ msg.bytes = 0)

theorem logTables_connIndex {connIndex : Nat} {tables : ConnTables}
    {row : LogRow} (member : row ∈ logTables connIndex tables) :
    row.connIndex = connIndex := by
  obtain ⟨index, _, rfl⟩ := List.mem_map.mp member
  rfl

theorem logConns_filter_below {start connIndex : Nat}
    (conns : List ConnTables) (below : connIndex < start) :
    (logConns start conns).filter (fun row => row.connIndex == connIndex) =
      [] := by
  induction conns generalizing start with
  | nil => rfl
  | cons tables conns induction =>
      rw [logConns, List.filter_append, induction (by omega), List.append_nil,
        List.filter_eq_nil_iff]
      intro row member
      have different : start ≠ connIndex := by omega
      simp [logTables_connIndex member, different]

theorem logConns_filter {start position : Nat} {conns : List ConnTables}
    {tables : ConnTables} (present : conns[position]? = some tables) :
    (logConns start conns).filter
        (fun row => row.connIndex == start + position) =
      logTables (start + position) tables := by
  induction conns generalizing start position with
  | nil => simp at present
  | cons head conns induction =>
      rw [logConns, List.filter_append]
      cases position with
      | zero =>
          simp only [List.getElem?_cons_zero, Option.some.injEq] at present
          subst head
          rw [Nat.add_zero, logConns_filter_below conns (by omega),
            List.append_nil, List.filter_eq_self]
          intro row member
          simp [logTables_connIndex member]
      | succ position =>
          simp only [List.getElem?_cons_succ] at present
          have shifted := @induction (start + 1) position present
          have sum : start + 1 + position = start + (position + 1) := by omega
          rw [sum] at shifted
          rw [shifted]
          have none : (logTables start head).filter
              (fun row => row.connIndex == start + (position + 1)) = [] := by
            rw [List.filter_eq_nil_iff]
            intro row member
            simp [logTables_connIndex member]
          rw [none, List.nil_append]

namespace Exchange

theorem tables_respField {β : Type} (field : Message → β)
    (exchange : Exchange) (index : Nat) (default : β)
    (gap : field ConnTables.placeholder = default) :
    (if index + 1 ≤ exchange.answers.slots.length then
        (exchange.answers.slots.map
          (fun slot => field (shown slot))).getD index default
      else default) =
      field ((exchange.answers.lookup index).getD ConnTables.placeholder) := by
  by_cases inside : index < exchange.answers.slots.length
  · have within : index + 1 ≤ exchange.answers.slots.length := inside
    rw [if_pos within]
    simp [GapTable.lookup, inside, shown, List.getD_eq_getElem?_getD]
  · have outside : ¬index + 1 ≤ exchange.answers.slots.length := inside
    rw [if_neg outside]
    simp [GapTable.lookup, inside, gap]

/-- The row written for a request is its row with the answer kept for it. -/
theorem logRow_tables {exchange : Exchange} {connId : Int} {base : Nat}
    (connIndex : Nat) {index : Nat} {request : Message}
    (requestAt : exchange.requests[index]? = some request) :
    logRow connIndex (exchange.tables connId base) index =
      LogRow.of connIndex request (exchange.answers.lookup index) := by
  have time := tables_respField Message.time exchange index 0 rfl
  have bytes := tables_respField Message.bytes exchange index 0 rfl
  have msgType := tables_respField Message.msgType exchange index 0 rfl
  simp only [logRow, LogRow.of, tables, List.length_map, time, bytes, msgType]
  simp [List.getD_eq_getElem?_getD, requestAt]

end Exchange

/-- Two responses give a request the same row when they show the same. -/
theorem LogRow.of_eq_iff (connIndex : Nat) (request : Message)
    (left right : Option Message) :
    LogRow.of connIndex request left = LogRow.of connIndex request right ↔
      (Exchange.shown left).msgType = (Exchange.shown right).msgType ∧
        (Exchange.shown left).time = (Exchange.shown right).time ∧
        (Exchange.shown left).bytes = (Exchange.shown right).bytes := by
  simp only [LogRow.of, LogRow.mk.injEq, Exchange.shown]
  constructor
  · rintro ⟨-, -, -, -, msgType, time, bytes, -, -⟩
    exact ⟨msgType, time, bytes⟩
  · rintro ⟨msgType, time, bytes⟩
    simp [msgType, time, bytes]

/-- Past the first position the response kept is the response delivered. -/
theorem kept_of_pos {base position : Nat} (events : List ConnEvent)
    (positive : 0 < position) :
    kept base events position = responseTo events (base + position + 1) := by
  have notFirst : position ≠ 0 := by omega
  simp [kept, notFirst]

theorem firstRow_iff (connIndex base : Nat) (request : Message)
    (events : List ConnEvent) :
    LogRow.of connIndex request (kept base events 0) =
        LogRow.of connIndex request (responseTo events (base + 1)) ↔
      FirstReplyOnTime base events := by
  rw [LogRow.of_eq_iff, FirstReplyOnTime]
  simp only [kept, if_true]
  cases delivered : responseTo events (base + 1) with
  | none =>
      have nothingKept : (responsesOf events).head?.filter
          (fun msg => msg.xid == base + 1) = none := by
        rw [responseTo_eq_none_iff] at delivered
        cases responses : responsesOf events with
        | nil => rfl
        | cons head tail =>
            have different : head.xid ≠ base + 1 := by
              intro same
              apply delivered
              simp [answered, responses, same]
            simp [different]
      simp [nothingKept]
  | some msg =>
      cases responses : responsesOf events with
      | nil => simp [responseTo, responses] at delivered
      | cons head tail =>
          by_cases first : head.xid = base + 1
          · have same : head = msg := by
              simpa [responseTo, responses, first] using delivered
            subst msg
            have keptHead : (some head).filter
                (fun msg => msg.xid == base + 1) = some head := by
              simp [Option.filter, first]
            simp [keptHead]
          · have different : head ≠ msg := by
              intro same
              exact first (same ▸ responseTo_xid delivered)
            have dropped : (some head).filter
                (fun msg => msg.xid == base + 1) = none := by
              simp [Option.filter, first]
            simp [dropped, different, Exchange.shown,
              ConnTables.placeholder, eq_comm]

/-- Mapping an index range and mapping a list agree when they do at every
index of the list. -/
theorem map_range_eq_map_iff {α β : Type} (atIndex : Nat → β) (ofItem : α → β)
    (items : List α) :
    (List.range items.length).map atIndex = items.map ofItem ↔
      ∀ index item, items[index]? = some item →
        atIndex index = ofItem item := by
  rw [List.ext_getElem?_iff]
  constructor
  · intro agree index item itemAt
    obtain ⟨inside, itemEq⟩ := List.getElem?_eq_some_iff.mp itemAt
    have atThis := agree index
    simpa [inside, itemEq] using atThis
  · intro agree index
    cases itemAt : items[index]? with
    | none =>
        have beyond : items.length ≤ index :=
          List.getElem?_eq_none_iff.mp itemAt
        simp [beyond]
    | some item =>
        obtain ⟨inside, itemEq⟩ := List.getElem?_eq_some_iff.mp itemAt
        simp [inside, itemEq, agree index item itemAt]

/-- The logfile shows every request of a connection with the response
delivered to it exactly when the response to its first request, if there is
one, is the first of the connection's responses. -/
theorem log_correct_iff {counter : Counter} {connIndex : Nat} {connId : Int}
    {events : List Event}
    (created : counter.conns[connIndex]? = some (ConnTables.fresh connId))
    (run : ConnRun (xidBase connIndex) (onConn connIndex events))
    (once : History.Admissible AnswersOnce (onConn connIndex events)) :
    LogCorrect connIndex (onConn connIndex events) (counter.run events) ↔
      FirstReplyOnTime (xidBase connIndex) (onConn connIndex events) := by
  obtain ⟨lookup, _⟩ := Exchange.answers_ofRun run once
  have tablesAt := Exchange.refines_conn created run
  have rows := @logConns_filter 0 connIndex _ _ tablesAt
  rw [Nat.zero_add] at rows
  rw [LogCorrect, writeLogfile, rows, logTables]
  generalize onConn connIndex events = own at *
  generalize xidBase connIndex = base at *
  have requests := Exchange.ofRun_requests base own
  have length : ((Exchange.ofRun base own).tables connId base).reqXids.length =
      (requestsOf own).length := by
    simp [Exchange.tables, requests]
  have rowAt : ∀ index request, (requestsOf own)[index]? = some request →
      logRow connIndex ((Exchange.ofRun base own).tables connId base) index =
        LogRow.of connIndex request (kept base own index) := by
    intro index request requestAt
    rw [Exchange.logRow_tables connIndex (by rw [requests]; exact requestAt),
      lookup]
  rw [length, map_range_eq_map_iff]
  constructor
  · intro agree msg delivered
    have member : base + 1 ∈ answered own := by
      by_contra absent
      rw [← responseTo_eq_none_iff, delivered] at absent
      exact absurd absent (by simp)
    obtain ⟨position, inside, _⟩ := (mem_issued_iff run.numbered _).mp
      (answered_issued run.answersIssued _ member)
    obtain ⟨request, requestAt⟩ : ∃ request,
        (requestsOf own)[0]? = some request :=
      ⟨_, List.getElem?_eq_getElem (by omega)⟩
    have xid := requestsOf_xid run.numbered 0 request requestAt
    have first := agree 0 request requestAt
    rw [rowAt 0 request requestAt, xid] at first
    exact (firstRow_iff connIndex base request own).mp first msg delivered
  · intro onTime index request requestAt
    have xid := requestsOf_xid run.numbered index request requestAt
    rw [rowAt index request requestAt, xid]
    cases index with
    | zero => exact (firstRow_iff connIndex base request own).mpr onTime
    | succ index => rw [kept_of_pos own (by omega), Nat.add_right_comm]

/-- The reply to the first request arrives after the reply to the second. -/
def lateFirstReply : List Event :=
  [ask 0 0 1, ask 0 1 2, reply 0 1 3, reply 0 0 4]

theorem lateFirstReply_run :
    ConnRun (xidBase 0) (onConn 0 lateFirstReply) ∧
      History.Admissible AnswersOnce (onConn 0 lateFirstReply) := by
  refine ⟨ConsecutiveRun.of_zeroPastEnd (by decide) ?_ (by decide) (by decide)
    (by decide) (by decide), by decide⟩
  simp [lateFirstReply, onConn_cons, Event.onConn, ask, reply,
    ConnEvent.ZeroPastEnd]

/-- Its row shows zeros although it was delivered. -/
theorem log_lateFirstReply :
    ConnRun (xidBase 0) (onConn 0 lateFirstReply) ∧
      History.Admissible AnswersOnce (onConn 0 lateFirstReply) ∧
      ¬LogCorrect 0 (onConn 0 lateFirstReply)
        ((Counter.initial.connEstablished 7).run lateFirstReply) := by
  refine ⟨lateFirstReply_run.1, lateFirstReply_run.2, ?_⟩
  unfold LogCorrect
  decide

theorem log_correct_iff_overtakenReplies :
    LogCorrect 0 (onConn 0 overtakenReplies)
        ((Counter.initial.connEstablished 7).run overtakenReplies) ↔
      FirstReplyOnTime (xidBase 0) (onConn 0 overtakenReplies) :=
  log_correct_iff rfl overtakenReplies_run (by decide)

end Perfbench
