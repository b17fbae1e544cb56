import Perfbench.Counter.Tables
import Perfbench.Library.IndexSearch

/-!
# Matching a response with its request

`matchResponse` is the search part of `Counter::count_response`: it decides
which of the branches a response takes and at which index of the request
tables.  `countResponse` then updates the tables and the statistics.
-/

namespace Perfbench

/-- How `count_response` treats a response. -/
inductive Matched where
  /-- One of the early returns. -/
  | rejected
  /-- A response with a smaller xid than the last one. -/
  | late (reqSearchIndex : Nat)
  /-- The response to the next request. -/
  | inOrder (reqSearchIndex : Nat)
  /-- A response to a later request, with the requests in between skipped. -/
  | skipping (reqSearchIndex skipped : Nat)
  /-- The skip-ahead loop goes on forever. -/
  | unending
  deriving DecidableEq

/-- The index at which the latency is computed; none after an early return,
and none where there is no end. -/
def Matched.index : Matched → Option Nat
  | .rejected => none
  | .unending => none
  | .late reqSearchIndex => some reqSearchIndex
  | .inOrder reqSearchIndex => some reqSearchIndex
  | .skipping reqSearchIndex _ => some reqSearchIndex

namespace ConnTables

/-- Start of both searches: `std::max((int)(responses), 0)`. -/
def searchStart (tables : ConnTables) : Nat := clampToInt tables.responses

/-- The test `resp_xid == req_search_xid`. -/
def answersAt (pastEnd : PastEnd) (tables : ConnTables) (respXid index : Nat) :
    Bool :=
  respXid == tables.readXid pastEnd index

/-- The loop of the late-arrival branch. -/
def searchLate (pastEnd : PastEnd) (tables : ConnTables) (respXid : Nat) :
    Option Nat :=
  IndexSearch.searchDown (2 ^ 32) (tables.answersAt pastEnd respXid) (2 ^ 32)
    tables.searchStart

/-- The bound `requests - 1` of the skip-ahead loop, an unsigned difference. -/
def lastRequestIndex (tables : ConnTables) : Nat :=
  uint32Pred tables.requests

/-- The loop of the skip-ahead branch, with the number of skipped requests.
One pass over all 32-bit indices is fuel enough to find a request or to pass
the bound, where the loop ever does. -/
def searchSkipped (pastEnd : PastEnd) (tables : ConnTables) (respXid : Nat) :
    Option (Nat × Nat) :=
  IndexSearch.searchUp (2 ^ 32) (tables.answersAt pastEnd respXid)
    tables.lastRequestIndex (2 ^ 32) tables.searchStart 0

/-- A skip-ahead loop that finds nothing: no 32-bit index is above the bound
when no request was counted. -/
def notFound (tables : ConnTables) : Matched :=
  if tables.lastRequestIndex = 2 ^ 32 - 1 then .unending else .rejected

@[simp] theorem notFound_index (tables : ConnTables) :
    tables.notFound.index = none := by
  unfold notFound
  split <;> rfl

def matchResponse (pastEnd : PastEnd) (tables : ConnTables) (respXid : Nat) :
    Matched :=
  -- a hypervisor may duplicate the response before
  if respXid = tables.lastResponseXid then .rejected
  else if respXid < tables.lastResponseXid then
    match tables.searchLate pastEnd respXid with
    | none => .rejected
    | some reqSearchIndex => .late reqSearchIndex
  else if tables.readXid pastEnd tables.searchStart < respXid ∧ respXid ≠ 0 then
    match tables.searchSkipped pastEnd respXid with
    | none => tables.notFound
    | some (reqSearchIndex, skipped) => .skipping reqSearchIndex skipped
  else .inOrder tables.searchStart

/-- The table updates of the branch taken. -/
def answer (msg : Message) (tables : ConnTables) : Matched → ConnTables
  | .rejected => tables
  | .unending => tables
  | .late reqSearchIndex => tables.fillSlot reqSearchIndex msg
  | .inOrder _ => tables.pushResponse msg
  | .skipping _ skipped => (tables.pushSkipped skipped).pushResponse msg

theorem answer_notFound (msg : Message) (tables : ConnTables) :
    tables.answer msg tables.notFound = tables := by
  unfold notFound
  split <;> rfl

end ConnTables

/-- The loss count of the interval after the branch taken. -/
def Matched.losses (intervalLosses : Int) : Matched → Int
  | .rejected => intervalLosses
  | .unending => intervalLosses
  | .late _ => int32 (intervalLosses - 1)
  | .inOrder _ => intervalLosses
  | .skipping _ skipped => int32 (intervalLosses + skipped)

/-- Everything the counter keeps about the responses of a connection. -/
structure ResponseCounts where
  respXids : List Nat
  respTimes : List ℚ
  respBytes : List Nat
  respMsgtypes : List Nat
  responses : Nat
  missingResponses : Nat
  intervalResponses : Int
  intervalLosses : Int
  intervalLatencySum : ℚ
  respTotalBytes : Int
  deriving DecidableEq

def Counter.responseCounts (connIndex : Nat) (counter : Counter) :
    Option ResponseCounts :=
  counter.conns[connIndex]?.map (fun tables =>
    { respXids := tables.respXids
      respTimes := tables.respTimes
      respBytes := tables.respBytes
      respMsgtypes := tables.respMsgtypes
      responses := tables.responses
      missingResponses := tables.missingResponses
      intervalResponses := counter.intervalResponses
      intervalLosses := counter.intervalLosses
      intervalLatencySum := counter.intervalLatencySum
      respTotalBytes := counter.respTotalBytes })

namespace Counter

/-- `Counter::count_response`.  An index of no connection is left alone; the
source would write through a bad reference there.  A call that never returns
has changed nothing. -/
def countResponse (pastEnd : PastEnd) (msg : Message) (connIndex : Nat)
    (counter : Counter) : Counter :=
  match counter.conns[connIndex]? with
  | none => counter
  | some tables =>
      let matched := tables.matchResponse pastEnd msg.xid
      match matched.index with
      | none => counter
      | some reqSearchIndex =>
          let latency := msg.time - tables.readTime pastEnd reqSearchIndex
          { counter with
            conns := counter.conns.set connIndex (tables.answer msg matched)
            intervalLosses := matched.losses counter.intervalLosses
            respTotalBytes := counter.respTotalBytes + msg.bytes
            intervalResponses := int32 (counter.intervalResponses + 1)
            intervalLatencySum := counter.intervalLatencySum + latency }

/-- The call of `count_response` never returns. -/
def searchesOn (pastEnd : PastEnd) (msg : Message) (connIndex : Nat)
    (counter : Counter) : Bool :=
  match counter.conns[connIndex]? with
  | none => false
  | some tables => tables.matchResponse pastEnd msg.xid == .unending

/-- The response passes the early returns of `count_response`. -/
def accepts (pastEnd : PastEnd) (msg : Message) (connIndex : Nat)
    (counter : Counter) : Bool :=
  match counter.conns[connIndex]? with
  | none => false
  | some tables => (tables.matchResponse pastEnd msg.xid).index.isSome

theorem countResponse_rejected {pastEnd : PastEnd} {msg : Message}
    {connIndex : Nat} {counter : Counter} {tables : ConnTables}
    (present : counter.conns[connIndex]? = some tables)
    (rejected : tables.matchResponse pastEnd msg.xid = .rejected) :
    counter.countResponse pastEnd msg connIndex = counter := by
  simp [countResponse, present, rejected, Matched.index]

end Counter

end Perfbench
