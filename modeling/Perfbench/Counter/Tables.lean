import Mathlib.Data.List.Induction
import Mathlib.Data.Rat.Defs
import Mathlib.Logic.Function.Iterate
import Perfbench.MachineInteger

/-!
# The counter and its tables

The C++ class keeps one vector for each statistic, indexed by connection;
here the entries of one connection are collected in `ConnTables`, and the
counter holds the list of them next to its totals.  Times are exact rationals.
-/

namespace Perfbench

/-- The arguments `count_request` and `count_response` share: the xid, the
timestamp, the size in bytes and the OpenFlow type of a message. -/
structure Message where
  xid : Nat
  time : ℚ
  bytes : Nat
  msgType : Nat
  deriving DecidableEq

/-- What lies in memory past the end of a request table, where `operator[]`
reads it without a bounds check. -/
structure PastEnd where
  xids : Nat → Nat
  times : Nat → ℚ

/-- One connection's entry in every vector of the counter. -/
structure ConnTables where
  connId : Int
  requests : Nat
  responses : Nat
  lastResponseXid : Nat
  missingResponses : Nat
  reqXids : List Nat
  reqTimes : List ℚ
  reqBytes : List Nat
  reqMsgtypes : List Nat
  respXids : List Nat
  respTimes : List ℚ
  respBytes : List Nat
  respMsgtypes : List Nat
  deriving DecidableEq

namespace ConnTables

/-- The entries that `ctrl_conn_established` pushes for a new connection. -/
def fresh (connId : Int) : ConnTables :=
  { connId
    requests := 0
    responses := 0
    lastResponseXid := 0
    missingResponses := 0
    reqXids := []
    reqTimes := []
    reqBytes := []
    reqMsgtypes := []
    respXids := []
    respTimes := []
    respBytes := []
    respMsgtypes := [] }

/-- `req_xids[conn_index][index]`. -/
def readXid (pastEnd : PastEnd) (tables : ConnTables) (index : Nat) : Nat :=
  tables.reqXids.getD index (pastEnd.xids index)

/-- `req_times[conn_index][index]`. -/
def readTime (pastEnd : PastEnd) (tables : ConnTables) (index : Nat) : ℚ :=
  tables.reqTimes.getD index (pastEnd.times index)

def pushRequest (msg : Message) (tables : ConnTables) : ConnTables :=
  { tables with
    reqXids := tables.reqXids ++ [msg.xid]
    reqMsgtypes := tables.reqMsgtypes ++ [msg.msgType]
    reqTimes := tables.reqTimes ++ [msg.time]
    reqBytes := tables.reqBytes ++ [msg.bytes]
    requests := uint32 (tables.requests + 1) }

/-- Append a response and count it. -/
def pushSlot (msg : Message) (tables : ConnTables) : ConnTables :=
  { tables with
    respXids := tables.respXids ++ [msg.xid]
    respMsgtypes := tables.respMsgtypes ++ [msg.msgType]
    respTimes := tables.respTimes ++ [msg.time]
    respBytes := tables.respBytes ++ [msg.bytes]
    responses := uint32 (tables.responses + 1) }

/-- The message whose fields the placeholder of a skipped response shows. -/
def placeholder : Message := { xid := 0, time := 0, bytes := 0, msgType := 0 }

/-- The placeholder loop, and the count of missing responses after it. -/
def pushSkipped (skipped : Nat) (tables : ConnTables) : ConnTables :=
  let padded := (pushSlot placeholder)^[skipped] tables
  { padded with
    missingResponses := uint32 (padded.missingResponses + skipped) }

/-- Append the response that is now the last one. -/
def pushResponse (msg : Message) (tables : ConnTables) : ConnTables :=
  ({ tables with lastResponseXid := msg.xid }).pushSlot msg

/-- Overwrite a slot with a late response.  A write past the end, which the
source does not check either, has no effect here. -/
def fillSlot (index : Nat) (msg : Message) (tables : ConnTables) : ConnTables :=
  { tables with
    respXids := tables.respXids.set index msg.xid
    respMsgtypes := tables.respMsgtypes.set index msg.msgType
    respTimes := tables.respTimes.set index msg.time
    respBytes := tables.respBytes.set index msg.bytes
    missingResponses := uint32Pred tables.missingResponses }

theorem pushSlot_iterate_respMsgtypes (msg : Message) (count : Nat)
    (tables : ConnTables) :
    ((pushSlot msg)^[count] tables).respMsgtypes =
      tables.respMsgtypes ++ List.replicate count msg.msgType := by
  induction count with
  | zero => simp
  | succ count induction =>
      have appended : ∀ tables : ConnTables,
          (tables.pushSlot msg).respMsgtypes =
            tables.respMsgtypes ++ [msg.msgType] := fun _ => rfl
      rw [Function.iterate_succ_apply', appended, induction,
        List.replicate_succ', List.append_assoc]

theorem pushSkipped_respMsgtypes (skipped : Nat) (tables : ConnTables) :
    (tables.pushSkipped skipped).respMsgtypes =
      tables.respMsgtypes ++ List.replicate skipped 0 := by
  have padded := pushSlot_iterate_respMsgtypes placeholder skipped tables
  simpa only [pushSkipped, placeholder] using padded

theorem pushResponse_respMsgtypes (msg : Message) (tables : ConnTables) :
    (tables.pushResponse msg).respMsgtypes =
      tables.respMsgtypes ++ [msg.msgType] := rfl

end ConnTables

/-- The state of `class Counter`. -/
structure Counter where
  conns : List ConnTables
  startTime : ℚ
  reqTotalBytes : Int
  respTotalBytes : Int
  maxTime : Nat
  maxPackets : Nat
  finished : Bool
  intervalStart : ℚ
  intervals : Nat
  intervalRequests : Int
  intervalResponses : Int
  intervalLosses : Int
  intervalLatencySum : ℚ
  deriving DecidableEq

namespace Counter

/-- `Counter::Counter` and the member initialisers. -/
def initial : Counter :=
  { conns := []
    startTime := 0
    reqTotalBytes := 0
    respTotalBytes := 0
    maxTime := 0
    maxPackets := 0
    finished := false
    intervalStart := 0
    intervals := 0
    intervalRequests := 0
    intervalResponses := 0
    intervalLosses := 0
    intervalLatencySum := 0 }

/-- The part of `BaseTestCase::ctrl_conn_established` that sets up the tables
of a new connection. -/
def connEstablished (connId : Int) (counter : Counter) : Counter :=
  { counter with conns := counter.conns ++ [ConnTables.fresh connId] }

def countRequest (msg : Message) (connIndex : Nat) (counter : Counter) :
    Counter :=
  { counter with
    conns := counter.conns.modify connIndex (ConnTables.pushRequest msg)
    reqTotalBytes := counter.reqTotalBytes + msg.bytes
    intervalRequests := int32 (counter.intervalRequests + 1) }

def newInterval (now : ℚ) (counter : Counter) : Counter :=
  { counter with
    intervalStart := now
    intervalRequests := 0
    intervalResponses := 0
    intervalLatencySum := 0
    intervalLosses := 0
    intervals := uint32 (counter.intervals + 1) }

/-- `Counter::reset`, when all the tenants are connected.  The tables stay, and
so do the other values of the interval. -/
def reset (now : ℚ) (counter : Counter) : Counter :=
  { counter with
    intervalStart := 0
    intervalRequests := 0
    startTime := now
    intervals := 0
    conns := counter.conns.map (fun tables =>
      { tables with
        requests := 0
        responses := 0 })
    reqTotalBytes := 0
    respTotalBytes := 0
    finished := false }

/-- `std::accumulate(v.begin(), v.end(), 0)` over a vector of `uint32_t`: the
accumulator is an `int`. -/
def accumulate (values : List Nat) : Int :=
  values.foldl (fun (total : Int) (value : Nat) => int32 (total + value)) 0

theorem accumulate_singleton (value : Nat) :
    accumulate [value] = int32 value := by
  rw [accumulate, List.foldl_cons, List.foldl_nil, Int.zero_add]

theorem accumulate_bounds (values : List Nat) :
    -2 ^ 31 ≤ accumulate values ∧ accumulate values < 2 ^ 31 := by
  cases values using List.reverseRecOn with
  | nil => decide
  | append_singleton earlier value =>
      rw [accumulate, List.foldl_append]
      exact int32_bounds _

/-- The numbers `Counter::final_report` prints. -/
structure FinalReport where
  msgsSent : Int
  bytesSent : Int
  msgsReceived : Int
  bytesReceived : Int
  deriving DecidableEq

def finalReport (counter : Counter) : FinalReport :=
  { msgsSent := accumulate (counter.conns.map ConnTables.requests)
    bytesSent := counter.reqTotalBytes
    msgsReceived := accumulate (counter.conns.map ConnTables.responses)
    bytesReceived := counter.respTotalBytes }

end Counter

end Perfbench
