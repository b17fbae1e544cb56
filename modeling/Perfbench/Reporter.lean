import Mathlib.Algebra.Order.Ring.Unbundled.Rat
import Perfbench.Counter.CountResponse
import Perfbench.Library.ByteLoop

/-!
# The reporter

The thread of the reporter writes a line for every interval, with a column for
each tenant, and tells the counters to start a new one.  The threads that send
and receive count meanwhile.
-/

namespace Perfbench

namespace Counter

/-- The loss ratio of the interval. -/
def lossRatio (counter : Counter) : ℚ :=
  if counter.intervalRequests = 0 then 0
  else if counter.intervalLosses < 0 then 0
  else min ((counter.intervalLosses : ℚ) / counter.intervalRequests) 1

/-- The mean latency of the interval, in milliseconds. -/
def meanLatency (counter : Counter) : ℚ :=
  if counter.intervalResponses = 0 then 0
  else counter.intervalLatencySum / counter.intervalResponses * 1000

end Counter

/-- A line of the interval log: its strings, as the lists of their values. -/
structure Line where
  requests : List Int
  responses : List Int
  latencies : List ℚ
  losses : List ℚ
  deriving DecidableEq

namespace Line

def empty : Line :=
  { requests := []
    responses := []
    latencies := []
    losses := [] }

def append (counter : Counter) (line : Line) : Line :=
  { requests := line.requests ++ [counter.intervalRequests]
    responses := line.responses ++ [counter.intervalResponses]
    latencies := line.latencies ++ [counter.meanLatency]
    losses := line.losses ++ [counter.lossRatio] }

end Line

/-- Where the thread of the reporter is. -/
inductive ReportLoop where
  | sleeping
  /-- in `file_report`, with the index of the loop there -/
  | reading (i : Nat)
  /-- in the loop that starts new intervals, with its index -/
  | resetting (i : Nat)
  | ended
  deriving DecidableEq

/-- The counters of the tenants and the reporter with its log. -/
structure Reporter where
  counters : List Counter
  loop : ReportLoop
  finished : Bool
  /-- the strings of the line that `file_report` is at -/
  line : Line
  filestream : List Line
  /-- the requests counted on each counter, and the responses accepted -/
  requestsCounted : Nat → Nat
  responsesAccepted : Nat → Nat

namespace Reporter

/-- All the tenants are connected: the counters are reset and the reporter is
in its first sleep. -/
def start (now : ℚ) (counters : List Counter) : Reporter :=
  { counters := counters.map (Counter.reset now)
    loop := .sleeping
    finished := false
    line := .empty
    filestream := []
    requestsCounted := fun _ => 0
    responsesAccepted := fun _ => 0 }

inductive Step where
  | countRequest (t : Nat) (msg : Message) (connIndex : Nat)
  | countResponse (t : Nat) (pastEnd : PastEnd) (msg : Message)
      (connIndex : Nat)
  /-- the next step of the reporter's thread, at a time -/
  | report (now : ℚ)
  /-- `Reporter::finish`, when all the tenants are finished -/
  | finish

/-- The live report between the sleep and the file report only prints. -/
def reportLoop (now : ℚ) (state : Reporter) : Reporter :=
  match state.loop with
  | .sleeping =>
      if state.finished then { state with loop := .ended }
      else { state with loop := .reading 0, line := .empty }
  | .reading i =>
      match state.counters[i]? with
      | some counter =>
          { state with
            loop := .reading (ByteLoop.next i)
            line := state.line.append counter }
      | none =>
          { state with
            loop := .resetting 0
            filestream := state.filestream ++ [state.line] }
  | .resetting i =>
      if i < state.counters.length then
        { state with
          counters := state.counters.modify i (Counter.newInterval now)
          loop := .resetting (ByteLoop.next i) }
      else { state with loop := .sleeping }
  | .ended => state

def accepts (state : Reporter) (t : Nat) (pastEnd : PastEnd) (msg : Message)
    (connIndex : Nat) : Bool :=
  match state.counters[t]? with
  | none => false
  | some counter => counter.accepts pastEnd msg connIndex

def step (state : Reporter) : Step → Reporter
  | .countRequest t msg connIndex =>
      { state with
        counters :=
          state.counters.modify t (Counter.countRequest msg connIndex)
        requestsCounted := Function.update state.requestsCounted t
          (state.requestsCounted t + 1) }
  | .countResponse t pastEnd msg connIndex =>
      { state with
        counters :=
          state.counters.modify t (Counter.countResponse pastEnd msg connIndex)
        responsesAccepted := Function.update state.responsesAccepted t
          (state.responsesAccepted t +
            if state.accepts t pastEnd msg connIndex then 1 else 0) }
  | .report now => reportLoop now state
  | .finish => { state with finished := true }

def run (now : ℚ) (counters : List Counter) (steps : List Step) : Reporter :=
  steps.foldl step (start now counters)

theorem run_snoc (now : ℚ) (counters : List Counter) (past : List Step)
    (next : Step) :
    run now counters (past ++ [next]) = step (run now counters past) next := by
  rw [run, List.foldl_append]
  rfl

end Reporter

end Perfbench
