import Perfbench.Counter.ConnRun
import Perfbench.Library.GapTable

/-!
# The exchange behind a connection's tables

An `Exchange` is what the tables of a connection stand for: the requests in
issue order, and a table of answers that is filled out of order and has a gap
for each answer still missing.  `Exchange.tables` lays it out in the counter's
vectors; on the runs of the control plane the counter's steps are the steps of
the exchange.
-/

namespace Perfbench

structure Exchange where
  requests : List Message
  answers : GapTable Message
  missing : Nat

namespace Exchange

def initial : Exchange :=
  { requests := []
    answers := GapTable.empty
    missing := 0 }

/-- How the response to the request at a position is treated. -/
def matched (exchange : Exchange) (position : Nat) : Matched :=
  if position + 1 = exchange.answers.length then .rejected
  else if position + 1 < exchange.answers.length then
    -- the late search stops before it tests position zero
    if position = 0 then .rejected else .late position
  else if position = exchange.answers.length then .inOrder position
  else .skipping position (position - exchange.answers.length)

def record (msg : Message) (exchange : Exchange) : Matched → Exchange
  | .rejected => exchange
  | .unending => exchange
  | .late position =>
      { exchange with
        answers := exchange.answers.fill position msg
        missing := uint32Pred exchange.missing }
  | .inOrder position =>
      { exchange with answers := exchange.answers.extend position msg }
  | .skipping position skipped =>
      { exchange with
        answers := exchange.answers.extend position msg
        missing := uint32 (exchange.missing + skipped) }

/-- Position of the request that a response answers. -/
def position (base : Nat) (msg : Message) : Nat := msg.xid - base - 1

def step (base : Nat) (exchange : Exchange) : ConnEvent → Exchange
  | .request msg => { exchange with requests := exchange.requests ++ [msg] }
  | .response msg _ =>
      exchange.record msg (exchange.matched (position base msg))

def run (base : Nat) (exchange : Exchange) (events : List ConnEvent) :
    Exchange :=
  events.foldl (step base) exchange

theorem run_snoc (base : Nat) (exchange : Exchange) (past : List ConnEvent)
    (event : ConnEvent) :
    exchange.run base (past ++ [event]) =
      (exchange.run base past).step base event := by
  simp [run]

/-- What a slot shows; a gap shows the placeholder. -/
def shown (slot : Option Message) : Message :=
  slot.getD ConnTables.placeholder

/-- The counter's vectors for an exchange. -/
def tables (connId : Int) (base : Nat) (exchange : Exchange) : ConnTables :=
  { connId
    requests := exchange.requests.length
    responses := exchange.answers.length
    lastResponseXid :=
      if exchange.answers.length = 0 then 0
      else base + exchange.answers.length
    missingResponses := exchange.missing
    reqXids := exchange.requests.map Message.xid
    reqTimes := exchange.requests.map Message.time
    reqBytes := exchange.requests.map Message.bytes
    reqMsgtypes := exchange.requests.map Message.msgType
    respXids := exchange.answers.slots.map (fun slot => (shown slot).xid)
    respTimes := exchange.answers.slots.map (fun slot => (shown slot).time)
    respBytes := exchange.answers.slots.map (fun slot => (shown slot).bytes)
    respMsgtypes :=
      exchange.answers.slots.map (fun slot => (shown slot).msgType) }

/-- Requests and answers sit at the positions their xids name. -/
structure Aligned (base : Nat) (exchange : Exchange) : Prop where
  requestXid : ∀ position msg, exchange.requests[position]? = some msg →
    msg.xid = base + position + 1
  answerXid : ∀ position msg, exchange.answers.lookup position = some msg →
    msg.xid = base + position + 1
  answersWithin : exchange.answers.length ≤ exchange.requests.length
  xidsFit : base + exchange.requests.length < 2 ^ 32
  countsFit : exchange.requests.length < 2 ^ 31
  missingFits : exchange.missing < 2 ^ 32

theorem aligned_initial {base : Nat} (baseFits : base < 2 ^ 32) :
    Aligned base initial := by
  refine ⟨?_, ?_, ?_, ?_, ?_, ?_⟩
  · intro position msg found
    simp [initial] at found
  · intro position msg found
    simp [initial] at found
  · simp [initial]
  · simpa [initial] using baseFits
  · simp [initial]
  · simp [initial]

section Searches

variable {base : Nat} {exchange : Exchange} {connId : Int}
  {pastEnd : PastEnd} {target : Nat}

theorem Aligned.readXid (aligned : Aligned base exchange) {index : Nat}
    (inside : index < exchange.requests.length) :
    (exchange.tables connId base).readXid pastEnd index = base + index + 1 := by
  have xid := aligned.requestXid index _ (List.getElem?_eq_getElem inside)
  simp [ConnTables.readXid, tables, inside, xid]

theorem readXid_pastEnd {index : Nat}
    (outside : exchange.requests.length ≤ index) :
    (exchange.tables connId base).readXid pastEnd index =
      pastEnd.xids index := by
  simp [ConnTables.readXid, tables, outside]

theorem Aligned.answersAt (aligned : Aligned base exchange)
    (inside : target < exchange.requests.length)
    (readsNoXid : ∀ index, pastEnd.xids index ≠ base + target + 1)
    (index : Nat) :
    (exchange.tables connId base).answersAt pastEnd (base + target + 1) index =
      decide (index = target) := by
  simp only [ConnTables.answersAt]
  by_cases within : index < exchange.requests.length
  · rw [aligned.readXid within]
    by_cases same : index = target
    · simp [same]
    · have different : target ≠ index := Ne.symm same
      simp [same, different]
  · rw [readXid_pastEnd (by omega)]
    have different : index ≠ target := by omega
    have noHit : base + target + 1 ≠ pastEnd.xids index :=
      Ne.symm (readsNoXid index)
    simp [different, noHit]

theorem Aligned.searchStart (aligned : Aligned base exchange) :
    (exchange.tables connId base).searchStart = exchange.answers.length := by
  apply clampToInt_of_lt
  exact Nat.lt_of_le_of_lt aligned.answersWithin aligned.countsFit

theorem Aligned.lastRequestIndex (aligned : Aligned base exchange)
    (nonempty : 0 < exchange.requests.length) :
    (exchange.tables connId base).lastRequestIndex =
      exchange.requests.length - 1 := by
  have small : exchange.requests.length < 2 ^ 32 :=
    Nat.lt_trans aligned.countsFit (by decide)
  exact uint32Pred_of_pos nonempty small

theorem Aligned.searchLate (aligned : Aligned base exchange)
    (behind : target + 1 < exchange.answers.length)
    (readsNoXid : ∀ index, pastEnd.xids index ≠ base + target + 1) :
    (exchange.tables connId base).searchLate pastEnd (base + target + 1) =
      if target = 0 then none else some target := by
  have answersWithin := aligned.answersWithin
  have countsFit := aligned.countsFit
  have hits : (exchange.tables connId base).answersAt pastEnd
      (base + target + 1) = fun index => decide (index = target) := by
    funext index
    exact aligned.answersAt (by omega) readsNoXid index
  rw [ConnTables.searchLate, aligned.searchStart, hits]
  by_cases first : target = 0
  · rw [if_pos first,
      IndexSearch.searchDown_eq_none_iff (by omega) (by omega) (by omega)]
    intro candidate positive _
    have different : candidate ≠ target := by omega
    simp [different]
  · rw [if_neg first]
    apply IndexSearch.searchDown_eq_some (by omega) (by omega) (by omega)
      (by omega)
    · simp
    · intro candidate above _
      have different : candidate ≠ target := by omega
      simp [different]

theorem Aligned.searchSkipped (aligned : Aligned base exchange)
    (ahead : exchange.answers.length < target)
    (inside : target < exchange.requests.length)
    (readsNoXid : ∀ index, pastEnd.xids index ≠ base + target + 1) :
    (exchange.tables connId base).searchSkipped pastEnd (base + target + 1) =
      some (target, target - exchange.answers.length) := by
  have countsFit := aligned.countsFit
  have hits : (exchange.tables connId base).answersAt pastEnd
      (base + target + 1) = fun index => decide (index = target) := by
    funext index
    exact aligned.answersAt inside readsNoXid index
  rw [ConnTables.searchSkipped, aligned.searchStart, hits,
    aligned.lastRequestIndex (by omega)]
  have result := @IndexSearch.searchUp_eq_some (2 ^ 32)
    (fun index => decide (index = target)) (exchange.requests.length - 1)
    (2 ^ 32) exchange.answers.length 0 target (by omega) (by omega)
    (by omega) (by omega) (by omega) (by simp) (by
      intro candidate _ candidateLt
      have different : candidate ≠ target := by omega
      simp [different])
  simpa using result

theorem Aligned.matchResponse (aligned : Aligned base exchange)
    (inside : target < exchange.requests.length)
    (readsNoXid : ∀ index, pastEnd.xids index ≠ base + target + 1) :
    (exchange.tables connId base).matchResponse pastEnd (base + target + 1) =
      exchange.matched target := by
  have last : (exchange.tables connId base).lastResponseXid =
      if exchange.answers.length = 0 then 0
      else base + exchange.answers.length := rfl
  rcases Nat.lt_trichotomy (target + 1) exchange.answers.length with
    behind | same | ahead
  · have nonempty : exchange.answers.length ≠ 0 := by omega
    have different : base + target + 1 ≠ base + exchange.answers.length := by
      omega
    have smaller : base + target + 1 < base + exchange.answers.length := by
      omega
    have notSame : target + 1 ≠ exchange.answers.length := by omega
    rw [ConnTables.matchResponse, last, if_neg nonempty, if_neg different,
      if_pos smaller, aligned.searchLate behind readsNoXid,
      Exchange.matched, if_neg notSame, if_pos behind]
    by_cases first : target = 0
    · simp [first]
    · simp [first]
  · have nonempty : exchange.answers.length ≠ 0 := by omega
    have equal : base + target + 1 = base + exchange.answers.length := by omega
    rw [ConnTables.matchResponse, last, if_neg nonempty, if_pos equal,
      Exchange.matched, if_pos same]
  · have greater : ∀ bound,
        bound = (if exchange.answers.length = 0 then 0
          else base + exchange.answers.length) →
        base + target + 1 ≠ bound ∧ ¬base + target + 1 < bound := by
      intro bound equality
      split at equality <;> omega
    obtain ⟨different, notSmaller⟩ := greater _ rfl
    have notSame : target + 1 ≠ exchange.answers.length := by omega
    have notBehind : ¬target + 1 < exchange.answers.length := by omega
    have nextXid := @Aligned.readXid base exchange connId pastEnd aligned
      exchange.answers.length (by omega)
    rw [ConnTables.matchResponse, last, if_neg different, if_neg notSmaller,
      aligned.searchStart, nextXid, Exchange.matched, if_neg notSame,
      if_neg notBehind]
    by_cases next : target = exchange.answers.length
    · simp [next]
    · have further : base + exchange.answers.length + 1 < base + target + 1 ∧
          base + target + 1 ≠ 0 := by omega
      rw [if_pos further, if_neg next,
        aligned.searchSkipped (by omega) inside readsNoXid]

end Searches

end Exchange

end Perfbench
