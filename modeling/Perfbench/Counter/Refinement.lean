import Mathlib.Data.List.Induction
import Perfbench.Counter.Exchange

/-!
# The counter's tables refine the exchange

Each branch of `count_response` updates the vectors as `Exchange.record`
updates the exchange they show, so a run of a connection on fresh tables shows
the run of the empty exchange.
-/

namespace Perfbench

namespace ConnTables

/-- The placeholder loop in closed form, while the response count fits. -/
theorem pushSlot_iterate (msg : Message) (count : Nat) (tables : ConnTables)
    (fits : tables.responses + count < 2 ^ 32) :
    (pushSlot msg)^[count] tables =
      { tables with
        responses := tables.responses + count
        respXids := tables.respXids ++ List.replicate count msg.xid
        respTimes := tables.respTimes ++ List.replicate count msg.time
        respBytes := tables.respBytes ++ List.replicate count msg.bytes
        respMsgtypes :=
          tables.respMsgtypes ++ List.replicate count msg.msgType } := by
  induction count with
  | zero => simp
  | succ count induction =>
      have counted : uint32 (tables.responses + count + 1) =
          tables.responses + (count + 1) := uint32_of_lt (by omega)
      rw [Function.iterate_succ_apply', induction (by omega)]
      simp only [pushSlot, counted, List.replicate_succ', List.append_assoc]

end ConnTables

namespace Exchange

variable {base : Nat} {exchange : Exchange} {connId : Int} {msg : Message}

theorem tables_fill {position : Nat} :
    (exchange.tables connId base).answer msg (.late position) =
      (exchange.record msg (.late position)).tables connId base := by
  simp only [ConnTables.answer, ConnTables.fillSlot, record, tables,
    GapTable.length_fill]
  simp only [GapTable.fill, List.map_set, shown, Option.getD_some]

theorem tables_extend {position skipped : Nat}
    (beyond : exchange.answers.length ≤ position)
    (skippedEq : skipped = position - exchange.answers.length)
    (fits : position + 1 < 2 ^ 32)
    (xid : msg.xid = base + position + 1) :
    ((exchange.tables connId base).pushSkipped skipped).pushResponse msg =
      (exchange.record msg (.skipping position skipped)).tables connId
        base := by
  have count : exchange.answers.length + skipped = position := by omega
  have counted : uint32 (exchange.answers.length + skipped + 1) =
      position + 1 := by
    rw [count]
    exact uint32_of_lt fits
  have padded := ConnTables.pushSlot_iterate ConnTables.placeholder skipped
    (exchange.tables connId base) (by simp only [tables]; omega)
  have last : base + (position + 1) = base + position + 1 := by omega
  simp only [ConnTables.pushSkipped, padded]
  simp only [ConnTables.pushResponse, ConnTables.pushSlot, record, tables,
    GapTable.length_extend msg beyond, counted, xid, last]
  simp [GapTable.extend, GapTable.length, shown, skippedEq, xid]

theorem record_skipping_zero {position : Nat}
    (missingFits : exchange.missing < 2 ^ 32) :
    exchange.record msg (.skipping position 0) =
      exchange.record msg (.inOrder position) := by
  simp [record, uint32_of_lt missingFits]

theorem pushSkipped_zero (tables : ConnTables)
    (missingFits : tables.missingResponses < 2 ^ 32) :
    tables.pushSkipped 0 = tables := by
  simp [ConnTables.pushSkipped, uint32_of_lt missingFits]

theorem tables_record {position : Nat} (aligned : Aligned base exchange)
    (inside : position < exchange.requests.length)
    (xid : msg.xid = base + position + 1) :
    (exchange.tables connId base).answer msg (exchange.matched position) =
      (exchange.record msg (exchange.matched position)).tables connId base := by
  have countsFit := aligned.countsFit
  unfold matched
  split
  · rfl
  · rename_i notSame
    split
    · split
      · rfl
      · exact tables_fill
    · rename_i notBehind
      split
      · rename_i next
        have extended := @tables_extend base exchange connId msg position 0
          (by omega) (by omega) (by omega) xid
        rw [record_skipping_zero aligned.missingFits,
          pushSkipped_zero _ aligned.missingFits] at extended
        exact extended
      · exact tables_extend (by omega) rfl (by omega) xid

theorem matched_cases (exchange : Exchange) (position : Nat) :
    (exchange.matched position = .rejected ∧
        position < exchange.answers.length ∧
        (position + 1 = exchange.answers.length ∨ position = 0)) ∨
      (exchange.matched position = .late position ∧ 0 < position ∧
        position + 1 < exchange.answers.length) ∨
      (exchange.matched position = .inOrder position ∧
        position = exchange.answers.length) ∨
      (exchange.matched position =
          .skipping position (position - exchange.answers.length) ∧
        exchange.answers.length < position) := by
  unfold matched
  split
  · exact .inl ⟨rfl, by omega, .inl (by assumption)⟩
  · split
    · split
      · exact .inl ⟨rfl, by omega, .inr (by assumption)⟩
      · exact .inr (.inl ⟨rfl, by omega, by assumption⟩)
    · split
      · exact .inr (.inr (.inl ⟨rfl, by assumption⟩))
      · exact .inr (.inr (.inr ⟨rfl, by omega⟩))

theorem matched_index {exchange : Exchange} {position index : Nat}
    (accepted : (exchange.matched position).index = some index) :
    index = position := by
  rcases matched_cases exchange position with
    ⟨branch, _⟩ | ⟨branch, _⟩ | ⟨branch, _⟩ | ⟨branch, _⟩
  · simp [branch, Matched.index] at accepted
  · simpa [branch, Matched.index, eq_comm] using accepted
  · simpa [branch, Matched.index, eq_comm] using accepted
  · simpa [branch, Matched.index, eq_comm] using accepted

theorem Aligned.record {position : Nat} (aligned : Aligned base exchange)
    (inside : position < exchange.requests.length)
    (xid : msg.xid = base + position + 1) :
    Aligned base (exchange.record msg (exchange.matched position)) := by
  have answerXid : ∀ other stored,
      (if other = position then some msg
        else exchange.answers.lookup other) = some stored →
      stored.xid = base + other + 1 := by
    intro other stored found
    split at found
    · rename_i same
      rw [Option.some.injEq] at found
      rw [← found, same, xid]
    · exact aligned.answerXid other stored found
  have extended : exchange.answers.length ≤ position → ∀ missing,
      missing < 2 ^ 32 →
      Aligned base
        { exchange with
          answers := exchange.answers.extend position msg
          missing := missing } := by
    intro beyond missing missingFits
    refine ⟨aligned.requestXid, ?_, ?_, aligned.xidsFit, aligned.countsFit,
      missingFits⟩
    · intro other stored found
      rw [GapTable.lookup_extend msg beyond] at found
      exact answerXid other stored found
    · have length := GapTable.length_extend msg beyond
      simp only
      omega
  rcases matched_cases exchange position with
    ⟨rejected, _⟩ | ⟨late, _, behind⟩ | ⟨inOrder, next⟩ | ⟨skipping, ahead⟩
  · rw [rejected]
    exact aligned
  · rw [late]
    refine ⟨aligned.requestXid, ?_, ?_, aligned.xidsFit, aligned.countsFit,
      uint32Pred_lt _⟩
    · intro other stored found
      rw [Exchange.record, GapTable.lookup_fill msg (by omega)] at found
      exact answerXid other stored found
    · simpa [Exchange.record] using aligned.answersWithin
  · rw [inOrder]
    exact extended (by omega) exchange.missing aligned.missingFits
  · rw [skipping]
    exact extended (by omega) _ (uint32_lt _)

theorem Aligned.pushRequest (aligned : Aligned base exchange)
    (xid : msg.xid = base + exchange.requests.length + 1)
    (xidsFit : base + exchange.requests.length + 1 < 2 ^ 32)
    (countsFit : exchange.requests.length + 1 < 2 ^ 31) :
    Aligned base
      { exchange with requests := exchange.requests ++ [msg] } := by
  refine ⟨?_, aligned.answerXid, ?_, ?_, ?_, aligned.missingFits⟩
  · intro position stored found
    rcases Nat.lt_or_ge position exchange.requests.length with old | new
    · simp only [List.getElem?_append_left old] at found
      exact aligned.requestXid position stored found
    · simp only [List.getElem?_append_right new] at found
      have inside := (List.getElem?_eq_some_iff.mp found).1
      simp only [List.length_singleton] at inside
      have positionEq : position = exchange.requests.length := by omega
      subst positionEq
      simp only [Nat.sub_self, List.getElem?_cons_zero,
        Option.some.injEq] at found
      subst stored
      exact xid
  · have answersWithin := aligned.answersWithin
    simp only [List.length_append, List.length_singleton]
    omega
  · simpa [Nat.add_assoc] using xidsFit
  · simpa using countsFit

theorem tables_pushRequest (countsFit : exchange.requests.length + 1 < 2 ^ 31) :
    (exchange.tables connId base).pushRequest msg =
      ({ exchange with requests := exchange.requests ++ [msg] }).tables
        connId base := by
  have counted : uint32 (exchange.requests.length + 1) =
      exchange.requests.length + 1 := uint32_of_lt (by omega)
  simp [ConnTables.pushRequest, tables, counted]

theorem run_requests (base : Nat) (exchange : Exchange)
    (events : List ConnEvent) :
    (exchange.run base events).requests =
      exchange.requests ++ requestsOf events := by
  induction events using List.reverseRecOn with
  | nil => simp [run]
  | append_singleton past event induction =>
      rw [run_snoc]
      cases event with
      | request msg => simp [step, induction]
      | response msg pastEnd =>
          have kept : ∀ matched : Matched,
              ((exchange.run base past).record msg matched).requests =
                (exchange.run base past).requests := by
            intro matched
            cases matched with
            | rejected => rfl
            | unending => rfl
            | late => rfl
            | inOrder => rfl
            | skipping => rfl
          simp [step, kept, induction]

theorem issued_position {events : List ConnEvent}
    (numbered : History.Admissible (Numbered (base + 1)) events)
    (member : msg.xid ∈ issued events) :
    position base msg < (requestsOf events).length ∧
      msg.xid = base + position base msg + 1 := by
  obtain ⟨target, inside, xid⟩ := (mem_issued_iff numbered msg.xid).mp member
  have same : position base msg = target := by
    simp only [position, xid]
    omega
  rw [same]
  exact ⟨inside, by omega⟩

/-- The exchange that a run of a connection shows. -/
def ofRun (base : Nat) (events : List ConnEvent) : Exchange :=
  initial.run base events

theorem ofRun_snoc (base : Nat) (past : List ConnEvent) (event : ConnEvent) :
    ofRun base (past ++ [event]) = (ofRun base past).step base event :=
  run_snoc base initial past event

theorem ofRun_append (base : Nat) (past future : List ConnEvent) :
    ofRun base (past ++ future) = (ofRun base past).run base future :=
  List.foldl_append

theorem ofRun_requests (base : Nat) (events : List ConnEvent) :
    (ofRun base events).requests = requestsOf events := by
  simp [ofRun, run_requests, initial]

/-- The branch a response takes in a run is the branch of the exchange. -/
theorem matchResponse_ofRun {past : List ConnEvent} {pastEnd : PastEnd}
    (aligned : Aligned base (ofRun base past))
    (numbered : History.Admissible (Numbered (base + 1)) past)
    (answersIssued : msg.xid ∈ issued past)
    (readsNoXid : ∀ index, pastEnd.xids index ∉ issued past) :
    ((ofRun base past).tables connId base).matchResponse pastEnd msg.xid =
      (ofRun base past).matched (position base msg) := by
  obtain ⟨inside, xid⟩ := issued_position numbered answersIssued
  have noHit : ∀ index,
      pastEnd.xids index ≠ base + position base msg + 1 := by
    intro index equality
    rw [← xid] at equality
    exact readsNoXid index (equality ▸ answersIssued)
  have branch := @Aligned.matchResponse base (ofRun base past) connId pastEnd
    (position base msg) aligned (by simpa [ofRun_requests] using inside) noHit
  rwa [← xid] at branch

/-- Along a run the tables show the exchange of the run, which stays
aligned. -/
theorem refines {events : List ConnEvent} (run : ConnRun base events) :
    (ConnTables.fresh connId).run events =
        (ofRun base events).tables connId base ∧
      Aligned base (ofRun base events) := by
  refine run.invariant ?_ ?_
  · intro run
    have xidsFit := run.xidsFit
    simp only [requestsOf_nil, List.length_nil] at xidsFit
    exact ⟨rfl, aligned_initial (by omega)⟩
  · intro past event run allowed induction
    obtain ⟨numberedStep, answersIssued, readsNoXid⟩ := allowed
    obtain ⟨shows, aligned⟩ := induction
    have fits := run.xidsFit
    have counts := run.countsFit
    rw [ConnTables.run_snoc, shows, ofRun_snoc]
    cases event with
    | request msg =>
        simp only [requestsOf_append, requestsOf_request, List.length_append,
          List.length_singleton] at fits counts
        have requests := ofRun_requests base past
        refine ⟨tables_pushRequest (by rw [requests]; exact counts), ?_⟩
        apply aligned.pushRequest
        · rw [requests, Nat.add_right_comm]
          exact numberedStep
        · rw [requests]
          omega
        · rw [requests]
          exact counts
    | response msg pastEnd =>
        have branch := @matchResponse_ofRun base connId msg past pastEnd
          aligned run.past.numbered answersIssued readsNoXid
        obtain ⟨inside, xid⟩ := issued_position run.past.numbered answersIssued
        have insideExchange :
            position base msg < (ofRun base past).requests.length := by
          rw [ofRun_requests]
          exact inside
        simp only [ConnTables.step, ConnTables.respond, branch, step]
        exact ⟨tables_record aligned insideExchange xid,
          aligned.record insideExchange xid⟩

/-- A connection of a counter run shows the exchange of its own events. -/
theorem refines_conn {counter : Counter} {connIndex : Nat} {connId : Int}
    {events : List Event}
    (created : counter.conns[connIndex]? = some (ConnTables.fresh connId))
    (run : ConnRun (xidBase connIndex) (onConn connIndex events)) :
    (counter.run events).conns[connIndex]? =
      some ((ofRun (xidBase connIndex) (onConn connIndex events)).tables connId
        (xidBase connIndex)) := by
  rw [Counter.run_conn created events, (refines run).1]

end Exchange

end Perfbench
