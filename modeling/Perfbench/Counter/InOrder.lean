import Perfbench.Counter.Refinement

/-!
# Responses in the order of the requests

When the responses of a connection come back in the order of its requests, and
none is lost, every one of them takes the branch for the next request.  Nothing
is read past the ends of the tables then, nothing is missing, and the response
tables hold the responses one after the other.
-/

namespace Perfbench

/-- The next request, or the response to the next one not answered. -/
def InOrder (base : Nat) (past : List ConnEvent) : ConnEvent → Prop
  | .request msg => msg.xid = base + 1 + (requestsOf past).length
  | .response msg _ =>
      msg.xid = base + 1 + (responsesOf past).length ∧
        (responsesOf past).length < (requestsOf past).length

structure InOrderRun (base : Nat) (events : List ConnEvent) : Prop where
  steps : History.Admissible (InOrder base) events
  xidsFit : base + (requestsOf events).length < 2 ^ 32
  countsFit : (requestsOf events).length < 2 ^ 31

theorem InOrderRun.past {base : Nat} {past future : List ConnEvent}
    (run : InOrderRun base (past ++ future)) : InOrderRun base past := by
  have shorter := requestsOf_length_le past future
  have xidsFit := run.xidsFit
  have countsFit := run.countsFit
  exact ⟨run.steps.past, by omega, by omega⟩

/-- Numbered requests whose responses carry the same numbers, each after its
request, are in order. -/
theorem inOrder_of_xids {base : Nat} {events : List ConnEvent}
    (numbered : History.Admissible (Numbered (base + 1)) events)
    (answersIssued : History.Admissible AnswersIssued events)
    (xids : ∀ position xid, (answered events)[position]? = some xid →
      xid = base + 1 + position) :
    History.Admissible (InOrder base) events := by
  induction events using List.reverseRecOn with
  | nil => exact History.admissible_nil
  | append_singleton past event induction =>
      obtain ⟨pastNumbered, next⟩ :=
        (History.admissible_snoc past event).mp numbered
      obtain ⟨pastIssued, requested⟩ :=
        (History.admissible_snoc past event).mp answersIssued
      refine (History.admissible_snoc past event).mpr ⟨?_, ?_⟩
      · apply induction pastNumbered pastIssued
        intro position xid found
        apply xids position xid
        rw [answered_append]
        obtain ⟨inside, _⟩ := List.getElem?_eq_some_iff.mp found
        rw [List.getElem?_append_left inside]
        exact found
      · cases event with
        | request msg => exact next
        | response msg pastEnd =>
            have xid : msg.xid = base + 1 + (responsesOf past).length := by
              apply xids
              have last : answered [.response msg pastEnd] = [msg.xid] := rfl
              rw [answered_append, last, List.getElem?_append_right
                (by simp [answered])]
              simp [answered]
            obtain ⟨position, inside, issuedXid⟩ :=
              (mem_issued_iff pastNumbered msg.xid).mp requested
            exact ⟨xid, by omega⟩

namespace Exchange

variable {base : Nat} {exchange : Exchange} {connId : Int}

theorem Aligned.matchResponse_next (aligned : Aligned base exchange)
    (pastEnd : PastEnd)
    (inside : exchange.answers.length < exchange.requests.length) :
    (exchange.tables connId base).matchResponse pastEnd
        (base + exchange.answers.length + 1) =
      .inOrder exchange.answers.length := by
  have last : (exchange.tables connId base).lastResponseXid =
      if exchange.answers.length = 0 then 0
      else base + exchange.answers.length := rfl
  have greater : (exchange.tables connId base).lastResponseXid <
      base + exchange.answers.length + 1 := by
    rw [last]
    split
    · omega
    · omega
  have nextXid := @Aligned.readXid base exchange connId pastEnd aligned
    exchange.answers.length inside
  rw [ConnTables.matchResponse, if_neg (by omega), if_neg (by omega),
    aligned.searchStart, nextXid, if_neg (by omega)]

theorem matched_next :
    exchange.matched exchange.answers.length =
      .inOrder exchange.answers.length := by
  rw [Exchange.matched, if_neg (by omega), if_neg (by omega), if_pos rfl]

/-- The exchange after a run in order: the responses fill the table from its
start. -/
structure FilledInOrder (events : List ConnEvent) (exchange : Exchange) :
    Prop where
  slots : exchange.answers.slots = (responsesOf events).map some
  missing : exchange.missing = 0

theorem FilledInOrder.length {events : List ConnEvent}
    (filled : FilledInOrder events exchange) :
    exchange.answers.length = (responsesOf events).length := by
  rw [GapTable.length, filled.slots, List.length_map]

theorem FilledInOrder.lookup {events : List ConnEvent}
    (filled : FilledInOrder events exchange) (position : Nat) :
    exchange.answers.lookup position = (responsesOf events)[position]? := by
  rw [GapTable.lookup, filled.slots, List.getElem?_map]
  cases (responsesOf events)[position]? with
  | none => rfl
  | some msg => rfl

theorem FilledInOrder.respond {past : List ConnEvent} {msg : Message}
    (filled : FilledInOrder past exchange) (pastEnd : PastEnd) :
    FilledInOrder (past ++ [.response msg pastEnd])
      (exchange.record msg (.inOrder exchange.answers.length)) := by
  refine ⟨?_, filled.missing⟩
  simp only [record, GapTable.extend, GapTable.length, filled.slots,
    Nat.sub_self, List.replicate_zero, List.nil_append, responsesOf_append,
    responsesOf_response, List.map_append, List.map_cons, List.map_nil]

/-- On runs in order the tables show the exchange of the run whatever lies past
their ends. -/
theorem refines_inOrder {events : List ConnEvent}
    (run : InOrderRun base events) :
    (ConnTables.fresh connId).run events =
        (ofRun base events).tables connId base ∧
      Aligned base (ofRun base events) ∧
      FilledInOrder events (ofRun base events) := by
  have steps := run.steps
  revert run
  refine steps.invariant ?_ ?_
  · intro run
    have xidsFit := run.xidsFit
    simp only [requestsOf_nil, List.length_nil] at xidsFit
    exact ⟨rfl, aligned_initial (by omega), rfl, rfl⟩
  · intro past event _ allowed induction run
    obtain ⟨shows, aligned, filled⟩ := induction run.past
    have fits := run.xidsFit
    have counts := run.countsFit
    have requests := ofRun_requests base past
    rw [ConnTables.run_snoc, shows, ofRun_snoc]
    cases event with
    | request msg =>
        simp only [requestsOf_append, requestsOf_request, List.length_append,
          List.length_singleton] at fits counts
        refine ⟨tables_pushRequest (by rw [requests]; exact counts), ?_, ?_⟩
        · apply aligned.pushRequest
          · rw [requests, Nat.add_right_comm]
            exact allowed
          · rw [requests]
            omega
          · rw [requests]
            exact counts
        · refine ⟨?_, filled.missing⟩
          rw [responsesOf_append, responsesOf_request, List.append_nil]
          exact filled.slots
    | response msg pastEnd =>
        obtain ⟨xid, behind⟩ := allowed
        have length := filled.length
        have inside : (ofRun base past).answers.length <
            (ofRun base past).requests.length := by
          rw [requests, length]
          exact behind
        have target : msg.xid =
            base + (ofRun base past).answers.length + 1 := by
          rw [length, xid]
          omega
        have here : position base msg = (ofRun base past).answers.length := by
          rw [position, target]
          omega
        simp only [ConnTables.step, ConnTables.respond, step, here]
        rw [target, aligned.matchResponse_next pastEnd inside, matched_next]
        have recorded := @tables_record base (ofRun base past) connId msg
          (ofRun base past).answers.length aligned inside target
        have kept := aligned.record inside target
        rw [matched_next] at recorded kept
        exact ⟨recorded, kept, filled.respond pastEnd⟩

end Exchange

end Perfbench
