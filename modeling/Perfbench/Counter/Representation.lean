import Perfbench.Counter.Refinement

/-!
# The representation invariant of a connection

What the vectors of a connection look like after every run: the response
vectors run in step with the response count and stay within the requests,
every slot is a placeholder or the xid of the request at its index, and the
last slot is the last response.
-/

namespace Perfbench

structure Representation (tables : ConnTables) : Prop where
  respXids_length : tables.respXids.length = tables.responses
  respTimes_length : tables.respTimes.length = tables.responses
  respBytes_length : tables.respBytes.length = tables.responses
  respMsgtypes_length : tables.respMsgtypes.length = tables.responses
  responses_le : tables.responses ≤ tables.requests
  reqXids_length : tables.reqXids.length = tables.requests
  reqTimes_length : tables.reqTimes.length = tables.requests
  reqBytes_length : tables.reqBytes.length = tables.requests
  reqMsgtypes_length : tables.reqMsgtypes.length = tables.requests
  slot : ∀ (index xid : Nat), tables.respXids[index]? = some xid →
    xid = 0 ∨ tables.reqXids[index]? = some xid
  last : 0 < tables.responses →
    tables.respXids.getLast? = some tables.lastResponseXid ∧
      tables.lastResponseXid ≠ 0
  noLast : tables.responses = 0 → tables.lastResponseXid = 0

namespace Exchange

variable {base : Nat} {exchange : Exchange} {connId : Int}

theorem Aligned.tables_slot (aligned : Aligned base exchange) {index xid : Nat}
    (found : (exchange.tables connId base).respXids[index]? = some xid) :
    xid = 0 ∨ (exchange.tables connId base).reqXids[index]? = some xid := by
  simp only [tables, List.getElem?_map, Option.map_eq_some_iff] at found ⊢
  obtain ⟨slot, slotAt, rfl⟩ := found
  cases slot with
  | none => exact .inl rfl
  | some msg =>
      have lookup : exchange.answers.lookup index = some msg := by
        simp [GapTable.lookup, slotAt]
      have xid := aligned.answerXid index msg lookup
      have inside : index < exchange.requests.length :=
        Nat.lt_of_lt_of_le (GapTable.lt_length_of_lookup lookup)
          aligned.answersWithin
      refine .inr
        ⟨exchange.requests[index], List.getElem?_eq_getElem inside, ?_⟩
      have requestXid := aligned.requestXid index _
        (List.getElem?_eq_getElem inside)
      rw [requestXid]
      exact xid.symm

theorem Aligned.tables_last (aligned : Aligned base exchange)
    (nonempty : 0 < exchange.answers.length) :
    (exchange.tables connId base).respXids.getLast? =
      some (base + exchange.answers.length) := by
  obtain ⟨position, length⟩ : ∃ position,
      exchange.answers.length = position + 1 :=
    ⟨exchange.answers.length - 1, by omega⟩
  obtain ⟨msg, lookup⟩ := GapTable.lookup_last length
  have xid := aligned.answerXid position msg lookup
  have slotAt : exchange.answers.slots[position]? = some (some msg) := by
    simpa [GapTable.lookup, Option.join_eq_some_iff] using lookup
  have lastIndex : exchange.answers.slots.length - 1 = position := by
    simp only [GapTable.length] at length
    omega
  simp only [tables, List.getLast?_eq_getElem?, List.length_map, lastIndex,
    List.getElem?_map, slotAt, Option.map_some, shown, Option.getD_some, xid,
    length, Nat.add_assoc]

theorem Aligned.representation (aligned : Aligned base exchange) :
    Representation (exchange.tables connId base) where
  respXids_length := by simp [tables, GapTable.length]
  respTimes_length := by simp [tables, GapTable.length]
  respBytes_length := by simp [tables, GapTable.length]
  respMsgtypes_length := by simp [tables, GapTable.length]
  responses_le := aligned.answersWithin
  reqXids_length := by simp [tables]
  reqTimes_length := by simp [tables]
  reqBytes_length := by simp [tables]
  reqMsgtypes_length := by simp [tables]
  slot := fun _ _ found => aligned.tables_slot found
  last := by
    intro nonempty
    change 0 < exchange.answers.length at nonempty
    have lastXid : (exchange.tables connId base).lastResponseXid =
        base + exchange.answers.length := by
      have notEmpty : exchange.answers.length ≠ 0 := by omega
      simp [tables, notEmpty]
    refine ⟨?_, by omega⟩
    rw [lastXid]
    exact aligned.tables_last nonempty
  noLast := by
    intro isEmpty
    change exchange.answers.length = 0 at isEmpty
    simp [tables, isEmpty]

end Exchange

/-- Every run of a connection, whatever the other connections do in between,
leaves its tables in this shape. -/
theorem run_representation {counter : Counter} {connIndex : Nat} {connId : Int}
    {events : List Event}
    (created : counter.conns[connIndex]? = some (ConnTables.fresh connId))
    (run : ConnRun (xidBase connIndex) (onConn connIndex events)) :
    ∃ tables, (counter.run events).conns[connIndex]? = some tables ∧
      Representation tables := by
  obtain ⟨_, aligned⟩ := @Exchange.refines (xidBase connIndex) connId _ run
  exact ⟨_, Exchange.refines_conn created run, aligned.representation⟩

theorem run_representation_overtakenReplies :
    ∃ tables,
      ((Counter.initial.connEstablished 7).run overtakenReplies).conns[0]? =
          some tables ∧
        Representation tables :=
  run_representation rfl overtakenReplies_run

end Perfbench
