import Perfbench.Counter.ConnRun

/-!
# What every event keeps

Whatever the xids of a connection's requests and responses are, and whatever
lies past the ends of its tables, the request vectors hold the requests
issued, the response vectors grow together, and the two counts are the lengths
modulo `2 ^ 32`.
-/

namespace Perfbench

namespace ConnTables

/-- The vectors of each side are equally long and counted. -/
structure Bookkept (tables : ConnTables) : Prop where
  requests : tables.requests = uint32 tables.reqXids.length
  reqTimes : tables.reqTimes.length = tables.reqXids.length
  responses : tables.responses = uint32 tables.respXids.length
  respTimes : tables.respTimes.length = tables.respXids.length
  respBytes : tables.respBytes.length = tables.respXids.length
  respMsgtypes : tables.respMsgtypes.length = tables.respXids.length

theorem bookkept_fresh (connId : Int) : (fresh connId).Bookkept :=
  ⟨rfl, rfl, rfl, rfl, rfl, rfl⟩

theorem uint32_succ (value : Nat) :
    uint32 (uint32 value + 1) = uint32 (value + 1) := by
  simp only [uint32]
  omega

variable {tables : ConnTables}

theorem Bookkept.pushRequest (kept : tables.Bookkept) (msg : Message) :
    (tables.pushRequest msg).Bookkept := by
  refine ⟨?_, ?_, kept.responses, kept.respTimes, kept.respBytes,
    kept.respMsgtypes⟩
  · simp [ConnTables.pushRequest, kept.requests, uint32_succ]
  · simp [ConnTables.pushRequest, kept.reqTimes]

theorem Bookkept.pushSlot (kept : tables.Bookkept) (msg : Message) :
    (tables.pushSlot msg).Bookkept := by
  refine ⟨kept.requests, kept.reqTimes, ?_, ?_, ?_, ?_⟩
  · simp [ConnTables.pushSlot, kept.responses, uint32_succ]
  · simp [ConnTables.pushSlot, kept.respTimes]
  · simp [ConnTables.pushSlot, kept.respBytes]
  · simp [ConnTables.pushSlot, kept.respMsgtypes]

theorem Bookkept.pushSkipped (kept : tables.Bookkept) (skipped : Nat) :
    (tables.pushSkipped skipped).Bookkept := by
  have padded : ((ConnTables.pushSlot placeholder)^[skipped]
      tables).Bookkept := by
    induction skipped with
    | zero => exact kept
    | succ skipped induction =>
        rw [Function.iterate_succ_apply']
        exact induction.pushSlot placeholder
  exact ⟨padded.requests, padded.reqTimes, padded.responses, padded.respTimes,
    padded.respBytes, padded.respMsgtypes⟩

theorem Bookkept.pushResponse (kept : tables.Bookkept) (msg : Message) :
    (tables.pushResponse msg).Bookkept := by
  have renamed : ({ tables with lastResponseXid := msg.xid }).Bookkept :=
    ⟨kept.requests, kept.reqTimes, kept.responses, kept.respTimes,
      kept.respBytes, kept.respMsgtypes⟩
  exact renamed.pushSlot msg

theorem Bookkept.fillSlot (kept : tables.Bookkept) (index : Nat)
    (msg : Message) : (tables.fillSlot index msg).Bookkept := by
  refine ⟨kept.requests, kept.reqTimes, ?_, ?_, ?_, ?_⟩
  · simpa [ConnTables.fillSlot] using kept.responses
  · simpa [ConnTables.fillSlot] using kept.respTimes
  · simpa [ConnTables.fillSlot] using kept.respBytes
  · simpa [ConnTables.fillSlot] using kept.respMsgtypes

theorem Bookkept.answer (kept : tables.Bookkept) (msg : Message)
    (matched : Matched) : (tables.answer msg matched).Bookkept := by
  cases matched with
  | rejected => exact kept
  | unending => exact kept
  | late index => exact kept.fillSlot index msg
  | inOrder index => exact kept.pushResponse msg
  | skipping index skipped => exact (kept.pushSkipped skipped).pushResponse msg

theorem Bookkept.step (kept : tables.Bookkept) (event : ConnEvent) :
    (tables.step event).Bookkept := by
  cases event with
  | request msg => exact kept.pushRequest msg
  | response msg pastEnd => exact kept.answer msg _

theorem Bookkept.run (kept : tables.Bookkept) (events : List ConnEvent) :
    (tables.run events).Bookkept := by
  induction events generalizing tables with
  | nil => exact kept
  | cons event events induction => exact induction (kept.step event)

theorem pushSlot_iterate_reqs (msg : Message) (count : Nat)
    (tables : ConnTables) :
    ((pushSlot msg)^[count] tables).reqXids = tables.reqXids ∧
      ((pushSlot msg)^[count] tables).reqTimes = tables.reqTimes := by
  induction count with
  | zero => exact ⟨rfl, rfl⟩
  | succ count induction =>
      rw [Function.iterate_succ_apply']
      exact induction

theorem answer_reqs (msg : Message) (tables : ConnTables)
    (matched : Matched) :
    (tables.answer msg matched).reqXids = tables.reqXids ∧
      (tables.answer msg matched).reqTimes = tables.reqTimes := by
  cases matched with
  | rejected => exact ⟨rfl, rfl⟩
  | unending => exact ⟨rfl, rfl⟩
  | late index => exact ⟨rfl, rfl⟩
  | inOrder index => exact ⟨rfl, rfl⟩
  | skipping index skipped =>
      exact pushSlot_iterate_reqs placeholder skipped tables

theorem run_reqs (tables : ConnTables) (events : List ConnEvent) :
    (tables.run events).reqXids = tables.reqXids ++ issued events ∧
      (tables.run events).reqTimes =
        tables.reqTimes ++ (requestsOf events).map Message.time := by
  induction events using List.reverseRecOn with
  | nil => simp [issued]
  | append_singleton past event induction =>
      rw [run_snoc, issued_append, requestsOf_append]
      cases event with
      | request msg =>
          simp [ConnTables.step, ConnTables.pushRequest, induction, issued]
      | response msg pastEnd =>
          have unchanged := answer_reqs msg (tables.run past)
            ((tables.run past).matchResponse pastEnd msg.xid)
          simp [ConnTables.step, respond, unchanged, induction, issued]

end ConnTables

end Perfbench
