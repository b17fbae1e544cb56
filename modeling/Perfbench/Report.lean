import Mathlib.Algebra.BigOperators.Group.List.Basic
import Perfbench.Counter.Connections
import Perfbench.Counter.Duplicates

/-!
# The final report

`Counter::final_report` prints the sum of the response counts as the messages
received.  The count of a connection is the length of its response tables,
placeholders included, so the sum is the number of responses recorded exactly
when no table holds a placeholder.
-/

namespace Perfbench

/-- The slots of a connection that hold a response. -/
def ConnTables.recorded (tables : ConnTables) : Nat :=
  tables.respXids.countP (fun xid => xid != 0)

/-- The responses recorded in the tables of all connections. -/
def Counter.recorded (counter : Counter) : Nat :=
  (counter.conns.map ConnTables.recorded).sum

/-- The first response is that to the first request, and every request before
an answered one is answered.  A response to zero is none for the counter. -/
def AnsweredWithoutGap (first : Nat) (events : List ConnEvent) : Prop :=
  (∀ xid, (answered events).find? (fun xid => xid != 0) = some xid →
      xid = first) ∧
    ∀ xid ∈ answered events, ∀ earlier ∈ issued events,
      earlier < xid → earlier ∈ answered events

theorem foldl_int32_of_sum_lt (values : List Nat) (total : Nat)
    (fits : total + values.sum < 2 ^ 31) :
    values.foldl (fun (total : Int) (value : Nat) => int32 (total + value))
      total = (total + values.sum : Nat) := by
  induction values generalizing total with
  | nil => simp
  | cons value values induction =>
      rw [List.sum_cons] at fits
      have added : int32 ((total : Int) + value) =
          ((total + value : Nat) : Int) := by
        rw [int32_of_bounds (by omega) (by omega)]
        exact (Int.natCast_add total value).symm
      rw [List.foldl_cons, added, induction (total + value) (by omega),
        List.sum_cons, Nat.add_assoc]

theorem Counter.accumulate_of_sum_lt {values : List Nat}
    (fits : values.sum < 2 ^ 31) : Counter.accumulate values = values.sum := by
  have folded := foldl_int32_of_sum_lt values 0 (by omega)
  simpa [Counter.accumulate] using folded

/-- Sums of pointwise ordered values agree only when all the values do. -/
theorem sum_eq_sum_iff_of_le {α : Type} {lower upper : α → Nat}
    (items : List α) (le : ∀ item ∈ items, lower item ≤ upper item) :
    (items.map lower).sum ≤ (items.map upper).sum ∧
      ((items.map upper).sum = (items.map lower).sum ↔
        ∀ item ∈ items, upper item = lower item) := by
  induction items with
  | nil => simp
  | cons item items induction =>
      have here := le item List.mem_cons_self
      obtain ⟨restLe, restEq⟩ := induction
        (fun other member => le other (List.mem_cons_of_mem item member))
      simp only [List.map_cons, List.sum_cons, List.forall_mem_cons]
      rw [← restEq]
      omega

theorem ConnTables.recorded_add_placeholders (tables : ConnTables) :
    tables.recorded + tables.respXids.count 0 = tables.respXids.length := by
  have split := @List.length_eq_countP_add_countP Nat (fun xid => xid != 0)
    tables.respXids
  have rest : tables.respXids.countP (fun xid => decide ¬(xid != 0) = true) =
      tables.respXids.count 0 := by
    apply List.countP_congr
    intro xid _
    simp
  rw [ConnTables.recorded]
  omega

namespace Exchange

variable {base first : Nat} {connId : Int}

theorem find?_answered {events : List ConnEvent} (run : ConnRun base events) :
    (answered events).find? (fun xid => xid != 0) =
      (responsesOf events).head?.map Message.xid := by
  have positive : ∀ xid ∈ answered events, xid ≠ 0 := by
    intro xid member
    obtain ⟨position, _, xidEq⟩ := (mem_issued_iff run.numbered xid).mp
      (answered_issued run.answersIssued xid member)
    omega
  rw [answered] at positive ⊢
  cases responses : responsesOf events with
  | nil => rfl
  | cons head tail =>
      have headPositive := positive head.xid (by simp [responses])
      simp [headPositive]

/-- The first slot is that of the first response, if it answers the first
request. -/
theorem firstSlot_filled_iff {events : List ConnEvent}
    (run : ConnRun base events)
    (once : History.Admissible AnswersOnce events) :
    (ofRun base events).answers.lookup 0 ≠ none ↔
      ∃ msg, (responsesOf events).head? = some msg ∧ msg.xid = base + 1 := by
  rw [(answers_ofRun run once).1, kept, if_pos rfl,
    Option.ne_none_iff_exists']
  simp only [Option.filter_eq_some_iff, beq_iff_eq]

/-- The answers have no gap exactly when the requests are answered without
one. -/
theorem gaps_ofRun_eq_zero_iff {events : List ConnEvent}
    (run : ConnRun base events)
    (once : History.Admissible AnswersOnce events) :
    (ofRun base events).answers.gaps = 0 ↔
      AnsweredWithoutGap (base + 1) events := by
  have isEmpty := (answers_ofRun run once).2
  have firstSlot := firstSlot_filled_iff run once
  obtain ⟨below, reached⟩ := answers_reach run
  rw [GapTable.gaps_eq_zero_iff]
  constructor
  · intro full
    constructor
    · intro xid found
      have nonempty : (ofRun base events).answers.length ≠ 0 := by
        rw [ne_eq, isEmpty]
        intro none
        rw [answered, none] at found
        exact absurd found (by simp)
      obtain ⟨msg, first, msgXid⟩ := firstSlot.mp (full 0 (by omega))
      rw [find?_answered run, first] at found
      simp only [Option.map_some, Option.some.injEq] at found
      rw [← found, msgXid]
    · intro xid member earlier earlierIssued before
      have inside := below xid member
      obtain ⟨position, _, rfl⟩ :=
        (mem_issued_iff run.numbered earlier).mp earlierIssued
      rcases Nat.eq_zero_or_pos position with rfl | positive
      · obtain ⟨msg, first, msgXid⟩ := firstSlot.mp (full 0 (by omega))
        rw [Nat.add_zero, ← msgXid]
        exact List.mem_map_of_mem (List.mem_of_mem_head? first)
      · rw [Nat.add_right_comm, ← filled_iff_answered run positive]
        exact full position (by omega)
  · rintro ⟨first, closed⟩ position inside
    have top : base + (ofRun base events).answers.length ∈ answered events := by
      rcases reached with none | member
      · omega
      · exact member
    rcases Nat.eq_zero_or_pos position with rfl | positive
    · refine firstSlot.mpr ?_
      cases responses : responsesOf events with
      | nil =>
          rw [isEmpty.mpr responses] at inside
          omega
      | cons head tail =>
          refine ⟨head, rfl, first head.xid ?_⟩
          rw [find?_answered run, responses]
          rfl
    · rw [filled_iff_answered run positive]
      obtain ⟨last, lastInside, lastXid⟩ := (mem_issued_iff run.numbered _).mp
        (answered_issued run.answersIssued _ top)
      rcases Nat.lt_or_eq_of_le (Nat.succ_le_of_lt inside) with lower | same
      · apply closed _ top
        · exact (mem_issued_iff run.numbered _).mpr
            ⟨position, by omega, by omega⟩
        · omega
      · have equal : base + position + 1 =
            base + (ofRun base events).answers.length := by omega
        rw [equal]
        exact top

/-- Numbered from zero, a run has no gap when nothing else than its first
request is answered. -/
theorem gaps_raised_eq_zero_iff {events : List ConnEvent}
    (run : ConsecutiveRun 0 events) :
    (ofRun 0 (raisedEvents events)).answers.gaps = 0 ↔
      AnsweredWithoutGap 0 events := by
  obtain ⟨below, reached⟩ := answers_reach run.raised
  have firstEmpty := lookup_zero_raised run
  rw [GapTable.gaps_eq_zero_iff]
  constructor
  · intro full
    have onlyZero : ∀ xid ∈ answered events, xid = 0 := by
      intro xid member
      by_contra positive
      have inside := below _ ((mem_answered_raisedEvents events xid).mpr
        ⟨positive, member⟩)
      exact full 0 (by omega) firstEmpty
    constructor
    · intro xid found
      exact onlyZero xid (List.mem_of_find?_eq_some found)
    · intro xid member earlier _ before
      rw [onlyZero xid member] at before
      exact absurd before (Nat.not_lt_zero earlier)
  · rintro ⟨first, _⟩ position inside
    rcases reached with isEmpty | member
    · omega
    · obtain ⟨xid, xidEq⟩ : ∃ xid,
          0 + (ofRun 0 (raisedEvents events)).answers.length = xid + 1 :=
        ⟨(ofRun 0 (raisedEvents events)).answers.length - 1, by omega⟩
      rw [xidEq] at member
      obtain ⟨positive, answeredXid⟩ :=
        (mem_answered_raisedEvents events xid).mp member
      obtain ⟨counted, found⟩ : ∃ counted,
          (answered events).find? (fun xid => xid != 0) = some counted := by
        rw [← Option.isSome_iff_exists, List.find?_isSome]
        exact ⟨xid, answeredXid, by simpa using positive⟩
      have countedPositive := List.find?_some found
      rw [first counted found] at countedPositive
      exact absurd countedPositive (by simp)

theorem gaps_ofConsecutive_eq_zero_iff {events : List ConnEvent}
    (run : ConsecutiveRun first events)
    (once : History.Admissible AnswersOnce events) :
    (ofConsecutive first events).answers.gaps = 0 ↔
      AnsweredWithoutGap first events := by
  cases first with
  | zero => exact gaps_raised_eq_zero_iff run
  | succ base => exact gaps_ofRun_eq_zero_iff run once

theorem recorded_add_gaps {events : List ConnEvent}
    (run : ConsecutiveRun first events) :
    ((ConnTables.fresh connId).run events).recorded +
        (ofConsecutive first events).answers.gaps =
      ((ConnTables.fresh connId).run events).responses := by
  obtain ⟨responses, _, slots, placeholders⟩ :=
    @counts_ofConsecutive connId first events run
  rw [responses, ← slots, ← placeholders]
  exact ConnTables.recorded_add_placeholders _

end Exchange

/-- A connection counts what it records exactly when its requests are answered
without a gap. -/
theorem conn_responses_iff {events : List Event} {connIndex first : Nat}
    {tables : ConnTables}
    (connected : History.Admissible OnEstablished events)
    (runs : onConn connIndex events ≠ [] →
      ConsecutiveRun first (onConn connIndex events))
    (once : History.Admissible AnswersOnce (onConn connIndex events))
    (present : (Counter.initial.run events).conns[connIndex]? = some tables) :
    tables.recorded ≤ tables.responses ∧
      (tables.responses = tables.recorded ↔
        AnsweredWithoutGap first (onConn connIndex events)) := by
  have inside : connIndex < connections events := by
    rw [← Counter.initial_conns_length]
    exact (List.getElem?_eq_some_iff.mp present).1
  obtain ⟨connId, shown⟩ := Counter.initial_conn connected inside
  rw [present, Option.some.injEq] at shown
  rw [shown]
  by_cases silent : onConn connIndex events = []
  · rw [silent]
    simp [ConnTables.fresh, ConnTables.recorded, AnsweredWithoutGap, answered]
  · have total := @Exchange.recorded_add_gaps first connId _ (runs silent)
    rw [← Exchange.gaps_ofConsecutive_eq_zero_iff (runs silent) once]
    omega

/-- The report counts exactly the responses recorded when on no connection a
request before an answered one is still open, or was answered too late to be
recorded. -/
theorem msgsReceived_eq_recorded_iff {firstXid : Nat → Nat}
    {events : List Event} (connected : History.Admissible OnEstablished events)
    (runs : ∀ connIndex, onConn connIndex events ≠ [] →
      ConsecutiveRun (firstXid connIndex) (onConn connIndex events))
    (once : ∀ connIndex,
      History.Admissible AnswersOnce (onConn connIndex events))
    (fits : ((Counter.initial.run events).conns.map
      ConnTables.responses).sum < 2 ^ 31) :
    (Counter.initial.run events).finalReport.msgsReceived =
        (Counter.initial.run events).recorded ↔
      ∀ connIndex, connIndex < connections events →
        AnsweredWithoutGap (firstXid connIndex) (onConn connIndex events) := by
  have eachConn := fun connIndex tables present =>
    @conn_responses_iff events connIndex _ tables connected (runs connIndex)
      (once connIndex) present
  have length := Counter.initial_conns_length events
  generalize Counter.initial.run events = counter at *
  have ordered : ∀ tables ∈ counter.conns,
      tables.recorded ≤ tables.responses := by
    intro tables member
    obtain ⟨connIndex, present⟩ := List.mem_iff_getElem?.mp member
    exact (eachConn connIndex tables present).1
  have sums := (sum_eq_sum_iff_of_le counter.conns ordered).2
  rw [Counter.finalReport, Counter.accumulate_of_sum_lt fits, Counter.recorded,
    Int.natCast_inj, sums]
  constructor
  · intro equal connIndex inside
    have present := List.getElem?_eq_getElem (length ▸ inside)
    exact (eachConn connIndex _ present).2.mp
      (equal _ (List.getElem_mem _))
  · intro answered tables member
    obtain ⟨connIndex, present⟩ := List.mem_iff_getElem?.mp member
    have inside := (List.getElem?_eq_some_iff.mp present).1
    exact (eachConn connIndex tables present).2.mpr
      (answered connIndex (length ▸ inside))

/-- Two requests, of which only the second is answered. -/
def lostReply : List Event :=
  [.established 7, ask 0 0 1, ask 0 1 2, reply 0 1 3]

theorem lostReply_connected : History.Admissible OnEstablished lostReply := by
  decide

theorem lostReply_runs (connIndex : Nat)
    (nonempty : onConn connIndex lostReply ≠ []) :
    ConnRun (xidBase connIndex) (onConn connIndex lostReply) := by
  rcases connIndex with - | other
  · refine ConsecutiveRun.of_zeroPastEnd (by decide) ?_ (by decide) (by decide)
      (by decide) (by decide)
    simp [lostReply, onConn_cons, Event.onConn, ask, reply,
      ConnEvent.ZeroPastEnd]
  · exact absurd rfl nonempty

theorem lostReply_once (connIndex : Nat) :
    History.Admissible AnswersOnce (onConn connIndex lostReply) := by
  rcases connIndex with - | other
  · decide
  · exact History.admissible_nil

theorem msgsReceived_eq_recorded_iff_lostReply :
    (Counter.initial.run lostReply).finalReport.msgsReceived =
        (Counter.initial.run lostReply).recorded ↔
      ∀ connIndex, connIndex < connections lostReply →
        AnsweredWithoutGap (xidBase connIndex + 1)
          (onConn connIndex lostReply) :=
  msgsReceived_eq_recorded_iff lostReply_connected lostReply_runs
    lostReply_once (by decide)

/-- The report counts the lost response as received. -/
theorem msgsReceived_lostReply :
    History.Admissible OnEstablished lostReply ∧
      (∀ connIndex, onConn connIndex lostReply ≠ [] →
        ConnRun (xidBase connIndex) (onConn connIndex lostReply)) ∧
      (∀ connIndex,
        History.Admissible AnswersOnce (onConn connIndex lostReply)) ∧
      (Counter.initial.run lostReply).finalReport.msgsReceived = 2 ∧
      (Counter.initial.run lostReply).recorded = 1 :=
  ⟨lostReply_connected, lostReply_runs, lostReply_once, by decide, by decide⟩

end Perfbench
