import Perfbench.Counter.Arrivals
import Perfbench.Counter.StrayResponse

/-!
# The indices of the searches

Both searches start at the response count, and the first read there comes
before any bounds check.  A response reads and writes within the tables
exactly when it is a copy of the last one, or the count is below the number of
requests and the late search can neither pass below zero nor stop at a slot
that does not exist.
-/

namespace Perfbench

/-- A use that `count_response` makes of `req_search_index`. -/
inductive Access where
  | readReqXid (index : Nat)
  | decrement (index : Nat)
  | writeResp (index : Nat)
  | readReqTime (index : Nat)

/-- Within the tables, and not counting down below zero. -/
def Access.Safe (tables : ConnTables) : Access → Prop
  | .readReqXid index => index < tables.reqXids.length
  | .decrement index => 0 < index
  | .writeResp index =>
      index < tables.respXids.length ∧ index < tables.respMsgtypes.length ∧
        index < tables.respTimes.length ∧ index < tables.respBytes.length
  | .readReqTime index => index < tables.reqTimes.length

namespace ConnTables

/-- The accesses of the late-arrival branch; an index is counted down when it
is not a hit. -/
def lateAccesses (pastEnd : PastEnd) (tables : ConnTables) (respXid : Nat) :
    List Access :=
  let hit := tables.answersAt pastEnd respXid
  let tested := IndexSearch.testedDown (2 ^ 32) hit (2 ^ 32) tables.searchStart
  tested.map .readReqXid ++
    (tested.filter (fun index => !hit index)).map .decrement ++
    match tables.searchLate pastEnd respXid with
    | none => []
    | some index => [.writeResp index, .readReqTime index]

/-- The accesses of the skip-ahead branch. -/
def skipAccesses (pastEnd : PastEnd) (tables : ConnTables) (respXid : Nat) :
    List Access :=
  (IndexSearch.testedUp (2 ^ 32) (tables.answersAt pastEnd respXid)
      tables.lastRequestIndex (2 ^ 32) tables.searchStart).map .readReqXid ++
    match tables.searchSkipped pastEnd respXid with
    | none => []
    | some (index, _) => [.readReqTime index]

/-- What `count_response` does with its search index. -/
def accesses (pastEnd : PastEnd) (tables : ConnTables) (respXid : Nat) :
    List Access :=
  if respXid = tables.lastResponseXid then []
  else
    .readReqXid tables.searchStart ::
      if respXid < tables.lastResponseXid then
        tables.lateAccesses pastEnd respXid
      else if tables.readXid pastEnd tables.searchStart < respXid ∧
          respXid ≠ 0 then
        tables.skipAccesses pastEnd respXid
      else [.readReqTime tables.searchStart]

/-- The start of the search is the index of a request; a late search starts
above zero or stops at once, and stops at its start only where that slot
exists. -/
def InReach (tables : ConnTables) (respXid : Nat) : Prop :=
  respXid = tables.lastResponseXid ∨
    (tables.searchStart < tables.reqXids.length ∧
      (respXid < tables.lastResponseXid →
        (0 < tables.searchStart ∨
          tables.reqXids[tables.searchStart]? = some respXid) ∧
        (tables.reqXids[tables.searchStart]? = some respXid →
          tables.searchStart < tables.respXids.length)))

variable {tables : ConnTables} {pastEnd : PastEnd} {respXid : Nat}

theorem answersAt_inside {index : Nat}
    (inside : index < tables.reqXids.length) :
    tables.answersAt pastEnd respXid index = true ↔
      tables.reqXids[index]? = some respXid := by
  simp only [answersAt, readXid, List.getD_eq_getElem?_getD,
    List.getElem?_eq_getElem inside, Option.getD_some, beq_iff_eq,
    Option.some.injEq]
  exact eq_comm

theorem Bookkept.searchStart_le (kept : tables.Bookkept) :
    tables.searchStart ≤ tables.respXids.length := by
  have clamped : tables.searchStart ≤ uint32 tables.respXids.length := by
    rw [searchStart, kept.responses]
    exact clampToInt_le (uint32_lt _)
  exact Nat.le_trans clamped (Nat.mod_le _ _)

theorem Bookkept.writeResp_safe_iff (kept : tables.Bookkept) (index : Nat) :
    (Access.writeResp index).Safe tables ↔ index < tables.respXids.length := by
  simp [Access.Safe, kept.respMsgtypes, kept.respTimes, kept.respBytes]

theorem testedDown_hit (hit : tables.answersAt pastEnd respXid
      tables.searchStart = true) :
    IndexSearch.testedDown (2 ^ 32) (tables.answersAt pastEnd respXid) (2 ^ 32)
        tables.searchStart = [tables.searchStart] ∧
      tables.searchLate pastEnd respXid = some tables.searchStart := by
  have fuel : (2 : Nat) ^ 32 = (2 ^ 32 - 1) + 1 := by decide
  rw [searchLate]
  generalize tables.searchStart = start at hit ⊢
  rw [fuel, IndexSearch.testedDown, IndexSearch.searchDown, ← fuel, if_pos hit,
    if_pos hit]
  exact ⟨rfl, rfl⟩

theorem start_tested :
    tables.searchStart ∈ IndexSearch.testedDown (2 ^ 32)
      (tables.answersAt pastEnd respXid) (2 ^ 32) tables.searchStart := by
  have fuel : (2 : Nat) ^ 32 = (2 ^ 32 - 1) + 1 := by decide
  have member := @IndexSearch.start_mem_testedDown (2 ^ 32)
    (tables.answersAt pastEnd respXid) (2 ^ 32 - 1) tables.searchStart
  rwa [← fuel] at member

theorem Bookkept.lateAccesses_safe (kept : tables.Bookkept)
    (inside : tables.searchStart < tables.reqXids.length)
    (noWrap : 0 < tables.searchStart ∨
      tables.reqXids[tables.searchStart]? = some respXid)
    (slotExists : tables.reqXids[tables.searchStart]? = some respXid →
      tables.searchStart < tables.respXids.length) :
    ∀ access ∈ tables.lateAccesses pastEnd respXid, access.Safe tables := by
  have small := tables.searchStart_lt
  have within := kept.searchStart_le
  have reqTimes := kept.reqTimes
  intro access member
  simp only [lateAccesses] at member
  cases hit : tables.answersAt pastEnd respXid tables.searchStart with
  | true =>
      obtain ⟨tested, found⟩ := testedDown_hit hit
      have exists_slot := slotExists ((answersAt_inside inside).mp hit)
      rw [tested, found] at member
      simp only [List.map_cons, List.map_nil, List.filter_cons, hit,
        Bool.not_true, Bool.false_eq_true, if_false, List.filter_nil,
        List.append_nil, List.cons_append, List.nil_append, List.mem_cons,
        List.not_mem_nil, or_false] at member
      rcases member with rfl | rfl | rfl
      · exact inside
      · exact (kept.writeResp_safe_iff _).mpr exists_slot
      · simpa [Access.Safe, reqTimes] using inside
  | false =>
      have positive : 0 < tables.searchStart := by
        rcases noWrap with positive | same
        · exact positive
        · rw [← @answersAt_inside tables pastEnd respXid _ inside, hit] at same
          exact absurd same (by decide)
      have range : ∀ index ∈ IndexSearch.testedDown (2 ^ 32)
          (tables.answersAt pastEnd respXid) (2 ^ 32) tables.searchStart,
            0 < index ∧ index ≤ tables.searchStart :=
        fun index tested =>
          IndexSearch.testedDown_range positive (by omega) tested
      rcases List.mem_append.mp member with searched | finished
      · rcases List.mem_append.mp searched with read | counted
        · obtain ⟨index, tested, rfl⟩ := List.mem_map.mp read
          have bounds := range index tested
          exact Nat.lt_of_le_of_lt bounds.2 inside
        · obtain ⟨index, missed, rfl⟩ := List.mem_map.mp counted
          exact (range index (List.mem_of_mem_filter missed)).1
      · cases found : tables.searchLate pastEnd respXid with
        | none => simp [found] at finished
        | some index =>
            obtain ⟨isHit, tested⟩ := IndexSearch.searchDown_some found
            have bounds := range index tested
            have below : index < tables.searchStart := by
              rcases Nat.lt_or_eq_of_le bounds.2 with lower | same
              · exact lower
              · rw [same, hit] at isHit
                exact absurd isHit (by decide)
            simp only [found, List.mem_cons, List.not_mem_nil, or_false]
              at finished
            rcases finished with rfl | rfl
            · rw [kept.writeResp_safe_iff]
              omega
            · simp only [Access.Safe, reqTimes]
              omega

theorem Bookkept.skipAccesses_safe (kept : tables.Bookkept)
    (inside : tables.searchStart < tables.reqXids.length) :
    ∀ access ∈ tables.skipAccesses pastEnd respXid, access.Safe tables := by
  have last := kept.lastRequestIndex_lt (by omega)
  have tested_inside : ∀ index ∈ IndexSearch.testedUp (2 ^ 32)
      (tables.answersAt pastEnd respXid) tables.lastRequestIndex (2 ^ 32)
        tables.searchStart, index < tables.reqXids.length := by
    intro index tested
    rcases IndexSearch.testedUp_range tested with atStart | within
    · rw [atStart]
      exact inside
    · exact Nat.lt_of_le_of_lt within last
  intro access member
  rcases List.mem_append.mp member with read | finished
  · obtain ⟨index, tested, rfl⟩ := List.mem_map.mp read
    exact tested_inside index tested
  · cases found : tables.searchSkipped pastEnd respXid with
    | none => simp [found] at finished
    | some result =>
        obtain ⟨_, tested⟩ := @IndexSearch.searchUp_some _ _ _ _ _ _ result.1
          result.2 found
        simp only [found, List.mem_singleton] at finished
        subst finished
        simpa [Access.Safe, kept.reqTimes] using tested_inside _ tested

theorem Bookkept.accesses_safe_iff (kept : tables.Bookkept) :
    (∀ access ∈ tables.accesses pastEnd respXid, access.Safe tables) ↔
      tables.InReach respXid := by
  by_cases repeated : respXid = tables.lastResponseXid
  · simp [accesses, InReach, repeated]
  · simp only [accesses, InReach, repeated, if_false, false_or,
      List.forall_mem_cons, Access.Safe]
    constructor
    · rintro ⟨inside, rest⟩
      refine ⟨inside, ?_⟩
      intro late
      rw [if_pos late] at rest
      constructor
      · cases hit : tables.answersAt pastEnd respXid tables.searchStart with
        | true => exact .inr ((answersAt_inside inside).mp hit)
        | false =>
            refine .inl (rest (.decrement tables.searchStart) ?_)
            refine List.mem_append_left _ (List.mem_append_right _ ?_)
            refine List.mem_map_of_mem (List.mem_filter.mpr ⟨start_tested, ?_⟩)
            simp [hit]
      · intro same
        have hit := (@answersAt_inside tables pastEnd respXid _ inside).mpr same
        have found := (testedDown_hit hit).2
        have written := rest (.writeResp tables.searchStart) (by
          refine List.mem_append_right _ ?_
          simp [found])
        exact (kept.writeResp_safe_iff _).mp written
    · rintro ⟨inside, late⟩
      refine ⟨inside, ?_⟩
      by_cases lower : respXid < tables.lastResponseXid
      · rw [if_pos lower]
        exact kept.lateAccesses_safe inside (late lower).1 (late lower).2
      · rw [if_neg lower]
        split
        · exact kept.skipAccesses_safe inside
        · simpa [Access.Safe, kept.reqTimes] using inside

end ConnTables

/-- What holds of every response of a connection and the tables it meets. -/
def EveryResponse (connIndex : Nat)
    (holds : ConnTables → Message → PastEnd → Prop) (counter : Counter)
    (events : List Event) : Prop :=
  ∀ past future msg pastEnd tables,
    events = past ++ .response connIndex msg pastEnd :: future →
    (counter.run past).conns[connIndex]? = some tables →
    holds tables msg pastEnd

/-- A run on a new connection, with any xids, losses and copies, stays within
its tables exactly when every response is in reach. -/
theorem run_indexSafe_iff {counter : Counter} {connIndex : Nat} {connId : Int}
    (created : counter.conns[connIndex]? = some (ConnTables.fresh connId))
    (events : List Event) :
    EveryResponse connIndex
        (fun tables msg pastEnd =>
          ∀ access ∈ tables.accesses pastEnd msg.xid, access.Safe tables)
        counter events ↔
      EveryResponse connIndex (fun tables msg _ => tables.InReach msg.xid)
        counter events := by
  have kept : ∀ past tables,
      (counter.run past).conns[connIndex]? = some tables →
        tables.Bookkept := by
    intro past tables present
    rw [Counter.run_conn created past, Option.some.injEq] at present
    rw [← present]
    exact (ConnTables.bookkept_fresh connId).run _
  constructor
  · intro safe past future msg pastEnd tables split present
    exact (kept past tables present).accesses_safe_iff.mp
      (safe past future msg pastEnd tables split present)
  · intro inReach past future msg pastEnd tables split present
    exact (kept past tables present).accesses_safe_iff.mpr
      (inReach past future msg pastEnd tables split present)

/-- On the runs of the control plane a response is in reach when it is a copy
of the last one or some request after the last one answered is open. -/
theorem ConnRun.inReach_iff {base : Nat} {connId : Int}
    {past : List ConnEvent} (run : ConnRun base past) {xid : Nat}
    (answersIssued : xid ∈ issued past) :
    ((ConnTables.fresh connId).run past).InReach xid ↔
      xid = ((ConnTables.fresh connId).run past).lastResponseXid ∨
        ((ConnTables.fresh connId).run past).responses <
          ((ConnTables.fresh connId).run past).requests := by
  obtain ⟨shows, aligned⟩ := @Exchange.refines base connId past run
  rw [shows]
  generalize Exchange.ofRun base past = exchange at aligned
  obtain ⟨target, _, xidEq⟩ :=
    (mem_issued_iff run.numbered xid).mp answersIssued
  have start := @Exchange.Aligned.searchStart base exchange connId aligned
  have length : (exchange.tables connId base).reqXids.length =
      exchange.requests.length := by simp [Exchange.tables]
  simp only [ConnTables.InReach, start, length]
  constructor
  · rintro (same | ⟨inside, _⟩)
    · exact .inl same
    · exact .inr inside
  · rintro (same | inside)
    · exact .inl same
    · change exchange.answers.length < exchange.requests.length at inside
      refine .inr ⟨inside, ?_⟩
      intro late
      simp only [Exchange.tables] at late
      have nextXid : (exchange.tables connId base).reqXids[
          exchange.answers.length]? =
            some (base + exchange.answers.length + 1) := by
        have next := List.getElem?_eq_getElem inside
        have nextXid := aligned.requestXid _ _ next
        simp [Exchange.tables, next, nextXid]
      rw [nextXid]
      split at late
      · omega
      · refine ⟨.inl (by omega), ?_⟩
        intro same
        have : base + exchange.answers.length + 1 = xid := by simpa using same
        omega

theorem run_indexSafe_iff_overtakenReplies :
    EveryResponse 0
        (fun tables msg pastEnd =>
          ∀ access ∈ tables.accesses pastEnd msg.xid, access.Safe tables)
        (Counter.initial.connEstablished 7) overtakenReplies ↔
      EveryResponse 0 (fun tables msg _ => tables.InReach msg.xid)
        (Counter.initial.connEstablished 7) overtakenReplies :=
  run_indexSafe_iff rfl overtakenReplies

/-- Three requests, the reply to the last of them, and then that to the
second. -/
def lastReplyFirst : List Event :=
  [ask 0 0 1, ask 0 1 2, ask 0 2 3, reply 0 2 4, reply 0 1 5]

/-- The late reply makes the search read the request xids at their length. -/
theorem run_lastReplyFirst_outside :
    History.Admissible AnswersIssued (onConn 0 lastReplyFirst) ∧
      ¬EveryResponse 0
        (fun tables msg pastEnd =>
          ∀ access ∈ tables.accesses pastEnd msg.xid, access.Safe tables)
        (Counter.initial.connEstablished 7) lastReplyFirst := by
  constructor
  · decide
  · intro safe
    have accesses := safe (lastReplyFirst.take 4) [] (replyMessage 0 1 5)
      zeroPastEnd _ rfl (Counter.run_conn rfl _)
    have kept := (ConnTables.bookkept_fresh 7).run
      (onConn 0 (lastReplyFirst.take 4))
    have inReach := kept.accesses_safe_iff.mp accesses
    unfold ConnTables.InReach at inReach
    exact absurd inReach (by decide)

end Perfbench
