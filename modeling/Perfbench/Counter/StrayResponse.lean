import Perfbench.Counter.Connections

/-!
# Responses to no request

A response whose xid was never issued on its connection is rejected by the
searches alone.  The branch for the next response makes no search: it records
every xid between the last response and the next request of the connection,
and one slot too many is then filled for good.
-/

namespace Perfbench

/-- The response side of the counter is the same before and after. -/
structure ResponsesUnchanged (before after : Counter) : Prop where
  counts : ∀ connIndex,
    after.responseCounts connIndex = before.responseCounts connIndex
  lastResponseXid : after.conns.map ConnTables.lastResponseXid =
    before.conns.map ConnTables.lastResponseXid

/-- The indices that the late search reads when it finds nothing; from index
zero it wraps and goes through all of them. -/
def Walked (start index : Nat) : Prop :=
  (start = 0 ∧ index < 2 ^ 32) ∨ (0 < index ∧ index ≤ start)

/-- Where a stray response ends in one of the early returns. -/
def StrayRejected (pastEnd : PastEnd) (tables : ConnTables) (xid : Nat) :
    Prop :=
  xid = tables.lastResponseXid ∨
    (xid < tables.lastResponseXid ∧
      ∀ index, tables.reqXids.length ≤ index →
        Walked tables.searchStart index → pastEnd.xids index ≠ xid) ∨
    (tables.lastResponseXid < xid ∧
      tables.readXid pastEnd tables.searchStart < xid)

namespace ConnTables

variable {tables : ConnTables} {pastEnd : PastEnd} {xid : Nat}

theorem readXid_inside {index : Nat} (inside : index < tables.reqXids.length) :
    tables.readXid pastEnd index ∈ tables.reqXids := by
  simp [readXid, inside]

theorem readXid_outside {index : Nat}
    (outside : tables.reqXids.length ≤ index) :
    tables.readXid pastEnd index = pastEnd.xids index := by
  simp [readXid, outside]

theorem searchStart_lt (tables : ConnTables) : tables.searchStart < 2 ^ 31 :=
  clampToInt_lt tables.responses

theorem Bookkept.lastRequestIndex_lt (kept : tables.Bookkept)
    (sent : 0 < tables.reqXids.length) :
    tables.lastRequestIndex < tables.reqXids.length := by
  rw [lastRequestIndex, kept.requests]
  simp only [uint32, uint32Pred]
  omega

theorem searchLate_eq_none_iff :
    tables.searchLate pastEnd xid = none ↔
      ∀ index, Walked tables.searchStart index →
        tables.answersAt pastEnd xid index = false := by
  have small := tables.searchStart_lt
  rw [searchLate]
  by_cases zero : tables.searchStart = 0
  · have fuel : (2 : Nat) ^ 32 = (2 ^ 32 - 1) + 1 := by decide
    have walked : ∀ index, Walked 0 index ↔ index < 2 ^ 32 := by
      intro index
      constructor
      · rintro (⟨_, inside⟩ | ⟨positive, bound⟩)
        · exact inside
        · omega
      · exact fun inside => .inl ⟨rfl, inside⟩
    simp only [zero, walked]
    generalize tables.answersAt pastEnd xid = hit
    have top := @IndexSearch.searchDown_eq_none_iff (2 ^ 32) hit
      (2 ^ 32 - 1) (2 ^ 32 - 1) (by decide) (by decide) (Nat.le_refl _)
    have wrapped := @IndexSearch.searchDown_from_zero (2 ^ 32) hit
      (2 ^ 32 - 1) (by decide)
    rw [← fuel] at wrapped
    rw [wrapped]
    cases first : hit 0 with
    | true =>
        simp only [if_true, reduceCtorEq, false_iff]
        intro noHit
        have := noHit 0 (by decide)
        rw [first] at this
        exact absurd this (by decide)
    | false =>
        rw [if_neg (by decide), top]
        constructor
        · intro noHit index inside
          rcases Nat.eq_zero_or_pos index with rfl | positive
          · exact first
          · exact noHit index positive (by omega)
        · intro noHit index _ inside
          exact noHit index (by omega)
  · simp only [Walked, zero, false_and, false_or, and_imp]
    exact IndexSearch.searchDown_eq_none_iff (by omega) (by omega) (by omega)

theorem searchSkipped_stray (kept : tables.Bookkept)
    (sent : 0 < tables.reqXids.length) (stray : xid ∉ tables.reqXids)
    (ahead : tables.readXid pastEnd tables.searchStart < xid) :
    tables.searchSkipped pastEnd xid = none := by
  rw [searchSkipped, IndexSearch.searchUp_eq_none_iff_tested]
  intro tested member
  have last := kept.lastRequestIndex_lt sent
  rcases IndexSearch.testedUp_range member with atStart | within
  · have different : xid ≠ tables.readXid pastEnd tables.searchStart := by
      omega
    simp [answersAt, atStart, different]
  · have read := @readXid_inside tables pastEnd tested (by omega)
    have different : xid ≠ tables.readXid pastEnd tested :=
      fun same => stray (same ▸ read)
    simp [answersAt, different]

/-- The late search meets a stray xid only past the end of the requests. -/
theorem searchLate_stray (stray : xid ∉ tables.reqXids) :
    tables.searchLate pastEnd xid = none ↔
      ∀ index, tables.reqXids.length ≤ index →
        Walked tables.searchStart index → pastEnd.xids index ≠ xid := by
  rw [searchLate_eq_none_iff]
  constructor
  · intro noHit index outside walked same
    have missed := noHit index walked
    simp [answersAt, readXid_outside outside, same] at missed
  · intro noHit index walked
    rcases Nat.lt_or_ge index tables.reqXids.length with inside | outside
    · have different : xid ≠ tables.readXid pastEnd index :=
        fun same => stray (same ▸ readXid_inside inside)
      simp [answersAt, different]
    · have different : xid ≠ pastEnd.xids index :=
        Ne.symm (noHit index outside walked)
      simp [answersAt, readXid_outside outside, different]

theorem matchResponse_stray (kept : tables.Bookkept)
    (sent : 0 < tables.reqXids.length) (stray : xid ∉ tables.reqXids) :
    (tables.matchResponse pastEnd xid).index = none ↔
      StrayRejected pastEnd tables xid := by
  rcases Nat.lt_trichotomy xid tables.lastResponseXid with
    lower | same | higher
  · have notSame : xid ≠ tables.lastResponseXid := Nat.ne_of_lt lower
    have notHigher : ¬tables.lastResponseXid < xid := by omega
    have searched := @searchLate_stray tables pastEnd xid stray
    simp only [StrayRejected, notSame, lower, notHigher, false_and, or_false,
      false_or, true_and, ← searched, matchResponse, if_false, if_true]
    cases tables.searchLate pastEnd xid with
    | none => simp [Matched.index]
    | some index => simp [Matched.index]
  · simp [StrayRejected, matchResponse, same, Matched.index]
  · have notSame : xid ≠ tables.lastResponseXid := Ne.symm (Nat.ne_of_lt higher)
    have notLower : ¬xid < tables.lastResponseXid := by omega
    have positive : xid ≠ 0 := by omega
    simp only [StrayRejected, notSame, notLower, higher, false_and, false_or,
      true_and, matchResponse, if_false, positive, ne_eq,
      not_false_eq_true, and_true]
    by_cases ahead : tables.readXid pastEnd tables.searchStart < xid
    · rw [if_pos ahead, searchSkipped_stray kept sent stray ahead]
      simp [ahead]
    · rw [if_neg ahead]
      simp [ahead, Matched.index]

end ConnTables

namespace Counter

theorem responsesUnchanged_iff {counter : Counter} {connIndex : Nat}
    {tables : ConnTables} {pastEnd : PastEnd} {msg : Message}
    (present : counter.conns[connIndex]? = some tables) :
    ResponsesUnchanged counter (counter.countResponse pastEnd msg connIndex) ↔
      (tables.matchResponse pastEnd msg.xid).index = none := by
  have inside := (List.getElem?_eq_some_iff.mp present).1
  constructor
  · intro unchanged
    cases accepted : (tables.matchResponse pastEnd msg.xid).index with
    | none => rfl
    | some reqSearchIndex =>
        have counts := unchanged.counts connIndex
        simp only [responseCounts, countResponse, present, accepted,
          List.getElem?_set_self inside, Option.map_some, Option.some.injEq,
          ResponseCounts.mk.injEq] at counts
        obtain ⟨-, -, -, -, -, -, counted, -⟩ := counts
        exact absurd counted (int32_succ_ne counter.intervalResponses)
  · intro rejected
    have same : counter.countResponse pastEnd msg connIndex = counter := by
      simp [countResponse, present, rejected]
    rw [same]
    exact ⟨fun _ => rfl, rfl⟩

end Counter

/-- In every state reached, whatever was sent and received before, a response
to no request of its connection changes nothing exactly when it is rejected
before the branch that makes no search. -/
theorem stray_ignored_iff {events : List Event} {connIndex : Nat}
    {tables : ConnTables} {msg : Message} {pastEnd : PastEnd}
    (connected : History.Admissible OnEstablished events)
    (present : (Counter.initial.run events).conns[connIndex]? = some tables)
    (sent : requestsOf (onConn connIndex events) ≠ [])
    (stray : msg.xid ∉ issued (onConn connIndex events)) :
    ResponsesUnchanged (Counter.initial.run events)
        ((Counter.initial.run events).countResponse pastEnd msg connIndex) ↔
      StrayRejected pastEnd tables msg.xid := by
  obtain ⟨kept, reqXids⟩ := Counter.initial_bookkept connected present
  rw [Counter.responsesUnchanged_iff present]
  apply ConnTables.matchResponse_stray kept
  · rw [reqXids, issued, List.length_map]
    exact List.length_pos_of_ne_nil sent
  · rw [reqXids]
    exact stray

/-- A request on each of two connections. -/
def twoConnections : List Event :=
  [.established 7, .established 8, ask 0 0 1, ask 1 0 2]

theorem twoConnections_connected :
    History.Admissible OnEstablished twoConnections := by
  decide

/-- The reply to the second connection's own numbering is rejected when it is
beyond everything sent. -/
theorem stray_ignored_iff_twoConnections :
    ResponsesUnchanged (Counter.initial.run twoConnections)
        ((Counter.initial.run twoConnections).countResponse zeroPastEnd
          (replyMessage 1 1 3) 1) ↔
      StrayRejected zeroPastEnd
        ((ConnTables.fresh 8).pushRequest
          { xid := 10000001, time := 2, bytes := 8, msgType := 5 })
        (replyMessage 1 1 3).xid :=
  stray_ignored_iff twoConnections_connected (by decide) (by decide)
    (by decide)

/-- The reply to the first connection's request, received on the second, is
recorded as the answer to the second connection's request. -/
theorem stray_foreignReply :
    History.Admissible OnEstablished twoConnections ∧
      (∀ connIndex, History.Admissible (Numbered (xidBase connIndex + 1))
        (onConn connIndex twoConnections)) ∧
      (replyMessage 0 0 3).xid ∉ issued (onConn 1 twoConnections) ∧
      ¬ResponsesUnchanged (Counter.initial.run twoConnections)
        ((Counter.initial.run twoConnections).countResponse zeroPastEnd
          (replyMessage 0 0 3) 1) := by
  refine ⟨twoConnections_connected, ?_, by decide, ?_⟩
  · intro connIndex
    simp only [twoConnections, onConn_cons, onConn_nil, Event.onConn, ask]
    by_cases first : 0 = connIndex
    · simp [← first, History.Admissible, History.AdmissibleFrom, Numbered,
        requestsOf]
    · by_cases second : 1 = connIndex
      · simp [← second, History.Admissible, History.AdmissibleFrom, Numbered,
          requestsOf]
      · simp [first, second, History.Admissible, History.AdmissibleFrom]
  · intro unchanged
    have counts := unchanged.counts 1
    exact absurd counts (by decide)

end Perfbench
