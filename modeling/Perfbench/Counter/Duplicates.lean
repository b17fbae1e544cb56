import Perfbench.Counter.ZeroNumbering

/-!
# Repeated responses

`count_response` ignores a copy of the last response it recorded, and a copy
of the response to the connection's first request.  Every other copy goes
through the late branch, which counts down `missing_responses` for a slot that
was no placeholder: the counters stay off by one for the rest of the run.
-/

namespace Perfbench

/-- The copy answers the first request, or nothing higher is answered yet. -/
def HarmlessCopy (first : Nat) (past : List ConnEvent) (xid : Nat) : Prop :=
  xid = first ∨ ∀ other ∈ answered past, other ≤ xid

def CopiesHarmless (first : Nat) (past : List ConnEvent) : ConnEvent → Prop
  | .request _ => True
  | .response msg _ =>
      msg.xid ∈ answered past → HarmlessCopy first past msg.xid

structure MissingCounted (tables : ConnTables) : Prop where
  placeholders : tables.missingResponses = tables.respXids.count 0
  notWrapped : tables.missingResponses ≤ tables.responses

theorem connStep_congr {first : Nat} {left right : List ConnEvent}
    (same : requestsOf left = requestsOf right) {event : ConnEvent}
    (allowed : ConnStep first left event) : ConnStep first right event := by
  cases event with
  | request msg =>
      simpa [ConnStep, Numbered, AnswersIssued, ReadsNoXid, same] using allowed
  | response msg pastEnd =>
      simpa [ConnStep, Numbered, AnswersIssued, ReadsNoXid, issued, same]
        using allowed

theorem admissibleFrom_congr {first : Nat} {left right : List ConnEvent}
    (same : requestsOf left = requestsOf right) {future : List ConnEvent}
    (steps : History.AdmissibleFrom (ConnStep first) left future) :
    History.AdmissibleFrom (ConnStep first) right future := by
  induction future generalizing left right with
  | nil => trivial
  | cons event future induction =>
      obtain ⟨allowed, rest⟩ := steps
      refine ⟨connStep_congr same allowed, induction ?_ rest⟩
      simp [same]

theorem ConsecutiveRun.insertResponse {first : Nat}
    {past future : List ConnEvent} (run : ConsecutiveRun first (past ++ future))
    {msg : Message} {pastEnd : PastEnd}
    (answersIssued : msg.xid ∈ issued past)
    (readsNoXid : ∀ index, pastEnd.xids index ∉ issued past) :
    ConsecutiveRun first (past ++ .response msg pastEnd :: future) := by
  obtain ⟨pastSteps, futureSteps⟩ :=
    (History.admissible_append past future).mp run.steps
  have requests : requestsOf (past ++ .response msg pastEnd :: future) =
      requestsOf (past ++ future) := by
    rw [requestsOf_append, requestsOf_append]
    rfl
  refine ⟨?_, ?_, ?_⟩
  · rw [History.admissible_append]
    refine ⟨pastSteps, ⟨trivial, answersIssued, readsNoXid⟩, ?_⟩
    exact admissibleFrom_congr (by simp) futureSteps
  · rw [requests]
    exact run.xidsFit
  · rw [requests]
    exact run.countsFit

namespace Exchange

variable {base : Nat}

section Copies

variable {past : List ConnEvent} {msg : Message}

theorem matched_harmlessCopy (run : ConnRun base past)
    (repeated : msg.xid ∈ answered past)
    (harmless : HarmlessCopy (base + 1) past msg.xid) :
    (ofRun base past).matched (position base msg) = .rejected := by
  obtain ⟨below, reached⟩ := answers_reach run
  have inside := below msg.xid repeated
  obtain ⟨_, xid⟩ := issued_position run.numbered
    (answered_issued run.answersIssued msg.xid repeated)
  rcases matched_cases (ofRun base past) (position base msg) with
    ⟨rejected, _⟩ | ⟨_, positive, behind⟩ | ⟨_, next⟩ | ⟨_, ahead⟩
  · exact rejected
  · rcases harmless with first | highest
    · omega
    · rcases reached with isEmpty | member
      · omega
      · have := highest _ member
        omega
  · omega
  · omega

theorem matched_harmfulCopy (run : ConnRun base past)
    (repeated : msg.xid ∈ answered past)
    (harmful : ¬HarmlessCopy (base + 1) past msg.xid) :
    (ofRun base past).matched (position base msg) =
        .late (position base msg) ∧
      (ofRun base past).answers.lookup (position base msg) ≠ none := by
  obtain ⟨below, _⟩ := answers_reach run
  obtain ⟨_, xid⟩ := issued_position run.numbered
    (answered_issued run.answersIssued msg.xid repeated)
  have positive : 0 < position base msg := by
    apply Nat.pos_of_ne_zero
    intro first
    exact harmful (.inl (by omega))
  obtain ⟨other, member, higher⟩ : ∃ other ∈ answered past,
      msg.xid < other := by
    by_contra none
    apply harmful
    refine .inr (fun other member => Nat.le_of_not_lt ?_)
    exact fun higher => none ⟨other, member, higher⟩
  have reach := below other member
  constructor
  · rcases matched_cases (ofRun base past) (position base msg) with
      ⟨_, _, last | first⟩ | ⟨late, _⟩ | ⟨_, next⟩ | ⟨_, ahead⟩
    · omega
    · omega
    · exact late
    · omega
    · omega
  · rw [filled_iff_answered run positive, ← xid]
    exact repeated

end Copies

/-- The same requests and slots, with one missing response less. -/
structure BehindByOne (copied plain : Exchange) : Prop where
  length : copied.answers.length = plain.answers.length
  missing : uint32 (copied.missing + 1) = uint32 plain.missing

theorem BehindByOne.matched {copied plain : Exchange}
    (behind : BehindByOne copied plain) (position : Nat) :
    copied.matched position = plain.matched position := by
  simp only [Exchange.matched, behind.length]

theorem BehindByOne.step {copied plain : Exchange}
    (behind : BehindByOne copied plain) (event : ConnEvent) :
    BehindByOne (copied.step base event) (plain.step base event) := by
  cases event with
  | request msg => exact ⟨behind.length, behind.missing⟩
  | response msg pastEnd =>
      have missing := behind.missing
      simp only [uint32] at missing
      constructor
      · simp only [Exchange.step, answers_record_length, behind.length]
      · simp only [Exchange.step, behind.matched]
        cases plain.matched (position base msg) with
        | rejected => exact behind.missing
        | unending => exact behind.missing
        | late target =>
            simp only [record, uint32, uint32Pred]
            omega
        | inOrder target => exact behind.missing
        | skipping target skipped =>
            simp only [record, uint32]
            omega

theorem BehindByOne.run {copied plain : Exchange}
    (behind : BehindByOne copied plain) (events : List ConnEvent) :
    BehindByOne (copied.run base events) (plain.run base events) := by
  induction events generalizing copied plain with
  | nil => exact behind
  | cons event events induction => exact induction (behind.step event)

theorem BehindByOne.missing_ne {copied plain : Exchange}
    (behind : BehindByOne copied plain) : copied.missing ≠ plain.missing := by
  intro same
  have missing := behind.missing
  simp only [uint32, same] at missing
  omega

theorem behindByOne_late (exchange : Exchange) (msg : Message)
    (target : Nat) :
    BehindByOne (exchange.record msg (.late target)) exchange := by
  constructor
  · simp [record]
  · simp only [record, uint32, uint32Pred]
    omega

theorem matched_late_pos {exchange : Exchange} {target : Nat}
    (late : exchange.matched target = .late target) : 0 < target := by
  rcases matched_cases exchange target with
    ⟨rejected, _⟩ | ⟨_, positive, _⟩ | ⟨inOrder, _⟩ | ⟨skipping, _⟩
  · simp [rejected] at late
  · exact positive
  · simp [inOrder] at late
  · simp [skipping] at late

/-- A response that is recorded in a gap or at the end keeps the missing
responses and the gaps equal. -/
theorem missing_record {exchange : Exchange} {msg : Message} {target : Nat}
    (aligned : Aligned base exchange)
    (inside : target < exchange.requests.length)
    (gap : exchange.matched target = .late target →
      exchange.answers.lookup target = none)
    (counted : exchange.missing = exchange.answers.gaps) :
    (exchange.record msg (exchange.matched target)).missing =
      (exchange.record msg (exchange.matched target)).answers.gaps := by
  have countsFit := aligned.countsFit
  have gapsLe := exchange.answers.gaps_le_length
  have missingFits := aligned.missingFits
  rcases matched_cases exchange target with
    ⟨rejected, _⟩ | ⟨late, _, behind⟩ | ⟨inOrder, next⟩ | ⟨skipping, ahead⟩
  · rw [rejected]
    exact counted
  · have removed := GapTable.gaps_fill_gap msg (Nat.lt_of_succ_lt behind)
      (gap late)
    rw [late]
    simp only [record, uint32Pred]
    omega
  · rw [inOrder]
    simp only [record, GapTable.gaps_extend]
    omega
  · rw [skipping]
    simp only [record, GapTable.gaps_extend, uint32]
    omega

theorem missing_harmless {events : List ConnEvent} (run : ConnRun base events)
    (harmless : History.Admissible (CopiesHarmless (base + 1)) events) :
    (ofRun base events).missing = (ofRun base events).answers.gaps := by
  revert run
  refine harmless.invariant ?_ ?_
  · intro _
    simp [ofRun, Exchange.run, initial]
  · intro past event _ copyHarmless induction run
    rw [ofRun_snoc]
    cases event with
    | request msg => exact induction run.past
    | response msg pastEnd =>
        obtain ⟨_, aligned⟩ := @refines base 0 past run.past
        obtain ⟨_, answersIssued, _⟩ := run.steps.event_allowed
        obtain ⟨inside, xid⟩ := issued_position run.past.numbered answersIssued
        rw [← ofRun_requests base past] at inside
        refine missing_record aligned inside ?_ (induction run.past)
        intro late
        by_contra filled
        have positive := matched_late_pos late
        have repeated : msg.xid ∈ answered past := by
          rw [xid, ← filled_iff_answered run.past positive]
          exact filled
        have rejected := matched_harmlessCopy run.past repeated
          (copyHarmless repeated)
        rw [rejected] at late
        exact absurd late (by simp)

theorem missing_harmful {past : List ConnEvent} {msg : Message}
    {pastEnd : PastEnd} (run : ConnRun base past)
    (repeated : msg.xid ∈ answered past)
    (harmful : ¬HarmlessCopy (base + 1) past msg.xid)
    (counted : (ofRun base past).missing = (ofRun base past).answers.gaps) :
    (ofRun base (past ++ [.response msg pastEnd])).missing ≠
      (ofRun base (past ++ [.response msg pastEnd])).answers.gaps := by
  obtain ⟨late, filled⟩ := matched_harmfulCopy run repeated harmful
  obtain ⟨stored, found⟩ := Option.ne_none_iff_exists'.mp filled
  rw [ofRun_snoc, step, late]
  have off := (behindByOne_late (ofRun base past) msg
    (position base msg)).missing_ne
  rw [counted] at off
  simpa only [record, GapTable.gaps_fill_filled msg found] using off

theorem missing_copied {past future : List ConnEvent} {msg : Message}
    {pastEnd : PastEnd} (run : ConnRun base past)
    (repeated : msg.xid ∈ answered past)
    (harmful : ¬HarmlessCopy (base + 1) past msg.xid) :
    (ofRun base (past ++ .response msg pastEnd :: future)).missing ≠
      (ofRun base (past ++ future)).missing := by
  obtain ⟨late, _⟩ := matched_harmfulCopy run repeated harmful
  have behind := behindByOne_late (ofRun base past) msg (position base msg)
  rw [← late] at behind
  have behindAtEnd := @BehindByOne.run base _ _ behind future
  rw [ofRun_append, ofRun_append]
  exact behindAtEnd.missing_ne

theorem harmlessCopy_raised (past : List ConnEvent) {xid : Nat}
    (positive : xid ≠ 0) :
    HarmlessCopy (0 + 1) (raisedEvents past) (xid + 1) ↔
      HarmlessCopy 0 past xid := by
  have notFirst : xid + 1 ≠ 0 + 1 := by omega
  simp only [HarmlessCopy, notFirst, positive, false_or]
  constructor
  · intro highest other member
    rcases Nat.eq_zero_or_pos other with rfl | otherPositive
    · exact Nat.zero_le xid
    · have raised := (mem_answered_raisedEvents past other).mpr
        ⟨Nat.ne_of_gt otherPositive, member⟩
      exact Nat.le_of_succ_le_succ (highest _ raised)
  · intro highest other member
    cases other with
    | zero => exact Nat.zero_le _
    | succ other =>
        obtain ⟨_, lower⟩ := (mem_answered_raisedEvents past other).mp member
        exact Nat.succ_le_succ (highest other lower)

variable {first : Nat} {past future events : List ConnEvent} {msg : Message}
  {pastEnd : PastEnd} {connId : Int}

theorem matchResponse_harmlessCopy (run : ConsecutiveRun first past)
    (repeated : msg.xid ∈ answered past)
    (readsNoXid : ∀ index, pastEnd.xids index ∉ issued past)
    (harmless : HarmlessCopy first past msg.xid) :
    ((ConnTables.fresh connId).run past).matchResponse pastEnd msg.xid =
      .rejected := by
  have answersIssued := answered_issued run.answersIssued msg.xid repeated
  cases first with
  | zero =>
      rw [matchResponse_raised run answersIssued readsNoXid]
      split
      · rfl
      · rename_i positive
        exact @matched_harmlessCopy 0 _ msg.raised run.raised
          ((mem_answered_raisedEvents past msg.xid).mpr ⟨positive, repeated⟩)
          ((harmlessCopy_raised past positive).mpr harmless)
  | succ base =>
      obtain ⟨shows, aligned⟩ := @refines base connId past run
      rw [shows, matchResponse_ofRun aligned run.numbered answersIssued
        readsNoXid]
      exact matched_harmlessCopy run repeated harmless

/-- A copy that is not harmless is still missed at the end of the run. -/
theorem missingResponses_copied (run : ConsecutiveRun first (past ++ future))
    (repeated : msg.xid ∈ answered past)
    (readsNoXid : ∀ index, pastEnd.xids index ∉ issued past)
    (harmful : ¬HarmlessCopy first past msg.xid) :
    ((ConnTables.fresh connId).run
        (past ++ .response msg pastEnd :: future)).missingResponses ≠
      ((ConnTables.fresh connId).run (past ++ future)).missingResponses := by
  have answersIssued :=
    answered_issued run.past.answersIssued msg.xid repeated
  have copied := run.insertResponse answersIssued readsNoXid
  rw [(counts_ofConsecutive copied).2.1, (counts_ofConsecutive run).2.1]
  cases first with
  | zero =>
      have positive : msg.xid ≠ 0 := fun zero => harmful (.inl zero)
      simp only [ofConsecutive]
      rw [raisedEvents_append, raisedEvents_append, raisedEvents_cons,
        ConnEvent.raised_response positive]
      apply missing_copied run.past.raised
      · exact (mem_answered_raisedEvents past msg.xid).mpr ⟨positive, repeated⟩
      · intro harmless
        exact harmful ((harmlessCopy_raised past positive).mp harmless)
  | succ base => exact missing_copied run.past repeated harmful

theorem missingCounted_iff (run : ConsecutiveRun first events) :
    MissingCounted ((ConnTables.fresh connId).run events) ↔
      (ofConsecutive first events).missing =
        (ofConsecutive first events).answers.gaps := by
  obtain ⟨responses, missing, _, placeholders⟩ :=
    @counts_ofConsecutive connId first events run
  constructor
  · intro counted
    rw [← missing, ← placeholders]
    exact counted.placeholders
  · intro equality
    refine ⟨?_, ?_⟩
    · rw [missing, placeholders]
      exact equality
    · rw [missing, responses, equality]
      exact (ofConsecutive first events).answers.gaps_le_length

theorem missing_copiesHarmless (run : ConsecutiveRun first events)
    (harmless : History.Admissible (CopiesHarmless first) events) :
    (ofConsecutive first events).missing =
      (ofConsecutive first events).answers.gaps := by
  cases first with
  | zero =>
      apply missing_harmless run.raised
      refine harmless.filterMap ?_
      intro past event translated copyHarmless translation
      change CopiesHarmless (0 + 1) (raisedEvents past) translated
      rcases ConnEvent.raised_cases translation with
        ⟨msg, rfl, rfl⟩ | ⟨msg, pastEnd, rfl, positive, rfl⟩
      · trivial
      · intro repeatedRaised
        obtain ⟨_, repeated⟩ :=
          (mem_answered_raisedEvents past msg.xid).mp repeatedRaised
        exact (harmlessCopy_raised past positive).mpr (copyHarmless repeated)
  | succ base => exact missing_harmless run harmless

theorem missing_copyHarmful (run : ConsecutiveRun first past)
    (repeated : msg.xid ∈ answered past)
    (harmful : ¬HarmlessCopy first past msg.xid)
    (counted : (ofConsecutive first past).missing =
      (ofConsecutive first past).answers.gaps) :
    (ofConsecutive first (past ++ [.response msg pastEnd])).missing ≠
      (ofConsecutive first (past ++ [.response msg pastEnd])).answers.gaps := by
  cases first with
  | zero =>
      have positive : msg.xid ≠ 0 := fun zero => harmful (.inl zero)
      simp only [ofConsecutive]
      rw [raisedEvents_append, raisedEvents_singleton,
        ConnEvent.raised_response positive]
      apply missing_harmful run.raised
      · exact (mem_answered_raisedEvents past msg.xid).mpr ⟨positive, repeated⟩
      · intro harmless
        exact harmful ((harmlessCopy_raised past positive).mp harmless)
      · exact counted
  | succ base => exact missing_harmful run repeated harmful counted

end Exchange

section Counters

variable {counter : Counter} {connIndex first : Nat} {connId : Int}

theorem run_harmlessCopy {past future : List Event} {msg : Message}
    {pastEnd : PastEnd}
    (created : counter.conns[connIndex]? = some (ConnTables.fresh connId))
    (run : ConsecutiveRun first (onConn connIndex past))
    (repeated : msg.xid ∈ answered (onConn connIndex past))
    (readsNoXid : ∀ index,
      pastEnd.xids index ∉ issued (onConn connIndex past))
    (harmless : HarmlessCopy first (onConn connIndex past) msg.xid) :
    counter.run (past ++ .response connIndex msg pastEnd :: future) =
      counter.run (past ++ future) := by
  have present := Counter.run_conn created past
  have rejected := @Exchange.matchResponse_harmlessCopy first _ msg pastEnd
    connId run repeated readsNoXid harmless
  rw [Counter.run_append, Counter.run_append, Counter.run_cons, Counter.step,
    Counter.countResponse_rejected present rejected]

theorem run_harmfulCopy {past future : List Event} {msg : Message}
    {pastEnd : PastEnd}
    (created : counter.conns[connIndex]? = some (ConnTables.fresh connId))
    (run : ConsecutiveRun first (onConn connIndex (past ++ future)))
    (repeated : msg.xid ∈ answered (onConn connIndex past))
    (readsNoXid : ∀ index,
      pastEnd.xids index ∉ issued (onConn connIndex past))
    (harmful : ¬HarmlessCopy first (onConn connIndex past) msg.xid) :
    (counter.run (past ++ .response connIndex msg pastEnd :: future)
      ).responseCounts connIndex ≠
      (counter.run (past ++ future)).responseCounts connIndex := by
  intro same
  have seen : onConn connIndex
      (past ++ .response connIndex msg pastEnd :: future) =
        onConn connIndex past ++
          .response msg pastEnd :: onConn connIndex future := by
    rw [onConn_append, onConn_cons]
    simp [Event.onConn]
  have copied := Counter.run_conn created
    (past ++ .response connIndex msg pastEnd :: future)
  have plain := Counter.run_conn created (past ++ future)
  rw [seen] at copied
  rw [onConn_append] at run plain
  simp only [Counter.responseCounts, copied, plain, Option.map_some,
    Option.some.injEq, ResponseCounts.mk.injEq] at same
  obtain ⟨-, -, -, -, -, missing, -⟩ := same
  exact Exchange.missingResponses_copied run repeated readsNoXid harmful
    missing

theorem run_missingCounted {events : List Event}
    (created : counter.conns[connIndex]? = some (ConnTables.fresh connId))
    (run : ConsecutiveRun first (onConn connIndex events)) :
    (∃ tables, (counter.run events).conns[connIndex]? = some tables ∧
        MissingCounted tables) ↔
      (Exchange.ofConsecutive first (onConn connIndex events)).missing =
        (Exchange.ofConsecutive first
          (onConn connIndex events)).answers.gaps := by
  rw [Counter.run_conn created events]
  simp only [Option.some.injEq, exists_eq_left']
  exact Exchange.missingCounted_iff run

theorem copiesHarmless_of_missingCounted {events : List Event}
    (created : counter.conns[connIndex]? = some (ConnTables.fresh connId))
    (run : ConsecutiveRun first (onConn connIndex events))
    (counted : ∀ past, past <+: events →
      ∃ tables, (counter.run past).conns[connIndex]? = some tables ∧
        MissingCounted tables) :
    History.Admissible (CopiesHarmless first) (onConn connIndex events) := by
  induction events using List.reverseRecOn with
  | nil => exact History.admissible_nil
  | append_singleton past event induction =>
      have pastRun : ConsecutiveRun first (onConn connIndex past) := by
        rw [onConn_append] at run
        exact run.past
      have pastHarmless := induction pastRun
        (fun earlier isPrefix => counted earlier
          (isPrefix.trans (List.prefix_append past [event])))
      have before := (run_missingCounted created pastRun).mp
        (counted past (List.prefix_append past [event]))
      have after := (run_missingCounted created run).mp
        (counted _ (List.prefix_refl _))
      rw [onConn_append, onConn_singleton] at after ⊢
      cases own : event.onConn connIndex with
      | none => simpa using pastHarmless
      | some connEvent =>
          rw [own, Option.toList_some] at after
          rw [Option.toList_some, History.admissible_snoc]
          refine ⟨pastHarmless, ?_⟩
          cases connEvent with
          | request msg => trivial
          | response msg pastEnd =>
              intro repeated
              by_contra harmful
              exact Exchange.missing_copyHarmful pastRun repeated harmful
                before after

theorem missingCounted_of_copiesHarmless {events : List Event}
    (created : counter.conns[connIndex]? = some (ConnTables.fresh connId))
    (run : ConsecutiveRun first (onConn connIndex events))
    (harmless : History.Admissible (CopiesHarmless first)
      (onConn connIndex events))
    {past : List Event} (isPrefix : past <+: events) :
    ∃ tables, (counter.run past).conns[connIndex]? = some tables ∧
      MissingCounted tables := by
  obtain ⟨future, rfl⟩ := isPrefix
  rw [onConn_append] at run harmless
  rw [run_missingCounted created run.past]
  exact Exchange.missing_copiesHarmless run.past harmless.past

/-- A copy of a delivered response leaves the counter as it is exactly when it
is harmless, and `missing_responses` counts the placeholders throughout a run
exactly when every copy in the run is. -/
theorem copies_ignored_iff {events : List Event}
    (created : counter.conns[connIndex]? = some (ConnTables.fresh connId))
    (run : ConsecutiveRun first (onConn connIndex events)) :
    (∀ past future msg pastEnd, events = past ++ future →
        msg.xid ∈ answered (onConn connIndex past) →
        (∀ index, pastEnd.xids index ∉ issued (onConn connIndex past)) →
        ((counter.run (past ++ .response connIndex msg pastEnd :: future)
            ).responseCounts connIndex =
            (counter.run events).responseCounts connIndex ↔
          HarmlessCopy first (onConn connIndex past) msg.xid)) ∧
      ((∀ past, past <+: events →
          ∃ tables, (counter.run past).conns[connIndex]? = some tables ∧
            MissingCounted tables) ↔
        History.Admissible (CopiesHarmless first)
          (onConn connIndex events)) := by
  constructor
  · rintro past future msg pastEnd rfl repeated readsNoXid
    constructor
    · intro same
      by_contra harmful
      exact run_harmfulCopy created run repeated readsNoXid harmful same
    · intro harmless
      rw [onConn_append] at run
      rw [run_harmlessCopy created run.past repeated readsNoXid harmless]
  · constructor
    · exact copiesHarmless_of_missingCounted created run
    · intro harmless past isPrefix
      exact missingCounted_of_copiesHarmless created run harmless isPrefix

end Counters

/-- Three requests and their replies in order. -/
def threeReplies : List Event :=
  [ask 0 0 1, ask 0 1 2, ask 0 2 3, reply 0 0 4, reply 0 1 5, reply 0 2 6]

theorem threeReplies_run : ConnRun (xidBase 0) (onConn 0 threeReplies) := by
  refine ConsecutiveRun.of_zeroPastEnd (by decide) ?_ (by decide) (by decide)
    (by decide) (by decide)
  simp [threeReplies, onConn_cons, Event.onConn, ask, reply,
    ConnEvent.ZeroPastEnd]

theorem copies_ignored_iff_overtakenReplies :
    (∀ past future msg pastEnd, overtakenReplies = past ++ future →
        msg.xid ∈ answered (onConn 0 past) →
        (∀ index, pastEnd.xids index ∉ issued (onConn 0 past)) →
        (((Counter.initial.connEstablished 7).run
            (past ++ .response 0 msg pastEnd :: future)).responseCounts 0 =
            ((Counter.initial.connEstablished 7).run
              overtakenReplies).responseCounts 0 ↔
          HarmlessCopy (xidBase 0 + 1) (onConn 0 past) msg.xid)) ∧
      ((∀ past, past <+: overtakenReplies →
          ∃ tables, ((Counter.initial.connEstablished 7).run past).conns[0]? =
              some tables ∧ MissingCounted tables) ↔
        History.Admissible (CopiesHarmless (xidBase 0 + 1))
          (onConn 0 overtakenReplies)) :=
  copies_ignored_iff rfl overtakenReplies_run

/-- A copy of the second reply fills no placeholder and takes the count of
missing responses below zero. -/
theorem copy_secondReply :
    ConnRun (xidBase 0) (onConn 0 threeReplies) ∧
      replyMessage 0 1 5 ∈ responsesOf (onConn 0 threeReplies) ∧
      ((Counter.initial.connEstablished 7).run
          (threeReplies ++ [reply 0 1 5])).responseCounts 0 ≠
        ((Counter.initial.connEstablished 7).run threeReplies).responseCounts
          0 ∧
      ((Counter.initial.connEstablished 7).run
          (threeReplies ++ [reply 0 1 5])).conns.map
            ConnTables.missingResponses = [4294967295] := by
  refine ⟨threeReplies_run, by decide, by decide, by decide⟩

end Perfbench
