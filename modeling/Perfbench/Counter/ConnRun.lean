import Perfbench.Counter.Run

/-!
# What the events of a connection may be

The send loop numbers the requests of a connection consecutively, from one
past a base on the control plane and from zero on the dataplane; responses
answer requests issued before them.  The predicates below say this of an event
and its past, `ConsecutiveRun` collects what every run keeps to, and `ConnRun`
is the case of the control plane.
-/

namespace Perfbench

namespace ConnEvent

def sent : ConnEvent → Option Message
  | .request msg => some msg
  | .response _ _ => none

def received : ConnEvent → Option Message
  | .request _ => none
  | .response msg _ => some msg

end ConnEvent

/-- The requests of a run, in issue order. -/
def requestsOf (events : List ConnEvent) : List Message :=
  events.filterMap ConnEvent.sent

/-- The responses of a run, in order of arrival. -/
def responsesOf (events : List ConnEvent) : List Message :=
  events.filterMap ConnEvent.received

def issued (events : List ConnEvent) : List Nat :=
  (requestsOf events).map Message.xid

def answered (events : List ConnEvent) : List Nat :=
  (responsesOf events).map Message.xid

/-- The xids of connection `c` start above `10000000 * c`. -/
def xidBase (connIndex : Nat) : Nat := 10000000 * connIndex

def Numbered (first : Nat) (past : List ConnEvent) : ConnEvent → Prop
  | .request msg => msg.xid = first + (requestsOf past).length
  | .response _ _ => True

def AnswersIssued (past : List ConnEvent) : ConnEvent → Prop
  | .request _ => True
  | .response msg _ => msg.xid ∈ issued past

/-- A read past the end of the request xids finds no xid of a request. -/
def ReadsNoXid (past : List ConnEvent) : ConnEvent → Prop
  | .request _ => True
  | .response _ pastEnd => ∀ index, pastEnd.xids index ∉ issued past

def AnswersOnce (past : List ConnEvent) : ConnEvent → Prop
  | .request _ => True
  | .response msg _ => msg.xid ∉ answered past

instance (first : Nat) (past : List ConnEvent) :
    DecidablePred (Numbered first past)
  | .request msg =>
      inferInstanceAs (Decidable (msg.xid = first + (requestsOf past).length))
  | .response _ _ => isTrue trivial

instance (past : List ConnEvent) : DecidablePred (AnswersIssued past)
  | .request _ => isTrue trivial
  | .response msg _ => inferInstanceAs (Decidable (msg.xid ∈ issued past))

instance (past : List ConnEvent) : DecidablePred (AnswersOnce past)
  | .request _ => isTrue trivial
  | .response msg _ => inferInstanceAs (Decidable (msg.xid ∉ answered past))

def ConnStep (first : Nat) (past : List ConnEvent) (event : ConnEvent) :
    Prop :=
  Numbered first past event ∧ AnswersIssued past event ∧ ReadsNoXid past event

/-- A run of a connection in which no 32-bit value wraps: its xids fit into
`uint32_t` and its counts into the `int` that `count_response` converts them
to. -/
structure ConsecutiveRun (first : Nat) (events : List ConnEvent) : Prop where
  steps : History.Admissible (ConnStep first) events
  xidsFit : first + (requestsOf events).length ≤ 2 ^ 32
  countsFit : (requestsOf events).length < 2 ^ 31

abbrev ConnRun (base : Nat) (events : List ConnEvent) : Prop :=
  ConsecutiveRun (base + 1) events

@[simp] theorem requestsOf_nil : requestsOf [] = [] := rfl

@[simp] theorem responsesOf_nil : responsesOf [] = [] := rfl

@[simp] theorem requestsOf_append (first second : List ConnEvent) :
    requestsOf (first ++ second) = requestsOf first ++ requestsOf second :=
  List.filterMap_append

@[simp] theorem responsesOf_append (first second : List ConnEvent) :
    responsesOf (first ++ second) = responsesOf first ++ responsesOf second :=
  List.filterMap_append

@[simp] theorem requestsOf_request (msg : Message) :
    requestsOf [.request msg] = [msg] := rfl

@[simp] theorem requestsOf_response (msg : Message) (pastEnd : PastEnd) :
    requestsOf [.response msg pastEnd] = [] := rfl

@[simp] theorem responsesOf_request (msg : Message) :
    responsesOf [.request msg] = [] := rfl

@[simp] theorem responsesOf_response (msg : Message) (pastEnd : PastEnd) :
    responsesOf [.response msg pastEnd] = [msg] := rfl

theorem requestsOf_cons (event : ConnEvent) (events : List ConnEvent) :
    requestsOf (event :: events) = event.sent.toList ++ requestsOf events :=
  filterMap_cons_toList _ event events

theorem responsesOf_cons (event : ConnEvent) (events : List ConnEvent) :
    responsesOf (event :: events) =
      event.received.toList ++ responsesOf events :=
  filterMap_cons_toList _ event events

@[simp] theorem issued_append (first second : List ConnEvent) :
    issued (first ++ second) = issued first ++ issued second := by
  simp [issued]

@[simp] theorem answered_append (first second : List ConnEvent) :
    answered (first ++ second) = answered first ++ answered second := by
  simp [answered]

theorem requestsOf_length_le (first second : List ConnEvent) :
    (requestsOf first).length ≤ (requestsOf (first ++ second)).length := by
  simp

theorem ConsecutiveRun.past {first : Nat} {past future : List ConnEvent}
    (run : ConsecutiveRun first (past ++ future)) :
    ConsecutiveRun first past := by
  have shorter := requestsOf_length_le past future
  have xidsFit := run.xidsFit
  have countsFit := run.countsFit
  exact ⟨run.steps.past, by omega, by omega⟩

@[elab_as_elim]
theorem ConsecutiveRun.invariant {first : Nat}
    {Invariant : List ConnEvent → Prop} {events : List ConnEvent}
    (run : ConsecutiveRun first events)
    (start : ConsecutiveRun first [] → Invariant [])
    (step : ∀ past event, ConsecutiveRun first (past ++ [event]) →
      ConnStep first past event → Invariant past →
      Invariant (past ++ [event])) : Invariant events := by
  have steps := run.steps
  revert run
  refine steps.invariant start ?_
  intro past event _ allowed induction run
  exact step past event run allowed (induction run.past)

/-- The requests of a numbered run carry `first`, `first + 1`, and so on. -/
theorem requestsOf_xid {first : Nat} {events : List ConnEvent}
    (numbered : History.Admissible (Numbered first) events) :
    ∀ position msg, (requestsOf events)[position]? = some msg →
      msg.xid = first + position := by
  refine numbered.invariant ?_ ?_
  · intro position msg found
    simp at found
  intro past event _ allowed induction position msg found
  cases event with
  | response response pastEnd =>
      exact induction position msg (by simpa using found)
  | request request =>
      simp only [requestsOf_append, requestsOf_request] at found
      rcases Nat.lt_or_ge position (requestsOf past).length with old | new
      · rw [List.getElem?_append_left old] at found
        exact induction position msg found
      · rw [List.getElem?_append_right new] at found
        have positionEq : position = (requestsOf past).length := by
          have inside := (List.getElem?_eq_some_iff.mp found).1
          simp only [List.length_singleton] at inside
          omega
        subst positionEq
        simp only [Nat.sub_self, List.getElem?_cons_zero,
          Option.some.injEq] at found
        subst msg
        exact allowed

theorem mem_issued_iff {first : Nat} {events : List ConnEvent}
    (numbered : History.Admissible (Numbered first) events) (xid : Nat) :
    xid ∈ issued events ↔
      ∃ position, position < (requestsOf events).length ∧
        xid = first + position := by
  constructor
  · intro member
    obtain ⟨msg, msgMember, rfl⟩ := List.mem_map.mp member
    obtain ⟨position, inside, equality⟩ := List.getElem_of_mem msgMember
    refine ⟨position, inside, ?_⟩
    apply requestsOf_xid numbered
    rw [List.getElem?_eq_getElem inside, equality]
  · rintro ⟨position, inside, rfl⟩
    refine List.mem_map.mpr
      ⟨(requestsOf events)[position], List.getElem_mem inside, ?_⟩
    exact requestsOf_xid numbered position _ (List.getElem?_eq_getElem inside)

theorem ConsecutiveRun.numbered {first : Nat} {events : List ConnEvent}
    (run : ConsecutiveRun first events) :
    History.Admissible (Numbered first) events :=
  run.steps.mono (fun _ _ allowed => allowed.1)

theorem answered_issued {events : List ConnEvent}
    (answersIssued : History.Admissible AnswersIssued events) :
    ∀ xid ∈ answered events, xid ∈ issued events := by
  refine answersIssued.invariant ?_ ?_
  · intro xid member
    simp [answered] at member
  · intro past event _ allowed induction xid member
    rw [answered_append, List.mem_append] at member
    rw [issued_append, List.mem_append]
    rcases member with old | new
    · exact .inl (induction xid old)
    · cases event with
      | request msg => simp [answered] at new
      | response msg pastEnd =>
          have same : xid = msg.xid := by simpa [answered] using new
          rw [same]
          exact .inl allowed

theorem ConsecutiveRun.answersIssued {first : Nat} {events : List ConnEvent}
    (run : ConsecutiveRun first events) :
    History.Admissible AnswersIssued events :=
  run.steps.mono (fun _ _ allowed => allowed.2.1)

def ask (connIndex position : Nat) (time : ℚ) : Event :=
  .request connIndex
    { xid := xidBase connIndex + position + 1
      time
      bytes := 8
      msgType := 5 }

def replyMessage (connIndex position : Nat) (time : ℚ) : Message :=
  { xid := xidBase connIndex + position + 1
    time
    bytes := 176
    msgType := 6 }

def zeroPastEnd : PastEnd :=
  { xids := fun _ => 0
    times := fun _ => 0 }

def reply (connIndex position : Nat) (time : ℚ) : Event :=
  .response connIndex (replyMessage connIndex position time) zeroPastEnd

def ConnEvent.ZeroPastEnd : ConnEvent → Prop
  | .request _ => True
  | .response _ pastEnd => pastEnd = zeroPastEnd

/-- With zero memory past the tables only the numbering and the answers are to
be checked. -/
theorem ConsecutiveRun.of_zeroPastEnd {first : Nat} {events : List ConnEvent}
    (positive : 0 < first)
    (zero : ∀ event ∈ events, event.ZeroPastEnd)
    (numbered : History.Admissible (Numbered first) events)
    (answersIssued : History.Admissible AnswersIssued events)
    (xidsFit : first + (requestsOf events).length ≤ 2 ^ 32)
    (countsFit : (requestsOf events).length < 2 ^ 31) :
    ConsecutiveRun first events := by
  refine ⟨?_, xidsFit, countsFit⟩
  clear xidsFit countsFit
  induction events using List.reverseRecOn with
  | nil => exact History.admissible_nil
  | append_singleton past event induction =>
      have pastZero : ∀ other ∈ past, other.ZeroPastEnd := by
        intro other member
        exact zero other (List.mem_append_left [event] member)
      have eventZero := zero event (by simp)
      rw [History.admissible_snoc] at numbered answersIssued ⊢
      refine ⟨induction pastZero numbered.1 answersIssued.1, numbered.2,
        answersIssued.2, ?_⟩
      cases event with
      | request msg => trivial
      | response msg pastEnd =>
          intro index member
          change pastEnd = zeroPastEnd at eventZero
          rw [eventZero] at member
          obtain ⟨position, _, xid⟩ :=
            (mem_issued_iff numbered.1 _).mp member
          change 0 = first + position at xid
          omega

/-- Three requests; the reply to the second arrives after that to the third. -/
def overtakenReplies : List Event :=
  [ask 0 0 1, ask 0 1 2, reply 0 0 3, ask 0 2 4, reply 0 2 5, reply 0 1 6]

theorem overtakenReplies_run :
    ConnRun (xidBase 0) (onConn 0 overtakenReplies) := by
  refine ConsecutiveRun.of_zeroPastEnd (by decide) ?_ (by decide) (by decide)
    (by decide) (by decide)
  simp [overtakenReplies, onConn_cons, Event.onConn, ask, reply,
    ConnEvent.ZeroPastEnd]

end Perfbench
