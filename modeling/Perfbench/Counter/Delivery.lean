import Perfbench.Counter.Refinement

/-!
# Which responses the tables keep

When every request is answered at most once, the slot of a request holds the
response delivered to it.  The request at position zero is the exception: its
response is kept only when it is the first response of the connection, since
the late search stops before it tests index zero.
-/

namespace Perfbench

/-- The response delivered to the request with an xid. -/
def responseTo (events : List ConnEvent) (xid : Nat) : Option Message :=
  (responsesOf events).find? (fun msg => msg.xid == xid)

/-- The response that the slot of a request keeps. -/
def kept (base : Nat) (events : List ConnEvent) (position : Nat) :
    Option Message :=
  if position = 0 then
    (responsesOf events).head?.filter (fun msg => msg.xid == base + 1)
  else responseTo events (base + position + 1)

theorem responseTo_snoc (past : List ConnEvent) (msg : Message)
    (pastEnd : PastEnd) (xid : Nat) :
    responseTo (past ++ [.response msg pastEnd]) xid =
      (responseTo past xid).or (if msg.xid = xid then some msg else none) := by
  simp only [responseTo, responsesOf_append, responsesOf_response,
    List.find?_append]
  by_cases same : msg.xid = xid
  · simp [same]
  · simp [same]

theorem responseTo_eq_none_iff (events : List ConnEvent) (xid : Nat) :
    responseTo events xid = none ↔ xid ∉ answered events := by
  simp [responseTo, answered]

theorem responseTo_xid {events : List ConnEvent} {xid : Nat} {msg : Message}
    (found : responseTo events xid = some msg) : msg.xid = xid := by
  have hit := List.find?_some found
  simpa using hit

theorem kept_request (base : Nat) (past : List ConnEvent) (msg : Message)
    (position : Nat) :
    kept base (past ++ [.request msg]) position = kept base past position := by
  simp [kept, responseTo]

/-- Only the slot of the request answered changes, and the first slot only
while no response has arrived. -/
theorem kept_response {base target : Nat} {past : List ConnEvent}
    {msg : Message} (pastEnd : PastEnd) (xid : msg.xid = base + target + 1)
    (fresh : msg.xid ∉ answered past) (position : Nat) :
    kept base (past ++ [.response msg pastEnd]) position =
      if position = target ∧ (target = 0 → responsesOf past = []) then some msg
      else kept base past position := by
  by_cases zero : position = 0
  · subst position
    simp only [kept, if_true, responsesOf_append, responsesOf_response]
    cases responses : responsesOf past with
    | nil =>
        by_cases first : target = 0
        · simp [first, xid]
        · have notTarget : ¬0 = target := Ne.symm first
          simp [xid, notTarget, first]
    | cons head tail =>
        have notBoth : ¬(0 = target ∧ (target = 0 → head :: tail = [])) := by
          rintro ⟨rfl, isEmpty⟩
          simpa using isEmpty rfl
        rw [if_neg notBoth]
        rfl
  · simp only [kept, zero, if_false, responseTo_snoc]
    by_cases same : position = target
    · subst position
      have none : responseTo past (base + target + 1) = none := by
        rw [responseTo_eq_none_iff, ← xid]
        exact fresh
      simp [none, xid, zero]
    · have different : msg.xid ≠ base + position + 1 := by omega
      simp [different, same]

namespace Exchange

variable {base : Nat}

theorem answers_record_length {exchange : Exchange} {msg : Message}
    (position : Nat) :
    (exchange.record msg (exchange.matched position)).answers.length =
      max exchange.answers.length (position + 1) := by
  rcases matched_cases exchange position with
    ⟨rejected, inside, _⟩ | ⟨late, _, behind⟩ | ⟨inOrder, next⟩ |
      ⟨skipping, ahead⟩
  · rw [rejected]
    change exchange.answers.length = _
    omega
  · rw [late]
    simp only [record, GapTable.length_fill]
    omega
  · rw [inOrder]
    simp only [record, GapTable.length_extend msg (Nat.le_of_eq next.symm)]
    omega
  · rw [skipping]
    simp only [record, GapTable.length_extend msg (Nat.le_of_lt ahead)]
    omega

/-- What a response changes in the answers, when its slot is still empty. -/
theorem answers_record_lookup {exchange : Exchange} {msg : Message}
    {target : Nat} (missing : exchange.answers.lookup target = none)
    (position : Nat) :
    (exchange.record msg (exchange.matched target)).answers.lookup position =
      if position = target ∧ (target = 0 → exchange.answers.length = 0) then
        some msg
      else exchange.answers.lookup position := by
  have notLast : target + 1 ≠ exchange.answers.length := by
    intro last
    obtain ⟨stored, found⟩ := GapTable.lookup_last last.symm
    rw [missing] at found
    exact absurd found (by simp)
  rcases matched_cases exchange target with
    ⟨rejected, inside, last | first⟩ | ⟨late, positive, behind⟩ |
      ⟨inOrder, next⟩ | ⟨skipping, ahead⟩
  · exact absurd last notLast
  · have nonempty : ¬(target = 0 → exchange.answers.length = 0) := by
      intro isEmpty
      have := isEmpty first
      omega
    rw [rejected]
    simp [record, nonempty]
  · have notFirst : target = 0 → exchange.answers.length = 0 := by omega
    rw [late]
    simp only [record,
      GapTable.lookup_fill msg (Nat.lt_of_succ_lt behind)]
    simp only [and_iff_left notFirst]
  · have condition : target = 0 → exchange.answers.length = 0 := by omega
    rw [inOrder]
    simp only [record, GapTable.lookup_extend msg (Nat.le_of_eq next.symm)]
    simp only [and_iff_left condition]
  · have notFirst : target = 0 → exchange.answers.length = 0 := by omega
    rw [skipping]
    simp only [record, GapTable.lookup_extend msg (Nat.le_of_lt ahead)]
    simp only [and_iff_left notFirst]

/-- In a run that answers every request at most once the answers are the
responses kept, and they are empty only before the first response. -/
theorem answers_ofRun {events : List ConnEvent} (run : ConnRun base events)
    (once : History.Admissible AnswersOnce events) :
    (∀ position, (ofRun base events).answers.lookup position =
        kept base events position) ∧
      ((ofRun base events).answers.length = 0 ↔ responsesOf events = []) := by
  revert run
  refine once.invariant ?_ ?_
  · intro _
    constructor
    · intro position
      simp [ofRun, Exchange.run, initial, kept, responseTo]
    · simp [ofRun, Exchange.run, initial]
  · intro past event _ fresh induction run
    obtain ⟨lookup, nonempty⟩ := induction run.past
    rw [ofRun_snoc]
    cases event with
    | request msg =>
        constructor
        · intro position
          rw [kept_request]
          exact lookup position
        · simpa [step] using nonempty
    | response msg pastEnd =>
        obtain ⟨_, answersIssued, _⟩ := run.steps.event_allowed
        obtain ⟨_, xid⟩ := issued_position run.past.numbered answersIssued
        have missing : (ofRun base past).answers.lookup (position base msg) =
            none := by
          rw [lookup, kept]
          split
          · rename_i first
            cases responses : responsesOf past with
            | nil => rfl
            | cons head tail =>
                have different : head.xid ≠ base + 1 := by
                  intro same
                  apply fresh
                  rw [xid, first]
                  simp [answered, responses, same]
                simp [different]
          · rw [responseTo_eq_none_iff, ← xid]
            exact fresh
        constructor
        · intro other
          rw [kept_response pastEnd xid fresh, step,
            answers_record_lookup missing, lookup]
          simp only [nonempty]
        · have length := @answers_record_length (ofRun base past) msg
            (position base msg)
          simp only [step, length, responsesOf_append, responsesOf_response]
          simp only [List.append_eq_nil_iff, List.cons_ne_nil, and_false,
            iff_false]
          omega

end Exchange

end Perfbench
