import Perfbench.Counter.Delivery

/-!
# Which slots are filled, and how far

With repeated responses allowed, a slot past the first is filled when its
request has been answered, and the answers reach up to the highest xid
answered.
-/

namespace Perfbench

namespace Exchange

variable {base : Nat}

theorem answers_record_filled {exchange : Exchange} {msg : Message}
    (target : Nat) {position : Nat} (positive : 0 < position) :
    (exchange.record msg (exchange.matched target)).answers.lookup position ≠
        none ↔
      exchange.answers.lookup position ≠ none ∨ position = target := by
  rcases matched_cases exchange target with
    ⟨rejected, _, last | first⟩ | ⟨late, _, behind⟩ | ⟨inOrder, next⟩ |
      ⟨skipping, ahead⟩
  · obtain ⟨stored, found⟩ := GapTable.lookup_last last.symm
    rw [rejected]
    simp only [record]
    constructor
    · exact .inl
    · rintro (filled | rfl)
      · exact filled
      · simp [found]
  · have different : position ≠ target := by omega
    simp [rejected, record, different]
  · rw [late]
    simp only [record, GapTable.lookup_fill msg (Nat.lt_of_succ_lt behind)]
    by_cases same : position = target
    · simp [same]
    · simp [same]
  · rw [inOrder]
    simp only [record, GapTable.lookup_extend msg (Nat.le_of_eq next.symm)]
    by_cases same : position = target
    · simp [same]
    · simp [same]
  · rw [skipping]
    simp only [record, GapTable.lookup_extend msg (Nat.le_of_lt ahead)]
    by_cases same : position = target
    · simp [same]
    · simp [same]

theorem filled_of_record {exchange : Exchange} {msg : Message}
    (target : Nat) {position : Nat}
    (filled : (exchange.record msg (exchange.matched target)).answers.lookup
      position ≠ none) :
    exchange.answers.lookup position ≠ none ∨ position = target := by
  by_cases same : position = target
  · exact .inr same
  · left
    rcases matched_cases exchange target with
      ⟨rejected, _⟩ | ⟨late, _, behind⟩ | ⟨inOrder, next⟩ | ⟨skipping, ahead⟩
    · rwa [rejected] at filled
    · rw [late] at filled
      simpa [record, GapTable.lookup_fill msg (Nat.lt_of_succ_lt behind), same]
        using filled
    · rw [inOrder] at filled
      simpa [record, GapTable.lookup_extend msg (Nat.le_of_eq next.symm), same]
        using filled
    · rw [skipping] at filled
      simpa [record, GapTable.lookup_extend msg (Nat.le_of_lt ahead), same]
        using filled

theorem answered_of_filled {events : List ConnEvent}
    (run : ConnRun base events) {position : Nat}
    (filled : (ofRun base events).answers.lookup position ≠ none) :
    base + position + 1 ∈ answered events := by
  revert filled
  refine run.invariant ?_ ?_
  · intro _ filled
    simp [ofRun, Exchange.run, initial] at filled
  · intro past event run allowed induction filled
    rw [ofRun_snoc] at filled
    rw [answered_append, List.mem_append]
    cases event with
    | request msg => exact .inl (induction filled)
    | response msg pastEnd =>
        obtain ⟨_, xid⟩ := issued_position run.past.numbered allowed.2.1
        rcases filled_of_record _ filled with before | same
        · exact .inl (induction before)
        · right
          rw [same, ← xid]
          exact List.mem_singleton_self msg.xid

/-- Past the first slot exactly the answered requests have their slot
filled. -/
theorem filled_iff_answered {events : List ConnEvent}
    (run : ConnRun base events) {position : Nat} (positive : 0 < position) :
    (ofRun base events).answers.lookup position ≠ none ↔
      base + position + 1 ∈ answered events := by
  refine run.invariant ?_ ?_
  · intro _
    simp [ofRun, Exchange.run, initial, answered]
  · intro past event run allowed induction
    rw [ofRun_snoc, answered_append, List.mem_append]
    cases event with
    | request msg => simpa [step, answered] using induction
    | response msg pastEnd =>
        obtain ⟨_, xid⟩ := issued_position run.past.numbered allowed.2.1
        rw [step, answers_record_filled _ positive, induction]
        have same : position = Exchange.position base msg ↔
            base + position + 1 = msg.xid := by omega
        simp [answered, same]

theorem answers_reach {events : List ConnEvent} (run : ConnRun base events) :
    (∀ xid ∈ answered events,
        xid ≤ base + (ofRun base events).answers.length) ∧
      ((ofRun base events).answers.length = 0 ∨
        base + (ofRun base events).answers.length ∈ answered events) := by
  refine run.invariant ?_ ?_
  · intro _
    simp [ofRun, Exchange.run, initial, answered]
  · intro past event run allowed induction
    obtain ⟨below, reached⟩ := induction
    rw [ofRun_snoc]
    cases event with
    | request msg => simpa [step, answered] using And.intro below reached
    | response msg pastEnd =>
        obtain ⟨_, xid⟩ := issued_position run.past.numbered allowed.2.1
        rw [step, answers_record_length]
        have new : answered [ConnEvent.response msg pastEnd] = [msg.xid] := rfl
        rw [answered_append, new]
        constructor
        · intro other member
          rcases List.mem_append.mp member with old | here
          · have := below other old
            omega
          · simp only [List.mem_singleton] at here
            omega
        · right
          rw [List.mem_append, List.mem_singleton]
          rcases Nat.lt_or_ge (position base msg)
              (ofRun base past).answers.length with behind | ahead
          · rw [Nat.max_eq_left (by omega)]
            rcases reached with isEmpty | member
            · omega
            · exact .inl member
          · rw [Nat.max_eq_right (by omega)]
            exact .inr (by omega)

end Exchange

end Perfbench
