import Perfbench.Finishing

/-!
# Every testcase is finished once

With fewer than 256 tenants every call that has begun finishes each testcase
once and returns, so a testcase is finished as often as there are calls.  With
more tenants the index of the loops wraps: no look at the flags comes to an
end with all of them set, and a call of `tenant_failed` never returns.
-/

namespace Perfbench

namespace SystemState

/-- None of the calls is under way. -/
structure AtRest (tenants : Nat) (state : SystemState) : Prop where
  loops : ∀ t < tenants, ∀ i,
    state.loops t ≠ .scanning i ∧ state.loops t ≠ .stopping i
  waiting : state.waiting = 0
  failing : state.failing = none

/-- The steps of the calls. -/
def Step.Working : Step → Prop
  | .tenantFinished _ => True
  | .tenantFailed => True
  | _ => False

/-- However the calls that have begun go on, no testcase is finished twice;
and when all tenants are finished and no connection was closed, the calls come
to their end and each testcase was finished once then. -/
structure FinishedOnce (tenants : Nat) (steps : List Step) : Prop where
  atMostOnce : ∀ more : List Step, (∀ step ∈ more, step.Working) →
    ∀ t < tenants, (run tenants (steps ++ more)).finishes t ≤ 1
  ended : .connectionClosed ∉ steps → AllSet tenants (run tenants steps) →
    ∃ more : List Step, (∀ step ∈ more, step.Working) ∧
      AtRest tenants (run tenants (steps ++ more))
  exactlyOnce : .connectionClosed ∉ steps →
    AllSet tenants (run tenants steps) →
    ∀ more : List Step, (∀ step ∈ more, step.Working) →
      AtRest tenants (run tenants (steps ++ more)) →
      ∀ t < tenants, (run tenants (steps ++ more)).finishes t = 1

/-- Whether a send loop has finished the testcase of `t`. -/
def beyond (t : Nat) : SendLoop → Nat
  | .stopping i => if t < i then 1 else 0
  | .stopped => 1
  | _ => 0

/-- Whether the call that holds the mutex has finished the testcase of `t`. -/
def failingBeyond (t : Nat) : Option Nat → Nat
  | some i => if t < i then 1 else 0
  | none => 0

def Ledger (tenants : Nat) (state : SystemState) : Prop :=
  ∀ t < tenants, state.finishes t =
    Tally.total tenants (beyond t) state.loops +
      failingBeyond t state.failing + state.failures

theorem finish_beyond {t i : Nat} (finishes : Nat → Nat) :
    Function.update finishes i (finishes i + 1) t + (if t < i then 1 else 0) =
      finishes t + (if t < i + 1 then 1 else 0) := by
  by_cases same : t = i
  · simp [same]
  · have sameSide : t < i + 1 ↔ t < i := by omega
    simp [same, sameSide]

theorem Ledger.setLoop {tenants t : Nat} {state next : SystemState}
    {loop : SendLoop} (ledger : Ledger tenants state) (inside : t < tenants)
    (same : ∀ u < tenants, beyond u loop = beyond u (state.loops t))
    (loops : next.loops = Function.update state.loops t loop)
    (finishes : next.finishes = state.finishes)
    (failing : next.failing = state.failing)
    (failures : next.failures = state.failures) : Ledger tenants next := by
  intro u uInside
  rw [loops, finishes, failing, failures,
    Tally.total_update_same inside (same u uInside)]
  exact ledger u uInside

theorem Ledger.move {tenants : Nat} {state next : SystemState} {step : Step}
    (small : tenants < 256) (ledger : Ledger tenants state)
    (moved : Moved tenants state step next) : Ledger tenants next := by
  cases moved with
  | idle _ _ => exact ledger
  | sending inside _ _ before after =>
      refine ledger.setLoop inside ?_ rfl rfl rfl rfl
      intro u _
      rcases before with head | body <;>
        rcases after with rfl | rfl | rfl <;> simp [beyond, *]
  | reached inside before =>
      refine ledger.setLoop inside ?_ rfl rfl rfl rfl
      intro u _
      simp [beyond, before]
  | set inside before _ _ =>
      refine ledger.setLoop inside ?_ rfl rfl rfl rfl
      intro u _
      simp [beyond, before]
  | notSet inside before _ _ =>
      refine ledger.setLoop inside ?_ rfl rfl rfl rfl
      intro u _
      simp [beyond, before]
  | through inside before _ =>
      refine ledger.setLoop inside ?_ rfl rfl rfl rfl
      intro u _
      simp [beyond, before]
  | @stop t i inside before index =>
      intro u uInside
      have entry := ledger u uInside
      have counted := @finish_beyond u i state.finishes
      have changed := Tally.total_update inside (beyond u) state.loops
        (.stopping (ByteLoop.next i))
      rw [ByteLoop.next_eq small index] at changed ⊢
      simp only [before, beyond] at changed
      simp only [setLoop_finishes, finish_finishes, setLoop_loops,
        finish_loops, setLoop_failing, finish_failing, setLoop_failures,
        finish_failures]
      omega
  | @stopped t i inside before index =>
      refine ledger.setLoop inside ?_ rfl rfl rfl rfl
      intro u uInside
      have passed : u < i := by omega
      simp [beyond, before, passed]
  | closed => exact ledger
  | lock free _ =>
      intro u uInside
      have entry := ledger u uInside
      simp only [free, failingBeyond] at entry
      simpa [failingBeyond] using entry
  | @fail i held index =>
      intro u uInside
      have entry := ledger u uInside
      have counted := @finish_beyond u i state.finishes
      simp only [held, failingBeyond] at entry
      simp only [finish_finishes, finish_loops, finish_failures, failingBeyond,
        ByteLoop.next_eq small index]
      omega
  | @failed i held index =>
      intro u uInside
      have entry := ledger u uInside
      have passed : u < i := by omega
      simp only [held, failingBeyond, passed, if_true] at entry
      simp only [failingBeyond]
      omega

theorem ledger_run {tenants : Nat} (small : tenants < 256)
    (steps : List Step) : Ledger tenants (run tenants steps) := by
  induction steps using List.reverseRecOn with
  | nil =>
      intro t _
      have none : Tally.total tenants (beyond t) (run tenants []).loops = 0 :=
        Tally.total_eq_zero_iff.mpr (fun _ _ => rfl)
      rw [none]
      rfl
  | append_singleton past step induction =>
      rw [run_append]
      exact induction.move small (step_moved tenants _ step)

theorem finishes_le_passes {tenants : Nat} (small : tenants < 256)
    (steps : List Step) {t : Nat} (inside : t < tenants) :
    (run tenants steps).finishes t ≤ passes tenants (run tenants steps) := by
  have entry := ledger_run small steps t inside
  have calls : failingBeyond t (run tenants steps).failing ≤
      if (run tenants steps).failing.isSome then 1 else 0 := by
    cases (run tenants steps).failing with
    | none => simp [failingBeyond]
    | some i =>
        simp only [failingBeyond, Option.isSome_some, if_true]
        split <;> omega
  have shares : Tally.total tenants (beyond t) (run tenants steps).loops ≤
      Tally.total tenants
        (share (decide (AllSet tenants (run tenants steps))))
        (run tenants steps).loops := by
    apply Tally.total_le
    intro u _
    cases (run tenants steps).loops u with
    | stopping i =>
        simp only [beyond, share]
        split <;> omega
    | _ => simp [beyond, share]
  simp only [passes, failCalls]
  omega

theorem finishes_atRest {tenants : Nat} (small : tenants < 256)
    {steps : List Step} (atRest : AtRest tenants (run tenants steps)) {t : Nat}
    (inside : t < tenants) :
    (run tenants steps).finishes t = passes tenants (run tenants steps) := by
  have entry := ledger_run small steps t inside
  have shares : Tally.total tenants (beyond t) (run tenants steps).loops =
      Tally.total tenants
        (share (decide (AllSet tenants (run tenants steps))))
        (run tenants steps).loops := by
    apply Tally.total_congr
    intro u uInside
    have rest := atRest.loops u uInside
    cases loop : (run tenants steps).loops u with
    | scanning i => exact absurd loop (rest i).1
    | stopping i => exact absurd loop (rest i).2
    | _ => rfl
  rw [entry, shares, atRest.failing, passes, failCalls, atRest.waiting,
    atRest.failing]
  simp only [failingBeyond, Option.isSome_none, Bool.false_eq_true, if_false]
  omega

/-- The steps that a send loop has still to make in its calls, at most. -/
def remaining (tenants : Nat) : SendLoop → Nat
  | .scanning i => tenants - i + (tenants + 2)
  | .stopping i => tenants - i + 1
  | _ => 0

def remainingFailing (tenants : Nat) : Option Nat → Nat
  | some i => tenants - i + 1
  | none => 0

def work (tenants : Nat) (state : SystemState) : Nat :=
  Tally.total tenants (remaining tenants) state.loops +
    state.waiting * (tenants + 2) + remainingFailing tenants state.failing

theorem work_setLoop {tenants t : Nat} {state next : SystemState}
    {loop : SendLoop} (inside : t < tenants)
    (less : remaining tenants loop < remaining tenants (state.loops t))
    (loops : next.loops = Function.update state.loops t loop)
    (waiting : next.waiting = state.waiting)
    (failing : next.failing = state.failing) :
    work tenants next < work tenants state := by
  have changed := Tally.total_update inside (remaining tenants) state.loops loop
  simp only [work, loops, waiting, failing]
  omega

theorem work_tenantFinished {tenants t : Nat} {state : SystemState}
    (small : tenants < 256) (inside : t < tenants)
    (busy : 0 < remaining tenants (state.loops t)) :
    work tenants (step tenants state (.tenantFinished t)) <
      work tenants state := by
  simp only [step, if_pos inside]
  cases loop : state.loops t with
  | scanning i =>
      simp only [sendLoopStep]
      split
      · rename_i index
        split
        · refine work_setLoop inside ?_ rfl rfl rfl
          simp only [remaining, loop, ByteLoop.next_eq small index]
          omega
        · refine work_setLoop inside ?_ rfl rfl rfl
          simp only [remaining, loop]
          omega
      · refine work_setLoop inside ?_ rfl rfl rfl
        simp only [remaining, loop]
        omega
  | stopping i =>
      simp only [sendLoopStep]
      split
      · rename_i index
        refine work_setLoop inside ?_ rfl rfl rfl
        simp only [remaining, loop, ByteLoop.next_eq small index]
        omega
      · refine work_setLoop inside ?_ rfl rfl rfl
        simp only [remaining, loop]
        omega
  | _ => simp [remaining, loop] at busy

theorem work_tenantFailed {tenants : Nat} {state : SystemState}
    (small : tenants < 256)
    (called : 0 < state.waiting ∨ state.failing ≠ none) :
    work tenants (step tenants state .tenantFailed) < work tenants state := by
  cases held : state.failing with
  | none =>
      have waiting : 0 < state.waiting := by simpa [held] using called
      have product : state.waiting * (tenants + 2) =
          (state.waiting - 1) * (tenants + 2) + (tenants + 2) := by
        rw [← Nat.succ_mul, Nat.succ_eq_add_one, Nat.sub_add_cancel waiting]
      simp only [step, held, if_neg (Nat.pos_iff_ne_zero.mp waiting), work,
        remainingFailing]
      omega
  | some i =>
      simp only [step, held]
      split
      · rename_i index
        simp only [work, remainingFailing, held, finish_loops, finish_waiting,
          ByteLoop.next_eq small index]
        omega
      · simp only [work, remainingFailing, held]
        omega

theorem exists_working_step {tenants : Nat} {state : SystemState}
    (small : tenants < 256) (notAtRest : ¬AtRest tenants state) :
    ∃ step : Step, step.Working ∧
      work tenants (SystemState.step tenants state step) <
        work tenants state := by
  by_cases busy : ∃ t < tenants, 0 < remaining tenants (state.loops t)
  · obtain ⟨t, inside, busy⟩ := busy
    exact ⟨.tenantFinished t, trivial, work_tenantFinished small inside busy⟩
  · refine ⟨.tenantFailed, trivial, work_tenantFailed small ?_⟩
    by_contra noCall
    refine notAtRest ⟨?_, by omega, ?_⟩
    · intro t inside i
      have idle := mt (fun busy => ⟨t, inside, busy⟩) busy
      constructor
      · intro loop
        exact idle (by simp only [loop, remaining]; omega)
      · intro loop
        exact idle (by simp only [loop, remaining]; omega)
    · by_contra held
      exact noCall (.inr held)

theorem exists_atRest {tenants : Nat} (small : tenants < 256)
    (steps : List Step) :
    ∃ more : List Step, (∀ step ∈ more, step.Working) ∧
      AtRest tenants (run tenants (steps ++ more)) := by
  induction measure : work tenants (run tenants steps) using
    Nat.strong_induction_on generalizing steps with
  | h amount induction =>
      by_cases atRest : AtRest tenants (run tenants steps)
      · exact ⟨[], by simp, by simpa using atRest⟩
      · obtain ⟨step, working, less⟩ := exists_working_step small atRest
        have next : run tenants (steps ++ [step]) =
            SystemState.step tenants (run tenants steps) step :=
          run_append tenants steps [step]
        rw [← next, measure] at less
        obtain ⟨more, moreWorking, ended⟩ :=
          induction _ less (steps ++ [step]) rfl
        refine ⟨step :: more, ?_, by simpa using ended⟩
        intro other member
        rcases List.mem_cons.mp member with rfl | later
        · exact working
        · exact moreWorking other later

/-- No loop over the tenants comes to an end by its index. -/
structure Endless (tenants : Nat) (state : SystemState) : Prop where
  scanning : ∀ t < tenants, ∀ i, state.loops t = .scanning i → i < 256
  notThrough : ∀ t < tenants, ¬Through (state.loops t)
  failing : ∀ i, state.failing = some i → i < 256
  failures : state.failures = 0
  unfinished : state.failCalls = 0 → ∀ t, state.finishes t = 0

theorem Endless.setLoop {tenants t : Nat} {state next : SystemState}
    {loop : SendLoop} (endless : Endless tenants state)
    (scanning : ∀ i, loop = .scanning i → i < 256)
    (notThrough : ¬Through loop)
    (loops : next.loops = Function.update state.loops t loop)
    (failing : next.failing = state.failing)
    (failures : next.failures = state.failures)
    (failCalls : next.failCalls = state.failCalls)
    (finishes : next.finishes = state.finishes) : Endless tenants next := by
  constructor
  · intro u inside
    rw [loops]
    by_cases same : u = t
    · simpa [same] using scanning
    · simpa [same] using endless.scanning u inside
  · intro u inside
    rw [loops]
    by_cases same : u = t
    · simpa [same] using notThrough
    · simpa [same] using endless.notThrough u inside
  · rw [failing]
    exact endless.failing
  · rw [failures]
    exact endless.failures
  · rw [failCalls, finishes]
    exact endless.unfinished

theorem Endless.move {tenants : Nat} {state next : SystemState} {step : Step}
    (large : 256 ≤ tenants) (endless : Endless tenants state)
    (moved : Moved tenants state step next) : Endless tenants next := by
  cases moved with
  | idle _ _ => exact endless
  | sending inside _ _ before after =>
      refine endless.setLoop ?_ ?_ rfl rfl rfl rfl rfl
      · rintro i rfl
        simp at after
      · rintro (⟨i, rfl⟩ | rfl) <;> simp at after
  | reached inside before =>
      refine endless.setLoop ?_ (by simp [Through]) rfl rfl rfl rfl rfl
      rintro i equal
      cases equal
      decide
  | set inside before _ _ =>
      refine endless.setLoop ?_ (by simp [Through]) rfl rfl rfl rfl rfl
      rintro i equal
      cases equal
      exact ByteLoop.next_lt _
  | notSet inside before _ _ =>
      exact endless.setLoop (by simp) (by simp [Through]) rfl rfl rfl rfl rfl
  | @through t i inside before index =>
      have below := endless.scanning t inside i before
      omega
  | @stop t i inside before _ =>
      exact absurd (.inl ⟨i, before⟩) (endless.notThrough t inside)
  | @stopped t i inside before _ =>
      exact absurd (.inl ⟨i, before⟩) (endless.notThrough t inside)
  | closed =>
      refine ⟨endless.scanning, endless.notThrough, endless.failing,
        endless.failures, ?_⟩
      intro none
      simp only [failCalls] at none
      omega
  | lock free called =>
      refine ⟨endless.scanning, endless.notThrough, ?_, endless.failures, ?_⟩
      · rintro i equal
        cases equal
        decide
      · intro none
        simp [failCalls] at none
  | fail held index =>
      refine ⟨endless.scanning, endless.notThrough, ?_, endless.failures, ?_⟩
      · rintro i equal
        cases equal
        exact ByteLoop.next_lt _
      · intro none
        simp [failCalls] at none
  | @failed i held index =>
      have below := endless.failing i held
      omega

theorem endless_run {tenants : Nat} (large : 256 ≤ tenants)
    (steps : List Step) : Endless tenants (run tenants steps) := by
  induction steps using List.reverseRecOn with
  | nil =>
      constructor
      · intro t inside i scanning
        cases scanning
      · rintro t inside (⟨i, stopping⟩ | stopped)
        · cases stopping
        · cases stopped
      · intro i held
        cases held
      · rfl
      · exact fun _ _ => rfl
  | append_singleton past step induction =>
      rw [run_append]
      exact induction.move large (step_moved tenants _ step)

theorem failing_step {tenants i : Nat} (large : 256 ≤ tenants)
    (index : i < 256) {steps : List Step}
    (held : (run tenants steps).failing = some i) :
    (run tenants (steps ++ [.tenantFailed])).failing = some (ByteLoop.next i) ∧
      (run tenants steps).finishes 0 + (if i = 0 then 1 else 0) ≤
        (run tenants (steps ++ [.tenantFailed])).finishes 0 := by
  have next : run tenants (steps ++ [.tenantFailed]) =
      { (run tenants steps).finish i with
        failing := some (ByteLoop.next i) } := by
    have inside : i < tenants := by omega
    rw [run_append, List.foldl_cons, List.foldl_nil]
    simp only [step, held, if_pos inside]
  rw [next]
  refine ⟨rfl, ?_⟩
  by_cases zero : i = 0
  · simp [zero]
  · simp [zero, Ne.symm zero]

theorem failing_round {tenants : Nat} (large : 256 ≤ tenants) {n i : Nat}
    (round : i + n + 1 = 256) (steps : List Step)
    (held : (run tenants steps).failing = some i) :
    ∃ more : List Step, (∀ step ∈ more, step.Working) ∧
      (run tenants (steps ++ more)).failing = some 0 ∧
      (run tenants steps).finishes 0 + (if i = 0 then 1 else 0) ≤
        (run tenants (steps ++ more)).finishes 0 := by
  obtain ⟨next, finished⟩ := failing_step large (by omega) held
  induction n generalizing i steps with
  | zero =>
      refine ⟨[.tenantFailed], by simp [Step.Working], ?_, finished⟩
      have last : i = 255 := by omega
      rw [next, last]
      rfl
  | succ n induction =>
      rw [ByteLoop.next, Nat.mod_eq_of_lt (by omega)] at next
      obtain ⟨nextNext, nextFinished⟩ := failing_step large (by omega) next
      obtain ⟨more, working, ended, notLess⟩ := induction (by omega)
        (steps ++ [.tenantFailed]) next nextNext nextFinished
      rw [List.append_assoc] at ended notLess
      refine ⟨[.tenantFailed] ++ more, ?_, ended, by omega⟩
      intro step member
      rcases List.mem_append.mp member with first | later
      · rw [List.mem_singleton.mp first]
        trivial
      · exact working step later

theorem finished_twice {tenants : Nat} (large : 256 ≤ tenants)
    {steps : List Step} (called : 0 < (run tenants steps).failCalls) :
    ∃ more : List Step, (∀ step ∈ more, step.Working) ∧
      2 ≤ (run tenants (steps ++ more)).finishes 0 := by
  have endless := endless_run large steps
  have toZero : ∃ more : List Step, (∀ step ∈ more, step.Working) ∧
      (run tenants (steps ++ more)).failing = some 0 := by
    cases held : (run tenants steps).failing with
    | none =>
        have waiting : (run tenants steps).waiting ≠ 0 := by
          intro none
          simp [failCalls, none, held, endless.failures] at called
        refine ⟨[.tenantFailed], by simp [Step.Working], ?_⟩
        rw [run_append, List.foldl_cons, List.foldl_nil]
        simp only [step, held, if_neg waiting]
    | some i =>
        have index := endless.failing i held
        obtain ⟨more, working, ended, _⟩ := @failing_round tenants large
          (255 - i) i (by omega) steps held
        exact ⟨more, working, ended⟩
  obtain ⟨zeroth, zerothWorking, zero⟩ := toZero
  obtain ⟨first, firstWorking, once, onceFinished⟩ :=
    @failing_round tenants large 255 0 rfl _ zero
  obtain ⟨second, secondWorking, _, twiceFinished⟩ :=
    @failing_round tenants large 255 0 rfl _ once
  refine ⟨zeroth ++ first ++ second, ?_, ?_⟩
  · intro step member
    rcases List.mem_append.mp member with earlier | later
    · rcases List.mem_append.mp earlier with zeroth | first
      · exact zerothWorking step zeroth
      · exact firstWorking step first
    · exact secondWorking step later
  · rw [if_pos rfl] at onceFinished twiceFinished
    rw [← List.append_assoc, ← List.append_assoc]
    omega

theorem passes_working (tenants : Nat) (steps : List Step) {more : List Step}
    (working : ∀ step ∈ more, step.Working) :
    passes tenants (run tenants (steps ++ more)) =
      passes tenants (run tenants steps) := by
  induction more using List.reverseRecOn with
  | nil => rw [List.append_nil]
  | append_singleton past step induction =>
      have last : step.Working := working step (by simp)
      rw [← induction (fun other member => working other (by simp [member])),
        ← List.append_assoc, run_append tenants (steps ++ past)]
      refine passes_move (flags_run tenants (steps ++ past))
        (step_moved tenants _ step) ?_ ?_
      · rintro rfl
        exact last
      · rintro t rfl
        exact last.elim

theorem failCalls_move {tenants : Nat} {state next : SystemState} {step : Step}
    (moved : Moved tenants state step next) :
    next.failCalls =
      state.failCalls + if step = .connectionClosed then 1 else 0 := by
  cases moved with
  | idle notClosed _ => rw [if_neg notClosed, Nat.add_zero]
  | sending _ notClosed _ _ _ =>
      rw [if_neg notClosed, Nat.add_zero]
      rfl
  | closed =>
      simp only [failCalls, if_true]
      omega
  | lock free called =>
      simp only [failCalls, free]
      simp
      omega
  | fail held _ => simp [failCalls, held]
  | failed held _ =>
      simp only [failCalls, held]
      simp
      omega
  | _ => rfl

theorem failCalls_eq_zero_iff (tenants : Nat) (steps : List Step) :
    (run tenants steps).failCalls = 0 ↔ Step.connectionClosed ∉ steps := by
  induction steps using List.reverseRecOn with
  | nil => exact iff_of_true rfl (by simp)
  | append_singleton past step induction =>
      rw [run_append, List.foldl_cons, List.foldl_nil,
        failCalls_move (step_moved tenants _ step), Nat.add_eq_zero_iff,
        induction]
      by_cases closed : step = .connectionClosed
      · simp [closed]
      · simp [closed, Ne.symm closed]

/-- At rest every call has returned or a send loop has stopped the tenants. -/
theorem atRest_through {tenants : Nat} {steps : List Step}
    (atRest : AtRest tenants (run tenants steps))
    (notClosed : (run tenants steps).failCalls = 0)
    (called : 0 < passes tenants (run tenants steps)) :
    ∃ t < tenants, Through ((run tenants steps).loops t) := by
  rw [passes, notClosed, Nat.zero_add, Tally.total_pos_iff] at called
  obtain ⟨t, inside, sharing⟩ := called
  refine ⟨t, inside, ?_⟩
  cases loop : (run tenants steps).loops t with
  | scanning i => exact absurd loop (atRest.loops t inside i).1
  | stopping i => exact .inl ⟨i, rfl⟩
  | stopped => exact .inr rfl
  | _ => simp [share, loop] at sharing

theorem finishedOnce_noTenants (steps : List Step) :
    FinishedOnce 0 steps ∧ OrderlyRun 0 steps := by
  refine ⟨⟨?_, ?_, ?_⟩, ?_⟩
  · exact fun _ _ t inside => absurd inside (Nat.not_lt_zero t)
  · exact fun _ _ => exists_atRest (by decide) steps
  · exact fun _ _ _ _ _ t inside => absurd inside (Nat.not_lt_zero t)
  · induction steps using List.reverseRecOn with
    | nil => exact History.admissible_nil
    | append_singleton past step induction =>
        refine (History.admissible_snoc past step).mpr ⟨induction, ?_⟩
        cases step with
        | limitReached t =>
            exact fun inside => absurd inside (Nat.not_lt_zero t)
        | connectionClosed => exact fun some => absurd some (by decide)
        | _ => trivial

/-- Where the loops end, each call finishes every testcase: there was one at
most. -/
theorem FinishedOnce.passes_small {tenants : Nat} {steps : List Step}
    (once : FinishedOnce tenants steps) (some : 0 < tenants)
    (small : tenants < 256) : passes tenants (run tenants steps) ≤ 1 := by
  obtain ⟨more, working, atRest⟩ := exists_atRest small steps
  have finished := once.atMostOnce more working 0 some
  rwa [finishes_atRest small atRest some,
    passes_working tenants steps working] at finished

/-- Where they do not end there was none: a send loop would never be at rest,
and a call of `tenant_failed` would finish every testcase again. -/
theorem FinishedOnce.passes_large {tenants : Nat} {steps : List Step}
    (once : FinishedOnce tenants steps) (large : 256 ≤ tenants) :
    passes tenants (run tenants steps) = 0 := by
  by_contra several
  have called : 0 < passes tenants (run tenants steps) :=
    Nat.pos_of_ne_zero several
  rcases Nat.eq_zero_or_pos (run tenants steps).failCalls with none | fails
  · have allSet : AllSet tenants (run tenants steps) := by
      by_contra unset
      rw [not_allSet_passes (flags_run tenants steps) unset] at called
      omega
    have notClosed := (failCalls_eq_zero_iff tenants steps).mp none
    obtain ⟨more, working, atRest⟩ := once.ended notClosed allSet
    have stillNone : (run tenants (steps ++ more)).failCalls = 0 := by
      rw [failCalls_eq_zero_iff, List.mem_append, not_or]
      exact ⟨notClosed, fun member => working _ member⟩
    rw [← passes_working tenants steps working] at called
    obtain ⟨t, inside, through⟩ := atRest_through atRest stillNone called
    exact (endless_run large _).notThrough t inside through
  · obtain ⟨more, working, twice⟩ := finished_twice large fails
    have finished := once.atMostOnce more working 0 (by omega)
    omega

theorem failCalls_le_passes (tenants : Nat) (state : SystemState) :
    state.failCalls ≤ passes tenants state :=
  Nat.le_add_right ..

theorem finishedOnce_of_passes {tenants : Nat} {steps : List Step}
    (some : 0 < tenants)
    (atMostOne : passes tenants (run tenants steps) = 0 ∨
      tenants < 256 ∧ passes tenants (run tenants steps) ≤ 1) :
    FinishedOnce tenants steps := by
  have called : AllSet tenants (run tenants steps) →
      tenants < 256 ∧ passes tenants (run tenants steps) = 1 := by
    intro allSet
    have counted := allSet_passes (flags_run tenants steps) some allSet
    omega
  refine ⟨?_, ?_, ?_⟩
  · intro more working t inside
    rw [← passes_working tenants steps working] at atMostOne
    rcases Nat.lt_or_ge tenants 256 with small | large
    · have finished := finishes_le_passes small (steps ++ more) inside
      omega
    · have part := failCalls_le_passes tenants (run tenants (steps ++ more))
      have none : (run tenants (steps ++ more)).failCalls = 0 := by omega
      rw [(endless_run large _).unfinished none]
      decide
  · intro _ allSet
    exact exists_atRest (called allSet).1 steps
  · intro _ allSet more working atRest t inside
    rw [finishes_atRest (called allSet).1 atRest inside,
      passes_working tenants steps working]
    exact (called allSet).2

/-- The exact condition for every run: the testcases are finished once exactly
when the steps of the run are orderly. -/
theorem finishedOnce_iff (tenants : Nat) (steps : List Step) :
    FinishedOnce tenants steps ↔ OrderlyRun tenants steps := by
  rcases Nat.eq_zero_or_pos tenants with rfl | some
  · obtain ⟨once, orderly⟩ := finishedOnce_noTenants steps
    exact iff_of_true once orderly
  · rw [orderlyRun_iff some]
    constructor
    · intro once
      rcases Nat.lt_or_ge tenants 256 with small | large
      · exact .inr ⟨small, once.passes_small some small⟩
      · exact .inl (once.passes_large large)
    · exact finishedOnce_of_passes some

/-- The steps of a send loop that reaches its limit at once. -/
def limitAtOnce (t : Nat) : List Step := [.loopTest t, .limitReached t]

/-- The testcases of two tenants that reach their limits at the same time are
finished twice. -/
theorem finishedOnce_sameTime :
    (∀ t < 2, (run 2 (limitAtOnce 0 ++ limitAtOnce 1 ++
      List.replicate 7 (.tenantFinished 0) ++
      List.replicate 7 (.tenantFinished 1))).finishes t = 2) ∧
      ¬FinishedOnce 2 (limitAtOnce 0 ++ limitAtOnce 1) := by
  have twice : ∀ t < 2, (run 2 (limitAtOnce 0 ++ limitAtOnce 1 ++
      List.replicate 7 (.tenantFinished 0) ++
      List.replicate 7 (.tenantFinished 1))).finishes t = 2 := by
    decide
  refine ⟨twice, ?_⟩
  intro once
  have finished := once.atMostOnce (List.replicate 7 (.tenantFinished 0) ++
    List.replicate 7 (.tenantFinished 1)) (by simp [Step.Working]) 0 (by decide)
  rw [← List.append_assoc, twice 0 (by decide)] at finished
  contradiction

end SystemState

end Perfbench
