import Perfbench.SystemState
import Perfbench.Library.History
import Perfbench.Library.Tally
import Mathlib.Tactic.ByContra

/-!
# How often the testcases are finished

All calls that finish the tenants are counted: those that have begun, and
those of send loops whose look at the flags cannot fail any more.  The count
is settled when a tenant sets the last flag or a connection is closed, and
when all the calls have returned every testcase was finished that many times.
-/

namespace Perfbench

namespace SystemState

def AllSet (tenants : Nat) (state : SystemState) : Prop :=
  ∀ t < tenants, state.tenantFinished t = true

instance (tenants : Nat) (state : SystemState) :
    Decidable (AllSet tenants state) :=
  inferInstanceAs (Decidable (∀ t < tenants, _))

def Scanning (loop : SendLoop) : Prop := ∃ i, loop = .scanning i

/-- In `all_tenants_finished`, or back from there. -/
def Through (loop : SendLoop) : Prop :=
  (∃ i, loop = .stopping i) ∨ loop = .stopped

/-- The calls of `tenant_failed`. -/
def failCalls (state : SystemState) : Nat :=
  state.waiting + (if state.failing.isSome then 1 else 0) + state.failures

/-- The last flag is set when no other tenant is looking at the flags, and a
connection is closed before that; no connection was closed before, and the
index of the loops holds the number of tenants. -/
def Orderly (tenants : Nat) (state : SystemState) : Step → Prop
  | .limitReached t =>
      t < tenants → state.loops t = .body →
        (∀ u < tenants, u ≠ t → state.tenantFinished u = true) →
        tenants < 256 ∧ state.failCalls = 0 ∧
          ∀ u < tenants, u ≠ t → ¬Scanning (state.loops u)
  | .connectionClosed =>
      0 < tenants →
        tenants < 256 ∧ state.failCalls = 0 ∧ ¬AllSet tenants state
  | _ => True

def OrderlyRun (tenants : Nat) (steps : List Step) : Prop :=
  History.Admissible
    (fun past step => Orderly tenants (run tenants past) step) steps

section Fields

variable (state : SystemState) (t : Nat) (loop : SendLoop)

@[simp] theorem setLoop_loops : (state.setLoop t loop).loops =
    Function.update state.loops t loop := rfl

@[simp] theorem setLoop_tenantFinished :
    (state.setLoop t loop).tenantFinished = state.tenantFinished := rfl

@[simp] theorem setLoop_finishes :
    (state.setLoop t loop).finishes = state.finishes := rfl

@[simp] theorem setLoop_waiting :
    (state.setLoop t loop).waiting = state.waiting := rfl

@[simp] theorem setLoop_failing :
    (state.setLoop t loop).failing = state.failing := rfl

@[simp] theorem setLoop_failures :
    (state.setLoop t loop).failures = state.failures := rfl

@[simp] theorem finish_loops : (state.finish t).loops = state.loops := rfl

@[simp] theorem finish_tenantFinished :
    (state.finish t).tenantFinished = state.tenantFinished := rfl

@[simp] theorem finish_finishes : (state.finish t).finishes =
    Function.update state.finishes t (state.finishes t + 1) := rfl

@[simp] theorem finish_waiting :
    (state.finish t).waiting = state.waiting := rfl

@[simp] theorem finish_failing :
    (state.finish t).failing = state.failing := rfl

@[simp] theorem finish_failures :
    (state.finish t).failures = state.failures := rfl

@[simp] theorem allSet_setLoop (tenants : Nat) :
    AllSet tenants (state.setLoop t loop) ↔ AllSet tenants state := Iff.rfl

end Fields

/-- Everything that a step can do, with what it found. -/
inductive Moved (tenants : Nat) (state : SystemState) :
    Step → SystemState → Prop where
  | idle {step : Step} (notClosed : step ≠ .connectionClosed)
      (notReached : ∀ t, step = .limitReached t →
        ¬(t < tenants ∧ state.loops t = .body)) :
      Moved tenants state step state
  | sending {step : Step} {t : Nat} {loop : SendLoop} (inside : t < tenants)
      (notClosed : step ≠ .connectionClosed)
      (notReached : ∀ u, step ≠ .limitReached u)
      (before : state.loops t = .head ∨ state.loops t = .body)
      (after : loop = .head ∨ loop = .body ∨ loop = .returned) :
      Moved tenants state step (state.setLoop t loop)
  | reached {t : Nat} (inside : t < tenants) (before : state.loops t = .body) :
      Moved tenants state (.limitReached t)
        { state.setLoop t (.scanning 0) with
          tenantFinished := Function.update state.tenantFinished t true }
  | set {t i : Nat} (inside : t < tenants)
      (before : state.loops t = .scanning i) (index : i < tenants)
      (flag : state.tenantFinished i = true) :
      Moved tenants state (.tenantFinished t)
        (state.setLoop t (.scanning (ByteLoop.next i)))
  | notSet {t i : Nat} (inside : t < tenants)
      (before : state.loops t = .scanning i) (index : i < tenants)
      (flag : state.tenantFinished i = false) :
      Moved tenants state (.tenantFinished t) (state.setLoop t .returned)
  | through {t i : Nat} (inside : t < tenants)
      (before : state.loops t = .scanning i) (index : tenants ≤ i) :
      Moved tenants state (.tenantFinished t) (state.setLoop t (.stopping 0))
  | stop {t i : Nat} (inside : t < tenants)
      (before : state.loops t = .stopping i) (index : i < tenants) :
      Moved tenants state (.tenantFinished t)
        ((state.finish i).setLoop t (.stopping (ByteLoop.next i)))
  | stopped {t i : Nat} (inside : t < tenants)
      (before : state.loops t = .stopping i) (index : tenants ≤ i) :
      Moved tenants state (.tenantFinished t)
        { state.setLoop t .stopped with finished := true }
  | closed : Moved tenants state .connectionClosed
      { state with waiting := state.waiting + 1 }
  | lock (free : state.failing = none) (called : 0 < state.waiting) :
      Moved tenants state .tenantFailed
        { state with waiting := state.waiting - 1, failing := some 0 }
  | fail {i : Nat} (held : state.failing = some i) (index : i < tenants) :
      Moved tenants state .tenantFailed
        { state.finish i with failing := some (ByteLoop.next i) }
  | failed {i : Nat} (held : state.failing = some i) (index : tenants ≤ i) :
      Moved tenants state .tenantFailed
        { state with
          failing := none
          failures := state.failures + 1
          failed := true }

theorem step_moved (tenants : Nat) (state : SystemState) (step : Step) :
    Moved tenants state step (SystemState.step tenants state step) := by
  cases step with
  | loopTest t =>
      simp only [SystemState.step]
      split
      · rename_i test
        refine .sending test.1 (by simp) (by simp) (.inl test.2) ?_
        split <;> simp
      · exact .idle (by simp) (by simp)
  | burst t =>
      simp only [SystemState.step]
      split
      · rename_i test
        exact .sending test.1 (by simp) (by simp) (.inr test.2) (.inl rfl)
      · exact .idle (by simp) (by simp)
  | limitReached t =>
      simp only [SystemState.step]
      split
      · rename_i test
        exact .reached test.1 test.2
      · rename_i test
        refine .idle (by simp) ?_
        rintro u equal
        cases equal
        exact test
  | tenantFinished t =>
      simp only [SystemState.step]
      split
      · rename_i inside
        cases before : state.loops t with
        | scanning i =>
            simp only [sendLoopStep]
            split
            · rename_i index
              cases flag : state.tenantFinished i with
              | true => exact .set inside before index flag
              | false => exact .notSet inside before index flag
            · rename_i index
              exact .through inside before (Nat.le_of_not_lt index)
        | stopping i =>
            simp only [sendLoopStep]
            split
            · rename_i index
              exact .stop inside before index
            · rename_i index
              exact .stopped inside before (Nat.le_of_not_lt index)
        | head => exact .idle (by simp) (by simp)
        | body => exact .idle (by simp) (by simp)
        | returned => exact .idle (by simp) (by simp)
        | stopped => exact .idle (by simp) (by simp)
      · exact .idle (by simp) (by simp)
  | connectionClosed => exact .closed
  | tenantFailed =>
      cases held : state.failing with
      | none =>
          simp only [SystemState.step, held]
          split
          · exact .idle (by simp) (by simp)
          · rename_i called
            exact .lock held (Nat.pos_of_ne_zero called)
      | some i =>
          simp only [SystemState.step, held]
          split
          · rename_i index
            exact .fail held index
          · rename_i index
            exact .failed held (Nat.le_of_not_lt index)

/-- What the send loops know of the flags. -/
structure Flags (tenants : Nat) (state : SystemState) : Prop where
  unset : ∀ t < tenants, state.loops t = .head ∨ state.loops t = .body →
    state.tenantFinished t = false
  scanned : ∀ t < tenants, ∀ i, state.loops t = .scanning i →
    ∀ j < i, state.tenantFinished j = true
  through : ∀ t < tenants, Through (state.loops t) → AllSet tenants state
  last : 0 < tenants → AllSet tenants state →
    ∃ t < tenants, Scanning (state.loops t) ∨ Through (state.loops t)

theorem Flags.congr {tenants : Nat} {state other : SystemState}
    (flags : Flags tenants state) (loops : other.loops = state.loops)
    (tenantFinished : other.tenantFinished = state.tenantFinished) :
    Flags tenants other := by
  obtain ⟨unset, scanned, through, last⟩ := flags
  constructor
  · rwa [loops, tenantFinished]
  · rwa [loops, tenantFinished]
  · simpa only [AllSet, loops, tenantFinished] using through
  · simpa only [AllSet, loops, tenantFinished] using last

theorem Flags.setLoop {tenants : Nat} {state : SystemState} {t : Nat}
    {loop : SendLoop} (flags : Flags tenants state) (inside : t < tenants)
    (unset : loop = .head ∨ loop = .body → state.tenantFinished t = false)
    (scanned : ∀ i, loop = .scanning i →
      ∀ j < i, state.tenantFinished j = true)
    (through : Through loop → AllSet tenants state)
    (last : Scanning (state.loops t) ∨ Through (state.loops t) →
      AllSet tenants state → Scanning loop ∨ Through loop) :
    Flags tenants (state.setLoop t loop) := by
  constructor
  · intro u uInside
    by_cases same : u = t
    · subst same
      simpa using unset
    · simpa [same] using flags.unset u uInside
  · intro u uInside
    by_cases same : u = t
    · subst same
      simpa using scanned
    · simpa [same] using flags.scanned u uInside
  · intro u uInside
    by_cases same : u = t
    · subst same
      simpa using through
    · simpa [same] using flags.through u uInside
  · intro some allSet
    obtain ⟨u, uInside, sharing⟩ := flags.last some allSet
    by_cases same : u = t
    · subst same
      exact ⟨u, uInside, by simpa using last sharing allSet⟩
    · exact ⟨u, uInside, by simpa [same] using sharing⟩

theorem Flags.reached {tenants : Nat} {state : SystemState} {t : Nat}
    (flags : Flags tenants state) (inside : t < tenants) :
    Flags tenants
      { state.setLoop t (.scanning 0) with
        tenantFinished := Function.update state.tenantFinished t true } := by
  have kept : ∀ j, state.tenantFinished j = true →
      Function.update state.tenantFinished t true j = true := by
    intro j flag
    by_cases same : j = t
    · simp [same]
    · simpa [same] using flag
  constructor
  · intro u uInside before
    by_cases same : u = t
    · simp [same] at before
    · simpa [same] using flags.unset u uInside (by simpa [same] using before)
  · intro u uInside i scanning j below
    by_cases same : u = t
    · simp only [same, setLoop_loops, Function.update_self,
        SendLoop.scanning.injEq] at scanning
      omega
    · exact kept j (flags.scanned u uInside i
        (by simpa [same] using scanning) j below)
  · intro u uInside through v vInside
    by_cases same : u = t
    · simp [same, Through] at through
    · exact kept v (flags.through u uInside
        (by simpa [same] using through) v vInside)
  · exact fun _ _ => ⟨t, inside, .inl ⟨0, by simp⟩⟩

theorem Flags.move {tenants : Nat} {state next : SystemState} {step : Step}
    (flags : Flags tenants state) (moved : Moved tenants state step next) :
    Flags tenants next := by
  cases moved with
  | idle _ _ => exact flags
  | sending inside _ _ before after =>
      refine flags.setLoop inside (fun _ => flags.unset _ inside before)
        ?_ ?_ ?_
      · intro i scanning
        simp [scanning] at after
      · rintro (⟨i, stopping⟩ | stopped)
        · simp [stopping] at after
        · simp [stopped] at after
      · rintro (⟨i, scanning⟩ | ⟨i, stopping⟩ | stopped)
        · simp [scanning] at before
        · simp [stopping] at before
        · simp [stopped] at before
  | reached inside _ => exact flags.reached inside
  | @set t i inside before index flag =>
      refine flags.setLoop inside (by simp) ?_ (by simp [Through]) ?_
      · intro next equal j below
        cases equal
        have position := ByteLoop.next_le i
        rcases Nat.lt_or_ge j i with read | here
        · exact flags.scanned t inside i before j read
        · have equal : j = i := by omega
          rw [equal]
          exact flag
      · exact fun _ _ => .inl ⟨ByteLoop.next i, rfl⟩
  | @notSet t i inside before index flag =>
      refine flags.setLoop inside (by simp) (by simp) (by simp [Through]) ?_
      intro _ allSet
      rw [allSet i index] at flag
      contradiction
  | @through t i inside before index =>
      refine flags.setLoop inside (by simp) (by simp) ?_ ?_
      · intro _ u uInside
        exact flags.scanned t inside i before u (by omega)
      · exact fun _ _ => .inr (.inl ⟨0, rfl⟩)
  | @stop t i inside before index =>
      have finished : Flags tenants (state.finish i) := flags.congr rfl rfl
      refine finished.setLoop inside (by simp) (by simp) ?_ ?_
      · exact fun _ => flags.through t inside (.inl ⟨i, before⟩)
      · exact fun _ _ => .inr (.inl ⟨ByteLoop.next i, rfl⟩)
  | @stopped t i inside before index =>
      have stopped : Flags tenants (state.setLoop t .stopped) := by
        refine flags.setLoop inside (by simp) (by simp) ?_ ?_
        · exact fun _ => flags.through t inside (.inl ⟨i, before⟩)
        · exact fun _ _ => .inr (.inr rfl)
      exact stopped.congr rfl rfl
  | closed => exact flags.congr rfl rfl
  | lock _ _ => exact flags.congr rfl rfl
  | fail _ _ => exact flags.congr rfl rfl
  | failed _ _ => exact flags.congr rfl rfl

theorem flags_run (tenants : Nat) (steps : List Step) :
    Flags tenants (run tenants steps) := by
  induction steps using List.reverseRecOn with
  | nil =>
      constructor
      · exact fun _ _ _ => rfl
      · intro t inside i scanning
        cases scanning
      · rintro t inside (⟨i, stopping⟩ | stopped)
        · cases stopping
        · cases stopped
      · intro some allSet
        cases allSet 0 some
  | append_singleton past step induction =>
      rw [run_append]
      exact induction.move (step_moved tenants _ step)

/-- What a send loop adds to the count. -/
def share (allSet : Bool) : SendLoop → Nat
  | .scanning _ => if allSet then 1 else 0
  | .stopping _ => 1
  | .stopped => 1
  | _ => 0

/-- The calls that finish all the tenants, or will do so. -/
def passes (tenants : Nat) (state : SystemState) : Nat :=
  state.failCalls +
    Tally.total tenants (share (decide (AllSet tenants state))) state.loops

theorem passes_call {tenants more : Nat} {state next : SystemState}
    (loops : next.loops = state.loops)
    (tenantFinished : next.tenantFinished = state.tenantFinished)
    (failCalls : next.failCalls = state.failCalls + more) :
    passes tenants next = passes tenants state + more := by
  have allSet : AllSet tenants next ↔ AllSet tenants state := by
    rw [AllSet, AllSet, tenantFinished]
  simp only [passes, loops, allSet, failCalls]
  omega

theorem passes_setLoop {tenants t : Nat} {state next : SystemState}
    {loop : SendLoop} (inside : t < tenants)
    (same : ∀ allSet, allSet = decide (AllSet tenants state) →
      share allSet loop = share allSet (state.loops t))
    (loops : next.loops = Function.update state.loops t loop)
    (tenantFinished : next.tenantFinished = state.tenantFinished)
    (failCalls : next.failCalls = state.failCalls) :
    passes tenants next = passes tenants state := by
  have changed := Tally.total_update inside
    (share (decide (AllSet tenants state))) state.loops loop
  rw [same _ rfl] at changed
  have allSet : AllSet tenants next ↔ AllSet tenants state := by
    rw [AllSet, AllSet, tenantFinished]
  simp only [passes, failCalls, loops, allSet]
  omega

/-- Only a flag that is set and a connection that is closed add calls. -/
theorem passes_move {tenants : Nat} {state next : SystemState} {step : Step}
    (flags : Flags tenants state) (moved : Moved tenants state step next)
    (notClosed : step ≠ .connectionClosed)
    (notReached : ∀ t, step = .limitReached t →
      ¬(t < tenants ∧ state.loops t = .body)) :
    passes tenants next = passes tenants state := by
  cases moved with
  | idle _ _ => rfl
  | sending inside _ _ before after =>
      refine passes_setLoop inside ?_ rfl rfl rfl
      intro allSet _
      rcases before with head | body <;>
        rcases after with rfl | rfl | rfl <;> simp [share, *]
  | reached inside before => exact absurd ⟨inside, before⟩ (notReached _ rfl)
  | set inside before index flag =>
      refine passes_setLoop inside ?_ rfl rfl rfl
      intro allSet _
      simp [share, before]
  | @notSet t i inside before index flag =>
      refine passes_setLoop inside ?_ rfl rfl rfl
      intro allSet equal
      have unset : ¬AllSet tenants state := by
        intro all
        rw [all i index] at flag
        contradiction
      simp [share, before, equal, unset]
  | @through t i inside before index =>
      refine passes_setLoop inside ?_ rfl rfl rfl
      intro allSet equal
      have set : AllSet tenants state := fun u uInside =>
        flags.scanned t inside i before u (by omega)
      simp [share, before, equal, set]
  | stop inside before index =>
      refine passes_setLoop inside ?_ rfl rfl rfl
      intro allSet _
      simp [share, before]
  | stopped inside before index =>
      refine passes_setLoop inside ?_ rfl rfl rfl
      intro allSet _
      simp [share, before]
  | closed => exact absurd rfl notClosed
  | lock free called =>
      refine @passes_call tenants 0 _ _ rfl rfl ?_
      simp only [failCalls, free, Option.isSome_none, Option.isSome_some,
        Bool.false_eq_true, if_true, if_false]
      omega
  | fail held index =>
      refine @passes_call tenants 0 _ _ rfl rfl ?_
      simp only [failCalls, held, Option.isSome_some, finish_waiting,
        finish_failures, Nat.add_zero]
  | failed held index =>
      refine @passes_call tenants 0 _ _ rfl rfl ?_
      simp only [failCalls, held, Option.isSome_none, Option.isSome_some,
        Bool.false_eq_true, if_true, if_false]
      omega

theorem passes_closed (tenants : Nat) (state : SystemState) :
    passes tenants (step tenants state .connectionClosed) =
      passes tenants state + 1 := by
  refine passes_call rfl rfl ?_
  cases held : state.failing with
  | none => simp [failCalls, step, held, Nat.add_right_comm]
  | some i => simp [failCalls, step, held, Nat.add_right_comm]

theorem not_allSet_passes {tenants : Nat} {state : SystemState}
    (flags : Flags tenants state) (unset : ¬AllSet tenants state) :
    passes tenants state = state.failCalls := by
  have none : Tally.total tenants (share (decide (AllSet tenants state)))
      state.loops = 0 := by
    rw [Tally.total_eq_zero_iff]
    intro u uInside
    cases loop : state.loops u with
    | stopping i =>
        exact absurd (flags.through u uInside (.inl ⟨i, loop⟩)) unset
    | stopped => exact absurd (flags.through u uInside (.inr loop)) unset
    | _ => simp [share, unset]
  rw [passes, none, Nat.add_zero]

theorem allSet_passes {tenants : Nat} {state : SystemState}
    (flags : Flags tenants state) (some : 0 < tenants)
    (allSet : AllSet tenants state) :
    state.failCalls < passes tenants state := by
  obtain ⟨t, inside, sharing⟩ := flags.last some allSet
  have counted : 0 < Tally.total tenants
      (share (decide (AllSet tenants state))) state.loops := by
    rw [Tally.total_pos_iff]
    refine ⟨t, inside, ?_⟩
    rcases sharing with ⟨i, loop⟩ | ⟨i, loop⟩ | loop <;>
      simp [share, loop, allSet]
  rw [passes]
  omega

theorem step_reached {tenants t : Nat} {state : SystemState}
    (inside : t < tenants) (before : state.loops t = .body) :
    step tenants state (.limitReached t) =
      { state.setLoop t (.scanning 0) with
        tenantFinished := Function.update state.tenantFinished t true } :=
  if_pos ⟨inside, before⟩

theorem allSet_reached_iff {tenants t : Nat} {state : SystemState}
    (inside : t < tenants) (before : state.loops t = .body) :
    AllSet tenants (step tenants state (.limitReached t)) ↔
      ∀ u < tenants, u ≠ t → state.tenantFinished u = true := by
  rw [step_reached inside before]
  constructor
  · intro allSet u uInside other
    simpa [other] using allSet u uInside
  · intro others u uInside
    by_cases same : u = t
    · simp [same]
    · simpa [same] using others u uInside same

theorem Flags.not_allSet {tenants t : Nat} {state : SystemState}
    (flags : Flags tenants state) (inside : t < tenants)
    (before : state.loops t = .body) : ¬AllSet tenants state := by
  intro allSet
  have flag := allSet t inside
  rw [flags.unset t inside (.inr before)] at flag
  contradiction

theorem passes_reached_early {tenants t : Nat} {state : SystemState}
    (flags : Flags tenants state) (inside : t < tenants)
    (before : state.loops t = .body)
    (early : ¬∀ u < tenants, u ≠ t → state.tenantFinished u = true) :
    passes tenants (step tenants state (.limitReached t)) =
      passes tenants state := by
  have unset := flags.not_allSet inside before
  have stillUnset : ¬AllSet tenants (step tenants state (.limitReached t)) := by
    rw [allSet_reached_iff inside before]
    exact early
  have nextFlags := flags.move (step_moved tenants state (.limitReached t))
  rw [not_allSet_passes flags unset, not_allSet_passes nextFlags stillUnset,
    step_reached inside before]
  rfl

/-- With the last flag, every send loop that is looking at the flags counts. -/
theorem passes_reached_last {tenants t : Nat} {state : SystemState}
    (flags : Flags tenants state) (inside : t < tenants)
    (before : state.loops t = .body)
    (last : ∀ u < tenants, u ≠ t → state.tenantFinished u = true) :
    passes tenants (step tenants state (.limitReached t)) ≤ 1 ↔
      state.failCalls = 0 ∧
        ∀ u < tenants, u ≠ t → ¬Scanning (state.loops u) := by
  have allSet := (allSet_reached_iff inside before).mpr last
  have notThrough : ∀ u < tenants, ¬Through (state.loops u) := by
    intro u uInside through
    exact flags.not_allSet inside before (flags.through u uInside through)
  have count : passes tenants (step tenants state (.limitReached t)) =
      state.failCalls + (Tally.total tenants (share true) state.loops + 1) := by
    have changed := Tally.total_update inside (share true) state.loops
      (.scanning 0)
    simp only [before, share, if_true, Nat.add_zero] at changed
    rw [passes, decide_eq_true allSet, step_reached inside before, ← changed]
    rfl
  have none : Tally.total tenants (share true) state.loops = 0 ↔
      ∀ u < tenants, u ≠ t → ¬Scanning (state.loops u) := by
    rw [Tally.total_eq_zero_iff]
    constructor
    · rintro zero u uInside _ ⟨i, loop⟩
      simpa [share, loop] using zero u uInside
    · intro noneScans u uInside
      cases loop : state.loops u with
      | scanning i =>
          by_cases same : u = t
          · rw [same, before] at loop
            cases loop
          · exact absurd ⟨i, loop⟩ (noneScans u uInside same)
      | stopping i => exact absurd (.inl ⟨i, loop⟩) (notThrough u uInside)
      | stopped => exact absurd (.inr loop) (notThrough u uInside)
      | _ => rfl
  rw [← none, count]
  omega

theorem passes_reached_lt {tenants t : Nat} {state : SystemState}
    (flags : Flags tenants state) (inside : t < tenants)
    (before : state.loops t = .body)
    (last : ∀ u < tenants, u ≠ t → state.tenantFinished u = true) :
    passes tenants state <
      passes tenants (step tenants state (.limitReached t)) := by
  have unset := flags.not_allSet inside before
  have allSet := (allSet_reached_iff inside before).mpr last
  have nextFlags := flags.move (step_moved tenants state (.limitReached t))
  have counted := allSet_passes nextFlags (Nat.zero_lt_of_lt inside) allSet
  rw [step_reached inside before] at counted ⊢
  rw [not_allSet_passes flags unset]
  exact counted

/-- A step leaves the number of calls, or it sets the last flag, or it is the
end of a connection. -/
theorem passes_cases {tenants : Nat} {state : SystemState}
    (flags : Flags tenants state) (step : Step) :
    passes tenants (SystemState.step tenants state step) =
        passes tenants state ∧ (step ≠ .connectionClosed) ∧
        (∀ t, step = .limitReached t → t < tenants → state.loops t = .body →
          ¬∀ u < tenants, u ≠ t → state.tenantFinished u = true) ∨
      (∃ t, step = .limitReached t ∧ t < tenants ∧ state.loops t = .body ∧
        ∀ u < tenants, u ≠ t → state.tenantFinished u = true) ∨
      step = .connectionClosed := by
  by_cases closed : step = .connectionClosed
  · exact .inr (.inr closed)
  · by_cases reached : ∃ t, step = .limitReached t ∧ t < tenants ∧
        state.loops t = .body
    · obtain ⟨t, rfl, inside, before⟩ := reached
      by_cases last : ∀ u < tenants, u ≠ t → state.tenantFinished u = true
      · exact .inr (.inl ⟨t, rfl, inside, before, last⟩)
      · refine .inl ⟨passes_reached_early flags inside before last, closed, ?_⟩
        rintro u equal _ _
        cases equal
        exact last
    · have notReached : ∀ t, step = .limitReached t →
          ¬(t < tenants ∧ state.loops t = .body) :=
        fun t equal effective => reached ⟨t, equal, effective⟩
      refine .inl ⟨passes_move flags (step_moved tenants state step) closed
        notReached, closed, ?_⟩
      exact fun t equal inside before =>
        absurd ⟨inside, before⟩ (notReached t equal)

theorem passes_mono {tenants : Nat} {state : SystemState}
    (flags : Flags tenants state) (step : Step) :
    passes tenants state ≤
      passes tenants (SystemState.step tenants state step) := by
  rcases passes_cases flags step with
    ⟨same, _⟩ | ⟨t, rfl, inside, before, last⟩ | rfl
  · rw [same]
  · exact Nat.le_of_lt (passes_reached_lt flags inside before last)
  · rw [passes_closed]
    omega

/-- The orderly steps are those that leave the number of calls or make it
one. -/
theorem orderly_iff {tenants : Nat} {state : SystemState} (some : 0 < tenants)
    (flags : Flags tenants state) (step : Step) :
    Orderly tenants state step ↔
      passes tenants (SystemState.step tenants state step) =
          passes tenants state ∨
        tenants < 256 ∧
          passes tenants (SystemState.step tenants state step) ≤ 1 := by
  rcases passes_cases flags step with
    ⟨same, notClosed, early⟩ | ⟨t, rfl, inside, before, last⟩ | rfl
  · refine iff_of_true ?_ (.inl same)
    cases step with
    | limitReached t =>
        exact fun inside before last =>
          absurd last (early t rfl inside before)
    | connectionClosed => exact absurd rfl notClosed
    | _ => trivial
  · have more := passes_reached_lt flags inside before last
    have atMostOne := passes_reached_last flags inside before last
    constructor
    · intro orderly
      obtain ⟨small, calls⟩ := orderly inside before last
      exact .inr ⟨small, atMostOne.mpr calls⟩
    · rintro (same | ⟨small, one⟩)
      · omega
      · exact fun _ _ _ => ⟨small, atMostOne.mp one⟩
  · have none : passes tenants state = 0 ↔
        state.failCalls = 0 ∧ ¬AllSet tenants state := by
      by_cases allSet : AllSet tenants state
      · have counted := allSet_passes flags some allSet
        exact iff_of_false (by omega) (fun both => both.2 allSet)
      · rw [not_allSet_passes flags allSet]
        exact ⟨fun calls => ⟨calls, allSet⟩, fun both => both.1⟩
    rw [passes_closed]
    constructor
    · intro orderly
      obtain ⟨small, calls⟩ := orderly some
      rw [none.mpr calls]
      exact .inr ⟨small, Nat.le_refl 1⟩
    · rintro (same | ⟨small, one⟩)
      · omega
      · exact fun _ => ⟨small, none.mp (by omega)⟩

theorem passes_running {tenants : Nat} (some : 0 < tenants) :
    passes tenants (run tenants []) = 0 := by
  have unset : ¬AllSet tenants (run tenants []) := by
    intro allSet
    cases allSet 0 some
  rw [not_allSet_passes (flags_run tenants []) unset]
  rfl

theorem orderlyRun_iff {tenants : Nat} (some : 0 < tenants)
    (steps : List Step) :
    OrderlyRun tenants steps ↔
      passes tenants (run tenants steps) = 0 ∨
        tenants < 256 ∧ passes tenants (run tenants steps) ≤ 1 := by
  induction steps using List.reverseRecOn with
  | nil =>
      exact iff_of_true History.admissible_nil (.inl (passes_running some))
  | append_singleton past step induction =>
      have flags := flags_run tenants past
      have more := passes_mono flags step
      rw [OrderlyRun, History.admissible_snoc, ← OrderlyRun, induction,
        orderly_iff some flags, run_append, List.foldl_cons, List.foldl_nil]
      omega

end SystemState

end Perfbench
