import Perfbench.Library.History

/-!
# Runs of partial steps

A machine whose steps may have no result has a run as long as every step has
one.  What the steps keep holds after the run, and a machine whose steps match
those of another one has a run exactly when the other has one.
-/

namespace PartialRun

variable {State Other Event : Type*}

def run (step : State → Event → Option State) (start : State)
    (events : List Event) : Option State :=
  events.foldlM step start

section Run

variable {step : State → Event → Option State} {start : State}

@[simp] theorem run_nil : run step start [] = some start := rfl

theorem run_append (first second : List Event) :
    run step start (first ++ second) =
      (run step start first).bind (fun state => run step state second) :=
  List.foldlM_append

theorem run_snoc (past : List Event) (event : Event) :
    run step start (past ++ [event]) =
      (run step start past).bind (fun state => step state event) := by
  rw [run_append]
  congr 1
  funext state
  rw [run, List.foldlM_cons]
  exact bind_pure (step state event)

theorem run_map {otherStep : Other → Event → Option Other}
    {view : State → Other}
    (matching : ∀ state event,
      otherStep (view state) event = (step state event).map view)
    (events : List Event) (state : State) :
    run otherStep (view state) events = (run step state events).map view := by
  induction events generalizing state with
  | nil => rfl
  | cons event events induction =>
      rw [run, List.foldlM_cons, matching, run, List.foldlM_cons]
      cases step state event with
      | none => rfl
      | some after => exact induction after

theorem run_past {first second : List Event} {final : State}
    (result : run step start (first ++ second) = some final) :
    ∃ state, run step start first = some state ∧
      run step state second = some final := by
  rw [run_append] at result
  exact Option.bind_eq_some_iff.mp result

/-- What holds at the start and is kept by the steps that the events may take
holds after the run. -/
theorem invariant {allowed : List Event → Event → Prop}
    {Invariant : List Event → State → Prop} {events : List Event}
    {final : State} (admissible : History.Admissible allowed events)
    (result : run step start events = some final)
    (first : Invariant [] start)
    (keeps : ∀ past event state after, allowed past event →
      run step start past = some state → Invariant past state →
        step state event = some after → Invariant (past ++ [event]) after) :
    Invariant events final := by
  induction events using List.reverseRecOn generalizing final with
  | nil =>
      cases result
      exact first
  | append_singleton past event induction =>
      obtain ⟨pastAdmissible, eventAllowed⟩ :=
        (History.admissible_snoc past event).mp admissible
      rw [run_snoc] at result
      obtain ⟨state, pastResult, stepResult⟩ :=
        Option.bind_eq_some_iff.mp result
      exact keeps past event state final eventAllowed pastResult
        (induction pastAdmissible pastResult) stepResult

theorem always {Invariant : State → Prop} {events : List Event} {final : State}
    (result : run step start events = some final) (first : Invariant start)
    (keeps : ∀ event state after, Invariant state →
      step state event = some after → Invariant after) :
    Invariant final := by
  induction events generalizing start with
  | nil =>
      cases result
      exact first
  | cons event events induction =>
      obtain ⟨after, stepResult, rest⟩ := Option.bind_eq_some_iff.mp result
      exact induction rest (keeps event start after first stepResult)

theorem length_le_rank {Invariant : State → Prop} {Wanted : Event → Prop}
    {rank : State → Nat} {events : List Event} {final : State}
    (result : run step start events = some final) (first : Invariant start)
    (keeps : ∀ event state after, Invariant state →
      step state event = some after → Invariant after)
    (smaller : ∀ event state after, Wanted event → Invariant state →
      step state event = some after → rank after < rank state)
    (wanted : ∀ event ∈ events, Wanted event) :
    events.length + rank final ≤ rank start := by
  induction events generalizing start with
  | nil =>
      cases result
      exact Nat.le_of_eq (Nat.zero_add _)
  | cons event events induction =>
      obtain ⟨after, stepResult, rest⟩ := Option.bind_eq_some_iff.mp result
      have here := smaller event start after (wanted event (.head _)) first
        stepResult
      have later := induction rest (keeps event start after first stepResult)
        (fun other member => wanted other (.tail _ member))
      rw [List.length_cons]
      omega

/-- What an observer sees of a run is what the observer sees of the run of the
observed steps alone: the other steps leave the observation as it is, and the
observed ones depend on nothing else. -/
theorem observed {Invariant : State → Prop} {Observation : Type*}
    {observe : State → Observation} {observed : Event → Bool}
    {events : List Event} {final : State}
    (result : run step start events = some final) (first : Invariant start)
    (keeps : ∀ event state after, Invariant state →
      step state event = some after → Invariant after)
    (unseen : ∀ event state after, Invariant state → observed event = false →
      step state event = some after → observe after = observe state)
    (agree : ∀ event state other, observed event = true →
      observe state = observe other →
        (step state event).map observe = (step other event).map observe) :
    ∃ alone, run step start (events.filter observed) = some alone ∧
      observe alone = observe final := by
  induction events using List.reverseRecOn generalizing final with
  | nil =>
      cases result
      exact ⟨start, rfl, rfl⟩
  | append_singleton past event induction =>
      rw [run_snoc] at result
      obtain ⟨state, pastResult, stepResult⟩ :=
        Option.bind_eq_some_iff.mp result
      obtain ⟨alone, aloneResult, same⟩ := induction pastResult
      have holds := always pastResult first keeps
      cases sees : observed event with
      | false =>
          have filtered : (past ++ [event]).filter observed =
              past.filter observed := by
            simp [sees]
          rw [filtered]
          refine ⟨alone, aloneResult, ?_⟩
          rw [same, unseen event state final holds sees stepResult]
      | true =>
          have filtered : (past ++ [event]).filter observed =
              past.filter observed ++ [event] := by
            simp [sees]
          have matching := agree event alone state sees same
          rw [stepResult, Option.map_some, Option.map_eq_some_iff] at matching
          obtain ⟨aloneFinal, aloneStep, sameFinal⟩ := matching
          refine ⟨aloneFinal, ?_, sameFinal⟩
          rw [filtered, run_snoc, aloneResult]
          exact aloneStep

/-- A part of the state that only some steps change, each by a step of its own,
goes through the run of those steps. -/
theorem component {Invariant : State → Prop} {Part : Type*}
    {part : State → Option Part} {partStep : Part → Event → Option Part}
    {own : Event → Bool} {events : List Event} {final : State}
    (result : run step start events = some final) (first : Invariant start)
    (keeps : ∀ event state after, Invariant state →
      step state event = some after → Invariant after)
    (follows : ∀ event state after, Invariant state →
      step state event = some after → part after =
        if own event then (part state).bind (fun item => partStep item event)
        else part state) :
    part final =
      (part start).bind (fun item => run partStep item (events.filter own)) := by
  induction events using List.reverseRecOn generalizing final with
  | nil =>
      cases result
      exact (Option.bind_fun_some (part start)).symm
  | append_singleton past event induction =>
      rw [run_snoc] at result
      obtain ⟨state, pastResult, stepResult⟩ :=
        Option.bind_eq_some_iff.mp result
      have holds := always pastResult first keeps
      rw [follows event state final holds stepResult, induction pastResult]
      cases mine : own event with
      | false => simp [mine]
      | true =>
          have filtered : (past ++ [event]).filter own =
              past.filter own ++ [event] := by
            simp [mine]
          rw [if_pos rfl, filtered, Option.bind_assoc]
          congr 1
          funext item
          rw [run_snoc]

end Run

/-- Two machines in related states take matching steps, so that they have runs
together, which end in related states. -/
theorem simulation {step : State → Event → Option State}
    {otherStep : Other → Event → Option Other} {start : State} {other : Other}
    {allowed : List Event → Event → Prop}
    {Related : State → Other → Prop} {events : List Event}
    (admissible : History.Admissible allowed events)
    (first : Related start other)
    (matching : ∀ past event state otherState, allowed past event →
      run step start past = some state →
        run otherStep other past = some otherState →
          Related state otherState →
            Option.Rel Related (step state event)
              (otherStep otherState event)) :
    Option.Rel Related (run step start events)
      (run otherStep other events) := by
  induction events using List.reverseRecOn with
  | nil => exact .some first
  | append_singleton past event induction =>
      obtain ⟨pastAdmissible, eventAllowed⟩ :=
        (History.admissible_snoc past event).mp admissible
      have related := induction pastAdmissible
      rw [run_snoc, run_snoc]
      cases result : run step start past with
      | none =>
          rw [result] at related
          cases otherResult : run otherStep other past with
          | none => exact .none
          | some otherState =>
              rw [otherResult] at related
              cases related
      | some state =>
          rw [result] at related
          cases otherResult : run otherStep other past with
          | none =>
              rw [otherResult] at related
              cases related
          | some otherState =>
              rw [otherResult] at related
              cases related with
              | some holds =>
                  exact matching past event state otherState eventAllowed
                    result otherResult holds

end PartialRun
