import Perfbench.Library.History

/-!
# Removing events from a run

Some events of a run are marked.  What is observed of the run stays the same
without them, at every point of it, exactly when none of them does anything.
It is enough that a marked event that does something can be observed at once.
-/

namespace Removal

variable {State Event Observation : Type*}

def run (step : State → Event → State) (start : State) (events : List Event) :
    State :=
  events.foldl step start

/-- The events that are not marked. -/
def rest (marked : Event → Bool) (events : List Event) : List Event :=
  events.filter (fun event => !marked event)

/-- At every point of the run it looks the same without the marked events. -/
def Unobserved (step : State → Event → State) (observe : State → Observation)
    (marked : Event → Bool) (start : State) (events : List Event) : Prop :=
  ∀ first second, events = first ++ second →
    observe (run step start first) =
      observe (run step start (rest marked first))

variable {step : State → Event → State} {observe : State → Observation}
  {marked : Event → Bool} {start : State}

theorem run_snoc (past : List Event) (event : Event) :
    run step start (past ++ [event]) =
      step (run step start past) event := by
  rw [run, List.foldl_append]
  rfl

theorem rest_append (first second : List Event) :
    rest marked (first ++ second) = rest marked first ++ rest marked second :=
  List.filter_append ..

theorem rest_snoc_marked {past : List Event} {event : Event}
    (mark : marked event = true) :
    rest marked (past ++ [event]) = rest marked past := by
  simp [rest, mark]

theorem rest_snoc_other {past : List Event} {event : Event}
    (other : marked event = false) :
    rest marked (past ++ [event]) = rest marked past ++ [event] := by
  simp [rest, other]

theorem run_rest {events : List Event}
    (idle : History.Admissible
      (fun past event => marked event = true →
        step (run step start past) event = run step start past) events) :
    run step start events = run step start (rest marked events) := by
  refine idle.invariant rfl ?_
  intro past event _ nothing induction
  rw [run_snoc]
  cases mark : marked event with
  | true => rw [nothing mark, rest_snoc_marked mark, induction]
  | false => rw [rest_snoc_other mark, run_snoc, induction]

theorem unobserved_iff
    (visible : ∀ state event, marked event = true →
      observe (step state event) = observe state → step state event = state)
    (events : List Event) :
    Unobserved step observe marked start events ↔
      History.Admissible
        (fun past event => marked event = true →
          step (run step start past) event = run step start past) events := by
  constructor
  · intro unobserved
    induction events using List.reverseRecOn with
    | nil => exact History.admissible_nil
    | append_singleton past event induction =>
        have before := induction (fun first second split =>
          unobserved first (second ++ [event]) (by simp [split]))
        refine (History.admissible_snoc past event).mpr ⟨before, ?_⟩
        intro mark
        have same : observe (run step start (past ++ [event])) =
            observe (run step start past) := by
          rw [unobserved (past ++ [event]) [] (by simp),
            rest_snoc_marked mark, run_rest before]
        rw [run_snoc] at same
        exact visible _ _ mark same
  · rintro idle first second rfl
    rw [run_rest idle.past]

end Removal
