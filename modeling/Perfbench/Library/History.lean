import Mathlib.Data.List.Induction

/-!
# Runs whose steps depend on their past

What a step of a protocol may do usually depends on what happened before it:
an answer needs an earlier question, a message is delivered at most once.
`Admissible allowed` collects the event lists in which `allowed` holds of
every event and the events before it, and gives the induction over runs that
invariants need.
-/

namespace History

variable {Event : Type*}

/-- Every event of the future is allowed by the events before it, the given
past included. -/
def AdmissibleFrom (allowed : List Event → Event → Prop) :
    List Event → List Event → Prop
  | _, [] => True
  | past, event :: future =>
      allowed past event ∧ AdmissibleFrom allowed (past ++ [event]) future

/-- Runs from the empty past. -/
def Admissible (allowed : List Event → Event → Prop)
    (events : List Event) : Prop :=
  AdmissibleFrom allowed [] events

variable {allowed : List Event → Event → Prop}

instance decidableAdmissibleFrom
    [∀ past event, Decidable (allowed past event)] :
    ∀ past future, Decidable (AdmissibleFrom allowed past future)
  | _, [] => isTrue trivial
  | past, event :: future =>
      have := decidableAdmissibleFrom (past ++ [event]) future
      inferInstanceAs (Decidable (_ ∧ _))

instance decidableAdmissible [∀ past event, Decidable (allowed past event)]
    (events : List Event) : Decidable (Admissible allowed events) :=
  decidableAdmissibleFrom [] events

theorem admissibleFrom_append (past first second : List Event) :
    AdmissibleFrom allowed past (first ++ second) ↔
      AdmissibleFrom allowed past first ∧
        AdmissibleFrom allowed (past ++ first) second := by
  induction first generalizing past with
  | nil => simp [AdmissibleFrom]
  | cons event first induction =>
      simp only [List.cons_append, AdmissibleFrom, induction,
        List.append_assoc, List.nil_append, and_assoc]

theorem admissible_nil : Admissible allowed [] := trivial

theorem admissibleFrom_of_forall {events : List Event}
    (all : ∀ event ∈ events, ∀ past, allowed past event) (past : List Event) :
    AdmissibleFrom allowed past events := by
  induction events generalizing past with
  | nil => trivial
  | cons event future induction =>
      refine ⟨all event List.mem_cons_self past, induction ?_ _⟩
      intro later member
      exact all later (List.mem_cons_of_mem event member)

theorem admissible_of_forall {events : List Event}
    (all : ∀ event ∈ events, ∀ past, allowed past event) :
    Admissible allowed events :=
  admissibleFrom_of_forall all []

theorem admissible_append (first second : List Event) :
    Admissible allowed (first ++ second) ↔
      Admissible allowed first ∧ AdmissibleFrom allowed first second := by
  simpa [Admissible] using
    @admissibleFrom_append Event allowed [] first second

theorem admissible_snoc (past : List Event) (event : Event) :
    Admissible allowed (past ++ [event]) ↔
      Admissible allowed past ∧ allowed past event := by
  simp [admissible_append, AdmissibleFrom]

theorem Admissible.past {first second : List Event}
    (admissible : Admissible allowed (first ++ second)) :
    Admissible allowed first :=
  ((admissible_append first second).mp admissible).1

theorem Admissible.event_allowed {first second : List Event} {event : Event}
    (admissible : Admissible allowed (first ++ event :: second)) :
    allowed first event := by
  have upToEvent : Admissible allowed ((first ++ [event]) ++ second) := by
    simpa using admissible
  exact ((admissible_snoc first event).mp upToEvent.past).2

/-- The invariant rule: what holds of the empty run, and is preserved by every
allowed event, holds of every admissible run. -/
@[elab_as_elim]
theorem Admissible.invariant {Invariant : List Event → Prop}
    {events : List Event} (admissible : Admissible allowed events)
    (start : Invariant [])
    (step : ∀ past event, Admissible allowed past → allowed past event →
      Invariant past → Invariant (past ++ [event])) :
    Invariant events := by
  induction events using List.reverseRecOn with
  | nil => exact start
  | append_singleton past event induction =>
      obtain ⟨pastAdmissible, eventAllowed⟩ :=
        (admissible_snoc past event).mp admissible
      exact step past event pastAdmissible eventAllowed
        (induction pastAdmissible)

theorem AdmissibleFrom.mono {weaker : List Event → Event → Prop}
    {past future : List Event} (admissible : AdmissibleFrom allowed past future)
    (weaken : ∀ past event, allowed past event → weaker past event) :
    AdmissibleFrom weaker past future := by
  induction future generalizing past with
  | nil => trivial
  | cons event future induction =>
      exact ⟨weaken past event admissible.1, induction admissible.2⟩

theorem Admissible.mono {weaker : List Event → Event → Prop}
    {events : List Event} (admissible : Admissible allowed events)
    (weaken : ∀ past event, allowed past event → weaker past event) :
    Admissible weaker events :=
  AdmissibleFrom.mono admissible weaken

theorem admissible_congr {other : List Event → Event → Prop}
    {events : List Event}
    (same : ∀ past event, allowed past event ↔ other past event) :
    Admissible allowed events ↔ Admissible other events := by
  constructor
  · intro admissible
    exact admissible.mono (fun past event => (same past event).mp)
  · intro admissible
    exact admissible.mono (fun past event => (same past event).mpr)

theorem Admissible.and {other : List Event → Event → Prop}
    {events : List Event} (admissible : Admissible allowed events)
    (otherwise : Admissible other events) :
    Admissible (fun past event => allowed past event ∧ other past event)
      events := by
  revert otherwise
  refine admissible.invariant ?_ ?_
  · intro _
    exact admissible_nil
  · intro past event _ eventAllowed induction otherwise
    obtain ⟨earlier, eventOther⟩ := (admissible_snoc past event).mp otherwise
    exact (admissible_snoc past event).mpr
      ⟨induction earlier, eventAllowed, eventOther⟩

theorem admissible_and {other : List Event → Event → Prop}
    {events : List Event} :
    Admissible (fun past event => allowed past event ∧ other past event)
        events ↔
      Admissible allowed events ∧ Admissible other events := by
  constructor
  · intro both
    exact ⟨both.mono (fun _ _ allowed => allowed.1),
      both.mono (fun _ _ allowed => allowed.2)⟩
  · rintro ⟨first, second⟩
    exact first.and second

/-- A translation of the events that keeps what is allowed keeps runs
admissible; events without a translation are left out. -/
theorem Admissible.filterMap {Translated : Type*}
    {allowedTranslated : List Translated → Translated → Prop}
    {translate : Event → Option Translated} {events : List Event}
    (admissible : Admissible allowed events)
    (keeps : ∀ past event translated, allowed past event →
      translate event = some translated →
        allowedTranslated (past.filterMap translate) translated) :
    Admissible allowedTranslated (events.filterMap translate) := by
  refine admissible.invariant admissible_nil ?_
  intro past event _ eventAllowed pastTranslated
  rw [List.filterMap_append]
  cases translation : translate event with
  | none => simpa [translation] using pastTranslated
  | some translated =>
      have single : [event].filterMap translate = [translated] := by
        simp [translation]
      rw [single, admissible_snoc]
      exact ⟨pastTranslated,
        keeps past event translated eventAllowed translation⟩

end History
