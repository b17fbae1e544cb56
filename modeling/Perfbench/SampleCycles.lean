import Perfbench.Scheduler

/-!
# The samples in turn

The two cursors of the scheduler go round their tables, in whatever order the
two functions are called.  With 2^32 - 1 samples the test for the end of the
table wraps, and the call behind the last sample throws.
-/

namespace Perfbench

inductive SchedulerCall where
  | nextInterBurstTime
  | nextBurstSize
deriving DecidableEq, Repr

/-- The scheduler, and what the calls have returned. -/
structure Drawing where
  scheduler : Scheduler
  times : List ℚ
  sizes : List Int

namespace Drawing

def start (scheduler : Scheduler) : Drawing :=
  { scheduler
    times := []
    sizes := [] }

/-- None where `at` throws. -/
def call (drawing : Drawing) : SchedulerCall → Option Drawing
  | .nextInterBurstTime =>
      drawing.scheduler.nextInterBurstTime.map (fun (x, scheduler) =>
        { drawing with
          scheduler
          times := drawing.times ++ [x] })
  | .nextBurstSize =>
      drawing.scheduler.nextBurstSize.map (fun (x, scheduler) =>
        { drawing with
          scheduler
          sizes := drawing.sizes ++ [x] })

def run (drawing : Drawing) : List SchedulerCall → Option Drawing
  | [] => some drawing
  | call :: calls =>
      (drawing.call call).bind (fun next => next.run calls)

theorem call_cases {drawing next : Drawing} {call : SchedulerCall}
    (called : drawing.call call = some next) :
    (call = .nextInterBurstTime ∧ ∃ x,
      drawing.scheduler.interBurstTimes[
        Scheduler.nextIndex drawing.scheduler.iBtime
          drawing.scheduler.interBurstTimes.length]? = some x ∧
      next =
        { drawing with
          scheduler :=
            { drawing.scheduler with
              iBtime := Scheduler.nextIndex drawing.scheduler.iBtime
                drawing.scheduler.interBurstTimes.length }
          times := drawing.times ++ [x] }) ∨
    (call = .nextBurstSize ∧ ∃ x,
      drawing.scheduler.burstSizes[
        Scheduler.nextIndex drawing.scheduler.iBsize
          drawing.scheduler.burstSizes.length]? = some x ∧
      next =
        { drawing with
          scheduler :=
            { drawing.scheduler with
              iBsize := Scheduler.nextIndex drawing.scheduler.iBsize
                drawing.scheduler.burstSizes.length }
          sizes := drawing.sizes ++ [x] }) := by
  cases call with
  | nextInterBurstTime =>
      simp only [Drawing.call, Scheduler.nextInterBurstTime,
        Option.map_eq_some_iff] at called
      obtain ⟨_, ⟨x, entry, rfl⟩, rfl⟩ := called
      exact Or.inl ⟨rfl, x, entry, rfl⟩
  | nextBurstSize =>
      simp only [Drawing.call, Scheduler.nextBurstSize,
        Option.map_eq_some_iff] at called
      obtain ⟨_, ⟨x, entry, rfl⟩, rfl⟩ := called
      exact Or.inr ⟨rfl, x, entry, rfl⟩

/-- The tables are those of the given scheduler, and have been read in
turn. -/
structure Kept (tables : Scheduler) (drawing : Drawing) : Prop where
  times_eq : drawing.scheduler.interBurstTimes = tables.interBurstTimes
  sizes_eq : drawing.scheduler.burstSizes = tables.burstSizes
  timesRead : CyclicCursor.Reading (2 ^ 32) tables.interBurstTimes
    drawing.scheduler.iBtime drawing.times
  sizesRead : CyclicCursor.Reading (2 ^ 32) tables.burstSizes
    drawing.scheduler.iBsize drawing.sizes

theorem Kept.call {tables : Scheduler} {drawing next : Drawing}
    {call : SchedulerCall} (kept : Kept tables drawing)
    (called : drawing.call call = some next) : Kept tables next := by
  obtain ⟨rfl, x, entry, rfl⟩ | ⟨rfl, x, entry, rfl⟩ := call_cases called
  · rw [Scheduler.nextIndex_eq, kept.times_eq] at entry
    refine ⟨kept.times_eq, kept.sizes_eq, ?_, kept.sizesRead⟩
    simp only [Scheduler.nextIndex_eq, kept.times_eq]
    exact kept.timesRead.next entry
  · rw [Scheduler.nextIndex_eq, kept.sizes_eq] at entry
    refine ⟨kept.times_eq, kept.sizes_eq, kept.timesRead, ?_⟩
    simp only [Scheduler.nextIndex_eq, kept.sizes_eq]
    exact kept.sizesRead.next entry

theorem Kept.run {tables : Scheduler} {calls : List SchedulerCall}
    {drawing final : Drawing} (kept : Kept tables drawing)
    (ran : drawing.run calls = some final) : Kept tables final := by
  induction calls generalizing drawing with
  | nil =>
      rw [Drawing.run, Option.some.injEq] at ran
      rw [← ran]
      exact kept
  | cons call calls induction =>
      rw [Drawing.run, Option.bind_eq_some_iff] at ran
      obtain ⟨next, called, rest⟩ := ran
      exact induction (kept.call called) rest

theorem run_lengths {calls : List SchedulerCall} {drawing final : Drawing}
    (ran : drawing.run calls = some final) :
    final.times.length =
        drawing.times.length + calls.count .nextInterBurstTime ∧
      final.sizes.length =
        drawing.sizes.length + calls.count .nextBurstSize := by
  induction calls generalizing drawing with
  | nil =>
      rw [Drawing.run, Option.some.injEq] at ran
      rw [← ran]
      exact ⟨rfl, rfl⟩
  | cons call calls induction =>
      rw [Drawing.run, Option.bind_eq_some_iff] at ran
      obtain ⟨next, called, rest⟩ := ran
      obtain ⟨times, sizes⟩ := induction rest
      obtain ⟨rfl, x, _, rfl⟩ | ⟨rfl, x, _, rfl⟩ := call_cases called
      · rw [List.count_cons_self, List.count_cons_of_ne (by decide)]
        rw [List.length_append, List.length_singleton] at times
        exact ⟨by omega, sizes⟩
      · rw [List.count_cons_self, List.count_cons_of_ne (by decide)]
        rw [List.length_append, List.length_singleton] at sizes
        exact ⟨times, by omega⟩

/-- Tables that the cursors can go round. -/
structure Indexable (tables : Scheduler) : Prop where
  times_pos : 0 < tables.interBurstTimes.length
  times_lt : tables.interBurstTimes.length < 2 ^ 32 - 1
  sizes_pos : 0 < tables.burstSizes.length
  sizes_lt : tables.burstSizes.length < 2 ^ 32 - 1

theorem Kept.exists_call {tables : Scheduler} {drawing : Drawing}
    (kept : Kept tables drawing) (indexable : Indexable tables)
    (call : SchedulerCall) : ∃ next, drawing.call call = some next := by
  have timesFit := indexable.times_lt
  have sizesFit := indexable.sizes_lt
  cases call with
  | nextInterBurstTime =>
      have inside := kept.timesRead.advance_lt indexable.times_pos
        (by omega) (by omega)
      rw [← kept.times_eq] at inside
      rw [Drawing.call,
        Scheduler.nextInterBurstTime_eq (List.getElem?_eq_getElem inside)]
      exact ⟨_, rfl⟩
  | nextBurstSize =>
      have inside := kept.sizesRead.advance_lt indexable.sizes_pos
        (by omega) (by omega)
      rw [← kept.sizes_eq] at inside
      rw [Drawing.call,
        Scheduler.nextBurstSize_eq (List.getElem?_eq_getElem inside)]
      exact ⟨_, rfl⟩

theorem Kept.exists_run {tables : Scheduler} {drawing : Drawing}
    (kept : Kept tables drawing) (indexable : Indexable tables)
    (calls : List SchedulerCall) :
    ∃ final, drawing.run calls = some final := by
  induction calls generalizing drawing with
  | nil => exact ⟨drawing, rfl⟩
  | cons call calls induction =>
      obtain ⟨next, called⟩ := kept.exists_call indexable call
      obtain ⟨final, ran⟩ := induction (kept.call called)
      refine ⟨final, ?_⟩
      rw [Drawing.run, called, Option.bind_some, ran]

end Drawing

namespace Scheduler

/-- A scheduler with these tables that has not been called. -/
def ofSamples (interBurstTimes : List ℚ) (burstSizes : List Int) : Scheduler :=
  { empty with
    interBurstTimes
    burstSizes }

theorem generateSamples_ofSamples (bsizeRng btimeRng : RNGBase)
    (sample : Nat → ℚ × ℚ) (n : Nat) :
    ∃ interBurstTimes burstSizes,
      interBurstTimes.length = burstSizes.length ∧
        generateSamples bsizeRng btimeRng sample n empty =
          ofSamples interBurstTimes burstSizes := by
  induction n with
  | zero => exact ⟨[], [], rfl, rfl⟩
  | succ n induction =>
      obtain ⟨interBurstTimes, burstSizes, length, generated⟩ := induction
      refine ⟨interBurstTimes ++ [btimeRng.drawRandomNumber (sample n).2],
        burstSizes ++ [roundAway (bsizeRng.drawRandomNumber (sample n).1)],
        ?_, ?_⟩
      · rw [List.length_append, List.length_append, length]
        rfl
      · rw [generateSamples, generated]
        rfl

theorem new_ofSamples (bsizeDistr btimeDistr : String) (meanBurstSize : Int)
    (meanInterBurstTime : ℚ) (schedulingFile : Option (List Extracted))
    (sample : Nat → ℚ × ℚ) :
    ∃ interBurstTimes burstSizes,
      interBurstTimes.length = burstSizes.length ∧
        new bsizeDistr btimeDistr meanBurstSize meanInterBurstTime
          schedulingFile sample = ofSamples interBurstTimes burstSizes := by
  cases schedulingFile with
  | none => exact generateSamples_ofSamples _ _ sample numSamples
  | some file =>
      refine ⟨(lines file).map Prod.fst, (lines file).map Prod.snd, ?_, ?_⟩
      · rw [List.length_map, List.length_map]
      · rw [new, parseFile_tables]
        rfl

/-- The `m`-th value is sample `m`, round the table; as many values on end as
there are samples are the samples, each once; and whole cycles have their
mean. -/
structure Sampled {α : Type} (value : α → ℚ) (samples outputs : List α) :
    Prop where
  inTurn : ∀ m, 1 ≤ m → m ≤ outputs.length →
    outputs[m - 1]? = samples[m % samples.length]?
  once : ∀ start, start + samples.length ≤ outputs.length →
    ((outputs.drop start).take samples.length).Perm samples
  mean : ∀ start cycles, 0 < cycles →
    start + cycles * samples.length ≤ outputs.length →
    CyclicCursor.mean
        (((outputs.drop start).take (cycles * samples.length)).map value) =
      CyclicCursor.mean (samples.map value)

theorem sampled_of_inTurn {α : Type} {value : α → ℚ} {samples outputs : List α}
    (inTurn : CyclicCursor.InTurn samples outputs) :
    Sampled value samples outputs := by
  refine ⟨inTurn, ?_, ?_⟩
  · intro start inside
    exact inTurn.window_perm inside
  · intro start cycles positive inside
    exact inTurn.mean_cycles value positive inside

/-- No sequence of calls throws, and what each function returns are its
samples. -/
def Cycles (scheduler : Scheduler) : Prop :=
  ∀ calls : List SchedulerCall, ∃ final,
    (Drawing.start scheduler).run calls = some final ∧
      final.times.length = calls.count .nextInterBurstTime ∧
      final.sizes.length = calls.count .nextBurstSize ∧
      Sampled id scheduler.interBurstTimes final.times ∧
      Sampled (Int.cast : Int → ℚ) scheduler.burstSizes final.sizes

variable {interBurstTimes : List ℚ} {burstSizes : List Int}

theorem kept_start (interBurstTimes : List ℚ) (burstSizes : List Int) :
    Drawing.Kept (ofSamples interBurstTimes burstSizes)
      (Drawing.start (ofSamples interBurstTimes burstSizes)) :=
  ⟨rfl, rfl, .zero _ _, .zero _ _⟩

theorem cycles_of_indexable
    (indexable : Drawing.Indexable (ofSamples interBurstTimes burstSizes)) :
    Cycles (ofSamples interBurstTimes burstSizes) := by
  intro calls
  have first := kept_start interBurstTimes burstSizes
  obtain ⟨final, ran⟩ := first.exists_run indexable calls
  obtain ⟨times, sizes⟩ := Drawing.run_lengths ran
  have kept := first.run ran
  have timesFit := indexable.times_lt
  have sizesFit := indexable.sizes_lt
  refine ⟨final, ran, ?_, ?_, ?_, ?_⟩
  · rw [times]
    exact Nat.zero_add _
  · rw [sizes]
    exact Nat.zero_add _
  · apply sampled_of_inTurn
    exact kept.timesRead.readBy.inTurn indexable.times_pos (by omega) (by omega)
  · apply sampled_of_inTurn
    exact kept.sizesRead.readBy.inTurn indexable.sizes_pos (by omega) (by omega)

/-- The call that would read behind a table of 2^32 - 1 samples throws. -/
theorem Cycles.times_ne (cycles : Cycles (ofSamples interBurstTimes burstSizes))
    (nonempty : 0 < interBurstTimes.length) :
    interBurstTimes.length ≠ 2 ^ 32 - 1 := by
  intro full
  obtain ⟨final, ran, count, _⟩ :=
    cycles (List.replicate interBurstTimes.length .nextInterBurstTime)
  have kept := (kept_start interBurstTimes burstSizes).run ran
  have shorter := kept.timesRead.readBy.length_lt nonempty
    (show interBurstTimes.length + 1 = 2 ^ 32 by omega)
  rw [count, List.count_replicate_self] at shorter
  exact absurd shorter (Nat.lt_irrefl _)

theorem Cycles.sizes_ne (cycles : Cycles (ofSamples interBurstTimes burstSizes))
    (nonempty : 0 < burstSizes.length) : burstSizes.length ≠ 2 ^ 32 - 1 := by
  intro full
  obtain ⟨final, ran, _, count, _⟩ :=
    cycles (List.replicate burstSizes.length .nextBurstSize)
  have kept := (kept_start interBurstTimes burstSizes).run ran
  have shorter := kept.sizesRead.readBy.length_lt nonempty
    (show burstSizes.length + 1 = 2 ^ 32 by omega)
  rw [count, List.count_replicate_self] at shorter
  exact absurd shorter (Nat.lt_irrefl _)

/-- The scheduler hands out its samples in turn, whatever the order of the
calls, exactly when neither table holds 2^32 - 1 of them. -/
theorem cycles_iff (timesNonempty : 0 < interBurstTimes.length)
    (timesFit : interBurstTimes.length < 2 ^ 32)
    (sizesNonempty : 0 < burstSizes.length)
    (sizesFit : burstSizes.length < 2 ^ 32) :
    Cycles (ofSamples interBurstTimes burstSizes) ↔
      interBurstTimes.length ≠ 2 ^ 32 - 1 ∧
        burstSizes.length ≠ 2 ^ 32 - 1 := by
  constructor
  · intro cycles
    exact ⟨cycles.times_ne timesNonempty, cycles.sizes_ne sizesNonempty⟩
  · intro notFull
    obtain ⟨timesNotFull, sizesNotFull⟩ := notFull
    apply cycles_of_indexable
    constructor
    · exact timesNonempty
    · exact Nat.lt_of_le_of_ne (Nat.le_sub_one_of_lt timesFit) timesNotFull
    · exact sizesNonempty
    · exact Nat.lt_of_le_of_ne (Nat.le_sub_one_of_lt sizesFit) sizesNotFull

theorem cycles_iff_three :
    Cycles (ofSamples [1, 2, 3] [8]) ↔
      [(1 : ℚ), 2, 3].length ≠ 2 ^ 32 - 1 ∧ [(8 : Int)].length ≠ 2 ^ 32 - 1 :=
  cycles_iff (by decide) (by decide) (by decide) (by decide)

/-- A file of 2^32 - 1 equal lines. -/
theorem cycles_fullTable :
    let interBurstTimes := List.replicate (2 ^ 32 - 1) (9 : ℚ)
    let burstSizes := List.replicate (2 ^ 32 - 1) (8 : Int)
    (0 < interBurstTimes.length ∧ interBurstTimes.length < 2 ^ 32 ∧
      0 < burstSizes.length ∧ burstSizes.length < 2 ^ 32) ∧
      ¬Cycles (ofSamples interBurstTimes burstSizes) := by
  intro interBurstTimes burstSizes
  have timesLength : interBurstTimes.length = 2 ^ 32 - 1 :=
    List.length_replicate
  have sizesLength : burstSizes.length = 2 ^ 32 - 1 := List.length_replicate
  refine ⟨by omega, ?_⟩
  intro cycles
  exact cycles.sizes_ne (by omega) sizesLength

end Scheduler

end Perfbench
