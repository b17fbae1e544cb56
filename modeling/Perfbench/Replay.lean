import Perfbench.Pacing

/-!
# Replaying a scheduling file

The two cursors of the scheduler are advanced before they are read, and the
one for the inter-burst times once more when the testcase starts.  So the
iterations of the send loop begin behind the first line, and combine the
inter-burst time of one line with the burst size of the line before it.
-/

namespace Perfbench

namespace PacketDispatcher

/-- The burst of the `k`-th iteration. -/
def burstAt (testcase : BaseTestCase) (dispatcher : PacketDispatcher) :
    Nat → Option (Burst × PacketDispatcher)
  | 0 => dispatcher.nextBurst testcase
  | k + 1 =>
      (dispatcher.burstAt testcase k).bind (fun (_, reached) =>
        reached.nextBurst testcase)

theorem nextBurst_sent (testcase : BaseTestCase) (dispatcher : PacketDispatcher)
    (sent : List Nat) :
    ({ dispatcher with sent } : PacketDispatcher).nextBurst testcase =
      (dispatcher.nextBurst testcase).map (fun (burst, next) =>
        (burst, { next with sent })) := by
  simp only [nextBurst]
  cases dispatcher.scheduler.nextInterBurstTime with
  | none => rfl
  | some drawn =>
      simp only [Option.bind_some, Option.map_map]
      rfl

theorem iterations_burstAt {testcase : BaseTestCase}
    {dispatcher reached : PacketDispatcher} {k : Nat} {bursts : List Burst}
    (iterated : dispatcher.iterations testcase (k + 1) =
      some (bursts, reached)) :
    ∃ burst next, dispatcher.burstAt testcase k = some (burst, next) ∧
      bursts[k]? = some burst ∧
        reached = { next with sent := reached.sent } := by
  induction k generalizing bursts reached with
  | zero =>
      simp only [iterations, iterate, Option.bind_some,
        Option.map_eq_some_iff, Option.bind_eq_some_iff, Prod.mk.injEq,
        List.nil_append] at iterated
      obtain ⟨_, ⟨⟨burst, next⟩, bursting, sent, _, rfl⟩, rfl, rfl⟩ := iterated
      exact ⟨burst, next, bursting, rfl, rfl⟩
  | succ k induction =>
      rw [iterations, Option.bind_eq_some_iff] at iterated
      obtain ⟨⟨earlier, before⟩, first, last⟩ := iterated
      obtain ⟨_, next, bursting, _, unsent⟩ := induction first
      simp only [iterate, Option.map_eq_some_iff, Option.bind_eq_some_iff,
        Prod.mk.injEq] at last
      obtain ⟨_, ⟨⟨burst, final⟩, stepped, sent, _, rfl⟩, rfl, rfl⟩ := last
      rw [unsent, nextBurst_sent, Option.map_eq_some_iff] at stepped
      obtain ⟨⟨drawn, after⟩, afterwards, same⟩ := stepped
      rw [Prod.mk.injEq] at same
      obtain ⟨rfl, rfl⟩ := same
      refine ⟨drawn, after, ?_, ?_, rfl⟩
      · rw [burstAt, bursting]
        exact afterwards
      · have length := iterations_length first
        rw [List.getElem?_append_right (by omega), length, Nat.sub_self]
        rfl

/-- The indices of the cursors advance as in `CyclicCursor`. -/
def position (size steps : Nat) : Nat :=
  CyclicCursor.position (2 ^ 32) size steps

/-- The state after `k` iterations of a testcase with the given lines. -/
structure FromLines (lines : List (ℚ × Int)) (k : Nat)
    (dispatcher : PacketDispatcher) : Prop where
  times : dispatcher.scheduler.interBurstTimes = lines.map Prod.fst
  sizes : dispatcher.scheduler.burstSizes = lines.map Prod.snd
  btime : dispatcher.scheduler.iBtime = position lines.length (k + 1)
  bsize : dispatcher.scheduler.iBsize = position lines.length k
  missing : dispatcher.missingPackets = 0

theorem position_succ (size steps : Nat) :
    Scheduler.nextIndex (position size steps) size =
      position size (steps + 1) := by
  rw [Scheduler.nextIndex_eq, position, position, CyclicCursor.position_succ]

theorem position_lt {size : Nat} (nonempty : 0 < size)
    (indexable : size + 1 ≠ 2 ^ 32) (steps : Nat) :
    position size steps < size :=
  CyclicCursor.position_lt nonempty (by decide) indexable steps

/-- The line of the burst size, and the next line for the inter-burst time. -/
theorem FromLines.nextBurst {lines : List (ℚ × Int)} {k : Nat}
    {testcase : BaseTestCase} {dispatcher : PacketDispatcher}
    (exact : testcase.missingPacketsPerSendinterval = 0)
    (fromLines : FromLines lines k dispatcher) {burst : Burst}
    {next : PacketDispatcher}
    (bursting : dispatcher.nextBurst testcase = some (burst, next)) :
    (lines.map Prod.fst)[position lines.length (k + 2)]? =
        some burst.nextBurstTime ∧
      (lines.map Prod.snd)[position lines.length (k + 1)]? =
        some burst.burstRate ∧
      FromLines lines (k + 1) next := by
  simp only [PacketDispatcher.nextBurst, Option.bind_eq_some_iff,
    Option.map_eq_some_iff, Prod.mk.injEq] at bursting
  obtain ⟨⟨ibt, timed⟩, timeDrawn, ⟨bs, scheduler⟩, sizeDrawn, rfl, rfl⟩ :=
    bursting
  simp only [Scheduler.nextInterBurstTime, Option.map_eq_some_iff,
    Prod.mk.injEq] at timeDrawn
  obtain ⟨_, time, rfl, rfl⟩ := timeDrawn
  simp only [Scheduler.nextBurstSize, Option.map_eq_some_iff,
    Prod.mk.injEq] at sizeDrawn
  obtain ⟨_, size, rfl, rfl⟩ := sizeDrawn
  simp only [fromLines.times, fromLines.btime, List.length_map,
    position_succ] at time
  simp only [fromLines.sizes, fromLines.bsize, List.length_map,
    position_succ] at size
  refine ⟨time, ?_, fromLines.times, fromLines.sizes, ?_, ?_, ?_⟩
  · simp only [fromLines.missing, exact, add_zero, Int.floor_zero]
    exact size
  · simp only [fromLines.times, fromLines.btime, List.length_map,
      position_succ]
  · simp only [fromLines.sizes, fromLines.bsize, List.length_map,
      position_succ]
  · simp [fromLines.missing, exact]

theorem FromLines.exists_nextBurst {lines : List (ℚ × Int)} {k : Nat}
    (testcase : BaseTestCase) {dispatcher : PacketDispatcher}
    (nonempty : 0 < lines.length) (indexable : lines.length + 1 ≠ 2 ^ 32)
    (fromLines : FromLines lines k dispatcher) :
    ∃ burst next, dispatcher.nextBurst testcase = some (burst, next) := by
  have timeInside := position_lt nonempty indexable (k + 2)
  have sizeInside := position_lt nonempty indexable (k + 1)
  have time := List.getElem?_eq_getElem
    (show position lines.length (k + 2) < (lines.map Prod.fst).length by
      rwa [List.length_map])
  have size := List.getElem?_eq_getElem
    (show position lines.length (k + 1) < (lines.map Prod.snd).length by
      rwa [List.length_map])
  simp only [PacketDispatcher.nextBurst, Scheduler.nextInterBurstTime,
    Scheduler.nextBurstSize, fromLines.times, fromLines.sizes, fromLines.btime,
    fromLines.bsize, List.length_map, position_succ, time, size,
    Option.map_some, Option.bind_some]
  exact ⟨_, _, rfl⟩

end PacketDispatcher

/-- The burst of the `k`-th iteration after `BaseTestCase::start`. -/
def usedBurst (testcase : BaseTestCase) (sample : Nat → ℚ × ℚ) (conns k : Nat) :
    Option Burst :=
  (PacketDispatcher.start testcase sample conns).bind (fun dispatcher =>
    (dispatcher.burstAt testcase k).map Prod.fst)

/-- Iteration by iteration, the lines are used in their order and over again
from the first one. -/
def Replayed (lines : List (ℚ × Int)) (used : Nat → Option Burst) : Prop :=
  ∀ k, used k = lines[k % lines.length]?.map (fun line =>
    { nextBurstTime := line.1, burstRate := line.2 })

/-- Every line has the burst size of the next line and the inter-burst time of
the second next, round the end of the file; and the cursors do not run out of
the tables. -/
structure Steady (lines : List (ℚ × Int)) : Prop where
  indexable : lines.length + 1 ≠ 2 ^ 32
  sizes : ∀ index, index < lines.length →
    (lines.map Prod.snd)[(index + 1) % lines.length]? =
      (lines.map Prod.snd)[index]?
  times : ∀ index, index < lines.length →
    (lines.map Prod.fst)[(index + 2) % lines.length]? =
      (lines.map Prod.fst)[index]?

namespace PacketDispatcher

theorem start_fromLines {testcase : BaseTestCase} {file : List Extracted}
    (scheduled : testcase.schedulingFile = some file)
    {sample : Nat → ℚ × ℚ} {conns : Nat} {dispatcher : PacketDispatcher}
    (started : start testcase sample conns = some dispatcher) :
    FromLines (Scheduler.lines file) 0 dispatcher := by
  simp only [start, Scheduler.new, scheduled, Scheduler.parseFile_tables,
    Option.map_eq_some_iff] at started
  obtain ⟨⟨ibt, timed⟩, drawn, rfl⟩ := started
  simp only [Scheduler.nextInterBurstTime, Option.map_eq_some_iff,
    Prod.mk.injEq] at drawn
  obtain ⟨_, _, rfl, rfl⟩ := drawn
  refine ⟨rfl, rfl, ?_, rfl, rfl⟩
  simp only [Scheduler.empty, List.nil_append, List.length_map]
  exact position_succ _ 0

/-- The lines that the `k`-th iteration uses, if there is such an iteration. -/
theorem burstAt_fromLines {lines : List (ℚ × Int)} {testcase : BaseTestCase}
    (exact : testcase.missingPacketsPerSendinterval = 0)
    {dispatcher : PacketDispatcher} (fromLines : FromLines lines 0 dispatcher)
    {k : Nat} {burst : Burst} {next : PacketDispatcher}
    (bursting : dispatcher.burstAt testcase k = some (burst, next)) :
    (lines.map Prod.fst)[position lines.length (k + 2)]? =
        some burst.nextBurstTime ∧
      (lines.map Prod.snd)[position lines.length (k + 1)]? =
        some burst.burstRate ∧
      FromLines lines (k + 1) next := by
  induction k generalizing burst next with
  | zero => exact fromLines.nextBurst exact bursting
  | succ k induction =>
      rw [burstAt, Option.bind_eq_some_iff] at bursting
      obtain ⟨⟨earlier, reached⟩, before, last⟩ := bursting
      exact (induction before).2.2.nextBurst exact last

theorem exists_burstAt {lines : List (ℚ × Int)} {testcase : BaseTestCase}
    (exact : testcase.missingPacketsPerSendinterval = 0)
    {dispatcher : PacketDispatcher} (fromLines : FromLines lines 0 dispatcher)
    (nonempty : 0 < lines.length) (indexable : lines.length + 1 ≠ 2 ^ 32)
    (k : Nat) :
    ∃ burst next, dispatcher.burstAt testcase k = some (burst, next) := by
  induction k with
  | zero => exact fromLines.exists_nextBurst testcase nonempty indexable
  | succ k induction =>
      obtain ⟨_, reached, bursting⟩ := induction
      obtain ⟨_, _, reachedLines⟩ := burstAt_fromLines exact fromLines bursting
      rw [burstAt, bursting]
      exact reachedLines.exists_nextBurst testcase nonempty indexable

theorem exists_start {testcase : BaseTestCase} {file : List Extracted}
    (scheduled : testcase.schedulingFile = some file)
    (nonempty : 0 < (Scheduler.lines file).length)
    (indexable : (Scheduler.lines file).length + 1 ≠ 2 ^ 32)
    (sample : Nat → ℚ × ℚ) (conns : Nat) :
    ∃ dispatcher, start testcase sample conns = some dispatcher := by
  have first := position_lt nonempty indexable 1
  have time := List.getElem?_eq_getElem
    (show position (Scheduler.lines file).length 1 <
        ((Scheduler.lines file).map Prod.fst).length by
      rwa [List.length_map])
  have index : Scheduler.nextIndex 0 (Scheduler.lines file).length =
      position (Scheduler.lines file).length 1 := position_succ _ 0
  simp only [start, Scheduler.new, scheduled, Scheduler.parseFile_tables,
    Scheduler.nextInterBurstTime, Scheduler.empty, List.nil_append,
    List.length_map, index, time, Option.map_some]
  exact ⟨_, rfl⟩

end PacketDispatcher

/-- An iteration reads the columns of the file at the positions of the
cursors. -/
theorem usedBurst_reads {testcase : BaseTestCase} {file : List Extracted}
    (scheduled : testcase.schedulingFile = some file)
    (exact : testcase.missingPacketsPerSendinterval = 0)
    {sample : Nat → ℚ × ℚ} {conns k : Nat} {burst : Burst}
    (isUsed : usedBurst testcase sample conns k = some burst) :
    ((Scheduler.lines file).map Prod.fst)[PacketDispatcher.position
        (Scheduler.lines file).length (k + 2)]? = some burst.nextBurstTime ∧
      ((Scheduler.lines file).map Prod.snd)[PacketDispatcher.position
        (Scheduler.lines file).length (k + 1)]? = some burst.burstRate := by
  rw [usedBurst, Option.bind_eq_some_iff] at isUsed
  obtain ⟨dispatcher, started, bursting⟩ := isUsed
  rw [Option.map_eq_some_iff] at bursting
  obtain ⟨⟨_, next⟩, bursting, rfl⟩ := bursting
  have fromLines := PacketDispatcher.start_fromLines scheduled started
  obtain ⟨time, size, _⟩ :=
    PacketDispatcher.burstAt_fromLines exact fromLines bursting
  exact ⟨time, size⟩

theorem exists_usedBurst {testcase : BaseTestCase} {file : List Extracted}
    (scheduled : testcase.schedulingFile = some file)
    (exact : testcase.missingPacketsPerSendinterval = 0)
    (nonempty : 0 < (Scheduler.lines file).length)
    (indexable : (Scheduler.lines file).length + 1 ≠ 2 ^ 32)
    (sample : Nat → ℚ × ℚ) (conns k : Nat) :
    ∃ burst, usedBurst testcase sample conns k = some burst := by
  obtain ⟨dispatcher, started⟩ := PacketDispatcher.exists_start scheduled
    nonempty indexable sample conns
  have fromLines := PacketDispatcher.start_fromLines scheduled started
  obtain ⟨burst, next, bursting⟩ := PacketDispatcher.exists_burstAt exact
    fromLines nonempty indexable k
  refine ⟨burst, ?_⟩
  rw [usedBurst, started, Option.bind_some, bursting, Option.map_some]

/-- The burst is that of a line when its columns are read where the line
is. -/
theorem burst_eq_line_iff {lines : List (ℚ × Int)} {burst : Burst}
    {timeIndex sizeIndex index : Nat} (inside : index < lines.length)
    (time : (lines.map Prod.fst)[timeIndex]? = some burst.nextBurstTime)
    (size : (lines.map Prod.snd)[sizeIndex]? = some burst.burstRate) :
    some burst = lines[index]?.map (fun line =>
        { nextBurstTime := line.1, burstRate := line.2 }) ↔
      (lines.map Prod.snd)[sizeIndex]? = (lines.map Prod.snd)[index]? ∧
        (lines.map Prod.fst)[timeIndex]? = (lines.map Prod.fst)[index]? := by
  rw [size, time, List.getElem?_map, List.getElem?_map,
    List.getElem?_eq_getElem inside]
  simp only [Option.map_some, Option.some.injEq]
  constructor
  · intro same
    rw [same]
    exact ⟨rfl, rfl⟩
  · rintro ⟨sameSize, sameTime⟩
    rw [← sameSize, ← sameTime]

/-- Reading ahead of the line by `offset` gives the entries of the line
itself exactly when the column repeats after `offset`. -/
theorem reads_ahead_iff {Entry : Type} {column : List Entry} {offset : Nat}
    (divides : offset ∣ 2 ^ 32) (nonempty : 0 < column.length)
    (indexable : column.length + 1 ≠ 2 ^ 32) :
    (∀ k, column[PacketDispatcher.position column.length (k + offset)]? =
        column[k % column.length]?) ↔
      ∀ index, index < column.length →
        column[(index + offset) % column.length]? = column[index]? := by
  rw [← @CyclicCursor.repeats_iff column.length (Option Entry)
      (fun index => column[index]?) offset nonempty,
    ← CyclicCursor.ahead_iff divides (by decide)]
  simp only [PacketDispatcher.position,
    CyclicCursor.position_eq nonempty (by decide) indexable]

/-- A scheduling file is replayed line by line exactly when all its bursts
have one size and its inter-burst times repeat after two lines. -/
theorem replayed_iff {file : List Extracted}
    (nonempty : Scheduler.lines file ≠ []) (pps : Int) (sendIntvl : ℚ)
    (bsizeDistr btimeDistr : String) (sample : Nat → ℚ × ℚ) (conns : Nat) :
    Replayed (Scheduler.lines file)
        (usedBurst
          (Tenant.configure pps sendIntvl bsizeDistr btimeDistr (some file))
          sample conns) ↔
      Steady (Scheduler.lines file) := by
  have scheduled : (Tenant.configure pps sendIntvl bsizeDistr btimeDistr
      (some file)).schedulingFile = some file := rfl
  have exact : (Tenant.configure pps sendIntvl bsizeDistr btimeDistr
      (some file)).missingPacketsPerSendinterval = 0 := rfl
  have positive := List.length_pos_of_ne_nil nonempty
  have inside : ∀ k, k % (Scheduler.lines file).length <
      (Scheduler.lines file).length := fun k => Nat.mod_lt k positive
  have sizesAhead := @reads_ahead_iff _ ((Scheduler.lines file).map Prod.snd) 1
    (one_dvd _) (by rwa [List.length_map])
  have timesAhead := @reads_ahead_iff _ ((Scheduler.lines file).map Prod.fst) 2
    (by decide) (by rwa [List.length_map])
  rw [List.length_map] at sizesAhead timesAhead
  constructor
  · intro replayed
    have reads : ∀ k,
        ((Scheduler.lines file).map Prod.snd)[PacketDispatcher.position
            (Scheduler.lines file).length (k + 1)]? =
          ((Scheduler.lines file).map Prod.snd)[
            k % (Scheduler.lines file).length]? ∧
        ((Scheduler.lines file).map Prod.fst)[PacketDispatcher.position
            (Scheduler.lines file).length (k + 2)]? =
          ((Scheduler.lines file).map Prod.fst)[
            k % (Scheduler.lines file).length]? := by
      intro k
      have isUsed := replayed k
      have line := List.getElem?_eq_getElem (inside k)
      rw [line, Option.map_some] at isUsed
      obtain ⟨time, size⟩ := usedBurst_reads scheduled exact isUsed
      apply (burst_eq_line_iff (inside k) time size).mp
      rw [line, Option.map_some]
    have indexable : (Scheduler.lines file).length + 1 ≠ 2 ^ 32 := by
      intro full
      have last := (reads ((Scheduler.lines file).length - 2)).2
      have atEnd : (Scheduler.lines file).length - 2 + 2 =
          (Scheduler.lines file).length := by
        omega
      rw [atEnd, PacketDispatcher.position,
        CyclicCursor.position_outside full, List.getElem?_eq_none (by simp),
        List.getElem?_map, List.getElem?_eq_getElem (inside _)] at last
      cases last
    exact ⟨indexable,
      (sizesAhead indexable).mp (fun k => (reads k).1),
      (timesAhead indexable).mp (fun k => (reads k).2)⟩
  · intro steady k
    obtain ⟨burst, isUsed⟩ := exists_usedBurst scheduled exact positive
      steady.indexable sample conns k
    obtain ⟨time, size⟩ := usedBurst_reads scheduled exact isUsed
    rw [isUsed]
    exact (burst_eq_line_iff (inside k) time size).mpr
      ⟨(sizesAhead steady.indexable).mpr steady.sizes k,
        (timesAhead steady.indexable).mpr steady.times k⟩

/-- Two equal lines and the end of the file: steady. -/
theorem replayed_iff_equalLines :
    Scheduler.lines [(some 1, some 10), (some 1, some 10), (none, none)] ≠ [] ∧
      (Replayed
          (Scheduler.lines [(some 1, some 10), (some 1, some 10), (none, none)])
          (usedBurst
            (Tenant.configure 100 1 "uniform" "uniform"
              (some [(some 1, some 10), (some 1, some 10), (none, none)]))
            (fun _ => (0, 0)) 1) ↔
        Steady (Scheduler.lines
          [(some 1, some 10), (some 1, some 10), (none, none)])) :=
  ⟨by decide, replayed_iff (by decide) 100 1 "uniform" "uniform"
    (fun _ => (0, 0)) 1⟩

/-- Two lines: the first iteration waits the time of the first line with the
burst of the second. -/
theorem replayed_twoLines :
    Scheduler.lines [(some 1, some 10), (some 2, some 20)] ≠ [] ∧
      usedBurst
          (Tenant.configure 100 1 "uniform" "uniform"
            (some [(some 1, some 10), (some 2, some 20)]))
          (fun _ => (0, 0)) 1 0 =
        some { nextBurstTime := 1, burstRate := 20 } ∧
      ¬Replayed (Scheduler.lines [(some 1, some 10), (some 2, some 20)])
        (usedBurst
          (Tenant.configure 100 1 "uniform" "uniform"
            (some [(some 1, some 10), (some 2, some 20)]))
          (fun _ => (0, 0)) 1) := by
  have first : usedBurst
      (Tenant.configure 100 1 "uniform" "uniform"
        (some [(some 1, some 10), (some 2, some 20)]))
      (fun _ => (0, 0)) 1 0 =
        some { nextBurstTime := 1, burstRate := 20 } := by
    decide +kernel
  refine ⟨by decide, first, ?_⟩
  intro replayed
  have line := replayed 0
  rw [first] at line
  exact absurd line (by decide)

end Perfbench
