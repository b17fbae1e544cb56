import Mathlib.Data.Rat.Floor
import Perfbench.Library.CyclicCursor
import Perfbench.MachineInteger

/-!
# The scheduler

The scheduler keeps a table of burst sizes and a table of inter-burst times,
either read from a scheduling file or drawn from random numbers, and hands
out their entries in turn.
-/

namespace Perfbench

/-- The random number generators. -/
inductive RNGBase where
  | normal (mean : ℚ)
  | uniform (mean : ℚ)
  | exponential (mean : ℚ)

namespace RNGBase

/-- `sample` is what the generator's random distribution returns. -/
def drawRandomNumber (sample : ℚ) : RNGBase → ℚ
  | .normal _ => sample
  | .uniform mean => mean
  | .exponential _ => sample

end RNGBase

namespace RNGDistrFactory

def getRng (distr : String) (mean : ℚ) : RNGBase :=
  if distr = "normal" then .normal mean
  else if distr = "exponential" then .exponential mean
  else .uniform mean

/-- The names for which the factory returns the uniform generator. -/
def Uniform (distr : String) : Prop :=
  distr ≠ "normal" ∧ distr ≠ "exponential"

theorem getRng_uniform {distr : String} (uniform : Uniform distr) (mean : ℚ) :
    getRng distr mean = .uniform mean := by
  rw [getRng, if_neg uniform.1, if_neg uniform.2]

end RNGDistrFactory

/-- `round` of the C library: halves go away from zero. -/
def roundAway (value : ℚ) : Int :=
  if 0 ≤ value then ⌊value + 1 / 2⌋ else ⌈value - 1 / 2⌉

theorem roundAway_intCast (value : Int) : roundAway value = value := by
  have half : ⌊(1 / 2 : ℚ)⌋ = 0 := by norm_num
  have minusHalf : ⌈-(1 / 2 : ℚ)⌉ = 0 := by norm_num
  unfold roundAway
  split
  · rw [Int.floor_intCast_add, half, Int.add_zero]
  · rw [sub_eq_add_neg, Int.ceil_intCast_add, minusHalf, Int.add_zero]

/-- What `file >> ibt >> bs` extracts in one pass of the loop; a failed
extraction gives nothing. -/
abbrev Extracted := Option ℚ × Option Int

structure Scheduler where
  iBtime : Nat
  iBsize : Nat
  interBurstTimes : List ℚ
  burstSizes : List Int

namespace Scheduler

/-- The member initialisers. -/
def empty : Scheduler :=
  { iBtime := 0
    iBsize := 0
    interBurstTimes := []
    burstSizes := [] }

def push (ibt : ℚ) (bs : Int) (scheduler : Scheduler) : Scheduler :=
  { scheduler with
    burstSizes := scheduler.burstSizes ++ [bs]
    interBurstTimes := scheduler.interBurstTimes ++ [ibt] }

/-- `while (file >> ibt >> bs)`. -/
def parseFile : List Extracted → Scheduler → Scheduler
  | (some ibt, some bs) :: file, scheduler =>
      parseFile file (scheduler.push ibt bs)
  | _, scheduler => scheduler

/-- The lines of a file, up to the first failed extraction. -/
def lines : List Extracted → List (ℚ × Int)
  | (some ibt, some bs) :: file => (ibt, bs) :: lines file
  | _ => []

def numSamples : Nat := 10000

/-- Draw `n` samples; `sample` is what the random distributions for burst size
and burst time return. -/
def generateSamples (bsizeRng btimeRng : RNGBase) (sample : Nat → ℚ × ℚ) :
    Nat → Scheduler → Scheduler
  | 0, scheduler => scheduler
  | n + 1, scheduler =>
      (generateSamples bsizeRng btimeRng sample n scheduler).push
        (btimeRng.drawRandomNumber (sample n).2)
        (roundAway (bsizeRng.drawRandomNumber (sample n).1))

/-- The constructor with `populate_data`; no file is an empty file name. -/
def new (bsizeDistr btimeDistr : String) (meanBurstSize : Int)
    (meanInterBurstTime : ℚ) (schedulingFile : Option (List Extracted))
    (sample : Nat → ℚ × ℚ) : Scheduler :=
  match schedulingFile with
  | none =>
      generateSamples (RNGDistrFactory.getRng bsizeDistr meanBurstSize)
        (RNGDistrFactory.getRng btimeDistr meanInterBurstTime) sample numSamples
        empty
  | some file => parseFile file empty

/-- The next value of a cursor of type `unsigned`. -/
def nextIndex (index size : Nat) : Nat :=
  let next := uint32 (index + 1)
  if uint32 (next + 1) > size then 0 else next

/-- The time, and the scheduler with its cursor moved on; `at` throws past the
end. -/
def nextInterBurstTime (scheduler : Scheduler) : Option (ℚ × Scheduler) :=
  let iBtime := nextIndex scheduler.iBtime scheduler.interBurstTimes.length
  scheduler.interBurstTimes[iBtime]?.map (fun x =>
    (x, { scheduler with iBtime }))

def nextBurstSize (scheduler : Scheduler) : Option (Int × Scheduler) :=
  let iBsize := nextIndex scheduler.iBsize scheduler.burstSizes.length
  scheduler.burstSizes[iBsize]?.map (fun x =>
    (x, { scheduler with iBsize }))

theorem nextIndex_eq (index size : Nat) :
    nextIndex index size = CyclicCursor.advance (2 ^ 32) size index := rfl

theorem nextInterBurstTime_eq {scheduler : Scheduler} {x : ℚ}
    (entry : scheduler.interBurstTimes[
      nextIndex scheduler.iBtime scheduler.interBurstTimes.length]? = some x) :
    scheduler.nextInterBurstTime = some (x,
      { scheduler with
        iBtime :=
          nextIndex scheduler.iBtime scheduler.interBurstTimes.length }) := by
  rw [nextInterBurstTime, entry, Option.map_some]

theorem nextBurstSize_eq {scheduler : Scheduler} {x : Int}
    (entry : scheduler.burstSizes[
      nextIndex scheduler.iBsize scheduler.burstSizes.length]? = some x) :
    scheduler.nextBurstSize = some (x,
      { scheduler with
        iBsize :=
          nextIndex scheduler.iBsize scheduler.burstSizes.length }) := by
  rw [nextBurstSize, entry, Option.map_some]

theorem parseFile_tables (file : List Extracted) (scheduler : Scheduler) :
    parseFile file scheduler =
      { scheduler with
        interBurstTimes :=
          scheduler.interBurstTimes ++ (lines file).map Prod.fst
        burstSizes := scheduler.burstSizes ++ (lines file).map Prod.snd } := by
  induction file generalizing scheduler with
  | nil => simp [parseFile, lines]
  | cons extracted file induction =>
      match extracted with
      | (some ibt, some bs) => simp [parseFile, lines, induction, push]
      | (none, _) => simp [parseFile, lines]
      | (some ibt, none) => simp [parseFile, lines]

theorem generateSamples_sizes {meanBurstSize : Int} (btimeRng : RNGBase)
    (sample : Nat → ℚ × ℚ) (n : Nat) :
    let scheduler := generateSamples (.uniform meanBurstSize) btimeRng sample n
      empty
    scheduler.iBtime = 0 ∧ scheduler.iBsize = 0 ∧
      scheduler.interBurstTimes.length = n ∧
      scheduler.burstSizes = List.replicate n meanBurstSize := by
  induction n with
  | zero => exact ⟨rfl, rfl, rfl, rfl⟩
  | succ n induction =>
      obtain ⟨btime, bsize, times, sizes⟩ := induction
      refine ⟨btime, bsize, ?_, ?_⟩
      · rw [generateSamples, push, List.length_append, times]
        rfl
      · rw [generateSamples, push, sizes, List.replicate_succ']
        simp only [RNGBase.drawRandomNumber, roundAway_intCast]

/-- A scheduler without a file, with the uniform distribution of sizes. -/
theorem new_uniform {bsizeDistr : String}
    (uniform : RNGDistrFactory.Uniform bsizeDistr) (btimeDistr : String)
    (meanBurstSize : Int) (meanInterBurstTime : ℚ) (sample : Nat → ℚ × ℚ) :
    let scheduler := new bsizeDistr btimeDistr meanBurstSize meanInterBurstTime
      none sample
    scheduler.iBtime = 0 ∧ scheduler.iBsize = 0 ∧
      scheduler.interBurstTimes.length = numSamples ∧
      scheduler.burstSizes = List.replicate numSamples meanBurstSize := by
  simp only [new, RNGDistrFactory.getRng_uniform uniform]
  exact generateSamples_sizes _ sample numSamples

end Scheduler

end Perfbench
