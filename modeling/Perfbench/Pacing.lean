import Mathlib.Algebra.Order.Field.Rat
import Mathlib.Tactic.FieldSimp
import Mathlib.Tactic.Linarith
import Perfbench.Library.ByteLoop
import Perfbench.Scheduler

/-!
# The rate of the send loop

`BaseTestCase::pps` splits the messages of a send interval into whole messages,
which become the mean burst size, and a fraction.  The send loop adds up the
fractions and sends another message whenever they make a whole one, so that
nothing is lost to the rounding in the long run.
-/

namespace Perfbench

/-- The parameters of a testcase that decide when it sends how much. -/
structure BaseTestCase where
  pps : Int
  sendInterval : ℚ
  burstRate : Int
  bsizeSchedulingDistr : String
  btimeSchedulingDistr : String
  schedulingFile : Option (List Extracted)
  burstRateReal : ℚ
  missingPacketsPerSendinterval : ℚ

namespace BaseTestCase

/-- The member initialisers. -/
def initial : BaseTestCase :=
  { pps := 0
    sendInterval := 1
    burstRate := 0
    bsizeSchedulingDistr := ""
    btimeSchedulingDistr := ""
    schedulingFile := none
    burstRateReal := 0
    missingPacketsPerSendinterval := 0 }

/-- The setter `BaseTestCase::pps`, for rates other than zero. -/
def setPps (pps : Int) (testcase : BaseTestCase) : BaseTestCase :=
  -- at least one packet for each send interval
  let sendInterval :=
    if testcase.sendInterval < 1000 / pps then 1000 / (pps : ℚ)
    else testcase.sendInterval
  let burstRateReal := pps * sendInterval / 1000
  let burstRate := ⌊burstRateReal⌋
  { testcase with
    pps
    sendInterval
    burstRateReal
    burstRate
    missingPacketsPerSendinterval := burstRateReal - burstRate }

end BaseTestCase

/-- The settings that `Tenant::Tenant` makes; without a scheduling file these
include the rate. -/
def Tenant.configure (pps : Int) (sendIntvl : ℚ)
    (bsizeschedDistr btimeschedDistr : String)
    (schedFile : Option (List Extracted)) : BaseTestCase :=
  let testcase := { BaseTestCase.initial with schedulingFile := schedFile }
  match schedFile with
  | none =>
      { ({ testcase with sendInterval := sendIntvl }).setPps pps with
        bsizeSchedulingDistr := bsizeschedDistr
        btimeSchedulingDistr := btimeschedDistr }
  | some _ => testcase

/-- The state of the send loop; `sent` counts the messages for each
connection in the list it sends to. -/
structure PacketDispatcher where
  scheduler : Scheduler
  nextBurstTime : ℚ
  missingPackets : ℚ
  sent : List Nat

/-- What an iteration uses: the time to wait and the number of packets. -/
structure Burst where
  nextBurstTime : ℚ
  burstRate : Int
  deriving DecidableEq

namespace PacketDispatcher

/-- The part of `BaseTestCase::start` before the send loop, for a testcase
that will send on `conns` connections. -/
def start (testcase : BaseTestCase) (sample : Nat → ℚ × ℚ) (conns : Nat) :
    Option PacketDispatcher :=
  let scheduler := Scheduler.new testcase.bsizeSchedulingDistr
    testcase.btimeSchedulingDistr testcase.burstRate testcase.sendInterval
    testcase.schedulingFile sample
  scheduler.nextInterBurstTime.map (fun next =>
    { scheduler := next.2
      nextBurstTime := next.1
      missingPackets := 0
      sent := List.replicate conns 0 })

/-- One message to each of the connections that a loop visits. -/
def sendTo (indices : List Nat) (sent : List Nat) : List Nat :=
  indices.foldl (fun sent c => sent.modify c (· + 1)) sent

/-- The loop over the burst, whose passes each go through all connections;
nothing where the loop over the connections does not end. -/
def sendBurst : Nat → List Nat → Option (List Nat)
  | 0, sent => some sent
  | burst + 1, sent =>
      (ByteLoop.whole sent.length).bind (fun indices =>
        sendBurst burst (sendTo indices sent))

/-- The burst of an iteration of the send loop that does not reach the
limit. -/
def nextBurst (testcase : BaseTestCase) (dispatcher : PacketDispatcher) :
    Option (Burst × PacketDispatcher) :=
  dispatcher.scheduler.nextInterBurstTime.bind (fun (nextBurstTime, timed) =>
    let missing :=
      dispatcher.missingPackets + testcase.missingPacketsPerSendinterval
    let missedPacketsRounded := ⌊missing⌋
    let missingPackets :=
      if missedPacketsRounded > 0 then missing - missedPacketsRounded
      else missing
    timed.nextBurstSize.map (fun (burstSize, scheduler) =>
      ({ nextBurstTime, burstRate := burstSize + missedPacketsRounded },
        { dispatcher with scheduler, nextBurstTime, missingPackets })))

def iterate (testcase : BaseTestCase) (dispatcher : PacketDispatcher) :
    Option (Burst × PacketDispatcher) :=
  (dispatcher.nextBurst testcase).bind (fun (burst, paced) =>
    (sendBurst burst.burstRate.toNat paced.sent).map (fun sent =>
      (burst, { paced with sent })))

/-- The first iterations, with what each of them used. -/
def iterations (testcase : BaseTestCase) (dispatcher : PacketDispatcher) :
    Nat → Option (List Burst × PacketDispatcher)
  | 0 => some ([], dispatcher)
  | k + 1 =>
      (dispatcher.iterations testcase k).bind (fun (bursts, reached) =>
        (reached.iterate testcase).map (fun (burst, next) =>
          (bursts ++ [burst], next)))

/-- A send loop from the start of its testcase. -/
def run (testcase : BaseTestCase) (sample : Nat → ℚ × ℚ) (conns k : Nat) :
    Option (List Burst × PacketDispatcher) :=
  (start testcase sample conns).bind (fun dispatcher =>
    dispatcher.iterations testcase k)

theorem sendTo_getElem? (indices : List Nat) (sent : List Nat) (c : Nat) :
    (sendTo indices sent)[c]? = sent[c]?.map (· + indices.count c) := by
  induction indices generalizing sent with
  | nil => simp [sendTo]
  | cons index indices induction =>
      change (sendTo indices (sent.modify index (· + 1)))[c]? = _
      rw [induction, List.getElem?_modify, List.count_cons]
      cases sent[c]? with
      | none => rfl
      | some count =>
          by_cases same : index = c
          · simp only [same, if_true, beq_self_eq_true, Option.map_some,
              Option.map_eq_map]
            congr 1
            omega
          · simp [same]

theorem sendTo_range (sent : List Nat) :
    sendTo (List.range sent.length) sent = sent.map (· + 1) := by
  apply List.ext_getElem?
  intro c
  rw [sendTo_getElem?, List.getElem?_map]
  rcases Nat.lt_or_ge c sent.length with inside | outside
  · rw [List.nodup_range.count, if_pos (List.mem_range.mpr inside)]
  · rw [List.getElem?_eq_none outside]
    rfl

theorem sendBurst_eq {conns count : Nat} (few : conns < 256) (burst : Nat) :
    sendBurst burst (List.replicate conns count) =
      some (List.replicate conns (count + burst)) := by
  induction burst generalizing count with
  | zero => rfl
  | succ burst induction =>
      rw [sendBurst, ByteLoop.whole_eq, List.length_replicate, if_pos few,
        Option.bind_some]
      have pass := sendTo_range (List.replicate conns count)
      rw [List.length_replicate, List.map_replicate] at pass
      rw [pass, induction, Nat.add_right_comm]
      rfl

theorem sendBurst_unending {sent : List Nat} {burst : Nat}
    (many : 256 ≤ sent.length) (positive : 0 < burst) :
    sendBurst burst sent = none := by
  cases burst with
  | zero => omega
  | succ burst =>
      rw [sendBurst, ByteLoop.whole_eq, if_neg (by omega)]
      rfl

/-- What the fractions of `rounds` intervals make beyond whole messages is
carried over, and the whole messages are sent with the interval's own. -/
theorem floor_carried (rate : ℚ) (rounds : Nat) :
    ⌊Int.fract (rounds * rate) + Int.fract rate⌋ =
      ⌊((rounds + 1 : Nat) : ℚ) * rate⌋ - ⌊rounds * rate⌋ - ⌊rate⌋ := by
  have split : Int.fract (rounds * rate) + Int.fract rate =
      ((rounds + 1 : Nat) : ℚ) * rate -
        ((⌊rounds * rate⌋ + ⌊rate⌋ : ℤ) : ℚ) := by
    simp only [Int.fract]
    push_cast
    ring
  rw [split, Int.floor_sub_intCast]
  omega

theorem fract_carried (rate : ℚ) (rounds : Nat) :
    Int.fract (rounds * rate) + Int.fract rate -
        ⌊Int.fract (rounds * rate) + Int.fract rate⌋ =
      Int.fract (((rounds + 1 : Nat) : ℚ) * rate) := by
  rw [floor_carried]
  simp only [Int.fract]
  push_cast
  ring

/-- The state of the send loop after `k` iterations at `rate` messages for
each interval. -/
structure Paced (rate : ℚ) (conns k : Nat) (dispatcher : PacketDispatcher) :
    Prop where
  btime : dispatcher.scheduler.iBtime < Scheduler.numSamples
  bsize : dispatcher.scheduler.iBsize < Scheduler.numSamples
  times :
    dispatcher.scheduler.interBurstTimes.length = Scheduler.numSamples
  sizes : dispatcher.scheduler.burstSizes =
    List.replicate Scheduler.numSamples ⌊rate⌋
  carried : dispatcher.missingPackets = Int.fract (k * rate)
  sent : dispatcher.sent = List.replicate conns ⌊k * rate⌋.toNat

/-- The testcase sends at `rate` messages for each interval. -/
structure AtRate (rate : ℚ) (testcase : BaseTestCase) : Prop where
  burstRate : testcase.burstRate = ⌊rate⌋
  missing : testcase.missingPacketsPerSendinterval = Int.fract rate
  atLeastOne : 1 ≤ rate

theorem nextIndex_lt {index : Nat} (inside : index < Scheduler.numSamples) :
    Scheduler.nextIndex index Scheduler.numSamples < Scheduler.numSamples := by
  have small : index < min Scheduler.numSamples (2 ^ 32) :=
    lt_of_lt_of_le inside (by decide)
  rw [Scheduler.nextIndex_eq, CyclicCursor.advance_eq (by decide) small]
  exact Nat.mod_lt _ (by decide)

theorem carry_left {total : ℚ} (nonnegative : 0 ≤ total) :
    (if ⌊total⌋ > 0 then total - ⌊total⌋ else total) = total - ⌊total⌋ := by
  split
  · rfl
  · have zero : ⌊total⌋ = 0 := by
      have lower := Int.floor_nonneg.mpr nonnegative
      omega
    rw [zero, Int.cast_zero, sub_zero]

theorem nextBurst_eq {testcase : BaseTestCase} {dispatcher : PacketDispatcher}
    {nextBurstTime : ℚ} {burstSize : Int} {timed scheduler : Scheduler}
    (timeDrawn : dispatcher.scheduler.nextInterBurstTime =
      some (nextBurstTime, timed))
    (sizeDrawn : timed.nextBurstSize = some (burstSize, scheduler))
    (nonnegative : 0 ≤
      dispatcher.missingPackets + testcase.missingPacketsPerSendinterval) :
    dispatcher.nextBurst testcase = some
      ({ nextBurstTime
         burstRate := burstSize + ⌊dispatcher.missingPackets +
           testcase.missingPacketsPerSendinterval⌋ },
        { dispatcher with
          scheduler
          nextBurstTime
          missingPackets :=
            dispatcher.missingPackets + testcase.missingPacketsPerSendinterval -
              ⌊dispatcher.missingPackets +
                testcase.missingPacketsPerSendinterval⌋ }) := by
  simp only [nextBurst, timeDrawn, sizeDrawn, Option.bind_some,
    Option.map_some, carry_left nonnegative]

theorem Paced.draws {rate : ℚ} {conns k : Nat} {dispatcher : PacketDispatcher}
    (paced : Paced rate conns k dispatcher) :
    ∃ nextBurstTime timed scheduler,
      dispatcher.scheduler.nextInterBurstTime = some (nextBurstTime, timed) ∧
      timed.nextBurstSize = some (⌊rate⌋, scheduler) ∧
      scheduler.iBtime < Scheduler.numSamples ∧
      scheduler.iBsize < Scheduler.numSamples ∧
      scheduler.interBurstTimes = dispatcher.scheduler.interBurstTimes ∧
      scheduler.burstSizes = dispatcher.scheduler.burstSizes := by
  have btimeNext := nextIndex_lt paced.btime
  have bsizeNext := nextIndex_lt paced.bsize
  have timeDrawn := Scheduler.nextInterBurstTime_eq
    (List.getElem?_eq_getElem (by rw [paced.times]; exact btimeNext))
  have sizes : dispatcher.scheduler.burstSizes.length =
      Scheduler.numSamples := by
    rw [paced.sizes, List.length_replicate]
  refine ⟨_, _, _, timeDrawn, Scheduler.nextBurstSize_eq ?_, ?_, ?_, rfl, rfl⟩
  · simp only [paced.sizes, List.length_replicate, List.getElem?_replicate,
      bsizeNext, if_true]
  · rw [paced.times]
    exact btimeNext
  · rw [sizes]
    exact bsizeNext

theorem Paced.nextBurst {rate : ℚ} {testcase : BaseTestCase} {conns k : Nat}
    {dispatcher : PacketDispatcher} (atRate : AtRate rate testcase)
    (paced : Paced rate conns k dispatcher) :
    ∃ burst next, dispatcher.nextBurst testcase = some (burst, next) ∧
      burst.burstRate = ⌊((k + 1 : Nat) : ℚ) * rate⌋ - ⌊k * rate⌋ ∧
      1 ≤ burst.burstRate ∧ next.sent = dispatcher.sent ∧
      ∀ sent, sent = List.replicate conns ⌊((k + 1 : Nat) : ℚ) * rate⌋.toNat →
        Paced rate conns (k + 1) { next with sent } := by
  obtain ⟨nextBurstTime, timed, scheduler, timeDrawn, sizeDrawn, btime, bsize,
    times, sizes⟩ := paced.draws
  have missing : dispatcher.missingPackets +
      testcase.missingPacketsPerSendinterval =
        Int.fract (k * rate) + Int.fract rate := by
    rw [paced.carried, atRate.missing]
  have nonnegative : (0 : ℚ) ≤ Int.fract (k * rate) + Int.fract rate :=
    add_nonneg (Int.fract_nonneg _) (Int.fract_nonneg _)
  have carried := Int.floor_nonneg.mpr nonnegative
  have interval : 1 ≤ ⌊rate⌋ := Int.le_floor.mpr (mod_cast atRate.atLeastOne)
  have burstRate : ⌊rate⌋ + ⌊Int.fract (k * rate) + Int.fract rate⌋ =
      ⌊((k + 1 : Nat) : ℚ) * rate⌋ - ⌊k * rate⌋ := by
    rw [floor_carried]
    omega
  have next := nextBurst_eq timeDrawn sizeDrawn (missing ▸ nonnegative)
  rw [missing] at next
  refine ⟨_, _, next, burstRate, le_add_of_le_of_nonneg interval carried, rfl,
    ?_⟩
  intro sent total
  exact ⟨btime, bsize, by rw [times, paced.times], by rw [sizes, paced.sizes],
    fract_carried rate k, total⟩

theorem Paced.iterate {rate : ℚ} {testcase : BaseTestCase} {conns k : Nat}
    {dispatcher : PacketDispatcher} (atRate : AtRate rate testcase)
    (few : conns < 256) (paced : Paced rate conns k dispatcher) :
    ∃ burst next, dispatcher.iterate testcase = some (burst, next) ∧
      1 ≤ burst.burstRate ∧ Paced rate conns (k + 1) next := by
  obtain ⟨burst, next, bursting, burstRate, atLeastOne, unsent, nextPaced⟩ :=
    paced.nextBurst atRate
  have sentBefore : 0 ≤ ⌊k * rate⌋ := by
    apply Int.floor_nonneg.mpr
    exact mul_nonneg (Nat.cast_nonneg k)
      (le_trans zero_le_one atRate.atLeastOne)
  have total : ⌊k * rate⌋.toNat + burst.burstRate.toNat =
      ⌊((k + 1 : Nat) : ℚ) * rate⌋.toNat := by
    omega
  refine ⟨burst, { next with
    sent := List.replicate conns ⌊((k + 1 : Nat) : ℚ) * rate⌋.toNat },
    ?_, atLeastOne, nextPaced _ rfl⟩
  rw [PacketDispatcher.iterate, bursting]
  simp only [Option.bind_some]
  rw [unsent, paced.sent, sendBurst_eq few, total, Option.map_some]

/-- After any number of iterations the messages sent are those that the rate
has made whole. -/
theorem iterations_paced {rate : ℚ} {testcase : BaseTestCase} {conns : Nat}
    {dispatcher : PacketDispatcher} (atRate : AtRate rate testcase)
    (few : conns < 256) (started : Paced rate conns 0 dispatcher) (k : Nat) :
    ∃ bursts reached,
      dispatcher.iterations testcase k = some (bursts, reached) ∧
        (∀ burst ∈ bursts, 1 ≤ burst.burstRate) ∧
        Paced rate conns k reached := by
  induction k with
  | zero => exact ⟨[], dispatcher, rfl, by simp, started⟩
  | succ k induction =>
      obtain ⟨bursts, reached, iterated, positive, paced⟩ := induction
      obtain ⟨burst, next, stepped, atLeastOne, nextPaced⟩ :=
        paced.iterate atRate few
      refine ⟨bursts ++ [burst], next, ?_, ?_, nextPaced⟩
      · simp only [iterations, iterated, Option.bind_some, stepped,
          Option.map_some]
      · intro other member
        rcases List.mem_append.mp member with earlier | last
        · exact positive other earlier
        · rw [List.mem_singleton.mp last]
          exact atLeastOne

/-- With more connections than the loop can index the first iteration does not
end. -/
theorem iterations_unending {rate : ℚ} {testcase : BaseTestCase} {conns : Nat}
    {dispatcher : PacketDispatcher} (atRate : AtRate rate testcase)
    (many : 256 ≤ conns) (started : Paced rate conns 0 dispatcher) (k : Nat) :
    dispatcher.iterations testcase (k + 1) = none := by
  induction k with
  | zero =>
      obtain ⟨burst, next, bursting, _, atLeastOne, unsent, _⟩ :=
        started.nextBurst atRate
      have unending : sendBurst burst.burstRate.toNat next.sent = none := by
        apply sendBurst_unending
        · rw [unsent, started.sent, List.length_replicate]
          exact many
        · omega
      have stuck : dispatcher.iterate testcase = none := by
        simp only [iterate, bursting, Option.bind_some, unending,
          Option.map_none]
      simp only [iterations, Option.bind_some, stuck, Option.map_none]
  | succ k induction =>
      rw [iterations, induction]
      rfl

theorem iterations_length {testcase : BaseTestCase}
    {dispatcher reached : PacketDispatcher} {k : Nat} {bursts : List Burst}
    (iterated : dispatcher.iterations testcase k = some (bursts, reached)) :
    bursts.length = k := by
  induction k generalizing bursts reached with
  | zero =>
      rw [iterations, Option.some.injEq, Prod.mk.injEq] at iterated
      rw [← iterated.1]
      rfl
  | succ k induction =>
      simp only [iterations, Option.bind_eq_some_iff, Option.map_eq_some_iff,
        Prod.mk.injEq] at iterated
      obtain ⟨⟨earlier, before⟩, first, ⟨burst, next⟩, _, rfl, _⟩ := iterated
      rw [List.length_append, induction first]
      rfl

end PacketDispatcher

/-- The clamp never shortens the interval, and gives it at least one
message. -/
theorem Tenant.configure_sendInterval (pps : Int) (sendIntvl : ℚ)
    (bsizeschedDistr btimeschedDistr : String) :
    (Tenant.configure pps sendIntvl bsizeschedDistr btimeschedDistr
      none).sendInterval = max sendIntvl (1000 / pps) := by
  rcases lt_or_ge sendIntvl (1000 / pps) with short | long
  · rw [max_eq_right short.le]
    exact if_pos short
  · rw [max_eq_left long]
    exact if_neg (not_lt.mpr long)

theorem Tenant.configure_atRate {pps : Int} (rate : 1 ≤ pps) (sendIntvl : ℚ)
    (bsizeschedDistr btimeschedDistr : String) :
    PacketDispatcher.AtRate
      (pps * max sendIntvl (1000 / pps) / 1000)
      (Tenant.configure pps sendIntvl bsizeschedDistr btimeschedDistr
        none) := by
  have interval := Tenant.configure_sendInterval pps sendIntvl bsizeschedDistr
    btimeschedDistr
  have positive : (0 : ℚ) < pps := by
    exact_mod_cast lt_of_lt_of_le Int.zero_lt_one rate
  refine ⟨?_, ?_, ?_⟩
  · rw [← interval]
    rfl
  · rw [← interval]
    rfl
  · have clamped : 1000 / (pps : ℚ) ≤ max sendIntvl (1000 / pps) :=
      le_max_right _ _
    rw [div_le_iff₀ positive] at clamped
    linarith [mul_comm (max sendIntvl (1000 / (pps : ℚ))) pps]

namespace PacketDispatcher

theorem start_eq {testcase : BaseTestCase} {sample : Nat → ℚ × ℚ} {conns : Nat}
    {scheduler timed : Scheduler} {nextBurstTime : ℚ}
    (made : Scheduler.new testcase.bsizeSchedulingDistr
      testcase.btimeSchedulingDistr testcase.burstRate testcase.sendInterval
      testcase.schedulingFile sample = scheduler)
    (drawn : scheduler.nextInterBurstTime = some (nextBurstTime, timed)) :
    start testcase sample conns = some
      { scheduler := timed
        nextBurstTime
        missingPackets := 0
        sent := List.replicate conns 0 } := by
  rw [start, made]
  exact congrArg (Option.map _) drawn

theorem start_paced {pps : Int} (rate : 1 ≤ pps) (sendIntvl : ℚ)
    {bsizeDistr : String} (btimeDistr : String)
    (uniform : RNGDistrFactory.Uniform bsizeDistr) (sample : Nat → ℚ × ℚ)
    (conns : Nat) :
    ∃ dispatcher,
      start (Tenant.configure pps sendIntvl bsizeDistr btimeDistr none) sample
          conns = some dispatcher ∧
        Paced (pps * max sendIntvl (1000 / pps) / 1000) conns 0 dispatcher := by
  have atRate := Tenant.configure_atRate rate sendIntvl bsizeDistr btimeDistr
  have tables := Scheduler.new_uniform uniform btimeDistr
    (Tenant.configure pps sendIntvl bsizeDistr btimeDistr none).burstRate
    (Tenant.configure pps sendIntvl bsizeDistr btimeDistr none).sendInterval
    sample
  obtain ⟨scheduler, made⟩ : ∃ scheduler, Scheduler.new bsizeDistr btimeDistr
      (Tenant.configure pps sendIntvl bsizeDistr btimeDistr none).burstRate
      (Tenant.configure pps sendIntvl bsizeDistr btimeDistr none).sendInterval
      none sample = scheduler := ⟨_, rfl⟩
  rw [made] at tables
  obtain ⟨btime, bsize, times, sizes⟩ := tables
  have first := nextIndex_lt (show 0 < Scheduler.numSamples by decide)
  have drawn := Scheduler.nextInterBurstTime_eq
    (List.getElem?_eq_getElem (by rw [btime, times]; exact first))
  refine ⟨_, start_eq made drawn, ?_, ?_, times, ?_, ?_, ?_⟩
  · simp only [btime, times]
    exact first
  · rw [bsize]
    decide
  · rw [sizes, atRate.burstRate]
  · simp only [Nat.cast_zero, zero_mul, Int.fract_zero]
  · simp only [Nat.cast_zero, zero_mul, Int.floor_zero, Int.toNat_zero]

/-- The messages sent in `k` iterations are those of the rate, rounded down
once. -/
structure NoDrift (pps : Int) (sendInterval : ℚ) (conns k : Nat)
    (bursts : List Burst) (reached : PacketDispatcher) : Prop where
  connections : reached.sent.length = conns
  sent : ∀ count ∈ reached.sent,
    (count : Int) = ⌊k * pps * sendInterval / 1000⌋
  iterations : bursts.length = k
  atLeastOne : ∀ burst ∈ bursts, 1 ≤ burst.burstRate
  carried : 0 ≤ reached.missingPackets ∧ reached.missingPackets < 1

theorem Paced.noDrift {pps : Int} {sendInterval : ℚ} {conns k : Nat}
    {bursts : List Burst} {reached : PacketDispatcher}
    (nonnegative : 0 ≤ pps * sendInterval / 1000)
    (paced : Paced (pps * sendInterval / 1000) conns k reached)
    (iterations : bursts.length = k)
    (atLeastOne : ∀ burst ∈ bursts, 1 ≤ burst.burstRate) :
    NoDrift pps sendInterval conns k bursts reached := by
  refine ⟨?_, ?_, iterations, atLeastOne, ?_⟩
  · rw [paced.sent, List.length_replicate]
  · intro count member
    rw [paced.sent] at member
    have total : (k : ℚ) * pps * sendInterval / 1000 =
        k * (pps * sendInterval / 1000) := by ring
    rw [List.eq_of_mem_replicate member, total]
    apply Int.toNat_of_nonneg
    exact Int.floor_nonneg.mpr (mul_nonneg (Nat.cast_nonneg k) nonnegative)
  · rw [paced.carried]
    exact ⟨Int.fract_nonneg _, Int.fract_lt_one _⟩

/-- Without a scheduling file and with the uniform distribution the send loop
keeps the rate exactly, whatever the rate and the interval.  Its iterations
end unless there are more connections than it can index. -/
theorem sent_noDrift {pps : Int} (rate : 1 ≤ pps) (sendIntvl : ℚ)
    {bsizeDistr : String} (btimeDistr : String)
    (uniform : RNGDistrFactory.Uniform bsizeDistr) (sample : Nat → ℚ × ℚ)
    (conns k : Nat) :
    let testcase := Tenant.configure pps sendIntvl bsizeDistr btimeDistr none
    testcase.sendInterval = max sendIntvl (1000 / pps) ∧
      (conns < 256 → ∃ bursts reached,
        run testcase sample conns k = some (bursts, reached)) ∧
      ∀ bursts reached, run testcase sample conns k = some (bursts, reached) →
        NoDrift pps testcase.sendInterval conns k bursts reached := by
  intro testcase
  have clamped : testcase.sendInterval = max sendIntvl (1000 / pps) :=
    Tenant.configure_sendInterval pps sendIntvl bsizeDistr btimeDistr
  have atRate := Tenant.configure_atRate rate sendIntvl bsizeDistr btimeDistr
  have nonnegative := le_trans zero_le_one atRate.atLeastOne
  obtain ⟨dispatcher, started, paced⟩ :=
    start_paced rate sendIntvl btimeDistr uniform sample conns
  have runs : run testcase sample conns k =
      dispatcher.iterations testcase k := by
    rw [run, started, Option.bind_some]
  rw [runs, clamped]
  rcases Nat.lt_or_ge conns 256 with few | many
  · obtain ⟨bursts, reached, iterated, positive, reachedPaced⟩ :=
      iterations_paced atRate few paced k
    refine ⟨rfl, fun _ => ⟨bursts, reached, iterated⟩, ?_⟩
    intro others final same
    have length := iterations_length same
    rw [iterated, Option.some.injEq, Prod.mk.injEq] at same
    obtain ⟨rfl, rfl⟩ := same
    exact reachedPaced.noDrift nonnegative length positive
  · refine ⟨rfl, fun few => absurd many (Nat.not_le.mpr few), ?_⟩
    intro bursts reached iterated
    cases k with
    | zero =>
        rw [iterations, Option.some.injEq, Prod.mk.injEq] at iterated
        obtain ⟨rfl, rfl⟩ := iterated
        exact paced.noDrift nonnegative rfl (by simp)
    | succ k =>
        rw [iterations_unending atRate many paced k] at iterated
        cases iterated

/-- Three messages a second, sent every half second to two connections. -/
theorem sent_noDrift_threePerSecond :
    1 ≤ (3 : Int) ∧ RNGDistrFactory.Uniform "uniform" ∧
      ∃ bursts reached,
        run (Tenant.configure 3 500 "uniform" "uniform" none) (fun _ => (0, 0))
            2 5 = some (bursts, reached) ∧
          NoDrift 3
            (Tenant.configure 3 500 "uniform" "uniform" none).sendInterval 2 5
            bursts reached := by
  have uniform : RNGDistrFactory.Uniform "uniform" := by
    constructor <;> decide
  obtain ⟨_, ends, noDrift⟩ := @sent_noDrift 3 (by decide) 500 "uniform"
    "uniform" uniform (fun _ => (0, 0)) 2 5
  obtain ⟨bursts, reached, ran⟩ := ends (by decide)
  exact ⟨by decide, uniform, bursts, reached, ran, noDrift bursts reached ran⟩

end PacketDispatcher

end Perfbench
