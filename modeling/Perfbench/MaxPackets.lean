import Mathlib.Algebra.Order.BigOperators.Group.List
import Mathlib.Algebra.Order.Group.Nat
import Perfbench.Library.InputRun
import Perfbench.Report
import Perfbench.SendLoop

/-!
# The limit on the number of packets

The send loop asks the counter for its limit once in an iteration and then
sends a whole burst, every message of it to all connections.  The limit holds
as long as the iterations that start below it end there, too.
-/

namespace Perfbench

namespace Counter

def finish (counter : Counter) : Counter := { counter with finished := true }

/-- The answer of `limit_reached`, and the counter it leaves. -/
def limitReached (now : ℚ) (counter : Counter) : Bool × Counter :=
  if counter.finished then (true, counter)
  else if 0 < counter.maxTime ∧ 0 < counter.startTime ∧
      (counter.maxTime : ℚ) ≤ now - counter.startTime then
    (true, counter.finish)
  else if 0 < counter.maxPackets ∧ counter.maxPackets ≤
      uint32OfInt (accumulate (counter.conns.map ConnTables.requests)) then
    (true, counter.finish)
  else (false, counter)

/-- The requests counted on all connections. -/
def requested (counter : Counter) : Nat :=
  (counter.conns.map ConnTables.requests).sum

end Counter

/-- Where the thread of the send loop is. -/
inductive BurstPlace where
  /-- before the test of `finished` -/
  | head
  /-- before the test of the burst loop, with the messages left -/
  | burst (remaining : Nat)
  /-- before the test of the loop over the connections, at index `c`, with the
  messages left after this one -/
  | round (remaining c : Nat)
  | stopped
  deriving DecidableEq

/-- The send loop with the list indexes of the connections that it sends to:
those of the controller or, where switches send, those of the switches. -/
structure BurstLoop where
  counter : Counter
  listIndexes : List Nat
  place : BurstPlace
  deriving DecidableEq

/-- What a step of the loop finds: the connections established before it, the
testcase's flag and the time, the burst rate that the scheduler and the missing
packets make, and the packet. -/
structure BurstInput where
  established : List Int
  testcaseFinished : Bool
  now : ℚ
  burstRate : Int
  bytes : Nat
  msgType : Nat

namespace BurstLoop

/-- `ctrl_conn_established` for each of the connections. -/
def establish (loop : BurstLoop) (connIds : List Int) : BurstLoop :=
  connIds.foldl
    (fun loop connId =>
      { loop with
        counter := loop.counter.connEstablished connId
        listIndexes := loop.listIndexes ++ [loop.counter.conns.length] })
    loop

/-- The number of messages for each connection, where the tests at the head of
the loop let an iteration start. -/
def passes (loop : BurstLoop) (input : BurstInput) : Option Nat :=
  if input.testcaseFinished then none
  else if (loop.counter.limitReached input.now).1 then none
  else some input.burstRate.toNat

/-- The message to a connection; where `at` throws, it ends the thread. -/
def send (loop : BurstLoop) (input : BurstInput) (listIndex : Nat)
    (next : BurstPlace) : BurstLoop :=
  match SendLoop.nextXid listIndex loop.counter with
  | none => { loop with place := .stopped }
  | some xid =>
      { loop with
        counter := loop.counter.countRequest
          { xid
            time := input.now
            bytes := input.bytes
            msgType := input.msgType } listIndex
        place := next }

/-- The packet on the dataplane, which is counted on the first connection. -/
def sendDataplane (loop : BurstLoop) (input : BurstInput)
    (next : BurstPlace) : BurstLoop :=
  { loop with
    counter := loop.counter.countRequest
      { xid := uint32OfInt (Counter.accumulate
          (loop.counter.conns.map ConnTables.requests))
        time := input.now
        bytes := 8
        msgType := 255 } 0
    place := next }

/-- The next step of the thread. -/
def advance (dataplane : Bool) (loop : BurstLoop) (input : BurstInput) :
    BurstLoop :=
  match loop.place with
  | .head =>
      if input.testcaseFinished then { loop with place := .stopped }
      else
        { loop with
          counter := (loop.counter.limitReached input.now).2
          place :=
            if (loop.counter.limitReached input.now).1 then .stopped
            else .burst input.burstRate.toNat }
  | .burst 0 => { loop with place := .head }
  | .burst (remaining + 1) =>
      -- counted on the first connection, for which the source has a FIXME
      if dataplane then loop.sendDataplane input (.burst remaining)
      else { loop with place := .round remaining 0 }
  | .round remaining c =>
      match loop.listIndexes[c]? with
      | some listIndex =>
          loop.send input listIndex (.round remaining (ByteLoop.next c))
      | none => { loop with place := .burst remaining }
  | .stopped => loop

def step (dataplane : Bool) (loop : BurstLoop) (input : BurstInput) :
    BurstLoop :=
  (loop.establish input.established).advance dataplane input

/-- The loop at the start of its thread, right after `reset`. -/
def start (now : ℚ) (counter : Counter) (listIndexes : List Nat) : BurstLoop :=
  { counter := counter.reset now
    listIndexes
    place := .head }

/-- The loop after so many steps. -/
def states (dataplane : Bool) (loop : BurstLoop) (inputs : Nat → BurstInput) :
    Nat → BurstLoop :=
  InputRun.states (step dataplane) loop inputs

/-- No more requests than the limit are counted, and the loop stops once they
are. -/
structure KeepsLimit (dataplane : Bool) (loop : BurstLoop)
    (inputs : Nat → BurstInput) : Prop where
  atMost : ∀ n, (states dataplane loop inputs n).counter.requested ≤
    loop.counter.maxPackets
  stops : ∀ n, loop.counter.maxPackets ≤
      (states dataplane loop inputs n).counter.requested →
    (∀ later, n ≤ later →
      (states dataplane loop inputs later).counter.requested =
        (states dataplane loop inputs n).counter.requested) ∧
      ∃ later, n ≤ later ∧ (states dataplane loop inputs later).place = .stopped

end BurstLoop

/-- What the number of requests depends on; `size` is the number of
connections sent to. -/
structure BurstView where
  requested : Nat
  size : Nat
  place : BurstPlace

namespace BurstView

/-- The step of the loop as far as the view shows it. -/
def advance (dataplane : Bool) (starting : Option Nat) (view : BurstView) :
    BurstView :=
  match view.place with
  | .head =>
      match starting with
      | none => { view with place := .stopped }
      | some burst => { view with place := .burst burst }
  | .burst 0 => { view with place := .head }
  | .burst (remaining + 1) =>
      if dataplane then
        { view with
          requested := view.requested + 1
          place := .burst remaining }
      else { view with place := .round remaining 0 }
  | .round remaining c =>
      if c < view.size then
        { view with
          requested := view.requested + 1
          place := .round remaining (ByteLoop.next c) }
      else { view with place := .burst remaining }
  | .stopped => view

/-- More connections to send to. -/
def grow (view : BurstView) (more : Nat) : BurstView :=
  { view with size := view.size + more }

/-- The rest of the iteration does not count beyond the limit. -/
def Room (dataplane : Bool) (maxPackets : Nat) (view : BurstView) : Prop :=
  match view.place with
  | .burst (remaining + 1) =>
      if dataplane then view.requested + (remaining + 1) ≤ maxPackets
      else view.size < 256 ∧
        view.requested + (remaining + 1) * view.size ≤ maxPackets
  | .round remaining c =>
      view.size < 256 ∧
        view.requested + (view.size - c) + remaining * view.size ≤ maxPackets
  | _ => True

end BurstView

namespace BurstLoop

def view (loop : BurstLoop) : BurstView :=
  { requested := loop.counter.requested
    size := loop.listIndexes.length
    place := loop.place }

/-- An iteration that starts ends within the limit, and so does one that is
going on when more connections are established. -/
def Fits (dataplane : Bool) (loop : BurstLoop) (input : BurstInput) : Prop :=
  let connected := loop.establish input.established
  match loop.place with
  | .head => ∀ burst, connected.passes input = some burst →
      { connected.view with place := .burst burst }.Room dataplane
        connected.counter.maxPackets
  | _ => input.established ≠ [] →
      connected.view.Room dataplane connected.counter.maxPackets

end BurstLoop

namespace Counter

theorem requested_reset (now : ℚ) (counter : Counter) :
    (counter.reset now).requested = 0 := by
  rw [requested, List.sum_eq_zero_iff_forall_eq_nat]
  intro requests member
  simp only [reset, List.map_map, List.mem_map] at member
  obtain ⟨tables, _, same⟩ := member
  exact same.symm

theorem requested_connEstablished (connId : Int) (counter : Counter) :
    (counter.connEstablished connId).requested = counter.requested := by
  simp [requested, connEstablished, ConnTables.fresh]

theorem limitReached_snd (now : ℚ) (counter : Counter) :
    (counter.limitReached now).2.conns = counter.conns ∧
      (counter.limitReached now).2.maxPackets = counter.maxPackets := by
  unfold limitReached
  split
  · exact ⟨rfl, rfl⟩
  · split
    · exact ⟨rfl, rfl⟩
    · split
      · exact ⟨rfl, rfl⟩
      · exact ⟨rfl, rfl⟩

/-- The comparison is right as long as the sum fits into an `int`. -/
theorem limitReached_of_le {now : ℚ} {counter : Counter}
    (positive : 0 < counter.maxPackets)
    (reached : counter.maxPackets ≤ counter.requested)
    (fits : counter.requested < 2 ^ 31) :
    (counter.limitReached now).1 = true := by
  have sum : uint32OfInt (accumulate (counter.conns.map ConnTables.requests)) =
      counter.requested := by
    rw [accumulate_of_sum_lt fits, uint32OfInt, requested]
    rw [requested] at fits
    omega
  unfold limitReached
  split
  · rfl
  · split
    · rfl
    · rw [if_pos ⟨positive, sum ▸ reached⟩]

theorem sum_map_modify {α : Type*} {items : List α} {index : Nat}
    {change : α → α} {value : α → Nat} (inside : index < items.length)
    (grows : ∀ item ∈ items, value (change item) = value item + 1) :
    ((items.modify index change).map value).sum =
      (items.map value).sum + 1 := by
  induction items generalizing index with
  | nil => simp at inside
  | cons item items induction =>
      cases index with
      | zero =>
          rw [List.modify_zero_cons, List.map_cons, List.sum_cons,
            grows item List.mem_cons_self, List.map_cons, List.sum_cons]
          omega
      | succ index =>
          have rest := induction (Nat.lt_of_succ_lt_succ inside)
            (fun other member => grows other (List.mem_cons_of_mem item member))
          rw [List.modify_succ_cons, List.map_cons, List.sum_cons, rest,
            List.map_cons, List.sum_cons]
          omega

theorem requested_countRequest {msg : Message} {connIndex : Nat}
    {counter : Counter} (inside : connIndex < counter.conns.length)
    (fits : counter.requested < 2 ^ 31) :
    (counter.countRequest msg connIndex).requested = counter.requested + 1 := by
  apply sum_map_modify inside
  intro tables member
  have atMost : tables.requests ≤ counter.requested :=
    List.le_sum_of_mem (List.mem_map_of_mem member)
  exact uint32_of_lt (by omega)

end Counter

namespace BurstLoop

/-- Every connection sent to has its tables. -/
structure Listed (dataplane : Bool) (loop : BurstLoop) : Prop where
  indexes : ∀ listIndex ∈ loop.listIndexes,
    listIndex < loop.counter.conns.length
  dataplane : dataplane = true → 0 < loop.counter.conns.length

theorem establish_view (loop : BurstLoop) (connIds : List Int) :
    (loop.establish connIds).view = loop.view.grow connIds.length := by
  induction connIds generalizing loop with
  | nil => rfl
  | cons connId connIds induction =>
      have first : (loop.establish (connId :: connIds)).view =
          (BurstLoop.establish
            { loop with
              counter := loop.counter.connEstablished connId
              listIndexes := loop.listIndexes ++ [loop.counter.conns.length] }
            connIds).view := rfl
      rw [first, induction]
      simp only [view, BurstView.grow, Counter.requested_connEstablished,
        List.length_append, List.length_cons, List.length_nil,
        BurstView.mk.injEq, true_and, and_true]
      omega

theorem establish_maxPackets (loop : BurstLoop) (connIds : List Int) :
    (loop.establish connIds).counter.maxPackets = loop.counter.maxPackets := by
  induction connIds generalizing loop with
  | nil => rfl
  | cons connId connIds induction => exact induction _

theorem Listed.establish {dataplane : Bool} {loop : BurstLoop}
    (listed : Listed dataplane loop) (connIds : List Int) :
    Listed dataplane (loop.establish connIds) := by
  induction connIds generalizing loop with
  | nil => exact listed
  | cons connId connIds induction =>
      apply induction
      constructor
      · intro listIndex member
        simp only [Counter.connEstablished, List.length_append,
          List.length_singleton]
        rcases List.mem_append.mp member with old | new
        · have inside := listed.indexes listIndex old
          omega
        · rw [List.mem_singleton.mp new]
          omega
      · intro _
        simp [Counter.connEstablished]

theorem advance_frame (dataplane : Bool) (loop : BurstLoop)
    (input : BurstInput) :
    (loop.advance dataplane input).listIndexes = loop.listIndexes ∧
      (loop.advance dataplane input).counter.conns.length =
        loop.counter.conns.length ∧
      (loop.advance dataplane input).counter.maxPackets =
        loop.counter.maxPackets := by
  obtain ⟨conns, maxPackets⟩ := loop.counter.limitReached_snd input.now
  unfold advance
  split
  · split
    · exact ⟨rfl, rfl, rfl⟩
    · exact ⟨rfl, congrArg List.length conns, maxPackets⟩
  · exact ⟨rfl, rfl, rfl⟩
  · split
    · exact ⟨rfl, List.length_modify .., rfl⟩
    · exact ⟨rfl, rfl, rfl⟩
  · split
    · unfold send
      split
      · exact ⟨rfl, rfl, rfl⟩
      · exact ⟨rfl, List.length_modify .., rfl⟩
    · exact ⟨rfl, rfl, rfl⟩
  · exact ⟨rfl, rfl, rfl⟩

theorem advance_head {dataplane : Bool} {loop : BurstLoop} {input : BurstInput}
    (head : loop.place = .head) :
    (loop.advance dataplane input).view =
      loop.view.advance dataplane (loop.passes input) := by
  obtain ⟨conns, -⟩ := loop.counter.limitReached_snd input.now
  have requested : (loop.counter.limitReached input.now).2.requested =
      loop.counter.requested := by
    rw [Counter.requested, conns, Counter.requested]
  simp only [advance, BurstView.advance, view, passes, head]
  by_cases finished : input.testcaseFinished = true
  · simp only [finished, if_true]
  · by_cases reached : (loop.counter.limitReached input.now).1 = true
    · simp only [finished, reached, if_true, Bool.false_eq_true, if_false,
        requested]
    · simp only [finished, reached, Bool.false_eq_true, if_false, requested]

theorem send_view {loop : BurstLoop} {listIndex : Nat}
    (inside : listIndex < loop.counter.conns.length)
    (fits : loop.counter.requested < 2 ^ 31) (input : BurstInput)
    (next : BurstPlace) :
    (loop.send input listIndex next).view =
      { loop.view with
        requested := loop.counter.requested + 1
        place := next } := by
  have numbered : SendLoop.nextXid listIndex loop.counter =
      some (uint32 (loop.counter.conns[listIndex].requests +
        10000000 * listIndex + 1)) := by
    rw [SendLoop.nextXid, List.getElem?_eq_getElem inside, Option.map_some]
  simp only [send, numbered, view, Counter.requested_countRequest inside fits]

theorem advance_view {dataplane : Bool} {loop : BurstLoop}
    (listed : Listed dataplane loop) (fits : loop.counter.requested < 2 ^ 31)
    (input : BurstInput) :
    (loop.advance dataplane input).view =
      loop.view.advance dataplane (loop.passes input) := by
  cases place : loop.place with
  | head => exact advance_head place
  | stopped => simp only [advance, BurstView.advance, view, place]
  | burst remaining =>
      cases remaining with
      | zero => simp only [advance, BurstView.advance, view, place]
      | succ remaining =>
          cases dataplane with
          | false =>
              simp only [advance, BurstView.advance, view, place]
              rfl
          | true =>
              simp only [advance, BurstView.advance, view, place, if_true,
                sendDataplane,
                Counter.requested_countRequest (listed.dataplane rfl) fits]
  | round remaining c =>
      by_cases more : c < loop.listIndexes.length
      · have found := List.getElem?_eq_getElem more
        have inside := listed.indexes _ (List.getElem_mem more)
        have sent : loop.advance dataplane input =
            loop.send input loop.listIndexes[c]
              (.round remaining (ByteLoop.next c)) := by
          simp only [advance, place, found]
        rw [sent, send_view inside fits]
        simp only [BurstView.advance, view, place, more, if_true]
      · have none : loop.listIndexes[c]? = none :=
          List.getElem?_eq_none (Nat.le_of_not_lt more)
        simp only [advance, place, none, BurstView.advance, view, more,
          if_false]

theorem Listed.step {dataplane : Bool} {loop : BurstLoop}
    (listed : Listed dataplane loop) (input : BurstInput) :
    Listed dataplane (loop.step dataplane input) := by
  have connected := listed.establish input.established
  obtain ⟨listIndexes, conns, -⟩ := advance_frame dataplane
    (loop.establish input.established) input
  constructor
  · rw [BurstLoop.step, listIndexes, conns]
    exact connected.indexes
  · rw [BurstLoop.step, conns]
    exact connected.dataplane

theorem step_maxPackets (dataplane : Bool) (loop : BurstLoop)
    (input : BurstInput) :
    (loop.step dataplane input).counter.maxPackets =
      loop.counter.maxPackets := by
  obtain ⟨-, -, maxPackets⟩ := advance_frame dataplane
    (loop.establish input.established) input
  rw [step, maxPackets, establish_maxPackets]

theorem step_view {dataplane : Bool} {loop : BurstLoop}
    (listed : Listed dataplane loop) (fits : loop.counter.requested < 2 ^ 31)
    (input : BurstInput) :
    (loop.step dataplane input).view =
      (loop.view.grow input.established.length).advance dataplane
        ((loop.establish input.established).passes input) := by
  have connected := establish_view loop input.established
  have same : (loop.establish input.established).counter.requested =
      loop.counter.requested := congrArg BurstView.requested connected
  rw [step, advance_view (listed.establish input.established) (by omega),
    connected]

end BurstLoop

namespace BurstView

/-- The eight-bit index is used for messages, not for dataplane packets. -/
def InRange (dataplane : Bool) (view : BurstView) : Prop :=
  ∀ remaining c, view.place = .round remaining c → dataplane = false ∧ c < 256

theorem advance_inRange {dataplane : Bool} {starting : Option Nat}
    {view : BurstView} (inRange : view.InRange dataplane) :
    (view.advance dataplane starting).InRange dataplane := by
  obtain ⟨requested, size, place⟩ := view
  intro remaining c round
  cases place with
  | stopped => cases round
  | head => cases starting <;> cases round
  | burst left =>
      cases left with
      | zero => cases round
      | succ left =>
          cases dataplane with
          | true => cases round
          | false =>
              cases round
              exact ⟨rfl, by decide⟩
  | round left index =>
      have control := (inRange left index rfl).1
      simp only [advance] at round
      split at round
      · cases round
        exact ⟨control, ByteLoop.next_lt index⟩
      · cases round

theorem advance_requested (dataplane : Bool) (starting : Option Nat)
    (view : BurstView) :
    view.requested ≤ (view.advance dataplane starting).requested := by
  unfold advance
  split
  · split
    · exact Nat.le_refl _
    · exact Nat.le_refl _
  · exact Nat.le_refl _
  · split
    · exact Nat.le_succ _
    · exact Nat.le_refl _
  · split
    · exact Nat.le_succ _
    · exact Nat.le_refl _
  · exact Nat.le_refl _

theorem room_burst {maxPackets requested size remaining : Nat}
    (small : size < 256) (atMost : requested + remaining * size ≤ maxPackets) :
    Room false maxPackets { requested, size, place := .burst remaining } := by
  cases remaining with
  | zero => trivial
  | succ remaining => exact ⟨small, atMost⟩

theorem room_burst_dataplane {maxPackets requested size remaining : Nat}
    (atMost : requested + remaining ≤ maxPackets) :
    Room true maxPackets { requested, size, place := .burst remaining } := by
  cases remaining with
  | zero => trivial
  | succ remaining => exact atMost

theorem advance_room {dataplane : Bool} {starting : Option Nat}
    {maxPackets : Nat} {view : BurstView} (inRange : view.InRange dataplane)
    (atMost : view.requested ≤ maxPackets)
    (room : view.Room dataplane maxPackets)
    (starts : view.place = .head → ∀ burst, starting = some burst →
      { view with place := .burst burst }.Room dataplane maxPackets) :
    (view.advance dataplane starting).requested ≤ maxPackets ∧
      (view.advance dataplane starting).Room dataplane maxPackets := by
  obtain ⟨requested, size, place⟩ := view
  change requested ≤ maxPackets at atMost
  cases place with
  | stopped => exact ⟨atMost, trivial⟩
  | head =>
      cases starting with
      | none => exact ⟨atMost, trivial⟩
      | some burst => exact ⟨atMost, starts rfl burst rfl⟩
  | burst remaining =>
      cases remaining with
      | zero => exact ⟨atMost, trivial⟩
      | succ remaining =>
          cases dataplane with
          | true =>
              have rest : requested + (remaining + 1) ≤ maxPackets := room
              have left : requested + 1 + remaining ≤ maxPackets := by omega
              have counted : requested + 1 ≤ maxPackets := by omega
              exact ⟨counted, room_burst_dataplane left⟩
          | false =>
              obtain ⟨small, rest⟩ : size < 256 ∧
                requested + (remaining + 1) * size ≤ maxPackets := room
              rw [Nat.succ_mul] at rest
              refine ⟨atMost, small, ?_⟩
              change requested + (size - 0) + remaining * size ≤ maxPackets
              omega
  | round remaining c =>
      obtain ⟨control, -⟩ := inRange remaining c rfl
      obtain ⟨small, rest⟩ : size < 256 ∧
        requested + (size - c) + remaining * size ≤ maxPackets := room
      subst control
      by_cases more : c < size
      · have next : ByteLoop.next c = c + 1 := ByteLoop.next_eq small more
        simp only [advance, more, if_true, Room, next]
        omega
      · simp only [advance, more, if_false]
        exact ⟨atMost, room_burst small (by omega)⟩

/-- What goes down as long as an iteration lacks room: every request counts, and
within two more steps there is another. -/
def rank (maxPackets : Nat) (view : BurstView) : Nat :=
  3 * (maxPackets - view.requested) +
    match view.place with
    | .round _ c => if c < view.size then 0 else 2
    | _ => 1

theorem advance_noRoom {dataplane : Bool} {starting : Option Nat}
    {maxPackets : Nat} {view : BurstView} (inRange : view.InRange dataplane)
    (atMost : view.requested ≤ maxPackets)
    (nextAtMost : (view.advance dataplane starting).requested ≤ maxPackets)
    (noRoom : ¬view.Room dataplane maxPackets) :
    ¬(view.advance dataplane starting).Room dataplane maxPackets ∧
      (view.advance dataplane starting).rank maxPackets <
        view.rank maxPackets := by
  obtain ⟨requested, size, place⟩ := view
  change requested ≤ maxPackets at atMost
  cases place with
  | stopped => exact absurd trivial noRoom
  | head => exact absurd trivial noRoom
  | burst remaining =>
      cases remaining with
      | zero => exact absurd trivial noRoom
      | succ remaining =>
          cases dataplane with
          | true =>
              have rest : ¬requested + (remaining + 1) ≤ maxPackets := noRoom
              have counted : requested + 1 ≤ maxPackets := nextAtMost
              constructor
              · intro room
                cases remaining with
                | zero => omega
                | succ remaining =>
                    have more : requested + 1 + (remaining + 1) ≤ maxPackets :=
                      room
                    omega
              · simp only [advance, if_true, rank]
                omega
          | false =>
              have rest : ¬(size < 256 ∧
                requested + (remaining + 1) * size ≤ maxPackets) := noRoom
              rw [Nat.succ_mul] at rest
              -- without connections there would be room for any burst
              have notEmpty : 0 < size := by
                by_contra empty
                have zero : size = 0 := by omega
                rw [zero] at rest
                omega
              constructor
              · intro room
                obtain ⟨small, more⟩ : size < 256 ∧
                  requested + (size - 0) + remaining * size ≤ maxPackets := room
                omega
              · simp only [advance, Bool.false_eq_true, if_false, rank,
                  notEmpty, if_true]
                omega
  | round remaining c =>
      obtain ⟨control, inside⟩ := inRange remaining c rfl
      have rest : ¬(size < 256 ∧
        requested + (size - c) + remaining * size ≤ maxPackets) := noRoom
      subst control
      by_cases more : c < size
      · simp only [advance, more, if_true] at nextAtMost ⊢
        constructor
        · -- only here may the index wrap, and then the size is too large
          rintro ⟨small, room⟩
          have next : ByteLoop.next c = c + 1 := ByteLoop.next_eq small more
          simp only [next] at small room
          omega
        · simp only [rank, more, if_true]
          split <;> omega
      · simp only [advance, more, if_false]
        constructor
        · intro room
          cases remaining with
          | zero => omega
          | succ remaining =>
              obtain ⟨small, left⟩ : size < 256 ∧
                requested + (remaining + 1) * size ≤ maxPackets := room
              omega
        · simp only [rank, more, if_false]
          omega

theorem grow_noRoom {dataplane : Bool} {maxPackets : Nat} {view : BurstView}
    (noRoom : ¬view.Room dataplane maxPackets) (more : Nat) :
    ¬(view.grow more).Room dataplane maxPackets ∧
      (view.grow more).rank maxPackets ≤ view.rank maxPackets := by
  obtain ⟨requested, size, place⟩ := view
  cases place with
  | stopped => exact absurd trivial noRoom
  | head => exact absurd trivial noRoom
  | burst remaining =>
      refine ⟨?_, Nat.le_refl _⟩
      cases remaining with
      | zero => exact absurd trivial noRoom
      | succ remaining =>
          cases dataplane with
          | true => exact noRoom
          | false =>
              rintro ⟨small, room⟩
              apply noRoom
              have larger : (remaining + 1) * size ≤
                  (remaining + 1) * (size + more) :=
                Nat.mul_le_mul_left _ (Nat.le_add_right size more)
              simp only [grow] at small room
              simp only [Room, Bool.false_eq_true, if_false]
              omega
  | round remaining c =>
      constructor
      · rintro ⟨small, room⟩
        apply noRoom
        have larger : remaining * size ≤ remaining * (size + more) :=
          Nat.mul_le_mul_left _ (Nat.le_add_right size more)
        simp only [grow] at small room
        simp only [Room]
        omega
      · simp only [rank, grow]
        by_cases before : c < size
        · have after : c < size + more := by omega
          simp only [before, after, if_true, Nat.le_refl]
        · by_cases after : c < size + more
          · simp only [before, after, if_true, if_false]
            omega
          · simp only [before, after, if_false, Nat.le_refl]

/-- The steps that are left to a loop that has nothing more to send. -/
def toGo (view : BurstView) : Nat :=
  match view.place with
  | .stopped => 0
  | .head => 1
  | .burst remaining => 2 * remaining + 2
  | .round remaining _ => 2 * remaining + 3

theorem advance_full {dataplane : Bool} {starting : Option Nat}
    {view : BurstView} (inRange : view.InRange dataplane)
    (room : view.Room dataplane view.requested)
    (ends : view.place = .head → starting = none)
    (going : view.place ≠ .stopped) :
    (view.advance dataplane starting).toGo < view.toGo := by
  obtain ⟨requested, size, place⟩ := view
  cases place with
  | stopped => exact absurd rfl going
  | head =>
      rw [ends rfl]
      exact Nat.lt_add_one 0
  | burst remaining =>
      cases remaining with
      | zero => simp [advance, toGo]
      | succ remaining =>
          cases dataplane with
          | true =>
              have rest : requested + (remaining + 1) ≤ requested := room
              omega
          | false =>
              simp only [advance, Bool.false_eq_true, if_false, toGo]
              omega
  | round remaining c =>
      obtain ⟨small, rest⟩ : size < 256 ∧
        requested + (size - c) + remaining * size ≤ requested := room
      have ended : ¬c < size := by omega
      simp only [advance, ended, if_false, toGo]
      omega

end BurstView

namespace BurstLoop

/-- What holds of every loop on its way to the limit. -/
structure Sound (dataplane : Bool) (maxPackets : Nat) (loop : BurstLoop) :
    Prop where
  listed : Listed dataplane loop
  inRange : loop.view.InRange dataplane
  maxPackets : loop.counter.maxPackets = maxPackets

theorem Sound.step {dataplane : Bool} {maxPackets : Nat} {loop : BurstLoop}
    (sound : Sound dataplane maxPackets loop)
    (fits : loop.counter.requested < 2 ^ 31) (input : BurstInput) :
    Sound dataplane maxPackets (loop.step dataplane input) := by
  refine ⟨sound.listed.step input, ?_, ?_⟩
  · rw [step_view sound.listed fits]
    exact BurstView.advance_inRange sound.inRange
  · rw [step_maxPackets, sound.maxPackets]

theorem requested_step {dataplane : Bool} {loop : BurstLoop}
    (listed : Listed dataplane loop) (fits : loop.counter.requested < 2 ^ 31)
    (input : BurstInput) :
    loop.counter.requested ≤ (loop.step dataplane input).counter.requested := by
  have viewed := congrArg BurstView.requested (step_view listed fits input)
  have grows := BurstView.advance_requested dataplane
    ((loop.establish input.established).passes input)
    (loop.view.grow input.established.length)
  exact Nat.le_trans grows (Nat.le_of_eq viewed.symm)

/-- A loop below the limit that has room for the rest of its iteration. -/
structure Within (dataplane : Bool) (maxPackets : Nat) (loop : BurstLoop) :
    Prop where
  sound : Sound dataplane maxPackets loop
  atMost : loop.counter.requested ≤ maxPackets
  room : loop.view.Room dataplane maxPackets

theorem Fits.connected {dataplane : Bool} {maxPackets : Nat} {loop : BurstLoop}
    {input : BurstInput} (sound : Sound dataplane maxPackets loop)
    (fits : Fits dataplane loop input)
    (room : loop.view.Room dataplane maxPackets) :
    (loop.view.grow input.established.length).Room dataplane maxPackets := by
  have viewed := establish_view loop input.established
  have limit := (establish_maxPackets loop input.established).trans
    sound.maxPackets
  by_cases none : input.established = []
  · rw [none]
    exact room
  · rw [← viewed, ← limit]
    unfold Fits at fits
    split at fits
    · rename_i head
      have same : (loop.establish input.established).view.place = .head := by
        rw [viewed]
        exact head
      unfold BurstView.Room
      rw [same]
      trivial
    · exact fits none

theorem Fits.starts {dataplane : Bool} {maxPackets : Nat} {loop : BurstLoop}
    {input : BurstInput} (sound : Sound dataplane maxPackets loop)
    (fits : Fits dataplane loop input) (head : loop.place = .head) (burst : Nat)
    (passes : (loop.establish input.established).passes input = some burst) :
    { loop.view.grow input.established.length with
      place := .burst burst }.Room dataplane maxPackets := by
  have viewed := establish_view loop input.established
  have limit := (establish_maxPackets loop input.established).trans
    sound.maxPackets
  simp only [Fits, head] at fits
  have room := fits burst passes
  rw [viewed, limit] at room
  exact room

theorem Fits.step {dataplane : Bool} {maxPackets : Nat} {loop : BurstLoop}
    {input : BurstInput} (int : maxPackets < 2 ^ 31)
    (fits : Fits dataplane loop input)
    (within : Within dataplane maxPackets loop) :
    Within dataplane maxPackets (loop.step dataplane input) := by
  obtain ⟨sound, atMost, room⟩ := within
  have viewed := step_view sound.listed (by omega) input
  have kept := @BurstView.advance_room dataplane
    ((loop.establish input.established).passes input) maxPackets
    (loop.view.grow input.established.length) sound.inRange atMost
    (fits.connected sound room) (fits.starts sound)
  rw [← viewed] at kept
  exact ⟨sound.step (by omega) input, kept.1, kept.2⟩

theorem step_noRoom_of_grown {dataplane : Bool} {maxPackets : Nat}
    {loop : BurstLoop} {input : BurstInput} (int : maxPackets < 2 ^ 31)
    (sound : Sound dataplane maxPackets loop)
    (atMost : loop.counter.requested ≤ maxPackets)
    (nextAtMost : (loop.step dataplane input).counter.requested ≤ maxPackets)
    (noRoom : ¬(loop.view.grow input.established.length).Room dataplane
      maxPackets) :
    ¬(loop.step dataplane input).view.Room dataplane maxPackets ∧
      (loop.step dataplane input).view.rank maxPackets <
        (loop.view.grow input.established.length).rank maxPackets := by
  have viewed := step_view sound.listed (by omega) input
  have counted : (loop.step dataplane input).view.requested ≤ maxPackets :=
    nextAtMost
  rw [viewed] at counted ⊢
  exact @BurstView.advance_noRoom dataplane _ maxPackets
    (loop.view.grow input.established.length) sound.inRange atMost counted
    noRoom

theorem noRoom_of_not_fits {dataplane : Bool} {maxPackets : Nat}
    {loop : BurstLoop} {input : BurstInput} (int : maxPackets < 2 ^ 31)
    (sound : Sound dataplane maxPackets loop)
    (atMost : loop.counter.requested ≤ maxPackets)
    (nextAtMost : (loop.step dataplane input).counter.requested ≤ maxPackets)
    (tooMuch : ¬Fits dataplane loop input) :
    ¬(loop.step dataplane input).view.Room dataplane maxPackets := by
  have viewed := step_view sound.listed (by omega) input
  have connected := establish_view loop input.established
  have limit := (establish_maxPackets loop input.established).trans
    sound.maxPackets
  unfold Fits at tooMuch
  split at tooMuch
  · rename_i head
    simp only [not_forall] at tooMuch
    obtain ⟨burst, passes, noRoom⟩ := tooMuch
    rw [connected, limit] at noRoom
    have started :
        (loop.view.grow input.established.length).advance dataplane
          (some burst) =
        { loop.view.grow input.established.length with
          place := .burst burst } := by
      simp only [BurstView.advance, BurstView.grow, view, head]
    rw [viewed, passes, started]
    exact noRoom
  · simp only [not_forall] at tooMuch
    obtain ⟨_, noRoom⟩ := tooMuch
    rw [connected, limit] at noRoom
    exact (step_noRoom_of_grown int sound atMost nextAtMost noRoom).1

theorem step_noRoom {dataplane : Bool} {maxPackets : Nat}
    {loop : BurstLoop} {input : BurstInput} (int : maxPackets < 2 ^ 31)
    (sound : Sound dataplane maxPackets loop)
    (atMost : loop.counter.requested ≤ maxPackets)
    (nextAtMost : (loop.step dataplane input).counter.requested ≤ maxPackets)
    (noRoom : ¬loop.view.Room dataplane maxPackets) :
    ¬(loop.step dataplane input).view.Room dataplane maxPackets ∧
      (loop.step dataplane input).view.rank maxPackets <
        loop.view.rank maxPackets := by
  obtain ⟨grown, notMore⟩ :=
    BurstView.grow_noRoom noRoom input.established.length
  obtain ⟨still, smaller⟩ :=
    step_noRoom_of_grown int sound atMost nextAtMost grown
  exact ⟨still, Nat.lt_of_lt_of_le smaller notMore⟩

theorem Fits.step_full {dataplane : Bool} {loop : BurstLoop}
    {input : BurstInput} (positive : 0 < loop.counter.maxPackets)
    (int : loop.counter.maxPackets < 2 ^ 31)
    (sound : Sound dataplane loop.counter.maxPackets loop)
    (reached : loop.counter.requested = loop.counter.maxPackets)
    (room : loop.view.Room dataplane loop.counter.maxPackets)
    (fits : Fits dataplane loop input) (going : loop.place ≠ .stopped) :
    (loop.step dataplane input).view.toGo < loop.view.toGo := by
  have viewed := step_view sound.listed (by omega) input
  have connected := establish_view loop input.established
  have total : (loop.establish input.established).counter.requested =
      loop.counter.requested := congrArg BurstView.requested connected
  have limit := establish_maxPackets loop input.established
  have ends : (loop.establish input.established).passes input = none := by
    have stops := @Counter.limitReached_of_le input.now
      (loop.establish input.established).counter (by omega) (by omega)
      (by omega)
    simp only [passes, stops, if_true, ite_self]
  have left := fits.connected sound room
  rw [← reached] at left
  rw [viewed]
  exact @BurstView.advance_full dataplane _
    (loop.view.grow input.established.length) sound.inRange left
    (fun _ => ends) going

theorem start_sound {dataplane : Bool} {now : ℚ} {counter : Counter}
    {listIndexes : List Nat}
    (listed : Listed dataplane (start now counter listIndexes)) :
    Sound dataplane counter.maxPackets (start now counter listIndexes) :=
  { listed
    inRange := fun _ _ round => by cases round
    maxPackets := rfl }

section Runs

variable {dataplane : Bool} {now : ℚ} {counter : Counter}
  {listIndexes : List Nat} {inputs : Nat → BurstInput}
  (int : counter.maxPackets < 2 ^ 31)
  (listed : Listed dataplane (start now counter listIndexes))

include int listed

theorem within_of_fits
    (fits : ∀ n, Fits dataplane
      (states dataplane (start now counter listIndexes) inputs n) (inputs n))
    (n : Nat) :
    Within dataplane counter.maxPackets
      (states dataplane (start now counter listIndexes) inputs n) := by
  refine InputRun.always ?_ ?_ fits n
  · refine ⟨start_sound listed, ?_, trivial⟩
    change (counter.reset now).requested ≤ counter.maxPackets
    rw [Counter.requested_reset]
    exact Nat.zero_le _
  · intro loop input stepFits within
    exact stepFits.step int within

theorem sound_of_atMost
    (atMost : ∀ n, (states dataplane (start now counter listIndexes) inputs
      n).counter.requested ≤ counter.maxPackets) (n : Nat) :
    Sound dataplane counter.maxPackets
      (states dataplane (start now counter listIndexes) inputs n) := by
  refine @InputRun.always _ _ _ _ _ _
    (fun loop _ => loop.counter.requested ≤ counter.maxPackets)
    (start_sound listed) ?_ atMost n
  intro loop input within sound
  exact sound.step (by omega) input

theorem fits_of_atMost
    (atMost : ∀ n, (states dataplane (start now counter listIndexes) inputs
      n).counter.requested ≤ counter.maxPackets) (n : Nat) :
    Fits dataplane (states dataplane (start now counter listIndexes) inputs n)
      (inputs n) := by
  have sound := sound_of_atMost int listed atMost
  by_contra tooMuch
  -- from the next state on there is never room again
  refine @InputRun.not_forever
    (fun n => ¬(states dataplane (start now counter listIndexes) inputs
      n).view.Room dataplane counter.maxPackets)
    (fun n => (states dataplane (start now counter listIndexes) inputs
      n).view.rank counter.maxPackets) ?_ (n + 1) ?_
  · intro later noRoom
    exact step_noRoom int (sound later) (atMost later) (atMost (later + 1))
      noRoom
  · exact noRoom_of_not_fits int (sound n) (atMost n) (atMost (n + 1)) tooMuch

/-- A loop all of whose steps fit ends once it has reached the limit. -/
theorem stopped_of_fits (positive : 0 < counter.maxPackets)
    (fits : ∀ n, Fits dataplane
      (states dataplane (start now counter listIndexes) inputs n) (inputs n))
    {n : Nat}
    (full : ∀ later, n ≤ later →
      (states dataplane (start now counter listIndexes) inputs
        later).counter.requested = counter.maxPackets) :
    ∃ later, n ≤ later ∧
      (states dataplane (start now counter listIndexes) inputs later).place =
        .stopped := by
  by_contra never
  refine @InputRun.not_forever (fun later => n ≤ later)
    (fun n => (states dataplane (start now counter listIndexes) inputs
      n).view.toGo) ?_ n (Nat.le_refl n)
  intro later reached
  obtain ⟨sound, -, room⟩ := within_of_fits int listed fits later
  have limit := sound.maxPackets
  have going : (states dataplane (start now counter listIndexes) inputs
      later).place ≠ .stopped := fun stopped => never ⟨later, reached, stopped⟩
  refine ⟨by omega, ?_⟩
  rw [← limit] at room sound positive int
  exact (fits later).step_full positive int sound
    ((full later reached).trans limit.symm) room going

end Runs

/-- Whatever the loop finds on its way, the limit is kept exactly when every
iteration that starts fits below it. -/
theorem keepsLimit_iff {dataplane : Bool} {now : ℚ} {counter : Counter}
    {listIndexes : List Nat} (positive : 0 < counter.maxPackets)
    (int : counter.maxPackets < 2 ^ 31)
    (listed : Listed dataplane (start now counter listIndexes))
    (inputs : Nat → BurstInput) :
    KeepsLimit dataplane (start now counter listIndexes) inputs ↔
      ∀ n, Fits dataplane
        (states dataplane (start now counter listIndexes) inputs n)
        (inputs n) := by
  constructor
  · intro keeps
    exact fits_of_atMost int listed keeps.atMost
  · intro fits
    have within := within_of_fits int listed fits
    have grows : Monotone (fun n => (states dataplane
        (start now counter listIndexes) inputs n).counter.requested) := by
      apply monotone_nat_of_le_succ
      intro n
      obtain ⟨sound, atMost, -⟩ := within n
      exact requested_step sound.listed (by omega) (inputs n)
    constructor
    · intro n
      exact (within n).atMost
    · intro n reached
      have full : ∀ later, n ≤ later → (states dataplane
          (start now counter listIndexes) inputs later).counter.requested =
            counter.maxPackets := by
        intro later le
        have more := Nat.le_trans reached (grows le)
        exact Nat.le_antisymm (within later).atMost more
      refine ⟨?_, stopped_of_fits int listed positive fits full⟩
      intro later le
      rw [full later le, full n (Nat.le_refl n)]

/-- A counter with a limit, for one connection. -/
def oneConnection (maxPackets : Nat) : Counter :=
  { Counter.initial.connEstablished 7 with maxPackets }

/-- The same burst over and over again. -/
def steadyBurst (burstRate : Int) (_ : Nat) : BurstInput :=
  { established := []
    testcaseFinished := false
    now := 1
    burstRate
    bytes := 80
    msgType := 14 }

theorem oneConnection_listed (maxPackets : Nat) :
    Listed false (start 1 (oneConnection maxPackets) [0]) := by
  constructor
  · intro listIndex member
    rw [List.mem_singleton.mp member]
    exact Nat.one_pos
  · intro dataplane
    cases dataplane

theorem keepsLimit_iff_steadyBurst :
    KeepsLimit false (start 1 (oneConnection 5) [0]) (steadyBurst 1) ↔
      ∀ n, Fits false
        (states false (start 1 (oneConnection 5) [0]) (steadyBurst 1) n)
        (steadyBurst 1 n) :=
  keepsLimit_iff (by decide) (by decide) (oneConnection_listed 5) _

/-- A limit of one packet does not keep a burst of two from being sent. -/
theorem keepsLimit_burstOfTwo :
    ¬KeepsLimit false (start 1 (oneConnection 1) [0]) (steadyBurst 2) := by
  intro keeps
  exact absurd (keeps.atMost 6) (by decide)

end BurstLoop

end Perfbench
