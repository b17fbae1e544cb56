import Perfbench.Testcases.SwitchConns

/-!
# When the list indexes are consistent

A switch keeps the position at which it was appended to the list of a tenant.
The index of its connection is that of the last tenant it called, so the lists
of its other tenants must have it at the same position.
-/

namespace Perfbench

namespace SwitchConns

/-- The index that a thread is about to leave behind, once its switch is in
the list of the last listener. -/
def Written (reg : Registration) (state : SwitchConns) (s : Nat) :
    SwitchThread → Prop
  | .appending k => k = (reg.listeners s).length →
      ∀ t, (reg.listeners s).getLast? = some t →
        state.listIndex s = some (position reg state s t)
  | .writing k i => k + 1 = (reg.listeners s).length →
      ∀ t, (reg.listeners s).getLast? = some t →
        i = position reg state s t
  | .done => ∀ t, (reg.listeners s).getLast? = some t →
      state.listIndex s = some (position reg state s t)
  | _ => True

/-- A switch has one position in all the lists so far, and its index. -/
structure Placed (reg : Registration) (state : SwitchConns) (s : Nat) :
    Prop where
  same : ∀ k < appended reg s (state.threads s), ∀ first t,
    (reg.listeners s)[0]? = some first → (reg.listeners s)[k]? = some t →
      position reg state s t = position reg state s first
  written : Written reg state s (state.threads s)

theorem Sound.mem {reg : Registration} {state : SwitchConns} {s k t : Nat}
    (sound : Sound reg state) (inside : s < reg.switches)
    (below : k < appended reg s (state.threads s))
    (index : (reg.listeners s)[k]? = some t) :
    reg.swId s ∈ state.connIds t :=
  (sound.members t _).mpr ⟨s, inside, k, below, index, rfl⟩

theorem Moved.position {reg : Registration} {state next : SwitchConns}
    {s other t : Nat} (moved : Moved reg state s next)
    (member : reg.swId other ∈ state.connIds t) :
    SwitchConns.position reg next other t =
      SwitchConns.position reg state other t := by
  cases moved with
  | @append k u _ _ _ =>
      by_cases same : t = u
      · subst same
        simp only [SwitchConns.position, Function.update_self]
        exact List.idxOf_append_of_mem member
      · simp only [SwitchConns.position, Function.update_of_ne same]
  | _ => rfl

theorem Moved.others {reg : Registration} {state next : SwitchConns}
    {s other : Nat} (moved : Moved reg state s next) (different : other ≠ s) :
    next.threads other = state.threads other ∧
      next.listIndex other = state.listIndex other := by
  cases moved with
  | idle _ => exact ⟨rfl, rfl⟩
  | written _ _ =>
      exact ⟨Function.update_of_ne different _ _,
        Function.update_of_ne different _ _⟩
  | _ => exact ⟨Function.update_of_ne different _ _, rfl⟩

theorem getLast?_eq_getElem? {items : List Nat} {k : Nat}
    (last : k + 1 = items.length) : items.getLast? = items[k]? := by
  rw [List.getLast?_eq_getElem?, ← last, Nat.add_sub_cancel]

theorem Written.congr {reg : Registration} {state next : SwitchConns} {s : Nat}
    {thread : SwitchThread} (written : Written reg state s thread)
    (listIndex : next.listIndex s = state.listIndex s)
    (positions : ∀ k < appended reg s thread, ∀ t,
      (reg.listeners s)[k]? = some t →
        position reg next s t = position reg state s t) :
    Written reg next s thread := by
  have last : ∀ k t, k + 1 = (reg.listeners s).length →
      k < appended reg s thread → (reg.listeners s).getLast? = some t →
        position reg next s t = position reg state s t := by
    intro k t last below found
    rw [getLast?_eq_getElem? last] at found
    exact positions k below t found
  have nonempty : ∀ t, (reg.listeners s).getLast? = some t →
      0 < (reg.listeners s).length := by
    intro t found
    exact List.length_pos_of_mem (List.mem_of_getLast? found)
  cases thread with
  | appending k =>
      intro ended t found
      have some := nonempty t found
      rw [listIndex, last (k - 1) t (by omega)
        (by simp only [appended]; omega) found]
      exact written ended t found
  | writing k i =>
      intro ended t found
      rw [last k t ended (by simp only [appended]; omega) found]
      exact written ended t found
  | done =>
      intro t found
      have some := nonempty t found
      rw [listIndex, last ((reg.listeners s).length - 1) t (by omega)
        (by simp only [appended]; omega) found]
      exact written t found
  | _ => trivial

theorem Placed.congr {reg : Registration} {state next : SwitchConns} {s : Nat}
    (placed : Placed reg state s)
    (threads : next.threads s = state.threads s)
    (listIndex : next.listIndex s = state.listIndex s)
    (positions : ∀ k < appended reg s (state.threads s), ∀ t,
      (reg.listeners s)[k]? = some t →
        position reg next s t = position reg state s t) :
    Placed reg next s := by
  constructor
  · rw [threads]
    intro k below first t head index
    rw [positions k below t index, positions 0 (by omega) first head]
    exact placed.same k below first t head index
  · rw [threads]
    exact placed.written.congr listIndex positions

theorem placed_others {reg : Registration} {state next : SwitchConns}
    {s other : Nat} (sound : Sound reg state) (moved : Moved reg state s next)
    (inside : other < reg.switches) (different : other ≠ s) :
    Placed reg next other ↔ Placed reg state other := by
  obtain ⟨threads, listIndex⟩ := moved.others different
  have positions : ∀ k < appended reg other (state.threads other), ∀ t,
      (reg.listeners other)[k]? = some t →
        position reg next other t = position reg state other t :=
    fun k below t index => moved.position (sound.mem inside below index)
  constructor
  · intro placed
    refine placed.congr threads.symm listIndex.symm ?_
    intro k below t index
    rw [threads] at below
    exact (positions k below t index).symm
  · exact fun placed => placed.congr threads listIndex positions

/-- A list without repetition ends with an item exactly when the item is at
the last position. -/
theorem getLast?_iff_idxOf {items : List Nat} {item : Nat}
    (nodup : items.Nodup) (member : item ∈ items) :
    items.getLast? = some item ↔ items.length - 1 = items.idxOf item := by
  have inside := List.idxOf_lt_length_of_mem member
  rw [List.getLast?_eq_getElem?, ← List.getElem?_idxOf member,
    List.getElem?_inj (by omega) nodup]

theorem placed_append {reg : Registration} {state : SwitchConns} {s k t : Nat}
    (sound : Sound reg state) (inside : s < reg.switches)
    (before : state.threads s = .appending k)
    (index : (reg.listeners s)[k]? = some t) :
    Placed reg
        { state with
          connIds := Function.update state.connIds t
            (state.connIds t ++ [reg.swId s])
          threads := Function.update state.threads s (.reading k t) } s ↔
      Placed reg state s ∧ Orderly reg state s := by
  have moved := Moved.append inside before index
  have bound : k < (reg.listeners s).length :=
    (List.getElem?_eq_some_iff.mp index).1
  have kept : ∀ j < k, ∀ u, (reg.listeners s)[j]? = some u →
      position reg
        { state with
          connIds := Function.update state.connIds t
            (state.connIds t ++ [reg.swId s])
          threads := Function.update state.threads s (.reading k t) } s u =
        position reg state s u := by
    intro j below u found
    refine moved.position (sound.mem inside ?_ found)
    rw [before]
    exact below
  have here : position reg
      { state with
        connIds := Function.update state.connIds t
          (state.connIds t ++ [reg.swId s])
        threads := Function.update state.threads s (.reading k t) } s t =
      (state.connIds t).length := by
    simp only [position, Function.update_self]
    rw [List.idxOf_append, if_neg (sound.notMem before index)]
    simp
  have writtenBefore : Written reg state s (state.threads s) := by
    rw [before]
    intro ended
    omega
  constructor
  · intro placed
    refine ⟨⟨?_, writtenBefore⟩, ?_⟩
    · rw [before]
      intro j below first u head found
      have same := placed.same j
        (by simp only [Function.update_self, appended] at below ⊢; omega)
        first u head found
      have positive : 0 < k := by
        simp only [appended] at below
        omega
      rwa [kept j below u found, kept 0 positive first head] at same
    · simp only [Orderly, before, OrderlyAt]
      intro later first head u found
      rw [Option.mem_def, index, Option.some.injEq] at found
      subst found
      have same := placed.same k (by simp [appended]) first t head index
      rwa [here, kept 0 later first head] at same
  · rintro ⟨placed, orderly⟩
    refine ⟨?_, by simp [Written]⟩
    intro j below first u head found
    simp only [Function.update_self, appended] at below
    rcases Nat.lt_or_eq_of_le (Nat.le_of_lt_succ below) with lower | rfl
    · rw [kept j lower u found, kept 0 (by omega) first head]
      exact placed.same j (by rw [before]; exact lower) first u head found
    · rw [index, Option.some.injEq] at found
      subst found
      rcases Nat.eq_zero_or_pos j with rfl | later
      · rw [index, Option.some.injEq] at head
        rw [head]
      · simp only [Orderly, before, OrderlyAt] at orderly
        rw [here, kept 0 later first head]
        exact orderly later first head t index

theorem placed_thread {reg : Registration} {state next : SwitchConns} {s : Nat}
    {thread : SwitchThread} (connIds : next.connIds = state.connIds)
    (threads : next.threads s = thread)
    (appendedSame :
      appended reg s thread = appended reg s (state.threads s))
    (written : Written reg next s thread ↔
      Written reg state s (state.threads s) ∧ Orderly reg state s) :
    Placed reg next s ↔ Placed reg state s ∧ Orderly reg state s := by
  have positions : ∀ t, position reg next s t = position reg state s t := by
    intro t
    rw [position, connIds, position]
  constructor
  · rintro ⟨same, nextWritten⟩
    rw [threads] at same nextWritten
    obtain ⟨stateWritten, orderly⟩ := written.mp nextWritten
    refine ⟨⟨?_, stateWritten⟩, orderly⟩
    intro k below first t head index
    rw [← appendedSame] at below
    simpa only [positions] using same k below first t head index
  · rintro ⟨⟨same, stateWritten⟩, orderly⟩
    constructor
    · intro k below first t head index
      rw [threads, appendedSame] at below
      simpa only [positions] using same k below first t head index
    · rw [threads]
      exact written.mpr ⟨stateWritten, orderly⟩

theorem placed_read {reg : Registration} {state : SwitchConns} {s k t : Nat}
    (sound : Sound reg state) (inside : s < reg.switches)
    (before : state.threads s = .reading k t) :
    Placed reg
        { state with
          threads := Function.update state.threads s
            (.writing k ((state.connIds t).length - 1)) } s ↔
      Placed reg state s ∧ Orderly reg state s := by
  have index := sound.indexed s inside
  rw [before] at index
  have member : reg.swId s ∈ state.connIds t :=
    sound.mem inside (by rw [before]; exact Nat.lt_succ_self k) index
  have last := getLast?_iff_idxOf (sound.nodup t) member
  refine @placed_thread reg state _ s
    (.writing k ((state.connIds t).length - 1)) rfl
    (Function.update_self _ _ _) (by rw [before]; rfl) ?_
  rw [before, Orderly, before]
  constructor
  · intro written
    refine ⟨trivial, ?_⟩
    intro ended
    exact last.mpr (written ended t ((getLast?_eq_getElem? ended).trans index))
  · rintro ⟨_, orderly⟩ ended u found
    rw [getLast?_eq_getElem? ended, index, Option.some.injEq] at found
    subst found
    exact last.mp (orderly ended)

/-- A switch stays placed in its orderly steps, and is placed by no other. -/
theorem placed_move {reg : Registration} {state next : SwitchConns} {s : Nat}
    (small : Small reg) (sound : Sound reg state) (inside : s < reg.switches)
    (moved : Moved reg state s next) :
    Placed reg next s ↔ Placed reg state s ∧ Orderly reg state s := by
  cases moved with
  | idle still => simp [Orderly, OrderlyAt, still inside]
  | event _ before =>
      refine @placed_thread reg state _ s (.appending 0) rfl
        (Function.update_self _ _ _) (by rw [before]; rfl) ?_
      rw [before, Orderly, before]
      refine iff_of_true ?_ ⟨trivial, trivial⟩
      intro none t found
      rw [List.eq_nil_of_length_eq_zero none.symm] at found
      cases found
  | @finished k _ before index =>
      have bound := sound.indexed s inside
      rw [before] at bound
      have ended : k = (reg.listeners s).length :=
        Nat.le_antisymm bound (List.getElem?_eq_none_iff.mp index)
      refine @placed_thread reg state _ s .done rfl
        (Function.update_self _ _ _) (by rw [before]; exact ended.symm) ?_
      rw [before, Orderly, before]
      constructor
      · intro written
        refine ⟨fun _ => written, ?_⟩
        intro _ first _ t found
        rw [Option.mem_def, index] at found
        cases found
      · exact fun written => written.1 ended
  | append _ before index => exact placed_append sound inside before index
  | read _ before => exact placed_read sound inside before
  | @written k i _ before =>
      have bound := sound.indexed s inside
      rw [before] at bound
      rw [ByteLoop.next_eq (small s inside) bound]
      refine @placed_thread reg state _ s (.appending (k + 1)) rfl
        (Function.update_self _ _ _) (by rw [before]; rfl) ?_
      rw [before, Orderly, before]
      constructor
      · intro written
        refine ⟨?_, trivial⟩
        intro ended t found
        have index := written ended t found
        simp only [Function.update_self, Option.some.injEq] at index
        exact index
      · rintro ⟨written, _⟩ ended t found
        have index : i = position reg state s t := written ended t found
        exact (Function.update_self _ _ _).trans (congrArg some index)

theorem orderlyRun_iff {reg : Registration} (small : Small reg)
    (steps : List Nat) :
    OrderlyRun reg steps ↔
      ∀ s < reg.switches, Placed reg (run reg steps) s := by
  induction steps using List.reverseRecOn with
  | nil =>
      refine iff_of_true History.admissible_nil ?_
      intro s _
      exact ⟨fun k below => absurd below (Nat.not_lt_zero k), trivial⟩
  | append_singleton past s induction =>
      have sound := sound_run small past
      have moved := step_moved reg (run reg past) s
      rw [OrderlyRun, History.admissible_snoc, ← OrderlyRun, induction,
        run_snoc]
      constructor
      · rintro ⟨placed, orderly⟩ other otherInside
        by_cases same : other = s
        · subst same
          exact (placed_move small sound otherInside moved).mpr
            ⟨placed other otherInside, orderly otherInside⟩
        · exact (placed_others sound moved otherInside same).mpr
            (placed other otherInside)
      · intro placed
        refine ⟨?_, ?_⟩
        · intro other otherInside
          by_cases same : other = s
          · subst same
            exact ((placed_move small sound otherInside moved).mp
              (placed other otherInside)).1
          · exact (placed_others sound moved otherInside same).mp
              (placed other otherInside)
        · exact fun inside =>
            ((placed_move small sound inside moved).mp (placed s inside)).2

theorem unending {reg : Registration} {s : Nat}
    (large : 256 ≤ (reg.listeners s).length) (steps : List Nat) :
    (run reg steps).threads s ≠ .done ∧
      ∀ k, (run reg steps).threads s = .appending k → k < 256 := by
  induction steps using List.reverseRecOn with
  | nil =>
      refine ⟨by simp [run, start], ?_⟩
      intro k equal
      cases equal
  | append_singleton past other induction =>
      obtain ⟨notDone, below⟩ := induction
      have moved := step_moved reg (run reg past) other
      rw [run_snoc]
      by_cases same : s = other
      · subst same
        generalize step reg (run reg past) s = next at moved
        cases moved with
        | idle _ => exact ⟨notDone, below⟩
        | event _ _ => simp
        | @finished k _ before index =>
            have inside := below k before
            rw [List.getElem?_eq_none_iff] at index
            omega
        | append _ _ _ => simp
        | read _ _ => simp
        | written _ _ =>
            refine ⟨by simp, ?_⟩
            intro k equal
            simp only [Function.update_self, SwitchThread.appending.injEq]
              at equal
            rw [← equal]
            exact ByteLoop.next_lt _
      · rw [(moved.others same).1]
        exact ⟨notDone, below⟩

theorem small_of_handled {reg : Registration} {steps : List Nat}
    (handled : Handled reg (run reg steps)) : Small reg := by
  intro s inside
  apply Nat.lt_of_not_le
  intro large
  exact (unending large steps).1 (handled s inside)

theorem placed_iff_points {reg : Registration} {state : SwitchConns} {s : Nat}
    (sound : Sound reg state) (inside : s < reg.switches)
    (done : state.threads s = .done) :
    Placed reg state s ↔ ∀ t ∈ reg.listeners s,
      ∃ i, state.listIndex s = some i ∧
        (state.connIds t)[i]? = some (reg.swId s) := by
  have member : ∀ t ∈ reg.listeners s, reg.swId s ∈ state.connIds t := by
    intro t registered
    obtain ⟨k, bound, rfl⟩ := List.mem_iff_getElem.mp registered
    exact sound.mem inside (by rw [done]; exact bound)
      (List.getElem?_eq_getElem bound)
  have found : ∀ t ∈ reg.listeners s,
      (state.connIds t)[position reg state s t]? = some (reg.swId s) :=
    fun t registered => List.getElem?_idxOf (member t registered)
  constructor
  · rintro ⟨same, written⟩ t registered
    rw [done] at same written
    obtain ⟨k, bound, rfl⟩ := List.mem_iff_getElem.mp registered
    have some : 0 < (reg.listeners s).length := by omega
    have last : (reg.listeners s).getLast? =
        (reg.listeners s)[(reg.listeners s).length - 1]? :=
      List.getLast?_eq_getElem?
    rw [List.getElem?_eq_getElem (by omega)] at last
    have first := List.getElem?_eq_getElem some
    have sameLast := same ((reg.listeners s).length - 1)
      (by simp only [appended]; omega) _ _ first
      (List.getElem?_eq_getElem (by omega))
    have sameHere := same k bound _ _ first (List.getElem?_eq_getElem bound)
    refine ⟨_, written _ last, ?_⟩
    rw [sameLast, ← sameHere]
    exact found _ registered
  · intro points
    have positions : ∀ t ∈ reg.listeners s,
        state.listIndex s = some (position reg state s t) := by
      intro t registered
      obtain ⟨i, index, here⟩ := points t registered
      have bound := (List.getElem?_eq_some_iff.mp here).1
      have equal : i = position reg state s t :=
        (List.getElem?_inj bound (sound.nodup t)).mp
          (here.trans (found t registered).symm)
      rw [index, equal]
    constructor
    · intro k _ first t head index
      have atFirst := positions first (List.mem_of_getElem? head)
      rw [positions t (List.mem_of_getElem? index), Option.some.injEq]
        at atFirst
      exact atFirst
    · rw [done]
      exact fun t last => positions t (List.mem_of_getLast? last)

/-- Once all the events are handled, the list indexes are consistent exactly
when the steps were orderly. -/
theorem consistent_iff {reg : Registration} {steps : List Nat}
    (handled : Handled reg (run reg steps)) :
    Consistent reg (run reg steps) ↔ OrderlyRun reg steps := by
  have small := small_of_handled handled
  have sound := sound_run small steps
  rw [orderlyRun_iff small]
  constructor
  · intro consistent s inside
    exact (placed_iff_points sound inside (handled s inside)).mpr
      (consistent.points s inside)
  · intro placed
    have points : ∀ s < reg.switches, ∀ t ∈ reg.listeners s,
        ∃ i, (run reg steps).listIndex s = some i ∧
          ((run reg steps).connIds t)[i]? = some (reg.swId s) :=
      fun s inside => (placed_iff_points sound inside (handled s inside)).mp
        (placed s inside)
    refine ⟨points, ?_⟩
    intro s inside other otherInside different t registered otherRegistered same
    obtain ⟨i, index, found⟩ := points s inside t registered
    obtain ⟨j, otherIndex, otherFound⟩ :=
      points other otherInside t otherRegistered
    rw [index, otherIndex, Option.some.injEq] at same
    rw [same, otherFound, Option.some.injEq] at found
    exact different
      (reg.distinct t s other registered otherRegistered found.symm)

/-- The steps of a switch with that many listeners. -/
def wholeEvent (listeners s : Nat) : List Nat :=
  List.replicate (3 * listeners + 2) s

/-- Two switches one after the other, with two tenants. -/
theorem consistent_iff_inTurn :
    Consistent (packetInSandwichSingle 2 2)
      (run (packetInSandwichSingle 2 2) (wholeEvent 2 0 ++ wholeEvent 2 1)) :=
  (consistent_iff (by decide +kernel)).mpr (by decide +kernel)

/-- Both switches are in the list before either reads its size. -/
def overlapping : List Nat :=
  [0, 0, 1, 1] ++ List.replicate 3 0 ++ List.replicate 3 1

theorem consistent_overlapping :
    Handled (packetInSandwichSingle 1 2)
        (run (packetInSandwichSingle 1 2) overlapping) ∧
      (run (packetInSandwichSingle 1 2) overlapping).listIndex 0 = some 1 ∧
      (run (packetInSandwichSingle 1 2) overlapping).listIndex 1 = some 1 ∧
      ¬Consistent (packetInSandwichSingle 1 2)
        (run (packetInSandwichSingle 1 2) overlapping) := by
  have zero : (run (packetInSandwichSingle 1 2) overlapping).listIndex 0 =
      some 1 := by
    decide
  have one : (run (packetInSandwichSingle 1 2) overlapping).listIndex 1 =
      some 1 := by
    decide
  refine ⟨by decide, zero, one, ?_⟩
  intro consistent
  exact consistent.differ 0 (by decide) 1 (by decide) (by decide) 0
    (by decide) (by decide) (zero.trans one.symm)

end SwitchConns

end Perfbench
