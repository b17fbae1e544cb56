import Mathlib.Algebra.BigOperators.Group.List.Basic
import Mathlib.Data.List.GetD
import Perfbench.Library.History
import Perfbench.Library.ReadReset
import Perfbench.Reporter

/-!
# The sums of the interval log

Each counter of a tenant is read for the log and reset afterwards, in two
loops over all the tenants.  Between two reports, the log and a counter add up
to what was counted exactly when nothing was counted on it between its reading
and its reset, no interval exceeds an `int`, and the responses of the interval
were zero when the counter was reset at the start.
-/

namespace Perfbench

namespace Reporter

/-- What the interval log has a column for and the counter counts. -/
inductive Quantity where
  | requests
  | responses

namespace Quantity

def value : Quantity → Counter → Int
  | .requests => Counter.intervalRequests
  | .responses => Counter.intervalResponses

def column : Quantity → Line → List Int
  | .requests => Line.requests
  | .responses => Line.responses

def counted : Quantity → Reporter → Nat → Nat
  | .requests => requestsCounted
  | .responses => responsesAccepted

end Quantity

/-- The value of tenant `t` in a line. -/
def entry (quantity : Quantity) (t : Nat) (line : Line) : Int :=
  (quantity.column line).getD t 0

def logged (quantity : Quantity) (state : Reporter) (t : Nat) : Int :=
  (state.filestream.map (entry quantity t)).sum

def valueAt (quantity : Quantity) (state : Reporter) (t : Nat) : Int :=
  (state.counters[t]?.map quantity.value).getD 0

/-- The log and the counters hold what was counted. -/
def Conserved (state : Reporter) : Prop :=
  ∀ t < state.counters.length, ∀ quantity : Quantity,
    logged quantity state t + valueAt quantity state t =
      quantity.counted state t

/-- No report is under way. -/
def BetweenReports (state : Reporter) : Prop :=
  state.loop = .sleeping ∨ state.loop = .ended

/-- Between two reports everything that was counted since the reset is in the
log or in the counters. -/
def ConservedRun (now : ℚ) (counters : List Counter) (steps : List Step) :
    Prop :=
  ∀ first second, steps = first ++ second →
    BetweenReports (run now counters first) → Conserved (run now counters first)

/-- Whether the counter of `t` was read in this report and is not yet reset. -/
def ReportLoop.hasRead (t : Nat) : ReportLoop → Bool
  | .reading i => t < i
  | .resetting i => i ≤ t
  | _ => false

/-- Whether a step counts for a tenant. -/
def counts (state : Reporter) (t : Nat) : Quantity → Step → Bool
  | .requests, .countRequest u _ _ => u = t
  | .responses, .countResponse u pastEnd msg connIndex =>
      u = t ∧ state.accepts t pastEnd msg connIndex
  | _, _ => false

/-- What is counted is not between the reading of its counter and its reset,
and its interval fits an `int`. -/
def Undisturbed (state : Reporter) (step : Step) : Prop :=
  ∀ t < state.counters.length, ∀ quantity : Quantity,
    counts state t quantity step = true →
      ReportLoop.hasRead t state.loop = false ∧
        valueAt quantity state t + 1 < 2 ^ 31

/-- No response was counted before the reset, and up to the end of the last
report whatever is counted is undisturbed. -/
structure UndisturbedRun (now : ℚ) (counters : List Counter)
    (steps : List Step) : Prop where
  start : ∀ counter ∈ counters, counter.intervalResponses = 0
  steps : ∀ first second, steps = first ++ second →
    BetweenReports (run now counters first) →
    History.Admissible
      (fun past step => Undisturbed (run now counters past) step) first

/-- What the open report has read of tenant `t`. -/
def opened (quantity : Quantity) (state : Reporter) (t : Nat) : Int :=
  match state.loop with
  | .reading i => if t < i then entry quantity t state.line else 0
  | _ => 0

/-- The count of a quantity of a tenant, as a count that is read and reset. -/
def register (quantity : Quantity) (state : Reporter) (t : Nat) : ReadReset :=
  { value := valueAt quantity state t
    isRead := ReportLoop.hasRead t state.loop
    reported := logged quantity state t + opened quantity state t
    counted := quantity.counted state t }

theorem value_newInterval (quantity : Quantity) (now : ℚ) (counter : Counter) :
    quantity.value (counter.newInterval now) = 0 := by
  cases quantity <;> rfl

theorem value_countRequest (msg : Message) (connIndex : Nat)
    (counter : Counter) :
    Quantity.value .requests (counter.countRequest msg connIndex) =
        int32 (Quantity.value .requests counter + 1) ∧
      Quantity.value .responses (counter.countRequest msg connIndex) =
        Quantity.value .responses counter :=
  ⟨rfl, rfl⟩

theorem value_countResponse (pastEnd : PastEnd) (msg : Message)
    (connIndex : Nat) (counter : Counter) :
    Quantity.value .responses (counter.countResponse pastEnd msg connIndex) =
        (if counter.accepts pastEnd msg connIndex then
          int32 (Quantity.value .responses counter + 1)
        else Quantity.value .responses counter) ∧
      Quantity.value .requests (counter.countResponse pastEnd msg connIndex) =
        Quantity.value .requests counter := by
  unfold Counter.countResponse Counter.accepts
  cases present : counter.conns[connIndex]? with
  | none => exact ⟨rfl, rfl⟩
  | some tables =>
      cases found : (tables.matchResponse pastEnd msg.xid).index with
      | none => simp [found]
      | some index => simp [found, Quantity.value]

theorem entry_append {quantity : Quantity} {line : Line} {t : Nat}
    (counter : Counter) (inside : t < (quantity.column line).length) :
    entry quantity t (line.append counter) = entry quantity t line := by
  cases quantity <;>
    exact List.getD_append _ _ _ _ inside

theorem entry_append_last {quantity : Quantity} {line : Line}
    (counter : Counter) :
    entry quantity (quantity.column line).length (line.append counter) =
      quantity.value counter := by
  cases quantity <;>
    simp [entry, Quantity.column, Quantity.value, Line.append]

theorem column_append_length (quantity : Quantity) (line : Line)
    (counter : Counter) :
    (quantity.column (line.append counter)).length =
      (quantity.column line).length + 1 := by
  cases quantity <;> simp [Quantity.column, Line.append]

theorem valueAt_modify (quantity : Quantity) (state next : Reporter) (u t : Nat)
    (update : Counter → Counter)
    (counters : next.counters = state.counters.modify u update) :
    valueAt quantity next t =
      if u = t then
        (state.counters[t]?.map (fun counter =>
          quantity.value (update counter))).getD 0
      else valueAt quantity state t := by
  unfold valueAt
  rw [counters, List.getElem?_modify]
  split
  · cases state.counters[t]? <;> simp [*]
  · cases state.counters[t]? <;> simp [*]

/-- Everything that a step of the reporter's thread can do. -/
inductive Reported (now : ℚ) (state : Reporter) : Reporter → Prop where
  | ended (between : BetweenReports state) :
      Reported now state { state with loop := .ended }
  | opened (sleeping : state.loop = .sleeping) :
      Reported now state { state with loop := .reading 0, line := .empty }
  | read {i : Nat} {counter : Counter} (reading : state.loop = .reading i)
      (present : state.counters[i]? = some counter) :
      Reported now state
        { state with
          loop := .reading (ByteLoop.next i)
          line := state.line.append counter }
  | written {i : Nat} (reading : state.loop = .reading i)
      (index : state.counters.length ≤ i) :
      Reported now state
        { state with
          loop := .resetting 0
          filestream := state.filestream ++ [state.line] }
  | reset {i : Nat} (resetting : state.loop = .resetting i)
      (index : i < state.counters.length) :
      Reported now state
        { state with
          counters := state.counters.modify i (Counter.newInterval now)
          loop := .resetting (ByteLoop.next i) }
  | closed {i : Nat} (resetting : state.loop = .resetting i)
      (index : state.counters.length ≤ i) :
      Reported now state { state with loop := .sleeping }

theorem reportLoop_reported (now : ℚ) (state : Reporter) :
    Reported now state (reportLoop now state) := by
  cases loop : state.loop with
  | sleeping =>
      simp only [reportLoop, loop]
      split
      · exact .ended (.inl loop)
      · exact .opened loop
  | reading i =>
      cases present : state.counters[i]? with
      | some counter =>
          simp only [reportLoop, loop, present]
          exact .read loop present
      | none =>
          simp only [reportLoop, loop, present]
          exact .written loop (List.getElem?_eq_none_iff.mp present)
  | resetting i =>
      simp only [reportLoop, loop]
      split
      · rename_i index
        exact .reset loop index
      · rename_i index
        exact .closed loop (Nat.le_of_not_lt index)
  | ended =>
      have same : reportLoop now state = { state with loop := .ended } := by
        simp only [reportLoop, loop]
        rw [← loop]
      rw [same]
      exact .ended (.inr loop)

theorem Reported.length {now : ℚ} {state next : Reporter}
    (reported : Reported now state next) :
    next.counters.length = state.counters.length := by
  cases reported with
  | reset _ _ => simp
  | _ => rfl

theorem step_length (state : Reporter) (next : Step) :
    (step state next).counters.length = state.counters.length := by
  cases next with
  | countRequest t msg connIndex => simp [step]
  | countResponse t pastEnd msg connIndex => simp [step]
  | report now => exact (reportLoop_reported now state).length
  | finish => rfl

theorem run_length (now : ℚ) (counters : List Counter) (steps : List Step) :
    (run now counters steps).counters.length = counters.length := by
  induction steps using List.reverseRecOn with
  | nil => simp [run, start]
  | append_singleton past next induction =>
      rw [run_snoc, step_length, induction]

/-- A message that is counted is counted in the register of its tenant. -/
theorem register_message {quantity : Quantity} {state : Reporter} {t : Nat}
    (inside : t < state.counters.length) (next : Step)
    (message : ∀ now, next ≠ .report now) :
    register quantity (step state next) t =
      if counts state t quantity next then
        (register quantity state t).count int32
      else register quantity state t := by
  obtain ⟨counter, present⟩ : ∃ counter, state.counters[t]? = some counter :=
    ⟨_, List.getElem?_eq_getElem inside⟩
  cases next with
  | report now => exact absurd rfl (message now)
  | finish => cases quantity <;> rfl
  | countRequest u msg connIndex =>
      have value := @valueAt_modify quantity state
        (step state (.countRequest u msg connIndex)) u t
        (Counter.countRequest msg connIndex) rfl
      by_cases same : u = t
      · subst same
        cases quantity <;>
          simp_all [register, counts, ReadReset.count, step, logged, opened,
            Quantity.counted, valueAt, value_countRequest]
      · cases quantity <;>
          simp_all [register, counts, step, logged, opened, Quantity.counted,
            Ne.symm same]
  | countResponse u pastEnd msg connIndex =>
      have value := @valueAt_modify quantity state
        (step state (.countResponse u pastEnd msg connIndex)) u t
        (Counter.countResponse pastEnd msg connIndex) rfl
      by_cases same : u = t
      · subst same
        cases accepted : counter.accepts pastEnd msg connIndex <;>
          cases quantity <;>
            simp_all [register, counts, ReadReset.count, step, logged, opened,
              Quantity.counted, valueAt, value_countResponse, accepts]
      · cases quantity <;>
          simp_all [register, counts, step, logged, opened, Quantity.counted,
            Ne.symm same]

/-- The line has as many columns as counters were read, where the index does
not wrap. -/
def LineFilled (state : Reporter) : Prop :=
  state.counters.length < 256 → ∀ i, state.loop = .reading i →
    ∀ quantity : Quantity, (quantity.column state.line).length = i

theorem LineFilled.report {now : ℚ} {state next : Reporter}
    (filled : LineFilled state) (reported : Reported now state next) :
    LineFilled next := by
  intro small
  rw [reported.length] at small
  cases reported with
  | ended _ =>
      intro i loop
      cases loop
  | opened _ =>
      intro i loop quantity
      cases loop
      cases quantity <;> rfl
  | @read j counter reading present =>
      intro i loop quantity
      have inside := (List.getElem?_eq_some_iff.mp present).1
      rw [ByteLoop.next_eq small inside] at loop
      cases loop
      rw [column_append_length, filled small j reading quantity]
  | written _ _ =>
      intro i loop
      cases loop
  | reset _ _ =>
      intro i loop
      cases loop
  | closed _ _ =>
      intro i loop
      cases loop

theorem LineFilled.step {state : Reporter} (filled : LineFilled state)
    (next : Step) : LineFilled (Reporter.step state next) := by
  cases next with
  | report now => exact filled.report (reportLoop_reported now state)
  | finish => exact filled
  | countRequest t msg connIndex =>
      simpa [LineFilled, Reporter.step] using filled
  | countResponse t pastEnd msg connIndex =>
      simpa [LineFilled, Reporter.step] using filled

theorem register_read {quantity : Quantity} {state : Reporter} {i t : Nat}
    {counter : Counter} (reading : state.loop = .reading i)
    (present : state.counters[i]? = some counter)
    (length : (quantity.column state.line).length = i) :
    register quantity
        { state with
          loop := .reading (i + 1)
          line := state.line.append counter } t =
      if t = i then (register quantity state t).read
      else register quantity state t := by
  split
  · rename_i here
    subst here
    have entered := @entry_append_last quantity state.line counter
    rw [length] at entered
    cases quantity <;>
      simp [register, ReadReset.read, opened, reading, ReportLoop.hasRead,
        valueAt, present, logged, Quantity.counted, entered]
  · rename_i other
    have sameSide : t < i + 1 ↔ t < i := by omega
    by_cases before : t < i
    · have entered := @entry_append quantity state.line t counter (by omega)
      cases quantity <;>
        simp [register, opened, reading, ReportLoop.hasRead, valueAt, logged,
          Quantity.counted, entered, sameSide, before]
    · cases quantity <;>
        simp [register, opened, reading, ReportLoop.hasRead, valueAt, logged,
          Quantity.counted, sameSide, before]

theorem register_reset {quantity : Quantity} {state : Reporter} {i t : Nat}
    {now : ℚ} (resetting : state.loop = .resetting i)
    (inside : t < state.counters.length) :
    register quantity
        { state with
          counters := state.counters.modify i (Counter.newInterval now)
          loop := .resetting (i + 1) } t =
      if t = i then (register quantity state t).reset
      else register quantity state t := by
  have value := @valueAt_modify quantity state
    { state with
      counters := state.counters.modify i (Counter.newInterval now)
      loop := .resetting (i + 1) } i t (Counter.newInterval now) rfl
  split
  · rename_i here
    subst here
    rw [if_pos rfl, List.getElem?_eq_getElem inside, Option.map_some,
      Option.getD_some, value_newInterval] at value
    cases quantity <;>
      simp [register, ReadReset.reset, opened, resetting, ReportLoop.hasRead,
        value, logged, Quantity.counted]
  · rename_i other
    have sameSide : i + 1 ≤ t ↔ i ≤ t := by omega
    rw [if_neg (Ne.symm other)] at value
    cases quantity <;>
      simp [register, opened, resetting, ReportLoop.hasRead, value, logged,
        Quantity.counted, sameSide]

/-- A step of the reporter reads the count of a tenant, resets it, or leaves
it alone. -/
theorem register_report {now : ℚ} {state next : Reporter}
    (reported : Reported now state next) (filled : LineFilled state)
    (steady : state.counters.length < 256 ∨ BetweenReports state)
    (quantity : Quantity) {t : Nat} (inside : t < state.counters.length) :
    register quantity next t = register quantity state t ∨
      (register quantity state t).isRead = false ∧
        register quantity next t = (register quantity state t).read ∨
      (register quantity state t).isRead = true ∧
        register quantity next t = (register quantity state t).reset := by
  cases reported with
  | ended between =>
      refine .inl ?_
      rcases between with loop | loop <;>
        simp only [register, opened, loop] <;> cases quantity <;> rfl
  | opened sleeping =>
      refine .inl ?_
      simp only [register, opened, sleeping, Nat.not_lt_zero, if_false,
        ReportLoop.hasRead, decide_false]
      cases quantity <;> rfl
  | @read i counter reading present =>
      have small := steady.resolve_right (by simp [BetweenReports, reading])
      have index := (List.getElem?_eq_some_iff.mp present).1
      have register := @register_read quantity state i t counter reading
        present (filled small i reading quantity)
      rw [ByteLoop.next_eq small index, register]
      split
      · rename_i here
        refine .inr (.inl ⟨?_, rfl⟩)
        simp [Reporter.register, reading, here, ReportLoop.hasRead]
      · exact .inl rfl
  | @written i reading index =>
      refine .inl ?_
      have before : t < i := by omega
      cases quantity <;>
        simp [register, opened, reading, ReportLoop.hasRead, valueAt, logged,
          Quantity.counted, before]
  | @reset i resetting index =>
      have small := steady.resolve_right (by simp [BetweenReports, resetting])
      have register := @register_reset quantity state i t now resetting inside
      rw [ByteLoop.next_eq small index, register]
      split
      · rename_i here
        refine .inr (.inr ⟨?_, rfl⟩)
        simp [Reporter.register, resetting, here, ReportLoop.hasRead]
      · exact .inl rfl
  | @closed i resetting index =>
      refine .inl ?_
      have after : ¬i ≤ t := by omega
      cases quantity <;>
        simp [register, opened, resetting, ReportLoop.hasRead, valueAt, logged,
          Quantity.counted, after]

theorem missing_report {now : ℚ} {state next : Reporter}
    (reported : Reported now state next) (filled : LineFilled state)
    (steady : state.counters.length < 256 ∨ BetweenReports state)
    (quantity : Quantity) {t : Nat} (inside : t < state.counters.length) :
    (register quantity next t).missing =
      (register quantity state t).missing := by
  rcases register_report reported filled steady quantity inside with
    same | ⟨unread, read⟩ | ⟨isRead, reset⟩
  · rw [same]
  · rw [read, ReadReset.missing_read unread]
  · rw [reset, ReadReset.missing_reset isRead]

/-- The values of the interval are those of an `int`. -/
def InRange (state : Reporter) : Prop :=
  ∀ (quantity : Quantity) (t : Nat),
    -2 ^ 31 ≤ valueAt quantity state t ∧ valueAt quantity state t < 2 ^ 31

theorem valueAt_report {now : ℚ} {state next : Reporter}
    (reported : Reported now state next) (quantity : Quantity) (t : Nat) :
    valueAt quantity next t = valueAt quantity state t ∨
      valueAt quantity next t = 0 := by
  cases reported with
  | @reset i _ _ =>
      have value := @valueAt_modify quantity state
        { state with
          counters := state.counters.modify i (Counter.newInterval now)
          loop := .resetting (ByteLoop.next i) } i t
        (Counter.newInterval now) rfl
      by_cases here : i = t
      · rw [if_pos here] at value
        cases present : state.counters[t]? with
        | none =>
            rw [present] at value
            exact .inr value
        | some counter =>
            rw [present, Option.map_some, Option.getD_some,
              value_newInterval] at value
            exact .inr value
      · rw [if_neg here] at value
        exact .inl value
  | _ => exact .inl rfl

theorem valueAt_message {quantity : Quantity} {state : Reporter} {t : Nat}
    (inside : t < state.counters.length) (next : Step)
    (message : ∀ now, next ≠ .report now) :
    valueAt quantity (step state next) t =
      if counts state t quantity next then
        int32 (valueAt quantity state t + 1)
      else valueAt quantity state t := by
  have value := congrArg ReadReset.value
    (@register_message quantity state t inside next message)
  rw [apply_ite ReadReset.value] at value
  exact value

theorem valueAt_outside {quantity : Quantity} {state : Reporter} {t : Nat}
    (outside : state.counters.length ≤ t) : valueAt quantity state t = 0 := by
  rw [valueAt, List.getElem?_eq_none_iff.mpr outside]
  rfl

theorem InRange.step {state : Reporter} (inRange : InRange state)
    (next : Step) : InRange (Reporter.step state next) := by
  intro quantity t
  rcases Nat.lt_or_ge t state.counters.length with inside | outside
  · by_cases report : ∃ now, next = .report now
    · obtain ⟨now, rfl⟩ := report
      rcases valueAt_report (reportLoop_reported now state) quantity t with
        same | zero
      · rw [Reporter.step, same]
        exact inRange quantity t
      · rw [Reporter.step, zero]
        decide
    · rw [valueAt_message inside next (fun now equal => report ⟨now, equal⟩)]
      split
      · exact int32_bounds _
      · exact inRange quantity t
  · rw [valueAt_outside (by rw [step_length]; exact outside)]
    decide

theorem inRange_run {now : ℚ} {counters : List Counter}
    (zero : ∀ counter ∈ counters, counter.intervalResponses = 0)
    (steps : List Step) : InRange (run now counters steps) := by
  induction steps using List.reverseRecOn with
  | nil =>
      intro quantity t
      have none : valueAt quantity (run now counters []) t = 0 := by
        cases present : counters[t]? with
        | none => simp [valueAt, run, start, present]
        | some counter =>
            have responses := zero counter (List.mem_of_getElem? present)
            cases quantity <;>
              simp [valueAt, run, start, present, Quantity.value,
                Counter.reset, responses]
      rw [none]
      decide
  | append_singleton past next induction =>
      rw [run_snoc]
      exact induction.step next

theorem lineFilled_run (now : ℚ) (counters : List Counter)
    (steps : List Step) : LineFilled (run now counters steps) := by
  induction steps using List.reverseRecOn with
  | nil =>
      intro _ i loop
      cases loop
  | append_singleton past next induction =>
      rw [run_snoc]
      exact induction.step next

theorem missing_step {state : Reporter} (filled : LineFilled state)
    (steady : state.counters.length < 256 ∨ BetweenReports state) (next : Step)
    (quantity : Quantity) {t : Nat} (inside : t < state.counters.length) :
    (register quantity (step state next) t).missing =
      (register quantity state t).missing +
        if counts state t quantity next then
          (register quantity state t).lost int32
        else 0 := by
  by_cases report : ∃ now, next = .report now
  · obtain ⟨now, rfl⟩ := report
    have notCounted : counts state t quantity (.report now) = false := by
      cases quantity <;> rfl
    rw [notCounted]
    exact (missing_report (reportLoop_reported now state) filled steady
      quantity inside).trans (Int.add_zero _).symm
  · rw [register_message inside next (fun now equal => report ⟨now, equal⟩)]
    split
    · exact ReadReset.missing_count
    · exact (Int.add_zero _).symm

theorem lost_eq_zero_iff {state : Reporter} (inRange : InRange state)
    (quantity : Quantity) (t : Nat) :
    0 ≤ (register quantity state t).lost int32 ∧
      ((register quantity state t).lost int32 = 0 ↔
        ReportLoop.hasRead t state.loop = false ∧
          valueAt quantity state t + 1 < 2 ^ 31) := by
  obtain ⟨lower, upper⟩ := inRange quantity t
  have cases := int32_succ_cases lower upper
  cases isRead : ReportLoop.hasRead t state.loop with
  | true => simp [ReadReset.lost, register, isRead]
  | false =>
      simp only [ReadReset.lost, register, isRead, Bool.false_eq_true,
        if_false, true_and]
      omega

/-- Nothing is missing for any tenant. -/
def Complete (state : Reporter) : Prop :=
  ∀ t < state.counters.length, ∀ quantity : Quantity,
    (register quantity state t).missing = 0

theorem conserved_iff_complete {state : Reporter}
    (between : BetweenReports state) : Conserved state ↔ Complete state := by
  have sums : ∀ t quantity,
      (register quantity state t).missing = 0 ↔
        logged quantity state t + valueAt quantity state t =
          quantity.counted state t := by
    intro t quantity
    have unread : (register quantity state t).isRead = false := by
      rcases between with loop | loop <;>
        simp [register, loop, ReportLoop.hasRead]
    rw [ReadReset.missing_eq_zero_iff unread]
    rcases between with loop | loop <;> simp [register, opened, loop]
  simp only [Conserved, Complete, sums]

/-- With 256 tenants or more a report that has begun never ends. -/
def StaysOpen (state : Reporter) : Prop :=
  256 ≤ state.counters.length →
    BetweenReports state ∨ ∃ i < 256, state.loop = .reading i

theorem staysOpen_step {state : Reporter} (staysOpen : StaysOpen state)
    (next : Step) :
    StaysOpen (step state next) ∧
      (256 ≤ state.counters.length → BetweenReports (step state next) →
        BetweenReports state) := by
  by_cases report : ∃ now, next = .report now
  · obtain ⟨now, rfl⟩ := report
    have reported := reportLoop_reported now state
    rw [step, StaysOpen, reported.length]
    generalize reportLoop now state = after at reported
    cases reported with
    | ended between => exact ⟨fun _ => .inl (.inr rfl), fun _ _ => between⟩
    | opened sleeping =>
        exact ⟨fun _ => .inr ⟨0, by decide, rfl⟩, fun _ _ => .inl sleeping⟩
    | read _ _ =>
        refine ⟨fun _ => .inr ⟨_, ByteLoop.next_lt _, rfl⟩, ?_⟩
        rintro _ (loop | loop) <;> cases loop
    | @written i reading index =>
        refine ⟨fun large => ?_, fun _ closed => by
          rcases closed with loop | loop <;> cases loop⟩
        rcases staysOpen large with (loop | loop) | ⟨j, below, loop⟩
        · rw [reading] at loop
          cases loop
        · rw [reading] at loop
          cases loop
        · rw [reading] at loop
          cases loop
          omega
    | @reset i resetting index =>
        refine ⟨fun large => ?_, fun _ closed => by
          rcases closed with loop | loop <;> cases loop⟩
        rcases staysOpen large with (loop | loop) | ⟨j, below, loop⟩ <;>
          · rw [resetting] at loop
            cases loop
    | @closed i resetting index =>
        refine ⟨fun _ => .inl (.inl rfl), fun large _ => ?_⟩
        rcases staysOpen large with between | ⟨j, below, loop⟩
        · exact between
        · rw [resetting] at loop
          cases loop
  · have loop : (step state next).loop = state.loop := by
      cases next with
      | report now => exact absurd ⟨now, rfl⟩ report
      | _ => rfl
    rw [StaysOpen, step_length, BetweenReports, loop]
    exact ⟨staysOpen, fun _ between => between⟩

theorem staysOpen_run (now : ℚ) (counters : List Counter)
    (steps : List Step) : StaysOpen (run now counters steps) := by
  induction steps using List.reverseRecOn with
  | nil => exact fun _ => .inl (.inl rfl)
  | append_singleton past next induction =>
      rw [run_snoc]
      exact (staysOpen_step induction next).1

theorem missing_start {now : ℚ} {counters : List Counter}
    (zero : ∀ counter ∈ counters, counter.intervalResponses = 0)
    (quantity : Quantity) (t : Nat) :
    (register quantity (run now counters []) t).missing = 0 := by
  have unread : (register quantity (run now counters []) t).isRead = false :=
    rfl
  rw [ReadReset.missing_eq_zero_iff unread]
  cases present : counters[t]? with
  | none =>
      cases quantity <;>
        simp [register, logged, opened, valueAt, run, start, present,
          Quantity.counted]
  | some counter =>
      have responses := zero counter (List.mem_of_getElem? present)
      cases quantity <;>
        simp [register, logged, opened, valueAt, run, start, present,
          Quantity.counted, Quantity.value, Counter.reset, responses]

/-- What a run loses is never negative, so it stays complete as long as no
step loses anything. -/
theorem complete_step {state : Reporter} (filled : LineFilled state)
    (steady : state.counters.length < 256 ∨ BetweenReports state)
    (inRange : InRange state)
    (notNegative : ∀ t < state.counters.length, ∀ quantity : Quantity,
      0 ≤ (register quantity state t).missing) (next : Step) :
    (∀ t < (step state next).counters.length, ∀ quantity : Quantity,
        0 ≤ (register quantity (step state next) t).missing) ∧
      (Complete (step state next) ↔
        Complete state ∧ Undisturbed state next) := by
  have lost := lost_eq_zero_iff inRange
  have missing := @missing_step state filled steady next
  rw [Complete, Complete, Undisturbed, step_length]
  refine ⟨?_, ?_, ?_⟩
  · intro t inside quantity
    rw [missing quantity inside]
    have before := notNegative t inside quantity
    have more := (lost quantity t).1
    split <;> omega
  · intro after
    refine ⟨?_, ?_⟩
    · intro t inside quantity
      have zeroAfter := after t inside quantity
      rw [missing quantity inside] at zeroAfter
      have before := notNegative t inside quantity
      have more := (lost quantity t).1
      split at zeroAfter <;> omega
    · intro t inside quantity counted
      have zeroAfter := after t inside quantity
      rw [missing quantity inside, if_pos counted] at zeroAfter
      have before := notNegative t inside quantity
      have more := (lost quantity t).1
      exact (lost quantity t).2.mp (by omega)
  · rintro ⟨before, undisturbed⟩ t inside quantity
    rw [missing quantity inside, before t inside quantity]
    split
    · rename_i counted
      rw [(lost quantity t).2.mpr (undisturbed t inside quantity counted)]
      rfl
    · rfl

/-- Where a report once begun does not end, a run between reports was so all
the time. -/
theorem steady_past {now : ℚ} {counters : List Counter} {past : List Step}
    {next : Step}
    (steady : counters.length < 256 ∨
      BetweenReports (run now counters (past ++ [next]))) :
    counters.length < 256 ∨ BetweenReports (run now counters past) := by
  have length := run_length now counters past
  rcases Nat.lt_or_ge counters.length 256 with small | large
  · exact .inl small
  · have between := steady.resolve_left (Nat.not_lt_of_ge large)
    rw [run_snoc] at between
    exact .inr ((staysOpen_step (staysOpen_run now counters past) next).2
      (by omega) between)

/-- Nothing is missing between two reports exactly when all that was counted
was undisturbed. -/
theorem complete_iff {now : ℚ} {counters : List Counter}
    (zero : ∀ counter ∈ counters, counter.intervalResponses = 0)
    (steps : List Step)
    (steady : counters.length < 256 ∨ BetweenReports (run now counters steps)) :
    (∀ t < (run now counters steps).counters.length, ∀ quantity : Quantity,
        0 ≤ (register quantity (run now counters steps) t).missing) ∧
      (Complete (run now counters steps) ↔
        History.Admissible
          (fun past step => Undisturbed (run now counters past) step)
          steps) := by
  induction steps using List.reverseRecOn with
  | nil =>
      refine ⟨?_, iff_of_true ?_ History.admissible_nil⟩
      · intro t _ quantity
        exact Int.le_of_eq (missing_start zero quantity t).symm
      · exact fun t _ quantity => missing_start zero quantity t
  | append_singleton past next induction =>
      have pastSteady := steady_past steady
      obtain ⟨notNegative, complete⟩ := induction pastSteady
      obtain ⟨nextNotNegative, nextComplete⟩ :=
        complete_step (lineFilled_run now counters past)
          (by rwa [run_length]) (inRange_run zero past) notNegative next
      rw [run_snoc]
      refine ⟨nextNotNegative, ?_⟩
      rw [History.admissible_snoc, ← complete, nextComplete]

/-- The log and the counters add up between the reports of a run exactly when
the run is undisturbed. -/
theorem conservedRun_iff (now : ℚ) (counters : List Counter)
    (steps : List Step) :
    ConservedRun now counters steps ↔ UndisturbedRun now counters steps := by
  constructor
  · intro conservedRun
    have zero : ∀ counter ∈ counters, counter.intervalResponses = 0 := by
      intro counter member
      obtain ⟨t, inside, rfl⟩ := List.mem_iff_getElem.mp member
      have sum := conservedRun [] steps rfl (.inl rfl) t
        (by rwa [run_length]) .responses
      simpa [logged, valueAt, run, start, inside, Quantity.value,
        Quantity.counted, Counter.reset] using sum
    refine ⟨zero, ?_⟩
    intro first second split between
    rw [← (complete_iff zero first (.inr between)).2,
      ← conserved_iff_complete between]
    exact conservedRun first second split between
  · rintro ⟨zero, undisturbed⟩ first second split between
    rw [conserved_iff_complete between,
      (complete_iff zero first (.inr between)).2]
    exact undisturbed first second split between

/-- A request that is counted after its counter was read and before it is
reset. -/
def countedBetween : List Step :=
  [.report 1, .report 1,
    .countRequest 0 { xid := 1, time := 1, bytes := 8, msgType := 2 } 0,
    .report 1, .report 1, .report 1]

/-- It is neither in the log nor in the counter. -/
theorem conservedRun_countedBetween :
    (run 0 [Counter.initial.connEstablished 1]
        countedBetween).filestream.map Line.requests = [[0]] ∧
      valueAt .requests
        (run 0 [Counter.initial.connEstablished 1] countedBetween) 0 = 0 ∧
      (run 0 [Counter.initial.connEstablished 1]
        countedBetween).requestsCounted 0 = 1 ∧
      ¬ConservedRun 0 [Counter.initial.connEstablished 1] countedBetween := by
  refine ⟨by decide +kernel, by decide +kernel, by decide +kernel, ?_⟩
  intro conservedRun
  have sum := conservedRun countedBetween [] (by simp)
    (.inl (by decide +kernel)) 0 (by decide +kernel) .requests
  revert sum
  decide +kernel

end Reporter

end Perfbench
