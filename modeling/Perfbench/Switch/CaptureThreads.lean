import Perfbench.Switch.BufferAccounts

/-!
# Frames that are handled at the same time

Every port of a switch has a thread of its own, which handles the frames that
are captured there.  The threads share the counter of the buffer ids and the
buffers, without a lock: for a packet that meets no flow the counter is
incremented, read for the place in the buffer, and read again for the message,
which is sent after that.  Where no handlers overlap, the datapaths take whole
steps.
-/

namespace Perfbench

/-- What a handler does next for a packet that met no flow. -/
inductive HandlerPart where
  | increment
  | insert
  | read
  | send (msg : SwPacketIn)

/-- A handler at work, with the memory that it reads. -/
structure CaptureHandler where
  part : HandlerPart
  dp : Nat
  address : Nat
  pkt : SwPacket
  len : Nat
  memory : Nat → UInt8

/-- The datapaths, and the handlers at work in the capture threads. -/
structure CaptureThreads where
  datapaths : Datapaths
  handler : Nat → Option CaptureHandler

/-- The steps of all threads.  The actions of a packet that meets a flow are
carried out as a whole, and so are messages from the controllers. -/
inductive ThreadStep where
  | capture (thread dp : Nat) (pkt : SwPacket) (len : Nat)
      (memory : Nat → UInt8)
  | proceed (thread : Nat)
  | message (event : DatapathEvent)

/-- An id that was taken from a counter. -/
def TakenId (increments id : Nat) : Prop :=
  0 < id ∧ id ≤ increments

theorem TakenId.mono {increments larger id : Nat}
    (taken : TakenId increments id) (grown : increments ≤ larger) :
    TakenId larger id :=
  ⟨taken.1, Nat.le_trans taken.2 grown⟩

namespace HandlerPart

/-- The counter is read only after it was incremented, and what was read is
sent. -/
def Taken (increments : Nat) : HandlerPart → Prop
  | .increment => True
  | .insert => 0 < increments
  | .read => 0 < increments
  | .send msg => TakenId increments msg.bufferId

theorem Taken.mono {increments larger : Nat} {part : HandlerPart}
    (taken : part.Taken increments) (grown : increments ≤ larger) :
    part.Taken larger := by
  cases part with
  | increment => exact trivial
  | insert => exact Nat.lt_of_lt_of_le taken grown
  | read => exact Nat.lt_of_lt_of_le taken grown
  | send msg => exact TakenId.mono taken grown

end HandlerPart

namespace CaptureHandler

/-- The message to the controller, under the id that the counter has now. -/
def message (handler : CaptureHandler) (state : Datapaths) : SwPacketIn where
  bufferId := state.bufferId
  inPort := handler.pkt.inPort
  totalLen := handler.len % 2 ^ 16
  reason := .noMatch
  data := handler.pkt.bytes handler.memory handler.pkt.len

/-- A part of the handler, and the handler if it is not done yet. -/
def proceed (handler : CaptureHandler) (state : Datapaths) :
    Datapaths × Option CaptureHandler :=
  match handler.part with
  | .increment =>
      ({ state with increments := state.increments + 1 },
        some { handler with part := .insert })
  | .insert =>
      (state.insertBuffer handler.dp state.bufferId (some handler.address),
        some { handler with part := .read })
  | .read =>
      if (state.datapath handler.dp).conn then
        (state, some { handler with part := .send (handler.message state) })
      else (state, none)
  | .send msg => (state.emit handler.dp [.packetIn msg], none)

end CaptureHandler

namespace CaptureThreads

/-- No frame is being handled. -/
def idle (datapaths : Datapaths) : CaptureThreads where
  datapaths := datapaths
  handler := fun _ => none

/-- A thread captures the next frame when it has handled the one before. -/
def capture (thread dp : Nat) (pkt : SwPacket) (len : Nat)
    (memory : Nat → UInt8) (state : CaptureThreads) : Option CaptureThreads :=
  match state.handler thread with
  | some _ => none
  | none =>
      let address := state.datapaths.packets.next
      let datapaths := state.datapaths.newPacket pkt
      match Datapath.packetHandler (datapaths.datapath dp).flowTable
          (pkt.captured memory) with
      | some flow =>
          (datapaths.runActions memory dp (some address) flow.actions).map
            (fun datapaths => { state with datapaths })
      | none =>
          some
            { datapaths
              handler := Function.update state.handler thread (some
                { part := .increment
                  dp
                  address
                  pkt
                  len
                  memory }) }

/-- A thread that handles nothing waits for a frame. -/
def proceed (thread : Nat) (state : CaptureThreads) : CaptureThreads :=
  match state.handler thread with
  | none => state
  | some handler =>
      let proceeded := handler.proceed state.datapaths
      { datapaths := proceeded.1
        handler := Function.update state.handler thread proceeded.2 }

def step (state : CaptureThreads) : ThreadStep → Option CaptureThreads
  | .capture thread dp pkt len memory =>
      state.capture thread dp pkt len memory
  | .proceed thread => some (state.proceed thread)
  | .message event =>
      if event.isCaptured then none
      else
        (state.datapaths.step event).map
          (fun datapaths => { state with datapaths })

def run (ports : Nat → Nat) (steps : List ThreadStep) : Option CaptureThreads :=
  PartialRun.run step (idle (.initial ports)) steps

/-- The steps of a thread that handles a frame alone. -/
def alone (thread : DatapathEvent → Nat) (event : DatapathEvent) :
    List ThreadStep :=
  match event with
  | .captured dp pkt len memory =>
      [.capture (thread event) dp pkt len memory, .proceed (thread event),
        .proceed (thread event), .proceed (thread event),
        .proceed (thread event)]
  | event => [.message event]

/-- The steps of a run in which no two handlers overlap. -/
def serial (thread : DatapathEvent → Nat) (events : List DatapathEvent) :
    List ThreadStep :=
  events.flatMap (alone thread)

theorem proceed_alone (handler : CaptureHandler) (thread : Nat)
    (datapaths : Datapaths) (first : handler.part = .increment) :
    ((((({ datapaths
           handler := Function.update (fun _ => none) thread (some handler) } :
        CaptureThreads).proceed thread).proceed thread).proceed
          thread).proceed thread) =
      idle
        (let state :=
          datapaths.bufferPacket handler.dp (some handler.address)
        if (state.datapath handler.dp).conn then
          state.emit handler.dp [.packetIn (handler.message state)]
        else state) := by
  have last : Function.update (fun _ : Nat => (none : Option CaptureHandler))
      thread none = fun _ => none := Function.update_eq_self _ _
  simp only [proceed, Function.update_self, CaptureHandler.proceed, first,
    Function.update_idem]
  by_cases connected : ((datapaths.bufferPacket handler.dp
      (some handler.address)).datapath handler.dp).conn
  · have read := connected
    simp only [Datapaths.bufferPacket] at read
    simp only [read, if_pos, last, connected]
    rfl
  · have read := connected
    simp only [Datapaths.bufferPacket] at read
    simp only [read, if_neg, last, connected, Bool.false_eq_true,
      not_false_eq_true]
    rfl

theorem run_message (event : DatapathEvent)
    (message : event.isCaptured = false) (datapaths : Datapaths) :
    PartialRun.run step (idle datapaths) [.message event] =
      (datapaths.step event).map idle := by
  have alone := @PartialRun.run_snoc _ _ step (idle datapaths) []
    (.message event)
  rw [List.nil_append, PartialRun.run_nil, Option.bind_some] at alone
  rw [alone, step, message, if_neg Bool.false_ne_true]
  rfl

theorem run_aloneSteps (thread : DatapathEvent → Nat) (event : DatapathEvent)
    (datapaths : Datapaths) :
    PartialRun.run step (idle datapaths) (alone thread event) =
      (datapaths.step event).map idle := by
  cases event with
  | captured dp pkt len memory =>
      rw [alone, PartialRun.run, List.foldlM_cons, step, capture,
        Datapaths.step, Datapaths.packetHandler]
      simp only [idle]
      cases Datapath.packetHandler
          (((datapaths.newPacket pkt).datapath dp).flowTable)
          (pkt.captured memory) with
      | some flow =>
          simp only
          cases (datapaths.newPacket pkt).runActions memory dp
              (some datapaths.packets.next) flow.actions with
          | none => rfl
          | some after => rfl
      | none =>
          have handled := proceed_alone
            { part := .increment
              dp
              address := datapaths.packets.next
              pkt
              len
              memory } (thread (.captured dp pkt len memory))
            (datapaths.newPacket pkt) rfl
          refine (congrArg some handled).trans ?_
          simp only
          split
          · rfl
          · rfl
  | connected dp => exact run_message _ rfl datapaths
  | flowMod dp fm memory => exact run_message _ rfl datapaths
  | packetOut dp po memory => exact run_message _ rfl datapaths

/-- The runs in which no handlers overlap are those of the datapaths in whole
steps. -/
theorem run_serial (thread : DatapathEvent → Nat) (ports : Nat → Nat)
    (events : List DatapathEvent) :
    run ports (serial thread events) =
      (Datapaths.run ports events).map idle := by
  rw [run, Datapaths.run]
  generalize Datapaths.initial ports = datapaths
  induction events generalizing datapaths with
  | nil => rfl
  | cons event events induction =>
      rw [serial, List.flatMap_cons, PartialRun.run_append, run_aloneSteps,
        PartialRun.run, List.foldlM_cons]
      cases datapaths.step event with
      | none => rfl
      | some after => exact induction after

theorem proceed_grown (handler : CaptureHandler) (state : Datapaths) :
    state.increments ≤ (handler.proceed state).1.increments := by
  unfold CaptureHandler.proceed
  cases handler.part with
  | increment => exact Nat.le_succ _
  | insert =>
      apply Nat.le_of_eq
      exact (Datapaths.insertBuffer_increments _).symm
  | read =>
      simp only
      split
      · exact Nat.le_refl _
      · exact Nat.le_refl _
  | send msg => exact Nat.le_refl _

/-- All ids that were announced were taken. -/
def AllTaken (state : Datapaths) : Prop :=
  ∀ id ∈ announcedIds state.emitted, TakenId state.increments id

theorem AllTaken.sameIds {state after : Datapaths} (all : AllTaken state)
    (ids : Datapaths.SameIds state after) : AllTaken after := by
  intro id member
  rw [ids.same] at member
  exact (all id member).mono ids.grown

theorem AllTaken.emit {state : Datapaths} {msg : SwPacketIn}
    (all : AllTaken state) (taken : TakenId state.increments msg.bufferId)
    (dp : Nat) : AllTaken (state.emit dp [.packetIn msg]) := by
  intro id member
  obtain ⟨entry, among, announces⟩ := List.mem_filterMap.mp member
  rcases List.mem_append.mp among with early | late
  · exact all id (List.mem_filterMap.mpr ⟨entry, early, announces⟩)
  · simp only [List.map_cons, List.map_nil, List.mem_singleton] at late
    simp only [late, Emission.announcedId] at announces
    split at announces
    · cases announces
      exact taken
    · cases announces

theorem proceed_taken {handler : CaptureHandler} {state : Datapaths}
    (all : AllTaken state) (taken : handler.part.Taken state.increments)
    (few : (handler.proceed state).1.increments < 2 ^ 32) :
    AllTaken (handler.proceed state).1 ∧
      ∀ after, (handler.proceed state).2 = some after →
        after.part.Taken (handler.proceed state).1.increments := by
  unfold CaptureHandler.proceed at few ⊢
  cases part : handler.part with
  | increment =>
      refine ⟨all.sameIds ⟨Nat.le_succ _, rfl⟩, ?_⟩
      rintro after ⟨⟩
      exact Nat.succ_pos _
  | insert =>
      rw [part] at taken
      refine ⟨all.sameIds (.of_eq (Datapaths.insertBuffer_increments _)
        (Datapaths.insertBuffer_emitted _)), ?_⟩
      rintro after ⟨⟩
      simp only [Datapaths.insertBuffer_increments]
      exact taken
  | read =>
      rw [part] at taken
      simp only [part] at few ⊢
      split
      · rename_i connected
        rw [if_pos connected] at few
        refine ⟨all, ?_⟩
        rintro after ⟨⟩
        have told : state.bufferId = state.increments := uint32_of_lt few
        exact ⟨Nat.lt_of_lt_of_eq taken told.symm, Nat.le_of_eq told⟩
      · exact ⟨all, nofun⟩
  | send msg =>
      rw [part] at taken
      exact ⟨all.emit taken handler.dp, nofun⟩

/-- Capturing a frame announces nothing, and its handler begins with the first
part. -/
theorem capture_ids {state after : CaptureThreads} {thread dp len : Nat}
    {pkt : SwPacket} {memory : Nat → UInt8}
    (captured : state.capture thread dp pkt len memory = some after) :
    Datapaths.SameIds state.datapaths after.datapaths ∧
      ∀ other handler, after.handler other = some handler →
        state.handler other = some handler ∨ handler.part = .increment := by
  have allocated : Datapaths.SameIds state.datapaths
      (state.datapaths.newPacket pkt) := .of_eq rfl rfl
  simp only [capture] at captured
  split at captured
  · cases captured
  · split at captured
    · obtain ⟨datapaths, ran, rfl⟩ := Option.map_eq_some_iff.mp captured
      exact ⟨allocated.trans (Datapaths.runActions_ids ran),
        fun _ _ working => .inl working⟩
    · cases captured
      refine ⟨allocated, ?_⟩
      intro other handler working
      by_cases same : other = thread
      · simp only [same, Function.update_self, Option.some.injEq] at working
        exact .inr (by rw [← working])
      · simp only [Function.update_of_ne same] at working
        exact .inl working

theorem step_grown {state after : CaptureThreads} {taken : ThreadStep}
    (stepped : state.step taken = some after) :
    state.datapaths.increments ≤ after.datapaths.increments := by
  cases taken with
  | capture thread dp pkt len memory => exact (capture_ids stepped).1.grown
  | proceed thread =>
      cases stepped
      simp only [proceed]
      split
      · exact Nat.le_refl _
      · exact proceed_grown _ _
  | message event =>
      simp only [step] at stepped
      split at stepped
      · cases stepped
      · rename_i message
        obtain ⟨datapaths, done, rfl⟩ := Option.map_eq_some_iff.mp stepped
        exact (Datapaths.step_ids (by simpa using message) done).grown

structure Telling (state : CaptureThreads) : Prop where
  all : AllTaken state.datapaths
  taken : ∀ thread handler, state.handler thread = some handler →
    handler.part.Taken state.datapaths.increments

theorem Telling.sameIds {state after : CaptureThreads}
    (telling : state.Telling)
    (ids : Datapaths.SameIds state.datapaths after.datapaths)
    (handlers : ∀ thread handler, after.handler thread = some handler →
      state.handler thread = some handler ∨ handler.part = .increment) :
    after.Telling := by
  refine ⟨telling.all.sameIds ids, ?_⟩
  intro thread handler working
  rcases handlers thread handler working with before | begins
  · exact (telling.taken thread handler before).mono ids.grown
  · rw [begins]
    exact trivial

theorem Telling.proceed {state : CaptureThreads} {thread : Nat}
    (telling : state.Telling)
    (few : (state.proceed thread).datapaths.increments < 2 ^ 32) :
    (state.proceed thread).Telling := by
  cases working : state.handler thread with
  | none =>
      rw [CaptureThreads.proceed, working]
      exact telling
  | some handler =>
      rw [CaptureThreads.proceed, working] at few ⊢
      obtain ⟨all, next⟩ := proceed_taken telling.all
        (telling.taken thread handler working) few
      refine ⟨all, ?_⟩
      intro other otherHandler otherWorking
      by_cases same : other = thread
      · simp only [same, Function.update_self] at otherWorking
        exact next otherHandler otherWorking
      · simp only [Function.update_of_ne same] at otherWorking
        exact (telling.taken other otherHandler otherWorking).mono
          (proceed_grown handler state.datapaths)

theorem Telling.step {state after : CaptureThreads} {taken : ThreadStep}
    (telling : state.Telling) (stepped : state.step taken = some after)
    (few : after.datapaths.increments < 2 ^ 32) : after.Telling := by
  cases taken with
  | capture thread dp pkt len memory =>
      obtain ⟨ids, handlers⟩ := capture_ids stepped
      exact telling.sameIds ids handlers
  | proceed thread =>
      cases stepped
      exact telling.proceed few
  | message event =>
      simp only [CaptureThreads.step] at stepped
      split at stepped
      · cases stepped
      · rename_i message
        obtain ⟨datapaths, done, rfl⟩ := Option.map_eq_some_iff.mp stepped
        exact telling.sameIds (Datapaths.step_ids (by simpa using message) done)
          (fun _ _ working => .inl working)

/-- However the handlers of the threads overlap, only ids that were taken are
announced, as long as the counter does not wrap; where no two overlap, the ids
ascend. -/
theorem run_announces {ports : Nat → Nat} {steps : List ThreadStep}
    {state : CaptureThreads} (result : run ports steps = some state)
    (few : state.datapaths.increments < 2 ^ 32) :
    (∀ id ∈ announcedIds state.datapaths.emitted,
        TakenId state.datapaths.increments id) ∧
      ∀ thread events, steps = serial thread events →
        (announcedIds state.datapaths.emitted).Pairwise (· < ·) := by
  have start : (idle (.initial ports)).Telling := by
    refine ⟨?_, nofun⟩
    simp [AllTaken, announcedIds, idle, Datapaths.initial]
  have telling : state.datapaths.increments < 2 ^ 32 → state.Telling := by
    apply PartialRun.always result (fun _ => start)
    intro taken before after holds stepped few
    exact (holds (Nat.lt_of_le_of_lt (step_grown stepped) few)).step stepped few
  refine ⟨(telling few).all, ?_⟩
  rintro thread events rfl
  rw [run_serial] at result
  obtain ⟨datapaths, whole, rfl⟩ := Option.map_eq_some_iff.mp result
  exact (Datapaths.run_ids whole few).1

/-- Two frames that meet no flow, on different ports; the counter is
incremented for both before either is announced. -/
def overlapping : List ThreadStep :=
  [.message (.connected 0),
    .capture 1 0
      { inPort := 1
        data := 0
        len := 1 } 60 (fun _ => 7),
    .capture 2 0
      { inPort := 2
        data := 0
        len := 1 } 60 (fun _ => 8),
    .proceed 1, .proceed 1, .proceed 2, .proceed 2, .proceed 2, .proceed 1,
    .proceed 2, .proceed 1]

/-- Both are announced under the same id. -/
theorem run_announces_overlapping :
    ∃ state, run (fun _ => 2) overlapping = some state ∧
      announcedIds state.datapaths.emitted = [2, 2] ∧
      (∀ id ∈ announcedIds state.datapaths.emitted,
        TakenId state.datapaths.increments id) ∧
      ∀ thread events, overlapping = serial thread events →
        (announcedIds state.datapaths.emitted).Pairwise (· < ·) :=
  ⟨_, rfl, by decide, @run_announces (fun _ => 2) overlapping _ rfl (by decide)⟩

end CaptureThreads

end Perfbench
