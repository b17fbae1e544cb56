import Perfbench.Connection.OFServer
import Perfbench.Library.History

/-!
# Entering the running state

The two places that establish a connection test whether it is running, not
whether it is still in the handshake.  A connection that failed or was closed
can so be put back into the running state by a message that is still
delivered.
-/

namespace Perfbench

namespace OFServer

/-- The connection after a run of events. -/
def run (ofsc : OFServerSettings) (cc : OFConnection) (events : List Event) :
    OFConnection :=
  events.foldl (fun cc event => (react ofsc cc event).1) cc

/-- Everything that was done in a run. -/
def effects (ofsc : OFServerSettings) (cc : OFConnection) :
    List Event → List (Effect EventType)
  | [] => []
  | event :: events =>
      (react ofsc cc event).2 ++ effects ofsc (react ofsc cc event).1 events

/-- The states out of which a run enters the running state. -/
def entries (ofsc : OFServerSettings) (cc : OFConnection) :
    List Event → List ConnectionState
  | [] => []
  | event :: events =>
      (if cc.state ≠ .running ∧ (react ofsc cc event).1.state = .running then
        [cc.state] else []) ++
        entries ofsc (react ofsc cc event).1 events

theorem run_snoc (ofsc : OFServerSettings) (cc : OFConnection)
    (past : List Event) (event : Event) :
    run ofsc cc (past ++ [event]) =
      (react ofsc (run ofsc cc past) event).1 := by
  simp [run]

theorem effects_snoc (ofsc : OFServerSettings) (cc : OFConnection)
    (past : List Event) (event : Event) :
    effects ofsc cc (past ++ [event]) =
      effects ofsc cc past ++ (react ofsc (run ofsc cc past) event).2 := by
  induction past generalizing cc with
  | nil => simp [effects, run]
  | cons first past induction =>
      simp only [List.cons_append, effects, induction, List.append_assoc]
      rfl

theorem entries_snoc (ofsc : OFServerSettings) (cc : OFConnection)
    (past : List Event) (event : Event) :
    entries ofsc cc (past ++ [event]) =
      entries ofsc cc past ++
        if (run ofsc cc past).state ≠ .running ∧
            (react ofsc (run ofsc cc past) event).1.state = .running then
          [(run ofsc cc past).state] else [] := by
  induction past generalizing cc with
  | nil => exact List.append_nil _
  | cons first past induction =>
      simp only [List.cons_append, entries, induction, List.append_assoc]
      rfl

/-- The messages that put a connection into the running state. -/
def completes : Event → Bool
  | .message msg => (msg.ofType = 6 ∧ msg.version = 1) ∨ msg.ofType = 19
  | .timer => false
  | .down => false

/-- A reaction that does not enter the running state, and does not announce
the connection. -/
structure Keeps (before : ConnectionState) (reaction : Reaction) : Prop where
  running : reaction.1.state = .running → before = .running
  handshake : reaction.1.state = .handshake → before = .handshake
  pushed : reaction.2.count .pushConn = 0
  announced : reaction.2.count (.dispatch .connUp) = 0

/-- A reaction that enters the running state and announces the connection. -/
structure Enters (reaction : Reaction) : Prop where
  running : reaction.1.state = .running
  pushed : reaction.2.count .pushConn = 1
  announced : reaction.2.count (.dispatch .connUp) = 1

theorem Keeps.after {before : ConnectionState} {reaction : Reaction}
    (keeps : Keeps before reaction) {earlier : List (Effect EventType)}
    (pushed : earlier.count .pushConn = 0)
    (announced : earlier.count (.dispatch .connUp) = 0) :
    Keeps before (reaction.after earlier) := by
  refine ⟨keeps.running, keeps.handshake, ?_, ?_⟩
  · rw [Reaction.after, List.count_append, pushed, keeps.pushed]
  · rw [Reaction.after, List.count_append, announced, keeps.announced]

theorem Enters.after {reaction : Reaction} (enters : Enters reaction)
    {earlier : List (Effect EventType)} (pushed : earlier.count .pushConn = 0)
    (announced : earlier.count (.dispatch .connUp) = 0) :
    Enters (reaction.after earlier) := by
  refine ⟨enters.running, ?_, ?_⟩
  · rw [Reaction.after, List.count_append, pushed, enters.pushed]
  · rw [Reaction.after, List.count_append, announced, enters.announced]

theorem count_send {msg : OFMessage} {cc : OFConnection}
    {effect : Effect EventType} (other : ∀ msg, effect ≠ .send msg) :
    (cc.send msg).count effect = 0 := by
  apply List.count_eq_zero_of_not_mem
  intro member
  exact other msg (OFConnection.mem_send member)

theorem establish_enters (cc : OFConnection) :
    Enters (Controller.establish cc) := by
  have effects : (Controller.establish cc).2 =
      [.pushConn, .dispatch .connUp] := rfl
  refine ⟨rfl, ?_, ?_⟩
  · rw [effects]
    decide
  · rw [effects]
    decide

theorem messageEvent_connUp (ofType : Nat) :
    Controller.messageEvent ofType ≠ some .connUp := by
  unfold Controller.messageEvent
  repeat' split
  all_goals simp

/-- A reaction that leaves the state alone and neither pushes nor announces. -/
theorem keeps_of_state {before : ConnectionState} {cc : OFConnection}
    {effects : List (Effect EventType)} (state : cc.state = before)
    (pushed : effects.count .pushConn = 0)
    (announced : effects.count (.dispatch .connUp) = 0) :
    Keeps before (cc, effects) := by
  refine ⟨?_, ?_, pushed, announced⟩
  · intro running
    exact state.symm.trans running
  · intro handshake
    exact state.symm.trans handshake

theorem messageCallback_enters {msg : OFMessage} {cc : OFConnection}
    (notRunning : cc.state ≠ .running) (complete : completes (.message msg)) :
    Enters (Controller.messageCallback msg cc) := by
  rw [completes, decide_eq_true_eq] at complete
  unfold Controller.messageCallback
  rcases complete with ⟨featuresReply, version⟩ | multipartReply
  · rw [if_pos featuresReply, if_neg notRunning]
    have stored : (cc.setVersion msg.version).version = 1 := version
    dsimp only
    rw [if_pos stored]
    exact establish_enters _
  · rw [if_neg (by omega), if_pos multipartReply, if_neg notRunning]
    exact establish_enters _

theorem messageCallback_keeps {msg : OFMessage} {cc : OFConnection}
    (other : cc.state = .running ∨ completes (.message msg) = false) :
    Keeps cc.state (Controller.messageCallback msg cc) := by
  rw [completes, decide_eq_false_iff_not] at other
  unfold Controller.messageCallback
  split
  · rename_i featuresReply
    split
    · exact keeps_of_state rfl (by decide) (by decide)
    · rename_i notRunning
      have stored : (cc.setVersion msg.version).version ≠ 1 := by
        intro version
        rcases other with running | incomplete
        · exact notRunning running
        · exact incomplete (.inl ⟨featuresReply, version⟩)
      dsimp only
      rw [if_neg stored]
      split
      · exact keeps_of_state rfl (count_send (by simp)) (count_send (by simp))
      · exact keeps_of_state rfl rfl rfl
  · split
    · rename_i multipartReply
      rcases other with running | incomplete
      · rw [if_pos running]
        exact keeps_of_state rfl (by decide) (by decide)
      · exact absurd (.inr multipartReply) incomplete
    · split
      · rename_i eventType event
        have notConnUp : eventType ≠ .connUp := by
          intro connUp
          exact messageEvent_connUp msg.ofType (connUp ▸ event)
        exact keeps_of_state rfl (by simp) (by simp [notConnUp])
      · exact keeps_of_state rfl rfl rfl

/-- Other messages than FEATURES_REPLY and MULTIPART_REPLY never enter. -/
theorem dispatchAll_keeps (ofsc : OFServerSettings) {msg : OFMessage}
    (cc : OFConnection) (incomplete : completes (.message msg) = false) :
    Keeps cc.state (dispatchAll ofsc msg cc) := by
  unfold dispatchAll
  split
  · exact messageCallback_keeps (.inr incomplete)
  · exact keeps_of_state rfl rfl rfl

theorem baseMessageCallback_enters (ofsc : OFServerSettings) {msg : OFMessage}
    {cc : OFConnection} (notRunning : cc.state ≠ .running)
    (complete : completes (.message msg)) :
    Enters (baseMessageCallback ofsc msg cc) := by
  have reply : msg.ofType = 6 ∨ msg.ofType = 19 := by
    rw [completes, decide_eq_true_eq] at complete
    exact complete.imp And.left id
  unfold baseMessageCallback
  rw [if_neg (by omega), if_neg (by omega), if_neg (by omega)]
  split
  · apply Enters.after
    · exact messageCallback_enters notRunning complete
    · split <;> rfl
    · split <;> rfl
  · exact messageCallback_enters notRunning complete

theorem baseMessageCallback_keeps (ofsc : OFServerSettings) {msg : OFMessage}
    {cc : OFConnection}
    (other : cc.state = .running ∨ completes (.message msg) = false) :
    Keeps cc.state (baseMessageCallback ofsc msg cc) := by
  have incomplete : msg.ofType ≠ 6 → msg.ofType ≠ 19 →
      completes (.message msg) = false := by
    intro notFeatures notMultipart
    rw [completes, decide_eq_false_iff_not]
    omega
  unfold baseMessageCallback
  split
  · rename_i echoRequest
    apply Keeps.after
    · exact dispatchAll_keeps ofsc cc (incomplete (by omega) (by omega))
    · rfl
    · rfl
  · split
    · rename_i hello
      have rest := incomplete (by omega) (by omega)
      split
      · apply Keeps.after
        · exact dispatchAll_keeps ofsc cc rest
        · rfl
        · rfl
      · apply Keeps.after
        · have failed :=
            dispatchAll_keeps ofsc (cc.close.setState .failed) rest
          rw [OFConnection.setState_state] at failed
          refine ⟨?_, ?_, failed.pushed, failed.announced⟩
          · intro running
            exact absurd (failed.running running) (by decide)
          · intro handshake
            exact absurd (failed.handshake handshake) (by decide)
        · rw [List.count_append, count_send (by simp)]
          rfl
        · rw [List.count_append, count_send (by simp)]
          rfl
    · split
      · rename_i echoReply
        have rest := incomplete (by omega) (by omega)
        have keeps := dispatchAll_keeps ofsc
          (if msg.xid = echoXid then cc.setAlive true else cc) rest
        have state : (if msg.xid = echoXid then cc.setAlive true
            else cc).state = cc.state := by
          split <;> rfl
        rwa [state] at keeps
      · split
        · rename_i featuresReply
          apply Keeps.after
          · exact @messageCallback_keeps msg (cc.setVersion msg.version) other
          · split <;> rfl
          · split <;> rfl
        · exact messageCallback_keeps other

/-- The running state is entered exactly by the messages that complete the
handshake, whatever other state the connection is in. -/
theorem react_enters (ofsc : OFServerSettings) {cc : OFConnection}
    {event : Event} (notRunning : cc.state ≠ .running)
    (complete : completes event) : Enters (react ofsc cc event) := by
  cases event with
  | message msg => exact baseMessageCallback_enters ofsc notRunning complete
  | timer => cases complete
  | down => cases complete

theorem close_keeps {cc : OFConnection} {effects : List (Effect EventType)}
    (pushed : effects.count .pushConn = 0)
    (announced : effects.count (.dispatch .connUp) = 0) :
    Keeps cc.state (cc.close, effects) := by
  refine ⟨?_, ?_, pushed, announced⟩
  · intro running
    simp only [OFConnection.close_state] at running
    split at running
    · cases running
    · exact running
  · intro handshake
    simp only [OFConnection.close_state] at handshake
    split at handshake
    · cases handshake
    · exact handshake

theorem react_keeps (ofsc : OFServerSettings) {cc : OFConnection}
    {event : Event} (other : cc.state = .running ∨ completes event = false) :
    Keeps cc.state (react ofsc cc event) := by
  cases event with
  | message msg => exact baseMessageCallback_keeps ofsc other
  | timer =>
      simp only [react, sendEcho]
      split
      · exact keeps_of_state rfl (count_send (by simp)) (count_send (by simp))
      · exact close_keeps (by decide) (by decide)
  | down => exact close_keeps (by decide) (by decide)

/-- Announcements are counted by the entries into the running state, and a
connection still in the handshake has none. -/
structure Counted (ofsc : OFServerSettings) (events : List Event) : Prop where
  pushed : (effects ofsc .new events).count .pushConn =
    (entries ofsc .new events).length
  announced : (effects ofsc .new events).count (.dispatch .connUp) =
    (entries ofsc .new events).length
  unentered : (run ofsc .new events).state = .handshake →
    entries ofsc .new events = []

theorem counted (ofsc : OFServerSettings) (events : List Event) :
    Counted ofsc events := by
  induction events using List.reverseRecOn with
  | nil => exact ⟨rfl, rfl, fun _ => rfl⟩
  | append_singleton past event induction =>
      by_cases entering : (run ofsc .new past).state ≠ .running ∧
          completes event
      · have enters := react_enters ofsc entering.1 entering.2
        refine ⟨?_, ?_, ?_⟩
        · rw [effects_snoc, entries_snoc, if_pos ⟨entering.1, enters.running⟩,
            List.count_append, List.length_append, induction.pushed,
            enters.pushed]
          rfl
        · rw [effects_snoc, entries_snoc, if_pos ⟨entering.1, enters.running⟩,
            List.count_append, List.length_append, induction.announced,
            enters.announced]
          rfl
        · intro handshake
          rw [run_snoc, enters.running] at handshake
          cases handshake
      · have keeps : Keeps (run ofsc .new past).state
            (react ofsc (run ofsc .new past) event) := by
          apply react_keeps
          by_cases running : (run ofsc .new past).state = .running
          · exact .inl running
          · exact .inr (by simpa [running] using entering)
        have stays : ¬((run ofsc .new past).state ≠ .running ∧
            (react ofsc (run ofsc .new past) event).1.state = .running) := by
          rintro ⟨notRunning, running⟩
          exact notRunning (keeps.running running)
        refine ⟨?_, ?_, ?_⟩
        · rw [effects_snoc, entries_snoc, if_neg stays, List.count_append,
            keeps.pushed, List.append_nil]
          exact induction.pushed
        · rw [effects_snoc, entries_snoc, if_neg stays, List.count_append,
            keeps.announced, List.append_nil]
          exact induction.announced
        · intro handshake
          rw [run_snoc] at handshake
          rw [entries_snoc, if_neg stays, List.append_nil]
          exact induction.unentered (keeps.handshake handshake)

/-- The running state is entered from the handshake only and at most once, and
the connection is announced at most once. -/
structure EnteredOnce (ofsc : OFServerSettings) (events : List Event) :
    Prop where
  fromHandshake : ∀ state ∈ entries ofsc .new events, state = .handshake
  once : (entries ofsc .new events).length ≤ 1
  pushed : (effects ofsc .new events).count .pushConn ≤ 1
  announced : (effects ofsc .new events).count (.dispatch .connUp) ≤ 1

/-- A message that completes the handshake does not arrive on a connection
that failed or is down. -/
def NotReopening (ofsc : OFServerSettings) (past : List Event)
    (event : Event) : Prop :=
  completes event → (run ofsc .new past).state ≠ .failed ∧
    (run ofsc .new past).state ≠ .down

theorem entries_once {ofsc : OFServerSettings} {events : List Event}
    (admissible : History.Admissible (NotReopening ofsc) events) :
    (∀ state ∈ entries ofsc .new events, state = .handshake) ∧
      (entries ofsc .new events).length ≤ 1 := by
  refine admissible.invariant ⟨by simp [entries], by simp [entries]⟩ ?_
  intro past event _ notReopening induction
  rw [entries_snoc]
  split
  · rename_i entering
    have complete : completes event = true := by
      by_contra incomplete
      have keeps := @react_keeps ofsc (run ofsc .new past) event
        (.inr (by simpa using incomplete))
      exact entering.1 (keeps.running entering.2)
    have handshake : (run ofsc .new past).state = .handshake := by
      obtain ⟨notFailed, notDown⟩ := notReopening complete
      cases state : (run ofsc .new past).state with
      | handshake => rfl
      | running => exact absurd state entering.1
      | failed => exact absurd state notFailed
      | down => exact absurd state notDown
    rw [(counted ofsc past).unentered handshake, handshake]
    exact ⟨by simp, by simp⟩
  · rw [List.append_nil]
    exact induction

/-- A connection enters the running state properly exactly in the runs in
which no FEATURES_REPLY of version 1 and no MULTIPART_REPLY is delivered after
it failed or was closed. -/
theorem enteredOnce_iff (ofsc : OFServerSettings) (events : List Event) :
    EnteredOnce ofsc events ↔
      History.Admissible (NotReopening ofsc) events := by
  constructor
  · intro enteredOnce
    have fromHandshake := enteredOnce.fromHandshake
    clear enteredOnce
    induction events using List.reverseRecOn with
    | nil => exact History.admissible_nil
    | append_singleton past event induction =>
        rw [entries_snoc] at fromHandshake
        rw [History.admissible_snoc]
        refine ⟨induction ?_, ?_⟩
        · intro state member
          exact fromHandshake state (List.mem_append_left _ member)
        · intro complete
          by_contra ended
          have notRunning : (run ofsc .new past).state ≠ .running := by
            intro running
            exact ended (by simp [running])
          have entering := react_enters ofsc notRunning complete
          rw [if_pos ⟨notRunning, entering.running⟩] at fromHandshake
          have handshake := fromHandshake _
            (List.mem_append_right _ (List.mem_singleton_self _))
          exact ended (by simp [handshake])
  · intro admissible
    obtain ⟨fromHandshake, once⟩ := entries_once admissible
    have counts := counted ofsc events
    exact ⟨fromHandshake, once, counts.pushed ▸ once, counts.announced ▸ once⟩

/-- An established connection, a HELLO of an unknown version and another
FEATURES_REPLY behind it. -/
def renegotiated : List Event :=
  [.message (OFMessage.header 1 0 8 1), .message (OFMessage.header 1 6 32 1),
    .message (OFMessage.header 2 0 8 2), .message (OFMessage.header 1 6 32 3)]

/-- The connection fails the second negotiation, is running all the same, and
stands in the list twice. -/
theorem enteredOnce_renegotiated :
    entries (startController 10) .new renegotiated = [.handshake, .failed] ∧
      (effects (startController 10) .new renegotiated).count .pushConn = 2 ∧
      ¬EnteredOnce (startController 10) renegotiated := by
  have entered : entries (startController 10) .new renegotiated =
      [.handshake, .failed] := by
    decide +kernel
  refine ⟨entered, by decide +kernel, ?_⟩
  intro enteredOnce
  have state := enteredOnce.fromHandshake .failed (by simp [entered])
  cases state

end OFServer

end Perfbench
