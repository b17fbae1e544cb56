import Perfbench.Testcases.FeaturesRequest

/-!
# Messages around a step

A step takes at most the first message of one queue, and what it sends goes
behind everything that waits already.  So what waits behind the first messages,
and what was sent before, may be left out of a step and put back after it.
-/

namespace Perfbench

namespace FeaturesRequest

/-- Messages before and behind those in the queues of a connection. -/
structure Around where
  beforeController : List OFMessage
  behindController : List OFMessage
  beforeSwitch : List OFMessage
  behindSwitch : List OFMessage

def Link.around (messages : Around) (link : Link) : Link :=
  { link with
    toController := messages.beforeController ++ link.toController ++
      messages.behindController
    toSwitch := messages.beforeSwitch ++ link.toSwitch ++
      messages.behindSwitch }

def Bench.around (messages : List Around) (bench : Bench) : Bench :=
  { bench with links := List.zipWith Link.around messages bench.links }

section Effects

variable {messages : Around} {index : Nat} {msg : OFMessage} {time : ℚ}
  {pastEnd : PastEnd}

/-- The callbacks of the controller only send behind the other messages. -/
theorem perform_around (last : messages.behindSwitch = []) (links : List Link)
    (state : Bench × Link) (effect : Effect EventType) :
    perform index msg time pastEnd
        ({ state.1 with links }, state.2.around messages) effect =
      (perform index msg time pastEnd state effect).map (fun after =>
        ({ after.1 with links }, after.2.around messages)) := by
  obtain ⟨bench, link⟩ := state
  cases effect with
  | send sent => simp [perform, Link.around, last]
  | addTimedCallback interval => rfl
  | pushConn => rfl
  | dispatch event =>
      cases event with
      | featuresReply =>
          cases established : link.listIndex with
          | none => simp [perform, Link.around, established]
          | some listIndex =>
              simp [perform, Link.around, established, processFeaturesReply]
      | _ => rfl

theorem performSwitch_around (last : messages.behindController = [])
    (link : Link) (effect : Effect SwitchEventType) :
    performSwitch (link.around messages) effect =
      (performSwitch link effect).map (Link.around messages) := by
  cases effect with
  | send sent => simp [performSwitch, Link.around, last]
  | addTimedCallback interval => rfl
  | pushConn => rfl
  | dispatch event => cases event <;> rfl

end Effects

section Links

variable {ofVersion : Int} {messages : Around} {bench : Bench}
  {link after : Link} {changed : Bench × Link}

theorem controllerReceives_around {index : Nat} {time : ℚ} {pastEnd : PastEnd}
    (next : messages.beforeController = []) (last : messages.behindSwitch = [])
    (links : List Link)
    (result : controllerReceives ofVersion index time pastEnd bench link =
      some changed) :
    controllerReceives ofVersion index time pastEnd { bench with links }
        (link.around messages) =
      some ({ changed.1 with links }, changed.2.around messages) := by
  cases queue : link.toController with
  | nil => simp [controllerReceives, queue] at result
  | cons msg waiting =>
      have waits : (link.around messages).toController =
          msg :: (waiting ++ messages.behindController) := by
        rw [Link.around, next, queue]
        rfl
      have whole := PartialRun.run_map
        (@perform_around messages index msg time pastEnd last links)
        (OFServer.react (startController ofVersion) link.controllerEnd
          (.message msg)).2
        (bench,
          { link with
            controllerEnd := (OFServer.react (startController ofVersion)
              link.controllerEnd (.message msg)).1
            toController := waiting })
      simp only [controllerReceives, queue] at result
      rw [PartialRun.run, PartialRun.run, result] at whole
      simp only [controllerReceives, waits]
      refine Eq.trans ?_ whole
      simp only [Link.around, next, List.nil_append]

theorem switchReceives_around (next : messages.beforeSwitch = [])
    (last : messages.behindController = [])
    (result : switchReceives link = some after) :
    switchReceives (link.around messages) = some (after.around messages) := by
  cases queue : link.toSwitch with
  | nil => simp [switchReceives, queue] at result
  | cons msg waiting =>
      have waits : (link.around messages).toSwitch =
          msg :: (waiting ++ messages.behindSwitch) := by
        rw [Link.around, next, queue]
        rfl
      have whole := PartialRun.run_map (@performSwitch_around messages last)
        (OFClient.baseMessageCallback Switch.settings 4 [1, 2] msg
          link.switchEnd).2
        { link with
          switchEnd := (OFClient.baseMessageCallback Switch.settings 4 [1, 2]
            msg link.switchEnd).1
          toSwitch := waiting }
      simp only [switchReceives, queue] at result
      rw [PartialRun.run, PartialRun.run, result] at whole
      simp only [switchReceives, waits]
      refine Eq.trans ?_ whole
      simp only [Link.around, next, List.nil_append]

theorem controllerTimer_around (last : messages.behindSwitch = [])
    (result : controllerTimer ofVersion link = some after) :
    controllerTimer ofVersion (link.around messages) =
      some (after.around messages) := by
  unfold controllerTimer at result ⊢
  split at result
  · rename_i timed
    cases result
    rw [if_pos (show (link.around messages).controllerTimed ∧
      (link.around messages).controllerEnd.alive from timed)]
    simp [Link.around, last]
  · cases result

theorem switchTimer_around (last : messages.behindController = [])
    (result : switchTimer link = some after) :
    switchTimer (link.around messages) = some (after.around messages) := by
  unfold switchTimer at result ⊢
  split at result
  · rename_i timed
    cases result
    rw [if_pos (show (link.around messages).switchTimed ∧
      (link.around messages).switchEnd.alive from timed)]
    simp [Link.around, last]
  · cases result

theorem send_around {time : ℚ} (last : messages.behindSwitch = [])
    (links : List Link)
    (result : send ofVersion time bench link = some changed) :
    send ofVersion time { bench with links } (link.around messages) =
      some ({ changed.1 with links }, changed.2.around messages) := by
  obtain ⟨listIndex, established, numbered⟩ :=
    Option.bind_eq_some_iff.mp result
  obtain ⟨xid, next, rfl⟩ := Option.map_eq_some_iff.mp numbered
  have same : (link.around messages).listIndex = some listIndex := established
  rw [send, same, Option.bind_some, next, Option.map_some]
  simp [Link.around, last, established]

def Around.nothing : Around :=
  { beforeController := []
    behindController := []
    beforeSwitch := []
    behindSwitch := [] }

theorem Link.around_nothing (link : Link) : link.around .nothing = link := by
  simp [Link.around, Around.nothing]

theorem controllerReceives_links {index : Nat} {time : ℚ} {pastEnd : PastEnd}
    (result : controllerReceives ofVersion index time pastEnd bench link =
      some changed) : changed.1.links = bench.links := by
  have same := @controllerReceives_around _ .nothing _ _ _ _ _ _ rfl rfl
    bench.links result
  rw [Link.around_nothing, Link.around_nothing] at same
  have changes := Option.some.inj (result.symm.trans same)
  rw [changes]

theorem send_links {time : ℚ}
    (result : send ofVersion time bench link = some changed) :
    changed.1.links = bench.links := by
  have same := @send_around _ .nothing _ _ _ _ rfl bench.links result
  rw [Link.around_nothing, Link.around_nothing] at same
  have changes := Option.some.inj (result.symm.trans same)
  rw [changes]

end Links

theorem zipWith_set {α β γ : Type*} (combine : α → β → γ) {first : List α}
    {second : List β} {index : Nat} {item : α} (value : β)
    (present : first[index]? = some item) :
    List.zipWith combine first (second.set index value) =
      (List.zipWith combine first second).set index (combine item value) := by
  apply List.ext_getElem?
  intro position
  rw [List.getElem?_zipWith, List.getElem?_set, List.getElem?_set,
    List.getElem?_zipWith, List.length_zipWith]
  by_cases same : index = position
  · subst same
    have inside := (List.getElem?_eq_some_iff.mp present).1
    rw [if_pos rfl, if_pos rfl, present]
    by_cases room : index < second.length
    · rw [if_pos room, if_pos (by omega)]
    · rw [if_neg room, if_neg (by omega)]
  · rw [if_neg same, if_neg same]

section Steps

variable {ofVersion : Int} {messages : List Around} {bench after : Bench}

theorem onLink_around {index : Nat}
    {change : Bench → Link → Option (Bench × Link)}
    (lengths : messages.length = bench.links.length)
    (links : ∀ link changed, change bench link = some changed →
      changed.1.links = bench.links)
    (commutes : ∀ around link changed, messages[index]? = some around →
      change bench link = some changed →
        change { bench with links := (bench.around messages).links }
            (link.around around) =
          some ({ changed.1 with links := (bench.around messages).links },
            changed.2.around around))
    (result : bench.onLink index change = some after) :
    (bench.around messages).onLink index change =
      some (after.around messages) := by
  obtain ⟨link, present, changes⟩ := Option.bind_eq_some_iff.mp result
  obtain ⟨changed, stepped, rfl⟩ := Option.map_eq_some_iff.mp changes
  have inside := (List.getElem?_eq_some_iff.mp present).1
  have room : index < messages.length := by omega
  have around := List.getElem?_eq_getElem room
  have there : (bench.around messages).links[index]? =
      some (link.around messages[index]) := by
    rw [Bench.around, List.getElem?_zipWith, around, present]
  have commuted := commutes _ _ _ around stepped
  have same := links _ _ stepped
  rw [Bench.onLink, there, Option.bind_some]
  have whole : change (bench.around messages) (link.around messages[index]) =
      _ := commuted
  rw [whole, Option.map_some, Option.some.injEq]
  simp only [Bench.around, same]
  rw [zipWith_set _ _ around]

theorem onEnds_around {index : Nat} {change : Link → Option Link}
    (lengths : messages.length = bench.links.length)
    (commutes : ∀ around link changed, messages[index]? = some around →
      change link = some changed →
        change (link.around around) = some (changed.around around))
    (result : bench.onLink index (fun bench link =>
      (change link).map (fun link => (bench, link))) = some after) :
    (bench.around messages).onLink index (fun bench link =>
      (change link).map (fun link => (bench, link))) =
      some (after.around messages) := by
  apply onLink_around lengths _ _ result
  · intro link changed changes
    obtain ⟨received, -, rfl⟩ := Option.map_eq_some_iff.mp changes
    rfl
  · intro around link changed present changes
    obtain ⟨received, stepped, rfl⟩ := Option.map_eq_some_iff.mp changes
    rw [commutes around link received present stepped]
    rfl

/-- The messages around leave room for what the step takes and sends. -/
def Fits (messages : List Around) : Step → Prop
  | .connect => False
  | .toSwitch index => ∀ around, messages[index]? = some around →
      around.beforeSwitch = [] ∧ around.behindController = []
  | .toController index _ _ => ∀ around, messages[index]? = some around →
      around.beforeController = [] ∧ around.behindSwitch = []
  | .switchTimer index => ∀ around, messages[index]? = some around →
      around.behindController = []
  | .controllerTimer index => ∀ around, messages[index]? = some around →
      around.behindSwitch = []
  | .send _ _ => ∀ around ∈ messages, around.behindSwitch = []
  | .newInterval _ => True

theorem step_around {taken : Step}
    (lengths : messages.length = bench.links.length)
    (fits : Fits messages taken)
    (result : step ofVersion bench taken = some after) :
    step ofVersion (bench.around messages) taken =
      some (after.around messages) := by
  cases taken with
  | connect => exact absurd fits id
  | toSwitch index =>
      rw [step] at result ⊢
      apply onEnds_around lengths _ result
      intro around link changed present stepped
      obtain ⟨next, last⟩ := fits around present
      exact switchReceives_around next last stepped
  | toController index time pastEnd =>
      rw [step] at result ⊢
      apply onLink_around lengths _ _ result
      · intro link changed changes
        exact controllerReceives_links changes
      · intro around link changed present changes
        obtain ⟨next, last⟩ := fits around present
        exact controllerReceives_around next last _ changes
  | switchTimer index =>
      rw [step] at result ⊢
      apply onEnds_around lengths _ result
      intro around link changed present stepped
      exact switchTimer_around (fits around present) stepped
  | controllerTimer index =>
      rw [step] at result ⊢
      apply onEnds_around lengths _ result
      intro around link changed present stepped
      exact controllerTimer_around (fits around present) stepped
  | send position time =>
      obtain ⟨index, listed, sends⟩ := Option.bind_eq_some_iff.mp result
      have same : (bench.around messages).conns[position]? = some index :=
        listed
      rw [step, same, Option.bind_some]
      apply onLink_around lengths _ _ sends
      · intro link changed changes
        exact send_links changes
      · intro around link changed present changes
        exact send_around (fits around (List.mem_of_getElem? present)) _
          changes
  | newInterval now =>
      cases result
      rfl

end Steps

end FeaturesRequest

end Perfbench
