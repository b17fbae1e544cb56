import Perfbench.Testcases.FeaturesLog

/-!
# Every request is answered

A message gives rise to at most one other, which is a smaller one: a HELLO to
a FEATURES_REQUEST, a request to its reply.  So once the tenant has stopped
sending every order of deliveries ends, and where it ends every request is
answered.
-/

namespace Perfbench

namespace FeaturesRequest

/-- The number of messages that come of a message to the controller, itself
included. -/
def controllerWeight (msg : OFMessage) : Nat :=
  if msg.ofType = 0 then 3 else if msg.ofType = 2 then 2 else 1

/-- The same of a message to the switch. -/
def switchWeight (msg : OFMessage) : Nat :=
  if msg.ofType = 5 ∨ msg.ofType = 2 then 2 else 1

namespace Link

def rank (link : Link) : Nat :=
  (link.toController.map controllerWeight).sum +
    (link.toSwitch.map switchWeight).sum

theorem Sound.rank_switchReceives {events : List Event} {link after : Link}
    (sound : link.Sound events)
    (result : FeaturesRequest.switchReceives link = some after) :
    after.rank < link.rank := by
  cases queue : link.toSwitch with
  | nil => simp [FeaturesRequest.switchReceives, queue] at result
  | cons msg waiting =>
      have first := sound.fromController msg (by rw [queue]; exact .head _)
      by_cases request : msg.ofType = 5
      · obtain ⟨switchEnd, switchTimed, received⟩ :=
          switchReceives_featuresRequest queue request
        rw [result, Option.some.injEq] at received
        subst received
        have reply : controllerWeight (OFClient.featuresReply msg) = 1 := rfl
        have weight : switchWeight msg = 2 := if_pos (.inl request)
        simp only [rank, queue, List.map_append, List.map_cons, List.map_nil,
          List.sum_append, List.sum_cons, List.sum_nil, reply, weight]
        omega
      · obtain ⟨switchEnd, received⟩ := switchReceives_other queue first request
        rw [result, Option.some.injEq] at received
        subst received
        have smaller : ((echoReplies (OFMessage.header msg.version 3 8 msg.xid)
            msg).map controllerWeight).sum < switchWeight msg := by
          unfold echoReplies switchWeight
          by_cases echo : msg.ofType = 2
          · simp [echo, controllerWeight, OFMessage.header]
          · simp [echo, request]
        simp only [rank, queue, List.map_append, List.map_cons,
          List.sum_append, List.sum_cons]
        omega

theorem rank_controllerReceives {ofVersion : Int} {tenantId index : Nat}
    {time : ℚ} {pastEnd : PastEnd} {ports : List Nat} {bench : Bench}
    {events : List Event} {link : Link} {result : Bench × Link}
    (registered : Controller.Registered .featuresRequest tenantId ports
      bench.controller)
    (sound : link.Sound events)
    (taken : controllerReceives ofVersion index time pastEnd bench link =
      some result) : result.2.rank < link.rank := by
  obtain ⟨msg, waiting, queue, received⟩ := sound.of_received registered taken
  cases received with
  | hello ofType outcome =>
      rename_i controllerEnd sent
      have weight : controllerWeight msg = 3 := if_pos ofType
      have smaller : (sent.map switchWeight).sum ≤ 2 := by
        rcases outcome with ⟨_, rfl⟩ | ⟨_, rfl | rfl⟩
        · exact Nat.le_refl 2
        · exact Nat.le_succ 1
        · exact Nat.zero_le 2
      simp only [rank, queue, List.map_append, List.map_cons, List.sum_append,
        List.sum_cons, weight]
      omega
  | echo ofType =>
      have smaller : ((echoReplies { msg with ofType := 3 } msg).map
          switchWeight).sum < controllerWeight msg := by
        unfold echoReplies controllerWeight
        rcases ofType with request | reply
        · simp [request, switchWeight]
        · simp [reply]
      simp only [rank, queue, List.map_append, List.map_cons, List.sum_append,
        List.sum_cons]
      omega
  | established ofType unestablished running connected =>
      have weight : controllerWeight msg = 1 := by
        simp [controllerWeight, ofType]
      simp only [rank, queue, List.map_cons, List.sum_cons, weight]
      omega
  | counted ofType established =>
      have weight : controllerWeight msg = 1 := by
        simp [controllerWeight, ofType]
      simp only [rank, queue, List.map_cons, List.sum_cons, weight]
      omega

end Link

def Bench.rank (bench : Bench) : Nat := (bench.links.map Link.rank).sum

/-- The steps that deliver a message. -/
def Step.Delivers : Step → Prop
  | .toSwitch _ => True
  | .toController _ _ _ => True
  | _ => False

theorem sum_map_set_lt {α : Type*} {rank : α → Nat} {items : List α}
    {index : Nat} {item changed : α} (present : items[index]? = some item)
    (smaller : rank changed < rank item) :
    ((items.set index changed).map rank).sum < (items.map rank).sum := by
  induction items generalizing index with
  | nil => simp at present
  | cons head items induction =>
      cases index with
      | zero =>
          simp only [List.getElem?_cons_zero, Option.some.injEq] at present
          subst present
          simp only [List.set_cons_zero, List.map_cons, List.sum_cons]
          omega
      | succ index =>
          simp only [List.getElem?_cons_succ] at present
          have rest := induction present
          simp only [List.set_cons_succ, List.map_cons, List.sum_cons]
          omega

section Deliveries

variable {ofVersion : Int} {tenantId : Nat} {bench after : Bench}
  {taken : Step}

theorem onLink_rank {index : Nat}
    {change : Bench → Link → Option (Bench × Link)}
    (result : bench.onLink index change = some after)
    (each : ∀ link changed, bench.links[index]? = some link →
      change bench link = some changed →
        changed.1.links = bench.links ∧ changed.2.rank < link.rank) :
    after.rank < bench.rank := by
  obtain ⟨link, present, changed⟩ := Option.bind_eq_some_iff.mp result
  obtain ⟨pair, stepped, rfl⟩ := Option.map_eq_some_iff.mp changed
  obtain ⟨links, smaller⟩ := each link pair present stepped
  rw [Bench.rank, Bench.rank, links]
  exact sum_map_set_lt present smaller

theorem Consistent.rank_step (consistent : Consistent tenantId bench)
    (delivers : taken.Delivers)
    (result : FeaturesRequest.step ofVersion bench taken = some after) :
    after.rank < bench.rank := by
  cases taken with
  | toSwitch index =>
      rw [FeaturesRequest.step] at result
      apply onLink_rank result
      intro link changed present stepped
      obtain ⟨next, received, rfl⟩ := Option.map_eq_some_iff.mp stepped
      exact ⟨rfl, (consistent.sound index link present).rank_switchReceives
        received⟩
  | toController index time pastEnd =>
      obtain ⟨ports, registered⟩ := consistent.registered
      rw [FeaturesRequest.step] at result
      apply onLink_rank result
      intro link changed present received
      refine ⟨(consistent.controllerStep present received).links, ?_⟩
      exact Link.rank_controllerReceives registered
        (consistent.sound index link present) received
  | connect => exact delivers.elim
  | switchTimer index => exact delivers.elim
  | controllerTimer index => exact delivers.elim
  | send position time => exact delivers.elim
  | newInterval now => exact delivers.elim

theorem Consistent.requests_step (consistent : Consistent tenantId bench)
    (delivers : taken.Delivers)
    (result : FeaturesRequest.step ofVersion bench taken = some after)
    (connIndex : Nat) :
    issued (onConn connIndex after.events) =
      issued (onConn connIndex bench.events) := by
  cases taken with
  | toSwitch index =>
      obtain ⟨link, present, changed⟩ := Option.bind_eq_some_iff.mp result
      obtain ⟨pair, stepped, rfl⟩ := Option.map_eq_some_iff.mp changed
      obtain ⟨next, received, rfl⟩ := Option.map_eq_some_iff.mp stepped
      rfl
  | toController index time pastEnd =>
      obtain ⟨ports, registered⟩ := consistent.registered
      obtain ⟨link, present, changed⟩ := Option.bind_eq_some_iff.mp result
      obtain ⟨pair, stepped, rfl⟩ := Option.map_eq_some_iff.mp changed
      obtain ⟨msg, waiting, queue, received⟩ :=
        (consistent.sound index link present).of_received registered stepped
      cases received with
      | hello ofType outcome => rfl
      | echo ofType => rfl
      | established ofType unestablished running connected =>
          simp only [onConn_append, onConn_singleton, issued_append]
          exact List.append_nil _
      | counted ofType established =>
          rename_i ownIndex
          simp only [onConn_append, onConn_singleton, issued_append]
          by_cases own : ownIndex = connIndex
          · simp [Event.onConn, own, issued]
          · simp [Event.onConn, own, issued]
  | connect => exact delivers.elim
  | switchTimer index => exact delivers.elim
  | controllerTimer index => exact delivers.elim
  | send position time => exact delivers.elim
  | newInterval now => exact delivers.elim

theorem Consistent.delivered (consistent : Consistent tenantId bench)
    (stuck : ∀ taken : Step, taken.Delivers →
      FeaturesRequest.step ofVersion bench taken = none)
    {index : Nat} {link : Link}
    (present : bench.links[index]? = some link) :
    link.toController = [] ∧ link.toSwitch = [] := by
  have sound := consistent.sound index link present
  obtain ⟨ports, registered⟩ := consistent.registered
  constructor
  · cases queue : link.toController with
    | nil => rfl
    | cons msg waiting =>
        obtain ⟨result, received, _⟩ := @Link.Sound.received ofVersion tenantId
          ports bench.events bench link msg waiting sound registered queue index
          0 zeroPastEnd
        have nothing := stuck (.toController index 0 zeroPastEnd) trivial
        rw [FeaturesRequest.step, Bench.onLink, present, Option.bind_some,
          received] at nothing
        cases nothing
  · cases queue : link.toSwitch with
    | nil => rfl
    | cons msg waiting =>
        have nothing := stuck (.toSwitch index) trivial
        rw [FeaturesRequest.step, Bench.onLink, present,
          Option.bind_some] at nothing
        by_cases request : msg.ofType = 5
        · obtain ⟨switchEnd, switchTimed, received⟩ :=
            switchReceives_featuresRequest queue request
          rw [received] at nothing
          cases nothing
        · obtain ⟨switchEnd, received⟩ := switchReceives_other queue
            (sound.fromController msg (by rw [queue]; exact .head _)) request
          rw [received] at nothing
          cases nothing

end Deliveries

/-- From any point of a run on, with all connections still open, every order of
deliveries ends; and where it ends, every request of every connection has been
answered. -/
theorem run_answers {ofVersion : Int} {tenantId : Nat} {steps : List Step}
    {final after : Bench} {deliveries : List Step}
    (result : run ofVersion tenantId steps = some final)
    (all : ∀ taken ∈ deliveries, taken.Delivers)
    (delivered : PartialRun.run (step ofVersion) final deliveries =
      some after) :
    deliveries.length ≤ final.rank ∧
      ((∀ taken : Step, taken.Delivers → step ofVersion after taken = none) →
        ∀ (index : Nat) (link : Link) (connIndex : Nat),
          after.links[index]? = some link → link.listIndex = some connIndex →
            issued (onConn connIndex final.events) =
              answered (onConn connIndex after.events)) := by
  have consistent := run_consistent result
  have keeps : ∀ taken bench after, Consistent tenantId bench →
      step ofVersion bench taken = some after → Consistent tenantId after := by
    intro taken bench after consistent stepped
    exact consistent.step stepped
  have consistentAfter := PartialRun.always delivered consistent keeps
  constructor
  · have bounded := PartialRun.length_le_rank delivered consistent keeps
      (fun taken bench after delivers consistent stepped =>
        consistent.rank_step delivers stepped) all
    omega
  · intro stuck index link connIndex present established
    have allowed := @History.admissible_of_forall Step
      (fun _ taken => taken.Delivers) deliveries
      (fun taken member _ => all taken member)
    have unsent := @PartialRun.invariant _ _ (step ofVersion) final _
      (fun _ bench => Consistent tenantId bench ∧
        issued (onConn connIndex bench.events) =
          issued (onConn connIndex final.events)) deliveries after allowed
      delivered ⟨consistent, rfl⟩ (by
        intro past taken bench next delivers _ holds stepped
        refine ⟨holds.1.step stepped, ?_⟩
        rw [holds.1.requests_step delivers stepped]
        exact holds.2)
    have conserved := ((consistentAfter.sound index link present).running
      connIndex established).conserved
    obtain ⟨noReply, noRequest⟩ := consistentAfter.delivered stuck present
    rw [← unsent.2, conserved, Link.replied, Link.asked, noReply, noRequest]
    simp [ofTypeXids]

/-- The deliveries after which the second request is answered, too. -/
def sampleDeliveries : List Step :=
  [.toSwitch 0, .toController 0 4 zeroPastEnd]

theorem sampleDeliveries_isSome :
    (PartialRun.run (step 13) sampleFinal sampleDeliveries).isSome = true := rfl

def sampleAfter : Bench :=
  (PartialRun.run (step 13) sampleFinal sampleDeliveries).get
    sampleDeliveries_isSome

theorem sampleDeliveries_run :
    PartialRun.run (step 13) sampleFinal sampleDeliveries =
      some sampleAfter :=
  (Option.some_get sampleDeliveries_isSome).symm

theorem sampleDeliveries_deliver (taken : Step)
    (member : taken ∈ sampleDeliveries) : taken.Delivers := by
  simp only [sampleDeliveries, List.mem_cons, List.not_mem_nil, or_false]
    at member
  rcases member with rfl | rfl
  · trivial
  · trivial

theorem sampleAfter_stuck (taken : Step) (delivers : taken.Delivers) :
    step 13 sampleAfter taken = none := by
  cases taken with
  | toSwitch index =>
      cases index with
      | zero => rfl
      | succ index => rfl
  | toController index time pastEnd =>
      cases index with
      | zero => rfl
      | succ index => rfl
  | connect => exact delivers.elim
  | switchTimer index => exact delivers.elim
  | controllerTimer index => exact delivers.elim
  | send position time => exact delivers.elim
  | newInterval now => exact delivers.elim

theorem run_answers_sample :
    issued (onConn 0 sampleFinal.events) =
      answered (onConn 0 sampleAfter.events) :=
  (run_answers sampleSteps_run sampleDeliveries_deliver
    sampleDeliveries_run).2 sampleAfter_stuck 0 _ 0 rfl rfl

end FeaturesRequest

end Perfbench
