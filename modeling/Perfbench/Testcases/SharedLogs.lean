import Perfbench.Measurement
import Perfbench.Testcases.SharedSwitches

/-!
# What a tenant of shared switches measures

The FlowMods that the switches hand back to a tenant answer requests of the
connection they were sent on, and the logfile shows when the switches received
each FlowMod.
-/

namespace Perfbench

namespace SharedSwitches

/-- What a FlowMod received tells its tenant: the connection it was sent on,
the xid it was sent with, and when it was received. -/
def delivery (index : Nat) (sent : List FlowMod) :
    Step → Option (Nat × Message)
  | .receive _ position _ arrivals =>
      sent[position]?.map (fun msg =>
        (msg.xid / 10000000,
          { xid := msg.xid
            time := (arrivals index).time
            bytes := msg.length
            msgType := msg.msgType }))
  | _ => none

/-- What the switches receive of a tenant, in order. -/
def deliveries (index : Nat) (sent : List FlowMod) (steps : List Step) :
    List (Nat × Message) :=
  (steps.filter (fun taken => taken.index == index)).filterMap
    (delivery index sent)

/-- Which of its tenant's FlowMods a step receives. -/
def Step.position : Step → Option Nat
  | .receive _ position _ _ => some position
  | _ => none

/-- Which of the tenant's FlowMods the switches receive, in order. -/
def handled (index : Nat) (steps : List Step) : List Nat :=
  (steps.filter (fun taken => taken.index == index)).filterMap Step.position

/-- The callbacks of a tenant find none of the tenant's xids past the tables. -/
def Step.ReadsNo (index : Nat) (xids : List Nat) : Step → Prop
  | .receive _ _ _ arrivals =>
      ∀ position, (arrivals index).pastEnd.xids position ∉ xids
  | _ => True

theorem processFlowMod_own {template : FlowMod} {index xid : Nat}
    (rewritten : Nat) (version : template.version = 1 ∨ template.version = 4)
    (idFits : 1233 + tenantId index < 2 ^ 16) (xidFits : xid < 2 ^ 32) :
    FlowModSandwich.processFlowMod (tenantId index)
        { FlowModSandwich.prePacketSend { packet template index with xid } with
          xid := rewritten } = some (xid, xid / 10000000) := by
  have mark : (1233 + tenantId index) % 2 ^ 16 = 1233 + tenantId index :=
    Nat.mod_eq_of_lt idFits
  have recovered := @FlowModSandwich.counted_prePacketSend
    { packet template index with xid } rewritten version xidFits
  rw [FlowModSandwich.processFlowMod, recovered]
  simp only [FlowModSandwich.prePacketSend_priority, packet,
    FlowModSandwich.createPacket, mark]
  exact if_neg (fun different => different rfl)

/-- What is known of a tenant after some steps of its own. -/
structure Measures (template : FlowMod) (index : Nat) (past : List Step)
    (tenant : Tenant) : Prop where
  marked : Marked template index tenant
  xids : tenant.sent.map FlowMod.xid = sentXids tenant.events
  byLoop : History.Admissible (SentByLoop (packet template index))
    tenant.events
  received : ∀ position ∈ past.filterMap Step.position,
    position < tenant.sent.length
  returned : returnedTo tenant.events =
    past.filterMap (delivery index tenant.sent)
  answers : WithinBlocks tenant.events →
    History.Admissible OnEstablished tenant.events ∧
      History.Admissible AnswersSent tenant.events

theorem measures_fresh (template : FlowMod) (index : Nat) :
    Measures template index [] Tenant.fresh := by
  refine ⟨?_, rfl, History.admissible_nil, ?_, rfl, ?_⟩
  · intro msg member
    exact absurd member List.not_mem_nil
  · intro position member
    exact absurd member List.not_mem_nil
  · intro _
    exact ⟨History.admissible_nil, History.admissible_nil⟩

theorem deliveries_sent {index : Nat} {sent later : List FlowMod}
    {past : List Step}
    (received : ∀ position ∈ past.filterMap Step.position,
      position < sent.length) :
    past.filterMap (delivery index (sent ++ later)) =
      past.filterMap (delivery index sent) := by
  apply List.filterMap_congr
  intro taken member
  cases taken with
  | established owner connId => rfl
  | newInterval owner now => rfl
  | send owner listIndex time => rfl
  | receive owner position rewritten arrivals =>
      have inside := received position
        (List.mem_filterMap.mpr ⟨_, member, rfl⟩)
      rw [delivery, delivery, List.getElem?_append_left inside]

section Measuring

variable {template : FlowMod} {index : Nat} {past : List Step}
  {tenant : Tenant}

theorem Measures.silent {event : Event} {taken : Step}
    (measures : Measures template index past tenant)
    (unsent : event.sentXid = none) (unreturned : event.returned = none)
    (byLoop : ∀ events, SentByLoop (packet template index) events event)
    (connected : ∀ events, OnEstablished events event)
    (answers : ∀ events, AnswersSent events event)
    (unreceived : taken.position = none)
    (undelivered : ∀ sent, delivery index sent taken = none) :
    Measures template index (past ++ [taken]) (tenant.count event) := by
  refine ⟨measures.marked, ?_, ?_, ?_, ?_, ?_⟩
  · change tenant.sent.map FlowMod.xid = sentXids (tenant.events ++ [event])
    rw [sentXids_snoc, unsent, measures.xids]
    exact (List.append_nil _).symm
  · exact (History.admissible_snoc _ _).mpr ⟨measures.byLoop, byLoop _⟩
  · intro position member
    apply measures.received position
    simpa [unreceived] using member
  · change returnedTo (tenant.events ++ [event]) =
      (past ++ [taken]).filterMap (delivery index tenant.sent)
    rw [returnedTo_snoc, unreturned, measures.returned, List.filterMap_append]
    simp [undelivered]
  · intro within
    have earlier := measures.answers (withinBlocks_past within)
    exact ⟨(History.admissible_snoc _ _).mpr ⟨earlier.1, connected _⟩,
      (History.admissible_snoc _ _).mpr ⟨earlier.2, answers _⟩⟩

theorem Measures.send {owner listIndex : Nat} {time : ℚ} {after : Tenant}
    (measures : Measures template index past tenant)
    (sent : tenant.send (packet template index) listIndex time = some after) :
    Measures template index (past ++ [.send owner listIndex time]) after := by
  have marked := @Tenant.step_marked template index tenant after
    (.send owner listIndex time) sent measures.marked
  obtain ⟨⟨msg, request⟩, found, rfl⟩ := Option.map_eq_some_iff.mp sent
  obtain ⟨xid, next, pair⟩ := Option.map_eq_some_iff.mp found
  obtain ⟨tables, present, _⟩ := Option.map_eq_some_iff.mp next
  obtain ⟨msgEq, requestEq⟩ := Prod.mk.inj pair
  have sameXid : request.xid = msg.xid := by rw [← requestEq, msgEq]
  have sameTime : request.time = time := by rw [← requestEq]
  refine ⟨marked, ?_, ?_, ?_, ?_, ?_⟩
  · rw [sentXids_snoc, List.map_append, measures.xids]
    simp [Event.sentXid, sameXid]
  · refine (History.admissible_snoc _ _).mpr ⟨measures.byLoop, msg, ?_⟩
    rw [sameTime]
    exact found
  · intro position member
    have earlier := measures.received position
      (by simpa [Step.position] using member)
    simp only [List.length_append]
    omega
  · rw [returnedTo_snoc, measures.returned, List.filterMap_append,
      deliveries_sent measures.received]
    rfl
  · intro within
    obtain ⟨connected, answers⟩ :=
      measures.answers (withinBlocks_past within)
    have inside : listIndex < connections tenant.events := by
      rw [← Counter.initial_conns_length]
      exact (List.getElem?_eq_some_iff.mp present).1
    exact ⟨(History.admissible_snoc _ _).mpr ⟨connected, inside⟩,
      (History.admissible_snoc _ _).mpr ⟨answers, trivial⟩⟩

/-- The FlowMods that a tenant has sent are requests of the connections whose
index comes back. -/
theorem Measures.requested {msg : FlowMod}
    (measures : Measures template index past tenant)
    (member : msg ∈ tenant.sent) (within : WithinBlocks tenant.events) :
    msg.xid ∈ issued (onConn (msg.xid / 10000000) tenant.events) := by
  obtain ⟨connected, _⟩ := measures.answers within
  have sentXid : msg.xid ∈ sentXids tenant.events := by
    rw [← measures.xids]
    exact List.mem_map_of_mem member
  obtain ⟨connIndex, requested⟩ := mem_sentXids sentXid
  obtain ⟨position, inside, short, xid, _⟩ :=
    sent_xid_within connected measures.byLoop within requested
  have block : msg.xid / 10000000 = connIndex := by
    rw [xid, xidBase]
    omega
  rw [block]
  exact requested

theorem Measures.receive {owner position rewritten : Nat}
    {arrivals : Nat → Arrival} {msg : FlowMod}
    (version : template.version = 1 ∨ template.version = 4)
    (idFits : 1233 + tenantId index < 2 ^ 16)
    (measures : Measures template index past tenant)
    (sent : tenant.sent[position]? = some msg) :
    Measures template index
      (past ++ [.receive owner position rewritten arrivals])
      (tenant.processFlowMod index { msg with xid := rewritten }
        (arrivals index)) := by
  have member := List.mem_of_getElem? sent
  obtain ⟨xid, fits, msgEq⟩ := measures.marked msg member
  have xidEq : msg.xid = xid := by rw [msgEq, prePacketSend_xid]
  have handed := processFlowMod_own rewritten version idFits fits
  rw [← msgEq, ← xidEq] at handed
  rw [Tenant.processFlowMod, handed]
  refine ⟨measures.marked, ?_, ?_, ?_, ?_, ?_⟩
  · simp only [Tenant.count]
    rw [sentXids_snoc, measures.xids]
    exact (List.append_nil _).symm
  · exact (History.admissible_snoc _ _).mpr ⟨measures.byLoop, trivial⟩
  · intro other received
    rw [List.filterMap_append, List.mem_append] at received
    rcases received with old | new
    · exact measures.received other old
    · have same : other = position := by simpa [Step.position] using new
      rw [same]
      exact (List.getElem?_eq_some_iff.mp sent).1
  · simp only [Tenant.count]
    rw [returnedTo_snoc, measures.returned, List.filterMap_append]
    simp [delivery, sent, Event.returned]
  · intro within
    have earlier := withinBlocks_past within
    obtain ⟨connected, answers⟩ := measures.answers earlier
    have requested := measures.requested member earlier
    refine ⟨(History.admissible_snoc _ _).mpr ⟨connected, ?_⟩,
      (History.admissible_snoc _ _).mpr ⟨answers, requested⟩⟩
    exact established_of_issued connected requested

theorem Measures.step {taken : Step} {after : Tenant}
    (version : template.version = 1 ∨ template.version = 4)
    (idFits : taken.position.isSome → 1233 + tenantId index < 2 ^ 16)
    (measures : Measures template index past tenant)
    (result : tenant.step template index taken = some after) :
    Measures template index (past ++ [taken]) after := by
  cases taken with
  | established owner connId =>
      cases result
      exact measures.silent rfl rfl (fun _ => trivial) (fun _ => trivial)
        (fun _ => trivial) rfl (fun _ => rfl)
  | newInterval owner now =>
      cases result
      exact measures.silent rfl rfl (fun _ => trivial) (fun _ => trivial)
        (fun _ => trivial) rfl (fun _ => rfl)
  | send owner listIndex time => exact measures.send result
  | receive owner position rewritten arrivals =>
      obtain ⟨msg, sent, rfl⟩ := Option.map_eq_some_iff.mp result
      exact measures.receive version (idFits rfl) sent

end Measuring

def SameLength (tenants : Nat) (state : List Tenant) : Prop :=
  state.length = tenants

theorem run_length {template : FlowMod} {tenants : Nat} {steps : List Step}
    {final : List Tenant} (result : run template tenants steps = some final) :
    final.length = tenants := by
  have first : SameLength tenants (start tenants) := List.length_replicate
  apply PartialRun.always result first
  intro taken state after same stepped
  exact (step_length stepped).trans same

/-- FlowMods are received only while the loop over the callbacks ends. -/
theorem run_received {template : FlowMod} {tenants : Nat} {steps : List Step}
    {final : List Tenant} (result : run template tenants steps = some final)
    (taken : Step) (member : taken ∈ steps) (receives : taken.position.isSome) :
    tenants < 256 := by
  obtain ⟨past, future, rfl⟩ := List.mem_iff_append.mp member
  obtain ⟨before, pastResult, rest⟩ := PartialRun.run_past result
  obtain ⟨after, stepped, _⟩ := Option.bind_eq_some_iff.mp rest
  have length : before.length = tenants := run_length pastResult
  cases taken with
  | established owner connId => exact absurd receives (by simp [Step.position])
  | newInterval owner now => exact absurd receives (by simp [Step.position])
  | send owner listIndex time => exact absurd receives (by simp [Step.position])
  | receive owner position rewritten arrivals =>
      obtain ⟨msg, _, dispatched⟩ := Option.bind_eq_some_iff.mp stepped
      have few := (dispatchFlowMod_eq_some dispatched).1
      omega

/-- What is known of a tenant's steps is known of the tenant in every run. -/
theorem run_measures {template : FlowMod} {tenants : Nat} {steps : List Step}
    {final : List Tenant}
    (version : template.version = 1 ∨ template.version = 4)
    (result : run template tenants steps = some final) {index : Nat}
    {tenant : Tenant} (present : final[index]? = some tenant) :
    Measures template index
      (steps.filter (fun taken => taken.index == index)) tenant := by
  have inside := (List.getElem?_eq_some_iff.mp present).1
  rw [run_length result] at inside
  have idsFit := @History.admissible_of_forall Step
    (fun _ taken => taken.position.isSome → 1233 + tenantId index < 2 ^ 16)
    (steps.filter (fun taken => taken.index == index))
    (by
      intro taken member _ receives
      have few := run_received result taken (List.mem_filter.mp member).1
        receives
      simp only [tenantId]
      omega)
  have own := run_tenant result present
  apply PartialRun.invariant idsFit own (measures_fresh template index)
  intro past taken before after idFits _ measures stepped
  exact measures.step version idFits stepped

/-- What reaches the counter of a tenant: the requests of each connection are
numbered in its block, the responses are what the switches received of the
tenant, and they come back to connections that sent them. -/
structure Faithful (index : Nat) (steps : List Step) (tenant : Tenant) :
    Prop where
  numbered : ∀ connIndex, requestsOf (onConn connIndex tenant.events) ≠ [] →
    History.Admissible (Numbered (xidBase connIndex + 1))
      (onConn connIndex tenant.events)
  returned : returnedTo tenant.events = deliveries index tenant.sent steps
  answers : History.Admissible AnswersSent tenant.events

theorem Measures.faithful {template : FlowMod} {index : Nat}
    {steps : List Step} {tenant : Tenant}
    (measures : Measures template index
      (steps.filter (fun taken => taken.index == index)) tenant)
    (within : WithinBlocks tenant.events) : Faithful index steps tenant := by
  obtain ⟨connected, answers⟩ := measures.answers within
  refine ⟨?_, measures.returned, answers⟩
  intro connIndex nonempty
  exact sent_numbered connected measures.byLoop (within connIndex nonempty).2

/-- Whatever the hypervisor does to the FlowMods of the tenants, and however
the steps of the tenants are interleaved, each tenant counts what it sent. -/
theorem run_faithful {template : FlowMod} {tenants : Nat} {steps : List Step}
    {final : List Tenant}
    (version : template.version = 1 ∨ template.version = 4)
    (result : run template tenants steps = some final) {index : Nat}
    {tenant : Tenant} (present : final[index]? = some tenant)
    (within : WithinBlocks tenant.events) : Faithful index steps tenant := by
  have measures := run_measures version result present
  exact measures.faithful within

theorem Tenant.step_readsNo {template : FlowMod} {index : Nat}
    {tenant after : Tenant} {taken : Step} {xids : List Nat}
    (result : tenant.step template index taken = some after)
    (readsNo : taken.ReadsNo index xids)
    (reads : EventsReadNo xids tenant.events) :
    EventsReadNo xids after.events := by
  cases taken with
  | established owner connId =>
      cases result
      apply reads.snoc
      intro connIndex connEvent seen
      exact absurd seen (by simp [Event.onConn])
  | newInterval owner now =>
      cases result
      apply reads.snoc
      intro connIndex connEvent seen
      exact absurd seen (by simp [Event.onConn])
  | send owner listIndex time =>
      obtain ⟨message, _, rfl⟩ := Option.map_eq_some_iff.mp result
      apply reads.snoc
      intro connIndex connEvent seen
      simp only [Event.onConn, Option.ite_none_right_eq_some,
        Option.some.injEq] at seen
      rw [← seen.2]
      trivial
  | receive owner position rewritten arrivals =>
      obtain ⟨msg, _, rfl⟩ := Option.map_eq_some_iff.mp result
      unfold Tenant.processFlowMod
      split
      · exact reads
      · apply reads.snoc
        intro connIndex connEvent seen
        simp only [Event.onConn, Option.ite_none_right_eq_some,
          Option.some.injEq] at seen
        rw [← seen.2]
        exact readsNo

theorem run_readsNo {template : FlowMod} {tenants : Nat} {steps : List Step}
    {final : List Tenant} (result : run template tenants steps = some final)
    {index : Nat} {tenant : Tenant} (present : final[index]? = some tenant)
    {xids : List Nat}
    (readsNo : ∀ taken ∈ steps, taken.ReadsNo index xids) :
    EventsReadNo xids tenant.events := by
  have own := run_tenant result present
  have allowed := @History.admissible_of_forall Step
    (fun _ taken => taken.ReadsNo index xids)
    (steps.filter (fun taken => taken.index == index))
    (by
      intro taken member _
      exact readsNo taken (List.mem_filter.mp member).1)
  have first : EventsReadNo xids Tenant.fresh.events := by
    intro connIndex event member
    exact absurd member List.not_mem_nil
  apply @PartialRun.invariant _ _ _ _ _
    (fun _ after => EventsReadNo xids after.events) _ _ allowed own first
  intro past taken before after readsNo _ reads stepped
  exact Tenant.step_readsNo stepped readsNo reads

theorem deliveries_xids {index : Nat} {sent : List FlowMod}
    (steps : List Step) :
    (deliveries index sent steps).map (fun entry => entry.2.xid) =
      (handled index steps).filterMap
        (fun position => (sent.map FlowMod.xid)[position]?) := by
  rw [deliveries, handled, List.map_filterMap, List.filterMap_filterMap]
  apply List.filterMap_congr
  intro taken _
  cases taken with
  | established owner connId => rfl
  | newInterval owner now => rfl
  | send owner listIndex time => rfl
  | receive owner position rewritten arrivals =>
      simp [delivery, Step.position, Option.map_map, Function.comp_def]

/-- FlowMods handled at most once answer their requests at most once. -/
theorem Measures.once {template : FlowMod} {index : Nat} {steps : List Step}
    {tenant : Tenant}
    (measures : Measures template index
      (steps.filter (fun taken => taken.index == index)) tenant)
    (within : WithinBlocks tenant.events)
    (once : (handled index steps).Nodup) (connIndex : Nat) :
    History.Admissible AnswersOnce (onConn connIndex tenant.events) := by
  obtain ⟨connected, _⟩ := measures.answers within
  have distinct := distinct_of_withinBlocks connected measures.byLoop within
  rw [← measures.xids] at distinct
  have deliveredOnce : ((deliveries index tenant.sent steps).map
      (fun entry => entry.2.xid)).Nodup := by
    rw [deliveries_xids]
    apply List.Nodup.filterMap _ once
    intro first second xid firstAt secondAt
    have inside := (List.getElem?_eq_some_iff.mp firstAt).1
    apply (List.getElem?_inj inside distinct).mp
    exact firstAt.trans secondAt.symm
  rw [answersOnce_iff, answered, responsesOf_onConn, List.map_map]
  have returned : returnedTo tenant.events =
      deliveries index tenant.sent steps := measures.returned
  rw [returned]
  apply List.Nodup.sublist _ deliveredOnce
  exact List.filter_sublist.map _

/-- The first arrival at the switches of the FlowMod with an xid. -/
def arrivalOf (index : Nat) (sent : List FlowMod) (steps : List Step)
    (xid : Nat) : Option Message :=
  ((deliveries index sent steps).find? (fun entry => entry.2.xid == xid)).map
    Prod.snd

theorem delivery_block {index : Nat} {sent : List FlowMod} {steps : List Step}
    {entry : Nat × Message} (member : entry ∈ deliveries index sent steps) :
    entry.1 = entry.2.xid / 10000000 := by
  obtain ⟨taken, _, delivered⟩ := List.mem_filterMap.mp member
  cases taken with
  | established owner connId => simp [delivery] at delivered
  | newInterval owner now => simp [delivery] at delivered
  | send owner listIndex time => simp [delivery] at delivered
  | receive owner position rewritten arrivals =>
      obtain ⟨msg, _, rfl⟩ := Option.map_eq_some_iff.mp delivered
      rfl

/-- The response to a request is the arrival of the FlowMod that made it. -/
theorem Faithful.responseTo_eq {index connIndex xid : Nat} {steps : List Step}
    {tenant : Tenant} (faithful : Faithful index steps tenant)
    (block : xid / 10000000 = connIndex) :
    responseTo (onConn connIndex tenant.events) xid =
      arrivalOf index tenant.sent steps xid := by
  rw [responseTo, responsesOf_onConn, faithful.returned, arrivalOf,
    List.find?_map, List.find?_filter]
  congr 1
  apply List.find?_congr
  intro entry member
  have entryBlock := delivery_block member
  by_cases same : entry.2.xid = xid
  · simp [same, entryBlock, block]
  · simp [same]

/-- When the switches handle each FlowMod of a tenant at most once, every row
of its logfile, past the first of each connection, shows when they received
the FlowMod of the row, and zeros for a FlowMod that they never received. -/
theorem run_rows {template : FlowMod} {tenants : Nat} {steps : List Step}
    {final : List Tenant}
    (version : template.version = 1 ∨ template.version = 4)
    (result : run template tenants steps = some final) {index : Nat}
    {tenant : Tenant} (present : final[index]? = some tenant)
    (within : WithinBlocks tenant.events)
    (readsNo : ∀ taken ∈ steps, taken.ReadsNo index (sentXids tenant.events))
    (once : (handled index steps).Nodup) {connIndex position : Nat}
    {request : Message} (positive : 0 < position)
    (requestAt : (requestsOf (onConn connIndex tenant.events))[position]? =
      some request) :
    ((writeLogfile tenant.counter).filter
        (fun row => row.connIndex == connIndex))[position]? =
      some (LogRow.of connIndex request
        (arrivalOf index tenant.sent steps request.xid)) := by
  have measures := run_measures version result present
  have faithful := measures.faithful within
  obtain ⟨connected, answers⟩ := measures.answers within
  have reads := run_readsNo result present readsNo
  have nonempty : requestsOf (onConn connIndex tenant.events) ≠ [] :=
    List.ne_nil_of_mem (List.mem_of_getElem? requestAt)
  have connRun := connRun_of_answersSent connected measures.byLoop answers
    within reads nonempty
  have inside := (List.getElem?_eq_some_iff.mp requestAt).1
  have xid := requestsOf_xid connRun.numbered position request requestAt
  have block : request.xid / 10000000 = connIndex := by
    have short := (within connIndex nonempty).1
    rw [xid, xidBase]
    omega
  have row := logged_row connected connRun
    (measures.once within once connIndex) positive requestAt
  rw [faithful.responseTo_eq block] at row
  exact row

def sampleTenant : Tenant := sampleFinal[0]?.getD Tenant.fresh

theorem sampleTenant_present : sampleFinal[0]? = some sampleTenant := rfl

def sampleMessage (xid : Nat) (time : ℚ) : Message :=
  { xid
    time
    bytes := 96
    msgType := 14 }

theorem sampleTenant_events :
    sampleTenant.events =
      [.established 7, .request 0 (sampleMessage 1 1),
        .request 0 (sampleMessage 2 3),
        .response 0 (sampleMessage 2 4) zeroPastEnd,
        .response 0 (sampleMessage 1 6) zeroPastEnd] := rfl

theorem sampleTenant_within : WithinBlocks sampleTenant.events := by
  intro connIndex nonempty
  by_cases first : connIndex = 0
  · subst first
    exact ⟨by decide, by decide⟩
  · have different : 0 ≠ connIndex := Ne.symm first
    have nothing : requestsOf (onConn connIndex sampleTenant.events) = [] := by
      simp [sampleTenant_events, onConn_cons, Event.onConn, different]
    exact absurd nothing nonempty

theorem sampleSteps_readsNo (taken : Step) (member : taken ∈ sampleSteps) :
    taken.ReadsNo 0 (sentXids sampleTenant.events) := by
  have xids : sentXids sampleTenant.events = [1, 2] := rfl
  rw [xids]
  simp only [sampleSteps, List.mem_cons, List.not_mem_nil, or_false] at member
  rcases member with rfl | rfl | rfl | rfl | rfl | rfl | rfl | rfl
  all_goals simp [Step.ReadsNo, sampleArrivals, zeroPastEnd]

theorem run_faithful_sample : Faithful 0 sampleSteps sampleTenant :=
  run_faithful (.inr rfl) sampleSteps_run sampleTenant_present
    sampleTenant_within

/-- The row of the second FlowMod shows that it was received at time 4. -/
theorem run_rows_sample :
    ((writeLogfile sampleTenant.counter).filter
        (fun row => row.connIndex == 0))[1]? =
      some (LogRow.of 0 (sampleMessage 2 3) (some (sampleMessage 2 4))) :=
  run_rows (.inr rfl) sampleSteps_run sampleTenant_present
    sampleTenant_within sampleSteps_readsNo (by decide) (by decide) rfl

end SharedSwitches

end Perfbench
