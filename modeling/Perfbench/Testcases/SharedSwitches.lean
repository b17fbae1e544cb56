import Perfbench.Library.PartialRun
import Perfbench.SendLoop

/-!
# Switches that the tenants share

Every tenant of `FlowModSandwichSingle` registers with the same switches, so a
FlowMod that a switch receives is handed to the callbacks of all tenants.  On
the way to the switches the hypervisor may lose, duplicate and reorder the
FlowMods and rewrite their xids.
-/

namespace Perfbench

namespace SharedSwitches

/-- What has reached the counter of a tenant, and the FlowMods that the tenant
has sent. -/
structure Tenant where
  events : List Event
  sent : List FlowMod

/-- The time a callback reads, and the memory past the tables it reads. -/
structure Arrival where
  time : ℚ
  pastEnd : PastEnd

inductive Step where
  | established (index : Nat) (connId : Int)
  | newInterval (index : Nat) (now : ℚ)
  | send (index listIndex : Nat) (time : ℚ)
  | receive (index position rewritten : Nat) (arrivals : Nat → Arrival)

/-- The tenant that takes a step, and of a FlowMod received the one that sent
it. -/
def Step.index : Step → Nat
  | established index _ => index
  | newInterval index _ => index
  | send index _ _ => index
  | receive index _ _ _ => index

/-- `next_tenant_id` counts from one. -/
def tenantId (index : Nat) : Nat := index + 1

def packet (template : FlowMod) (index : Nat) : FlowMod :=
  FlowModSandwich.createPacket (tenantId index) template

namespace Tenant

def fresh : Tenant :=
  { events := []
    sent := [] }

def counter (tenant : Tenant) : Counter := Counter.initial.run tenant.events

def count (event : Event) (tenant : Tenant) : Tenant :=
  { tenant with events := tenant.events ++ [event] }

def send (packet : FlowMod) (listIndex : Nat) (time : ℚ) (tenant : Tenant) :
    Option Tenant :=
  (SendLoop.sendMessage packet listIndex time tenant.counter).map
    (fun message =>
      { events := tenant.events ++ [.request listIndex message.2]
        sent := tenant.sent ++ [message.1] })

def processFlowMod (index : Nat) (msg : FlowMod) (arrival : Arrival)
    (tenant : Tenant) : Tenant :=
  match FlowModSandwich.processFlowMod (tenantId index) msg with
  | none => tenant
  | some (xid, connIndex) =>
      tenant.count
        (.response connIndex
          { xid
            time := arrival.time
            bytes := msg.length
            msgType := msg.msgType }
          arrival.pastEnd)

end Tenant

def start (tenants : Nat) : List Tenant :=
  List.replicate tenants Tenant.fresh

/-- A tenant's own step. -/
def change (index : Nat) (alter : Tenant → Option Tenant)
    (tenants : List Tenant) : Option (List Tenant) :=
  (tenants[index]?.bind alter).map (fun tenant => tenants.set index tenant)

/-- `dispatch_event`: the FlowMod is handed to the tenants in the order in which
they registered.  With 256 of them the loop over the callbacks does not end. -/
def dispatchFlowMod (msg : FlowMod) (arrivals : Nat → Arrival)
    (tenants : List Tenant) : Option (List Tenant) :=
  (ByteLoop.whole tenants.length).map (fun indices =>
    indices.foldl
      (fun tenants receiver => tenants.modify receiver
        (fun tenant => tenant.processFlowMod receiver msg (arrivals receiver)))
      tenants)

def step (template : FlowMod) (tenants : List Tenant) :
    Step → Option (List Tenant)
  | .established index connId =>
      change index (fun tenant => some (tenant.count (.established connId)))
        tenants
  | .newInterval index now =>
      change index (fun tenant => some (tenant.count (.newInterval now)))
        tenants
  | .send index listIndex time =>
      change index (Tenant.send (packet template index) listIndex time) tenants
  | .receive index position rewritten arrivals =>
      (tenants[index]?.bind (fun tenant => tenant.sent[position]?)).bind
        (fun msg => dispatchFlowMod { msg with xid := rewritten } arrivals
          tenants)

def run (template : FlowMod) (tenants : Nat) (steps : List Step) :
    Option (List Tenant) :=
  PartialRun.run (step template) (start tenants) steps

/-- A step as its tenant takes it. -/
def Tenant.step (template : FlowMod) (index : Nat) (tenant : Tenant) :
    Step → Option Tenant
  | .established _ connId => some (tenant.count (.established connId))
  | .newInterval _ now => some (tenant.count (.newInterval now))
  | .send _ listIndex time =>
      tenant.send (packet template index) listIndex time
  | .receive _ position rewritten arrivals =>
      tenant.sent[position]?.map (fun msg =>
        tenant.processFlowMod index { msg with xid := rewritten }
          (arrivals index))

/-- The FlowMods sent are the tenant's packet with some 32-bit xid. -/
def Marked (template : FlowMod) (index : Nat) (tenant : Tenant) : Prop :=
  ∀ msg ∈ tenant.sent, ∃ xid, xid < 2 ^ 32 ∧
    msg = FlowModSandwich.prePacketSend { packet template index with xid }

def AllMarked (template : FlowMod) (tenants : List Tenant) : Prop :=
  ∀ index tenant, tenants[index]? = some tenant → Marked template index tenant

section Changes

variable {template : FlowMod} {index other : Nat} {tenants after : List Tenant}
  {alter : Tenant → Option Tenant}

theorem change_self (changed : change index alter tenants = some after) :
    after[index]? = tenants[index]?.bind alter := by
  obtain ⟨altered, found, rfl⟩ := Option.map_eq_some_iff.mp changed
  obtain ⟨tenant, present, _⟩ := Option.bind_eq_some_iff.mp found
  have inside := (List.getElem?_eq_some_iff.mp present).1
  rw [found, List.getElem?_set_self inside]

theorem change_other (changed : change index alter tenants = some after)
    (different : index ≠ other) : after[other]? = tenants[other]? := by
  obtain ⟨altered, _, rfl⟩ := Option.map_eq_some_iff.mp changed
  exact List.getElem?_set_ne different

end Changes

/-- The marks of different tenants differ, also where they wrap in the 16 bits
of the priority, while there are no more tenants than marks. -/
theorem processFlowMod_foreign {sender receiver : Nat} (template : FlowMod)
    (xid rewritten : Nat) (senderFits : sender < 2 ^ 16)
    (receiverFits : receiver < 2 ^ 16) (foreign : receiver ≠ sender) :
    FlowModSandwich.processFlowMod (tenantId receiver)
        { FlowModSandwich.prePacketSend { packet template sender with xid } with
          xid := rewritten } = none := by
  have marked : (1233 + tenantId sender) % 2 ^ 16 ≠ 1233 + tenantId receiver := by
    simp only [tenantId]
    omega
  rw [FlowModSandwich.processFlowMod]
  simp only [FlowModSandwich.prePacketSend_priority, packet,
    FlowModSandwich.createPacket]
  rw [if_pos marked]

theorem Marked.ignored {template : FlowMod} {sender receiver : Nat}
    {tenant : Tenant} {msg : FlowMod} (marked : Marked template sender tenant)
    (member : msg ∈ tenant.sent) (senderFits : sender < 2 ^ 16)
    (receiverFits : receiver < 2 ^ 16) (foreign : receiver ≠ sender)
    (rewritten : Nat) (arrival : Arrival) (other : Tenant) :
    other.processFlowMod receiver { msg with xid := rewritten } arrival =
      other := by
  obtain ⟨xid, _, rfl⟩ := marked msg member
  have ignored := processFlowMod_foreign template xid rewritten senderFits
    receiverFits foreign
  rw [Tenant.processFlowMod, ignored]

theorem Tenant.processFlowMod_sent (index : Nat) (msg : FlowMod)
    (arrival : Arrival) (tenant : Tenant) :
    (tenant.processFlowMod index msg arrival).sent = tenant.sent := by
  unfold processFlowMod
  split
  · rfl
  · rfl

theorem Tenant.send_sent {sending : FlowMod} {listIndex : Nat} {time : ℚ}
    {tenant after : Tenant}
    (sent : tenant.send sending listIndex time = some after) :
    ∃ xid, xid < 2 ^ 32 ∧ after.sent = tenant.sent ++
      [FlowModSandwich.prePacketSend { sending with xid }] := by
  obtain ⟨message, found, rfl⟩ := Option.map_eq_some_iff.mp sent
  obtain ⟨xid, next, rfl⟩ := Option.map_eq_some_iff.mp found
  obtain ⟨tables, _, rfl⟩ := Option.map_eq_some_iff.mp next
  exact ⟨_, uint32_lt _, rfl⟩

theorem Tenant.step_marked {template : FlowMod} {index : Nat}
    {tenant after : Tenant} {taken : Step}
    (result : tenant.step template index taken = some after)
    (marked : Marked template index tenant) :
    Marked template index after := by
  cases taken with
  | established owner connId =>
      cases result
      exact marked
  | newInterval owner now =>
      cases result
      exact marked
  | send owner listIndex time =>
      obtain ⟨xid, fits, sent⟩ := Tenant.send_sent result
      intro msg member
      rw [sent, List.mem_append, List.mem_singleton] at member
      rcases member with old | new
      · exact marked msg old
      · exact ⟨xid, fits, new⟩
  | receive owner position rewritten arrivals =>
      obtain ⟨msg, _, rfl⟩ := Option.map_eq_some_iff.mp result
      intro other member
      rw [Tenant.processFlowMod_sent] at member
      exact marked other member

theorem dispatchFlowMod_eq_some {msg : FlowMod} {arrivals : Nat → Arrival}
    {tenants after : List Tenant}
    (result : dispatchFlowMod msg arrivals tenants = some after) :
    tenants.length < 256 ∧
      after = tenants.mapIdx (fun receiver tenant =>
        tenant.processFlowMod receiver msg (arrivals receiver)) := by
  obtain ⟨indices, ended, rfl⟩ := Option.map_eq_some_iff.mp result
  rw [ByteLoop.whole_eq, Option.ite_none_right_eq_some] at ended
  obtain ⟨few, whole⟩ := ended
  cases whole
  exact ⟨few, ByteLoop.foldl_modify _ _⟩

theorem dispatchFlowMod_of_few {tenants : List Tenant}
    (few : tenants.length < 256) (msg : FlowMod) (arrivals : Nat → Arrival) :
    dispatchFlowMod msg arrivals tenants =
      some (tenants.mapIdx (fun receiver tenant =>
        tenant.processFlowMod receiver msg (arrivals receiver))) := by
  rw [dispatchFlowMod, ByteLoop.whole_eq, if_pos few, Option.map_some,
    ByteLoop.foldl_modify]

section Steps

variable {template : FlowMod} {index : Nat} {tenants after : List Tenant}
  {taken : Step}

theorem receive_getElem? {position rewritten : Nat} {arrivals : Nat → Arrival}
    {sender : Nat} (marked : AllMarked template tenants)
    (result : step template tenants
      (.receive sender position rewritten arrivals) = some after) :
    after[index]? =
      if sender = index then
        tenants[index]?.bind (fun tenant => tenant.step template index
          (.receive sender position rewritten arrivals))
      else tenants[index]? := by
  obtain ⟨msg, found, dispatched⟩ := Option.bind_eq_some_iff.mp result
  obtain ⟨owner, present, sent⟩ := Option.bind_eq_some_iff.mp found
  obtain ⟨few, rfl⟩ := dispatchFlowMod_eq_some dispatched
  rw [List.getElem?_mapIdx]
  by_cases own : sender = index
  · subst own
    rw [if_pos rfl, present, Option.bind_some, Tenant.step, sent]
    rfl
  · rw [if_neg own]
    cases there : tenants[index]? with
    | none => rfl
    | some tenant =>
        have senderInside := (List.getElem?_eq_some_iff.mp present).1
        have inside := (List.getElem?_eq_some_iff.mp there).1
        have foreign : index ≠ sender := fun same => own same.symm
        rw [Option.map_some, (marked sender owner present).ignored
          (List.mem_of_getElem? sent) (by omega) (by omega) foreign]

theorem step_getElem? (marked : AllMarked template tenants)
    (result : step template tenants taken = some after) :
    after[index]? =
      if taken.index = index then
        tenants[index]?.bind (fun tenant => tenant.step template index taken)
      else tenants[index]? := by
  have changed : ∀ owner alter, change owner alter tenants = some after →
      after[index]? =
        if owner = index then tenants[index]?.bind alter
        else tenants[index]? := by
    intro owner alter changed
    by_cases own : owner = index
    · subst own
      rw [if_pos rfl]
      exact change_self changed
    · rw [if_neg own]
      exact change_other changed own
  cases taken with
  | established owner connId => exact changed owner _ result
  | newInterval owner now => exact changed owner _ result
  | send owner listIndex time =>
      have taken := changed owner _ result
      by_cases own : owner = index
      · subst own
        exact taken
      · simpa [Step.index, own] using taken
  | receive owner position rewritten arrivals =>
      exact receive_getElem? marked result

theorem step_length (result : step template tenants taken = some after) :
    after.length = tenants.length := by
  have changed : ∀ owner alter, change owner alter tenants = some after →
      after.length = tenants.length := by
    intro owner alter changed
    obtain ⟨altered, _, rfl⟩ := Option.map_eq_some_iff.mp changed
    exact List.length_set
  cases taken with
  | established owner connId => exact changed owner _ result
  | newInterval owner now => exact changed owner _ result
  | send owner listIndex time => exact changed owner _ result
  | receive owner position rewritten arrivals =>
      obtain ⟨msg, _, dispatched⟩ := Option.bind_eq_some_iff.mp result
      obtain ⟨_, rfl⟩ := dispatchFlowMod_eq_some dispatched
      exact List.length_mapIdx

theorem AllMarked.step (marked : AllMarked template tenants)
    (result : step template tenants taken = some after) :
    AllMarked template after := by
  intro index tenant present
  rw [step_getElem? marked result] at present
  split at present
  · obtain ⟨earlier, found, changed⟩ := Option.bind_eq_some_iff.mp present
    exact Tenant.step_marked changed (marked index earlier found)
  · exact marked index tenant present

/-- What a tenant's step depends on: the tenant, and how many tenants the
switches call. -/
def share (index : Nat) (tenants : List Tenant) : Nat × Option Tenant :=
  (tenants.length, tenants[index]?)

theorem dispatchFlowMod_share {other : List Tenant} {msg : FlowMod}
    {arrivals : Nat → Arrival} (same : share index tenants = share index other) :
    (dispatchFlowMod msg arrivals tenants).map (share index) =
      (dispatchFlowMod msg arrivals other).map (share index) := by
  obtain ⟨lengths, items⟩ := Prod.mk.inj same
  rcases Nat.lt_or_ge tenants.length 256 with few | many
  · have otherFew : other.length < 256 := by omega
    rw [dispatchFlowMod_of_few few, dispatchFlowMod_of_few otherFew]
    simp [share, lengths, items]
  · have otherMany : ¬other.length < 256 := by omega
    have unending : ByteLoop.whole tenants.length = none := by
      rw [ByteLoop.whole_eq, if_neg (by omega)]
    rw [dispatchFlowMod, dispatchFlowMod, ← lengths, unending]
    rfl

theorem change_share {other : List Tenant} {alter : Tenant → Option Tenant}
    (same : share index tenants = share index other) :
    (change index alter tenants).map (share index) =
      (change index alter other).map (share index) := by
  obtain ⟨lengths, items⟩ := Prod.mk.inj same
  rw [change, change, items]
  cases altered : other[index]?.bind alter with
  | none => rfl
  | some tenant =>
      have inside : index < other.length := by
        obtain ⟨_, present, _⟩ := Option.bind_eq_some_iff.mp altered
        exact (List.getElem?_eq_some_iff.mp present).1
      have insideToo : index < tenants.length := by omega
      simp [share, lengths, List.getElem?_set_self inside,
        List.getElem?_set_self insideToo]

/-- Whether the step of a tenant has a result, and which, is for the tenant
alone. -/
theorem step_share {other : List Tenant} (own : taken.index = index)
    (same : share index tenants = share index other) :
    (step template tenants taken).map (share index) =
      (step template other taken).map (share index) := by
  subst own
  cases taken with
  | established owner connId => exact change_share same
  | newInterval owner now => exact change_share same
  | send owner listIndex time => exact change_share same
  | receive owner position rewritten arrivals =>
      have items : tenants[owner]? = other[owner]? := (Prod.mk.inj same).2
      simp only [SharedSwitches.step, Step.index, items]
      cases sent : other[owner]?.bind (fun tenant => tenant.sent[position]?)
        with
      | none => rfl
      | some msg => exact dispatchFlowMod_share same

end Steps

theorem allMarked_start (template : FlowMod) (tenants : Nat) :
    AllMarked template (start tenants) := by
  intro index tenant present msg member
  have fresh := List.eq_of_mem_replicate (List.mem_of_getElem? present)
  rw [fresh] at member
  exact absurd member List.not_mem_nil

/-- A tenant's counter after a run of shared switches is that of the run in
which the tenant is alone with them: what the other tenants send, and when the
switches receive it, changes nothing. -/
theorem run_alone {template : FlowMod} {tenants : Nat} {steps : List Step}
    {final : List Tenant} (result : run template tenants steps = some final)
    (index : Nat) :
    ∃ alone, run template tenants
        (steps.filter (fun taken => taken.index == index)) = some alone ∧
      alone[index]? = final[index]? := by
  have kept : ∀ taken before after, AllMarked template before →
      step template before taken = some after → AllMarked template after := by
    intro taken before after marked stepped
    exact marked.step stepped
  have unseen : ∀ taken before after, AllMarked template before →
      (taken.index == index) = false → step template before taken = some after →
        share index after = share index before := by
    intro taken before after marked unseen stepped
    have others := @step_getElem? template index before after taken marked stepped
    rw [if_neg (by simpa using unseen)] at others
    exact Prod.ext (step_length stepped) others
  obtain ⟨alone, aloneResult, same⟩ := PartialRun.observed result
    (allMarked_start template tenants) kept unseen (by
      intro taken before other seen same
      exact step_share (by simpa using seen) same)
  exact ⟨alone, aloneResult, (Prod.mk.inj same).2⟩

theorem run_tenant {template : FlowMod} {tenants : Nat} {steps : List Step}
    {final : List Tenant} (result : run template tenants steps = some final)
    {index : Nat} {tenant : Tenant} (present : final[index]? = some tenant) :
    PartialRun.run (Tenant.step template index) Tenant.fresh
      (steps.filter (fun taken => taken.index == index)) = some tenant := by
  have kept : ∀ taken before after, AllMarked template before →
      step template before taken = some after → AllMarked template after := by
    intro taken before after marked stepped
    exact marked.step stepped
  have own := @PartialRun.component _ _ (step template) (start tenants)
    (AllMarked template) _ (fun state => state[index]?)
    (Tenant.step template index) (fun taken => taken.index == index) _ _
    result (allMarked_start template tenants) kept (by
      intro taken before after marked stepped
      rw [step_getElem? marked stepped]
      simp only [beq_iff_eq])
  rw [present] at own
  obtain ⟨first, begins, goes⟩ := Option.bind_eq_some_iff.mp own.symm
  have fresh := List.eq_of_mem_replicate (List.mem_of_getElem? begins)
  rw [← fresh]
  exact goes

def sampleTemplate : FlowMod :=
  { version := 4
    xid := 0
    priority := 0
    nwSrc := 0
    metadata := 0
    length := 96
    msgType := 14 }

def sampleArrivals (time : ℚ) : Nat → Arrival :=
  fun _ =>
    { time
      pastEnd := zeroPastEnd }

/-- Both tenants send; the switches receive the second FlowMod of the first
tenant before its first one, which the hypervisor gives another xid. -/
def sampleSteps : List Step :=
  [.established 0 7, .established 1 8, .send 0 0 1, .send 1 0 2, .send 0 0 3,
    .receive 0 1 20 (sampleArrivals 4), .receive 1 0 21 (sampleArrivals 5),
    .receive 0 0 22 (sampleArrivals 6)]

theorem sampleSteps_isSome :
    (run sampleTemplate 2 sampleSteps).isSome = true := rfl

def sampleFinal : List Tenant :=
  (run sampleTemplate 2 sampleSteps).get sampleSteps_isSome

theorem sampleSteps_run :
    run sampleTemplate 2 sampleSteps = some sampleFinal :=
  (Option.some_get sampleSteps_isSome).symm

theorem run_alone_sample :
    ∃ alone, run sampleTemplate 2
        (sampleSteps.filter (fun taken => taken.index == 0)) = some alone ∧
      alone[0]? = sampleFinal[0]? :=
  run_alone sampleSteps_run 0

end SharedSwitches

end Perfbench
