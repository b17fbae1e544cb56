import Perfbench.Testcases.StartedSwitches
import Perfbench.Testcases.SwitchConns

/-!
# Who is called by a switch

A switch calls, for every event, the tenants that have the switch among their
own and whose testcase handles the event, each once and in the order of their
ids.
-/

namespace Perfbench

namespace StartUp

def SwitchCall.listener (eventType : SwitchEventType) : SwitchCall → Option Nat
  | .register tenantId registered =>
      if registered = eventType then some tenantId else none
  | .start => none

/-- `event_listeners` of a type of events, by the ids of the tenants. -/
def listeners (calls : List SwitchCall) (eventType : SwitchEventType) :
    List Nat :=
  calls.filterMap (SwitchCall.listener eventType)

/-- The tenants that have the switch at the place and handle the event. -/
def served (entries : List (Tenant × List Nat)) (place : Nat)
    (eventType : SwitchEventType) : List Nat :=
  (entries.filter (fun entry =>
    entry.1.testcase.switchEvents.contains eventType &&
      entry.2.contains place)).map (fun entry => entry.1.id)

/-- A tenant, when it is one to call. -/
def calledFor (tenant : Tenant) (eventType : SwitchEventType) : List Nat :=
  if tenant.testcase.switchEvents.contains eventType then [tenant.id] else []

theorem listeners_append (first second : List SwitchCall)
    (eventType : SwitchEventType) :
    listeners (first ++ second) eventType =
      listeners first eventType ++ listeners second eventType :=
  List.filterMap_append

theorem listeners_start (eventType : SwitchEventType) :
    listeners [.start] eventType = [] := rfl

theorem listeners_registrations (tenant : Tenant)
    (eventType : SwitchEventType) :
    listeners (registrations tenant.id tenant.testcase.switchEvents)
        eventType =
      calledFor tenant eventType := by
  rw [calledFor]
  cases tenant.testcase <;> cases eventType <;> rfl

theorem listeners_making (tenant : Tenant) (eventType : SwitchEventType) :
    listeners (making tenant) eventType =
      if tenant.testcase.OwnsSwitches then calledFor tenant eventType
      else [] := by
  rw [making]
  split
  · rw [listeners_append, listeners_registrations, listeners_start,
      List.append_nil]
  · rfl

theorem listeners_calling (tenants : Nat) (tenant : Tenant)
    (eventType : SwitchEventType) :
    listeners (calling tenants tenant) eventType =
      if tenant.testcase.SharesSwitches then calledFor tenant eventType
      else [] := by
  rw [calling]
  split
  · rw [listeners_append, listeners_registrations]
    split
    · rw [listeners_start, List.append_nil]
    · exact List.append_nil _
  · rfl

section Adding

variable {args : ArgParser} {tenant : Tenant} {there place : Nat}

/-- A switch that is there gets the tenant as a listener when the tenant shares
the switches, and then is one of the tenant's. -/
theorem contains_places_of_there (inside : place < there) :
    (places args there tenant).contains place =
      decide tenant.testcase.SharesSwitches := by
  by_cases owns : tenant.testcase.OwnsSwitches
  · have unshared : ¬tenant.testcase.SharesSwitches := fun shares =>
      TestcaseClass.not_owns_and_shares owns shares
    rw [places, if_pos owns, decide_eq_false unshared]
    rw [← Bool.not_eq_true, List.contains_iff_mem, List.mem_range'_1]
    omega
  · by_cases shares : tenant.testcase.SharesSwitches
    · rw [places, if_neg owns, if_pos shares, decide_eq_true shares,
        List.contains_iff_mem, List.mem_range]
      omega
    · rw [places, if_neg owns, if_neg shares, decide_eq_false shares]
      rfl

theorem contains_places_of_made (after : there ≤ place)
    (inside : place < there + (made args there tenant).length) :
    (places args there tenant).contains place = true := by
  have makes : Makes tenant := by
    by_cases makes : Makes tenant
    · exact makes
    · rw [made, if_neg makes, List.length_nil] at inside
      omega
  rw [List.contains_iff_mem]
  rcases makes with owns | shares
  · simp only [made, Makes, owns, true_or, if_true, newSwitches,
      List.length_map, List.length_range] at inside
    rw [places, if_pos owns, List.mem_range'_1]
    omega
  · have unowned : ¬tenant.testcase.OwnsSwitches := fun owns =>
      TestcaseClass.not_owns_and_shares owns shares.1
    rw [places, if_neg unowned, if_pos shares.1, List.mem_range]
    exact inside

theorem places_inside {entry : Nat} (member : entry ∈ places args there tenant) :
    entry < there + (made args there tenant).length := by
  by_cases owns : tenant.testcase.OwnsSwitches
  · rw [places, if_pos owns, List.mem_range'_1] at member
    simpa [made, Makes, owns, newSwitches] using member.2
  · by_cases shares : tenant.testcase.SharesSwitches
    · rw [places, if_neg owns, if_pos shares, List.mem_range] at member
      exact member
    · rw [places, if_neg owns, if_neg shares] at member
      exact absurd member List.not_mem_nil

end Adding

/-- The switches call their tenants, and no tenant has a switch that is not
there. -/
structure Registered (tenants : List Tenant) (started : Started) : Prop where
  places : ∀ own ∈ started.own, ∀ place ∈ own, place < started.switches.length
  listeners : ∀ place sw, started.switches[place]? = some sw →
    ∀ eventType, listeners sw.calls eventType =
      served (tenants.zip started.own) place eventType

theorem served_snoc (entries : List (Tenant × List Nat)) (tenant : Tenant)
    (own : List Nat) (place : Nat) (eventType : SwitchEventType) :
    served (entries ++ [(tenant, own)]) place eventType =
      served entries place eventType ++
        if own.contains place then calledFor tenant eventType else [] := by
  rw [served, List.filter_append, List.map_append]
  congr 1
  simp only [calledFor, List.filter_cons, List.filter_nil]
  cases own.contains place with
  | false => simp
  | true =>
      cases tenant.testcase.switchEvents.contains eventType with
      | false => simp
      | true => simp

theorem Registered.served_new {tenants : List Tenant} {started : Started}
    (registered : Registered tenants started) {place : Nat}
    (after : started.switches.length ≤ place) (eventType : SwitchEventType) :
    served (tenants.zip started.own) place eventType = [] := by
  rw [served, List.map_eq_nil_iff, List.filter_eq_nil_iff]
  intro entry member
  have own := (List.of_mem_zip member).2
  simp only [Bool.and_eq_true, List.contains_iff_mem]
  intro both
  have inside := registered.places entry.2 own place both.2
  omega

theorem Registered.snoc {args : ArgParser} {tenants : Nat}
    {first : List Tenant} {tenant : Tenant}
    (registered : Registered first (startedBy args tenants first)) :
    Registered (first ++ [tenant])
      (startedBy args tenants (first ++ [tenant])) := by
  have lengths := startedBy_own_length args tenants first
  rw [startedBy_snoc]
  refine ⟨?_, ?_⟩
  · intro own member place inside
    rw [List.length_map, List.length_append]
    rcases List.mem_append.mp member with old | new
    · have there := registered.places own old place inside
      omega
    · rw [List.mem_singleton.mp new] at inside
      exact places_inside inside
  · intro place sw present eventType
    rw [List.getElem?_map, Option.map_eq_some_iff] at present
    obtain ⟨earlier, found, rfl⟩ := present
    rw [List.zip_append lengths.symm, List.zip_cons_cons, List.zip_nil_left,
      served_snoc, called_calls, listeners_append, listeners_calling]
    rcases Nat.lt_or_ge place
        (startedBy args tenants first).switches.length with old | new
    · rw [List.getElem?_append_left old] at found
      rw [registered.listeners place earlier found,
        contains_places_of_there old]
      simp only [decide_eq_true_eq]
    · rw [List.getElem?_append_right new] at found
      have inside := (List.getElem?_eq_some_iff.mp found).1
      rw [contains_places_of_made new (by omega), registered.served_new new,
        List.nil_append, if_pos rfl]
      have member := List.mem_of_getElem? found
      by_cases makes : Makes tenant
      · rw [made, if_pos makes, List.mem_map] at member
        obtain ⟨fresh, freshMember, rfl⟩ := member
        obtain ⟨id, _, rfl⟩ := List.mem_map.mp freshMember
        rw [called_calls, newSwitch, List.nil_append, listeners_making]
        rcases makes with owns | shares
        · have unshared : ¬tenant.testcase.SharesSwitches := fun shares =>
            TestcaseClass.not_owns_and_shares owns shares
          rw [if_pos owns, if_neg unshared, List.append_nil]
        · have unowned : ¬tenant.testcase.OwnsSwitches := fun owns =>
            TestcaseClass.not_owns_and_shares owns shares.1
          rw [if_neg unowned, if_pos shares.1, List.nil_append]
      · rw [made, if_neg makes] at member
        exact absurd member List.not_mem_nil

theorem startedBy_registered (args : ArgParser) (tenants : Nat)
    (first : List Tenant) :
    Registered first (startedBy args tenants first) := by
  induction first using List.reverseRecOn with
  | nil =>
      refine ⟨?_, ?_⟩
      · intro own member
        exact absurd member List.not_mem_nil
      · intro place sw present
        exact absurd present (by simp [startedBy, nothing])
  | append_singleton first tenant induction => exact induction.snoc

/-- Whatever testcases the tenants run, a switch calls those tenants that have
it. -/
theorem start_registered {args : ArgParser} {tenants : List Tenant}
    {started : Started} (result : start args = some (tenants, started)) :
    Registered tenants started := by
  obtain ⟨created, _, pair⟩ := Option.map_eq_some_iff.mp result
  obtain ⟨rfl, rfl⟩ := Prod.mk.inj pair
  exact startedBy_registered args created.length created

theorem start_registered_sample :
    Registered sampleStart.1 sampleStart.2 :=
  start_registered sampleArgs_start

theorem startedBy_swId (args : ArgParser) (tenants : Nat)
    (first : List Tenant) {place : Nat} {sw : EmulatedSwitch}
    (present : (startedBy args tenants first).switches[place]? = some sw) :
    sw.id = place % args.numSwitches.toNat := by
  induction first using List.reverseRecOn generalizing sw with
  | nil => exact absurd present (by simp [startedBy, nothing])
  | append_singleton first tenant induction =>
      have there := startedBy_length args tenants first
      rw [startedBy_snoc, List.getElem?_map, Option.map_eq_some_iff] at present
      obtain ⟨earlier, found, rfl⟩ := present
      rcases Nat.lt_or_ge place
          (startedBy args tenants first).switches.length with old | new
      · rw [List.getElem?_append_left old] at found
        have same := induction found
        exact same
      · rw [List.getElem?_append_right new] at found
        by_cases makes : Makes tenant
        · rw [made, if_pos makes, newSwitches, List.getElem?_map,
            List.getElem?_map] at found
          obtain ⟨fresh, freshAt, rfl⟩ := Option.map_eq_some_iff.mp found
          obtain ⟨id, idAt, rfl⟩ := Option.map_eq_some_iff.mp freshAt
          obtain ⟨inside, idEq⟩ := List.getElem?_eq_some_iff.mp idAt
          rw [List.getElem_range] at idEq
          rw [List.length_range] at inside
          -- every tenant that makes switches makes the same number
          have placeEq : place = args.numSwitches.toNat *
              first.countP (fun tenant => Makes tenant) + id := by
            rw [← there]
            omega
          change id = _
          rw [placeEq, Nat.mul_add_mod, Nat.mod_eq_of_lt (by omega)]
        · rw [made, if_neg makes] at found
          exact absurd found (by simp)

/-- A registration has the switches that are started, with their ids and the
tenants that they call; it counts the tenants from zero. -/
structure Realises (reg : Registration) (eventType : SwitchEventType)
    (started : Started) : Prop where
  switches : started.switches.length = reg.switches
  swId : ∀ place sw, started.switches[place]? = some sw →
    sw.id = reg.swId place
  listeners : ∀ place sw, started.switches[place]? = some sw →
    listeners sw.calls eventType =
      (reg.listeners place).map (fun tenant => tenant + 1)

section OneTestcase

variable {args : ArgParser} {tenants : Nat} {first : List Tenant}
  {eventType : SwitchEventType}

theorem Numbered.snoc {tenant : Tenant} (numbered : Numbered (first ++ [tenant])) :
    Numbered first ∧ tenant.id = first.length + 1 := by
  have last := numbered.id_eq
  refine ⟨?_, last⟩
  rw [Numbered, List.map_append, List.length_append, List.length_singleton,
    List.range'_concat] at numbered
  exact (List.append_inj numbered (by simp)).1

/-- Tenants that share the switches have all made together the first ones. -/
theorem countP_makes_shared
    (shares : ∀ tenant ∈ first, tenant.testcase.SharesSwitches)
    (numbered : Numbered first) :
    first.countP (fun tenant => Makes tenant) = if first = [] then 0 else 1 := by
  have unowned : ∀ tenant ∈ first, ¬tenant.testcase.OwnsSwitches :=
    fun tenant member owns =>
      TestcaseClass.not_owns_and_shares owns (shares tenant member)
  cases first using List.reverseRecOn with
  | nil => rfl
  | append_singleton earlier tenant =>
      obtain ⟨head, rest, whole⟩ : ∃ head rest,
          earlier ++ [tenant] = head :: rest :=
        List.exists_cons_of_ne_nil (by simp)
      have one := @countP_makes_eq_one _ earlier [] tenant head numbered unowned
        (by rw [whole]; rfl) (shares head (by simp [whole])) rfl
      simpa using one

theorem served_shared
    (shares : ∀ tenant ∈ first, tenant.testcase.SharesSwitches)
    (handles : ∀ tenant ∈ first,
      tenant.testcase.switchEvents.contains eventType = true)
    (numbered : Numbered first) {place : Nat}
    (inside : place < args.numSwitches.toNat) :
    served (first.zip (startedBy args tenants first).own) place eventType =
      first.map Tenant.id := by
  induction first using List.reverseRecOn with
  | nil => rfl
  | append_singleton first tenant induction =>
      have lengths := startedBy_own_length args tenants first
      have there := startedBy_length args tenants first
      have share := shares tenant (by simp)
      have unowned : ¬tenant.testcase.OwnsSwitches := fun owns =>
        TestcaseClass.not_owns_and_shares owns share
      have count := countP_makes_shared shares numbered
      have has : (places args (startedBy args tenants first).switches.length
          tenant).contains place = true := by
        rw [places, if_neg unowned, if_pos share, List.contains_iff_mem,
          List.mem_range, there]
        rw [List.countP_append] at count
        by_cases makes : Makes tenant
        · simp [made, makes, newSwitches]
          omega
        · simp [makes] at count
          rw [count, Nat.mul_one]
          omega
      rw [startedBy_snoc, List.zip_append lengths.symm, List.zip_cons_cons,
        List.zip_nil_left, served_snoc, induction
          (fun other member => shares other (by simp [member]))
          (fun other member => handles other (by simp [member]))
          numbered.snoc.1, if_pos has, calledFor,
        if_pos (handles tenant (by simp)), List.map_append]
      rfl

theorem served_own
    (owns : ∀ tenant ∈ first, tenant.testcase.OwnsSwitches)
    (handles : ∀ tenant ∈ first,
      tenant.testcase.switchEvents.contains eventType = true)
    (numbered : Numbered first) (place : Nat)
    (positive : 0 < args.numSwitches.toNat) :
    served (first.zip (startedBy args tenants first).own) place eventType =
      if place / args.numSwitches.toNat < first.length then
        [place / args.numSwitches.toNat + 1]
      else [] := by
  induction first using List.reverseRecOn with
  | nil => rfl
  | append_singleton first tenant induction =>
      have lengths := startedBy_own_length args tenants first
      have there := startedBy_length args tenants first
      have own := owns tenant (by simp)
      have all : first.countP (fun tenant => Makes tenant) = first.length := by
        apply List.countP_eq_length.mpr
        intro other member
        have makes : Makes other := .inl (owns other (by simp [member]))
        simpa using makes
      obtain ⟨earlier, last⟩ := numbered.snoc
      rw [startedBy_snoc, List.zip_append lengths.symm, List.zip_cons_cons,
        List.zip_nil_left, served_snoc, induction
          (fun other member => owns other (by simp [member]))
          (fun other member => handles other (by simp [member])) earlier,
        calledFor, if_pos (handles tenant (by simp)), places, if_pos own, there,
        all, last, List.length_append, List.length_singleton]
      have block : (List.range' (args.numSwitches.toNat * first.length)
          args.numSwitches.toNat).contains place = true ↔
            place / args.numSwitches.toNat = first.length := by
        rw [List.contains_iff_mem, List.mem_range'_1,
          Nat.div_eq_iff positive, Nat.mul_comm]
        omega
      by_cases now : place / args.numSwitches.toNat = first.length
      · rw [if_neg (by omega), if_pos (block.mpr now), if_pos (by omega), now]
        rfl
      · have same : place / args.numSwitches.toNat < first.length + 1 ↔
            place / args.numSwitches.toNat < first.length := by omega
        rw [if_neg (fun contains => now (block.mp contains)), List.append_nil]
        simp only [same]

end OneTestcase

/-- The registration of tenants that all run the testcase. -/
def registrationOf (testcase : TestcaseClass) (tenants numSwitches : Nat) :
    Registration :=
  if testcase.SharesSwitches then packetInSandwichSingle tenants numSwitches
  else packetInSandwich tenants numSwitches

theorem realises_shared {args : ArgParser} {tenants : List Tenant}
    {eventType : SwitchEventType} (nonempty : tenants ≠ [])
    (numbered : Numbered tenants)
    (shares : ∀ tenant ∈ tenants, tenant.testcase.SharesSwitches)
    (handles : ∀ tenant ∈ tenants,
      tenant.testcase.switchEvents.contains eventType = true) :
    Realises (packetInSandwichSingle tenants.length args.numSwitches.toNat)
      eventType (startTenants args tenants) := by
  have length := startedBy_length args tenants.length tenants
  rw [countP_makes_shared shares numbered, if_neg nonempty,
    Nat.mul_one] at length
  have inside : ∀ place sw, (startTenants args tenants).switches[place]? =
      some sw → place < args.numSwitches.toNat := by
    intro place sw present
    rw [← length]
    exact (List.getElem?_eq_some_iff.mp present).1
  refine ⟨length, ?_, ?_⟩
  · intro place sw present
    rw [startedBy_swId args tenants.length tenants present,
      Nat.mod_eq_of_lt (inside place sw present)]
    rfl
  · intro place sw present
    have registered := startedBy_registered args tenants.length tenants
    rw [registered.listeners place sw present, served_shared shares handles
      numbered (inside place sw present), numbered]
    simp [packetInSandwichSingle, List.range'_eq_map_range, Nat.add_comm]

theorem realises_own {args : ArgParser} {tenants : List Tenant}
    {eventType : SwitchEventType} (positive : 0 < args.numSwitches.toNat)
    (numbered : Numbered tenants)
    (owns : ∀ tenant ∈ tenants, tenant.testcase.OwnsSwitches)
    (handles : ∀ tenant ∈ tenants,
      tenant.testcase.switchEvents.contains eventType = true) :
    Realises (packetInSandwich tenants.length args.numSwitches.toNat)
      eventType (startTenants args tenants) := by
  have length := startedBy_length args tenants.length tenants
  have all : tenants.countP (fun tenant => Makes tenant) = tenants.length := by
    apply List.countP_eq_length.mpr
    intro tenant member
    have makes : Makes tenant := .inl (owns tenant member)
    simpa using makes
  rw [all, Nat.mul_comm] at length
  refine ⟨length, ?_, ?_⟩
  · intro place sw present
    exact startedBy_swId args tenants.length tenants present
  · intro place sw present
    have inside := (List.getElem?_eq_some_iff.mp present).1
    change place < (startedBy args tenants.length tenants).switches.length
      at inside
    rw [length] at inside
    have registered := startedBy_registered args tenants.length tenants
    rw [registered.listeners place sw present,
      served_own owns handles numbered place positive,
      if_pos ((Nat.div_lt_iff_lt_mul positive).mpr inside)]
    rfl

/-- Tenants that all run the same testcase have the registration on which the
runs of their switches rest. -/
theorem start_realises {args : ArgParser} {tenants : List Tenant}
    {started : Started} {testcase : TestcaseClass}
    {eventType : SwitchEventType} (numSwitches : 1 ≤ args.numSwitches)
    (result : start args = some (tenants, started)) (nonempty : tenants ≠ [])
    (same : ∀ tenant ∈ tenants, tenant.testcase = testcase)
    (handles : eventType ∈ testcase.switchEvents) :
    Realises
      (registrationOf testcase tenants.length args.numSwitches.toNat)
      eventType started := by
  obtain ⟨created, found, pair⟩ := Option.map_eq_some_iff.mp result
  obtain ⟨rfl, rfl⟩ := Prod.mk.inj pair
  have numbered := (createTenants_numbered found).1
  have allHandle : ∀ tenant ∈ created,
      tenant.testcase.switchEvents.contains eventType = true := by
    intro tenant member
    rw [same tenant member]
    exact List.contains_iff_mem.mpr handles
  rw [registrationOf]
  by_cases shares : testcase.SharesSwitches
  · rw [if_pos shares]
    apply realises_shared nonempty numbered _ allHandle
    intro tenant member
    rw [same tenant member]
    exact shares
  · rw [if_neg shares]
    apply realises_own (by omega) numbered _ allHandle
    intro tenant member
    rw [same tenant member]
    have registers := switchEvents_ne_nil.mp (List.ne_nil_of_mem handles)
    exact registers.resolve_right shares

/-- Three tenants with two switches each. -/
def ownArgs : ArgParser :=
  { sampleArgs with testcases := ["PacketInSandwich"] }

theorem ownArgs_isSome : (start ownArgs).isSome = true := by decide +kernel

def ownStart : List Tenant × Started := (start ownArgs).get ownArgs_isSome

theorem start_realises_sample :
    Realises (registrationOf .packetInSandwich ownStart.1.length 2) .connUp
      ownStart.2 :=
  start_realises (by decide) (Option.some_get ownArgs_isSome).symm
    (by decide +kernel) (by decide +kernel) (by decide)

end StartUp

end Perfbench
