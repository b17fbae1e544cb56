import Mathlib.Data.List.Induction
import Perfbench.Testcases.StartUp

/-!
# Which switches are started

Every switch is started once, after the callbacks of its tenants are
registered, and every tenant of a sandwich testcase gets its switches, exactly
when the tenants either share the switches from the first to the last one or
do not share them at all.
-/

namespace Perfbench

/-- The events for which a testcase registers with its switches. -/
def TestcaseClass.switchEvents : TestcaseClass → List SwitchEventType
  | .flowModSandwich => [.connUp, .flowMod]
  | .packetInSandwich => [.connUp, .connDown]
  | .flowModSandwichSingle => [.connUp, .connDown, .flowMod]
  | .packetInSandwichSingle => [.connUp, .connDown]
  | _ => []

def TestcaseClass.OwnsSwitches (testcase : TestcaseClass) : Prop :=
  testcase = .flowModSandwich ∨ testcase = .packetInSandwich

def TestcaseClass.SharesSwitches (testcase : TestcaseClass) : Prop :=
  testcase = .flowModSandwichSingle ∨ testcase = .packetInSandwichSingle

instance (testcase : TestcaseClass) : Decidable testcase.OwnsSwitches :=
  inferInstanceAs (Decidable (_ ∨ _))

instance (testcase : TestcaseClass) : Decidable testcase.SharesSwitches :=
  inferInstanceAs (Decidable (_ ∨ _))

theorem TestcaseClass.not_owns_and_shares {testcase : TestcaseClass}
    (owns : testcase.OwnsSwitches) (shares : testcase.SharesSwitches) :
    False := by
  rcases owns with rfl | rfl
  · exact absurd shares (by decide)
  · exact absurd shares (by decide)

namespace StartUp

/-- The calls that register a tenant with a switch. -/
def registrations (tenantId : Nat) (events : List SwitchEventType) :
    List SwitchCall :=
  events.map (SwitchCall.register tenantId)

def EmulatedSwitch.called (calls : List SwitchCall) (sw : EmulatedSwitch) :
    EmulatedSwitch :=
  { sw with calls := sw.calls ++ calls }

@[simp] theorem called_nil : EmulatedSwitch.called [] = id := by
  funext sw
  simp [EmulatedSwitch.called]

@[simp] theorem called_calls (calls : List SwitchCall)
    (sw : EmulatedSwitch) : (sw.called calls).calls = sw.calls ++ calls := rfl

@[simp] theorem called_called (first second : List SwitchCall)
    (sw : EmulatedSwitch) :
    (sw.called first).called second = sw.called (first ++ second) := by
  simp [EmulatedSwitch.called]

theorem foldl_registerForEvent (tenantId : Nat)
    (events : List SwitchEventType) (sw : EmulatedSwitch) :
    events.foldl (EmulatedSwitch.registerForEvent tenantId) sw =
      sw.called (registrations tenantId events) := by
  induction events generalizing sw with
  | nil => simp [registrations]
  | cons event events induction =>
      rw [List.foldl_cons, induction]
      simp [EmulatedSwitch.called, EmulatedSwitch.registerForEvent,
        registrations]

/-- The switch that a tenant makes at a place of `SystemState::switches`. -/
def newSwitch (args : ArgParser) (tenantId place id : Nat) : EmulatedSwitch :=
  { id
    address := args.switchIP
    port := 6633
    ports := [veth (place * 2), veth (place * 2 + 1)]
    dpid := 256 * tenantId + id + 1
    config := switchSettings args.ofVersion
    testcase := tenantId
    calls := [] }

/-- The switches that a tenant makes after those that are there. -/
def newSwitches (args : ArgParser) (tenantId there : Nat) :
    List EmulatedSwitch :=
  (List.range args.numSwitches.toNat).map (fun id =>
    newSwitch args tenantId (there + id) id)

theorem startSwitch_eq (args : ArgParser) (tenantId id : Nat)
    (switches : List EmulatedSwitch) :
    startSwitch id args.switchIP args.switchPort (256 * tenantId + id + 1)
        (switchSettings args.ofVersion) tenantId switches =
      newSwitch args tenantId switches.length id := by
  have first : (switches.length + 1) * 2 - 2 = switches.length * 2 := by omega
  have second : (switches.length + 1) * 2 - 1 = switches.length * 2 + 1 := by
    omega
  rw [startSwitch, newSwitch, first, second]

theorem startOwnSwitches_eq (events : List SwitchEventType) (args : ArgParser)
    (tenantId : Nat) (switches : List EmulatedSwitch) :
    startOwnSwitches events args tenantId switches =
      (switches ++ (newSwitches args tenantId switches.length).map
          (EmulatedSwitch.called (registrations tenantId events ++ [.start])),
        List.range' switches.length args.numSwitches.toNat) := by
  rw [startOwnSwitches, newSwitches]
  induction args.numSwitches.toNat with
  | zero => simp
  | succ count induction =>
      rw [List.range_succ, List.foldl_append, induction]
      simp only [List.foldl_cons, List.foldl_nil, startSwitch_eq,
        foldl_registerForEvent]
      simp [List.range'_concat, EmulatedSwitch.called, EmulatedSwitch.start]

theorem startSharedSwitches_eq (args : ArgParser)
    (switches : List EmulatedSwitch) :
    startSharedSwitches args 1 switches =
      switches ++ newSwitches args 1 switches.length := by
  rw [startSharedSwitches, newSwitches]
  induction args.numSwitches.toNat with
  | zero => simp
  | succ count induction =>
      have made := startSwitch_eq args 1 count
      rw [List.range_succ, List.foldl_append, induction, List.foldl_cons,
        List.foldl_nil, made]
      simp

/-- Tenants make their own switches, or the first one makes them for all. -/
def Makes (tenant : Tenant) : Prop :=
  tenant.testcase.OwnsSwitches ∨
    tenant.testcase.SharesSwitches ∧ tenant.id = 1

instance (tenant : Tenant) : Decidable (Makes tenant) :=
  inferInstanceAs (Decidable (_ ∨ _))

/-- What a tenant has called on the switches that it makes, when it makes
them. -/
def making (tenant : Tenant) : List SwitchCall :=
  if tenant.testcase.OwnsSwitches then
    registrations tenant.id tenant.testcase.switchEvents ++ [.start]
  else []

/-- What a tenant has called on all switches that are there. -/
def calling (tenants : Nat) (tenant : Tenant) : List SwitchCall :=
  if tenant.testcase.SharesSwitches then
    registrations tenant.id tenant.testcase.switchEvents ++
      if tenant.id = tenants then [.start] else []
  else []

def made (args : ArgParser) (there : Nat) (tenant : Tenant) :
    List EmulatedSwitch :=
  if Makes tenant then
    (newSwitches args tenant.id there).map (EmulatedSwitch.called (making tenant))
  else []

/-- The places that the testcase of a tenant has among its switches. -/
def places (args : ArgParser) (there : Nat) (tenant : Tenant) : List Nat :=
  if tenant.testcase.OwnsSwitches then
    List.range' there args.numSwitches.toNat
  else if tenant.testcase.SharesSwitches then
    List.range (there + (made args there tenant).length)
  else []

theorem startShared_eq (events : List SwitchEventType) (args : ArgParser)
    (tenants tenantId : Nat) (switches : List EmulatedSwitch) :
    let all := switches ++
      if tenantId = 1 then newSwitches args tenantId switches.length else []
    startShared events args tenants tenantId switches =
      (all.map (EmulatedSwitch.called (registrations tenantId events ++
          if tenantId = tenants then [.start] else [])),
        List.range all.length) := by
  intro all
  have switchesEq : (if tenantId = 1 then
      startSharedSwitches args tenantId switches else switches) = all := by
    by_cases first : tenantId = 1
    · subst first
      rw [if_pos rfl, startSharedSwitches_eq]
      simp [all]
    · rw [if_neg first]
      simp [all, first]
  rw [startShared, switchesEq]
  simp only [foldl_registerForEvent]
  by_cases last : tenantId = tenants
  · rw [if_pos last, if_pos last, List.map_map]
    congr 1
    apply List.map_congr_left
    intro sw _
    simp [EmulatedSwitch.called, EmulatedSwitch.start]
  · rw [if_neg last, if_neg last, List.append_nil]

theorem startOwnSwitches_owns (args : ArgParser) (tenants : Nat)
    {tenant : Tenant} (owns : tenant.testcase.OwnsSwitches)
    (switches : List EmulatedSwitch) :
    startOwnSwitches tenant.testcase.switchEvents args tenant.id switches =
      ((switches ++ made args switches.length tenant).map
          (EmulatedSwitch.called (calling tenants tenant)),
        places args switches.length tenant) := by
  have unshared : ¬tenant.testcase.SharesSwitches := fun shares =>
    TestcaseClass.not_owns_and_shares owns shares
  rw [startOwnSwitches_eq]
  simp [made, Makes, making, calling, places, owns, unshared]

theorem startShared_shares (args : ArgParser) (tenants : Nat) {tenant : Tenant}
    (shares : tenant.testcase.SharesSwitches) (switches : List EmulatedSwitch) :
    startShared tenant.testcase.switchEvents args tenants tenant.id switches =
      ((switches ++ made args switches.length tenant).map
          (EmulatedSwitch.called (calling tenants tenant)),
        places args switches.length tenant) := by
  have unowned : ¬tenant.testcase.OwnsSwitches := fun owns =>
    TestcaseClass.not_owns_and_shares owns shares
  have madeEq : made args switches.length tenant =
      if tenant.id = 1 then newSwitches args tenant.id switches.length
      else [] := by
    by_cases first : tenant.id = 1
    · simp [made, Makes, making, unowned, shares, first]
    · simp [made, Makes, unowned, first]
  rw [startShared_eq]
  simp only [calling, places, shares, unowned, if_true, if_false, madeEq,
    List.length_append]

theorem startTestcase_eq (args : ArgParser) (tenants : Nat) (tenant : Tenant)
    (switches : List EmulatedSwitch) :
    tenant.testcase.startTestcase args tenants tenant.id switches =
      ((switches ++ made args switches.length tenant).map
          (EmulatedSwitch.called (calling tenants tenant)),
        places args switches.length tenant) := by
  have own := @startOwnSwitches_owns args tenants tenant
  have shared := @startShared_shares args tenants tenant
  cases testcase : tenant.testcase with
  | flowModSandwich =>
      rw [testcase] at own
      exact own (.inl rfl) switches
  | packetInSandwich =>
      rw [testcase] at own
      exact own (.inr rfl) switches
  | flowModSandwichSingle =>
      rw [testcase] at shared
      exact shared (.inl rfl) switches
  | packetInSandwichSingle =>
      rw [testcase] at shared
      exact shared (.inr rfl) switches
  | _ =>
      simp [TestcaseClass.startTestcase, made, Makes, calling, places, testcase,
        TestcaseClass.OwnsSwitches, TestcaseClass.SharesSwitches]

/-- What the first of the tenants have started. -/
def startedBy (args : ArgParser) (tenants : Nat) (first : List Tenant) :
    Started :=
  first.foldl (startTenant args tenants) nothing

theorem startedBy_snoc (args : ArgParser) (tenants : Nat) (first : List Tenant)
    (tenant : Tenant) :
    startedBy args tenants (first ++ [tenant]) =
      { switches :=
          ((startedBy args tenants first).switches ++
            made args (startedBy args tenants first).switches.length
              tenant).map (EmulatedSwitch.called (calling tenants tenant))
        own := (startedBy args tenants first).own ++
          [places args (startedBy args tenants first).switches.length
            tenant] } := by
  rw [startedBy, List.foldl_append, List.foldl_cons, List.foldl_nil]
  change startTenant args tenants (startedBy args tenants first) tenant = _
  rw [startTenant, startTestcase_eq]

/-- The calls on each switch: those of the tenant that made it, and those of
the tenants from this one on. -/
def histories (count tenants : Nat) : List Tenant → List (List SwitchCall)
  | [] => []
  | tenant :: later =>
      (if Makes tenant then
        List.replicate count
          (making tenant ++ (tenant :: later).flatMap (calling tenants))
        else []) ++ histories count tenants later

theorem histories_snoc (count tenants : Nat) (first : List Tenant)
    (tenant : Tenant) :
    histories count tenants (first ++ [tenant]) =
      (histories count tenants first).map (fun calls =>
        calls ++ calling tenants tenant) ++
      if Makes tenant then
        List.replicate count (making tenant ++ calling tenants tenant)
      else [] := by
  induction first with
  | nil => simp [histories]
  | cons earlier first induction =>
      rw [List.cons_append, histories, induction, histories]
      by_cases makes : Makes earlier
      · simp [makes]
      · simp [makes]

theorem mem_histories {count tenants : Nat} {first : List Tenant}
    {calls : List SwitchCall} (positive : 0 < count) :
    calls ∈ histories count tenants first ↔
      ∃ earlier tenant later, first = earlier ++ tenant :: later ∧
        Makes tenant ∧
        calls = making tenant ++
          (tenant :: later).flatMap (calling tenants) := by
  induction first with
  | nil => simp [histories]
  | cons head first induction =>
      rw [histories, List.mem_append, induction]
      constructor
      · intro member
        rcases member with now | later
        · by_cases makes : Makes head
          · rw [if_pos makes] at now
            exact ⟨[], head, first, rfl, makes, List.eq_of_mem_replicate now⟩
          · rw [if_neg makes] at now
            exact absurd now List.not_mem_nil
        · obtain ⟨earlier, tenant, rest, rfl, makes, callsEq⟩ := later
          exact ⟨head :: earlier, tenant, rest, rfl, makes, callsEq⟩
      · intro found
        obtain ⟨earlier, tenant, rest, split, makes, callsEq⟩ := found
        cases earlier with
        | nil =>
            obtain ⟨rfl, rfl⟩ := List.cons.inj split
            left
            rw [if_pos makes, callsEq]
            exact List.mem_replicate.mpr ⟨Nat.ne_of_gt positive, rfl⟩
        | cons other earlier =>
            obtain ⟨rfl, restEq⟩ := List.cons.inj split
            right
            exact ⟨earlier, tenant, rest, restEq, makes, callsEq⟩

theorem startedBy_calls (args : ArgParser) (tenants : Nat)
    (first : List Tenant) :
    (startedBy args tenants first).switches.map EmulatedSwitch.calls =
      histories args.numSwitches.toNat tenants first := by
  induction first using List.reverseRecOn with
  | nil => rfl
  | append_singleton first tenant induction =>
      rw [startedBy_snoc, histories_snoc, ← induction]
      by_cases makes : Makes tenant
      · simp [made, makes, newSwitches, newSwitch, Function.comp_def,
          List.map_const']
      · simp [made, makes, Function.comp_def]

theorem startedBy_length (args : ArgParser) (tenants : Nat)
    (first : List Tenant) :
    (startedBy args tenants first).switches.length =
      args.numSwitches.toNat * first.countP (fun tenant => Makes tenant) := by
  induction first using List.reverseRecOn with
  | nil => rfl
  | append_singleton first tenant induction =>
      rw [startedBy_snoc, List.length_map, List.length_append, induction,
        List.countP_append, Nat.mul_add]
      by_cases makes : Makes tenant
      · simp [made, makes, newSwitches]
      · simp [made, makes]

theorem startedBy_own_length (args : ArgParser) (tenants : Nat)
    (first : List Tenant) :
    (startedBy args tenants first).own.length = first.length := by
  induction first using List.reverseRecOn with
  | nil => rfl
  | append_singleton first tenant induction =>
      rw [startedBy_snoc, List.length_append, induction, List.length_append]
      rfl

theorem startedBy_own (args : ArgParser) (tenants : Nat)
    (earlier : List Tenant) (tenant : Tenant) (later : List Tenant) :
    (startedBy args tenants (earlier ++ tenant :: later)).own[
        earlier.length]? =
      some (places args
        (startedBy args tenants earlier).switches.length tenant) := by
  induction later using List.reverseRecOn with
  | nil =>
      rw [startedBy_snoc]
      simp [← startedBy_own_length args tenants earlier]
  | append_singleton later last induction =>
      have regroup : earlier ++ tenant :: (later ++ [last]) =
          (earlier ++ tenant :: later) ++ [last] := by simp
      have inside : earlier.length <
          (startedBy args tenants (earlier ++ tenant :: later)).own.length := by
        rw [startedBy_own_length]
        simp
      rw [regroup, startedBy_snoc, List.getElem?_append_left inside, induction]

/-- The tenants are numbered from one. -/
def Numbered (tenants : List Tenant) : Prop :=
  tenants.map Tenant.id = List.range' 1 tenants.length

theorem createTenants_numbered {args : ArgParser} {tenants : List Tenant}
    (created : createTenants args = some tenants) :
    Numbered tenants ∧ tenants.length = args.tenants.toNat := by
  rw [createTenants] at created
  generalize args.tenants.toNat = count at created ⊢
  induction count generalizing tenants with
  | zero =>
      cases created
      exact ⟨rfl, rfl⟩
  | succ count induction =>
      rw [List.range_succ, List.foldlM_append] at created
      obtain ⟨earlier, before, last⟩ := Option.bind_eq_some_iff.mp created
      obtain ⟨numbered, length⟩ := induction before
      obtain ⟨after, added, ended⟩ := Option.bind_eq_some_iff.mp last
      cases ended
      obtain ⟨tenant, new, rfl⟩ := Option.map_eq_some_iff.mp added
      obtain ⟨port, _, rfl⟩ := Option.map_eq_some_iff.mp new
      refine ⟨?_, by rw [List.length_append, length]; rfl⟩
      rw [Numbered, List.map_append, numbered, List.length_append,
        List.length_singleton, List.range'_concat]
      simp [Nat.add_comm]

theorem Numbered.id_eq {earlier later : List Tenant} {tenant : Tenant}
    (numbered : Numbered (earlier ++ tenant :: later)) :
    tenant.id = earlier.length + 1 := by
  have found := congrArg (fun ids => ids[earlier.length]?) numbered
  have inside : earlier.length < earlier.length + (later.length + 1) := by omega
  simp only [List.map_append, List.map_cons, List.length_append,
    List.length_cons, List.getElem?_range' inside] at found
  simpa [Nat.add_comm] using found

/-- Started once, after everything else. -/
def StartedLast (calls : List SwitchCall) : Prop :=
  calls.getLast? = some .start ∧ .start ∉ calls.dropLast

instance (calls : List SwitchCall) : Decidable (StartedLast calls) :=
  inferInstanceAs (Decidable (_ ∧ _))

theorem startedLast_concat {calls : List SwitchCall}
    (unstarted : .start ∉ calls) : StartedLast (calls ++ [.start]) := by
  simp [StartedLast, unstarted]

theorem StartedLast.nothing_after {calls more : List SwitchCall}
    (startedLast : StartedLast (calls ++ .start :: more)) : more = [] := by
  cases more using List.reverseRecOn with
  | nil => rfl
  | append_singleton more last =>
      have regroup : calls ++ .start :: (more ++ [last]) =
          (calls ++ .start :: more) ++ [last] := by simp
      have unstarted := startedLast.2
      rw [regroup, List.dropLast_concat] at unstarted
      exact absurd (by simp) unstarted

theorem start_not_mem_registrations (tenantId : Nat)
    (events : List SwitchEventType) :
    .start ∉ registrations tenantId events := by
  simp [registrations]

theorem start_mem_calling {tenants : Nat} {tenant : Tenant}
    (starts : .start ∈ calling tenants tenant) :
    tenant.testcase.SharesSwitches ∧ tenant.id = tenants := by
  by_cases shares : tenant.testcase.SharesSwitches
  · by_cases last : tenant.id = tenants
    · exact ⟨shares, last⟩
    · simp [calling, shares, last, registrations] at starts
  · simp [calling, shares] at starts

theorem calling_eq_nil {tenants : Nat} {tenant : Tenant} :
    calling tenants tenant = [] ↔ ¬tenant.testcase.SharesSwitches := by
  constructor
  · intro silent shares
    rw [calling, if_pos shares] at silent
    have registered := (List.append_eq_nil_iff.mp silent).1
    rcases shares with single | single
    · simp [registrations, single, TestcaseClass.switchEvents] at registered
    · simp [registrations, single, TestcaseClass.switchEvents] at registered
  · intro unshared
    rw [calling, if_neg unshared]

/-- The tenants have switches of their own, or share those that the first
tenant makes and the last tenant starts. -/
def Together (tenants : List Tenant) : Prop :=
  (∀ tenant ∈ tenants, ¬tenant.testcase.SharesSwitches) ∨
    (∀ tenant ∈ tenants, ¬tenant.testcase.OwnsSwitches) ∧
      (∃ tenant, tenants.head? = some tenant ∧
        tenant.testcase.SharesSwitches) ∧
      ∃ tenant, tenants.getLast? = some tenant ∧
        tenant.testcase.SharesSwitches

/-- Every switch is started once, after all callbacks are registered, and every
tenant of a sandwich testcase has its switches. -/
structure Prepared (args : ArgParser) (tenants : List Tenant)
    (started : Started) : Prop where
  ready : ∀ sw ∈ started.switches, StartedLast sw.calls
  equipped : ∀ (index : Nat) (tenant : Tenant), tenants[index]? = some tenant →
    tenant.testcase.switchEvents ≠ [] →
      (started.own[index]?).map List.length = some args.numSwitches.toNat

section Preparing

variable {args : ArgParser} {tenants earlier later : List Tenant}
  {tenant : Tenant}

theorem ready_iff (positive : 0 < args.numSwitches.toNat) :
    (∀ sw ∈ (startTenants args tenants).switches, StartedLast sw.calls) ↔
      ∀ earlier tenant later, tenants = earlier ++ tenant :: later →
        Makes tenant →
          StartedLast (making tenant ++
            (tenant :: later).flatMap (calling tenants.length)) := by
  have calls := startedBy_calls args tenants.length tenants
  constructor
  · intro ready earlier tenant later split makes
    have member := (@mem_histories _ tenants.length tenants _ positive).mpr
      ⟨earlier, tenant, later, split, makes, rfl⟩
    rw [← calls] at member
    obtain ⟨sw, inside, callsEq⟩ := List.mem_map.mp member
    rw [← callsEq]
    exact ready sw inside
  · intro ready sw member
    have inside : sw.calls ∈
        (startedBy args tenants.length tenants).switches.map
          EmulatedSwitch.calls :=
      List.mem_map_of_mem member
    rw [calls] at inside
    obtain ⟨earlier, tenant, later, split, makes, callsEq⟩ :=
      (mem_histories positive).mp inside
    rw [callsEq]
    exact ready earlier tenant later split makes

theorem places_length (there : Nat) :
    (places args there tenant).length =
      if tenant.testcase.OwnsSwitches then args.numSwitches.toNat
      else if tenant.testcase.SharesSwitches then
        there + if tenant.id = 1 then args.numSwitches.toNat else 0
      else 0 := by
  by_cases owns : tenant.testcase.OwnsSwitches
  · simp [places, owns]
  · by_cases shares : tenant.testcase.SharesSwitches
    · by_cases first : tenant.id = 1
      · simp [places, made, Makes, newSwitches, owns, shares, first]
      · simp [places, made, Makes, owns, shares, first]
    · simp [places, owns, shares]

theorem switchEvents_ne_nil {testcase : TestcaseClass} :
    testcase.switchEvents ≠ [] ↔
      testcase.OwnsSwitches ∨ testcase.SharesSwitches := by
  cases testcase <;> decide

/-- A tenant that shares the switches has those of all makers so far. -/
theorem shared_places_length (shares : tenant.testcase.SharesSwitches) :
    (places args (startedBy args tenants.length earlier).switches.length
        tenant).length =
      args.numSwitches.toNat *
        (earlier ++ [tenant]).countP (fun tenant => Makes tenant) := by
  have unowned : ¬tenant.testcase.OwnsSwitches := fun owns =>
    TestcaseClass.not_owns_and_shares owns shares
  rw [places_length, startedBy_length, List.countP_append, Nat.mul_add]
  by_cases first : tenant.id = 1
  · simp [Makes, unowned, shares, first]
  · simp [Makes, unowned, shares, first]

theorem equipped_iff :
    (∀ (index : Nat) (tenant : Tenant), tenants[index]? = some tenant →
      tenant.testcase.switchEvents ≠ [] →
        ((startTenants args tenants).own[index]?).map List.length =
          some args.numSwitches.toNat) ↔
      ∀ earlier tenant later, tenants = earlier ++ tenant :: later →
        tenant.testcase.SharesSwitches →
          args.numSwitches.toNat *
              (earlier ++ [tenant]).countP (fun tenant => Makes tenant) =
            args.numSwitches.toNat := by
  constructor
  · intro equipped earlier tenant later split shares
    have own := startedBy_own args tenants.length earlier tenant later
    have length := equipped earlier.length tenant (by simp [split])
      (switchEvents_ne_nil.mpr (.inr shares))
    rw [← split] at own
    change ((startedBy args tenants.length tenants).own[earlier.length]?).map
      List.length = _ at length
    rw [own, Option.map_some, Option.some.injEq,
      shared_places_length shares] at length
    exact length
  · intro shared index tenant present registers
    obtain ⟨inside, rfl⟩ := List.getElem?_eq_some_iff.mp present
    have split : tenants =
        tenants.take index ++ tenants[index] :: tenants.drop (index + 1) := by
      rw [List.getElem_cons_drop, List.take_append_drop]
    have position : (tenants.take index).length = index :=
      List.length_take_of_le (Nat.le_of_lt inside)
    have own := startedBy_own args tenants.length (tenants.take index)
      tenants[index] (tenants.drop (index + 1))
    rw [← split, position] at own
    change ((startedBy args tenants.length tenants).own[index]?).map
      List.length = _
    rw [own, Option.map_some, Option.some.injEq]
    rcases switchEvents_ne_nil.mp registers with owns | shares
    · rw [places_length, if_pos owns]
    · rw [shared_places_length shares]
      exact shared _ _ _ split shares

/-- Without sharing, a switch is started by the tenant that makes it. -/
theorem ready_of_unshared
    (unshared : ∀ tenant ∈ tenants, ¬tenant.testcase.SharesSwitches)
    (split : tenants = earlier ++ tenant :: later) (makes : Makes tenant) :
    StartedLast (making tenant ++
      (tenant :: later).flatMap (calling tenants.length)) := by
  have silent : (tenant :: later).flatMap (calling tenants.length) = [] := by
    apply List.flatMap_eq_nil_iff.mpr
    intro other member
    apply calling_eq_nil.mpr
    apply unshared other
    rw [split]
    exact List.mem_append_right _ member
  have owns : tenant.testcase.OwnsSwitches := by
    rcases makes with owns | shares
    · exact owns
    · exact absurd shares.1 (unshared tenant (by simp [split]))
  rw [silent, List.append_nil, making, if_pos owns]
  exact startedLast_concat (start_not_mem_registrations _ _)

theorem startedLast_shared {front : List Tenant} {last : Tenant}
    (numbered : Numbered (front ++ [last]))
    (shares : last.testcase.SharesSwitches) :
    StartedLast ((front ++ [last]).flatMap
      (calling (front ++ [last]).length)) := by
  have lastId : last.id = (front ++ [last]).length := by
    rw [numbered.id_eq, List.length_append, List.length_singleton]
  have unstarted : .start ∉ front.flatMap
      (calling (front ++ [last]).length) := by
    intro member
    obtain ⟨tenant, inside, starts⟩ := List.mem_flatMap.mp member
    obtain ⟨earlier, later, rfl⟩ := List.append_of_mem inside
    have sameId := (start_mem_calling starts).2
    have position : tenant.id = earlier.length + 1 := by
      have regrouped : Numbered (earlier ++ tenant :: (later ++ [last])) := by
        simpa using numbered
      exact regrouped.id_eq
    simp only [List.length_append, List.length_cons] at sameId
    omega
  rw [List.flatMap_append, List.flatMap_singleton, calling, if_pos shares,
    if_pos lastId, ← List.append_assoc]
  apply startedLast_concat
  rw [List.mem_append]
  intro member
  rcases member with before | registered
  · exact unstarted before
  · exact start_not_mem_registrations _ _ registered

/-- Of tenants that do not make their own switches only the first makes any. -/
theorem makes_first (numbered : Numbered tenants)
    (unowned : ∀ tenant ∈ tenants, ¬tenant.testcase.OwnsSwitches)
    (split : tenants = earlier ++ tenant :: later) (makes : Makes tenant) :
    earlier = [] := by
  rcases makes with owns | shares
  · exact absurd owns (unowned tenant (by simp [split]))
  · rw [split] at numbered
    have position := numbered.id_eq
    apply List.eq_nil_of_length_eq_zero
    omega

theorem countP_makes_eq_one {first : Tenant} (numbered : Numbered tenants)
    (unowned : ∀ tenant ∈ tenants, ¬tenant.testcase.OwnsSwitches)
    (head : tenants.head? = some first)
    (shares : first.testcase.SharesSwitches)
    (split : tenants = earlier ++ tenant :: later) :
    (earlier ++ [tenant]).countP (fun tenant => Makes tenant) = 1 := by
  obtain ⟨rest, whole⟩ := List.head?_eq_some_iff.mp head
  have firstMakes : Makes first := by
    rw [whole] at numbered
    exact .inr ⟨shares, @Numbered.id_eq [] rest first numbered⟩
  have others : ∀ other ∈ rest, ¬Makes other := by
    intro other member makes
    obtain ⟨before, after, rfl⟩ := List.append_of_mem member
    have nothing := makes_first numbered unowned
      (show tenants = (first :: before) ++ other :: after from whole) makes
    cases nothing
  have start : ∃ more, earlier ++ [tenant] = first :: more ∧
      ∀ other ∈ more, other ∈ rest := by
    cases earlier with
    | nil =>
        rw [split] at whole
        obtain ⟨rfl, rfl⟩ := List.cons.inj whole
        exact ⟨[], rfl, by simp⟩
    | cons other earlier =>
        rw [split] at whole
        obtain ⟨rfl, rfl⟩ := List.cons.inj whole
        refine ⟨earlier ++ [tenant], rfl, ?_⟩
        intro other member
        rcases List.mem_append.mp member with before | now
        · simp [before]
        · simp [List.mem_singleton.mp now]
  obtain ⟨more, together, inside⟩ := start
  have none : more.countP (fun tenant => Makes tenant) = 0 := by
    apply List.countP_eq_zero.mpr
    intro other member
    simpa using others other (inside other member)
  rw [together, List.countP_cons, none]
  simp [firstMakes]

theorem prepared_of_together (numbered : Numbered tenants)
    (positive : 0 < args.numSwitches.toNat) (together : Together tenants) :
    Prepared args tenants (startTenants args tenants) := by
  rcases together with unshared | ⟨unowned, ⟨first, head, firstShares⟩,
    last, getLast, lastShares⟩
  · refine ⟨(ready_iff positive).mpr ?_, equipped_iff.mpr ?_⟩
    · intro earlier tenant later split makes
      exact ready_of_unshared unshared split makes
    · intro earlier tenant later split shares
      exact absurd shares (unshared tenant (by simp [split]))
  · refine ⟨(ready_iff positive).mpr ?_, equipped_iff.mpr ?_⟩
    · intro earlier tenant later split makes
      have nothing := makes_first numbered unowned split makes
      rw [nothing, List.nil_append] at split
      have unmade : making tenant = [] := by
        rw [making, if_neg (unowned tenant (by simp [split]))]
      obtain ⟨front, whole⟩ := List.getLast?_eq_some_iff.mp getLast
      rw [unmade, List.nil_append, ← split]
      rw [whole] at numbered ⊢
      exact startedLast_shared numbered lastShares
    · intro earlier tenant later split shares
      rw [countP_makes_eq_one numbered unowned head firstShares split,
        Nat.mul_one]

/-- An own switch is lost to the tenants that share switches after it. -/
theorem unshared_after (numSwitches : 0 < args.numSwitches.toNat)
    (prepared : Prepared args tenants (startTenants args tenants))
    (split : tenants = earlier ++ tenant :: later)
    (owns : tenant.testcase.OwnsSwitches) :
    ∀ other ∈ later, ¬other.testcase.SharesSwitches := by
  have ready := (ready_iff numSwitches).mp prepared.ready earlier tenant later
    split (.inl owns)
  have unshared : ¬tenant.testcase.SharesSwitches := fun shares =>
    TestcaseClass.not_owns_and_shares owns shares
  rw [making, if_pos owns, List.flatMap_cons, calling_eq_nil.mpr unshared,
    List.nil_append, List.append_assoc, List.singleton_append] at ready
  have silent := List.flatMap_eq_nil_iff.mp ready.nothing_after
  intro other member
  exact calling_eq_nil.mp (silent other member)

/-- Up to a tenant that shares the switches some tenant has made its own. -/
theorem maker_of_prepared (positive : 0 < args.numSwitches.toNat)
    (prepared : Prepared args tenants (startTenants args tenants))
    (split : tenants = earlier ++ tenant :: later)
    (shares : tenant.testcase.SharesSwitches) :
    ∃ maker ∈ earlier ++ [tenant], Makes maker := by
  have makers := (equipped_iff.mp prepared.equipped) earlier tenant later split
    shares
  have found : (earlier ++ [tenant]).countP (fun tenant => Makes tenant) ≠ 0 := by
    intro none
    rw [none, Nat.mul_zero] at makers
    omega
  obtain ⟨maker, member, makes⟩ :=
    List.countP_pos_iff.mp (Nat.pos_of_ne_zero found)
  exact ⟨maker, member, by simpa using makes⟩

theorem first_shares (numbered : Numbered tenants)
    (positive : 0 < args.numSwitches.toNat)
    (prepared : Prepared args tenants (startTenants args tenants))
    (split : tenants = earlier ++ tenant :: later)
    (shares : tenant.testcase.SharesSwitches) :
    ∃ first rest, tenants = first :: rest ∧
      first.testcase.SharesSwitches := by
  obtain ⟨maker, member, makes⟩ :=
    maker_of_prepared positive prepared split shares
  obtain ⟨before, after, makerSplit⟩ :
      ∃ before after, tenants = before ++ maker :: after ∧
        (maker.testcase.OwnsSwitches → tenant ∈ after) := by
    rcases List.mem_append.mp member with inside | last
    · obtain ⟨before, between, rfl⟩ := List.append_of_mem inside
      exact ⟨before, between ++ tenant :: later, by simp [split], by simp⟩
    · rw [List.mem_singleton.mp last]
      exact ⟨earlier, later, split, fun owns =>
        (TestcaseClass.not_owns_and_shares owns shares).elim⟩
  obtain ⟨whole, later⟩ := makerSplit
  rcases makes with owns | first
  · have unshared := unshared_after positive prepared whole owns
    exact absurd shares (unshared tenant (later owns))
  · rw [whole] at numbered
    have position := numbered.id_eq
    have nothing : before = [] := by
      apply List.eq_nil_of_length_eq_zero
      omega
    exact ⟨maker, after, by rw [whole, nothing]; rfl, first.1⟩

/-- Shared switches are started by someone, who can be the last tenant only. -/
theorem last_shares {first : Tenant} {rest : List Tenant}
    (numbered : Numbered tenants) (positive : 0 < args.numSwitches.toNat)
    (prepared : Prepared args tenants (startTenants args tenants))
    (whole : tenants = first :: rest)
    (shares : first.testcase.SharesSwitches) :
    ∃ front last, tenants = front ++ [last] ∧
      last.testcase.SharesSwitches := by
  have firstId : first.id = 1 := by
    rw [whole] at numbered
    exact @Numbered.id_eq [] rest first numbered
  have ready := (ready_iff positive).mp prepared.ready [] first rest whole
    (.inr ⟨shares, firstId⟩)
  have unmade : making first = [] := by
    rw [making, if_neg (fun owns =>
      TestcaseClass.not_owns_and_shares owns shares)]
  rw [unmade, List.nil_append, ← whole] at ready
  have started : .start ∈ tenants.flatMap (calling tenants.length) :=
    List.mem_of_getLast? ready.1
  obtain ⟨starter, member, starts⟩ := List.mem_flatMap.mp started
  obtain ⟨starterShares, starterId⟩ := start_mem_calling starts
  obtain ⟨front, after, split⟩ := List.append_of_mem member
  have position : starter.id = front.length + 1 := by
    rw [split] at numbered
    exact numbered.id_eq
  have length := congrArg List.length split
  rw [List.length_append, List.length_cons] at length
  have nothing : after = [] := by
    apply List.eq_nil_of_length_eq_zero
    omega
  exact ⟨front, starter, by rw [split, nothing], starterShares⟩

theorem together_of_prepared (numbered : Numbered tenants)
    (positive : 0 < args.numSwitches.toNat)
    (prepared : Prepared args tenants (startTenants args tenants)) :
    Together tenants := by
  by_cases someShares : ∃ tenant ∈ tenants, tenant.testcase.SharesSwitches
  · obtain ⟨tenant, member, shares⟩ := someShares
    obtain ⟨earlier, later, split⟩ := List.append_of_mem member
    obtain ⟨first, rest, whole, firstShares⟩ :=
      first_shares numbered positive prepared split shares
    obtain ⟨front, last, ended, lastShares⟩ :=
      last_shares numbered positive prepared whole firstShares
    right
    refine ⟨?_, ⟨first, by rw [whole]; rfl, firstShares⟩, last,
      by rw [ended, List.getLast?_concat], lastShares⟩
    intro owner inside owns
    rw [ended] at inside
    rcases List.mem_append.mp inside with early | same
    · -- its switches are lost to the last tenant
      obtain ⟨before, between, rfl⟩ := List.append_of_mem early
      have split : tenants = before ++ owner :: (between ++ [last]) := by
        rw [ended, List.append_assoc, List.cons_append]
      have unshared := unshared_after positive prepared split owns
      exact unshared last (by simp) lastShares
    · rw [List.mem_singleton.mp same] at owns
      exact TestcaseClass.not_owns_and_shares owns lastShares
  · left
    intro tenant member shares
    exact someShares ⟨tenant, member, shares⟩

end Preparing

/-- Exactly when the tenants keep together, start-up prepares the switches. -/
theorem prepared_iff {args : ArgParser} {tenants : List Tenant}
    {started : Started} (numSwitches : 1 ≤ args.numSwitches)
    (result : start args = some (tenants, started)) :
    Prepared args tenants started ↔ Together tenants := by
  obtain ⟨created, found, pair⟩ := Option.map_eq_some_iff.mp result
  obtain ⟨rfl, rfl⟩ := Prod.mk.inj pair
  have numbered := (createTenants_numbered found).1
  have positive : 0 < args.numSwitches.toNat := by omega
  constructor
  · exact together_of_prepared numbered positive
  · exact prepared_of_together numbered positive

/-- Three tenants that share two switches. -/
def sampleArgs : ArgParser :=
  { port := "6633".toList
    pps := [50]
    testcases :=
      ["FlowModSandwichSingle", "PacketInSandwichSingle",
        "FlowModSandwichSingle"]
    logfile := "perfbench".toList
    ofVersion := 13
    tenants := 3
    switchIP := "127.0.0.1"
    switchPort := 6633
    schedFiles := []
    numSwitches := 2 }

theorem sampleArgs_isSome : (start sampleArgs).isSome = true := by
  decide +kernel

def sampleStart : List Tenant × Started :=
  (start sampleArgs).get sampleArgs_isSome

theorem sampleArgs_start :
    start sampleArgs = some (sampleStart.1, sampleStart.2) :=
  (Option.some_get sampleArgs_isSome).symm

theorem prepared_iff_sample :
    Prepared sampleArgs sampleStart.1 sampleStart.2 ↔
      Together sampleStart.1 :=
  prepared_iff (by decide) sampleArgs_start

end StartUp

end Perfbench
