import Mathlib.Data.List.Nodup
import Mathlib.Data.List.Pairwise
import Perfbench.Testcases.StartedSwitches

/-!
# What tells tenants and switches apart

The tenants differ in their ids, listening ports and logfiles, the switches in
their interfaces.  The datapath ids of a tenant's switches begin behind 256
times its id, and are told apart as long as no tenant reaches those of the
next tenant with switches.
-/

namespace Perfbench

namespace StartUp

/-- What the server keeps of a port, in its six bytes. -/
def serverPort (port : Int) : List Char := (DecimalText.padded 0 port).take 5

/-- The port that the tenant's controller listens on. -/
def Tenant.listens (tenant : Tenant) : Option Int :=
  (stoi tenant.port).bind (fun port => DecimalText.parse (serverPort port))

theorem listens_padded {tenant : Tenant} {port : Int} (natural : 0 ≤ port)
    (small : port < 65536)
    (written : tenant.port = DecimalText.padded 0 (int32 port)) :
    tenant.listens = some port := by
  obtain ⟨value, rfl⟩ := Int.eq_ofNat_of_zero_le natural
  have kept : int32 (value : Int) = value :=
    int32_of_bounds (by omega) (by omega)
  have number : stoi tenant.port = some (value : Int) := by
    rw [written, kept, stoi, DecimalText.parse_padded, Option.bind_some,
      if_pos ⟨by omega, by omega⟩]
  have fits : (DecimalText.padded 0 value).length ≤ 5 :=
    (DecimalText.paddedDigits_length_le_iff (by decide) (by decide)).mpr
      (by omega)
  rw [Tenant.listens, number, Option.bind_some, serverPort,
    List.take_of_length_le fits, DecimalText.parse_padded]

/-- What is set up for the tenant at a place. -/
structure SetUp (args : ArgParser) (port : Int) (index : Nat)
    (tenant : Tenant) : Prop where
  id : tenant.id = index + 1
  listens : tenant.listens = some (port + index)
  testcase : tenant.testcase =
    getTestcase (forTenant "FeaturesRequest" args.testcases index)
  logfile : tenant.logfile = args.logfile ++ "_".toList ++
    DecimalText.padded 0 (index + 1 : Nat) ++ ".csv".toList

def Configured (args : ArgParser) (port : Int) (tenants : List Tenant) :
    Prop :=
  ∀ (index : Nat) (tenant : Tenant), tenants[index]? = some tenant →
    SetUp args port index tenant

theorem newTenant_configured {args : ArgParser} {port : Int}
    {tenants : List Tenant} {tenant : Tenant}
    (base : stoi args.port = some port) (natural : 0 ≤ port)
    (small : port + tenants.length < 65536)
    (configured : Configured args port tenants)
    (new : newTenant args tenants tenants.length = some tenant) :
    Configured args port (tenants ++ [tenant]) := by
  intro index other present
  rcases Nat.lt_or_ge index tenants.length with old | last
  · rw [List.getElem?_append_left old] at present
    exact configured index other present
  · rw [List.getElem?_append_right last] at present
    have inside := (List.getElem?_eq_some_iff.mp present).1
    have same : index = tenants.length := by
      rw [List.length_singleton] at inside
      omega
    subst same
    rw [Nat.sub_self, List.getElem?_cons_zero, Option.some.injEq] at present
    subst present
    obtain ⟨value, found, rfl⟩ := Option.map_eq_some_iff.mp new
    rw [base, Option.some.injEq] at found
    subst found
    refine ⟨rfl, listens_padded (by omega) small ?_, rfl, rfl⟩
    have same : port + (tenants.length + 1 : Nat) - 1 =
        port + tenants.length := by omega
    simp only [same]

theorem createTenants_configured {args : ArgParser} {tenants : List Tenant}
    (created : createTenants args = some tenants) {port : Int}
    (base : stoi args.port = some port) (natural : 0 ≤ port)
    (room : port + args.tenants ≤ 65536) : Configured args port tenants := by
  have length := (createTenants_numbered created).2
  have enough : port + args.tenants.toNat ≤ 65536 ∨
      args.tenants.toNat = 0 := by omega
  clear room
  rw [createTenants] at created
  generalize args.tenants.toNat = count at created length enough
  induction count generalizing tenants with
  | zero =>
      cases created
      intro index tenant present
      exact absurd present (by simp)
  | succ count induction =>
      rw [List.range_succ, List.foldlM_append] at created
      obtain ⟨earlier, before, last⟩ := Option.bind_eq_some_iff.mp created
      obtain ⟨after, added, ended⟩ := Option.bind_eq_some_iff.mp last
      cases ended
      obtain ⟨tenant, new, rfl⟩ := Option.map_eq_some_iff.mp added
      have earlierLength : earlier.length = count := by
        rw [List.length_append, List.length_singleton] at length
        omega
      have fewer := induction before earlierLength (by omega)
      rw [← earlierLength] at new
      exact newTenant_configured base natural (by omega) fewer new

theorem nodup_map_of_getElem? {α β : Type} {items : List α} {value : α → β}
    (apart : ∀ (first second : Nat) item other, items[first]? = some item →
      items[second]? = some other → value item = value other →
        first = second) :
    (items.map value).Nodup := by
  rw [List.nodup_iff_injective_get]
  intro first second same
  apply Fin.ext
  have firstInside : first.val < items.length := by simpa using first.isLt
  have secondInside : second.val < items.length := by simpa using second.isLt
  apply apart first.val second.val items[first.val] items[second.val]
    (List.getElem?_eq_getElem firstInside)
    (List.getElem?_eq_getElem secondInside)
  simpa using same

theorem Configured.ports_nodup {args : ArgParser} {port : Int}
    {tenants : List Tenant} (configured : Configured args port tenants) :
    (tenants.map Tenant.listens).Nodup := by
  apply nodup_map_of_getElem?
  intro first second tenant other present otherPresent same
  rw [(configured first tenant present).listens,
    (configured second other otherPresent).listens,
    Option.some.injEq] at same
  omega

theorem Configured.logfiles_nodup {args : ArgParser} {port : Int}
    {tenants : List Tenant} (configured : Configured args port tenants) :
    (tenants.map Tenant.logfile).Nodup := by
  apply nodup_map_of_getElem?
  intro first second tenant other present otherPresent same
  rw [(configured first tenant present).logfile,
    (configured second other otherPresent).logfile] at same
  have numbers := List.append_cancel_left (List.append_cancel_right same)
  have ids := DecimalText.padded_injective 0 numbers
  omega

theorem veth_injective : Function.Injective veth := by
  intro first second same
  have numbers := DecimalText.padded_injective 0 (List.append_cancel_left same)
  exact Int.ofNat.inj numbers

theorem newSwitches_ports (args : ArgParser) (tenantId there : Nat) :
    (newSwitches args tenantId there).flatMap EmulatedSwitch.ports =
      (List.range' (there * 2) (args.numSwitches.toNat * 2)).map veth := by
  rw [newSwitches]
  induction args.numSwitches.toNat with
  | zero => rfl
  | succ count induction =>
      have more : (count + 1) * 2 = count * 2 + 1 + 1 := by omega
      have place : (there + count) * 2 = there * 2 + count * 2 := by omega
      rw [List.range_succ, List.map_append, List.flatMap_append, induction,
        more, List.range'_concat, List.range'_concat]
      simp [newSwitch, place, Nat.add_assoc]

theorem flatMap_ports_called (calls : List SwitchCall)
    (switches : List EmulatedSwitch) :
    (switches.map (EmulatedSwitch.called calls)).flatMap EmulatedSwitch.ports =
      switches.flatMap EmulatedSwitch.ports :=
  List.flatMap_map _ _ _

theorem startedBy_ports (args : ArgParser) (tenants : Nat)
    (first : List Tenant) :
    (startedBy args tenants first).switches.flatMap EmulatedSwitch.ports =
      (List.range ((startedBy args tenants first).switches.length * 2)).map
        veth := by
  induction first using List.reverseRecOn with
  | nil => rfl
  | append_singleton first tenant induction =>
      rw [startedBy_snoc]
      simp only [flatMap_ports_called, List.flatMap_append, induction,
        List.length_map, List.length_append, Nat.add_mul]
      by_cases makes : Makes tenant
      · have together := @List.range'_append_1 0
          ((startedBy args tenants first).switches.length * 2)
          (args.numSwitches.toNat * 2)
        rw [Nat.zero_add] at together
        rw [made, if_pos makes, flatMap_ports_called, newSwitches_ports,
          ← List.map_append, List.range_eq_range', together]
        simp [newSwitches, List.range_eq_range']
      · simp [made, makes]

/-- The datapath ids of the switches that a tenant makes. -/
def dpids (args : ArgParser) (tenantId : Nat) : List Nat :=
  List.range' (256 * tenantId + 1) args.numSwitches.toNat

theorem newSwitches_dpids (args : ArgParser) (tenantId there : Nat) :
    (newSwitches args tenantId there).map EmulatedSwitch.dpid =
      dpids args tenantId := by
  rw [newSwitches, dpids, List.range'_eq_map_range, List.map_map]
  apply List.map_congr_left
  intro id _
  change 256 * tenantId + id + 1 = 256 * tenantId + 1 + id
  omega

theorem startedBy_dpids (args : ArgParser) (tenants : Nat)
    (first : List Tenant) :
    (startedBy args tenants first).switches.map EmulatedSwitch.dpid =
      (first.filter (fun tenant => Makes tenant)).flatMap (fun tenant =>
        dpids args tenant.id) := by
  induction first using List.reverseRecOn with
  | nil => rfl
  | append_singleton first tenant induction =>
      have kept : ∀ calls, EmulatedSwitch.dpid ∘ EmulatedSwitch.called calls =
          EmulatedSwitch.dpid := by
        intro calls
        rfl
      rw [startedBy_snoc, List.map_map, kept, List.map_append, induction,
        List.filter_append, List.flatMap_append]
      congr 1
      by_cases makes : Makes tenant
      · rw [made, if_pos makes, List.map_map, kept, newSwitches_dpids]
        simp [makes]
      · simp [made, makes]

/-- The tenants that make switches leave room for them. -/
def Apart (args : ArgParser) (tenants : List Tenant) : Prop :=
  ∀ tenant ∈ tenants, ∀ other ∈ tenants, Makes tenant → Makes other →
    tenant.id < other.id → args.numSwitches ≤ 256 * (other.id - tenant.id : Nat)

theorem dpids_disjoint {args : ArgParser} {first second : Nat}
    (numSwitches : 1 ≤ args.numSwitches) (before : first < second) :
    (dpids args first).Disjoint (dpids args second) ↔
      args.numSwitches ≤ 256 * (second - first : Nat) := by
  constructor
  · intro disjoint
    have member : 256 * second + 1 ∈ dpids args second :=
      List.mem_range'_1.mpr (by omega)
    by_contra overlapping
    apply disjoint _ member
    exact List.mem_range'_1.mpr (by omega)
  · intro room dpid inFirst inSecond
    have low := List.mem_range'_1.mp inFirst
    have high := List.mem_range'_1.mp inSecond
    omega

theorem Numbered.ascending {tenants : List Tenant}
    (numbered : Numbered tenants) :
    tenants.Pairwise (fun tenant other => tenant.id < other.id) := by
  rw [← List.pairwise_map, numbered]
  exact List.pairwise_lt_range'

theorem dpids_nodup_iff {args : ArgParser} {tenants : List Tenant}
    (numSwitches : 1 ≤ args.numSwitches) (numbered : Numbered tenants) :
    ((startTenants args tenants).switches.map EmulatedSwitch.dpid).Nodup ↔
      Apart args tenants := by
  have ascending := numbered.ascending.filter (fun tenant => Makes tenant)
  have dpidsEq : (startTenants args tenants).switches.map EmulatedSwitch.dpid =
      _ := startedBy_dpids args tenants.length tenants
  rw [dpidsEq, List.nodup_flatMap]
  constructor
  · intro distinct tenant member other otherMember makes otherMakes before
    apply (dpids_disjoint numSwitches before).mp
    have symmetric : Std.Symm (Function.onFun List.Disjoint
        (fun tenant : Tenant => dpids args tenant.id)) :=
      ⟨fun _ _ disjoint _ right left => disjoint left right⟩
    have apart := distinct.2.forall
      (List.mem_filter.mpr ⟨member, by simpa using makes⟩)
      (List.mem_filter.mpr ⟨otherMember, by simpa using otherMakes⟩)
    apply apart
    intro same
    rw [same] at before
    exact Nat.lt_irrefl _ before
  · intro apart
    refine ⟨fun tenant _ => List.nodup_range', ?_⟩
    apply ascending.imp_of_mem
    intro tenant other member otherMember before
    obtain ⟨inside, makes⟩ := List.mem_filter.mp member
    obtain ⟨otherInside, otherMakes⟩ := List.mem_filter.mp otherMember
    exact (dpids_disjoint numSwitches before).mpr
      (apart tenant inside other otherInside (by simpa using makes)
        (by simpa using otherMakes) before)

/-- Tenants and switches do not get into each other's way. -/
structure Separate (args : ArgParser) (port : Int) (tenants : List Tenant)
    (started : Started) : Prop where
  configured : Configured args port tenants
  listens : (tenants.map Tenant.listens).Nodup
  logfiles : (tenants.map Tenant.logfile).Nodup
  interfaces : (started.switches.flatMap EmulatedSwitch.ports).Nodup

/-- Start-up separates the tenants and the switches whatever the tenants run,
as long as there are port numbers enough from the first one. -/
theorem start_separate {args : ArgParser} {tenants : List Tenant}
    {started : Started} {port : Int} (base : stoi args.port = some port)
    (natural : 0 ≤ port) (room : port + args.tenants ≤ 65536)
    (result : start args = some (tenants, started)) :
    Separate args port tenants started := by
  obtain ⟨created, found, pair⟩ := Option.map_eq_some_iff.mp result
  obtain ⟨rfl, rfl⟩ := Prod.mk.inj pair
  have configured := createTenants_configured found base natural room
  refine ⟨configured, configured.ports_nodup, configured.logfiles_nodup, ?_⟩
  have ports : (startTenants args created).switches.flatMap
      EmulatedSwitch.ports = _ :=
    startedBy_ports args created.length created
  rw [ports]
  exact List.nodup_range.map veth_injective

/-- The datapath ids of all switches are different exactly when the tenants
that make switches leave room for them. -/
theorem start_dpids_iff {args : ArgParser} {tenants : List Tenant}
    {started : Started} (numSwitches : 1 ≤ args.numSwitches)
    (result : start args = some (tenants, started)) :
    (started.switches.map EmulatedSwitch.dpid).Nodup ↔ Apart args tenants := by
  obtain ⟨created, found, pair⟩ := Option.map_eq_some_iff.mp result
  obtain ⟨rfl, rfl⟩ := Prod.mk.inj pair
  exact dpids_nodup_iff numSwitches (createTenants_numbered found).1

theorem start_separate_sample :
    Separate sampleArgs 6633 sampleStart.1 sampleStart.2 :=
  start_separate (by decide +kernel) (by decide) (by decide) sampleArgs_start

/-- Two tenants with switches of their own. -/
def ownSwitchesArgs : ArgParser :=
  { sampleArgs with
    testcases := ["FlowModSandwich", "PacketInSandwich"]
    tenants := 2 }

theorem ownSwitchesArgs_isSome : (start ownSwitchesArgs).isSome = true := by
  decide +kernel

def ownSwitchesStart : List Tenant × Started :=
  (start ownSwitchesArgs).get ownSwitchesArgs_isSome

/-- Each of them makes two switches. -/
theorem start_dpids_iff_sample :
    ownSwitchesStart.2.switches.length = 4 ∧
      ((ownSwitchesStart.2.switches.map EmulatedSwitch.dpid).Nodup ↔
        Apart ownSwitchesArgs ownSwitchesStart.1) :=
  ⟨by decide +kernel, start_dpids_iff (by decide)
    (Option.some_get ownSwitchesArgs_isSome).symm⟩

end StartUp

end Perfbench
