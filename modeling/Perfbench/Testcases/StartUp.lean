import Perfbench.Connection.OFClient
import Perfbench.Library.DecimalText
import Perfbench.MachineInteger

/-!
# The start of the tenants and their switches

`Perfbench::start` makes all the tenants before it starts the first of them.
Of the sandwich testcases two give every tenant switches of its own.  In the
other two, named "Single", the first tenant makes the switches of all and the
last one starts them.
-/

namespace Perfbench

/-- The classes that `TestCaseFactory` knows. -/
inductive TestcaseClass where
  | echoRequest
  | featuresRequest
  | flowStatsRequest
  | portStatsRequest
  | packetOut
  | packetIn
  | flowMod
  | flowModSandwich
  | flowModSandwichSingle
  | packetInSandwich
  | packetInSandwichSingle
  deriving DecidableEq

/-- `TestCaseFactory::get_testcase`. -/
def getTestcase (testcase : String) : TestcaseClass :=
  if testcase = "EchoRequest" then .echoRequest
  else if testcase = "FeaturesRequest" then .featuresRequest
  else if testcase = "FlowStatsRequest" then .flowStatsRequest
  else if testcase = "PortStatsRequest" then .portStatsRequest
  else if testcase = "PacketOut" then .packetOut
  else if testcase = "PacketIn" then .packetIn
  else if testcase = "FlowMod" then .flowMod
  else if testcase = "FlowModSandwich" then .flowModSandwich
  else if testcase = "FlowModSandwichSingle" then .flowModSandwichSingle
  else if testcase = "PacketInSandwich" then .packetInSandwich
  else if testcase = "PacketInSandwichSingle" then .packetInSandwichSingle
  else .featuresRequest

namespace StartUp

/-- The options that decide which tenants and switches there are. -/
structure ArgParser where
  port : List Char
  pps : List Int
  testcases : List String
  logfile : List Char
  ofVersion : Int
  tenants : Int
  switchIP : String
  switchPort : Int
  schedFiles : List String
  numSwitches : Int

structure Tenant where
  id : Nat
  name : String
  testcase : TestcaseClass
  port : List Char
  pps : Int
  schedFile : String
  logfile : List Char

/-- What is done with a switch once it is there: a callback of a tenant is
registered, or the switch is started. -/
inductive SwitchCall where
  | register (tenantId : Nat) (eventType : SwitchEventType)
  | start
  deriving DecidableEq

/-- An emulated switch, with the tenant whose testcase it was given. -/
structure EmulatedSwitch where
  id : Nat
  address : String
  port : Nat
  ports : List (List Char)
  dpid : Nat
  config : OFServerSettings
  testcase : Nat
  calls : List SwitchCall
  deriving DecidableEq

/-- `SystemState::switches`, and for each tenant started the places there of
its testcase's `switches`. -/
structure Started where
  switches : List EmulatedSwitch
  own : List (List Nat)
  deriving DecidableEq

/-- A single value is used for all tenants, otherwise every tenant uses its own
one. -/
def forTenant {α : Type} (default : α) (values : List α) (i : Nat) : α :=
  values.getD i (if values.length = 1 then values.getD 0 default else default)

/-- `std::stoi`, which throws outside of 32 bits as well. -/
def stoi (text : List Char) : Option Int :=
  (DecimalText.parse text).bind (fun value =>
    if -2 ^ 31 ≤ value ∧ value < 2 ^ 31 then some value else none)

/-- Different port for each tenant, and a suffix for the logfile. -/
def newTenant (args : ArgParser) (tenants : List Tenant) (i : Nat) :
    Option Tenant :=
  let id := tenants.length + 1
  let name := forTenant "FeaturesRequest" args.testcases i
  (stoi args.port).map (fun port =>
    { id
      name
      testcase := getTestcase name
      port := DecimalText.padded 0 (int32 (port + id - 1))
      pps := forTenant 100 args.pps i
      schedFile := args.schedFiles.getD i ""
      logfile := args.logfile ++ "_".toList ++ DecimalText.padded 0 id ++
        ".csv".toList })

def createTenants (args : ArgParser) : Option (List Tenant) :=
  (List.range args.tenants.toNat).foldlM
    (fun tenants i => (newTenant args tenants i).map (fun tenant =>
      tenants ++ [tenant])) []

namespace EmulatedSwitch

def registerForEvent (tenantId : Nat) (sw : EmulatedSwitch)
    (eventType : SwitchEventType) : EmulatedSwitch :=
  { sw with calls := sw.calls ++ [.register tenantId eventType] }

def start (sw : EmulatedSwitch) : EmulatedSwitch :=
  { sw with calls := sw.calls ++ [.start] }

end EmulatedSwitch

/-- The name of an interface of a switch. -/
def veth (number : Nat) : List Char :=
  "veth".toList ++ DecimalText.padded 0 number

/-- `SystemState::start_switch`; the port is not passed on to the switch, and
the testcases put it down as theirs and leave it unconnected. -/
def startSwitch (id : Nat) (ip : String) (_port : Int) (dpid : Nat)
    (ofsc : OFServerSettings) (testcase : Nat)
    (switches : List EmulatedSwitch) : EmulatedSwitch :=
  { id
    address := ip
    port := 6633
    ports :=
      [veth ((switches.length + 1) * 2 - 2),
        veth ((switches.length + 1) * 2 - 1)]
    dpid
    config := ofsc
    testcase
    calls := [] }

/-- `start_switches` of the testcases that give each tenant its switches. -/
def startOwnSwitches (events : List SwitchEventType) (args : ArgParser)
    (tenantId : Nat) (switches : List EmulatedSwitch) :
    List EmulatedSwitch × List Nat :=
  (List.range args.numSwitches.toNat).foldl
    (fun (switches, own) i =>
      let sw := startSwitch i args.switchIP args.switchPort
        (256 * tenantId + i + 1) (switchSettings args.ofVersion) tenantId
        switches
      (switches ++ [(events.foldl (EmulatedSwitch.registerForEvent tenantId)
          sw).start],
        own ++ [switches.length]))
    (switches, [])

/-- `start_switches` of the testcases that share the switches. -/
def startSharedSwitches (args : ArgParser) (tenantId : Nat)
    (switches : List EmulatedSwitch) : List EmulatedSwitch :=
  (List.range args.numSwitches.toNat).foldl
    (fun switches i => switches ++
      [startSwitch i args.switchIP args.switchPort (256 + i + 1)
        (switchSettings args.ofVersion) tenantId switches])
    switches

/-- `start_testcase` of the testcases that share the switches. -/
def startShared (events : List SwitchEventType) (args : ArgParser)
    (tenants tenantId : Nat) (switches : List EmulatedSwitch) :
    List EmulatedSwitch × List Nat :=
  let switches :=
    if tenantId = 1 then startSharedSwitches args tenantId switches
    else switches
  let registered := switches.map (fun sw =>
    events.foldl (EmulatedSwitch.registerForEvent tenantId) sw)
  -- the switches connect when the last tenant has registered
  (if tenantId = tenants then registered.map EmulatedSwitch.start
    else registered,
    List.range switches.length)

end StartUp

open StartUp

/-- A testcase starts without switches, so that it always makes its own. -/
def FlowModSandwich.startTestcase (args : ArgParser) (tenantId : Nat)
    (switches : List EmulatedSwitch) : List EmulatedSwitch × List Nat :=
  startOwnSwitches [.connUp, .flowMod] args tenantId switches

def PacketInSandwich.startTestcase (args : ArgParser) (tenantId : Nat)
    (switches : List EmulatedSwitch) : List EmulatedSwitch × List Nat :=
  startOwnSwitches [.connUp, .connDown] args tenantId switches

def FlowModSandwichSingle.startTestcase (args : ArgParser)
    (tenants tenantId : Nat) (switches : List EmulatedSwitch) :
    List EmulatedSwitch × List Nat :=
  startShared [.connUp, .connDown, .flowMod] args tenants tenantId switches

def PacketInSandwichSingle.startTestcase (args : ArgParser)
    (tenants tenantId : Nat) (switches : List EmulatedSwitch) :
    List EmulatedSwitch × List Nat :=
  startShared [.connUp, .connDown] args tenants tenantId switches

/-- The other testcases have no switches. -/
def TestcaseClass.startTestcase (args : ArgParser) (tenants tenantId : Nat)
    (switches : List EmulatedSwitch) :
    TestcaseClass → List EmulatedSwitch × List Nat
  | .flowModSandwich => FlowModSandwich.startTestcase args tenantId switches
  | .packetInSandwich => PacketInSandwich.startTestcase args tenantId switches
  | .flowModSandwichSingle =>
      FlowModSandwichSingle.startTestcase args tenants tenantId switches
  | .packetInSandwichSingle =>
      PacketInSandwichSingle.startTestcase args tenants tenantId switches
  | _ => (switches, [])

namespace StartUp

def startTenant (args : ArgParser) (tenants : Nat) (started : Started)
    (tenant : Tenant) : Started :=
  let after := tenant.testcase.startTestcase args tenants tenant.id
    started.switches
  { switches := after.1
    own := started.own ++ [after.2] }

/-- Nothing is started yet. -/
def nothing : Started :=
  { switches := []
    own := [] }

/-- Start all tenants. -/
def startTenants (args : ArgParser) (tenants : List Tenant) : Started :=
  tenants.foldl (startTenant args tenants.length) nothing

/-- The schedulers are left out, whose scheduling files have complete lines. -/
def start (args : ArgParser) : Option (List Tenant × Started) :=
  (createTenants args).map (fun tenants => (tenants, startTenants args tenants))

end StartUp

end Perfbench
