import Perfbench.Connection.OFClient
import Perfbench.Connection.OFServer
import Perfbench.Library.PartialRun
import Perfbench.SendLoop

/-!
# FeaturesRequest against the emulated switch

A tenant of the FeaturesRequest testcase with any number of emulated switches.
The messages of a connection are delivered in order, one queue for each
direction; everything else, among others the handshakes, the bursts and the
liveness checks of both ends, is interleaved in any way.  A liveness check whose
last echo request was not answered closes the connection, what is on its way is
lost, and the tenant has failed; the runs here go no further than that.
-/

namespace Perfbench

namespace FeaturesRequest

/-- A connection, with its list index once it is established. -/
structure Link where
  controllerEnd : OFConnection
  switchEnd : OFConnection
  toController : List OFMessage
  toSwitch : List OFMessage
  controllerTimed : Bool
  switchTimed : Bool
  listIndex : Option Nat

/-- The tenant: its controller, what has reached its counter, and its
connections; `conns` is `Controller::conns`. -/
structure Bench where
  controller : Controller
  events : List Event
  conns : List Nat
  links : List Link

inductive Step where
  | connect
  | toSwitch (link : Nat)
  | toController (link : Nat) (time : ℚ) (pastEnd : PastEnd)
  | switchTimer (link : Nat)
  | controllerTimer (link : Nat)
  | send (position : Nat) (time : ℚ)
  | newInterval (now : ℚ)

/-- `start_controller` and `start_testcase`. -/
def start (tenantId : Nat) : Bench :=
  { controller := .start .featuresRequest tenantId
    events := []
    conns := []
    links := [] }

/-- Both ends are up and have sent their greeting. -/
def Link.start (ofVersion : Int) : Link :=
  { controllerEnd := .new
    switchEnd := .new
    toController := OFClient.greeting Switch.settings
    toSwitch := OFServer.greeting (startController ofVersion)
    controllerTimed := false
    switchTimed := false
    listIndex := none }

/-- The test packet of a connection. -/
def featuresRequest (ofVersion : Int) (xid : Nat) : OFMessage :=
  OFMessage.header (factoryVersion ofVersion) 5 8 xid

/-- `ctrl_conn_established`, for every callback for the event. -/
def ctrlConnEstablished (index : Nat) (switchPorts : Nat) (bench : Bench)
    (link : Link) : Bench × Link :=
  let callbacks := bench.controller.dispatchEvent .connUp 256
  let events := bench.events ++
    callbacks.map (fun _ => .established (index : Int))
  ({ bench with
      controller := bench.controller.connEstablished switchPorts
      events },
    { link with
      listIndex :=
        if callbacks.isEmpty then link.listIndex
        else some (connections events - 1) })

/-- `process_features_reply`, for every callback for the event. -/
def processFeaturesReply (msg : OFMessage) (time : ℚ) (pastEnd : PastEnd)
    (listIndex : Nat) (bench : Bench) : Bench :=
  { bench with
    events := bench.events ++
      (bench.controller.receive
        (.featuresReply
          { xid := msg.xid
            time
            bytes := msg.length
            msgType := msg.ofType }) 256).map
        (fun reply => .response listIndex reply pastEnd) }

/-- What the callbacks for a message do with the tenant and the connection.
The testcase registers for no other events. -/
def perform (index : Nat) (msg : OFMessage) (time : ℚ) (pastEnd : PastEnd) :
    Bench × Link → Effect EventType → Option (Bench × Link)
  | (bench, link), .send sent =>
      some (bench, { link with toSwitch := link.toSwitch ++ [sent] })
  | (bench, link), .addTimedCallback _ =>
      some (bench, { link with controllerTimed := true })
  | (bench, link), .pushConn =>
      some ({ bench with conns := bench.conns ++ [index] }, link)
  | (bench, link), .dispatch .connUp =>
      some (ctrlConnEstablished index msg.ports.length bench link)
  | _, .dispatch .connDown => none
  | (bench, link), .dispatch .featuresReply =>
      link.listIndex.map (fun listIndex =>
        (processFeaturesReply msg time pastEnd listIndex bench, link))
  | (bench, link), .dispatch _ => some (bench, link)

/-- The switch starts anew when its connection goes down. -/
def performSwitch (link : Link) : Effect SwitchEventType → Option Link
  | .send sent => some { link with toController := link.toController ++ [sent] }
  | .addTimedCallback _ => some { link with switchTimed := true }
  | .pushConn => some link
  | .dispatch .connDown => none
  | .dispatch _ => some link

/-- The connection takes a step that may change the tenant as well. -/
def Bench.onLink (index : Nat) (change : Bench → Link → Option (Bench × Link))
    (bench : Bench) : Option Bench :=
  (bench.links[index]?).bind (fun link =>
    (change bench link).map (fun changed =>
      { changed.1 with links := changed.1.links.set index changed.2 }))

def controllerReceives (ofVersion : Int) (index : Nat) (time : ℚ)
    (pastEnd : PastEnd) (bench : Bench) (link : Link) :
    Option (Bench × Link) :=
  match link.toController with
  | [] => none
  | msg :: waiting =>
      let reaction := OFServer.react (startController ofVersion)
        link.controllerEnd (.message msg)
      reaction.2.foldlM (perform index msg time pastEnd)
        (bench,
          { link with
            controllerEnd := reaction.1
            toController := waiting })

def switchReceives (link : Link) : Option Link :=
  match link.toSwitch with
  | [] => none
  | msg :: waiting =>
      let reaction := OFClient.baseMessageCallback Switch.settings 4 [1, 2] msg
        link.switchEnd
      reaction.2.foldlM performSwitch
        { link with
          switchEnd := reaction.1
          toSwitch := waiting }

/-- The timers are set up when the handshake ends, each at its end of the
connection.  There is no result where the timer closes the connection. -/
def controllerTimer (ofVersion : Int) (link : Link) : Option Link :=
  if link.controllerTimed ∧ link.controllerEnd.alive then
    let reaction := OFServer.react (startController ofVersion)
      link.controllerEnd .timer
    some { link with
      controllerEnd := reaction.1
      toSwitch := link.toSwitch ++ sentMessages reaction.2 }
  else none

def switchTimer (link : Link) : Option Link :=
  if link.switchTimed ∧ link.switchEnd.alive then
    let reaction := OFClient.sendEcho link.switchEnd
    some { link with
      switchEnd := reaction.1
      toController := link.toController ++ sentMessages reaction.2 }
  else none

/-- The send loop sends the packet on a connection of the list. -/
def send (ofVersion : Int) (time : ℚ) (bench : Bench) (link : Link) :
    Option (Bench × Link) :=
  link.listIndex.bind (fun listIndex =>
    (SendLoop.nextXid listIndex (Counter.initial.run bench.events)).map
      (fun xid =>
        ({ bench with
            events := bench.events ++
              [.request listIndex { xid, time, bytes := 8, msgType := 5 }] },
          { link with
            toSwitch := link.toSwitch ++ sentMessages
              (link.controllerEnd.send (featuresRequest ofVersion xid) :
                List (Effect EventType)) })))

def step (ofVersion : Int) (bench : Bench) : Step → Option Bench
  | .connect =>
      some { bench with links := bench.links ++ [Link.start ofVersion] }
  | .toSwitch index =>
      bench.onLink index (fun bench link =>
        (switchReceives link).map (fun link => (bench, link)))
  | .toController index time pastEnd =>
      bench.onLink index (controllerReceives ofVersion index time pastEnd)
  | .switchTimer index =>
      bench.onLink index (fun bench link =>
        (switchTimer link).map (fun link => (bench, link)))
  | .controllerTimer index =>
      bench.onLink index (fun bench link =>
        (controllerTimer ofVersion link).map (fun link => (bench, link)))
  | .send position time =>
      (bench.conns[position]?).bind (fun index =>
        bench.onLink index (send ofVersion time))
  | .newInterval now =>
      some { bench with events := bench.events ++ [.newInterval now] }

def run (ofVersion : Int) (tenantId : Nat) (steps : List Step) :
    Option Bench :=
  PartialRun.run (step ofVersion) (start tenantId) steps

end FeaturesRequest

end Perfbench
