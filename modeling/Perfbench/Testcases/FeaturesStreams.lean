import Perfbench.Connection.Channel
import Perfbench.Testcases.FeaturesQueues

/-!
# FeaturesRequest over byte streams

The tenant of the FeaturesRequest testcase when its connections carry bytes.
What an end sends is written to a stream.  A round of `read_cb` at the other
end reads some of what has arrived, and a message that is complete then is
handed over at once.  Everything else is interleaved with the rounds in any
way, up to a liveness check that closes a connection.
-/

namespace Perfbench

namespace FeaturesRequest

open OFMessage (ofBytes wireFormat)

/-- The two directions of a connection, and the id of its switch, which only
the bytes of a FEATURES_REPLY show. -/
structure Wire where
  datapathId : Nat
  toController : Channel
  toSwitch : Channel

/-- The tenant, with what is on its way between the ends of its connections. -/
structure Streams where
  bench : Bench
  wires : List Wire

inductive StreamStep where
  | connect (datapathId : Nat)
  /-- a round of `read_cb`, when so many bytes have arrived -/
  | switchRound (link count : Nat)
  | controllerRound (link count : Nat) (time : ℚ) (pastEnd : PastEnd)
  | switchTimer (link : Nat)
  | controllerTimer (link : Nat)
  | send (position : Nat) (time : ℚ)
  | newInterval (now : ℚ)

/-- Nothing waits to be written or to be handed over. -/
def Link.idle (link : Link) : Link :=
  { link with
    toController := []
    toSwitch := [] }

def Bench.idle (bench : Bench) : Bench :=
  { bench with links := bench.links.map Link.idle }

def Wire.start (datapathId : Nat) : Wire :=
  { datapathId
    toController := .new
    toSwitch := .new }

/-- What the ends have sent goes to the streams. -/
def Wire.write (fluid : FluidMsg) (link : Link) (wire : Wire) : Wire :=
  let format := wireFormat fluid wire.datapathId
  { wire with
    toController := wire.toController.write (format.write link.toController)
    toSwitch := wire.toSwitch.write (format.write link.toSwitch) }

namespace Streams

def start (tenantId : Nat) : Streams :=
  { bench := FeaturesRequest.start tenantId
    wires := [] }

/-- A step of the tenant; then all that was sent in it is written. -/
def take (fluid : FluidMsg) (ofVersion : Int) (taken : Step)
    (streams : Streams) : Option Streams :=
  (FeaturesRequest.step ofVersion streams.bench taken).map (fun bench =>
    { bench := bench.idle
      wires := List.zipWith (Wire.write fluid) bench.links streams.wires })

/-- The message of the round, if there is one, reaches the end of the link,
which takes the step for it. -/
def handOver (fluid : FluidMsg) (ofVersion : Int) (index : Nat)
    (reading : Reading) (arrive : OFMessage → Link → Link) (taken : Step)
    (streams : Streams) : Option Streams :=
  match reading.message with
  | none => some streams
  | some data =>
      (streams.bench.links[index]?).bind (fun link =>
        take fluid ofVersion taken
          { streams with
            bench :=
              { streams.bench with
                links := streams.bench.links.set index
                  (arrive (ofBytes fluid data) link) } })

def step (fluid : FluidMsg) (ofVersion : Int) (streams : Streams) :
    StreamStep → Option Streams
  | .connect datapathId =>
      take fluid ofVersion .connect
        { streams with wires := streams.wires ++ [Wire.start datapathId] }
  | .switchRound index count =>
      (streams.wires[index]?).bind (fun wire =>
        (wire.toSwitch.round count).bind (fun round =>
          handOver fluid ofVersion index round.1
            (fun msg link => { link with toSwitch := [msg] }) (.toSwitch index)
            { streams with
              wires := streams.wires.set index
                { wire with toSwitch := round.2 } }))
  | .controllerRound index count time pastEnd =>
      (streams.wires[index]?).bind (fun wire =>
        (wire.toController.round count).bind (fun round =>
          handOver fluid ofVersion index round.1
            (fun msg link => { link with toController := [msg] })
            (.toController index time pastEnd)
            { streams with
              wires := streams.wires.set index
                { wire with toController := round.2 } }))
  | .switchTimer index => streams.take fluid ofVersion (.switchTimer index)
  | .controllerTimer index =>
      streams.take fluid ofVersion (.controllerTimer index)
  | .send position time => streams.take fluid ofVersion (.send position time)
  | .newInterval now => streams.take fluid ofVersion (.newInterval now)

def run (fluid : FluidMsg) (ofVersion : Int) (tenantId : Nat)
    (steps : List StreamStep) : Option Streams :=
  PartialRun.run (step fluid ofVersion) (start tenantId) steps

end Streams

/-- The bytes of a connection are those of the messages that wait. -/
structure Wire.Carries (fluid : FluidMsg) (toController toSwitch :
    List OFMessage) (wire : Wire) : Prop where
  toController : wire.toController.Carries fluid wire.datapathId toController
  toSwitch : wire.toSwitch.Carries fluid wire.datapathId toSwitch

/-- The tenant is that of a run over messages, whose queues are in the
streams. -/
structure Streams.Matches (fluid : FluidMsg) (streams : Streams)
    (full : Bench) : Prop where
  bench : streams.bench = full.idle
  wires : List.Forall₂
    (fun wire (link : Link) =>
      wire.Carries fluid link.toController link.toSwitch)
    streams.wires full.links
  clean : ∀ link ∈ full.links, link.Clean

section Lists

variable {α β : Type*} {relation : α → β → Prop} {first : List α}
  {second : List β}

theorem forall₂_set (all : List.Forall₂ relation first second) (index : Nat)
    {item : α} {value : β} (related : relation item value) :
    List.Forall₂ relation (first.set index item) (second.set index value) := by
  induction all generalizing index with
  | nil => exact .nil
  | cons here later induction =>
      cases index with
      | zero => exact .cons related later
      | succ index => exact .cons here (induction index)

theorem forall₂_getElem? (all : List.Forall₂ relation first second)
    {index : Nat} {item : α} (present : first[index]? = some item) :
    ∃ value, second[index]? = some value ∧ relation item value := by
  induction all generalizing index with
  | nil => simp at present
  | cons here later induction =>
      cases index with
      | zero =>
          cases present
          exact ⟨_, rfl, here⟩
      | succ index => exact induction present

end Lists

theorem Wire.Carries.write {fluid : FluidMsg} {messages : Around} {wire : Wire}
    {link : Link} (clean : link.Clean)
    (carries : wire.Carries fluid
      (messages.beforeController ++ messages.behindController)
      (messages.beforeSwitch ++ messages.behindSwitch))
    (toController : messages.behindController = [] ∨ link.toController = [])
    (toSwitch : messages.behindSwitch = [] ∨ link.toSwitch = []) :
    (wire.write fluid link).Carries fluid (link.around messages).toController
      (link.around messages).toSwitch := by
  have forController := carries.toController.write clean.toController
  have forSwitch := carries.toSwitch.write clean.toSwitch
  refine ⟨?_, ?_⟩
  · rcases toController with last | silent
    · rw [last, List.append_nil] at forController
      rw [Link.around, last, List.append_nil]
      exact forController
    · rw [silent, List.append_nil] at forController
      rw [Link.around, silent, List.append_nil]
      rw [Wire.write, silent]
      exact forController
  · rcases toSwitch with last | silent
    · rw [last, List.append_nil] at forSwitch
      rw [Link.around, last, List.append_nil]
      exact forSwitch
    · rw [silent, List.append_nil] at forSwitch
      rw [Link.around, silent, List.append_nil]
      rw [Wire.write, silent]
      exact forSwitch

/-- Messages that were left out of a step wait in the streams, and those sent
in it go behind them. -/
structure Waiting (fluid : FluidMsg) (wires : List Wire)
    (messages : List Around) (links : List Link) : Prop where
  wires : List.Forall₂
    (fun wire (around : Around) => wire.Carries fluid
      (around.beforeController ++ around.behindController)
      (around.beforeSwitch ++ around.behindSwitch))
    wires messages
  toController : (∀ around ∈ messages, around.behindController = []) ∨
    ∀ link ∈ links, link.toController = []
  toSwitch : (∀ around ∈ messages, around.behindSwitch = []) ∨
    ∀ link ∈ links, link.toSwitch = []

/-- By induction on the connections. -/
theorem Waiting.written {fluid : FluidMsg} {wires : List Wire}
    {messages : List Around} {links : List Link}
    (waiting : Waiting fluid wires messages links)
    (lengths : messages.length = links.length)
    (clean : ∀ link ∈ links, link.Clean) :
    List.Forall₂
      (fun wire (link : Link) =>
        wire.Carries fluid link.toController link.toSwitch)
      (List.zipWith (Wire.write fluid) links wires)
      (List.zipWith Link.around messages links) := by
  obtain ⟨all, toController, toSwitch⟩ := waiting
  induction all generalizing links with
  | nil =>
      cases links with
      | nil => exact .nil
      | cons link links => cases lengths
  | cons here later induction =>
      cases links with
      | nil => cases lengths
      | cons link links =>
          obtain ⟨cleanHere, cleanLater⟩ := List.forall_mem_cons.mp clean
          simp only [List.forall_mem_cons] at toController toSwitch
          refine .cons ?_ (induction (Nat.succ.inj lengths) cleanLater
            (toController.imp And.right And.right)
            (toSwitch.imp And.right And.right))
          exact Wire.Carries.write cleanHere here
            (toController.imp And.left And.left)
            (toSwitch.imp And.left And.left)

theorem idle_around {messages : List Around} {bench : Bench}
    (lengths : messages.length = bench.links.length) :
    (bench.around messages).idle = bench.idle := by
  have links : (List.zipWith Link.around messages bench.links).map Link.idle =
      bench.links.map Link.idle := by
    apply List.ext_getElem
    · simp [lengths]
    · intro position inside other
      simp [Link.around, Link.idle]
  rw [Bench.idle, Bench.idle, Bench.around, links]

section Steps

variable {fluid : FluidMsg} {ofVersion : Int} {wires : List Wire}
  {messages : List Around} {bench after full : Bench}

/-- A step without the messages that wait matches the same step with them. -/
theorem take_matches {taken : Step} (clean : ∀ link ∈ bench.links, link.Clean)
    (lengths : messages.length = bench.links.length)
    (fits : FeaturesRequest.Fits messages taken)
    (result : step ofVersion bench taken = some after)
    (whole : bench.around messages = full)
    (fullClean : ∀ link ∈ full.links, link.Clean)
    (waiting : Waiting fluid wires messages after.links) :
    ∃ fullAfter, step ofVersion full taken = some fullAfter ∧
      Streams.Matches fluid
        { bench := after.idle
          wires := List.zipWith (Wire.write fluid) after.links wires }
        fullAfter := by
  have old : taken ≠ .connect := by
    rintro rfl
    exact fits
  have sameLength := lengths.trans (step_links_length old result).symm
  have fullResult := step_around lengths fits result
  rw [whole] at fullResult
  refine ⟨after.around messages, fullResult, ?_, ?_, ?_⟩
  · exact (idle_around sameLength).symm
  · exact waiting.written sameLength (step_clean clean result)
  · exact step_clean fullClean fullResult

end Steps

end FeaturesRequest

end Perfbench
