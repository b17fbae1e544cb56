import Perfbench.Testcases.FeaturesDelivery
import Perfbench.Testcases.FeaturesStreams

/-!
# The streams refine the messages

Each step of the tenant over byte streams is a step over messages, or the
arrival of a part of a message, which nothing else sees.  So whatever holds of
every run over messages holds however the bytes arrive.
-/

namespace Perfbench

namespace FeaturesRequest

open OFMessage (OnWire)

namespace Link

variable (link : Link)

/-- The ends act on their own, and all messages wait. -/
def waiting : Around where
  beforeController := link.toController
  behindController := []
  beforeSwitch := link.toSwitch
  behindSwitch := []

/-- The controller takes a message from before the others. -/
def forController : Around where
  beforeController := []
  behindController := link.toController
  beforeSwitch := link.toSwitch
  behindSwitch := []

/-- The switch takes a message from before the others. -/
def forSwitch : Around where
  beforeController := link.toController
  behindController := []
  beforeSwitch := []
  behindSwitch := link.toSwitch

theorem idle_waiting : link.idle.around link.waiting = link := by
  simp [idle, around, waiting]

theorem idle_forController : link.idle.around link.forController = link := by
  simp [idle, around, forController]

theorem idle_forSwitch : link.idle.around link.forSwitch = link := by
  simp [idle, around, forSwitch]

variable {link}

theorem Clean.idle (clean : link.Clean) : link.idle.Clean :=
  ⟨clean.controllerVersion, clean.switchVersion, by simp [Link.idle],
    by simp [Link.idle]⟩

end Link

section Queues

variable {ofVersion : Int} {bench after : Bench} {index : Nat}
  {arrived : Link} {msg : OFMessage}

theorem toSwitch_drained (queue : arrived.toSwitch = [msg])
    (idle : ∀ link ∈ bench.links, link.toSwitch = [])
    (result : step ofVersion
      { bench with links := bench.links.set index arrived } (.toSwitch index) =
        some after) : ∀ link ∈ after.links, link.toSwitch = [] := by
  obtain ⟨link, changed, present, receives, links⟩ := onEnds_cases result
  obtain rfl : arrived = link := by
    obtain ⟨inside, value⟩ := List.getElem?_eq_some_iff.mp present
    rw [List.getElem_set_self] at value
    exact value
  obtain ⟨first, others, queued, sends⟩ := switchReceives_sends receives
  have drained : changed.toSwitch = [] := by
    rw [sends.toSwitch, List.append_nil]
    rw [queue] at queued
    exact (List.cons.inj queued).2.symm
  rw [links, List.set_set]
  intro other member
  rcases List.mem_or_eq_of_mem_set member with old | rfl
  · exact idle other old
  · exact drained

theorem toController_drained {time : ℚ} {pastEnd : PastEnd}
    (queue : arrived.toController = [msg])
    (idle : ∀ link ∈ bench.links, link.toController = [])
    (result : step ofVersion
      { bench with links := bench.links.set index arrived }
      (.toController index time pastEnd) = some after) :
    ∀ link ∈ after.links, link.toController = [] := by
  obtain ⟨link, changed, present, receives, links⟩ := onLink_cases
    (fun link changed changes => controllerReceives_links changes) result
  obtain rfl : arrived = link := by
    obtain ⟨inside, value⟩ := List.getElem?_eq_some_iff.mp present
    rw [List.getElem_set_self] at value
    exact value
  obtain ⟨first, others, queued, sends⟩ := controllerReceives_sends receives
  have drained : changed.2.toController = [] := by
    rw [sends.toController, List.append_nil]
    rw [queue] at queued
    exact (List.cons.inj queued).2.symm
  rw [links, List.set_set]
  intro other member
  rcases List.mem_or_eq_of_mem_set member with old | rfl
  · exact idle other old
  · exact drained

end Queues

namespace Streams

variable {fluid : FluidMsg} {ofVersion : Int} {streams after : Streams}
  {full : Bench}

theorem matches_start (tenantId : Nat) :
    (start tenantId).Matches fluid (FeaturesRequest.start tenantId) :=
  ⟨rfl, .nil, by simp [FeaturesRequest.start]⟩

theorem Matches.idle_links (matched : streams.Matches fluid full) :
    streams.bench.links = full.links.map Link.idle := by
  rw [matched.bench]
  rfl

theorem Matches.idle_clean (matched : streams.Matches fluid full) :
    ∀ link ∈ streams.bench.links, link.Clean := by
  rw [matched.idle_links]
  intro link member
  obtain ⟨waits, present, rfl⟩ := List.mem_map.mp member
  exact (matched.clean waits present).idle

theorem Matches.own {taken : Step} (matched : streams.Matches fluid full)
    (old : taken ≠ .connect) (own : ¬taken.Delivers)
    (result : streams.take fluid ofVersion taken = some after) :
    ∃ fullAfter, FeaturesRequest.step ofVersion full taken = some fullAfter ∧
      after.Matches fluid fullAfter := by
  obtain ⟨bench, stepped, rfl⟩ := Option.map_eq_some_iff.mp result
  have lengths : (full.links.map Link.waiting).length =
      streams.bench.links.length := by
    rw [matched.idle_links, List.length_map, List.length_map]
  have last : ∀ around ∈ full.links.map Link.waiting,
      around.behindController = [] ∧ around.behindSwitch = [] := by
    intro around member
    obtain ⟨link, -, rfl⟩ := List.mem_map.mp member
    exact ⟨rfl, rfl⟩
  apply take_matches matched.idle_clean lengths _ stepped _ matched.clean
  · refine ⟨?_, .inl fun around member => (last around member).1,
      .inl fun around member => (last around member).2⟩
    rw [List.forall₂_map_right_iff]
    refine matched.wires.imp ?_
    intro wire link carries
    simp only [Link.waiting, List.append_nil]
    exact carries
  · cases taken with
    | connect => exact old rfl
    | toSwitch index => exact absurd trivial own
    | toController index time pastEnd => exact absurd trivial own
    | switchTimer index =>
        intro around present
        exact (last around (List.mem_of_getElem? present)).1
    | controllerTimer index =>
        intro around present
        exact (last around (List.mem_of_getElem? present)).2
    | send position time =>
        intro around member
        exact (last around member).2
    | newInterval now => trivial
  · rw [matched.bench, Bench.around, Bench.idle]
    simp only
    rw [List.zipWith_map, List.zipWith_self]
    simp [Link.idle_waiting]

theorem Matches.connect (matched : streams.Matches fluid full)
    (datapathId : Nat)
    (result : streams.step fluid ofVersion (.connect datapathId) =
      some after) :
    ∃ fullAfter,
      FeaturesRequest.step ofVersion full .connect = some fullAfter ∧
        after.Matches fluid fullAfter := by
  cases result
  refine ⟨_, rfl, ?_, ?_, ?_⟩
  · rw [matched.bench]
    simp [Bench.idle, Link.idle]
  · have waiting : Waiting fluid (streams.wires ++ [Wire.start datapathId])
        (full.links.map Link.waiting ++ [Around.nothing])
        (streams.bench.links ++ [Link.start ofVersion]) := by
      have last : ∀ around ∈ full.links.map Link.waiting ++ [Around.nothing],
          around.behindController = [] ∧ around.behindSwitch = [] := by
        intro around member
        rcases List.mem_append.mp member with old | new
        · obtain ⟨link, -, rfl⟩ := List.mem_map.mp old
          exact ⟨rfl, rfl⟩
        · rw [List.mem_singleton.mp new]
          exact ⟨rfl, rfl⟩
      refine ⟨?_, .inl fun around member => (last around member).1,
        .inl fun around member => (last around member).2⟩
      apply List.rel_append
      · rw [List.forall₂_map_right_iff]
        refine matched.wires.imp ?_
        intro wire link carries
        simp only [Link.waiting, List.append_nil]
        exact carries
      · exact .cons ⟨Channel.carries_new, Channel.carries_new⟩ .nil
    have written := waiting.written
      (by simp [matched.idle_links])
      (by
        intro link member
        rcases List.mem_append.mp member with old | new
        · exact matched.idle_clean link old
        · rw [List.mem_singleton.mp new]
          exact Link.start_clean ofVersion)
    have links : List.zipWith Link.around
        (full.links.map Link.waiting ++ [Around.nothing])
        (streams.bench.links ++ [Link.start ofVersion]) =
          full.links ++ [Link.start ofVersion] := by
      rw [matched.idle_links, List.zipWith_append (by simp),
        List.zipWith_map, List.zipWith_self]
      simp [Link.idle_waiting, Link.around_nothing]
    rw [links] at written
    exact written
  · exact @step_clean ofVersion full _ .connect matched.clean rfl

/-- A message that arrives is the first one of the queue: `popped` is the link
without it, and `arrived` the idle link with it alone. -/
theorem Matches.handed {taken : Step} {index : Nat} {wires : List Wire}
    {link popped arrived : Link} {ahead : Link → Around}
    (matched : streams.Matches fluid full)
    (present : full.links[index]? = some link)
    (restores : ∀ other : Link, other.idle.around (ahead other) = other)
    (next : arrived.around (ahead popped) = link)
    (arrivedClean : arrived.Clean)
    (waiting : ∀ bench, FeaturesRequest.step ofVersion
      { streams.bench with links := streams.bench.links.set index arrived }
      taken = some bench →
        Waiting fluid wires ((full.links.set index popped).map ahead)
          bench.links)
    (fits : FeaturesRequest.Fits ((full.links.set index popped).map ahead)
      taken)
    (result : take fluid ofVersion taken
      { bench :=
          { streams.bench with
            links := streams.bench.links.set index arrived }
        wires } = some after) :
    ∃ fullAfter, FeaturesRequest.step ofVersion full taken = some fullAfter ∧
      after.Matches fluid fullAfter := by
  obtain ⟨bench, stepped, rfl⟩ := Option.map_eq_some_iff.mp result
  apply take_matches _ _ fits stepped _ matched.clean (waiting bench stepped)
  · intro other member
    rcases List.mem_or_eq_of_mem_set member with old | rfl
    · exact matched.idle_clean other old
    · exact arrivedClean
  · simp [matched.idle_links]
  · have links : List.zipWith Link.around
        ((full.links.set index popped).map ahead)
        ((full.links.map Link.idle).set index arrived) = full.links := by
      apply List.ext_getElem?
      intro position
      rw [List.getElem?_zipWith, List.getElem?_map, List.getElem?_set,
        List.getElem?_set, List.length_map, List.getElem?_map]
      have inside := (List.getElem?_eq_some_iff.mp present).1
      by_cases same : index = position
      · subst same
        rw [if_pos rfl, if_pos inside, if_pos rfl, if_pos inside, present]
        exact congrArg some next
      · rw [if_neg same, if_neg same]
        cases full.links[position]? with
        | none => rfl
        | some other => exact congrArg some (restores other)
    rw [matched.bench, Bench.around, Bench.idle]
    simp only [links]

theorem Matches.set_same (matched : streams.Matches fluid full) {index : Nat}
    {link : Link} {wire : Wire} (present : full.links[index]? = some link)
    (carries : wire.Carries fluid link.toController link.toSwitch) :
    Matches fluid { streams with wires := streams.wires.set index wire }
      full := by
  have wires := forall₂_set matched.wires index carries
  obtain ⟨inside, rfl⟩ := List.getElem?_eq_some_iff.mp present
  rw [List.set_getElem_self inside] at wires
  exact ⟨matched.bench, wires, matched.clean⟩

/-- A round at a switch hands over nothing, or the message that is delivered
next. -/
theorem Matches.switchRound {index count : Nat}
    (matched : streams.Matches fluid full)
    (result : streams.step fluid ofVersion (.switchRound index count) =
      some after) :
    after.Matches fluid full ∨
      ∃ fullAfter,
        FeaturesRequest.step ofVersion full (.toSwitch index) =
            some fullAfter ∧
          after.Matches fluid fullAfter := by
  obtain ⟨wire, wirePresent, rest⟩ := Option.bind_eq_some_iff.mp result
  obtain ⟨⟨reading, channel⟩, round, handed⟩ :=
    Option.bind_eq_some_iff.mp rest
  obtain ⟨link, present, carries⟩ :=
    forall₂_getElem? matched.wires wirePresent
  obtain ⟨-, ⟨silent, kept⟩ | ⟨msg, waiting, queue, message, later⟩⟩ :=
    carries.toSwitch.round round
  · rw [handOver, silent] at handed
    cases handed
    exact .inl (matched.set_same present ⟨carries.toController, kept⟩)
  · have clean := matched.clean link (List.mem_of_getElem? present)
    have onWire : OnWire msg := clean.toSwitch msg (queue ▸ .head _)
    have idle : streams.bench.links[index]? = some link.idle := by
      rw [matched.idle_links, List.getElem?_map, present, Option.map_some]
    rw [handOver, message] at handed
    simp only [idle, Option.bind_some, onWire.ofBytes_toBytes] at handed
    have wires := @forall₂_set _ _ _ _ _ matched.wires index
      { wire with toSwitch := channel } { link with toSwitch := waiting }
      ⟨carries.toController, later⟩
    right
    apply matched.handed present Link.idle_forSwitch _ _ _ _ handed
    · exact { link with toSwitch := waiting }
    · simp [Link.around, Link.forSwitch, Link.idle, ← queue]
    · refine ⟨clean.controllerVersion, clean.switchVersion, by simp [Link.idle],
        ?_⟩
      intro sent member
      rw [List.mem_singleton.mp member]
      exact onWire
    · intro bench stepped
      refine ⟨?_, .inl ?_, .inr ?_⟩
      · rw [List.forall₂_map_right_iff]
        refine wires.imp ?_
        intro other waits holds
        simp only [Link.forSwitch, List.append_nil, List.nil_append]
        exact holds
      · intro around member
        obtain ⟨other, -, rfl⟩ := List.mem_map.mp member
        rfl
      · apply toSwitch_drained rfl _ stepped
        rw [matched.idle_links]
        intro other member
        obtain ⟨waits, -, rfl⟩ := List.mem_map.mp member
        rfl
    · intro around found
      obtain ⟨other, -, rfl⟩ :=
        List.mem_map.mp (List.mem_of_getElem? found)
      exact ⟨rfl, rfl⟩

theorem Matches.controllerRound {index count : Nat} {time : ℚ}
    {pastEnd : PastEnd} (matched : streams.Matches fluid full)
    (result : streams.step fluid ofVersion
      (.controllerRound index count time pastEnd) = some after) :
    after.Matches fluid full ∨
      ∃ fullAfter,
        FeaturesRequest.step ofVersion full
            (.toController index time pastEnd) = some fullAfter ∧
          after.Matches fluid fullAfter := by
  obtain ⟨wire, wirePresent, rest⟩ := Option.bind_eq_some_iff.mp result
  obtain ⟨⟨reading, channel⟩, round, handed⟩ :=
    Option.bind_eq_some_iff.mp rest
  obtain ⟨link, present, carries⟩ :=
    forall₂_getElem? matched.wires wirePresent
  obtain ⟨-, ⟨silent, kept⟩ | ⟨msg, waiting, queue, message, later⟩⟩ :=
    carries.toController.round round
  · rw [handOver, silent] at handed
    cases handed
    exact .inl (matched.set_same present ⟨kept, carries.toSwitch⟩)
  · have clean := matched.clean link (List.mem_of_getElem? present)
    have onWire : OnWire msg := clean.toController msg (queue ▸ .head _)
    have idle : streams.bench.links[index]? = some link.idle := by
      rw [matched.idle_links, List.getElem?_map, present, Option.map_some]
    rw [handOver, message] at handed
    simp only [idle, Option.bind_some, onWire.ofBytes_toBytes] at handed
    have wires := @forall₂_set _ _ _ _ _ matched.wires index
      { wire with toController := channel }
      { link with toController := waiting } ⟨later, carries.toSwitch⟩
    right
    apply matched.handed present Link.idle_forController _ _ _ _ handed
    · exact { link with toController := waiting }
    · simp [Link.around, Link.forController, Link.idle, ← queue]
    · refine ⟨clean.controllerVersion, clean.switchVersion, ?_,
        by simp [Link.idle]⟩
      intro sent member
      rw [List.mem_singleton.mp member]
      exact onWire
    · intro bench stepped
      refine ⟨?_, .inr ?_, .inl ?_⟩
      · rw [List.forall₂_map_right_iff]
        refine wires.imp ?_
        intro other waits holds
        simp only [Link.forController, List.append_nil, List.nil_append]
        exact holds
      · apply toController_drained rfl _ stepped
        rw [matched.idle_links]
        intro other member
        obtain ⟨waits, -, rfl⟩ := List.mem_map.mp member
        rfl
      · intro around member
        obtain ⟨other, -, rfl⟩ := List.mem_map.mp member
        rfl
    · intro around found
      obtain ⟨other, -, rfl⟩ :=
        List.mem_map.mp (List.mem_of_getElem? found)
      exact ⟨rfl, rfl⟩

end Streams

end FeaturesRequest

end Perfbench
