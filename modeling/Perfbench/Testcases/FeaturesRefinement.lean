import Perfbench.Testcases.FeaturesArrivals
import Perfbench.Testcases.FeaturesLog

/-!
# Runs over byte streams

A run over byte streams is a run over messages in which the same steps of the
ends are taken at the same places, whatever the bytes that each round finds.
-/

namespace Perfbench

namespace FeaturesRequest

/-- The step over messages; a round may deliver one. -/
def StreamStep.overMessages : StreamStep → Step
  | .connect _ => .connect
  | .switchRound index _ => .toSwitch index
  | .controllerRound index _ time pastEnd => .toController index time pastEnd
  | .switchTimer index => .switchTimer index
  | .controllerTimer index => .controllerTimer index
  | .send position time => .send position time
  | .newInterval now => .newInterval now

/-- The ends take the step on their own. -/
def Step.own : Step → Bool
  | .toSwitch _ => false
  | .toController _ _ _ => false
  | _ => true

/-- Only rounds are left out of the steps over streams. -/
structure Condenses (taken : List Step) (steps : List StreamStep) : Prop where
  sublist : List.Sublist taken (steps.map StreamStep.overMessages)
  own : taken.filter Step.own =
    (steps.map StreamStep.overMessages).filter Step.own

theorem condenses_nil : Condenses [] [] := ⟨.refl _, rfl⟩

theorem Condenses.snoc {taken : List Step} {steps : List StreamStep}
    (condenses : Condenses taken steps) (next : StreamStep) :
    Condenses (taken ++ [next.overMessages]) (steps ++ [next]) := by
  refine ⟨?_, ?_⟩
  · rw [List.map_append]
    exact condenses.sublist.append (.refl _)
  · rw [List.map_append, List.filter_append, List.filter_append,
      condenses.own]
    rfl

theorem Condenses.skip {taken : List Step} {steps : List StreamStep}
    (condenses : Condenses taken steps) {next : StreamStep}
    (round : next.overMessages.own = false) :
    Condenses taken (steps ++ [next]) := by
  refine ⟨?_, ?_⟩
  · rw [List.map_append]
    exact condenses.sublist.trans (List.sublist_append_left _ _)
  · rw [List.map_append, List.filter_append, condenses.own]
    simp [round]

namespace Streams

variable {fluid : FluidMsg} {ofVersion : Int}

/-- A step over streams is one over messages, or a round that hands over
nothing. -/
theorem Matches.step {streams after : Streams} {full : Bench}
    {taken : StreamStep} (matched : streams.Matches fluid full)
    (result : streams.step fluid ofVersion taken = some after) :
    taken.overMessages.own = false ∧ after.Matches fluid full ∨
      ∃ fullAfter,
        FeaturesRequest.step ofVersion full taken.overMessages =
            some fullAfter ∧
          after.Matches fluid fullAfter := by
  cases taken with
  | connect datapathId => exact .inr (matched.connect datapathId result)
  | switchRound index count =>
      rcases matched.switchRound result with same | delivered
      · exact .inl ⟨rfl, same⟩
      · exact .inr delivered
  | controllerRound index count time pastEnd =>
      rcases matched.controllerRound result with same | delivered
      · exact .inl ⟨rfl, same⟩
      · exact .inr delivered
  | switchTimer index => exact .inr (matched.own nofun id result)
  | controllerTimer index => exact .inr (matched.own nofun id result)
  | send position time => exact .inr (matched.own nofun id result)
  | newInterval now => exact .inr (matched.own nofun id result)

/-- By induction on the steps; the run over messages grows with them. -/
theorem run_matches {tenantId : Nat} {steps : List StreamStep}
    {final : Streams} (result : run fluid ofVersion tenantId steps =
      some final) :
    ∃ taken full, FeaturesRequest.run ofVersion tenantId taken = some full ∧
      Condenses taken steps ∧ final.Matches fluid full := by
  apply @PartialRun.invariant _ _ (step fluid ofVersion) (start tenantId)
    (fun _ _ => True)
    (fun past streams => ∃ taken full,
      FeaturesRequest.run ofVersion tenantId taken = some full ∧
        Condenses taken past ∧ streams.Matches fluid full) steps final
    (History.admissible_of_forall (fun _ _ _ => trivial)) result
  · exact ⟨[], _, rfl, condenses_nil, matches_start tenantId⟩
  · intro past next streams after _ _ holds stepped
    obtain ⟨taken, full, fullResult, condenses, matched⟩ := holds
    rcases matched.step stepped with ⟨round, same⟩ |
      ⟨fullAfter, delivered, later⟩
    · exact ⟨taken, full, fullResult, condenses.skip round, same⟩
    · refine ⟨taken ++ [next.overMessages], fullAfter, ?_,
        condenses.snoc next, later⟩
      rw [FeaturesRequest.run] at fullResult ⊢
      rw [PartialRun.run_snoc, fullResult]
      exact delivered

/-- A run over byte streams, however the bytes arrive, is a run over messages
that ends with the same tenant and the same ends of the connections; it leaves
out nothing but rounds, and the streams with the buffers hold exactly the bytes
of the messages in the queues. -/
theorem streams_refine {tenantId : Nat} {steps : List StreamStep}
    {final : Streams}
    (result : run fluid ofVersion tenantId steps = some final) :
    ∃ taken full, FeaturesRequest.run ofVersion tenantId taken = some full ∧
      Condenses taken steps ∧ final.bench = full.idle ∧
        List.Forall₂
          (fun wire (link : Link) =>
            wire.Carries fluid link.toController link.toSwitch)
          final.wires full.links := by
  obtain ⟨taken, full, fullResult, condenses, matched⟩ := run_matches result
  exact ⟨taken, full, fullResult, condenses, matched.bench, matched.wires⟩

/-- Whatever arrives in a run, a round at either end stays inside its
arrays. -/
theorem streams_safe {tenantId : Nat} {steps : List StreamStep}
    {final : Streams}
    (result : run fluid ofVersion tenantId steps = some final) {wire : Wire}
    (member : wire ∈ final.wires) {count : Nat} {reading : Reading}
    {after : Channel}
    (round : wire.toController.round count = some (reading, after) ∨
      wire.toSwitch.round count = some (reading, after)) :
    reading.Safe := by
  obtain ⟨taken, full, -, -, matched⟩ := run_matches result
  obtain ⟨index, present⟩ := List.getElem?_of_mem member
  obtain ⟨link, -, carries⟩ := forall₂_getElem? matched.wires present
  rcases round with atController | atSwitch
  · exact (carries.toController.round atController).1
  · exact (carries.toSwitch.round atSwitch).1

/-- Once everything on its way has been read, and no connection was closed, all
requests of the connection are answered, each once and in order, and no end
holds a part of a message. -/
theorem streams_settled {tenantId : Nat} {steps : List StreamStep}
    {final : Streams}
    (result : run fluid ofVersion tenantId steps = some final)
    {index connIndex : Nat} {link : Link} {wire : Wire}
    (present : final.bench.links[index]? = some link)
    (established : link.listIndex = some connIndex)
    (wirePresent : final.wires[index]? = some wire)
    (readByController : wire.toController.stream = [])
    (readBySwitch : wire.toSwitch.stream = []) :
    issued (onConn connIndex final.bench.events) =
        answered (onConn connIndex final.bench.events) ∧
      wire.toController = .new ∧ wire.toSwitch = .new := by
  obtain ⟨taken, full, fullResult, -, matched⟩ := run_matches result
  obtain ⟨waits, waitsPresent, carries⟩ :=
    forall₂_getElem? matched.wires wirePresent
  obtain ⟨noReply, controllerClear⟩ :=
    carries.toController.settled readByController
  obtain ⟨noRequest, switchClear⟩ := carries.toSwitch.settled readBySwitch
  rw [matched.idle_links, List.getElem?_map, waitsPresent, Option.map_some,
    Option.some.injEq] at present
  subst present
  have sound := (run_consistent fullResult).sound index waits waitsPresent
  have conserved := (sound.running connIndex established).conserved
  rw [Link.replied, Link.asked, noReply, noRequest] at conserved
  refine ⟨?_, controllerClear, switchClear⟩
  rw [matched.bench]
  exact conserved.trans (by simp [ofTypeXids, Bench.idle])

end Streams

/-- `of10::Port`, named `swport-1` or `swport-2`. -/
def portBytes (port : Nat) : List UInt8 :=
  networkOrder 2 port ++ networkOrder 6 port ++
    [115, 119, 112, 111, 114, 116, 45, UInt8.ofNat (48 + port)] ++
    List.replicate 8 0 ++ networkOrder 4 0 ++ networkOrder 4 1 ++
    networkOrder 4 12 ++ List.replicate 12 0

/-- `of10::FeaturesReply`: a buffer, a table, the capabilities and actions, and
the two ports. -/
def featuresBody (datapathId : Nat) : List UInt8 :=
  networkOrder 8 datapathId ++ networkOrder 4 1 ++ [1, 0, 0, 0] ++
    networkOrder 4 199 ++ networkOrder 4 4095 ++ portBytes 1 ++ portBytes 2

/-- The number at the beginning of each port. -/
def portNumbers (data : List UInt8) : List Nat :=
  (List.range ((data.length - 32) / 48)).map (fun port =>
    OFMessage.field data (32 + 48 * port) 2)

theorem featuresBody_length (datapathId : Nat) :
    (featuresBody datapathId).length = 120 := by
  simp [featuresBody, portBytes, networkOrder_length]

theorem portNumbers_featuresBody (header : List UInt8) (datapathId : Nat)
    (length : header.length = 8) :
    portNumbers (header ++ featuresBody datapathId) = [1, 2] := by
  match header, length with
  | [_, _, _, _, _, _, _, _], _ =>
      simp [portNumbers, featuresBody, portBytes, OFMessage.field,
        networkOrder, ofNetworkOrder, List.range_succ]

def sampleFluid : FluidMsg where
  featuresBody := featuresBody
  ports := portNumbers
  featuresBody_length := featuresBody_length
  ports_featuresBody := portNumbers_featuresBody

/-- The greeting of the switch and its replies arrive in parts. -/
def sampleStreamSteps : List StreamStep :=
  [.connect 257, .switchRound 0 100, .controllerRound 0 3 0 zeroPastEnd,
    .controllerRound 0 100 0 zeroPastEnd, .switchRound 0 100,
    .controllerRound 0 100 0 zeroPastEnd,
    .controllerRound 0 100 0 zeroPastEnd,
    .controllerRound 0 100 0 zeroPastEnd, .send 0 1, .switchRound 0 8,
    .controllerRound 0 8 2 zeroPastEnd, .controllerRound 0 200 3 zeroPastEnd]

namespace Streams

theorem sampleStreamSteps_isSome :
    (run sampleFluid 13 1 sampleStreamSteps).isSome = true := by
  decide +kernel

def sampleFinal : Streams :=
  (run sampleFluid 13 1 sampleStreamSteps).get sampleStreamSteps_isSome

theorem sampleStreamSteps_run :
    run sampleFluid 13 1 sampleStreamSteps = some sampleFinal :=
  (Option.some_get sampleStreamSteps_isSome).symm

theorem streams_refine_sample :
    ∃ taken full, FeaturesRequest.run 13 1 taken = some full ∧
      Condenses taken sampleStreamSteps ∧ sampleFinal.bench = full.idle ∧
        List.Forall₂
          (fun wire (link : Link) =>
            wire.Carries sampleFluid link.toController link.toSwitch)
          sampleFinal.wires full.links :=
  streams_refine sampleStreamSteps_run

/-- Three bytes of a greeting. -/
theorem streams_safe_sample :
    ∃ reading after,
      (Channel.new.write [4, 0, 0, 8, 15, 0, 0, 0]).round 3 =
          some (reading, after) ∧
        reading.Safe := by
  refine ⟨_, _, rfl, ?_⟩
  exact @streams_safe sampleFluid 13 1 [.connect 257] _ rfl _ (.head _) 3 _ _
    (.inl rfl)

theorem sampleFinal_link : sampleFinal.bench.links[0]?.isSome = true := by
  decide +kernel

theorem sampleFinal_wire : sampleFinal.wires[0]?.isSome = true := by
  decide +kernel

theorem streams_settled_sample :
    issued (onConn 0 sampleFinal.bench.events) =
      answered (onConn 0 sampleFinal.bench.events) :=
  (streams_settled sampleStreamSteps_run
    (Option.some_get sampleFinal_link).symm (by decide +kernel)
    (Option.some_get sampleFinal_wire).symm (by decide +kernel)
    (by decide +kernel)).1

end Streams

end FeaturesRequest

end Perfbench
