import Perfbench.Testcases.FeaturesReplies

/-!
# Runs of FeaturesRequest against the emulated switch

Every connection keeps its own part of the counter: the list indices of the
connections differ, and a step of one connection leaves the events of the
others as they are.
-/

namespace Perfbench

namespace FeaturesRequest

/-- What is counted of the test packet. -/
def packet : FlowMod :=
  { version := 0
    xid := 0
    priority := 0
    nwSrc := 0
    metadata := 0
    length := 8
    msgType := 5 }

/-- The events of a tenant: requests from the send loop and responses to
them. -/
structure Measured (events : List Event) : Prop where
  connected : History.Admissible OnEstablished events
  byLoop : History.Admissible (SentByLoop packet) events
  answers : History.Admissible AnswersSent events

structure Consistent (tenantId : Nat) (bench : Bench) : Prop where
  registered : ∃ ports,
    Controller.Registered .featuresRequest tenantId ports bench.controller
  measured : Measured bench.events
  sound : ∀ (index : Nat) (link : Link), bench.links[index]? = some link →
    link.Sound bench.events
  owned : ∀ (first second : Nat) (link other : Link) (connIndex : Nat),
    bench.links[first]? = some link → bench.links[second]? = some other →
      link.listIndex = some connIndex → other.listIndex = some connIndex →
        first = second
  numbered : ∀ (index : Nat) (link : Link) (connIndex : Nat),
    bench.links[index]? = some link → link.listIndex = some connIndex →
      connIndex < connections bench.events
  listed : ∀ index ∈ bench.conns, ∃ (link : Link) (connIndex : Nat),
    bench.links[index]? = some link ∧ link.listIndex = some connIndex

theorem consistent_start (tenantId : Nat) :
    Consistent tenantId (start tenantId) := by
  refine ⟨⟨[], Controller.registered_start _ _⟩,
    ⟨History.admissible_nil, History.admissible_nil, History.admissible_nil⟩,
    ?_, ?_, ?_, ?_⟩
  · intro index link present
    simp [start] at present
  · intro first second link other connIndex present
    simp [start] at present
  · intro index link connIndex present
    simp [start] at present
  · intro index member
    simp [start] at member

/-- A step of the link at an index: what it may change of the tenant, and of
the link itself. -/
structure LinkStep (tenantId index : Nat) (bench : Bench) (link : Link)
    (result : Bench × Link) : Prop where
  links : result.1.links = bench.links
  registered : ∃ ports,
    Controller.Registered .featuresRequest tenantId ports result.1.controller
  measured : Measured result.1.events
  sound : result.2.Sound result.1.events
  elsewhere : ∀ connIndex, connIndex < connections bench.events →
    link.listIndex ≠ some connIndex →
      onConn connIndex result.1.events = onConn connIndex bench.events
  grown : connections bench.events ≤ connections result.1.events
  listIndex : result.2.listIndex = link.listIndex ∨
    result.2.listIndex = some (connections bench.events)
  numbered : ∀ connIndex, result.2.listIndex = some connIndex →
    connIndex < connections result.1.events
  listed : ∀ other ∈ result.1.conns, other ∈ bench.conns ∨
    other = index ∧ result.2.listIndex = some (connections bench.events)

theorem getElem?_set_cases {α : Type*} {items : List α} {index other : Nat}
    {item found : α} (present : (items.set index item)[other]? = some found) :
    other = index ∧ found = item ∨ other ≠ index ∧ items[other]? = some found := by
  by_cases same : other = index
  · subst same
    left
    have inside := (List.getElem?_eq_some_iff.mp present).1
    rw [List.length_set] at inside
    rw [List.getElem?_set_self inside, Option.some.injEq] at present
    exact ⟨rfl, present.symm⟩
  · right
    rw [List.getElem?_set_ne (Ne.symm same)] at present
    exact ⟨same, present⟩

section Steps

variable {tenantId index : Nat} {bench : Bench} {link : Link}
  {result : Bench × Link}

theorem Consistent.linkStep (consistent : Consistent tenantId bench)
    (present : bench.links[index]? = some link)
    (taken : LinkStep tenantId index bench link result) :
    Consistent tenantId
      { result.1 with links := result.1.links.set index result.2 } := by
  obtain ⟨links, registered, measured, sound, elsewhere, grown, listIndex,
    numbered, listed⟩ := taken
  have inside := (List.getElem?_eq_some_iff.mp present).1
  rw [links]
  -- a connection index of the link changed is not one of another link
  have ownedBy : ∀ other found connIndex, bench.links[other]? = some found →
      found.listIndex = some connIndex → result.2.listIndex = some connIndex →
        other = index := by
    intro other found connIndex foundAt foundIndex resultIndex
    rcases listIndex with same | fresh
    · rw [resultIndex] at same
      exact consistent.owned other index found link connIndex foundAt present
        foundIndex same.symm
    · rw [fresh, Option.some.injEq] at resultIndex
      have old := consistent.numbered other found connIndex foundAt foundIndex
      omega
  refine ⟨registered, measured, ?_, ?_, ?_, ?_⟩
  · intro other found foundAt
    rcases getElem?_set_cases foundAt with ⟨_, rfl⟩ | ⟨different, foundAt⟩
    · exact sound
    · apply (consistent.sound other found foundAt).elsewhere
      intro connIndex foundIndex
      apply elsewhere connIndex
        (consistent.numbered other found connIndex foundAt foundIndex)
      intro same
      exact different (consistent.owned other index found link connIndex
        foundAt present foundIndex same)
  · intro first second firstLink secondLink connIndex firstAt secondAt
      firstIndex secondIndex
    rcases getElem?_set_cases firstAt with ⟨firstEq, rfl⟩ | ⟨_, firstAt⟩
    · rcases getElem?_set_cases secondAt with ⟨secondEq, _⟩ | ⟨_, secondAt⟩
      · rw [firstEq, secondEq]
      · rw [firstEq]
        exact (ownedBy second secondLink connIndex secondAt secondIndex
          firstIndex).symm
    · rcases getElem?_set_cases secondAt with ⟨secondEq, rfl⟩ | ⟨_, secondAt⟩
      · rw [secondEq]
        exact ownedBy first firstLink connIndex firstAt firstIndex secondIndex
      · exact consistent.owned first second firstLink secondLink connIndex
          firstAt secondAt firstIndex secondIndex
  · intro other found connIndex foundAt foundIndex
    rcases getElem?_set_cases foundAt with ⟨_, rfl⟩ | ⟨_, foundAt⟩
    · exact numbered connIndex foundIndex
    · exact Nat.lt_of_lt_of_le
        (consistent.numbered other found connIndex foundAt foundIndex) grown
  · intro other member
    by_cases same : other = index
    · subst same
      refine ⟨result.2, ?_⟩
      rcases listed other member with old | ⟨_, fresh⟩
      · obtain ⟨found, connIndex, foundAt, foundIndex⟩ :=
          consistent.listed other old
        rw [present, Option.some.injEq] at foundAt
        subst foundAt
        rcases listIndex with unchanged | fresh
        · exact ⟨connIndex, List.getElem?_set_self inside,
            unchanged.trans foundIndex⟩
        · exact ⟨_, List.getElem?_set_self inside, fresh⟩
      · exact ⟨_, List.getElem?_set_self inside, fresh⟩
    · rcases listed other member with old | ⟨isIndex, _⟩
      · obtain ⟨found, connIndex, foundAt, foundIndex⟩ :=
          consistent.listed other old
        refine ⟨found, connIndex, ?_, foundIndex⟩
        exact (List.getElem?_set_ne (Ne.symm same)).trans foundAt
      · exact absurd isIndex same

theorem Consistent.quietStep (consistent : Consistent tenantId bench)
    (present : bench.links[index]? = some link)
    (unchanged : result.1 = bench) (sound : result.2.Sound bench.events)
    (listIndex : result.2.listIndex = link.listIndex) :
    LinkStep tenantId index bench link result := by
  obtain ⟨after, changed⟩ := result
  simp only at unchanged sound listIndex
  subst unchanged
  refine ⟨rfl, consistent.registered, consistent.measured, sound,
    fun _ _ _ => rfl, Nat.le_refl _, .inl listIndex, ?_,
    fun _ member => .inl member⟩
  intro connIndex established
  rw [listIndex] at established
  exact consistent.numbered index link connIndex present established

/-- A step that brings a request or a response to the link's own
connection. -/
theorem Consistent.ownStep {connIndex : Nat} {event : Event}
    {connEvent : ConnEvent} {after : Link}
    (consistent : Consistent tenantId bench)
    (present : bench.links[index]? = some link)
    (established : link.listIndex = some connIndex)
    (seen : ∀ other, event.onConn other =
      if connIndex = other then some connEvent else none)
    (measured : Measured (bench.events ++ [event]))
    (sound : after.Sound (bench.events ++ [event]))
    (listIndex : after.listIndex = link.listIndex) :
    LinkStep tenantId index bench link
      ({ bench with events := bench.events ++ [event] }, after) := by
  have grown : connections bench.events ≤
      connections (bench.events ++ [event]) := by
    rw [connections_snoc]
    exact Nat.le_add_right _ _
  refine ⟨rfl, consistent.registered, measured, sound, ?_, grown,
    .inl listIndex, ?_, fun _ member => .inl member⟩
  · intro other _ different
    have notOwn : connIndex ≠ other := by
      intro same
      exact different (same ▸ established)
    rw [onConn_append, onConn_singleton, seen other, if_neg notOwn]
    exact List.append_nil _
  · intro other found
    rw [listIndex] at found
    exact Nat.lt_of_lt_of_le
      (consistent.numbered index link other present found) grown

theorem Consistent.sendStep {ofVersion : Int} {time : ℚ}
    (consistent : Consistent tenantId bench)
    (present : bench.links[index]? = some link)
    (sent : send ofVersion time bench link = some result) :
    LinkStep tenantId index bench link result := by
  obtain ⟨connIndex, established, counted⟩ := Option.bind_eq_some_iff.mp sent
  obtain ⟨xid, next, rfl⟩ := Option.map_eq_some_iff.mp counted
  have seen : ∀ other, (Event.request connIndex
      { xid, time, bytes := 8, msgType := 5 }).onConn other =
        if connIndex = other then
          some (.request { xid, time, bytes := 8, msgType := 5 })
        else none := fun _ => rfl
  have own : onConn connIndex (bench.events ++
      [.request connIndex { xid, time, bytes := 8, msgType := 5 }]) =
        onConn connIndex bench.events ++
          [.request { xid, time, bytes := 8, msgType := 5 }] := by
    rw [onConn_append, onConn_singleton, seen, if_pos rfl]
    rfl
  obtain ⟨connected, byLoop, answers⟩ := consistent.measured
  refine consistent.ownStep present established seen ⟨?_, ?_, ?_⟩ ?_ rfl
  · exact (History.admissible_snoc _ _).mpr ⟨connected,
      consistent.numbered index link connIndex present established⟩
  · refine (History.admissible_snoc _ _).mpr ⟨byLoop,
      { packet with xid }, ?_⟩
    rw [SendLoop.sendMessage, next]
    rfl
  · exact (History.admissible_snoc _ _).mpr ⟨answers, trivial⟩
  · apply (consistent.sound index link present).send established rfl rfl
    · rw [own, issued_append]
      rfl
    · rw [own, answered_append]
      exact List.append_nil _

theorem Link.Sound.reply_issued {events : List Event} {msg : OFMessage}
    {waiting : List OFMessage} {connIndex : Nat} (sound : link.Sound events)
    (queue : link.toController = msg :: waiting) (reply : msg.ofType = 6)
    (established : link.listIndex = some connIndex) :
    msg.xid ∈ issued (onConn connIndex events) := by
  rw [(sound.running connIndex established).conserved, Link.replied, queue,
    ofTypeXids_cons, if_pos reply]
  simp

theorem Consistent.countedStep {msg : OFMessage} {waiting : List OFMessage}
    {connIndex : Nat} {time : ℚ} {pastEnd : PastEnd}
    (consistent : Consistent tenantId bench)
    (present : bench.links[index]? = some link)
    (queue : link.toController = msg :: waiting) (reply : msg.ofType = 6)
    (established : link.listIndex = some connIndex) :
    LinkStep tenantId index bench link
      ({ bench with
          events := bench.events ++
            [.response connIndex
              { xid := msg.xid, time, bytes := msg.length, msgType := 6 }
              pastEnd] },
        { link with toController := waiting }) := by
  have sound := consistent.sound index link present
  have requested := sound.reply_issued queue reply established
  have seen : ∀ other, (Event.response connIndex
      { xid := msg.xid, time, bytes := msg.length, msgType := 6 }
      pastEnd).onConn other =
        if connIndex = other then
          some (.response
            { xid := msg.xid, time, bytes := msg.length, msgType := 6 }
            pastEnd)
        else none := fun _ => rfl
  have own : onConn connIndex (bench.events ++
      [.response connIndex
        { xid := msg.xid, time, bytes := msg.length, msgType := 6 }
        pastEnd]) =
        onConn connIndex bench.events ++
          [.response
            { xid := msg.xid, time, bytes := msg.length, msgType := 6 }
            pastEnd] := by
    rw [onConn_append, onConn_singleton, seen, if_pos rfl]
    rfl
  obtain ⟨connected, byLoop, answers⟩ := consistent.measured
  refine consistent.ownStep present established seen ⟨?_, ?_, ?_⟩ ?_ rfl
  · exact (History.admissible_snoc _ _).mpr ⟨connected,
      consistent.numbered index link connIndex present established⟩
  · exact (History.admissible_snoc _ _).mpr ⟨byLoop, trivial⟩
  · exact (History.admissible_snoc _ _).mpr ⟨answers, requested⟩
  · apply sound.counted queue reply established
    · rw [own, issued_append]
      exact List.append_nil _
    · rw [own, answered_append]
      rfl

theorem Consistent.establishedStep {msg : OFMessage}
    {waiting : List OFMessage} {controllerEnd : OFConnection}
    (consistent : Consistent tenantId bench)
    (present : bench.links[index]? = some link)
    (queue : link.toController = msg :: waiting) (reply : msg.ofType = 6)
    (unestablished : link.listIndex = none)
    (running : controllerEnd.state = .running)
    (connected : controllerEnd.connected = link.controllerEnd.connected) :
    LinkStep tenantId index bench link
      ({ bench with
          controller := bench.controller.connEstablished msg.ports.length
          events := bench.events ++ [.established (index : Int)]
          conns := bench.conns ++ [index] },
        { link with
          controllerEnd
          toController := waiting
          controllerTimed := true
          listIndex := some (connections bench.events) }) := by
  have sound := consistent.sound index link present
  obtain ⟨ports, registered⟩ := consistent.registered
  obtain ⟨connectedBefore, byLoop, answers⟩ := consistent.measured
  have unseen : ∀ other, onConn other
      (bench.events ++ [.established (index : Int)]) =
        onConn other bench.events := by
    intro other
    rw [onConn_append, onConn_singleton]
    exact List.append_nil _
  have count : connections (bench.events ++ [.established (index : Int)]) =
      connections bench.events + 1 := by
    rw [connections_snoc]
    rfl
  refine ⟨rfl, ⟨_, registered.connEstablished⟩, ⟨?_, ?_, ?_⟩, ?_, ?_, ?_,
    .inr rfl, ?_, ?_⟩
  · exact (History.admissible_snoc _ _).mpr ⟨connectedBefore, trivial⟩
  · exact (History.admissible_snoc _ _).mpr ⟨byLoop, trivial⟩
  · exact (History.admissible_snoc _ _).mpr ⟨answers, trivial⟩
  · apply sound.established queue reply unestablished running connected
    rw [unseen]
    exact Counter.onConn_of_connections_le connectedBefore (Nat.le_refl _)
  · intro other _ _
    exact unseen other
  · simp only [count]
    exact Nat.le_succ _
  · intro other same
    rw [Option.some.injEq] at same
    rw [count]
    omega
  · intro other member
    rcases List.mem_append.mp member with old | new
    · exact .inl old
    · exact .inr ⟨List.mem_singleton.mp new, rfl⟩

theorem Consistent.controllerStep {ofVersion : Int} {time : ℚ}
    {pastEnd : PastEnd} (consistent : Consistent tenantId bench)
    (present : bench.links[index]? = some link)
    (taken : controllerReceives ofVersion index time pastEnd bench link =
      some result) :
    LinkStep tenantId index bench link result := by
  have sound := consistent.sound index link present
  obtain ⟨ports, registered⟩ := consistent.registered
  obtain ⟨msg, waiting, queue, received⟩ := sound.of_received registered taken
  cases received with
  | hello ofType outcome =>
      exact consistent.quietStep present rfl
        (sound.greeted queue ofType outcome) rfl
  | echo ofType =>
      exact consistent.quietStep present rfl (sound.echoed queue ofType) rfl
  | established ofType unestablished running connected =>
      exact consistent.establishedStep present queue ofType unestablished
        running connected
  | counted ofType established =>
      exact consistent.countedStep present queue ofType established

theorem Consistent.onLink {change : Bench → Link → Option (Bench × Link)}
    {after : Bench} (consistent : Consistent tenantId bench)
    (each : ∀ link result, bench.links[index]? = some link →
      change bench link = some result →
        LinkStep tenantId index bench link result)
    (taken : bench.onLink index change = some after) :
    Consistent tenantId after := by
  obtain ⟨link, present, changed⟩ := Option.bind_eq_some_iff.mp taken
  obtain ⟨result, stepped, rfl⟩ := Option.map_eq_some_iff.mp changed
  exact consistent.linkStep present (each link result present stepped)

theorem Consistent.endStep {change : Link → Option Link} {after : Bench}
    (consistent : Consistent tenantId bench)
    (keeps : ∀ link changed, link.Sound bench.events →
      change link = some changed →
        changed.Sound bench.events ∧ changed.listIndex = link.listIndex)
    (taken : bench.onLink index (fun bench link =>
      (change link).map (fun changed => (bench, changed))) = some after) :
    Consistent tenantId after := by
  apply consistent.onLink _ taken
  intro link result present stepped
  obtain ⟨changed, here, rfl⟩ := Option.map_eq_some_iff.mp stepped
  obtain ⟨sound, listIndex⟩ :=
    keeps link changed (consistent.sound index link present) here
  exact consistent.quietStep present rfl sound listIndex

theorem Consistent.connect (consistent : Consistent tenantId bench)
    (ofVersion : Int) :
    Consistent tenantId
      { bench with links := bench.links ++ [Link.start ofVersion] } := by
  have oldOrNew : ∀ (other : Nat) (found : Link),
      (bench.links ++ [Link.start ofVersion])[other]? = some found →
        bench.links[other]? = some found ∨ found = Link.start ofVersion := by
    intro other found present
    rcases Nat.lt_or_ge other bench.links.length with old | new
    · rw [List.getElem?_append_left old] at present
      exact .inl present
    · rw [List.getElem?_append_right new, List.getElem?_singleton] at present
      split at present
      · exact .inr (Option.some.inj present).symm
      · cases present
  have unestablished : ∀ connIndex,
      (Link.start ofVersion).listIndex ≠ some connIndex := by
    intro connIndex established
    cases established
  refine ⟨consistent.registered, consistent.measured, ?_, ?_, ?_, ?_⟩
  · intro other found present
    rcases oldOrNew other found present with old | rfl
    · exact consistent.sound other found old
    · exact Link.sound_start ofVersion bench.events
  · intro first second link other connIndex firstAt secondAt firstIndex
      secondIndex
    rcases oldOrNew first link firstAt with firstOld | rfl
    · rcases oldOrNew second other secondAt with secondOld | rfl
      · exact consistent.owned first second link other connIndex firstOld
          secondOld firstIndex secondIndex
      · exact absurd secondIndex (unestablished connIndex)
    · exact absurd firstIndex (unestablished connIndex)
  · intro other found connIndex present established
    rcases oldOrNew other found present with old | rfl
    · exact consistent.numbered other found connIndex old established
    · exact absurd established (unestablished connIndex)
  · intro other member
    obtain ⟨found, connIndex, present, established⟩ :=
      consistent.listed other member
    refine ⟨found, connIndex, ?_, established⟩
    rw [List.getElem?_append_left (List.getElem?_eq_some_iff.mp present).1]
    exact present

theorem Consistent.newInterval (consistent : Consistent tenantId bench)
    (now : ℚ) :
    Consistent tenantId
      { bench with events := bench.events ++ [.newInterval now] } := by
  obtain ⟨connected, byLoop, answers⟩ := consistent.measured
  refine ⟨consistent.registered, ⟨?_, ?_, ?_⟩, ?_, consistent.owned, ?_,
    consistent.listed⟩
  · exact (History.admissible_snoc _ _).mpr ⟨connected, trivial⟩
  · exact (History.admissible_snoc _ _).mpr ⟨byLoop, trivial⟩
  · exact (History.admissible_snoc _ _).mpr ⟨answers, trivial⟩
  · intro index link present
    apply (consistent.sound index link present).elsewhere
    intro connIndex _
    rw [onConn_append, onConn_singleton]
    exact List.append_nil _
  · intro index link connIndex present established
    rw [connections_snoc]
    exact consistent.numbered index link connIndex present established

theorem Consistent.step {ofVersion : Int} {taken : Step} {after : Bench}
    (consistent : Consistent tenantId bench)
    (result : step ofVersion bench taken = some after) :
    Consistent tenantId after := by
  cases taken with
  | connect =>
      cases result
      exact consistent.connect ofVersion
  | toSwitch index =>
      apply consistent.endStep _ result
      intro link changed sound received
      exact sound.switchReceives received
  | toController index time pastEnd =>
      apply consistent.onLink _ result
      intro link changed present received
      exact consistent.controllerStep present received
  | switchTimer index =>
      apply consistent.endStep _ result
      intro link changed sound fired
      exact sound.switchTimer fired
  | controllerTimer index =>
      apply consistent.endStep _ result
      intro link changed sound fired
      exact sound.controllerTimer fired
  | send position time =>
      obtain ⟨index, _, sent⟩ := Option.bind_eq_some_iff.mp result
      apply consistent.onLink _ sent
      intro link changed present stepped
      exact consistent.sendStep present stepped
  | newInterval now =>
      cases result
      exact consistent.newInterval now

end Steps

theorem run_consistent {ofVersion : Int} {tenantId : Nat} {steps : List Step}
    {final : Bench} (result : run ofVersion tenantId steps = some final) :
    Consistent tenantId final := by
  apply PartialRun.always result (consistent_start tenantId)
  intro taken bench after consistent stepped
  exact consistent.step stepped

end FeaturesRequest

end Perfbench
