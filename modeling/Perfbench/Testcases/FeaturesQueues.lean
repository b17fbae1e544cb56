import Perfbench.Connection.Handshake
import Perfbench.Connection.MessageBytes
import Perfbench.Testcases.FeaturesTraffic

/-!
# The queues of a connection

A step puts messages behind those that wait, and takes the first message of a
queue when it delivers one.  All messages of the tenant are such that their
bytes are known.
-/

namespace Perfbench

namespace FeaturesRequest

open OFMessage (OnWire)

/-- Messages go behind the others of the two queues, and the ends stay. -/
structure Sends (link after : Link) (toController toSwitch : List OFMessage) :
    Prop where
  toController : after.toController = link.toController ++ toController
  toSwitch : after.toSwitch = link.toSwitch ++ toSwitch
  controllerEnd : after.controllerEnd = link.controllerEnd
  switchEnd : after.switchEnd = link.switchEnd

theorem sends_nothing {link after : Link}
    (toController : after.toController = link.toController)
    (toSwitch : after.toSwitch = link.toSwitch)
    (controllerEnd : after.controllerEnd = link.controllerEnd)
    (switchEnd : after.switchEnd = link.switchEnd) :
    Sends link after [] [] := by
  refine ⟨?_, ?_, controllerEnd, switchEnd⟩
  · rw [toController, List.append_nil]
  · rw [toSwitch, List.append_nil]

theorem Sends.trans {link middle after : Link}
    {first second third fourth : List OFMessage}
    (earlier : Sends link middle first second)
    (later : Sends middle after third fourth) :
    Sends link after (first ++ third) (second ++ fourth) := by
  refine ⟨?_, ?_, later.controllerEnd.trans earlier.controllerEnd,
    later.switchEnd.trans earlier.switchEnd⟩
  · rw [later.toController, earlier.toController, List.append_assoc]
  · rw [later.toSwitch, earlier.toSwitch, List.append_assoc]

theorem sentMessages_cons {Event : Type} (effect : Effect Event)
    (effects : List (Effect Event)) :
    sentMessages (effect :: effects) =
      sentMessages [effect] ++ sentMessages effects :=
  @List.filterMap_append _ _ [effect] effects _

section Callbacks

variable {index : Nat} {msg : OFMessage} {time : ℚ} {pastEnd : PastEnd}

theorem perform_sends {state after : Bench × Link} {effect : Effect EventType}
    (result : perform index msg time pastEnd state effect = some after) :
    Sends state.2 after.2 [] (sentMessages [effect]) := by
  obtain ⟨bench, link⟩ := state
  cases effect with
  | send sent =>
      cases result
      exact ⟨(List.append_nil _).symm, rfl, rfl, rfl⟩
  | addTimedCallback interval =>
      cases result
      exact sends_nothing rfl rfl rfl rfl
  | pushConn =>
      cases result
      exact sends_nothing rfl rfl rfl rfl
  | dispatch event =>
      cases event with
      | featuresReply =>
          obtain ⟨listIndex, -, rfl⟩ := Option.map_eq_some_iff.mp result
          exact sends_nothing rfl rfl rfl rfl
      | connDown => cases result
      | _ =>
          cases result
          exact sends_nothing rfl rfl rfl rfl

theorem performs_send {effects : List (Effect EventType)}
    {state after : Bench × Link}
    (result : effects.foldlM (perform index msg time pastEnd) state =
      some after) :
    Sends state.2 after.2 [] (sentMessages effects) := by
  induction effects generalizing state with
  | nil =>
      cases result
      exact sends_nothing rfl rfl rfl rfl
  | cons effect effects induction =>
      obtain ⟨middle, first, rest⟩ := Option.bind_eq_some_iff.mp result
      rw [sentMessages_cons]
      exact (perform_sends first).trans (induction rest)

theorem performSwitch_sends {link after : Link}
    {effect : Effect SwitchEventType}
    (result : performSwitch link effect = some after) :
    Sends link after (sentMessages [effect]) [] := by
  cases effect with
  | send sent =>
      cases result
      exact ⟨rfl, (List.append_nil _).symm, rfl, rfl⟩
  | addTimedCallback interval =>
      cases result
      exact sends_nothing rfl rfl rfl rfl
  | pushConn =>
      cases result
      exact sends_nothing rfl rfl rfl rfl
  | dispatch event =>
      cases event with
      | connDown => cases result
      | _ =>
          cases result
          exact sends_nothing rfl rfl rfl rfl

theorem performsSwitch_send {effects : List (Effect SwitchEventType)}
    {link after : Link}
    (result : effects.foldlM performSwitch link = some after) :
    Sends link after (sentMessages effects) [] := by
  induction effects generalizing link with
  | nil =>
      cases result
      exact sends_nothing rfl rfl rfl rfl
  | cons effect effects induction =>
      obtain ⟨middle, first, rest⟩ := Option.bind_eq_some_iff.mp result
      rw [sentMessages_cons]
      exact (performSwitch_sends first).trans (induction rest)

end Callbacks

/-- The ends have versions, and send messages, of which the bytes are known. -/
structure Link.Clean (link : Link) : Prop where
  controllerVersion : link.controllerEnd.version < 2 ^ 8
  switchVersion : link.switchEnd.version < 2 ^ 8
  toController : ∀ msg ∈ link.toController, OnWire msg
  toSwitch : ∀ msg ∈ link.toSwitch, OnWire msg

/-- A reaction to a message of which the bytes are known is another one. -/
structure CleanReaction (conn : OFConnection) (sent : List OFMessage) :
    Prop where
  version : conn.version < 2 ^ 8
  sent : ∀ msg ∈ sent, OnWire msg

theorem close_version (cc : OFConnection) : cc.close.version = cc.version := by
  unfold OFConnection.close
  split
  · rfl
  · rfl

section Reactions

variable {msg : OFMessage} {cc : OFConnection}

theorem controllerReacts_echoRequest (ofVersion : Int)
    (echo : msg.ofType = 2) :
    Handshake.controllerReacts (startController ofVersion) msg cc =
      (cc, [{ msg with ofType := 3 }]) := by
  simp [Handshake.controllerReacts, OFServer.baseMessageCallback,
    OFServer.dispatchAll, Negotiation.startController_flags, echo,
    Controller.messageCallback, Controller.messageEvent, Reaction.after,
    sentMessages]

theorem controllerReacts_unanswered (ofVersion : Int)
    (other : msg.ofType = 1 ∨ msg.ofType = 3 ∨ msg.ofType = 5) :
    (Handshake.controllerReacts (startController ofVersion) msg cc).1.version =
        cc.version ∧
      (Handshake.controllerReacts (startController ofVersion) msg cc).2 =
        [] := by
  rcases other with error | reply | request
  · simp [Handshake.controllerReacts, OFServer.baseMessageCallback, error,
      Controller.messageCallback, Controller.messageEvent, sentMessages]
  · by_cases own : msg.xid = echoXid
    · simp [Handshake.controllerReacts, OFServer.baseMessageCallback,
        OFServer.dispatchAll, Negotiation.startController_flags, reply, own,
        Controller.messageCallback, Controller.messageEvent, sentMessages]
    · simp [Handshake.controllerReacts, OFServer.baseMessageCallback,
        OFServer.dispatchAll, Negotiation.startController_flags, reply, own,
        Controller.messageCallback, Controller.messageEvent, sentMessages]
  · simp [Handshake.controllerReacts, OFServer.baseMessageCallback, request,
      Controller.messageCallback, Controller.messageEvent, sentMessages]

theorem controller_clean (ofVersion : Int) (onWire : OnWire msg)
    (version : cc.version < 2 ^ 8) :
    CleanReaction
      (Handshake.controllerReacts (startController ofVersion) msg cc).1
      (Handshake.controllerReacts (startController ofVersion) msg cc).2 := by
  have flags := Negotiation.startController_flags ofVersion
  cases onWire with
  | header versionFits kind xidFits =>
      rename_i offered ofType xid
      rcases kind with rfl | rfl | rfl | rfl
      · by_cases supported : Negotiation.Supports (startController ofVersion)
            offered
        · have reaction := @Handshake.controllerReacts_supported
            (startController ofVersion) (.header offered 0 8 xid) flags.2.1
            rfl rfl supported cc
          rw [reaction]
          refine ⟨version, ?_⟩
          intro sent member
          rw [List.mem_singleton.mp member]
          exact .header versionFits (by decide) xidFits
        · have reaction := @Handshake.controllerReacts_unsupported
            (startController ofVersion) (.header offered 0 8 xid) flags.2.1
            rfl rfl supported cc
          rw [reaction]
          refine ⟨?_, ?_⟩
          · rw [OFConnection.setState_version, close_version]
            exact version
          · intro sent member
            rw [Handshake.eq_of_mem_sentMessages member]
            exact .helloFailed versionFits xidFits
      · rw [controllerReacts_echoRequest ofVersion rfl]
        refine ⟨version, ?_⟩
        intro sent member
        rw [List.mem_singleton.mp member]
        exact @OnWire.header offered 3 xid versionFits (by decide) xidFits
      · obtain ⟨same, silent⟩ := @controllerReacts_unanswered
          (.header offered 3 8 xid) cc ofVersion (.inr (.inl rfl))
        exact ⟨same ▸ version, by simp [silent]⟩
      · obtain ⟨same, silent⟩ := @controllerReacts_unanswered
          (.header offered 5 8 xid) cc ofVersion (.inr (.inr rfl))
        exact ⟨same ▸ version, by simp [silent]⟩
  | helloFailed versionFits xidFits =>
      rename_i offered xid
      obtain ⟨same, silent⟩ := @controllerReacts_unanswered
        { OFMessage.header offered 1 12 xid with error := (0, 0) } cc
        ofVersion (.inl rfl)
      exact ⟨same ▸ version, by simp [silent]⟩
  | featuresReply xidFits =>
      rename_i xid
      obtain ⟨silent, -, same | first⟩ :=
        @Handshake.controllerReacts_featuresReply (startController ofVersion)
          { OFMessage.header 1 6 128 xid with ports := [1, 2] } rfl rfl cc
      · rw [silent, same.2]
        exact ⟨version, by simp⟩
      · rw [silent]
        refine ⟨?_, by simp⟩
        rw [first]
        decide

theorem switchReacts_echoRequest (echo : msg.ofType = 2) :
    Handshake.switchReacts Switch.settings 4 [1, 2] msg cc =
      (cc, [OFMessage.header msg.version 3 8 msg.xid]) := by
  have flags : Switch.settings.livenessCheck = true ∧
      Switch.settings.dispatchAllMessages = false := ⟨rfl, rfl⟩
  simp [Handshake.switchReacts, OFClient.baseMessageCallback,
    OFClient.dispatchAll, flags, echo, sentMessages]

theorem switchReacts_unanswered
    (other : msg.ofType = 3 ∨ msg.ofType = 6) :
    (Handshake.switchReacts Switch.settings 4 [1, 2] msg cc).1.version =
        cc.version ∧
      (Handshake.switchReacts Switch.settings 4 [1, 2] msg cc).2 = [] := by
  have flags : Switch.settings.livenessCheck = true ∧
      Switch.settings.dispatchAllMessages = false := ⟨rfl, rfl⟩
  rcases other with reply | features
  · by_cases own : msg.xid = echoXid
    · simp [Handshake.switchReacts, OFClient.baseMessageCallback,
        OFClient.dispatchAll, flags, reply, own, sentMessages]
    · simp [Handshake.switchReacts, OFClient.baseMessageCallback,
        OFClient.dispatchAll, flags, reply, own, sentMessages]
  · simp [Handshake.switchReacts, OFClient.baseMessageCallback, features,
      Switch.messageCallback, sentMessages]

theorem switch_clean (onWire : OnWire msg) (version : cc.version < 2 ^ 8) :
    CleanReaction (Handshake.switchReacts Switch.settings 4 [1, 2] msg cc).1
      (Handshake.switchReacts Switch.settings 4 [1, 2] msg cc).2 := by
  cases onWire with
  | header versionFits kind xidFits =>
      rename_i offered ofType xid
      rcases kind with rfl | rfl | rfl | rfl
      · rw [@Handshake.switchReacts_unanswered Switch.settings
          (.header offered 0 8 xid) (.inl rfl)]
        exact ⟨version, by simp⟩
      · rw [switchReacts_echoRequest rfl]
        refine ⟨version, ?_⟩
        intro sent member
        rw [List.mem_singleton.mp member]
        exact .header versionFits (by decide) xidFits
      · obtain ⟨same, silent⟩ := @switchReacts_unanswered
          (.header offered 3 8 xid) cc (.inl rfl)
        exact ⟨same ▸ version, by simp [silent]⟩
      · obtain ⟨replied, -, same | first⟩ :=
          @Handshake.switchReacts_featuresRequest Switch.settings
            (.header offered 5 8 xid) rfl rfl 4 [1, 2] cc
        · rw [replied, same.2]
          refine ⟨version, ?_⟩
          intro sent member
          rw [List.mem_singleton.mp member]
          exact .featuresReply xidFits
        · rw [replied]
          refine ⟨?_, ?_⟩
          · rw [first]
            exact versionFits
          · intro sent member
            rw [List.mem_singleton.mp member]
            exact .featuresReply xidFits
  | helloFailed versionFits xidFits =>
      rename_i offered xid
      rw [@Handshake.switchReacts_unanswered Switch.settings
        { OFMessage.header offered 1 12 xid with error := (0, 0) } (.inr rfl)]
      exact ⟨version, by simp⟩
  | featuresReply xidFits =>
      rename_i xid
      obtain ⟨same, silent⟩ := @switchReacts_unanswered
        { OFMessage.header 1 6 128 xid with ports := [1, 2] } cc (.inr rfl)
      exact ⟨same ▸ version, by simp [silent]⟩

end Reactions

theorem Link.Clean.sends {link after : Link}
    {toController toSwitch : List OFMessage} (clean : link.Clean)
    (sends : Sends link after toController toSwitch)
    (forController : ∀ msg ∈ toController, OnWire msg)
    (forSwitch : ∀ msg ∈ toSwitch, OnWire msg) : after.Clean := by
  refine ⟨?_, ?_, ?_, ?_⟩
  · rw [sends.controllerEnd]
    exact clean.controllerVersion
  · rw [sends.switchEnd]
    exact clean.switchVersion
  · rw [sends.toController]
    exact List.forall_mem_append.mpr ⟨clean.toController, forController⟩
  · rw [sends.toSwitch]
    exact List.forall_mem_append.mpr ⟨clean.toSwitch, forSwitch⟩

section Links

variable {ofVersion : Int} {bench : Bench} {link after : Link}
  {changed : Bench × Link}

theorem controllerReceives_sends {index : Nat} {time : ℚ} {pastEnd : PastEnd}
    (result : controllerReceives ofVersion index time pastEnd bench link =
      some changed) :
    ∃ msg waiting, link.toController = msg :: waiting ∧
      Sends
        { link with
          controllerEnd := (Handshake.controllerReacts
            (startController ofVersion) msg link.controllerEnd).1
          toController := waiting }
        changed.2 []
        (Handshake.controllerReacts (startController ofVersion) msg
          link.controllerEnd).2 := by
  cases queue : link.toController with
  | nil => simp [controllerReceives, queue] at result
  | cons msg waiting =>
      simp only [controllerReceives, queue] at result
      exact ⟨msg, waiting, rfl, performs_send result⟩

theorem switchReceives_sends (result : switchReceives link = some after) :
    ∃ msg waiting, link.toSwitch = msg :: waiting ∧
      Sends
        { link with
          switchEnd := (Handshake.switchReacts Switch.settings 4 [1, 2] msg
            link.switchEnd).1
          toSwitch := waiting }
        after
        (Handshake.switchReacts Switch.settings 4 [1, 2] msg
          link.switchEnd).2 [] := by
  cases queue : link.toSwitch with
  | nil => simp [switchReceives, queue] at result
  | cons msg waiting =>
      simp only [switchReceives, queue] at result
      exact ⟨msg, waiting, rfl, performsSwitch_send result⟩

theorem controllerReceives_clean {index : Nat} {time : ℚ} {pastEnd : PastEnd}
    (clean : link.Clean)
    (result : controllerReceives ofVersion index time pastEnd bench link =
      some changed) : changed.2.Clean := by
  obtain ⟨msg, waiting, queue, sends⟩ := controllerReceives_sends result
  obtain ⟨onWire, others⟩ := List.forall_mem_cons.mp
    (queue ▸ clean.toController)
  have reaction := controller_clean ofVersion onWire clean.controllerVersion
  apply Link.Clean.sends _ sends (by simp) reaction.sent
  exact ⟨reaction.version, clean.switchVersion, others, clean.toSwitch⟩

theorem switchReceives_clean (clean : link.Clean)
    (result : switchReceives link = some after) : after.Clean := by
  obtain ⟨msg, waiting, queue, sends⟩ := switchReceives_sends result
  obtain ⟨onWire, others⟩ := List.forall_mem_cons.mp (queue ▸ clean.toSwitch)
  have reaction := switch_clean onWire clean.switchVersion
  apply Link.Clean.sends _ sends reaction.sent (by simp)
  exact ⟨clean.controllerVersion, reaction.version, clean.toController,
    others⟩

theorem onWire_send {Event : Type} {cc : OFConnection} {msg : OFMessage}
    (onWire : OnWire msg) :
    ∀ sent ∈ sentMessages (cc.send msg : List (Effect Event)),
      OnWire sent := by
  intro sent member
  rw [Handshake.eq_of_mem_sentMessages member]
  exact onWire

theorem onWire_echo {version : Nat} (versionFits : version < 2 ^ 8) :
    OnWire (.header version 2 8 echoXid) :=
  .header versionFits (.inr (.inl rfl)) (by decide)

theorem controllerTimer_clean (clean : link.Clean)
    (result : controllerTimer ofVersion link = some after) : after.Clean := by
  unfold controllerTimer at result
  split at result
  · rename_i timed
    cases result
    simp only [OFServer.react, OFServer.sendEcho, timed.2, if_true]
    refine ⟨clean.controllerVersion, clean.switchVersion,
      clean.toController, ?_⟩
    exact List.forall_mem_append.mpr ⟨clean.toSwitch,
      onWire_send (onWire_echo clean.controllerVersion)⟩
  · cases result

theorem switchTimer_clean (clean : link.Clean)
    (result : switchTimer link = some after) : after.Clean := by
  unfold switchTimer at result
  split at result
  · rename_i timed
    cases result
    simp only [OFClient.sendEcho, timed.2, if_true]
    refine ⟨clean.controllerVersion, clean.switchVersion, ?_,
      clean.toSwitch⟩
    exact List.forall_mem_append.mpr ⟨clean.toController,
      onWire_send (onWire_echo clean.switchVersion)⟩
  · cases result

theorem factoryVersion_lt (ofVersion : Int) :
    factoryVersion ofVersion < 2 ^ 8 := by
  unfold factoryVersion
  split
  · decide
  · decide

theorem nextXid_lt {listIndex xid : Nat} {counter : Counter}
    (numbered : SendLoop.nextXid listIndex counter = some xid) :
    xid < 2 ^ 32 := by
  obtain ⟨tables, -, rfl⟩ := Option.map_eq_some_iff.mp numbered
  exact Nat.mod_lt _ (by decide)

theorem send_clean {time : ℚ} (clean : link.Clean)
    (result : send ofVersion time bench link = some changed) :
    changed.2.Clean := by
  obtain ⟨listIndex, -, numbered⟩ := Option.bind_eq_some_iff.mp result
  obtain ⟨xid, next, rfl⟩ := Option.map_eq_some_iff.mp numbered
  refine ⟨clean.controllerVersion, clean.switchVersion,
    clean.toController, ?_⟩
  exact List.forall_mem_append.mpr ⟨clean.toSwitch, onWire_send
    (.header (factoryVersion_lt ofVersion) (.inr (.inr (.inr rfl)))
      (nextXid_lt next))⟩

theorem startController_version (ofVersion : Int) :
    (startController ofVersion).maxSupportedVersion < 2 ^ 8 := by
  by_cases old : ofVersion = 10
  · rw [startController, if_pos old]
    decide
  · rw [startController, if_neg old]
    decide

theorem Link.start_clean (ofVersion : Int) : (Link.start ofVersion).Clean := by
  obtain ⟨-, greets, -, noElements⟩ :=
    Negotiation.startController_flags ofVersion
  have version : OFConnection.new.version < 2 ^ 8 := by decide
  refine ⟨version, version, ?_, ?_⟩
  · intro msg member
    rw [List.mem_singleton.mp member]
    exact .header (by decide) (.inl rfl) (by decide)
  · intro msg member
    simp only [Link.start, OFServer.greeting, greets, noElements, if_true,
      Bool.false_eq_true, and_false, if_false, List.mem_singleton] at member
    rw [member]
    exact .header (startController_version ofVersion) (.inl rfl) (by decide)

end Links

theorem onLink_cases {bench after : Bench} {index : Nat}
    {change : Bench → Link → Option (Bench × Link)}
    (links : ∀ link changed, change bench link = some changed →
      changed.1.links = bench.links)
    (result : bench.onLink index change = some after) :
    ∃ link changed, bench.links[index]? = some link ∧
      change bench link = some changed ∧
        after.links = bench.links.set index changed.2 := by
  obtain ⟨link, present, changes⟩ := Option.bind_eq_some_iff.mp result
  obtain ⟨changed, stepped, rfl⟩ := Option.map_eq_some_iff.mp changes
  refine ⟨link, changed, present, stepped, ?_⟩
  rw [← links link changed stepped]

theorem onEnds_cases {bench after : Bench} {index : Nat}
    {change : Link → Option Link}
    (result : bench.onLink index (fun bench link =>
      (change link).map (fun link => (bench, link))) = some after) :
    ∃ link changed, bench.links[index]? = some link ∧
      change link = some changed ∧
        after.links = bench.links.set index changed := by
  obtain ⟨link, changed, present, stepped, set⟩ := onLink_cases
    (by
      intro link changed changes
      obtain ⟨received, -, rfl⟩ := Option.map_eq_some_iff.mp changes
      rfl) result
  obtain ⟨received, receives, rfl⟩ := Option.map_eq_some_iff.mp stepped
  exact ⟨link, received, present, receives, set⟩

/-- What a step does with the connections: a new one is added, one of them
changes, or none. -/
theorem step_cases {ofVersion : Int} {bench after : Bench} {taken : Step}
    (result : step ofVersion bench taken = some after) :
    taken = .connect ∧ after.links = bench.links ++ [Link.start ofVersion] ∨
      after.links = bench.links ∨
      ∃ index link changed, bench.links[index]? = some link ∧
        (link.Clean → changed.Clean) ∧
        after.links = bench.links.set index changed := by
  cases taken with
  | connect =>
      cases result
      exact .inl ⟨rfl, rfl⟩
  | toSwitch index =>
      obtain ⟨link, changed, present, receives, set⟩ := onEnds_cases result
      exact .inr (.inr ⟨index, link, changed, present,
        fun clean => switchReceives_clean clean receives, set⟩)
  | toController index time pastEnd =>
      obtain ⟨link, changed, present, receives, set⟩ := onLink_cases
        (fun link changed changes => controllerReceives_links changes) result
      exact .inr (.inr ⟨index, link, changed.2, present,
        fun clean => controllerReceives_clean clean receives, set⟩)
  | switchTimer index =>
      obtain ⟨link, changed, present, sends, set⟩ := onEnds_cases result
      exact .inr (.inr ⟨index, link, changed, present,
        fun clean => switchTimer_clean clean sends, set⟩)
  | controllerTimer index =>
      obtain ⟨link, changed, present, sends, set⟩ := onEnds_cases result
      exact .inr (.inr ⟨index, link, changed, present,
        fun clean => controllerTimer_clean clean sends, set⟩)
  | send position time =>
      obtain ⟨index, -, sending⟩ := Option.bind_eq_some_iff.mp result
      obtain ⟨link, changed, present, sends, set⟩ := onLink_cases
        (fun link changed changes => send_links changes) sending
      exact .inr (.inr ⟨index, link, changed.2, present,
        fun clean => send_clean clean sends, set⟩)
  | newInterval now =>
      cases result
      exact .inr (.inl rfl)

theorem step_clean {ofVersion : Int} {bench after : Bench} {taken : Step}
    (clean : ∀ link ∈ bench.links, link.Clean)
    (result : step ofVersion bench taken = some after) :
    ∀ link ∈ after.links, link.Clean := by
  rcases step_cases result with ⟨-, added⟩ | same |
    ⟨index, link, changed, present, keeps, set⟩
  · rw [added]
    intro link member
    rcases List.mem_append.mp member with old | new
    · exact clean link old
    · rw [List.mem_singleton.mp new]
      exact Link.start_clean ofVersion
  · rw [same]
    exact clean
  · rw [set]
    intro other member
    rcases List.mem_or_eq_of_mem_set member with old | rfl
    · exact clean other old
    · exact keeps (clean link (List.mem_of_getElem? present))

theorem step_links_length {ofVersion : Int} {bench after : Bench}
    {taken : Step} (old : taken ≠ .connect)
    (result : step ofVersion bench taken = some after) :
    after.links.length = bench.links.length := by
  rcases step_cases result with ⟨new, -⟩ | same |
    ⟨index, link, changed, -, -, set⟩
  · exact absurd new old
  · rw [same]
  · rw [set, List.length_set]

end FeaturesRequest

end Perfbench
