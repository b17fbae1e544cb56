import Mathlib.Data.List.TakeWhile
import Perfbench.Connection.OFClient
import Perfbench.Library.PartialRun

/-!
# The requests of the other end

Besides the FlowMods that it hands to the testcases an emulated switch answers
the requests that the other end makes, and keeps the length of PacketIns that
was set last.  What it answers depends on the past in two ways only: on the
version of the first FEATURES_REQUEST and on the last SET_CONFIG after it.
-/

namespace Perfbench

namespace SwitchAgent

/-- A message received, and the length that a SET_CONFIG sets. -/
structure Request where
  msg : OFMessage
  missSendLen : Nat

/-- A message sent, and the length that a GET_CONFIG_REPLY tells. -/
structure Reply where
  msg : OFMessage
  missSendLen : Option Nat
  deriving DecidableEq

/-- A switch with its connection. -/
structure Agent where
  conn : OFConnection
  missSendLen : Nat
  sent : List Reply

inductive Step where
  | receive (request : Request)
  | echoTimer

/-- The connection is up. -/
def start : Agent :=
  { conn := .new
    missSendLen := 0
    sent := [] }

/-- `handle_set_config`; a `uint16_t` keeps the length. -/
def handleSetConfig (request : Request) : Nat := request.missSendLen % 2 ^ 16

/-- `handle_get_config_req` puts the length into its reply. -/
def withConfig (missSendLen : Nat) (msg : OFMessage) : Reply :=
  { msg
    missSendLen := if msg.ofType = 8 then some missSendLen else none }

/-- The callbacks for a message, with the settings of `start_switches`. -/
def receive (ofVersion : Int) (dataports : List Nat) (request : Request)
    (agent : Agent) : Agent :=
  let reaction := OFClient.baseMessageCallback (switchSettings ofVersion)
    (factoryVersion ofVersion) dataports request.msg agent.conn
  { conn := reaction.1
    missSendLen :=
      if (agent.conn.version = 1 ∨ agent.conn.version = 4) ∧
          request.msg.ofType = 9 then handleSetConfig request
      else agent.missSendLen
    sent := agent.sent ++
      (sentMessages reaction.2).map (withConfig agent.missSendLen) }

/-- The request that the testcase's packet factory makes is of the other version
than the connection, so that the cast yields a null pointer. -/
def BadCast (factory : Nat) (msg : OFMessage) (conn : OFConnection) : Prop :=
  conn.version = 1 ∧ msg.ofType = 16 ∧ factory ≠ 1 ∨
    conn.version = 4 ∧ msg.ofType = 18 ∧ factory = 1

instance (factory : Nat) (msg : OFMessage) (conn : OFConnection) :
    Decidable (BadCast factory msg conn) :=
  inferInstanceAs (Decidable (_ ∨ _))

/-- The timer of `send_echo`; a switch that finds its connection dead closes
it. -/
def echoTimer (agent : Agent) : Option Agent :=
  if agent.conn.alive then
    let reaction := OFClient.sendEcho agent.conn
    some { agent with
      conn := reaction.1
      sent := agent.sent ++
        (sentMessages reaction.2).map (withConfig agent.missSendLen) }
  else none

def step (ofVersion : Int) (dataports : List Nat) (agent : Agent) :
    Step → Option Agent
  | .receive request =>
      if BadCast (factoryVersion ofVersion) request.msg agent.conn then none
      else some (receive ofVersion dataports request agent)
  | .echoTimer => echoTimer agent

def run (ofVersion : Int) (dataports : List Nat) (steps : List Step) :
    Option Agent :=
  PartialRun.run (step ofVersion dataports) start steps

def Step.request : Step → Option Request
  | .receive request => some request
  | .echoTimer => none

def requests (past : List Step) : List Request := past.filterMap Step.request

def asksFeatures (request : Request) : Bool := request.msg.ofType == 5

def setsConfig (request : Request) : Bool := request.msg.ofType == 9

/-- The version of the first FEATURES_REQUEST. -/
def negotiated (past : List Step) : Nat :=
  (((requests past).find? asksFeatures).map (fun request =>
    request.msg.version)).getD 0

/-- The length of the last SET_CONFIG after the first FEATURES_REQUEST. -/
def configured (past : List Step) : Nat :=
  if negotiated past = 1 ∨ negotiated past = 4 then
    (((((requests past).dropWhile (fun request =>
      !asksFeatures request)).filter setsConfig).getLast?).map
        handleSetConfig).getD 0
  else 0

/-- The types of the replies, in the version of the connection; those of
BARRIER and DESC are those of the testcase's version. -/
def replyType (factory version : Nat) (msg : OFMessage) : Option Nat :=
  if msg.ofType = 2 then some 3
  else if msg.ofType = 5 then some 6
  else if version = 1 then
    if msg.ofType = 18 then some (if factory = 1 then 19 else 21)
    else if msg.ofType = 16 then
      if msg.mpartType = 0 then some (if factory = 1 then 17 else 19) else none
    else if msg.ofType = 7 then some 8
    else none
  else if version = 4 then
    if msg.ofType = 20 then some (if factory = 1 then 19 else 21)
    else if msg.ofType = 18 then
      if msg.mpartType = 0 then some (if factory = 1 then 17 else 19)
      else if msg.mpartType = 13 ∨ msg.mpartType = 11 then some 19
      else none
    else if msg.ofType = 7 then some 8
    else if msg.ofType = 24 then some 25
    else none
  else none

/-- What is told of a reply. -/
structure Answer where
  xid : Nat
  ofType : Nat
  missSendLen : Option Nat
  deriving DecidableEq

def Reply.answer (reply : Reply) : Answer :=
  { xid := reply.msg.xid
    ofType := reply.msg.ofType
    missSendLen := reply.missSendLen }

/-- The answer to a request with this past. -/
def answerTo (factory : Nat) (past : List Step) (request : Request) :
    Option Answer :=
  (replyType factory (negotiated (past ++ [.receive request]))
    request.msg).map (fun ofType =>
      { xid := request.msg.xid
        ofType
        missSendLen := if ofType = 8 then some (configured past) else none })

/-- The answers to the requests of the future, each with its own past. -/
def answersFrom (factory : Nat) : List Step → List Step → List Answer
  | _, [] => []
  | past, step :: future =>
      (step.request.bind (answerTo factory past)).toList ++
        answersFrom factory (past ++ [step]) future

/-- The answers that a run should bring. -/
def answers (factory : Nat) (steps : List Step) : List Answer :=
  answersFrom factory [] steps

/-- The answers sent, without the switch's own echo requests. -/
def answered (agent : Agent) : List Answer :=
  (agent.sent.map Reply.answer).filter (fun answer => answer.ofType != 2)

section Past

variable {past : List Step} {request : Request}

theorem requests_receive (past : List Step) (request : Request) :
    requests (past ++ [.receive request]) = requests past ++ [request] :=
  List.filterMap_append

theorem requests_echoTimer (past : List Step) :
    requests (past ++ [.echoTimer]) = requests past := by
  rw [requests, List.filterMap_append]
  exact List.append_nil _

theorem answersFrom_snoc (factory : Nat) (past future : List Step)
    (last : Step) :
    answersFrom factory past (future ++ [last]) =
      answersFrom factory past future ++
        (last.request.bind (answerTo factory (past ++ future))).toList := by
  induction future generalizing past with
  | nil => simp [answersFrom]
  | cons step future induction =>
      rw [List.cons_append, answersFrom, answersFrom, induction,
        List.append_assoc, List.append_assoc]
      rfl

theorem answers_snoc (factory : Nat) (steps : List Step) (last : Step) :
    answers factory (steps ++ [last]) =
      answers factory steps ++
        (last.request.bind (answerTo factory steps)).toList :=
  answersFrom_snoc factory [] steps last

/-- Whether the handshake was made. -/
def Greeted (past : List Step) : Prop :=
  ∃ request ∈ requests past, asksFeatures request = true

theorem negotiated_greeted (greeted : Greeted past) :
    negotiated (past ++ [.receive request]) = negotiated past := by
  obtain ⟨first, member, asks⟩ := greeted
  obtain ⟨found, foundEq⟩ := Option.isSome_iff_exists.mp
    (List.find?_isSome.mpr ⟨first, member, asks⟩)
  rw [negotiated, negotiated, requests_receive, List.find?_append, foundEq]
  rfl

theorem find?_of_not_greeted (ungreeted : ¬Greeted past) :
    (requests past).find? asksFeatures = none := by
  apply List.find?_eq_none.mpr
  intro request member asks
  exact ungreeted ⟨request, member, asks⟩

theorem negotiated_not_greeted (ungreeted : ¬Greeted past) :
    negotiated past = 0 := by
  rw [negotiated, find?_of_not_greeted ungreeted]
  rfl

theorem negotiated_first (ungreeted : ¬Greeted past) :
    negotiated (past ++ [.receive request]) =
      if asksFeatures request then request.msg.version else 0 := by
  rw [negotiated, requests_receive, List.find?_append,
    find?_of_not_greeted ungreeted]
  cases asks : asksFeatures request with
  | false => simp [asks]
  | true => simp [asks]

theorem greeted_receive : Greeted (past ++ [.receive request]) ↔
    Greeted past ∨ asksFeatures request = true := by
  simp [Greeted, requests_receive, or_and_right, exists_or]

theorem dropWhile_of_not_greeted (ungreeted : ¬Greeted past) :
    (requests past).dropWhile (fun request => !asksFeatures request) = [] := by
  apply List.dropWhile_eq_nil_iff.mpr
  intro request member
  rw [Bool.not_eq_true', ← Bool.not_eq_true]
  intro asks
  exact ungreeted ⟨request, member, asks⟩

theorem configured_not_greeted (ungreeted : ¬Greeted past) :
    configured past = 0 := by
  rw [configured, negotiated_not_greeted ungreeted]
  rfl

theorem configured_receive :
    configured (past ++ [.receive request]) =
      if (negotiated past = 1 ∨ negotiated past = 4) ∧
          request.msg.ofType = 9 then handleSetConfig request
      else configured past := by
  by_cases greeted : Greeted past
  · have started : (requests past).dropWhile
        (fun request => !asksFeatures request) ≠ [] := by
      obtain ⟨first, member, asks⟩ := greeted
      intro nothing
      have silent := List.dropWhile_eq_nil_iff.mp nothing first member
      simp [asks] at silent
    have kept : (requests past ++ [request]).dropWhile
        (fun request => !asksFeatures request) =
          (requests past).dropWhile (fun request => !asksFeatures request) ++
            [request] := by
      rw [List.dropWhile_append, if_neg (by simpa using started)]
    rw [configured, configured, negotiated_greeted greeted, requests_receive,
      kept, List.filter_append]
    by_cases version : negotiated past = 1 ∨ negotiated past = 4
    · by_cases sets : request.msg.ofType = 9
      · simp [version, sets, setsConfig]
      · simp [version, sets, setsConfig]
    · simp [version]
  · have version : ¬(negotiated past = 1 ∨ negotiated past = 4) := by
      rw [negotiated_not_greeted greeted]
      decide
    rw [if_neg (fun both => version both.1), configured_not_greeted greeted,
      configured, requests_receive, List.dropWhile_append,
      dropWhile_of_not_greeted greeted]
    cases asks : asksFeatures request with
    | false => simp [asks]
    | true =>
        have unset : setsConfig request = false := by
          simp only [asksFeatures, beq_iff_eq] at asks
          simp [setsConfig, asks]
        simp [asks, unset]

end Past

theorem switchSettings_serving (ofVersion : Int) :
    (switchSettings ofVersion).livenessCheck = true ∧
      (switchSettings ofVersion).handshake = true ∧
        (switchSettings ofVersion).dispatchAllMessages = false := by
  by_cases old : ofVersion = 10
  · simp [switchSettings, old, OFServerSettings.supportedVersion,
      OFServerSettings.addVersion, OFServerSettings.default]
  · simp [switchSettings, old, OFServerSettings.supportedVersion,
      OFServerSettings.addVersion, OFServerSettings.default]

section Reactions

variable {ofVersion : Int} {dataports : List Nat} {msg : OFMessage}
  {cc : OFConnection}

/-- The first FEATURES_REQUEST decides the version, and nothing else does. -/
theorem reaction_conn :
    let after := (OFClient.baseMessageCallback (switchSettings ofVersion)
      (factoryVersion ofVersion) dataports msg cc).1
    after.connected = cc.connected ∧
      after.version =
        (if msg.ofType = 5 ∧ cc.state ≠ .running then msg.version
          else cc.version) ∧
        (after.state = .running ↔ cc.state = .running ∨ msg.ofType = 5) := by
  obtain ⟨liveness, handshake, quiet⟩ := switchSettings_serving ofVersion
  simp only [OFClient.baseMessageCallback, liveness, handshake, true_and,
    OFClient.incompatible, Bool.false_eq_true, if_false]
  by_cases echo : msg.ofType = 2
  · simp [echo]
  · by_cases hello : msg.ofType = 0
    · simp [hello]
    · by_cases echoReply : msg.ofType = 3
      · by_cases own : msg.xid = echoXid
        · simp [echoReply, own, OFConnection.setAlive]
        · simp [echoReply, own]
      · by_cases features : msg.ofType = 5
        · by_cases running : cc.state = .running
          · simp [features, running]
          · simp [features, running, Switch.connectionCallback,
              OFConnection.setVersion, OFConnection.setState]
        · simp [echo, hello, echoReply, features]

/-- The types and xids of the messages sent. -/
def sentTypes (effects : List (Effect SwitchEventType)) : List (Nat × Nat) :=
  (sentMessages effects).map (fun msg => (msg.xid, msg.ofType))

theorem sentTypes_send {sent : OFMessage} (connected : cc.connected = true) :
    sentTypes (cc.send sent) = [(sent.xid, sent.ofType)] := by
  simp [OFConnection.send, connected, sentTypes, sentMessages]

/-- The replies of `Switch`; it answers no echo or features request. -/
theorem messageCallback_sent (factory : Nat) (connected : cc.connected = true)
    (noEcho : msg.ofType ≠ 2) (noFeatures : msg.ofType ≠ 5) :
    sentTypes (Switch.messageCallback factory dataports msg cc) =
      ((replyType factory cc.version msg).map (fun ofType =>
        (msg.xid, ofType))).toList := by
  have sends : ∀ sent : OFMessage,
      sentTypes (cc.send sent) = [(sent.xid, sent.ofType)] :=
    fun sent => sentTypes_send connected
  have flowMod : sentTypes [.dispatch .flowMod] = [] := rfl
  have silent : sentTypes [] = [] := rfl
  simp only [Switch.messageCallback, replyType, if_neg noEcho, if_neg noFeatures]
  by_cases old : cc.version = 1
  · simp only [if_pos old]
    by_cases barrier : msg.ofType = 18
    · simp [barrier, Switch.handleBarrierRequest, sends, Switch.reply,
        OFMessage.header]
    · by_cases mod : msg.ofType = 14
      · simp [mod, flowMod]
      · by_cases stats : msg.ofType = 16
        · by_cases desc : msg.mpartType = 0
          · simp [stats, desc, Switch.handleStatsRequest, sends, Switch.reply,
              OFMessage.header]
          · simp [stats, desc, Switch.handleStatsRequest, silent]
        · by_cases config : msg.ofType = 7
          · simp [config, Switch.handleGetConfigReq, sends, Switch.reply,
              OFMessage.header]
          · simp [barrier, mod, stats, config, silent]
  · by_cases new : cc.version = 4
    · simp only [if_neg old, if_pos new]
      by_cases barrier : msg.ofType = 20
      · simp [barrier, Switch.handleBarrierRequest, sends, Switch.reply,
          OFMessage.header]
      · by_cases mod : msg.ofType = 14
        · simp [mod, flowMod]
        · by_cases multipart : msg.ofType = 18
          · by_cases desc : msg.mpartType = 0
            · simp [multipart, desc, Switch.handleMultipartRequest, sends,
                Switch.reply, OFMessage.header]
            · by_cases ports : msg.mpartType = 13
              · simp [multipart, ports, Switch.handleMultipartRequest, sends,
                  Switch.reply, OFMessage.header]
              · by_cases meters : msg.mpartType = 11
                · simp [multipart, meters, Switch.handleMultipartRequest, sends,
                    Switch.reply, OFMessage.header]
                · simp [multipart, desc, ports, meters,
                    Switch.handleMultipartRequest, silent]
          · by_cases config : msg.ofType = 7
            · simp [config, Switch.handleGetConfigReq, sends, Switch.reply,
                OFMessage.header]
            · by_cases role : msg.ofType = 24
              · simp [role, Switch.handleRoleRequest, sends, Switch.reply,
                  OFMessage.header]
              · simp [barrier, mod, multipart, config, role, silent]
    · simp [old, new, silent]

theorem reaction_sent (connected : cc.connected = true) :
    let reaction := OFClient.baseMessageCallback (switchSettings ofVersion)
      (factoryVersion ofVersion) dataports msg cc
    sentTypes reaction.2 =
      ((replyType (factoryVersion ofVersion) reaction.1.version msg).map
        (fun ofType => (msg.xid, ofType))).toList := by
  obtain ⟨liveness, handshake, quiet⟩ := switchSettings_serving ofVersion
  simp only [OFClient.baseMessageCallback, liveness, handshake, true_and,
    OFClient.incompatible, Bool.false_eq_true, if_false, OFClient.dispatchAll,
    quiet]
  by_cases echo : msg.ofType = 2
  · simp [echo, replyType, sentTypes, sentMessages, OFMessage.header]
  · by_cases hello : msg.ofType = 0
    · simp [hello, replyType, sentTypes, sentMessages]
    · by_cases echoReply : msg.ofType = 3
      · simp [echoReply, replyType, sentTypes, sentMessages]
      · by_cases features : msg.ofType = 5
        · have none : ∀ other : OFConnection,
              Switch.messageCallback (factoryVersion ofVersion) dataports msg
                other = [] := by
            intro other
            simp [Switch.messageCallback, features]
          by_cases running : cc.state = .running
          · simp [features, running, none, replyType, sentTypes, sentMessages,
              OFClient.featuresReply, OFMessage.header]
          · simp [features, running, none, replyType, sentTypes, sentMessages,
              OFClient.featuresReply, OFMessage.header,
              Switch.connectionCallback]
        · simp only [if_neg echo, if_neg hello, if_neg echoReply,
            if_neg features]
          exact messageCallback_sent _ connected echo features

end Reactions

/-- What the switch is in depends on the past as it should. -/
structure Follows (factory : Nat) (past : List Step) (agent : Agent) :
    Prop where
  connected : agent.conn.connected = true
  version : agent.conn.version = negotiated past
  running : agent.conn.state = .running ↔ Greeted past
  config : agent.missSendLen = configured past
  answered : SwitchAgent.answered agent = answers factory past

theorem follows_start (factory : Nat) : Follows factory [] start := by
  refine ⟨rfl, rfl, ?_, rfl, rfl⟩
  constructor
  · intro running
    exact absurd running (by decide)
  · intro greeted
    obtain ⟨request, member, _⟩ := greeted
    exact absurd member List.not_mem_nil

/-- An answer, of its xid and its type. -/
def toAnswer (missSendLen : Nat) (sent : Nat × Nat) : Answer :=
  { xid := sent.1
    ofType := sent.2
    missSendLen := if sent.2 = 8 then some missSendLen else none }

theorem map_answer_withConfig (missSendLen : Nat)
    (effects : List (Effect SwitchEventType)) :
    ((sentMessages effects).map (withConfig missSendLen)).map Reply.answer =
      (sentTypes effects).map (toAnswer missSendLen) := by
  rw [sentTypes, List.map_map, List.map_map]
  rfl

theorem answered_append (agent : Agent) (conn : OFConnection)
    (missSendLen : Nat) (effects : List (Effect SwitchEventType)) :
    answered
        { conn
          missSendLen
          sent := agent.sent ++
            (sentMessages effects).map (withConfig agent.missSendLen) } =
      answered agent ++
        ((sentTypes effects).map (toAnswer agent.missSendLen)).filter
          (fun answer => answer.ofType != 2) := by
  rw [answered, answered, List.map_append, List.filter_append,
    map_answer_withConfig]

theorem replyType_ne_echoRequest {factory version : Nat} {msg : OFMessage}
    {ofType : Nat} (replies : replyType factory version msg = some ofType) :
    ofType ≠ 2 := by
  intro echo
  subst echo
  simp only [replyType] at replies
  split at replies
  · exact absurd replies (by decide)
  · split at replies
    · exact absurd replies (by decide)
    · by_cases old : factory = 1
      · simp only [if_pos old] at replies
        grind
      · simp only [if_neg old] at replies
        grind

section Steps

variable {ofVersion : Int} {dataports : List Nat} {past : List Step}
  {agent : Agent}

/-- The version of the connection is the one of the first FEATURES_REQUEST. -/
theorem Follows.negotiates {factory : Nat} {request : Request}
    (follows : Follows factory past agent) :
    (if request.msg.ofType = 5 ∧ agent.conn.state ≠ .running then
        request.msg.version
      else agent.conn.version) =
      negotiated (past ++ [.receive request]) := by
  by_cases greeted : Greeted past
  · have running := follows.running.mpr greeted
    rw [if_neg (fun both => both.2 running), follows.version,
      negotiated_greeted greeted]
  · have notRunning : agent.conn.state ≠ .running :=
      fun running => greeted (follows.running.mp running)
    rw [follows.version, negotiated_not_greeted greeted,
      negotiated_first greeted]
    by_cases features : request.msg.ofType = 5
    · simp [features, notRunning, asksFeatures]
    · simp [features, asksFeatures]

theorem Follows.receive (request : Request)
    (follows : Follows (factoryVersion ofVersion) past agent) :
    Follows (factoryVersion ofVersion) (past ++ [.receive request])
      (receive ofVersion dataports request agent) := by
  obtain ⟨connected, version, running⟩ :=
    @reaction_conn ofVersion dataports request.msg agent.conn
  have sent := @reaction_sent ofVersion dataports request.msg agent.conn
    follows.connected
  have negotiates := version.trans follows.negotiates
  refine ⟨connected.trans follows.connected, negotiates, ?_, ?_, ?_⟩
  · rw [greeted_receive, ← follows.running]
    simp only [asksFeatures, beq_iff_eq]
    exact running
  · rw [configured_receive, ← follows.version, ← follows.config]
    rfl
  · rw [SwitchAgent.receive, answered_append, follows.answered, answers_snoc,
      sent, negotiates, follows.config]
    congr 1
    change _ = (answerTo _ past request).toList
    rw [answerTo]
    cases replies : replyType (factoryVersion ofVersion)
        (negotiated (past ++ [.receive request])) request.msg with
    | none => rfl
    | some ofType =>
        have kept : (ofType != 2) = true := by
          simpa using replyType_ne_echoRequest replies
        simp [toAnswer, kept]

theorem Follows.echoTimer {factory : Nat} {after : Agent}
    (follows : Follows factory past agent)
    (result : echoTimer agent = some after) :
    Follows factory (past ++ [.echoTimer]) after := by
  rw [SwitchAgent.echoTimer] at result
  split at result
  · rename_i alive
    cases result
    have same := requests_echoTimer past
    have greeted : Greeted (past ++ [.echoTimer]) ↔ Greeted past := by
      rw [Greeted, Greeted, same]
    have version : negotiated (past ++ [.echoTimer]) = negotiated past := by
      rw [negotiated, negotiated, same]
    have config : configured (past ++ [.echoTimer]) = configured past := by
      rw [configured, configured, version, same]
    have echo : OFClient.sendEcho agent.conn =
        (agent.conn.setAlive false,
          agent.conn.send
            (OFMessage.header agent.conn.version 2 8 echoXid)) := by
      rw [OFClient.sendEcho, if_pos alive]
    rw [echo]
    refine ⟨follows.connected, version ▸ follows.version, ?_,
      config ▸ follows.config, ?_⟩
    · rw [greeted]
      exact follows.running
    · rw [answered_append, sentTypes_send follows.connected, follows.answered,
        answers_snoc]
      simp [toAnswer, OFMessage.header, Step.request]
  · cases result

end Steps

/-- In every run the switch sends one answer to every request that it answers
at all, in the order of the requests, with the xid of the request, with the
type of its reply, and with the length that was set last. -/
theorem run_answered {ofVersion : Int} {dataports : List Nat}
    {steps : List Step} {final : Agent}
    (result : run ofVersion dataports steps = some final) :
    Follows (factoryVersion ofVersion) steps final := by
  have free := @History.admissible_of_forall Step (fun _ _ => True) steps
    (fun _ _ _ => trivial)
  apply PartialRun.invariant free result (follows_start _)
  intro past taken before after _ _ follows stepped
  cases taken with
  | receive request =>
      rw [step] at stepped
      split at stepped
      · cases stepped
      · cases stepped
        exact follows.receive request
  | echoTimer => exact follows.echoTimer stepped

/-- A greeting, a length set twice and asked for, and a barrier. -/
def sampleSteps : List Step :=
  [.receive ⟨OFMessage.header 4 0 8 15, 0⟩,
    .receive ⟨OFMessage.header 4 5 8 15, 0⟩,
    .receive ⟨OFMessage.header 4 9 12 1, 64⟩,
    .receive ⟨OFMessage.header 4 9 12 2, 128⟩, .echoTimer,
    .receive ⟨OFMessage.header 4 7 8 3, 0⟩,
    .receive ⟨OFMessage.header 4 20 8 4, 0⟩]

theorem sampleSteps_isSome : (run 13 [1, 2] sampleSteps).isSome = true := rfl

theorem run_answered_sample :
    Follows 4 sampleSteps
      ((run 13 [1, 2] sampleSteps).get sampleSteps_isSome) :=
  run_answered (Option.some_get sampleSteps_isSome).symm

example : answers 4 sampleSteps =
    [⟨15, 6, none⟩, ⟨3, 8, some 128⟩, ⟨4, 21, none⟩] := by decide

end SwitchAgent

end Perfbench
