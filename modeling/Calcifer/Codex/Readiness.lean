import Calcifer.Library.Recognizer
import Calcifer.Library.Serde
import Calcifer.Codex.ThreadSettings

/-!
# The transcript of a readiness check

A relay shows the traffic between the official client and its server to `ReadinessState.observe`, which
says yes when the client has read and resumed its target thread. `ReadyTranscript` is what such a
transcript looks like: the two handshakes, the requests and their answers, and between them traffic that
is foreign to the target. `ReadinessState.readiness_transcript` says that exactly these are accepted.
-/

namespace Calcifer

open Checks Json Serde

namespace Readiness

def maxThreadIdBytes : ℕ := 256
def maxRequestIdBytes : ℕ := 256
def maxMethodBytes : ℕ := 256

inductive Direction where
  | clientToServer
  | serverToClient
deriving DecidableEq, Repr

inductive ReadinessMethod where
  | threadRead
  | threadResume
deriving DecidableEq, Repr

inductive ObservedEvent where
  | handshake (direction : Direction)
  | request (id : Json) (method : ReadinessMethod) (threadId : String) (includeTurns : Option Bool)
  | response (id : Json) (hasError : Bool) (threadId forkedFromId : Option String)
      (settings : Option EffectiveThreadSettings)
  | providerRequest (id : Json) (method : String)
  | providerNotification (method : String)
deriving DecidableEq

inductive ReadinessPolicy where
  | syntheticFork (sourceThreadId : String) (expectedSettings : EffectiveThreadSettings)
  | exactResume (expectedCwd : String)
deriving DecidableEq

structure ReadinessExpectation where
  threadId : String
  policy : ReadinessPolicy
deriving DecidableEq

inductive ReadinessPhase where
  | awaitReadRequest
  | awaitReadResponse (id : Json)
  | awaitResumeRequest
  | awaitResumeResponse (id : Json)
  | awaitPostResumeReadRequest (parentThreadId : String) (requireError : Bool)
  | awaitPostResumeReadResponse (id : Json) (parentThreadId : String) (requireError : Bool)
  | ready
deriving DecidableEq

structure ReadinessState where
  expectation : ReadinessExpectation
  clientHandshake : Bool
  serverHandshake : Bool
  phase : ReadinessPhase
  effectiveSettings : Option EffectiveThreadSettings
deriving DecidableEq

/-! ## Messages -/

def validThreadId (value : String) : Bool :=
  validBoundedText value maxThreadIdBytes ∧
    (Uuid.parseStr value).any fun parsed => parsed.toString = value

def validRequestId (id : Json) : Bool :=
  (id.asStr.any fun id => validBoundedText id maxRequestIdBytes) ∨ id.asI64.isSome ∨
    (unsigned 64 id).isSome

/-- A member that is not there, or is `null`. -/
def isAbsent (value : Option Json) : Bool := value.all isNull

def resumeUsesThreadId (params : List (String × Json)) : Bool :=
  let historyIsAbsent := isAbsent (member params "history")
  let pathIsAbsent := isAbsent (member params "path") ∨ (member params "path").bind asStr = some ""
  historyIsAbsent ∧ pathIsAbsent

def validateJsonrpcErrorBody (error : Json) : Except ReadinessProxyError Unit := do
  let error ← okOr error.asObject .invalidMessage
  rejectIf (((member error "code").bind asI64).isNone ∨ ((member error "message").bind asStr).isNone)
    .invalidMessage

def readinessMethod (name : String) : Option ReadinessMethod :=
  if name = "thread/read" then some .threadRead
  else if name = "thread/resume" then some .threadResume
  else none

/-- Whether the request asks for turns, if it says so. -/
def requestTurns (params : List (String × Json)) : Except ReadinessProxyError (Option Bool) :=
  match member params "includeTurns" with
  | some value => (okOr value.asBool .invalidMessage).map some
  | none => pure none

/-- The request that the client sends for one of the two methods. -/
def inspectRequest (object : List (String × Json)) (method : ReadinessMethod) :
    Except ReadinessProxyError ObservedEvent := do
  let id ← okOr ((member object "id").filter validRequestId) .invalidMessage
  let params ← okOr ((member object "params").bind asObject) .invalidMessage
  let threadId ← okOr (((member params "threadId").bind asStr).filter validThreadId) .invalidMessage
  let includeTurns ← requestTurns params
  rejectIf (method = .threadResume ∧ ¬resumeUsesThreadId params) .invalidMessage
  pure (.request id method threadId includeTurns)

def inspectClient (object : List (String × Json)) (events : List ObservedEvent) :
    Except ReadinessProxyError (List ObservedEvent) :=
  match member object "method" with
  | none => do
    rejectIf ((member object "id").any fun id => ¬validRequestId id) .invalidMessage
    pure events
  | some methodName => do
    let methodName ← okOr (methodName.asStr.filter fun method => validBoundedText method maxMethodBytes)
      .invalidMessage
    rejectIf ((member object "id").any fun id => ¬validRequestId id) .invalidMessage
    match readinessMethod methodName with
    | none => pure events
    | some method => do
      let event ← inspectRequest object method
      pure (events ++ [event])

/-- The thread that a result names, and its parent. -/
def responseThread (result : Option Json) :
    Except ReadinessProxyError (Option String × Option String) :=
  match result.bind fun result => result.get "thread" with
  | none => pure (none, none)
  | some thread => do
    let thread ← okOr thread.asObject .invalidMessage
    let threadId ← okOr (((member thread "id").bind asStr).filter validThreadId) .invalidMessage
    if isAbsent (member thread "forkedFromId") then pure (some threadId, none) else do
    let parent ← okOr (((member thread "forkedFromId").bind asStr).filter fun parent =>
      validThreadId parent ∧ parent ≠ threadId) .invalidMessage
    pure (some threadId, some parent)

/-- Whether the answer is an error, which must be well formed. -/
def responseError (object : List (String × Json)) : Except ReadinessProxyError Bool :=
  match member object "error" with
  | some error => (validateJsonrpcErrorBody error).map fun _ => true
  | none => pure false

def responseSettings (result : Option Json) (threadId : Option String) :
    Except ReadinessProxyError (Option EffectiveThreadSettings) :=
  match result with
  | some result => if threadId.isSome then parseThreadSettings result else pure none
  | none => pure none

/-- The answer that the server gives to a request. -/
def inspectResponse (object : List (String × Json)) (id : Json) :
    Except ReadinessProxyError ObservedEvent := do
  rejectIf (¬validRequestId id) .invalidMessage
  let hasResult := containsKey object "result"
  let hasError ← responseError object
  rejectIf (hasResult = hasError) .invalidMessage
  let (threadId, forkedFromId) ← responseThread (member object "result")
  let settings ← responseSettings (member object "result") threadId
  pure (.response id hasError threadId forkedFromId settings)

def inspectServer (object : List (String × Json)) (events : List ObservedEvent) :
    Except ReadinessProxyError (List ObservedEvent) :=
  match member object "method" with
  | some method => do
    let method ← okOr (method.asStr.filter fun method => validBoundedText method maxMethodBytes)
      .invalidMessage
    rejectIf (containsKey object "result" ∨ containsKey object "error") .invalidMessage
    match member object "id" with
    | some id =>
      if validRequestId id then pure (events ++ [.providerRequest id method])
      else .error .invalidMessage
    | none => pure (events ++ [.providerNotification method])
  | none => do
    let id ← okOr (member object "id") .invalidMessage
    let event ← inspectResponse object id
    pure (events ++ [event])

/-- Show a message to the check. It sees no more than one event of it. -/
def inspectMessage (fromSlice : List UInt8 → Option Json) (direction : Direction)
    (bytes : List UInt8) (events : List ObservedEvent) :
    Except ReadinessProxyError (List ObservedEvent) := do
  let message ← okOr (decodeUnique fromSlice bytes) .invalidMessage
  let object ← okOr message.asObject .invalidMessage
  match direction with
  | .clientToServer => inspectClient object events
  | .serverToClient => inspectServer object events

/-! ## Observing -/

def responseCarriesReadinessEvidence (phase : ReadinessPhase) (expectation : ReadinessExpectation)
    (threadId forkedFromId : Option String) (settings : Option EffectiveThreadSettings) : Bool :=
  if phase = .ready then false
  else if settings.isSome ∨ forkedFromId.isSome ∨ threadId = some expectation.threadId then true
  else match phase with
    | .awaitPostResumeReadRequest parentThreadId _ | .awaitPostResumeReadResponse _ parentThreadId _ =>
      threadId = some parentThreadId
    | _ => false

def validateResumeSettings (actual : Option EffectiveThreadSettings) (expected : ReadinessExpectation) :
    Except ReadinessProxyError EffectiveThreadSettings := do
  let actual ← okOr actual .invalidMessage
  let matched : Bool := match expected.policy with
    | .syntheticFork _ expectedSettings => actual = expectedSettings
    | .exactResume expectedCwd => actual.cwd = expectedCwd
  rejectIf (¬matched) .targetMismatch
  pure actual

def validateTargetResponse (hasError : Bool) (actualThreadId : Option String)
    (expectedThreadId : String) : Except ReadinessProxyError Unit := do
  rejectIf hasError .invalidMessage
  let actual ← okOr actualThreadId .invalidMessage
  rejectIf (actual ≠ expectedThreadId) .targetMismatch

/-- Whether the first read may ask for turns in this way. -/
def ReadinessPolicy.readTurns (includeTurns : Option Bool) : ReadinessPolicy → Bool
  | .syntheticFork _ _ => true
  | .exactResume _ => includeTurns ≠ some true

/-- Whether the read of the parent may ask for turns in this way. -/
def ReadinessPolicy.parentTurns (includeTurns : Option Bool) : ReadinessPolicy → Bool
  | .syntheticFork _ _ => includeTurns = none
  | .exactResume _ => includeTurns ≠ some true

namespace ReadinessState

def new (expectation : ReadinessExpectation) : ReadinessState where
  expectation
  clientHandshake := false
  serverHandshake := false
  phase := .awaitReadRequest
  effectiveSettings := none

variable (s : ReadinessState)

def observeRequest (id : Json) (method : ReadinessMethod) (threadId : String)
    (includeTurns : Option Bool) : Except ReadinessProxyError Bool × ReadinessState :=
  if ¬s.serverHandshake then (.error .unexpectedSequence, s) else
  match s.phase, method with
  | .awaitReadRequest, .threadRead =>
    if threadId ≠ s.expectation.threadId then (.error .targetMismatch, s)
    else if ¬s.expectation.policy.readTurns includeTurns then (.error .unexpectedSequence, s)
    else (.ok false, { s with phase := .awaitReadResponse id })
  | .awaitResumeRequest, .threadResume =>
    if threadId ≠ s.expectation.threadId then (.error .targetMismatch, s)
    else (.ok false, { s with phase := .awaitResumeResponse id })
  | .awaitPostResumeReadRequest parentThreadId requireError, .threadRead =>
    if threadId ≠ parentThreadId ∨ ¬s.expectation.policy.parentTurns includeTurns then
      (.error .targetMismatch, s)
    else (.ok false, { s with
      phase := .awaitPostResumeReadResponse id parentThreadId requireError })
  | _, _ => (.error .unexpectedSequence, s)

/-- The answer to the first read. -/
def observeRead (hasError : Bool) (threadId : Option String) :
    Except ReadinessProxyError Bool × ReadinessState :=
  match validateTargetResponse hasError threadId s.expectation.threadId with
  | .error error => (.error error, s)
  | .ok _ => (.ok false, { s with phase := .awaitResumeRequest })

/-- The answer to the resume. The settings are kept before the parent is checked. -/
def observeResumed (hasError : Bool) (threadId forkedFromId : Option String)
    (settings : Option EffectiveThreadSettings) : Except ReadinessProxyError Bool × ReadinessState :=
  match validateTargetResponse hasError threadId s.expectation.threadId with
  | .error error => (.error error, s)
  | .ok _ =>
    match validateResumeSettings settings s.expectation with
    | .error error => (.error error, s)
    | .ok settings =>
      let s := { s with effectiveSettings := some settings }
      match s.expectation.policy with
      | .syntheticFork sourceThreadId _ =>
        if forkedFromId ≠ some sourceThreadId then (.error .targetMismatch, s)
        else (.ok false, { s with phase := .awaitPostResumeReadRequest sourceThreadId true })
      | .exactResume _ =>
        match forkedFromId with
        | some parent => (.ok false, { s with phase := .awaitPostResumeReadRequest parent false })
        | none => (.ok true, { s with phase := .ready })

/-- The answer to the read of the parent. -/
def observeParent (parentThreadId : String) (requireError hasError : Bool)
    (threadId forkedFromId : Option String) (settings : Option EffectiveThreadSettings) :
    Except ReadinessProxyError Bool × ReadinessState :=
  if hasError then
    if threadId.isSome ∨ forkedFromId.isSome ∨ settings.isSome then (.error .invalidMessage, s)
    else (.ok true, { s with phase := .ready })
  else if requireError ∨ settings.isSome then (.error .invalidMessage, s)
  else match validateTargetResponse false threadId parentThreadId with
    | .error error => (.error error, s)
    | .ok _ => (.ok true, { s with phase := .ready })

/-- An answer to any other request. -/
def observeOther (threadId forkedFromId : Option String) (settings : Option EffectiveThreadSettings) :
    Except ReadinessProxyError Bool × ReadinessState :=
  if responseCarriesReadinessEvidence s.phase s.expectation threadId forkedFromId settings then
    (.error .unexpectedSequence, s)
  else (.ok (s.phase = .ready), s)

def observeResponse (id : Json) (hasError : Bool) (threadId forkedFromId : Option String)
    (settings : Option EffectiveThreadSettings) : Except ReadinessProxyError Bool × ReadinessState :=
  match s.phase with
  | .awaitReadResponse expectedId =>
    if id = expectedId then s.observeRead hasError threadId
    else s.observeOther threadId forkedFromId settings
  | .awaitResumeResponse expectedId =>
    if id = expectedId then s.observeResumed hasError threadId forkedFromId settings
    else s.observeOther threadId forkedFromId settings
  | .awaitPostResumeReadResponse expectedId parentThreadId requireError =>
    if id = expectedId then
      s.observeParent parentThreadId requireError hasError threadId forkedFromId settings
    else s.observeOther threadId forkedFromId settings
  | _ => s.observeOther threadId forkedFromId settings

def observe : ObservedEvent → Except ReadinessProxyError Bool × ReadinessState
  | .handshake .clientToServer =>
    if s.clientHandshake then (.error .unexpectedSequence, s)
    else (.ok false, { s with clientHandshake := true })
  | .handshake .serverToClient =>
    if s.clientHandshake ∧ ¬s.serverHandshake then (.ok false, { s with serverHandshake := true })
    else (.error .unexpectedSequence, s)
  | .request id method threadId includeTurns => s.observeRequest id method threadId includeTurns
  | .response id hasError threadId forkedFromId settings =>
    s.observeResponse id hasError threadId forkedFromId settings
  | .providerRequest _ _ | .providerNotification _ =>
    if s.serverHandshake then (.ok (s.phase = .ready), s) else (.error .unexpectedSequence, s)

end ReadinessState

/-! ## Transcripts -/

/-- The thread whose read is awaited after the resume. -/
def ReadinessPhase.parent : ReadinessPhase → Option String
  | .awaitPostResumeReadRequest parentThreadId _ | .awaitPostResumeReadResponse _ parentThreadId _ =>
    some parentThreadId
  | _ => none

/-- The request whose answer is awaited. -/
def ReadinessPhase.awaited : ReadinessPhase → Option Json
  | .awaitReadResponse id | .awaitResumeResponse id | .awaitPostResumeReadResponse id _ _ => some id
  | _ => none

/-- Traffic that has nothing to do with the target: answers to other requests that name neither the target
nor a parent and have no settings, and, once both ends are connected, what the provider sends. -/
def Foreign (x : ReadinessExpectation) (connected : Bool) (parent : Option String)
    (awaited : Option Json) : ObservedEvent → Prop
  | .response id _ threadId forkedFromId settings =>
    awaited ≠ some id ∧ settings = none ∧ forkedFromId = none ∧ threadId ≠ some x.threadId ∧
      (parent = none ∨ threadId ≠ parent)
  | .providerRequest _ _ | .providerNotification _ => connected = true
  | .handshake _ | .request _ _ _ _ => False

/-- Settings that satisfy the policy. -/
def ReadinessPolicy.Satisfied (settings : EffectiveThreadSettings) : ReadinessPolicy → Prop
  | .syntheticFork _ expectedSettings => settings = expectedSettings
  | .exactResume expectedCwd => settings.cwd = expectedCwd

/-- A parent that the policy admits. A synthetic fork names its source. -/
def ReadinessPolicy.Admits (parent : Option String) : ReadinessPolicy → Prop
  | .syntheticFork sourceThreadId _ => parent = some sourceThreadId
  | .exactResume _ => True

/-- An answer to the read of a parent: an error, or the parent where the policy allows one. -/
def ReadinessPolicy.ParentAnswer (parent : String) (hasError : Bool)
    (threadId forkedFromId : Option String) : ReadinessPolicy → Prop
  | .syntheticFork _ _ => hasError = true ∧ threadId = none ∧ forkedFromId = none
  | .exactResume _ => hasError = true ∧ threadId = none ∧ forkedFromId = none ∨
    hasError = false ∧ threadId = some parent

/-- The read of a parent. -/
structure ParentRead (x : ReadinessExpectation) (parent : String) where
  beforeRead : List ObservedEvent
  id : Json
  includeTurns : Option Bool
  beforeAnswer : List ObservedEvent
  hasError : Bool
  threadId : Option String
  forkedFromId : Option String
  foreignRead : ∀ e ∈ beforeRead, Foreign x true (some parent) none e
  turns : x.policy.parentTurns includeTurns = true
  foreignAnswer : ∀ e ∈ beforeAnswer, Foreign x true (some parent) (some id) e
  answers : x.policy.ParentAnswer parent hasError threadId forkedFromId

def ParentRead.events {x : ReadinessExpectation} {parent : String} (t : ParentRead x parent) :
    List ObservedEvent :=
  t.beforeRead ++ .request t.id .threadRead parent t.includeTurns ::
    (t.beforeAnswer ++ [.response t.id t.hasError t.threadId t.forkedFromId none])

/-- What follows the resume: the read of the parent, if there is one. -/
def Follows (x : ReadinessExpectation) (parent : Option String) (events : List ObservedEvent) : Prop :=
  match parent with
  | none => events = []
  | some parent => ∃ t : ParentRead x parent, events = t.events

/-- The transcript of a check that says yes at its last event. -/
structure ReadyTranscript (x : ReadinessExpectation) where
  beforeClient : List ObservedEvent
  beforeServer : List ObservedEvent
  beforeRead : List ObservedEvent
  readId : Json
  readTurns : Option Bool
  beforeReadAnswer : List ObservedEvent
  readForkedFromId : Option String
  readSettings : Option EffectiveThreadSettings
  beforeResume : List ObservedEvent
  resumeId : Json
  resumeTurns : Option Bool
  beforeResumeAnswer : List ObservedEvent
  parent : Option String
  settings : EffectiveThreadSettings
  afterResume : List ObservedEvent
  foreignClient : ∀ e ∈ beforeClient, Foreign x false none none e
  foreignServer : ∀ e ∈ beforeServer, Foreign x false none none e
  foreignRead : ∀ e ∈ beforeRead, Foreign x true none none e
  turns : x.policy.readTurns readTurns = true
  foreignReadAnswer : ∀ e ∈ beforeReadAnswer, Foreign x true none (some readId) e
  foreignResume : ∀ e ∈ beforeResume, Foreign x true none none e
  foreignResumeAnswer : ∀ e ∈ beforeResumeAnswer, Foreign x true none (some resumeId) e
  satisfied : x.policy.Satisfied settings
  admitted : x.policy.Admits parent
  follows : Follows x parent afterResume

def ReadyTranscript.events {x : ReadinessExpectation} (t : ReadyTranscript x) : List ObservedEvent :=
  t.beforeClient ++ .handshake .clientToServer :: (t.beforeServer ++ .handshake .serverToClient ::
    (t.beforeRead ++ .request t.readId .threadRead x.threadId t.readTurns ::
    (t.beforeReadAnswer ++
      .response t.readId false (some x.threadId) t.readForkedFromId t.readSettings ::
    (t.beforeResume ++ .request t.resumeId .threadResume x.threadId t.resumeTurns ::
    (t.beforeResumeAnswer ++
      .response t.resumeId false (some x.threadId) t.parent (some t.settings) :: t.afterResume)))))

namespace ReadinessState

open Recognizer

variable {s next : ReadinessState}

theorem validateTargetResponse_ok {hasError : Bool} {threadId : Option String} {target : String}
    {u : Unit} : validateTargetResponse hasError threadId target = .ok u ↔
      hasError = false ∧ threadId = some target := by
  unfold validateTargetResponse
  simp only [check_bind_eq_ok, bind_eq_ok (α := String), rejectIf_eq_ok, okOr_eq_ok,
    Bool.not_eq_true, not_not]
  constructor
  · rintro ⟨noError, actual, named, rfl⟩
    exact ⟨noError, named⟩
  · rintro ⟨noError, named⟩
    exact ⟨noError, target, named, rfl⟩

@[simp] theorem validateTargetResponse_self (target : String) :
    validateTargetResponse false (some target) target = .ok () :=
  validateTargetResponse_ok.2 ⟨rfl, rfl⟩

theorem validateResumeSettings_ok {actual : Option EffectiveThreadSettings} {x : ReadinessExpectation}
    {settings : EffectiveThreadSettings} : validateResumeSettings actual x = .ok settings ↔
      actual = some settings ∧ x.policy.Satisfied settings := by
  unfold validateResumeSettings ReadinessPolicy.Satisfied
  simp only [check_bind_eq_ok, bind_eq_ok (α := EffectiveThreadSettings), rejectIf_eq_ok, okOr_eq_ok,
    not_not]
  constructor
  · rintro ⟨settings, rfl, matched, ⟨⟩⟩
    refine ⟨rfl, ?_⟩
    cases policy : x.policy <;> simpa [policy] using matched
  · rintro ⟨rfl, matched⟩
    refine ⟨settings, rfl, ?_, rfl⟩
    cases policy : x.policy <;> simpa [policy] using matched

theorem responseCarriesReadinessEvidence_iff {phase : ReadinessPhase} {x : ReadinessExpectation}
    (unready : phase ≠ .ready) {threadId forkedFromId : Option String}
    {settings : Option EffectiveThreadSettings} :
    responseCarriesReadinessEvidence phase x threadId forkedFromId settings = false ↔
      settings = none ∧ forkedFromId = none ∧ threadId ≠ some x.threadId ∧
        (phase.parent = none ∨ threadId ≠ phase.parent) := by
  unfold responseCarriesReadinessEvidence
  by_cases evidence : settings.isSome ∨ forkedFromId.isSome ∨ threadId = some x.threadId
  · simp only [if_neg unready, if_pos evidence, Bool.true_eq_false, false_iff]
    rintro ⟨rfl, rfl, other, -⟩
    simp [other] at evidence
  · simp only [if_neg unready, if_neg evidence]
    simp only [Option.isSome_iff_ne_none, not_or, not_not] at evidence
    cases phase <;> simp [ReadinessPhase.parent, evidence]

theorem observeOther_eq (unready : s.phase ≠ .ready) {threadId forkedFromId : Option String}
    {settings : Option EffectiveThreadSettings} :
    s.observeOther threadId forkedFromId settings =
      if responseCarriesReadinessEvidence s.phase s.expectation threadId forkedFromId settings then
        (.error .unexpectedSequence, s)
      else (.ok false, s) := by
  simp [observeOther, unready]

/-- What a state goes on with, its answer and the state after it. -/
inductive Advances (s : ReadinessState) : ObservedEvent → Bool → ReadinessState → Prop
  | client (h : s.clientHandshake = false) :
    Advances s (.handshake .clientToServer) false { s with clientHandshake := true }
  | server (client : s.clientHandshake = true) (h : s.serverHandshake = false) :
    Advances s (.handshake .serverToClient) false { s with serverHandshake := true }
  | read (h : s.phase = .awaitReadRequest) (connected : s.serverHandshake = true) (id : Json)
      (turns : Option Bool) (valid : s.expectation.policy.readTurns turns = true) :
    Advances s (.request id .threadRead s.expectation.threadId turns) false
      { s with phase := .awaitReadResponse id }
  | readAnswer {id : Json} (h : s.phase = .awaitReadResponse id) (forkedFromId : Option String)
      (settings : Option EffectiveThreadSettings) :
    Advances s (.response id false (some s.expectation.threadId) forkedFromId settings) false
      { s with phase := .awaitResumeRequest }
  | resume (h : s.phase = .awaitResumeRequest) (connected : s.serverHandshake = true) (id : Json)
      (turns : Option Bool) :
    Advances s (.request id .threadResume s.expectation.threadId turns) false
      { s with phase := .awaitResumeResponse id }
  | resumedFork {id : Json} {source : String} {expected settings : EffectiveThreadSettings}
      (h : s.phase = .awaitResumeResponse id) (policy : s.expectation.policy = .syntheticFork source expected)
      (satisfied : s.expectation.policy.Satisfied settings) :
    Advances s (.response id false (some s.expectation.threadId) (some source) (some settings)) false
      { s with phase := .awaitPostResumeReadRequest source true, effectiveSettings := some settings }
  | resumedChild {id : Json} {parent cwd : String} {settings : EffectiveThreadSettings}
      (h : s.phase = .awaitResumeResponse id) (policy : s.expectation.policy = .exactResume cwd)
      (satisfied : s.expectation.policy.Satisfied settings) :
    Advances s (.response id false (some s.expectation.threadId) (some parent) (some settings)) false
      { s with phase := .awaitPostResumeReadRequest parent false, effectiveSettings := some settings }
  | resumedAlone {id : Json} {cwd : String} {settings : EffectiveThreadSettings}
      (h : s.phase = .awaitResumeResponse id) (policy : s.expectation.policy = .exactResume cwd)
      (satisfied : s.expectation.policy.Satisfied settings) :
    Advances s (.response id false (some s.expectation.threadId) none (some settings)) true
      { s with phase := .ready, effectiveSettings := some settings }
  | readParent {parent : String} {requireError : Bool}
      (h : s.phase = .awaitPostResumeReadRequest parent requireError)
      (connected : s.serverHandshake = true) (id : Json) (turns : Option Bool)
      (valid : s.expectation.policy.parentTurns turns = true) :
    Advances s (.request id .threadRead parent turns) false
      { s with phase := .awaitPostResumeReadResponse id parent requireError }
  | parentError {id : Json} {parent : String} {requireError : Bool}
      (h : s.phase = .awaitPostResumeReadResponse id parent requireError) :
    Advances s (.response id true none none none) true { s with phase := .ready }
  | parentAnswer {id : Json} {parent : String}
      (h : s.phase = .awaitPostResumeReadResponse id parent false) (forkedFromId : Option String) :
    Advances s (.response id false (some parent) forkedFromId none) true { s with phase := .ready }

theorem observe_of_advances {e : ObservedEvent} {answer : Bool} (h : s.Advances e answer next) :
    s.observe e = (.ok answer, next) := by
  cases h with
  | client h => simp [observe, h]
  | server client h => simp [observe, client, h]
  | read h connected id turns valid => simp [observe, observeRequest, h, connected, valid]
  | resume h connected => simp [observe, observeRequest, h, connected]
  | readParent h connected id turns valid => simp [observe, observeRequest, h, connected, valid]
  | readAnswer h => simp [observe, observeResponse, h, observeRead]
  | resumedFork h policy satisfied | resumedChild h policy satisfied
  | resumedAlone h policy satisfied =>
    simp [observe, observeResponse, h, observeResumed, validateResumeSettings_ok.2 ⟨rfl, satisfied⟩,
      policy]
  | parentError h => simp [observe, observeResponse, h, observeParent]
  | parentAnswer h => simp [observe, observeResponse, h, observeParent]

theorem observe_of_foreign (unready : s.phase ≠ .ready) {e : ObservedEvent}
    (h : Foreign s.expectation s.serverHandshake s.phase.parent s.phase.awaited e) :
    s.observe e = (.ok false, s) := by
  cases e with
  | handshake | request => cases h
  | providerRequest | providerNotification =>
    have connected : s.serverHandshake = true := h
    simp [observe, connected, unready]
  | response id hasError threadId forkedFromId settings =>
    obtain ⟨other, rest⟩ := h
    have passed : s.observeOther threadId forkedFromId settings = (.ok false, s) := by
      rw [observeOther_eq unready, (responseCarriesReadinessEvidence_iff unready).2 rest]
      rfl
    unfold observe observeResponse
    dsimp only
    split
    all_goals first
      | exact passed
      | (rename_i phase
         simp only [phase, ReadinessPhase.awaited, ne_eq, Option.some.injEq] at other
         rw [if_neg (Ne.symm other)]
         exact passed)

theorem observeRequest_ok {id : Json} {method : ReadinessMethod} {threadId : String}
    {turns : Option Bool} {answer : Bool}
    (h : s.observeRequest id method threadId turns = (.ok answer, next)) :
    s.Advances (.request id method threadId turns) answer next := by
  unfold observeRequest at h
  by_cases connected : s.serverHandshake = true
  · rw [if_neg (not_not.2 connected)] at h
    split at h
    · rename_i phase
      split_ifs at h with other invalid <;> cases h
      obtain rfl : threadId = s.expectation.threadId := by simpa using other
      exact .read phase connected id turns (by simpa using invalid)
    · rename_i phase
      split_ifs at h with other <;> cases h
      obtain rfl : threadId = s.expectation.threadId := by simpa using other
      exact .resume phase connected id turns
    · rename_i phase
      split_ifs at h with other <;> cases h
      obtain ⟨same, valid⟩ := not_or.1 other
      rw [not_not] at same valid
      subst same
      exact .readParent phase connected id turns valid
    · cases h
  · simp only [connected] at h
    cases h

theorem observeOther_ok (unready : s.phase ≠ .ready) {threadId forkedFromId : Option String}
    {settings : Option EffectiveThreadSettings} {answer : Bool}
    (h : s.observeOther threadId forkedFromId settings = (.ok answer, next)) :
    answer = false ∧ next = s ∧ settings = none ∧ forkedFromId = none ∧
      threadId ≠ some s.expectation.threadId ∧ (s.phase.parent = none ∨ threadId ≠ s.phase.parent) := by
  rw [observeOther_eq unready] at h
  split_ifs at h with evidence
  · cases h
  · cases h
    exact ⟨rfl, rfl, (responseCarriesReadinessEvidence_iff unready).1 (by simpa using evidence)⟩

theorem observeRead_ok {id : Json} {hasError : Bool} {threadId forkedFromId : Option String}
    {settings : Option EffectiveThreadSettings} {answer : Bool} (phase : s.phase = .awaitReadResponse id)
    (h : s.observeRead hasError threadId = (.ok answer, next)) :
    s.Advances (.response id hasError threadId forkedFromId settings) answer next := by
  unfold observeRead at h
  split at h
  · cases h
  · rename_i valid
    obtain ⟨rfl, rfl⟩ := validateTargetResponse_ok.1 valid
    cases h
    exact .readAnswer phase forkedFromId settings

theorem observeResumed_ok {id : Json} {hasError : Bool} {threadId forkedFromId : Option String}
    {settings : Option EffectiveThreadSettings} {answer : Bool}
    (phase : s.phase = .awaitResumeResponse id)
    (h : s.observeResumed hasError threadId forkedFromId settings = (.ok answer, next)) :
    s.Advances (.response id hasError threadId forkedFromId settings) answer next := by
  unfold observeResumed at h
  split at h
  · cases h
  · rename_i valid
    obtain ⟨rfl, rfl⟩ := validateTargetResponse_ok.1 valid
    split at h
    · cases h
    · rename_i valid
      obtain ⟨rfl, satisfied⟩ := validateResumeSettings_ok.1 valid
      dsimp only at h
      cases policy : s.expectation.policy with
      | syntheticFork source expected =>
        rw [policy] at h
        dsimp only at h
        split_ifs at h with same
        · cases h
        · cases h
          rw [not_not] at same
          subst same
          exact .resumedFork phase policy satisfied
      | exactResume cwd =>
        rw [policy] at h
        cases forkedFromId with
        | none =>
          cases h
          exact .resumedAlone phase policy satisfied
        | some parent =>
          cases h
          exact .resumedChild phase policy satisfied

theorem observeParent_ok {id : Json} {parent : String} {requireError hasError : Bool}
    {threadId forkedFromId : Option String} {settings : Option EffectiveThreadSettings} {answer : Bool}
    (phase : s.phase = .awaitPostResumeReadResponse id parent requireError)
    (h : s.observeParent parent requireError hasError threadId forkedFromId settings =
      (.ok answer, next)) :
    s.Advances (.response id hasError threadId forkedFromId settings) answer next := by
  unfold observeParent at h
  split_ifs at h with error named excluded
  · cases h
  · cases h
    simp only [not_or, Option.not_isSome_iff_eq_none] at named
    obtain ⟨rfl, rfl, rfl⟩ := named
    subst error
    exact .parentError phase
  · cases h
  · obtain ⟨lenient, unset⟩ := not_or.1 excluded
    obtain rfl : requireError = false := by simpa using lenient
    obtain rfl : hasError = false := by simpa using error
    obtain rfl : settings = none := by simpa using unset
    split at h
    · cases h
    · rename_i valid
      obtain ⟨-, rfl⟩ := validateTargetResponse_ok.1 valid
      cases h
      exact .parentAnswer phase forkedFromId

/-- A state that is not ready goes on, or leaves foreign traffic aside, or fails. -/
theorem observe_ok (unready : s.phase ≠ .ready) {e : ObservedEvent} {answer : Bool} :
    s.observe e = (.ok answer, next) ↔ s.Advances e answer next ∨
      answer = false ∧ next = s ∧
        Foreign s.expectation s.serverHandshake s.phase.parent s.phase.awaited e := by
  constructor
  · intro h
    cases e with
    | handshake direction =>
      left
      cases direction with
      | clientToServer =>
        cases client : s.clientHandshake with
        | true => simp [observe, client] at h
        | false =>
          simp only [observe, client] at h
          cases h
          exact .client client
      | serverToClient =>
        unfold observe at h
        dsimp only at h
        split_ifs at h with connects
        · cases h
          exact .server connects.1 (by simpa using connects.2)
        · cases h
    | request id method threadId turns => exact .inl (observeRequest_ok h)
    | providerRequest | providerNotification =>
      right
      unfold observe at h
      dsimp only at h
      split_ifs at h with connected
      · simp only [unready, decide_false] at h
        cases h
        exact ⟨rfl, rfl, connected⟩
      · cases h
    | response id hasError threadId forkedFromId settings =>
      have passes : s.phase.awaited ≠ some id →
          s.observeOther threadId forkedFromId settings = (.ok answer, next) →
          answer = false ∧ next = s ∧ Foreign s.expectation s.serverHandshake s.phase.parent
            s.phase.awaited (.response id hasError threadId forkedFromId settings) := by
        intro other passed
        obtain ⟨rfl, rfl, rest⟩ := observeOther_ok unready passed
        exact ⟨rfl, rfl, other, rest⟩
      unfold observe observeResponse at h
      dsimp only at h
      split at h
      · rename_i expected phase
        split_ifs at h with same
        · subst same
          exact .inl (observeRead_ok phase h)
        · refine .inr (passes ?_ h)
          simpa [phase, ReadinessPhase.awaited] using Ne.symm same
      · rename_i expected phase
        split_ifs at h with same
        · subst same
          exact .inl (observeResumed_ok phase h)
        · refine .inr (passes ?_ h)
          simpa [phase, ReadinessPhase.awaited] using Ne.symm same
      · rename_i expected parent requireError phase
        split_ifs at h with same
        · subst same
          exact .inl (observeParent_ok phase h)
        · refine .inr (passes ?_ h)
          simpa [phase, ReadinessPhase.awaited] using Ne.symm same
      · refine .inr (passes ?_ h)
        cases phase : s.phase <;> simp_all [ReadinessPhase.awaited]
  · rintro (advances | ⟨rfl, rfl, foreign⟩)
    · exact observe_of_advances advances
    · exact observe_of_foreign unready foreign

theorem Advances.ne {e : ObservedEvent} {answer : Bool} (h : s.Advances e answer next) : next ≠ s := by
  intro same
  have client := congrArg clientHandshake same
  have server := congrArg serverHandshake same
  have phase := congrArg ReadinessState.phase same
  cases h with
  | client h => simp [h] at client
  | server _ h => simp [h] at server
  | read h | readAnswer h | resume h | resumedFork h | resumedChild h | resumedAlone h | readParent h
  | parentError h | parentAnswer h => simp [h] at phase

/-- Foreign traffic goes by until the state goes on. -/
theorem accepts_observe (unready : s.phase ≠ .ready) {es : List ObservedEvent}
    {final : ReadinessState} :
    accepts observe s es = some final ↔
      ∃ passed e rest, es = passed ++ e :: rest ∧
        (∀ x ∈ passed, Foreign s.expectation s.serverHandshake s.phase.parent s.phase.awaited x) ∧
        (s.Advances e true final ∧ rest = [] ∨
          ∃ next, s.Advances e false next ∧ accepts observe next rest = some final) := by
  have passes : ∀ e, Passes observe s e ↔
      Foreign s.expectation s.serverHandshake s.phase.parent s.phase.awaited e := by
    intro e
    refine (observe_ok unready).trans ⟨?_, fun foreign => .inr ⟨rfl, rfl, foreign⟩⟩
    rintro (advances | ⟨-, -, foreign⟩)
    · exact absurd rfl advances.ne
    · exact foreign
  have moves : ∀ e next, Moves observe s e next ↔ s.Advances e false next := by
    intro e next
    constructor
    · rintro ⟨moved, other⟩
      exact ((observe_ok unready).1 moved).resolve_right fun passed => other passed.2.1
    · exact fun advances => ⟨observe_of_advances advances, advances.ne⟩
  have yes : ∀ e, s.observe e = (.ok true, final) ↔ s.Advances e true final := by
    intro e
    refine (observe_ok unready).trans ⟨fun h => h.resolve_right ?_, .inl⟩
    exact fun passed => absurd passed.1 (by decide)
  rw [accepts_iff]
  simp only [passes, moves, yes]

/-- The state of a check that has said yes. -/
def readyWith (x : ReadinessExpectation) (settings : EffectiveThreadSettings) : ReadinessState where
  expectation := x
  clientHandshake := true
  serverHandshake := true
  phase := .ready
  effectiveSettings := some settings

/-! ### From the end of a transcript to its start -/

section Soundness

variable {x : ReadinessExpectation} {es : List ObservedEvent} {final : ReadinessState}
  {kept : Option EffectiveThreadSettings}

/-- A parent read answers strictly under the policy of a synthetic fork. -/
def Strict (x : ReadinessExpectation) (strict : Bool) : Prop :=
  match x.policy with
  | .syntheticFork _ _ => strict = true
  | .exactResume _ => strict = false

theorem accepts_parentAnswer {id : Json} {parent : String} {strict : Bool} (policy : Strict x strict) :
    accepts observe ⟨x, true, true, .awaitPostResumeReadResponse id parent strict, kept⟩ es =
      some final ↔
      ∃ passed hasError threadId forkedFromId,
        es = passed ++ [.response id hasError threadId forkedFromId none] ∧
        (∀ e ∈ passed, Foreign x true (some parent) (some id) e) ∧
        x.policy.ParentAnswer parent hasError threadId forkedFromId ∧
        final = ⟨x, true, true, .ready, kept⟩ := by
  rw [accepts_observe (by simp)]
  constructor
  · rintro ⟨passed, e, rest, rfl, foreign, ⟨advances, rfl⟩ | ⟨next, advances, -⟩⟩
    · cases advances
      case parentError h =>
        cases h
        refine ⟨passed, true, none, none, rfl, foreign, ?_, rfl⟩
        unfold ReadinessPolicy.ParentAnswer
        split <;> simp
      case parentAnswer h forkedFromId =>
        cases h
        refine ⟨passed, false, some parent, forkedFromId, rfl, foreign, ?_, rfl⟩
        unfold Strict at policy
        unfold ReadinessPolicy.ParentAnswer
        split <;> simp_all
      all_goals contradiction
    · cases advances <;> contradiction
  · rintro ⟨passed, hasError, threadId, forkedFromId, rfl, foreign, answers, rfl⟩
    refine ⟨passed, _, [], rfl, foreign, .inl ⟨?_, rfl⟩⟩
    unfold Strict at policy
    unfold ReadinessPolicy.ParentAnswer at answers
    split at answers
    · obtain ⟨rfl, rfl, rfl⟩ := answers
      exact .parentError rfl
    · rename_i resume
      rw [resume] at policy
      obtain rfl : strict = false := policy
      rcases answers with ⟨rfl, rfl, rfl⟩ | ⟨rfl, rfl⟩
      · exact .parentError rfl
      · exact .parentAnswer rfl forkedFromId

theorem accepts_parentRead {parent : String} {strict : Bool} (policy : Strict x strict) :
    accepts observe ⟨x, true, true, .awaitPostResumeReadRequest parent strict, kept⟩ es = some final ↔
      (∃ t : ParentRead x parent, es = t.events) ∧ final = ⟨x, true, true, .ready, kept⟩ := by
  rw [accepts_observe (by simp)]
  constructor
  · rintro ⟨beforeRead, e, rest, rfl, foreignRead, ⟨advances, rfl⟩ | ⟨next, advances, accepted⟩⟩
    · cases advances <;> contradiction
    · cases advances
      case readParent h connected id turns valid =>
        cases h
        obtain ⟨beforeAnswer, hasError, threadId, forkedFromId, rfl, foreignAnswer, answers, same⟩ :=
          (accepts_parentAnswer policy).1 accepted
        exact ⟨⟨⟨beforeRead, id, turns, beforeAnswer, hasError, threadId, forkedFromId, foreignRead,
          valid, foreignAnswer, answers⟩, rfl⟩, same⟩
      all_goals contradiction
  · rintro ⟨⟨t, rfl⟩, rfl⟩
    refine ⟨t.beforeRead, _, _, rfl, t.foreignRead, .inr ⟨_, .readParent rfl rfl _ _ t.turns, ?_⟩⟩
    exact (accepts_parentAnswer policy).2
      ⟨_, _, _, _, rfl, t.foreignAnswer, t.answers, rfl⟩

theorem accepts_resumeAnswer {id : Json} :
    accepts observe ⟨x, true, true, .awaitResumeResponse id, kept⟩ es = some final ↔
      ∃ passed parent settings rest,
        es = passed ++ .response id false (some x.threadId) parent (some settings) :: rest ∧
        (∀ e ∈ passed, Foreign x true none (some id) e) ∧ x.policy.Satisfied settings ∧
        x.policy.Admits parent ∧ Follows x parent rest ∧ final = readyWith x settings := by
  rw [accepts_observe (by simp)]
  constructor
  · rintro ⟨passed, e, rest, rfl, foreign, ⟨advances, rfl⟩ | ⟨next, advances, accepted⟩⟩
    · cases advances
      case resumedAlone settings h policy satisfied =>
        cases h
        refine ⟨passed, none, settings, [], rfl, foreign, satisfied, ?_, rfl, rfl⟩
        dsimp only at policy
        simp [ReadinessPolicy.Admits, policy]
      all_goals contradiction
    · cases advances
      case resumedFork source expected settings h policy satisfied =>
        cases h
        dsimp only at policy accepted
        obtain ⟨read, same⟩ := (accepts_parentRead (by simp [Strict, policy])).1 accepted
        refine ⟨passed, some source, settings, rest, rfl, foreign, satisfied, ?_, read, same⟩
        simp [ReadinessPolicy.Admits, policy]
      case resumedChild parent cwd settings h policy satisfied =>
        cases h
        dsimp only at policy accepted
        obtain ⟨read, same⟩ := (accepts_parentRead (by simp [Strict, policy])).1 accepted
        refine ⟨passed, some parent, settings, rest, rfl, foreign, satisfied, ?_, read, same⟩
        simp [ReadinessPolicy.Admits, policy]
      all_goals contradiction
  · rintro ⟨passed, parent, settings, rest, rfl, foreign, satisfied, admitted, follows, rfl⟩
    refine ⟨passed, _, rest, rfl, foreign, ?_⟩
    cases policy : x.policy with
    | syntheticFork source expected =>
      obtain rfl : parent = some source := by simpa [ReadinessPolicy.Admits, policy] using admitted
      exact .inr ⟨_, .resumedFork rfl policy satisfied,
        (accepts_parentRead (by simp [Strict, policy])).2 ⟨follows, rfl⟩⟩
    | exactResume cwd =>
      cases parent with
      | none => exact .inl ⟨.resumedAlone rfl policy satisfied, follows⟩
      | some parent =>
        exact .inr ⟨_, .resumedChild rfl policy satisfied,
          (accepts_parentRead (by simp [Strict, policy])).2 ⟨follows, rfl⟩⟩

theorem accepts_resume :
    accepts observe ⟨x, true, true, .awaitResumeRequest, kept⟩ es = some final ↔
      ∃ passed id turns rest, es = passed ++ .request id .threadResume x.threadId turns :: rest ∧
        (∀ e ∈ passed, Foreign x true none none e) ∧
        accepts observe ⟨x, true, true, .awaitResumeResponse id, kept⟩ rest = some final := by
  rw [accepts_observe (by simp)]
  constructor
  · rintro ⟨passed, e, rest, rfl, foreign, ⟨advances, rfl⟩ | ⟨next, advances, accepted⟩⟩
    · cases advances <;> contradiction
    · cases advances
      case resume h connected id turns => exact ⟨passed, id, turns, rest, rfl, foreign, accepted⟩
      all_goals contradiction
  · rintro ⟨passed, id, turns, rest, rfl, foreign, accepted⟩
    exact ⟨passed, _, rest, rfl, foreign, .inr ⟨_, .resume rfl rfl id turns, accepted⟩⟩

theorem accepts_readAnswer {id : Json} :
    accepts observe ⟨x, true, true, .awaitReadResponse id, kept⟩ es = some final ↔
      ∃ passed forkedFromId settings rest,
        es = passed ++ .response id false (some x.threadId) forkedFromId settings :: rest ∧
        (∀ e ∈ passed, Foreign x true none (some id) e) ∧
        accepts observe ⟨x, true, true, .awaitResumeRequest, kept⟩ rest = some final := by
  rw [accepts_observe (by simp)]
  constructor
  · rintro ⟨passed, e, rest, rfl, foreign, ⟨advances, rfl⟩ | ⟨next, advances, accepted⟩⟩
    · cases advances <;> contradiction
    · cases advances
      case readAnswer h forkedFromId settings =>
        cases h
        exact ⟨passed, forkedFromId, settings, rest, rfl, foreign, accepted⟩
      all_goals contradiction
  · rintro ⟨passed, forkedFromId, settings, rest, rfl, foreign, accepted⟩
    exact ⟨passed, _, rest, rfl, foreign, .inr ⟨_, .readAnswer rfl forkedFromId settings, accepted⟩⟩

theorem accepts_read :
    accepts observe ⟨x, true, true, .awaitReadRequest, kept⟩ es = some final ↔
      ∃ passed id turns rest, es = passed ++ .request id .threadRead x.threadId turns :: rest ∧
        (∀ e ∈ passed, Foreign x true none none e) ∧ x.policy.readTurns turns = true ∧
        accepts observe ⟨x, true, true, .awaitReadResponse id, kept⟩ rest = some final := by
  rw [accepts_observe (by simp)]
  constructor
  · rintro ⟨passed, e, rest, rfl, foreign, ⟨advances, rfl⟩ | ⟨next, advances, accepted⟩⟩
    · cases advances <;> contradiction
    · cases advances
      case read h connected id turns valid =>
        exact ⟨passed, id, turns, rest, rfl, foreign, valid, accepted⟩
      all_goals contradiction
  · rintro ⟨passed, id, turns, rest, rfl, foreign, valid, accepted⟩
    exact ⟨passed, _, rest, rfl, foreign, .inr ⟨_, .read rfl rfl id turns valid, accepted⟩⟩

theorem accepts_handshakes :
    accepts observe (new x) es = some final ↔
      ∃ beforeClient beforeServer rest,
        es = beforeClient ++ .handshake .clientToServer ::
          (beforeServer ++ .handshake .serverToClient :: rest) ∧
        (∀ e ∈ beforeClient, Foreign x false none none e) ∧
        (∀ e ∈ beforeServer, Foreign x false none none e) ∧
        accepts observe ⟨x, true, true, .awaitReadRequest, none⟩ rest = some final := by
  rw [new, accepts_observe (by simp)]
  constructor
  · rintro ⟨passed, e, rest, rfl, foreign, ⟨advances, rfl⟩ | ⟨next, advances, accepted⟩⟩
    · cases advances <;> contradiction
    · cases advances
      case client h =>
        obtain ⟨passed', e, rest, rfl, foreign', ⟨advances, rfl⟩ | ⟨next, advances, accepted⟩⟩ :=
          (accepts_observe (by simp)).1 accepted
        · cases advances <;> contradiction
        · cases advances
          case server connected h => exact ⟨passed, passed', rest, rfl, foreign, foreign', accepted⟩
          all_goals contradiction
      all_goals contradiction
  · rintro ⟨passed, passed', rest, rfl, foreign, foreign', accepted⟩
    refine ⟨passed, _, _, rfl, foreign, .inr ⟨_, .client rfl, ?_⟩⟩
    rw [accepts_observe (by simp)]
    exact ⟨passed', _, rest, rfl, foreign', .inr ⟨_, .server rfl rfl, accepted⟩⟩

/-- A check says yes at the end of its transcripts, with the settings of the resumed thread, and at no
other events. -/
theorem accepts_iff_transcript :
    accepts observe (new x) es = some final ↔
      ∃ t : ReadyTranscript x, es = t.events ∧ final = readyWith x t.settings := by
  rw [accepts_handshakes]
  constructor
  · rintro ⟨beforeClient, beforeServer, rest, rfl, foreignClient, foreignServer, accepted⟩
    obtain ⟨beforeRead, readId, readTurns, rest, rfl, foreignRead, turns, accepted⟩ :=
      accepts_read.1 accepted
    obtain ⟨beforeReadAnswer, readForkedFromId, readSettings, rest, rfl, foreignReadAnswer,
      accepted⟩ := accepts_readAnswer.1 accepted
    obtain ⟨beforeResume, resumeId, resumeTurns, rest, rfl, foreignResume, accepted⟩ :=
      accepts_resume.1 accepted
    obtain ⟨beforeResumeAnswer, parent, settings, afterResume, rfl, foreignResumeAnswer, satisfied,
      admitted, follows, rfl⟩ := accepts_resumeAnswer.1 accepted
    exact ⟨{
      beforeClient, beforeServer, beforeRead, readId, readTurns, beforeReadAnswer, readForkedFromId
      readSettings, beforeResume, resumeId, resumeTurns, beforeResumeAnswer, parent, settings
      afterResume, foreignClient, foreignServer, foreignRead, turns, foreignReadAnswer, foreignResume
      foreignResumeAnswer, satisfied, admitted, follows }, rfl, rfl⟩
  · rintro ⟨t, rfl, rfl⟩
    refine ⟨_, _, _, rfl, t.foreignClient, t.foreignServer, ?_⟩
    refine accepts_read.2 ⟨_, _, _, _, rfl, t.foreignRead, t.turns, ?_⟩
    refine accepts_readAnswer.2 ⟨_, _, _, _, rfl, t.foreignReadAnswer, ?_⟩
    refine accepts_resume.2 ⟨_, _, _, _, rfl, t.foreignResume, ?_⟩
    exact accepts_resumeAnswer.2 ⟨_, _, _, _, rfl, t.foreignResumeAnswer, t.satisfied, t.admitted,
      t.follows, rfl⟩

end Soundness

end ReadinessState

/-! ## From messages to events -/

/-- A message resumes a thread by its id: there is no history, and no path or an empty one. -/
def ResumesByThreadId (message : Option Json) (id : Json) (threadId : String) : Prop :=
  ∃ object params, message = some (.obj object) ∧ member object "id" = some id ∧
    member object "method" = some (.str "thread/resume") ∧ member object "params" = some (.obj params) ∧
    member params "threadId" = some (.str threadId) ∧
    (member params "history" = none ∨ member params "history" = some .null) ∧
    (member params "path" = none ∨ member params "path" = some .null ∨
      member params "path" = some (.str ""))

theorem isAbsent_iff {value : Option Json} : isAbsent value = true ↔ value = none ∨ value = some .null := by
  unfold isAbsent
  cases value with
  | none => simp
  | some value => cases value <;> simp [isNull]

theorem asStr_eq_some {value : Json} {text : String} : value.asStr = some text ↔ value = .str text := by
  cases value <;> simp [asStr]

theorem asObject_eq_some {value : Json} {members : List (String × Json)} :
    value.asObject = some members ↔ value = .obj members := by
  cases value <;> simp [asObject]

theorem resumeUsesThreadId_iff {params : List (String × Json)} :
    resumeUsesThreadId params = true ↔
      (member params "history" = none ∨ member params "history" = some .null) ∧
      (member params "path" = none ∨ member params "path" = some .null ∨
        member params "path" = some (.str "")) := by
  unfold resumeUsesThreadId
  simp only [decide_eq_true_eq, isAbsent_iff, Option.bind_eq_some_iff, asStr_eq_some,
    exists_eq_right, or_assoc]

theorem readinessMethod_resume {name : String} (h : readinessMethod name = some .threadResume) :
    name = "thread/resume" := by
  unfold readinessMethod at h
  split_ifs at h with read resume
  · cases h
  · exact resume

theorem inspectRequest_ok {object : List (String × Json)} {method : ReadinessMethod}
    {e : ObservedEvent} (h : inspectRequest object method = .ok e) :
    ∃ id params threadId turns, e = .request id method threadId turns ∧ member object "id" = some id ∧
      member object "params" = some (.obj params) ∧ member params "threadId" = some (.str threadId) ∧
      (method = .threadResume → resumeUsesThreadId params = true) := by
  unfold inspectRequest at h
  obtain ⟨id, hasId, h⟩ := bind_eq_ok.1 h
  obtain ⟨params, hasParams, h⟩ := bind_eq_ok.1 h
  obtain ⟨threadId, hasThread, h⟩ := bind_eq_ok.1 h
  obtain ⟨turns, -, h⟩ := bind_eq_ok.1 h
  obtain ⟨byThread, pushed⟩ := check_bind_eq_ok.1 h
  cases pushed
  rw [okOr_eq_ok, Option.filter_eq_some_iff] at hasId
  rw [okOr_eq_ok, Option.bind_eq_some_iff] at hasParams
  rw [okOr_eq_ok, Option.filter_eq_some_iff, Option.bind_eq_some_iff] at hasThread
  obtain ⟨value, found, same⟩ := hasParams
  obtain ⟨⟨text, named, same'⟩, -⟩ := hasThread
  rw [asObject_eq_some.1 same] at found
  rw [asStr_eq_some.1 same'] at named
  rw [rejectIf_eq_ok, not_and, not_not] at byThread
  exact ⟨id, params, threadId, turns, rfl, hasId.1, found, named, byThread⟩

theorem inspectClient_resume {object : List (String × Json)} {events events' : List ObservedEvent}
    (h : inspectClient object events = .ok events') {id : Json} {threadId : String}
    {turns : Option Bool} (resumes : .request id .threadResume threadId turns ∈ events') :
    .request id .threadResume threadId turns ∈ events ∨
      ResumesByThreadId (some (.obj object)) id threadId := by
  unfold inspectClient at h
  cases named : member object "method" with
  | none =>
    rw [named] at h
    obtain ⟨-, same⟩ := check_bind_eq_ok.1 h
    cases same
    exact .inl resumes
  | some value =>
    rw [named] at h
    obtain ⟨name, text, h⟩ := bind_eq_ok.1 h
    obtain ⟨-, h⟩ := check_bind_eq_ok.1 h
    rw [okOr_eq_ok, Option.filter_eq_some_iff] at text
    cases known : readinessMethod name with
    | none =>
      rw [known] at h
      cases h
      exact .inl resumes
    | some method =>
      rw [known] at h
      obtain ⟨e, request, pushed⟩ := bind_eq_ok.1 h
      cases pushed
      rcases List.mem_append.1 resumes with before | now
      · exact .inl before
      obtain ⟨id', params, threadId', turns', rfl, hasId, hasParams, hasThread, byThread⟩ :=
        inspectRequest_ok request
      obtain ⟨rfl, rfl, rfl, rfl⟩ : id = id' ∧ method = .threadResume ∧ threadId = threadId' ∧
          turns = turns' := by simpa [eq_comm] using now
      rw [asStr_eq_some.1 text.1, readinessMethod_resume known] at named
      exact .inr ⟨object, params, rfl, hasId, named, hasParams, hasThread,
        resumeUsesThreadId_iff.1 (byThread rfl)⟩

theorem inspectResponse_ok {object : List (String × Json)} {id : Json} {e : ObservedEvent}
    (h : inspectResponse object id = .ok e) :
    ∃ hasError threadId forkedFromId settings, e = .response id hasError threadId forkedFromId settings := by
  unfold inspectResponse at h
  obtain ⟨-, h⟩ := check_bind_eq_ok.1 h
  obtain ⟨hasError, -, h⟩ := bind_eq_ok.1 h
  obtain ⟨-, h⟩ := check_bind_eq_ok.1 h
  obtain ⟨⟨threadId, forkedFromId⟩, -, h⟩ := bind_eq_ok.1 h
  obtain ⟨settings, -, h⟩ := bind_eq_ok.1 h
  cases h
  exact ⟨_, _, _, _, rfl⟩

/-- The server sends no request of the client. -/
theorem inspectServer_request {object : List (String × Json)} {events events' : List ObservedEvent}
    (h : inspectServer object events = .ok events') {id : Json} {method : ReadinessMethod}
    {threadId : String} {turns : Option Bool} (request : .request id method threadId turns ∈ events') :
    .request id method threadId turns ∈ events := by
  unfold inspectServer at h
  cases named : member object "method" with
  | none =>
    rw [named] at h
    obtain ⟨id', -, h⟩ := bind_eq_ok.1 h
    obtain ⟨e, response, pushed⟩ := bind_eq_ok.1 h
    cases pushed
    obtain ⟨_, _, _, _, rfl⟩ := inspectResponse_ok response
    simpa using request
  | some value =>
    rw [named] at h
    obtain ⟨name, -, h⟩ := bind_eq_ok.1 h
    obtain ⟨-, h⟩ := check_bind_eq_ok.1 h
    cases hasId : member object "id" with
    | none =>
      rw [hasId] at h
      cases h
      simpa using request
    | some id' =>
      rw [hasId] at h
      dsimp only at h
      split_ifs at h
      cases h
      simpa using request

/-- Every resume that the check sees comes from a message that resumes by the thread id. -/
theorem inspectMessage_resume {fromSlice : List UInt8 → Option Json} {direction : Direction}
    {bytes : List UInt8} {events events' : List ObservedEvent}
    (h : inspectMessage fromSlice direction bytes events = .ok events') {id : Json} {threadId : String}
    {turns : Option Bool} (resumes : .request id .threadResume threadId turns ∈ events') :
    .request id .threadResume threadId turns ∈ events ∨
      ResumesByThreadId (decodeUnique fromSlice bytes) id threadId := by
  unfold inspectMessage at h
  obtain ⟨message, decoded, h⟩ := bind_eq_ok.1 h
  obtain ⟨object, isObject, h⟩ := bind_eq_ok.1 h
  rw [okOr_eq_ok] at decoded isObject
  rw [decoded, asObject_eq_some.1 isObject]
  cases direction with
  | clientToServer => exact inspectClient_resume h resumes
  | serverToClient => exact .inl (inspectServer_request h resumes)

/-- A readiness check says yes exactly at the end of a `ReadyTranscript`, with the settings of the resumed
thread, and the resumes that it sees name a thread and neither a history nor a path. -/
theorem readiness_transcript (fromSlice : List UInt8 → Option Json) (x : ReadinessExpectation) :
    (∀ es final, Recognizer.accepts ReadinessState.observe (.new x) es = some final ↔
      ∃ t : ReadyTranscript x, es = t.events ∧ final = ReadinessState.readyWith x t.settings) ∧
    ∀ direction bytes events events', inspectMessage fromSlice direction bytes events = .ok events' →
      ∀ id threadId turns, .request id .threadResume threadId turns ∈ events' →
        .request id .threadResume threadId turns ∈ events ∨
          ResumesByThreadId (decodeUnique fromSlice bytes) id threadId := by
  refine ⟨fun es final => ReadinessState.accepts_iff_transcript, ?_⟩
  intro direction bytes events events' h id threadId turns resumes
  exact inspectMessage_resume h resumes

/-- A resume of a thread that has no parent. -/
example : Recognizer.accepts ReadinessState.observe (.new ⟨"t", .exactResume sampleSettings.cwd⟩)
    [.handshake .clientToServer, .handshake .serverToClient, .request (.int 1) .threadRead "t" none,
      .providerNotification "turn/started", .response (.int 1) false (some "t") none none,
      .request (.int 2) .threadResume "t" none,
      .response (.int 2) false (some "t") none (some sampleSettings)] =
    some (ReadinessState.readyWith ⟨"t", .exactResume sampleSettings.cwd⟩ sampleSettings) := by
  decide

end Readiness

end Calcifer
