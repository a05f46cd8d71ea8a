import Calcifer.Codex.Usage

/-!
# The usage monitor

The observe-only protocol kernel of the usage monitor. `MonitorProtocol.receive` takes a message of
the app server and `MonitorProtocol.requestRefresh` a timer; both answer with the actions of the
transport. A usage read is in flight or not, and `dirty` remembers that the usage changed under it.

The home of the session may be replaced at any time: a call says whether the home is still the
captured one, and the first that says no is final. Paths are resolved by the file system of the call.
-/

namespace Calcifer

open Checks Json Serde

inductive MonitorCommand where
  | initializeSession (requestId : ℕ)
  | initialized
  | readUsage (requestId : ℕ)
deriving DecidableEq, Repr

inductive MonitorAction where
  | outbound (command : MonitorCommand)
  | publishUsage (usage : CodexUsage)
  | usageLimitExceeded (threadId turnId : String)
deriving DecidableEq, Repr

inductive MonitorError where
  | invalidArgument
  | invalidMessage
  | unexpectedSequence
  | homeIdentityChanged
  | usage (error : CodexUsageError)
deriving DecidableEq, Repr

inductive MonitorState where
  | awaitInitialize (requestId : ℕ)
  | observing (inFlight : Option ℕ) (dirty : Bool)
  | failed (error : MonitorError)
deriving DecidableEq, Repr

/-- What a monitor may know of its session. -/
structure MonitorSessionCapability where
  selectedCodexHome : String
  targetThreadId : String
deriving DecidableEq, Repr

structure MonitorProtocol where
  state : MonitorState
  session : MonitorSessionCapability
  homeIdentityFailed : Bool
  nextRequestId : ℕ
  latestUsage : Option CodexUsage
deriving DecidableEq, Repr

def initializeRequestId : ℕ := 0
def firstUsageRequestId : ℕ := 1
def maxMessageBytes : ℕ := 1024 * 1024
def maxIdentifierBytes : ℕ := 256
def maxMethodBytes : ℕ := 256
def maxErrorKindBytes : ℕ := 128
def maxTurnStatusBytes : ℕ := 64
def maxRpcErrorMessageBytes : ℕ := 1024
def maxRateLimitBuckets : ℕ := 64
def maxResetCreditDetails : ℕ := 64
def maxUsageTextBytes : ℕ := 256
def maxDecimalBytes : ℕ := 128
def maxProviderTimestampSeconds : ℤ := 253402300799

/-! ## Checks on values -/

def validText (value : String) (maxBytes : ℕ) : Bool := validBoundedText value maxBytes

def validIdentifier (value : String) : Bool := validText value maxIdentifierBytes

def validUuid (value : String) : Bool :=
  validIdentifier value ∧ (Uuid.parseStr value).any fun parsed => parsed.toString = value

def validRequestId (id : Json) : Bool :=
  (id.asStr.any fun id => validText id maxIdentifierBytes) ∨ id.asI64.isSome ∨ (unsigned 64 id).isSome

def validDecimal (value : String) : Bool :=
  let text := value.toList
  let digits (part : List Char) : Bool := part ≠ [] ∧ part.all Char.isDigit
  if text = [] ∨ maxDecimalBytes < text.length ∨ ¬text.all (fun c => c.toNat < 128) then false
  else match (if text.head? = some '-' then text.tail else text).splitOn '.' with
    | [integer] => digits integer
    | [integer, fraction] => digits integer ∧ digits fraction
    | _ => false

def validateRequiredProviderTimestamp (object : List (String × Json)) (key : String) :
    Except MonitorError ℤ := do
  let timestamp ← okOr ((member object key).bind asI64) .invalidMessage
  rejectIf (¬(0 ≤ timestamp ∧ timestamp ≤ maxProviderTimestampSeconds)) .invalidMessage
  return timestamp

def validateOptionalProviderTimestamp (object : List (String × Json)) (key : String) :
    Except MonitorError (Option ℤ) :=
  match member object key with
  | none | some .null => pure none
  | some _ => some <$> validateRequiredProviderTimestamp object key

/-- Bound a text. A value of another type is left to the reader of the usage. -/
def validateOptionalText (object : List (String × Json)) (key : String) (maxBytes : ℕ) :
    Except MonitorError Unit :=
  match member object key with
  | some (.str value) => rejectIf (¬validText value maxBytes) .invalidMessage
  | _ => pure ()

def validateRequiredDecimal (object : List (String × Json)) (key : String) :
    Except MonitorError Unit := do
  let value ← okOr ((member object key).bind asStr) .invalidMessage
  rejectIf (¬validDecimal value) .invalidMessage

def validateOptionalDecimal (object : List (String × Json)) (key : String) :
    Except MonitorError Unit :=
  match member object key with
  | none | some .null => pure ()
  | some _ => validateRequiredDecimal object key

/-- The object under a name, when there is one. -/
def objectMember (object : List (String × Json)) (key : String) : Option (List (String × Json)) :=
  (member object key).bind asObject

def validateRateLimitSnapshot (snapshot : List (String × Json)) : Except MonitorError Unit := do
  forEach ["limitId", "limitName", "planType", "rateLimitReachedType"] fun _ key =>
    validateOptionalText snapshot key maxUsageTextBytes
  if let some credits := objectMember snapshot "credits" then
    validateOptionalDecimal credits "balance"
  if let some individual := objectMember snapshot "individualLimit" then do
    validateRequiredDecimal individual "limit"
    validateRequiredDecimal individual "used"
    discard <| validateRequiredProviderTimestamp individual "resetsAt"
  forEach ["primary", "secondary"] fun _ window =>
    match objectMember snapshot window with
    | some window => discard <| validateOptionalProviderTimestamp window "resetsAt"
    | none => pure ()

def validateResetCreditDetail (detail : List (String × Json)) : Except MonitorError Unit := do
  validateOptionalText detail "resetType" maxUsageTextBytes
  validateOptionalText detail "status" maxUsageTextBytes
  let grantedAt ← validateRequiredProviderTimestamp detail "grantedAt"
  let expiresAt ← validateOptionalProviderTimestamp detail "expiresAt"
  rejectIf (expiresAt.any (· < grantedAt)) .invalidMessage

def validateUsageResult (result : Json) : Except MonitorError Unit := do
  let result ← okOr result.asObject .invalidMessage
  if let some snapshot := objectMember result "rateLimits" then
    validateRateLimitSnapshot snapshot
  if let some byLimitId := objectMember result "rateLimitsByLimitId" then do
    rejectIf (maxRateLimitBuckets < byLimitId.length) .invalidMessage
    forEach byLimitId fun _ (limitId, snapshot) => do
      rejectIf (¬validText limitId maxUsageTextBytes) .invalidMessage
      if let some snapshot := snapshot.asObject then
        validateRateLimitSnapshot snapshot
  if let some resetCredits := objectMember result "rateLimitResetCredits" then
    if let some details := (member resetCredits "credits").bind asArray then do
      rejectIf (maxResetCreditDetails < details.length) .invalidMessage
      forEach details fun _ detail =>
        match detail.asObject with
        | some detail => validateResetCreditDetail detail
        | none => pure ()

def validateRpcError (error : Json) : Except MonitorError Unit := do
  let error ← okOr error.asObject .invalidMessage
  rejectIf ((member error "code").bind asI64 = none ∨
    ¬((member error "message").bind asStr).any fun message =>
      validText message maxRpcErrorMessageBytes) .invalidMessage

/-! ## Completed turns -/

inductive WireTurnStatus where
  | completed
  | interrupted
  | failed
  | inProgress
deriving DecidableEq, Repr

inductive WireNonSteerableTurnKind where
  | review
  | compact
deriving DecidableEq, Repr

inductive WireCodexErrorInfo where
  | contextWindowExceeded
  | sessionBudgetExceeded
  | usageLimitExceeded
  | serverOverloaded
  | cyberPolicy
  | httpConnectionFailed (httpStatusCode : Option ℕ)
  | responseStreamConnectionFailed (httpStatusCode : Option ℕ)
  | internalServerError
  | unauthorized
  | badRequest
  | threadRollbackFailed
  | sandboxError
  | responseStreamDisconnected (httpStatusCode : Option ℕ)
  | responseTooManyFailedAttempts (httpStatusCode : Option ℕ)
  | activeTurnNotSteerable (turnKind : WireNonSteerableTurnKind)
  | other
deriving DecidableEq, Repr

structure WireTurnCompletedParams where
  threadId : String
  turnId : String
  status : WireTurnStatus
  codexErrorInfo : Option WireCodexErrorInfo
deriving DecidableEq, Repr

/-- The variant without content that a table has for a name. -/
def unitVariant {α : Type} (variants : List (String × α)) (value : Json) : Option α := do
  let (name, content) ← variant value
  if isUnit content then (variants.find? fun entry => entry.1 = name).map Prod.snd else none

def wireTurnStatus : Json → Option WireTurnStatus :=
  unitVariant [("completed", .completed), ("interrupted", .interrupted), ("failed", .failed),
    ("inProgress", .inProgress)]

def wireNonSteerableTurnKind : Json → Option WireNonSteerableTurnKind :=
  unitVariant [("review", .review), ("compact", .compact)]

def wireCodexErrorInfo (value : Json) : Option WireCodexErrorInfo := do
  let httpStatusCode (content : Option Json) : Option (Option ℕ) := do
    (Fields.named (← content.bind asObject)).optional (unsigned 16) 0 "httpStatusCode"
  match ← variant value with
  | ("httpConnectionFailed", content) => (httpStatusCode content).map .httpConnectionFailed
  | ("responseStreamConnectionFailed", content) =>
    (httpStatusCode content).map .responseStreamConnectionFailed
  | ("responseStreamDisconnected", content) =>
    (httpStatusCode content).map .responseStreamDisconnected
  | ("responseTooManyFailedAttempts", content) =>
    (httpStatusCode content).map .responseTooManyFailedAttempts
  | ("activeTurnNotSteerable", content) => do
    let kind ← (Fields.named (← content.bind asObject)).required wireNonSteerableTurnKind 0 "turnKind"
    return .activeTurnNotSteerable kind
  | _ => unitVariant [("contextWindowExceeded", .contextWindowExceeded),
      ("sessionBudgetExceeded", .sessionBudgetExceeded), ("usageLimitExceeded", .usageLimitExceeded),
      ("serverOverloaded", .serverOverloaded), ("cyberPolicy", .cyberPolicy),
      ("internalServerError", .internalServerError), ("unauthorized", .unauthorized),
      ("badRequest", .badRequest), ("threadRollbackFailed", .threadRollbackFailed),
      ("sandboxError", .sandboxError), ("other", .other)] value

def wireCompletedTurnError (value : Json) : Option (Option WireCodexErrorInfo) := do
  (← fields 1 value).optional wireCodexErrorInfo 0 "codexErrorInfo"

/-- A completed turn: its id, its status and the error information of a failed one. -/
def wireCompletedTurn (value : Json) :
    Option (String × WireTurnStatus × Option WireCodexErrorInfo) := do
  let wire ← fields 3 value
  let id ← wire.required asStr 0 "id"
  let status ← wire.required wireTurnStatus 1 "status"
  let error ← wire.optional wireCompletedTurnError 2 "error"
  return (id, status, error.join)

def wireTurnCompletedParams (value : Json) : Option WireTurnCompletedParams := do
  let wire ← fields 2 value
  let threadId ← wire.required asStr 0 "threadId"
  let (turnId, status, codexErrorInfo) ← wire.required wireCompletedTurn 1 "turn"
  return { threadId, turnId, status, codexErrorInfo }

def validateTurnCompletedTags (params : Json) : Except MonitorError Unit := do
  let turn ← okOr ((params.get "turn").bind asObject) .invalidMessage
  rejectIf (¬((member turn "status").bind asStr).any fun status =>
    validText status maxTurnStatusBytes) .invalidMessage
  match (objectMember turn "error").bind fun error => member error "codexErrorInfo" with
  | none | some .null => pure ()
  | some (.str kind) => rejectIf (¬validText kind maxErrorKindBytes) .invalidMessage
  | some (.obj [(kind, _)]) => rejectIf (¬validText kind maxErrorKindBytes) .invalidMessage
  | some _ => .error .invalidMessage

/-- The only field of a rate limit notification is a snapshot. -/
def wireRateLimitsUpdatedParams (value : Json) : Option RateLimitSnapshot := do
  (← fields 1 value).required wireRateLimitSnapshot 0 "rateLimits"

/-! ## The protocol -/

namespace MonitorProtocol

/-- Start against a home that is still the captured one. -/
def startPinned (revalidates : Bool) (session : MonitorSessionCapability) :
    Except MonitorError (MonitorProtocol × MonitorCommand) :=
  if ¬revalidates then .error .invalidArgument else
  .ok ({
    state := .awaitInitialize initializeRequestId
    session
    homeIdentityFailed := false
    nextRequestId := firstUsageRequestId
    latestUsage := none }, .initializeSession initializeRequestId)

/-- Look at the home, unless an earlier look has failed. -/
def homeIdentityIsLive (p : MonitorProtocol) (revalidates : Bool) : Bool × MonitorProtocol :=
  if p.homeIdentityFailed then (false, p)
  else if revalidates then (true, p)
  else (false, { p with homeIdentityFailed := true })

def takeRequestId (p : MonitorProtocol) : Except MonitorError (ℕ × MonitorProtocol) :=
  if p.nextRequestId + 1 < 2 ^ 64 then
    .ok (p.nextRequestId, { p with nextRequestId := p.nextRequestId + 1 })
  else .error .unexpectedSequence

def issueUsageRead (p : MonitorProtocol) :
    Except MonitorError (List MonitorAction × MonitorProtocol) := do
  let (requestId, p) ← p.takeRequestId
  return ([.outbound (.readUsage requestId)],
    { p with state := .observing (some requestId) false })

/-- Read the usage again, after the read that is in flight if there is one. -/
def refresh (p : MonitorProtocol) : Except MonitorError (List MonitorAction × MonitorProtocol) :=
  match p.state with
  | .awaitInitialize _ => .error .unexpectedSequence
  | .observing (some inFlight) _ => .ok ([], { p with state := .observing (some inFlight) true })
  | .observing none _ => p.issueUsageRead
  | .failed error => .error error

/-- Whether messages about the session are admitted. -/
def admits (p : MonitorProtocol) : Except MonitorError Unit :=
  match p.state with
  | .observing _ _ => .ok ()
  | .awaitInitialize _ => .error .unexpectedSequence
  | .failed error => .error error

def handleRateLimitsUpdated (p : MonitorProtocol) (params : Option Json) :
    Except MonitorError (List MonitorAction × MonitorProtocol) := do
  p.admits
  let params ← okOr params .invalidMessage
  discard <| okOr (wireRateLimitsUpdatedParams params) .invalidMessage
  p.refresh

def handleTurnCompleted (p : MonitorProtocol) (params : Option Json) :
    Except MonitorError (List MonitorAction) := do
  p.admits
  let params ← okOr params .invalidMessage
  validateTurnCompletedTags params
  let event ← okOr (wireTurnCompletedParams params) .invalidMessage
  rejectIf (¬validUuid event.threadId ∨ ¬validUuid event.turnId) .invalidMessage
  if event.threadId ≠ p.session.targetThreadId then return []
  if event.status = .failed ∧ event.codexErrorInfo = some .usageLimitExceeded then
    return [.usageLimitExceeded event.threadId event.turnId]
  return []

def handleProviderMessage (p : MonitorProtocol) (object : List (String × Json)) (method : Json) :
    Except MonitorError (List MonitorAction × MonitorProtocol) := do
  let method ← okOr (method.asStr.filter fun method => validText method maxMethodBytes)
    .invalidMessage
  rejectIf (containsKey object "result" ∨ containsKey object "error") .invalidMessage
  match member object "id" with
  | some id =>
    -- A request is for the interactive client to answer, which it was sent to as well.
    rejectIf (¬validRequestId id) .invalidMessage
    return ([], p)
  | none =>
    if method = "account/rateLimits/updated" then p.handleRateLimitsUpdated (member object "params")
    else if method = "turn/completed" then
      return (← p.handleTurnCompleted (member object "params"), p)
    else return ([], p)

/-- The result or the error of a response, which has exactly one of them. -/
def responseBody (object : List (String × Json)) : Except MonitorError (Json ⊕ Json) :=
  match member object "result", member object "error" with
  | some result, none => .ok (.inl result)
  | none, some error => .ok (.inr error)
  | _, _ => .error .invalidMessage

/-- The request whose response is awaited. -/
def expectedId (p : MonitorProtocol) : Except MonitorError ℕ :=
  match p.state with
  | .awaitInitialize requestId | .observing (some requestId) _ => .ok requestId
  | .observing none _ => .error .unexpectedSequence
  | .failed error => .error error

def handleResult (p : MonitorProtocol) (canonicalize : String → Option String) (result : Json) :
    Except MonitorError (List MonitorAction × MonitorProtocol) :=
  match p.state with
  | .awaitInitialize _ => do
    discard <| (validateInitializeResult canonicalize result p.session.selectedCodexHome).mapError .usage
    let (requestId, p) ← p.takeRequestId
    return ([.outbound .initialized, .outbound (.readUsage requestId)],
      { p with state := .observing (some requestId) false })
  | .observing _ dirty => do
    validateUsageResult result
    let usage ← (parseRateLimitsResult result).mapError .usage
    if dirty then p.issueUsageRead
    else return ([.publishUsage usage],
      { p with state := .observing none false, latestUsage := some usage })
  | .failed error => .error error

def handleResponse (p : MonitorProtocol) (canonicalize : String → Option String)
    (object : List (String × Json)) :
    Except MonitorError (List MonitorAction × MonitorProtocol) := do
  let id ← okOr ((member object "id").bind (unsigned 64)) .invalidMessage
  let body ← responseBody object
  let expectedId ← p.expectedId
  rejectIf (id ≠ expectedId) .unexpectedSequence
  match body with
  | .inr error =>
    validateRpcError error
    throw (.usage (classifyRpcError error))
  | .inl result => p.handleResult canonicalize result

def receiveInner (fromSlice : List UInt8 → Option Json) (p : MonitorProtocol)
    (canonicalize : String → Option String) (bytes : List UInt8) :
    Except MonitorError (List MonitorAction × MonitorProtocol) := do
  rejectIf (maxMessageBytes < bytes.length) .invalidMessage
  let message ← okOr (decodeUnique fromSlice bytes) .invalidMessage
  let object ← okOr message.asObject .invalidMessage
  match member object "method" with
  | some method => p.handleProviderMessage object method
  | none => p.handleResponse canonicalize object

/-- Run the body of a call: a monitor that failed stays so, and so does one whose home changed. -/
def guarded (p : MonitorProtocol) (revalidates : Bool)
    (body : MonitorProtocol → Except MonitorError (List MonitorAction × MonitorProtocol)) :
    Except MonitorError (List MonitorAction) × MonitorProtocol :=
  match p.state with
  | .failed error => (.error error, p)
  | _ =>
    match p.homeIdentityIsLive revalidates with
    | (false, p) => (.error .homeIdentityChanged, { p with state := .failed .homeIdentityChanged })
    | (true, p) =>
      match body p with
      | .ok (actions, p) => (.ok actions, p)
      | .error error => (.error error, { p with state := .failed error })

def receive (fromSlice : List UInt8 → Option Json) (p : MonitorProtocol) (revalidates : Bool)
    (canonicalize : String → Option String) (bytes : List UInt8) :
    Except MonitorError (List MonitorAction) × MonitorProtocol :=
  p.guarded revalidates fun p => receiveInner fromSlice p canonicalize bytes

def requestRefresh (p : MonitorProtocol) (revalidates : Bool) :
    Except MonitorError (List MonitorAction) × MonitorProtocol :=
  p.guarded revalidates refresh

/-- The usage that may be shown. -/
def readLatestUsage (p : MonitorProtocol) (revalidates : Bool) :
    Option CodexUsage × MonitorProtocol :=
  match p.homeIdentityIsLive revalidates with
  | (false, p) => (none, p)
  | (true, p) =>
    match p.state with
    | .observing none false => (p.latestUsage, p)
    | _ => (none, p)

end MonitorProtocol

end Calcifer
