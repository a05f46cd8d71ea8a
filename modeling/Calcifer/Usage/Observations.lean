import Calcifer.Codex.Usage
import Calcifer.Profiles.Document

/-!
# Usage observations

The cache of normalized quota metadata. `CacheDocument.observeUsage`, `observeFailure` and
`requireRevalidation` merge one event into it, `CacheDocument.view` is the conservative reading of an
entry, and `ObservationStore` runs the operations against a stored document.
-/

namespace Calcifer.Usage

open Checks Lists

def cacheSchemaVersion : ℕ := 1
def maxSerializedBytes : ℕ := 2 * 1024 * 1024
def maxEntries : ℕ := 512
def maxAuditEvents : ℕ := 512
def maxRateLimitBuckets : ℕ := 64
def maxResetCreditDetails : ℕ := 64
def maxTextBytes : ℕ := 256
def maxDecimalBytes : ℕ := 128
def maxVersionBytes : ℕ := 64
def maxProviderTimestampSeconds : ℤ := 253402300799

inductive ObservationError where
  | invalidInput
  | invalidDocument
  | limitExceeded
  | storageUnavailable
  | unsupportedPlatform
deriving DecidableEq, Repr

inductive CodexCompatibilityStatus where
  | compatible
  | incompatible
  | unverified
deriving DecidableEq, Repr

inductive Availability where
  | available
  | exhausted
  | stale
  | unsupported
  | unknown
deriving DecidableEq, Repr

inductive Freshness where
  | fresh
  | stale
  | revalidationRequired
  | unknown
deriving DecidableEq, Repr

inductive ObservationSource where
  | activeMonitor
  | idleRead
  | usageLimitSignal
deriving DecidableEq, Repr

def ObservationSource.isAuthoritativeUsage : ObservationSource → Bool
  | .activeMonitor | .idleRead => true
  | .usageLimitSignal => false

inductive StoredAvailability where
  | available
  | exhausted
  | unknown
  | unsupported
deriving DecidableEq, Repr

inductive AuditKind where
  | usageAccepted
  | failureObserved
  | revalidationRequired
  | outOfOrderIgnored
deriving DecidableEq, Repr

inductive StoredFailure where
  | unsupported
  | protocol
  | authentication
  | timeout
  | transport
  | provider
  | spawn
deriving DecidableEq, Repr

def StoredFailure.ofError : CodexUsageError → StoredFailure
  | .unsupported => .unsupported
  | .protocol => .protocol
  | .authentication => .authentication
  | .timeout => .timeout
  | .transport => .transport
  | .provider => .provider
  | .spawn => .spawn

structure CacheEntry where
  profileId : String
  availability : StoredAvailability
  observedAt : ℤ
  latestEventAt : ℤ
  expiresAt : Option ℤ
  source : ObservationSource
  codexVersion : Option String
  adapterVersion : String
  compatibility : CodexCompatibilityStatus
  usage : Option CodexUsage
  revalidationRequiredAt : Option ℤ
  consecutiveFailures : ℕ
  nextRefreshAt : ℤ
  lastFailure : Option StoredFailure
deriving DecidableEq, Repr

structure AuditEvent where
  revision : ℕ
  profileId : String
  observedAt : ℤ
  source : ObservationSource
  kind : AuditKind
  availability : StoredAvailability
deriving DecidableEq, Repr

structure CacheDocument where
  schemaVersion : ℕ := cacheSchemaVersion
  revision : ℕ := 0
  entries : List CacheEntry := []
  audit : List AuditEvent := []
deriving DecidableEq, Repr

/-- What an entry comes to at some time. -/
structure UsageView where
  availability : Availability
  freshness : Freshness
  observedAt : ℤ
  source : ObservationSource
  codexVersion : Option String
  adapterVersion : String
  compatibility : CodexCompatibilityStatus
  usage : Option CodexUsage
  nextRefreshAt : ℤ
deriving DecidableEq, Repr

/-! ## Policies -/

structure ObservationPolicy where
  freshTtlSeconds : ℤ := 60
  retryBaseSeconds : ℤ := 5
  retryMaxSeconds : ℤ := 300
  maxIdleRefresh : ℕ := 4
deriving DecidableEq, Repr

namespace ObservationPolicy

def validate (policy : ObservationPolicy) : Except ObservationError Unit :=
  rejectIf (policy.freshTtlSeconds ≤ 0 ∨ policy.retryBaseSeconds ≤ 0 ∨
    policy.retryMaxSeconds < policy.retryBaseSeconds ∨ policy.maxIdleRefresh = 0 ∨
      maxEntries < policy.maxIdleRefresh) .invalidInput

def expiry (policy : ObservationPolicy) (observedAt : ℤ) : Except ObservationError ℤ := do
  rejectIf (maxProviderTimestampSeconds < observedAt + policy.freshTtlSeconds) .invalidInput
  return observedAt + policy.freshTtlSeconds

/-- The delay doubles with every failure, up to the longest one. -/
def retryAt (policy : ObservationPolicy) (observedAt : ℤ) (consecutiveFailures : ℕ) :
    Except ObservationError ℤ := do
  let multiplier : ℤ := 2 ^ min (consecutiveFailures - 1) 30
  let delay := min (min (policy.retryBaseSeconds * multiplier) (2 ^ 63 - 1)) policy.retryMaxSeconds
  rejectIf (maxProviderTimestampSeconds < observedAt + delay) .invalidInput
  return observedAt + delay

end ObservationPolicy

/-! ## Checks -/

def validateProfileId (profileId : String) : Except ObservationError Unit := do
  let parsed ← okOr (Uuid.parseStr profileId) .invalidInput
  rejectIf (parsed.toString ≠ profileId) .invalidInput

def validateTimestamp (value : ℤ) : Except ObservationError Unit :=
  rejectIf (value < 0 ∨ maxProviderTimestampSeconds < value) .invalidInput

def validateText (value : String) (maxBytes : ℕ) : Except ObservationError Unit :=
  rejectIf (value = "" ∨ maxBytes < (Text.bytes value).length ∨ value.toList.any isControl)
    .invalidInput

def validateVersion (value : String) : Except ObservationError Unit :=
  validateText value maxVersionBytes

/-- A check on a value that may be absent. -/
def validateSome {α : Type} (check : α → Except ObservationError Unit) :
    Option α → Except ObservationError Unit
  | some a => check a
  | none => pure ()

def validateWindow (window : RateLimitWindow) : Except ObservationError Unit := do
  rejectIf (100 < window.remainingPercent) .invalidDocument
  validateSome validateTimestamp window.resetsAt

def validateIndividualLimit (limit : SpendControlLimitSnapshot) : Except ObservationError Unit := do
  validateText limit.limit maxDecimalBytes
  validateText limit.used maxDecimalBytes
  rejectIf (100 < limit.remainingPercent) .invalidDocument
  validateTimestamp limit.resetsAt

def validateSnapshot (snapshot : RateLimitSnapshot) : Except ObservationError Unit := do
  forEach ([snapshot.limitId, snapshot.limitName, snapshot.planType,
    snapshot.rateLimitReachedType].filterMap id) fun _ value => validateText value maxTextBytes
  forEach ([snapshot.primary, snapshot.secondary].filterMap id) fun _ window => validateWindow window
  validateSome (fun credits => validateSome (fun balance => validateText balance maxDecimalBytes)
    (CreditsSnapshot.balance credits)) snapshot.credits
  validateSome validateIndividualLimit snapshot.individualLimit

def validateResetCreditDetail (detail : ResetCreditDetail) : Except ObservationError Unit := do
  validateTimestamp detail.grantedAt
  validateSome (fun expiresAt => do
    validateTimestamp expiresAt
    rejectIf (expiresAt < detail.grantedAt) .invalidDocument) detail.expiresAt
  validateText detail.resetType maxTextBytes
  validateText detail.status maxTextBytes

/-- The buckets by their limit ids, in the order of these. -/
def bucketsById (usage : CodexUsage) : List (String × RateLimitSnapshot) :=
  usage.rateLimitsByLimitId.insertionSort (·.1 ≤ ·.1)

def validateUsage (usage : CodexUsage) : Except ObservationError Unit := do
  rejectIf (maxRateLimitBuckets < usage.rateLimitsByLimitId.length) .limitExceeded
  validateSome validateSnapshot usage.rateLimits
  forEach (bucketsById usage) fun _ bucket => do
    validateText bucket.1 maxTextBytes
    validateSnapshot bucket.2
  validateSome (fun resetCredits => validateSome (fun details => do
    rejectIf (maxResetCreditDetails < List.length details) .limitExceeded
    forEach details fun _ detail => validateResetCreditDetail detail)
      (ResetCredits.details resetCredits)) usage.resetCredits

/-! ## Classification -/

def isExplicitExhaustion (value : String) : Bool :=
  value ∈ ["rate_limit_reached", "workspace_owner_credits_depleted",
    "workspace_member_credits_depleted", "workspace_owner_usage_limit_reached",
    "workspace_member_usage_limit_reached"]

/-- Go through the buckets, given whether a window was seen and whether a full one. -/
def classifySnapshots (sawWindow sawRoundedFullWindow : Bool) :
    List RateLimitSnapshot → StoredAvailability
  | [] => if sawWindow ∧ ¬sawRoundedFullWindow then .available else .unknown
  | snapshot :: snapshots =>
    match snapshot.rateLimitReachedType with
    | some reachedType => if isExplicitExhaustion reachedType then .exhausted else .unknown
    | none =>
      if snapshot.individualLimit.any fun limit => limit.remainingPercent = 0 then .unknown
      else
        let windows := [snapshot.primary, snapshot.secondary].filterMap id
        classifySnapshots (sawWindow || windows ≠ [])
          (sawRoundedFullWindow || windows.any fun window => 100 ≤ window.usedPercent) snapshots

def classify (usage : CodexUsage) : StoredAvailability :=
  classifySnapshots false false (usage.rateLimits.toList ++ (bucketsById usage).map Prod.snd)

/-! ## The document -/

namespace CacheDocument

def entry (document : CacheDocument) (profileId : String) : Option CacheEntry :=
  document.entries.find? fun entry => entry.profileId = profileId

def isOutOfOrder (document : CacheDocument) (profileId : String) (observedAt : ℤ) : Bool :=
  (document.entry profileId).any fun entry => observedAt < entry.latestEventAt

end CacheDocument

/-- The reading of an entry at some time. -/
def CacheEntry.view (entry : CacheEntry) (now : ℤ) : UsageView :=
  let revalidationRequired := entry.revalidationRequiredAt.any fun signal => entry.observedAt ≤ signal
  let expired := entry.expiresAt.any fun expiry => expiry ≤ now
  let (availability, freshness) : Availability × Freshness :=
    if revalidationRequired then (.unknown, .revalidationRequired)
    else if entry.availability = .unsupported then (.unsupported, .unknown)
    else if entry.lastFailure.isSome then
      if entry.usage.isSome then (.stale, .stale) else (.unknown, .unknown)
    else if expired then (.stale, .stale)
    else
      (match entry.availability with
        | .available => .available
        | .exhausted => .exhausted
        | .unknown => .unknown
        | .unsupported => .unsupported, .fresh)
  { availability, freshness
    observedAt := entry.observedAt, source := entry.source, codexVersion := entry.codexVersion
    adapterVersion := entry.adapterVersion, compatibility := entry.compatibility
    usage := entry.usage, nextRefreshAt := entry.nextRefreshAt }

def CacheDocument.view (document : CacheDocument) (profileId : String) (now : ℤ) :
    Option UsageView :=
  (document.entry profileId).map fun entry => entry.view now

/-- The checks on one entry. -/
def validateEntry (entry : CacheEntry) : Except ObservationError Unit := do
  validateTimestamp entry.observedAt
  validateTimestamp entry.latestEventAt
  rejectIf (entry.latestEventAt < entry.observedAt) .invalidDocument
  validateTimestamp entry.nextRefreshAt
  rejectIf (entry.nextRefreshAt < entry.latestEventAt) .invalidDocument
  validateSome (fun expiresAt => do
    validateTimestamp expiresAt
    rejectIf (expiresAt < entry.observedAt) .invalidDocument) entry.expiresAt
  validateSome (fun requiredAt => do
    validateTimestamp requiredAt
    rejectIf (entry.latestEventAt < requiredAt ∨ entry.source ≠ .usageLimitSignal ∨
      entry.lastFailure.isSome ∨ entry.nextRefreshAt ≠ requiredAt) .invalidDocument)
    entry.revalidationRequiredAt
  validateSome validateVersion entry.codexVersion
  validateVersion entry.adapterVersion
  match entry.usage with
  | some usage => do
    validateUsage usage
    rejectIf (entry.expiresAt = none ∨ entry.codexVersion = none ∨
      entry.compatibility ≠ .compatible) .invalidDocument
  | none =>
    rejectIf (entry.availability = .available ∨ entry.availability = .exhausted) .invalidDocument
  rejectIf (entry.availability = .unsupported ∧
    (entry.lastFailure ≠ some .unsupported ∨ entry.usage.isSome)) .invalidDocument
  rejectIf (entry.availability = .exhausted ∧
    ¬entry.usage.any fun usage => classify usage = .exhausted) .invalidDocument

namespace CacheDocument

def validate (document : CacheDocument) : Except ObservationError Unit := do
  rejectIf (document.schemaVersion ≠ cacheSchemaVersion) .invalidDocument
  rejectIf (maxEntries < document.entries.length ∨ maxAuditEvents < document.audit.length)
    .limitExceeded
  forEach document.entries fun index entry => do
    validateProfileId entry.profileId
    rejectIf ((document.entries.take index).any fun previous => previous.profileId = entry.profileId)
      .invalidDocument
    validateEntry entry
  forEach document.audit fun index audit => do
    validateProfileId audit.profileId
    validateTimestamp audit.observedAt
    rejectIf (audit.revision = 0 ∨ document.revision < audit.revision ∨
      (0 < index ∧ (document.audit[index - 1]?).any fun previous => audit.revision ≤ previous.revision))
      .invalidDocument

end CacheDocument

/-! ## Merging events

An operation changes the document in place; what it changed before it fails stays. -/

/-- An operation on the document. -/
abbrev CacheM (α : Type) : Type := ExceptT ObservationError (StateM CacheDocument) α

/-- A computation that does not touch the document. -/
def check {α : Type} (x : Except ObservationError α) : CacheM α := ExceptT.mk (pure x)

def replaceEntry (entry : CacheEntry) : CacheM Unit := do
  let document ← get
  match document.entry entry.profileId with
  | some _ =>
    set { document with
      entries := updateFirst (fun existing => existing.profileId = entry.profileId) (fun _ => entry)
        document.entries }
  | none =>
    check (rejectIf (maxEntries ≤ document.entries.length) .limitExceeded)
    set { document with
      entries := (document.entries ++ [entry]).insertionSort fun left right =>
        left.profileId ≤ right.profileId }

def pushAudit (profileId : String) (source : ObservationSource) (observedAt : ℤ) (kind : AuditKind)
    (availability : StoredAvailability) : CacheM Unit := do
  let document ← get
  check (rejectIf (2 ^ 64 ≤ document.revision + 1) .limitExceeded)
  let audit := document.audit ++
    [{ revision := document.revision + 1, profileId, observedAt, source, kind, availability }]
  set { document with
    revision := document.revision + 1, audit := audit.drop (audit.length - maxAuditEvents) }

def auditIgnored (profileId : String) (source : ObservationSource) (observedAt : ℤ) : CacheM Unit := do
  let document ← get
  let availability := ((document.entry profileId).map (·.availability)).getD .unknown
  pushAudit profileId source observedAt .outOfOrderIgnored availability

/-- Put an entry in the place of the profile's, with the audit event of its observation. -/
def accept (entry : CacheEntry) (source : ObservationSource) (observedAt : ℤ) (kind : AuditKind) :
    CacheM Unit := do
  replaceEntry entry
  pushAudit entry.profileId source observedAt kind entry.availability

/-- The entry of a usage observation. -/
def usageEntry (profileId : String) (source : ObservationSource) (codexVersion : String)
    (usage : CodexUsage) (observedAt expiresAt : ℤ) : CacheEntry where
  profileId
  availability := classify usage
  observedAt
  latestEventAt := observedAt
  expiresAt := some expiresAt
  source
  codexVersion := some codexVersion
  adapterVersion := cargoPkgVersion
  compatibility := .compatible
  usage := some usage
  revalidationRequiredAt := none
  consecutiveFailures := 0
  nextRefreshAt := expiresAt
  lastFailure := none

def observeUsage (profileId : String) (source : ObservationSource) (codexVersion : String)
    (usage : CodexUsage) (observedAt : ℤ) (policy : ObservationPolicy) : CacheM Unit := do
  check (validateProfileId profileId)
  check (validateTimestamp observedAt)
  check (validateVersion codexVersion)
  check (validateUsage usage)
  check policy.validate
  if (← get).isOutOfOrder profileId observedAt then
    auditIgnored profileId source observedAt
  else
    let expiresAt ← check (policy.expiry observedAt)
    accept (usageEntry profileId source codexVersion usage observedAt expiresAt) source observedAt
      .usageAccepted

/-- The entry after a failure: an older usage is kept, unless the provider is not supported. -/
def failureEntry (previous : Option CacheEntry) (profileId : String) (source : ObservationSource)
    (codexVersion : Option String) (compatibility : CodexCompatibilityStatus)
    (failure : StoredFailure) (observedAt nextRefreshAt : ℤ) (failures : ℕ) : CacheEntry :=
  match previous.filter fun previous => failure ≠ .unsupported ∧ previous.usage.isSome with
  | some previous => { previous with
      latestEventAt := observedAt, revalidationRequiredAt := none, consecutiveFailures := failures
      nextRefreshAt, lastFailure := some failure }
  | none => {
      profileId
      availability := if failure = .unsupported then .unsupported else .unknown
      observedAt, latestEventAt := observedAt, expiresAt := none, source, codexVersion
      adapterVersion := cargoPkgVersion
      compatibility, usage := none, revalidationRequiredAt := none, consecutiveFailures := failures
      nextRefreshAt, lastFailure := some failure }

def observeFailure (profileId : String) (source : ObservationSource) (codexVersion : Option String)
    (compatibility : CodexCompatibilityStatus) (failure : CodexUsageError) (observedAt : ℤ)
    (policy : ObservationPolicy) : CacheM Unit := do
  check (validateProfileId profileId)
  check (validateTimestamp observedAt)
  check (validateSome validateVersion codexVersion)
  check policy.validate
  let document ← get
  if document.isOutOfOrder profileId observedAt then
    auditIgnored profileId source observedAt
  else
    let previous := document.entry profileId
    let failures := (previous.map fun entry => min (entry.consecutiveFailures + 1) 255).getD 1
    let nextRefreshAt ← check (policy.retryAt observedAt failures)
    accept (failureEntry previous profileId source codexVersion compatibility (.ofError failure)
      observedAt nextRefreshAt failures) source observedAt .failureObserved

/-- The entry after a usage limit was reported. -/
def signalEntry (previous : Option CacheEntry) (profileId : String) (observedAt : ℤ) : CacheEntry where
  profileId
  availability := .unknown
  observedAt
  latestEventAt := observedAt
  expiresAt := none
  source := .usageLimitSignal
  codexVersion := previous.bind (·.codexVersion)
  adapterVersion := cargoPkgVersion
  compatibility := (previous.map (·.compatibility)).getD .unverified
  usage := none
  revalidationRequiredAt := some observedAt
  consecutiveFailures := 0
  nextRefreshAt := observedAt
  lastFailure := none

def requireRevalidation (profileId : String) (observedAt : ℤ) (policy : ObservationPolicy) :
    CacheM Unit := do
  check (validateProfileId profileId)
  check (validateTimestamp observedAt)
  check policy.validate
  let document ← get
  if document.isOutOfOrder profileId observedAt then
    auditIgnored profileId .usageLimitSignal observedAt
  else
    accept (signalEntry (document.entry profileId) profileId observedAt) .usageLimitSignal observedAt
      .revalidationRequired

/-! ## The store -/

namespace ObservationStore

/-- A transaction on the stored document, of which `toVec` is the encoder. -/
def transact {α : Type} (toVec : CacheDocument → Option (List UInt8)) (policy : ObservationPolicy)
    (stored : CacheDocument) (mutation : CacheM α) : Except ObservationError (α × CacheDocument) := do
  policy.validate
  stored.validate
  let (result, document) := mutation.run stored
  let result ← result
  document.validate
  let bytes ← okOr (toVec document) .invalidDocument
  rejectIf (maxSerializedBytes < bytes.length) .limitExceeded
  return (result, document)

/-- The view of a profile right after an operation on it. -/
def viewAfter (operation : CacheM Unit) (profileId : String) (observedAt : ℤ) : CacheM UsageView := do
  operation
  check (okOr ((← get).view profileId observedAt) .invalidDocument)

variable (toVec : CacheDocument → Option (List UInt8)) (policy : ObservationPolicy)
  (stored : CacheDocument)

def observeUsage (profileId : String) (source : ObservationSource) (codexVersion : String)
    (usage : CodexUsage) (observedAt : ℤ) : Except ObservationError (UsageView × CacheDocument) := do
  rejectIf (¬source.isAuthoritativeUsage) .invalidInput
  transact toVec policy stored
    (viewAfter (Usage.observeUsage profileId source codexVersion usage observedAt policy) profileId
      observedAt)

def observeFailure (profileId : String) (source : ObservationSource) (codexVersion : Option String)
    (compatibility : CodexCompatibilityStatus) (failure : CodexUsageError) (observedAt : ℤ) :
    Except ObservationError (UsageView × CacheDocument) := do
  rejectIf (¬source.isAuthoritativeUsage) .invalidInput
  transact toVec policy stored
    (viewAfter (Usage.observeFailure profileId source codexVersion compatibility failure observedAt
      policy) profileId observedAt)

def requireRevalidation (profileId : String) (observedAt : ℤ) :
    Except ObservationError (UsageView × CacheDocument) :=
  transact toVec policy stored
    (viewAfter (Usage.requireRevalidation profileId observedAt policy) profileId observedAt)

def view (profileId : String) (now : ℤ) : Except ObservationError (Option UsageView) := do
  validateProfileId profileId
  validateTimestamp now
  policy.validate
  stored.validate
  return stored.view profileId now

end ObservationStore

end Calcifer.Usage
