import Calcifer.Library.Json

/-!
# The conversation document

The data model of the conversation registry: conversations with their generations, workspace
heads, pending launches and the single active handoff transition, together with the errors of the
registry and the JSON form in which a document is written.

A field the source leaves out of the JSON when it is absent, empty or zero is left out here by
`present`.
-/

namespace Calcifer

/-- The version of this package, recorded as the adapter version of what it writes. -/
def cargoPkgVersion : String := "0.1.0-alpha.5"

def schemaVersionV1 : ℕ := 1
def schemaVersionV2 : ℕ := 2
def maxRegistryBytes : ℕ := 4 * 1024 * 1024
def maxInventoryThreads : ℕ := 1600
def maxLineageGenerations : ℕ := 256
def maxRolloutRelativeBytes : ℕ := 512
def maxRolloutComponents : ℕ := 8
def maxRolloutBytes : ℕ := 64 * 1024 * 1024

/-- The providers of managed profiles. -/
inductive Provider where
  | claude
  | codex
deriving DecidableEq, Repr

inductive ConversationLifecycle where
  | clean
  | interrupted
  | unknownCrash
  | missing
  | archived
  | incompatible
  | ambiguous
deriving DecidableEq, Repr

inductive LaunchMode where
  | run
  | resumeLast
  | runUntracked
  | resumeLastUntracked
deriving DecidableEq, Repr

/-- Whether a launch opted out of conversation capture. -/
def LaunchMode.isUntracked : LaunchMode → Bool
  | .runUntracked | .resumeLastUntracked => true
  | .run | .resumeLast => false

inductive PendingPhase where
  | prepared
  | providerStarted
  | captureFailed
deriving DecidableEq, Repr

/-- One thread of a provider inventory, with the path-free fingerprint of its rollout. -/
structure InventoryThread where
  threadId : String
  updatedAt : ℤ
  recencyAt : Option ℤ
  archived : Bool
  rolloutDevice : ℕ
  rolloutInode : ℕ
  rolloutLength : ℕ
  rolloutModifiedSeconds : ℤ
  rolloutModifiedNanoseconds : ℤ
  rolloutChangedSeconds : ℤ
  rolloutChangedNanoseconds : ℤ
deriving DecidableEq, Repr

/-- A launch that owns its workspace until it is finished. -/
structure PendingLaunch where
  launchId : String
  profileId : String
  canonicalCwd : String
  mode : LaunchMode
  codexVersion : Option String
  adapterVersion : String
  preInventory : List InventoryThread
  phase : PendingPhase
  startedAt : ℤ
deriving DecidableEq, Repr

/-- What a caller asks to bind to a workspace. -/
structure BindingInput where
  profileId : String
  threadId : String
  canonicalCwd : String
  codexVersion : String
  lifecycle : ConversationLifecycle
deriving DecidableEq, Repr

/-- The generation a ready workspace head names. -/
structure HeadBinding where
  conversationId : String
  generation : ℕ
  profileId : String
  threadId : String
  canonicalCwd : String
  codexVersion : String
  lifecycle : ConversationLifecycle
deriving DecidableEq, Repr

inductive RolloutRoot where
  | sessions
  | archivedSessions
deriving DecidableEq, Repr

structure RolloutLocator where
  root : RolloutRoot
  relativePath : String
deriving DecidableEq, Repr

structure RolloutFingerprint where
  device : ℕ
  inode : ℕ
  length : ℕ
  mode : ℕ
  owner : ℕ
  linkCount : ℕ
  modifiedSeconds : ℤ
  modifiedNanoseconds : ℤ
  changedSeconds : ℤ
  changedNanoseconds : ℤ
  sha256 : String
deriving DecidableEq, Repr

/-- The locator of a rollout file and the fingerprint it had when it was recorded. -/
structure GenerationRollout where
  locator : RolloutLocator
  fingerprint : RolloutFingerprint
deriving DecidableEq, Repr

inductive HandoffPhase where
  | prepared
  | sourceStopRequested
  | sourceStopped
  | forkRequested
  | forkObserved
  | committedUnattached
deriving DecidableEq, Repr

inductive HandoffReason where
  | confirmedUsageExhaustion
  | explicitRecovery
  | unknownLegacy
deriving DecidableEq, Repr

structure HandoffPreparation where
  expectedSource : HeadBinding
  targetProfileId : String
  trustDomainId : String
  reason : HandoffReason
  sourceRollout : GenerationRollout
deriving DecidableEq, Repr

structure HandoffTarget where
  threadId : String
  canonicalCwd : String
  codexVersion : String
  rollout : GenerationRollout
deriving DecidableEq, Repr

structure ObservedHandoffTarget where
  threadId : String
  canonicalCwd : String
  codexVersion : String
  adapterVersion : String
  rollout : GenerationRollout
  observedAt : ℤ
deriving DecidableEq, Repr

/-- The journal of one cross-profile handoff. -/
structure HandoffTransition where
  transitionId : String
  conversationId : String
  sourceGeneration : ℕ
  targetGeneration : ℕ
  sourceProfileId : String
  targetProfileId : String
  canonicalCwd : String
  trustDomainId : String
  reason : HandoffReason
  sourceRollout : GenerationRollout
  phase : HandoffPhase
  targetBaselineThreadIds : List String
  forkAttempts : ℕ
  forkRequestedAt : Option ℤ
  observedTarget : Option ObservedHandoffTarget
  preparedAt : ℤ
  updatedAt : ℤ
deriving DecidableEq, Repr

/-- How a tracked launch ended. -/
inductive LaunchResolution where
  | bind (binding : BindingInput)
  | noThread
  | ambiguous
deriving DecidableEq, Repr

/-- What a v2 document remembers of the v1 document it was migrated from. -/
structure PreMigrationBackup where
  schemaVersion : ℕ
  revision : ℕ
  sha256 : String
deriving DecidableEq, Repr

structure ConversationGeneration where
  generation : ℕ
  profileId : String
  threadId : String
  canonicalCwd : String
  codexVersion : String
  adapterVersion : String
  boundAt : ℤ
  trustDomainId : Option String
  rollout : Option GenerationRollout
deriving DecidableEq, Repr

structure Conversation where
  conversationId : String
  provider : Provider
  generations : List ConversationGeneration
  activeGeneration : ℕ
  lastSafeLifecycle : ConversationLifecycle
deriving DecidableEq, Repr

inductive HeadState where
  | ready
  | needsSelection
deriving DecidableEq, Repr

structure WorkspaceHead where
  provider : Provider
  canonicalCwd : String
  state : HeadState
  conversationId : Option String
  generation : Option ℕ
deriving DecidableEq, Repr

structure ConversationDocument where
  schemaVersion : ℕ := schemaVersionV1
  revision : ℕ := 0
  conversations : List Conversation := []
  workspaceHeads : List WorkspaceHead := []
  pendingLaunches : List PendingLaunch := []
  preMigrationBackup : Option PreMigrationBackup := none
  activeTransition : Option HandoffTransition := none
deriving DecidableEq, Repr, Inhabited

/-- The errors of the conversation registry. -/
inductive ConversationError where
  | notFound
  | ambiguous
  | profileMismatch
  | cwdMismatch
  | rolloutMissing
  | archived
  | registryInvalid (reason : String)
  | commitUncertain
  | transitionBusy
  | transitionPhaseInvalid
  | codexVersionUnsupported
  | sessionSchemaUnsupported
  | threadProtocolInvalid
  | threadMetadataUnavailable
  | io
deriving DecidableEq, Repr

/-! ## The JSON form -/

/-- A member that is written only when its value is present. -/
def present (name : String) (value : Option Json) : List (String × Json) :=
  match value with
  | some v => [(name, v)]
  | none => []

/-- An optional value written as `null` when it is absent. -/
def nullable {α : Type} (f : α → Json) : Option α → Json
  | some a => f a
  | none => .null

def Provider.toJson : Provider → Json
  | .claude => .str "claude"
  | .codex => .str "codex"

def ConversationLifecycle.toJson : ConversationLifecycle → Json
  | .clean => .str "clean"
  | .interrupted => .str "interrupted"
  | .unknownCrash => .str "unknown_crash"
  | .missing => .str "missing"
  | .archived => .str "archived"
  | .incompatible => .str "incompatible"
  | .ambiguous => .str "ambiguous"

def LaunchMode.toJson : LaunchMode → Json
  | .run => .str "run"
  | .resumeLast => .str "resume_last"
  | .runUntracked => .str "run_untracked"
  | .resumeLastUntracked => .str "resume_last_untracked"

def PendingPhase.toJson : PendingPhase → Json
  | .prepared => .str "prepared"
  | .providerStarted => .str "provider_started"
  | .captureFailed => .str "capture_failed"

def HandoffPhase.toJson : HandoffPhase → Json
  | .prepared => .str "prepared"
  | .sourceStopRequested => .str "source_stop_requested"
  | .sourceStopped => .str "source_stopped"
  | .forkRequested => .str "fork_requested"
  | .forkObserved => .str "fork_observed"
  | .committedUnattached => .str "committed_unattached"

def HandoffReason.toJson : HandoffReason → Json
  | .confirmedUsageExhaustion => .str "confirmed_usage_exhaustion"
  | .explicitRecovery => .str "explicit_recovery"
  | .unknownLegacy => .str "unknown_legacy"

def RolloutRoot.toJson : RolloutRoot → Json
  | .sessions => .str "sessions"
  | .archivedSessions => .str "archived_sessions"

def HeadState.toJson : HeadState → Json
  | .ready => .str "ready"
  | .needsSelection => .str "needs_selection"

def InventoryThread.toJson (t : InventoryThread) : Json :=
  .obj [("thread_id", .str t.threadId), ("updated_at", .int t.updatedAt),
    ("recency_at", nullable .int t.recencyAt), ("archived", .bool t.archived),
    ("rollout_device", .int t.rolloutDevice), ("rollout_inode", .int t.rolloutInode),
    ("rollout_length", .int t.rolloutLength),
    ("rollout_modified_seconds", .int t.rolloutModifiedSeconds),
    ("rollout_modified_nanoseconds", .int t.rolloutModifiedNanoseconds),
    ("rollout_changed_seconds", .int t.rolloutChangedSeconds),
    ("rollout_changed_nanoseconds", .int t.rolloutChangedNanoseconds)]

def PendingLaunch.toJson (p : PendingLaunch) : Json :=
  .obj ([("launch_id", .str p.launchId), ("profile_id", .str p.profileId),
    ("canonical_cwd", .str p.canonicalCwd), ("mode", p.mode.toJson)] ++
    present "codex_version" (p.codexVersion.map .str) ++
    [("adapter_version", .str p.adapterVersion),
    ("pre_inventory", .arr (p.preInventory.map InventoryThread.toJson)),
    ("phase", p.phase.toJson), ("started_at", .int p.startedAt)])

def GenerationRollout.toJson (r : GenerationRollout) : Json :=
  .obj [("locator", .obj [("root", r.locator.root.toJson),
      ("relative_path", .str r.locator.relativePath)]),
    ("fingerprint", .obj [("device", .int r.fingerprint.device),
      ("inode", .int r.fingerprint.inode), ("length", .int r.fingerprint.length),
      ("mode", .int r.fingerprint.mode), ("owner", .int r.fingerprint.owner),
      ("link_count", .int r.fingerprint.linkCount),
      ("modified_seconds", .int r.fingerprint.modifiedSeconds),
      ("modified_nanoseconds", .int r.fingerprint.modifiedNanoseconds),
      ("changed_seconds", .int r.fingerprint.changedSeconds),
      ("changed_nanoseconds", .int r.fingerprint.changedNanoseconds),
      ("sha256", .str r.fingerprint.sha256)])]

def ObservedHandoffTarget.toJson (t : ObservedHandoffTarget) : Json :=
  .obj [("thread_id", .str t.threadId), ("canonical_cwd", .str t.canonicalCwd),
    ("codex_version", .str t.codexVersion), ("adapter_version", .str t.adapterVersion),
    ("rollout", t.rollout.toJson), ("observed_at", .int t.observedAt)]

def HandoffTransition.toJson (t : HandoffTransition) : Json :=
  .obj ([("transition_id", .str t.transitionId), ("conversation_id", .str t.conversationId),
    ("source_generation", .int t.sourceGeneration), ("target_generation", .int t.targetGeneration),
    ("source_profile_id", .str t.sourceProfileId), ("target_profile_id", .str t.targetProfileId),
    ("canonical_cwd", .str t.canonicalCwd), ("trust_domain_id", .str t.trustDomainId),
    ("reason", t.reason.toJson), ("source_rollout", t.sourceRollout.toJson),
    ("phase", t.phase.toJson)] ++
    present "target_baseline_thread_ids" (if t.targetBaselineThreadIds = [] then none
      else some (.arr (t.targetBaselineThreadIds.map .str))) ++
    present "fork_attempts" (if t.forkAttempts = 0 then none else some (.int t.forkAttempts)) ++
    present "fork_requested_at" (t.forkRequestedAt.map .int) ++
    present "observed_target" (t.observedTarget.map ObservedHandoffTarget.toJson) ++
    [("prepared_at", .int t.preparedAt), ("updated_at", .int t.updatedAt)])

def ConversationGeneration.toJson (g : ConversationGeneration) : Json :=
  .obj ([("generation", .int g.generation), ("profile_id", .str g.profileId),
    ("thread_id", .str g.threadId), ("canonical_cwd", .str g.canonicalCwd),
    ("codex_version", .str g.codexVersion), ("adapter_version", .str g.adapterVersion),
    ("bound_at", .int g.boundAt)] ++
    present "trust_domain_id" (g.trustDomainId.map .str) ++
    present "rollout" (g.rollout.map GenerationRollout.toJson))

def Conversation.toJson (c : Conversation) : Json :=
  .obj [("conversation_id", .str c.conversationId), ("provider", c.provider.toJson),
    ("generations", .arr (c.generations.map ConversationGeneration.toJson)),
    ("active_generation", .int c.activeGeneration),
    ("last_safe_lifecycle", c.lastSafeLifecycle.toJson)]

def WorkspaceHead.toJson (h : WorkspaceHead) : Json :=
  .obj [("provider", h.provider.toJson), ("canonical_cwd", .str h.canonicalCwd),
    ("state", h.state.toJson), ("conversation_id", nullable .str h.conversationId),
    ("generation", nullable (fun n => .int n) h.generation)]

def PreMigrationBackup.toJson (b : PreMigrationBackup) : Json :=
  .obj [("schema_version", .int b.schemaVersion), ("revision", .int b.revision),
    ("sha256", .str b.sha256)]

def ConversationDocument.toJson (d : ConversationDocument) : Json :=
  .obj ([("schema_version", .int d.schemaVersion), ("revision", .int d.revision),
    ("conversations", .arr (d.conversations.map Conversation.toJson)),
    ("workspace_heads", .arr (d.workspaceHeads.map WorkspaceHead.toJson)),
    ("pending_launches", .arr (d.pendingLaunches.map PendingLaunch.toJson))] ++
    present "pre_migration_backup" (d.preMigrationBackup.map PreMigrationBackup.toJson) ++
    present "active_transition" (d.activeTransition.map HandoffTransition.toJson))

/-- The bytes of the file a document is written to. -/
def ConversationDocument.toVecPretty (d : ConversationDocument) : List UInt8 :=
  Json.pretty 0 d.toJson

end Calcifer
