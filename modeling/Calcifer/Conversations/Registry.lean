import Calcifer.Conversations.Operations

/-!
# The registry on disk

`Disk` holds the two files of the registry as the documents they encode. A transaction loads and
validates the current document, applies an operation, and publishes the result by an atomic rename;
`RegistryM` keeps what is on disk when an operation fails, since an error can follow a rename.
The public operations of `ConversationRegistry` are in the namespace of that name, and `Operation`
collects the mutating ones as the steps of one transition system.
-/

namespace Calcifer

open Checks

instance neZero_bytes : NeZero 256 := ⟨by decide⟩

/-- SHA-256 of a byte string. -/
class Sha256 where
  digest : List UInt8 → List (Fin 256)
  length_digest : ∀ bytes, (digest bytes).length = 32

/-- The two lowercase hexadecimal digits of a byte. -/
def hexByte (byte : Fin 256) : List Char :=
  [Uuid.hexDigit ⟨byte / 16, by omega⟩, Uuid.hexDigit ⟨byte % 16, by omega⟩]

def sha256Hex [Sha256] (bytes : List UInt8) : String :=
  String.ofList ((Sha256.digest bytes).flatMap hexByte)

/-- The files of the registry: the current document, and the last v1 document before the
migration. -/
structure Disk where
  registry : Option ConversationDocument
  backup : Option ConversationDocument
deriving DecidableEq, Repr

/-- The files before the first transaction. -/
def Disk.empty : Disk := ⟨none, none⟩

/-- The current document, which is the default one before the first transaction. -/
def Disk.document (disk : Disk) : ConversationDocument := disk.registry.getD {}

/-- An operation on the registry. What is on disk is kept when it fails. -/
def RegistryM (α : Type) : Type := Disk → Except ConversationError α × Disk

namespace RegistryM

variable {α β : Type}

instance : Monad RegistryM where
  pure a := fun disk => (.ok a, disk)
  bind x f := fun disk => match x disk with
    | (.ok a, disk) => f a disk
    | (.error e, disk) => (.error e, disk)

/-- A computation that does not touch the disk. -/
def lift (x : Except ConversationError α) : RegistryM α := fun disk => (x, disk)

/-- A computation that reads the disk. -/
def inspect (f : Disk → Except ConversationError α) : RegistryM α := fun disk => (f disk, disk)

/-- Rewrite what is on disk. -/
def publish (f : Disk → Disk) : RegistryM Unit := fun disk => (.ok (), f disk)

/-- Fail with `e` when the host fails here. -/
def faultAt (host : Host) (fault : Fault) (e : ConversationError) : RegistryM Unit :=
  lift (rejectIf (host.fault = some fault) e)

end RegistryM

open RegistryM

variable [Sha256]

/-! ## Loading -/

def verifyPreMigrationBackup (disk : Disk) (metadata : PreMigrationBackup) :
    Except ConversationError Unit := do
  let backup ← okOr disk.backup (invalid "schema v2 pre-migration backup is missing")
  let bytes := backup.toVecPretty
  rejectIf (bytes.length > maxRegistryBytes ∨ sha256Hex bytes ≠ metadata.sha256)
    (invalid "schema v2 pre-migration backup does not match its digest")
  validateV1Document backup
  rejectIf (metadata.schemaVersion ≠ backup.schemaVersion ∨ metadata.revision ≠ backup.revision)
    (invalid "schema v2 pre-migration backup revision is invalid")

/-- Load a stored document. -/
def loadStored (disk : Disk) (document : ConversationDocument) :
    Except ConversationError ConversationDocument := do
  rejectIf (document.toVecPretty.length > maxRegistryBytes)
    (invalid "registry exceeds its size limit")
  let version := document.schemaVersion
  rejectIf (¬ (version = schemaVersionV1 ∨ version = schemaVersionV2))
    (invalid s!"unsupported conversation registry schema {version}")
  validateDocument document
  match document.preMigrationBackup with
  | some metadata => verifyPreMigrationBackup disk metadata
  | none => pure ()
  pure document

def load (disk : Disk) : Except ConversationError ConversationDocument :=
  match disk.registry with
  | none => pure {}
  | some document => loadStored disk document

/-! ## Saving -/

/-- The checks on a document before it is written. -/
def checkSave (document : ConversationDocument) : Except ConversationError Unit := do
  validateDocument document
  rejectIf (document.toVecPretty.length > maxRegistryBytes)
    (invalid "registry exceeds its size limit")

def save (host : Host) (document : ConversationDocument) : RegistryM Unit := do
  lift (checkSave document)
  faultAt host .publishRegistry .io
  publish fun disk => { disk with registry := some document }
  faultAt host .syncRegistry .commitUncertain

def serializeV1Document (document : ConversationDocument) :
    Except ConversationError (List UInt8) := do
  validateV1Document document
  let bytes := document.toVecPretty
  rejectIf (bytes.length > maxRegistryBytes) (invalid "registry exceeds its size limit")
  pure bytes

/-- Whether the backup on disk already is the one to be saved. -/
def backupMatches (disk : Disk) (document : ConversationDocument)
    (metadata : PreMigrationBackup) : Except ConversationError Bool :=
  match disk.backup with
  | none => pure false
  | some existing => do
    let bytes := existing.toVecPretty
    rejectIf (bytes.length > maxRegistryBytes)
      (invalid "pre-migration backup exceeds its size limit")
    validateV1Document existing
    pure (existing = document ∧ sha256Hex bytes = metadata.sha256)

def savePreMigrationBackup (host : Host) (document : ConversationDocument)
    (metadata : PreMigrationBackup) : RegistryM Unit := do
  let bytes ← lift (serializeV1Document document)
  lift (rejectIf (metadata.schemaVersion ≠ schemaVersionV1 ∨
      metadata.revision ≠ document.revision ∨ metadata.sha256 ≠ sha256Hex bytes)
    (invalid "pre-migration backup metadata does not match schema v1"))
  let same ← inspect fun disk => backupMatches disk document metadata
  if same then
    faultAt host .syncBackup .commitUncertain
  else do
    faultAt host .publishBackup .io
    publish fun disk => { disk with backup := some document }
    faultAt host .syncBackup .commitUncertain

/-! ## Transactions -/

def verifyPrivateDirectory (host : Host) : Except ConversationError Unit := do
  rejectIf (host.fault = some .missingRoot) .io
  rejectIf (host.fault = some .unsafeRoot) (invalid "managed conversation directory is unsafe")

def nextRevision (document : ConversationDocument) :
    Except ConversationError ConversationDocument := do
  rejectIf (¬ document.revision + 1 < 2 ^ 64) (invalid "revision overflow")
  pure { document with revision := document.revision + 1 }

def transact {α : Type} (host : Host)
    (operation : ConversationDocument → Except ConversationError (α × ConversationDocument)) :
    RegistryM α := do
  lift (verifyPrivateDirectory host)
  faultAt host .openRegistry .io
  let document ← inspect load
  let (result, document) ← lift (operation document)
  let document ← lift (nextRevision document)
  save host document
  pure result

/-- The v2 form of a v1 document, which remembers the document it came from. -/
def migrate (original : ConversationDocument) :
    Except ConversationError ConversationDocument := do
  let backupBytes ← serializeV1Document original
  pure { original with
    schemaVersion := schemaVersionV2
    preMigrationBackup := some {
      schemaVersion := schemaVersionV1
      revision := original.revision
      sha256 := sha256Hex backupBytes } }

/-- The document a v2 operation works on. -/
def upgrade (original : ConversationDocument) : Except ConversationError ConversationDocument :=
  if original.schemaVersion = schemaVersionV1 then migrate original else pure original

/-- Before the first v2 document is written, save the v1 document it replaces. -/
def saveMigrated (host : Host) (original document : ConversationDocument) : RegistryM Unit :=
  if original.schemaVersion = schemaVersionV1 then do
    let metadata ← lift (okOr document.preMigrationBackup
      (invalid "v2 pre-migration backup metadata is missing"))
    savePreMigrationBackup host original metadata
  else pure ()

def transactV2 {α : Type} (host : Host)
    (operation : ConversationDocument → Except ConversationError (α × ConversationDocument)) :
    RegistryM α := do
  lift (verifyPrivateDirectory host)
  faultAt host .openRegistry .io
  let original ← inspect load
  let document ← lift (upgrade original)
  let (result, document) ← lift (operation document)
  let document ← lift (nextRevision document)
  lift (validateDocument document)
  saveMigrated host original document
  save host document
  pure result

/-- Read the current document without changing it. -/
def read {α : Type} (host : Host)
    (operation : ConversationDocument → Except ConversationError α) : RegistryM α := do
  faultAt host .missingRoot .notFound
  lift (verifyPrivateDirectory host)
  faultAt host .openRegistry .io
  let document ← inspect load
  lift (operation document)

/-! ## The public operations -/

namespace ConversationRegistry

def beginLaunch (host : Host) (profileId path : String) (mode : LaunchMode) (codexVersion : String)
    (preInventory : List InventoryThread) : RegistryM String := do
  lift (validateUuid profileId "profile id")
  lift (rejectIf mode.isUntracked (invalid "tracked launch preparation requires a capture mode"))
  let canonicalCwd ← lift (canonicalPathString host path)
  lift (validateCodexVersion codexVersion)
  let preInventory ← lift (normalizeInventory preInventory)
  let launchId := host.newV4.toString
  let startedAt ← lift (unixTimestamp host)
  let overlapping ← transact host fun document => document.beginLaunch {
    launchId, profileId, canonicalCwd, mode, codexVersion := some codexVersion,
    adapterVersion := cargoPkgVersion, preInventory, phase := .prepared, startedAt }
  lift (rejectIf overlapping .ambiguous)
  pure launchId

def markProviderStarted (host : Host) (launchId : String) : RegistryM Unit := do
  lift (validateUuid launchId "launch id")
  transact host fun document => document.setPendingPhase launchId .providerStarted

def markCaptureFailed (host : Host) (launchId : String) : RegistryM Unit := do
  lift (validateUuid launchId "launch id")
  transact host fun document => document.setPendingPhase launchId .captureFailed

def finishLaunch (host : Host) (launchId : String) (resolution : LaunchResolution) :
    RegistryM (Option HeadBinding) := do
  lift (validateUuid launchId "launch id")
  transact host fun document => document.finishLaunch host launchId resolution

def adopt (host : Host) (binding : BindingInput) : RegistryM HeadBinding := do
  lift (validateBindingInput binding)
  transact host fun document => document.adopt host binding

def refreshAdopted (host : Host) (expected : HeadBinding) (binding : BindingInput) :
    RegistryM HeadBinding := do
  lift (validateBindingInput binding)
  lift (rejectIf (expected.profileId ≠ binding.profileId ∨ expected.threadId ≠ binding.threadId ∨
    expected.canonicalCwd ≠ binding.canonicalCwd ∨
    expected.codexVersion ≠ binding.codexVersion) .ambiguous)
  transact host fun document => document.refreshAdopted host expected binding

def resolveHead (host : Host) (path : String) : RegistryM HeadBinding := do
  let canonicalCwd ← lift (canonicalPathString host path)
  read host fun document => document.resolveHeadDocument canonicalCwd

def markWorkspaceAmbiguous (host : Host) (path : String) : RegistryM Unit := do
  let canonicalCwd ← lift (canonicalPathString host path)
  transact host fun document => document.markWorkspaceAmbiguous canonicalCwd

def prepareUntracked (host : Host) (profileId path : String) (mode : LaunchMode) :
    RegistryM String := do
  lift (validateUuid profileId "profile id")
  lift (rejectIf (¬ mode.isUntracked) (invalid "untracked preparation requires an untracked mode"))
  let canonicalCwd ← lift (canonicalPathString host path)
  let launchId := host.newV4.toString
  let startedAt ← lift (unixTimestamp host)
  transact host fun document => document.prepareUntracked {
    launchId, profileId, canonicalCwd, mode, codexVersion := none,
    adapterVersion := cargoPkgVersion, preInventory := [], phase := .prepared, startedAt }

/-- The checks on a handoff preparation before its transaction. -/
def checkPreparation (preparation : HandoffPreparation) : Except ConversationError Unit := do
  validateUuid preparation.expectedSource.conversationId "conversation id"
  validateUuid preparation.expectedSource.profileId "source profile id"
  validateUuid preparation.expectedSource.threadId "source thread id"
  validateStoredPath preparation.expectedSource.canonicalCwd
  validateCodexVersion preparation.expectedSource.codexVersion
  validateUuid preparation.targetProfileId "target profile id"
  validateUuid preparation.trustDomainId "trust domain id"
  validateRollout preparation.sourceRollout
  rejectIf (preparation.reason = .unknownLegacy)
    (invalid "a new handoff requires an explicit reason")
  rejectIf (preparation.expectedSource.profileId = preparation.targetProfileId)
    (invalid "handoff target must use a different profile")

def prepareHandoff (host : Host) (preparation : HandoffPreparation) :
    RegistryM HandoffTransition := do
  lift (checkPreparation preparation)
  transactV2 host fun document => document.prepareHandoff host preparation

def currentHandoff (host : Host) : RegistryM (Option HandoffTransition) :=
  read host fun document => pure document.activeTransition

def advanceHandoffPhase (host : Host) (transitionId : String) (expected next : HandoffPhase) :
    RegistryM HandoffTransition := do
  lift (validateUuid transitionId "transition id")
  transactV2 host fun document => document.advanceHandoffPhase host transitionId expected next

def markSourceStopRequested (host : Host) (transitionId : String) : RegistryM HandoffTransition :=
  advanceHandoffPhase host transitionId .prepared .sourceStopRequested

def markSourceStopped (host : Host) (transitionId : String) : RegistryM HandoffTransition :=
  advanceHandoffPhase host transitionId .sourceStopRequested .sourceStopped

def recordForkIntent (host : Host) (transitionId : String)
    (targetBaselineThreadIds : List String) : RegistryM HandoffTransition := do
  lift (validateUuid transitionId "transition id")
  lift (validateThreadBaseline targetBaselineThreadIds)
  transactV2 host fun document =>
    document.recordForkIntent host transitionId targetBaselineThreadIds

def recordBoundedForkRetry (host : Host) (transitionId : String) :
    RegistryM HandoffTransition := do
  lift (validateUuid transitionId "transition id")
  transactV2 host fun document => document.recordBoundedForkRetry host transitionId

/-- The checks on a handoff target before its transaction. -/
def checkTarget (target : HandoffTarget) : Except ConversationError Unit := do
  validateUuid target.threadId "target thread id"
  validateStoredPath target.canonicalCwd
  validateCodexVersion target.codexVersion
  validateRollout target.rollout

def observeHandoffTarget (host : Host) (transitionId : String) (target : HandoffTarget) :
    RegistryM HandoffTransition := do
  lift (validateUuid transitionId "transition id")
  lift (checkTarget target)
  transactV2 host fun document => document.observeHandoffTarget host transitionId target

def commitHandoff (host : Host) (transitionId : String) : RegistryM HeadBinding := do
  lift (validateUuid transitionId "transition id")
  transactV2 host fun document => document.commitHandoff host transitionId

def finishHandoffAttachment (host : Host) (transitionId : String) : RegistryM HeadBinding := do
  lift (validateUuid transitionId "transition id")
  transactV2 host fun document => document.finishHandoffAttachment transitionId

end ConversationRegistry

end Calcifer
