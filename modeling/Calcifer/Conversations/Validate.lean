import Calcifer.Conversations.Document
import Calcifer.Library.Checks
import Calcifer.Library.Text

/-!
# The validators of the registry

Every document is validated when it is loaded and before it is saved. The loops of
`validateDocumentContents` are split into one definition for each kind of entry
(`validateConversation`, `validateGeneration`, `validateHead`, `validatePending`); the checks keep
the order of the source, so that the first failing one decides the error.
-/

namespace Calcifer

open Checks Text

/-- The error of a registry that is not valid. -/
abbrev invalid (reason : String) : ConversationError := .registryInvalid reason

/-- A canonical UUID: lowercase and hyphenated. -/
def validateUuid (value label : String) : Except ConversationError Unit := do
  let parsed ← okOr (Uuid.parseStr value) (invalid s!"{label} is not a canonical UUID")
  rejectIf (parsed.toString ≠ value) (invalid s!"{label} is not canonical")

def validateCodexVersion (version : String) : Except ConversationError Unit :=
  rejectIf (version ≠ "0.144.4") .sessionSchemaUnsupported

/-- Whether every byte is below 128. -/
def isAscii (s : String) : Bool := (bytes s).all fun b => b < 128

def validateAdapterVersion (version : String) : Except ConversationError Unit :=
  rejectIf (version.isEmpty ∨ (bytes version).length > 64 ∨ ¬ isAscii version)
    (invalid "adapter version is invalid")

def validateStoredPath (path : String) : Except ConversationError Unit :=
  rejectIf (¬ UnixPath.isAbsolute path ∨
      (UnixPath.components path).any fun c => c = .curDir ∨ c = .parentDir)
    (invalid "canonical cwd is invalid")

/-- An ASCII digit. -/
def isDigit (b : UInt8) : Bool := 48 ≤ b ∧ b ≤ 57

/-- A lowercase hexadecimal digit. -/
def isLowerHex (b : UInt8) : Bool := isDigit b || (97 ≤ b && b ≤ 102)

/-- Sixty-four lowercase hexadecimal digits. -/
def isSha256Hex (s : String) : Bool := (bytes s).length == 64 && (bytes s).all isLowerHex

/-- A byte of a rollout path component: an ASCII letter or digit, `.`, `_` or `-`. -/
def isRolloutByte (b : UInt8) : Bool :=
  isDigit b || (65 ≤ b && b ≤ 90) || (97 ≤ b && b ≤ 122) || b == 46 || b == 95 || b == 45

def validateRollout (rollout : GenerationRollout) : Except ConversationError Unit := do
  let relative := rollout.locator.relativePath
  let components := UnixPath.components relative
  let lexicalComponents := UnixPath.pieces relative
  rejectIf (relative.isEmpty ∨
      (bytes relative).length > maxRolloutRelativeBytes ∨
      UnixPath.isAbsolute relative ∨
      components.length > maxRolloutComponents ∨
      lexicalComponents.length ≠ components.length ∨
      (lexicalComponents.any fun component => component.isEmpty || !component.all isRolloutByte) ∨
      components.any fun component => match component with
        | .normal _ => false
        | _ => true)
    (invalid "rollout locator is not a bounded root-relative path")
  let fingerprint := rollout.fingerprint
  rejectIf (fingerprint.inode = 0 ∨
      fingerprint.length > maxRolloutBytes ∨
      fingerprint.linkCount ≠ 1 ∨
      fingerprint.modifiedSeconds < 0 ∨
      fingerprint.changedSeconds < 0 ∨
      ¬ (0 ≤ fingerprint.modifiedNanoseconds ∧ fingerprint.modifiedNanoseconds < 1000000000) ∨
      ¬ (0 ≤ fingerprint.changedNanoseconds ∧ fingerprint.changedNanoseconds < 1000000000) ∨
      ¬ isSha256Hex fingerprint.sha256)
    (invalid "rollout fingerprint is invalid")

def sameRolloutFile (left right : GenerationRollout) : Bool :=
  left.fingerprint.device = right.fingerprint.device ∧
    left.fingerprint.inode = right.fingerprint.inode

def validateObservedTarget (target : ObservedHandoffTarget) : Except ConversationError Unit := do
  validateUuid target.threadId "target thread id"
  validateStoredPath target.canonicalCwd
  validateCodexVersion target.codexVersion
  validateAdapterVersion target.adapterVersion
  validateRollout target.rollout
  rejectIf (target.observedAt < 0) (invalid "target observation timestamp is invalid")

/-- Canonical thread ids in strictly ascending order. -/
def validateThreadBaseline (threadIds : List String) : Except ConversationError Unit := do
  rejectIf (threadIds.length > maxInventoryThreads)
    (invalid "target baseline exceeds its thread limit")
  forEach threadIds fun index threadId => do
    validateUuid threadId "target baseline thread id"
    rejectIf (0 < index ∧ (threadIds[index - 1]?).any fun previous => ¬ previous < threadId)
      (invalid "target baseline thread ids are not canonical and unique")

/-- Sort an inventory by thread id and check its entries. -/
def normalizeInventory (inventory : List InventoryThread) :
    Except ConversationError (List InventoryThread) := do
  rejectIf (inventory.length > maxInventoryThreads) (invalid "inventory exceeds its thread limit")
  let inventory := inventory.insertionSort fun left right => left.threadId ≤ right.threadId
  forEach inventory fun index thread => do
    validateUuid thread.threadId "thread id"
    rejectIf (thread.updatedAt < 0 ∨ thread.recencyAt.any (· < 0))
      (invalid "inventory timestamp is invalid")
    rejectIf (thread.rolloutLength > 64 * 1024 * 1024 ∨
        ¬ (0 ≤ thread.rolloutModifiedNanoseconds ∧
          thread.rolloutModifiedNanoseconds < 1000000000) ∨
        ¬ (0 ≤ thread.rolloutChangedNanoseconds ∧ thread.rolloutChangedNanoseconds < 1000000000))
      (invalid "inventory rollout fingerprint is invalid")
    rejectIf ((inventory.take index).any fun previous => previous.threadId = thread.threadId)
      (invalid "inventory contains duplicate thread ids")
  pure inventory

def validateBindingInput (binding : BindingInput) : Except ConversationError Unit := do
  validateUuid binding.profileId "profile id"
  validateUuid binding.threadId "thread id"
  validateStoredPath binding.canonicalCwd
  validateCodexVersion binding.codexVersion
  rejectIf (binding.lifecycle = .missing ∨ binding.lifecycle = .archived ∨
      binding.lifecycle = .incompatible ∨ binding.lifecycle = .ambiguous)
    (invalid "an unusable lifecycle cannot become a ready head")

/-! ## Documents -/

/-- The first trust domain recorded in a lineage. -/
def Conversation.lineageTrustDomain (c : Conversation) : Option String :=
  c.generations.findSome? (·.trustDomainId)

/-- The metadata a handoff records about a generation. -/
def validateHandoffMetadata (schemaV1 : Bool) (conversation : Conversation)
    (generation : ConversationGeneration) : Except ConversationError Unit :=
  match generation.trustDomainId, generation.rollout, schemaV1 with
  | none, none, _ => .ok ()
  | some trustDomainId, some rollout, false => do
    validateUuid trustDomainId "trust domain id"
    validateRollout rollout
    rejectIf (conversation.lineageTrustDomain ≠ some trustDomainId)
      (invalid "lineage generations cross trust domains")
  | _, _, _ => .error (invalid "generation handoff metadata is incomplete")

/-- An index as a 32-bit generation number. -/
def generationOfIndex (index : ℕ) : ℕ := if index < 2 ^ 32 then index else 2 ^ 32 - 1

def validateGeneration (schemaV1 : Bool) (conversation : Conversation) (index : ℕ)
    (generation : ConversationGeneration) : Except ConversationError Unit := do
  rejectIf (generation.generation ≠ generationOfIndex index)
    (invalid "lineage generations are duplicated or skipped")
  validateUuid generation.profileId "profile id"
  validateUuid generation.threadId "thread id"
  validateStoredPath generation.canonicalCwd
  validateCodexVersion generation.codexVersion
  validateAdapterVersion generation.adapterVersion
  rejectIf (generation.boundAt < 0) (invalid "binding timestamp is invalid")
  rejectIf (conversation.generations.head?.map (·.canonicalCwd) ≠ some generation.canonicalCwd)
    (invalid "lineage generations disagree on canonical cwd")
  validateHandoffMetadata schemaV1 conversation generation
  rejectIf (¬ schemaV1 ∧ conversation.generations.length > 1 ∧
      (generation.trustDomainId = none ∨ generation.rollout = none))
    (invalid "multi-generation lineage lacks handoff metadata")
  rejectIf (schemaV1 ∧ (generation.trustDomainId ≠ none ∨ generation.rollout ≠ none))
    (invalid "schema v1 contains generation handoff metadata")

def validateConversation (document : ConversationDocument) (schemaV1 : Bool) (index : ℕ)
    (conversation : Conversation) : Except ConversationError Unit := do
  validateUuid conversation.conversationId "conversation id"
  rejectIf (conversation.provider ≠ .codex ∨
      conversation.generations = [] ∨
      conversation.generations.length > maxLineageGenerations ∨
      (schemaV1 ∧ (conversation.generations.length ≠ 1 ∨ conversation.activeGeneration ≠ 0)))
    (invalid s!"conversation {index} violates lineage bounds")
  rejectIf (¬ (conversation.lastSafeLifecycle = .clean ∨
      conversation.lastSafeLifecycle = .interrupted ∨
      conversation.lastSafeLifecycle = .unknownCrash))
    (invalid s!"conversation {index} has an unusable lifecycle")
  rejectIf (conversation.generations.getLast?.map (·.generation) ≠
      some conversation.activeGeneration)
    (invalid "active generation is not the ordered lineage tail")
  forEach conversation.generations (validateGeneration schemaV1 conversation)
  rejectIf ((document.conversations.take index).any fun previous =>
      previous.conversationId = conversation.conversationId)
    (invalid "registry contains a duplicate conversation binding")
  forEach conversation.generations fun _ generation =>
    rejectIf (((document.conversations.take index).flatMap (·.generations)).any (fun previous =>
        previous.threadId = generation.threadId) ∨
        (conversation.generations.take generation.generation).any fun previous =>
          previous.threadId = generation.threadId)
      (invalid "registry contains a duplicate conversation binding")

/-- What a head in each state must satisfy. -/
def validateHeadState (document : ConversationDocument) (head : WorkspaceHead) :
    Except ConversationError Unit :=
  match head.state with
  | .ready => do
    let conversationId ← okOr head.conversationId (invalid "ready head is incomplete")
    validateUuid conversationId "conversation id"
    let generationNumber ← okOr head.generation (invalid "ready head is incomplete")
    let conversation ← okOr (document.conversations.find? fun conversation =>
        conversation.conversationId = conversationId)
      (invalid "head references an unknown conversation")
    let generation ← okOr (conversation.generations.find? fun generation =>
        generation.generation = generationNumber)
      (invalid "head references an unknown generation")
    rejectIf (conversation.provider ≠ head.provider ∨
        generation.canonicalCwd ≠ head.canonicalCwd ∨
        generation.generation ≠ conversation.activeGeneration)
      (invalid "head does not match its immutable generation")
  | .needsSelection =>
    rejectIf (head.conversationId.isSome ≠ head.generation.isSome)
      (invalid "ambiguous head is partially populated")

def validateHead (document : ConversationDocument) (index : ℕ) (head : WorkspaceHead) :
    Except ConversationError Unit := do
  validateStoredPath head.canonicalCwd
  rejectIf ((document.workspaceHeads.take index).any fun previous =>
      previous.provider = head.provider ∧ previous.canonicalCwd = head.canonicalCwd)
    (invalid "registry contains duplicate workspace heads")
  validateHeadState document head

/-- The capture metadata a pending launch carries in its mode. -/
def validateCapture (pending : PendingLaunch) : Except ConversationError Unit :=
  if pending.mode.isUntracked then
    rejectIf (pending.codexVersion ≠ none ∨ pending.preInventory ≠ [])
      (invalid "untracked ownership contains capture metadata")
  else do
    let codexVersion ← okOr pending.codexVersion
      (invalid "tracked pending launch has no Codex version")
    validateCodexVersion codexVersion

def validatePending (document : ConversationDocument) (index : ℕ) (pending : PendingLaunch) :
    Except ConversationError Unit := do
  validateUuid pending.launchId "launch id"
  validateUuid pending.profileId "profile id"
  validateStoredPath pending.canonicalCwd
  validateAdapterVersion pending.adapterVersion
  rejectIf (pending.startedAt < 0 ∨ pending.preInventory.length > maxInventoryThreads)
    (invalid "pending launch metadata is out of bounds")
  validateCapture pending
  let inventory ← normalizeInventory pending.preInventory
  rejectIf (inventory ≠ pending.preInventory) (invalid "pending inventory is not canonical")
  rejectIf ((document.pendingLaunches.take index).any fun previous =>
      previous.launchId = pending.launchId ∨ previous.canonicalCwd = pending.canonicalCwd)
    (invalid "registry contains overlapping pending launches")

def validateDocumentContents (document : ConversationDocument) (schemaV1 : Bool) :
    Except ConversationError Unit := do
  forEach document.conversations (validateConversation document schemaV1)
  forEach document.workspaceHeads (validateHead document)
  forEach document.pendingLaunches (validatePending document)

/-! ## The active transition -/

/-- Whether the journal already holds a fork intent. -/
def HandoffPhase.forkStarted : HandoffPhase → Bool
  | .forkRequested | .forkObserved | .committedUnattached => true
  | _ => false

/-- Whether the journal already holds an observed target. -/
def HandoffPhase.observedRequired : HandoffPhase → Bool
  | .forkObserved | .committedUnattached => true
  | _ => false

/-- The checks on a transition that look at nothing else. -/
def validateTransitionShape (transition : HandoffTransition) : Except ConversationError Unit := do
  validateUuid transition.transitionId "transition id"
  validateUuid transition.conversationId "conversation id"
  validateUuid transition.sourceProfileId "source profile id"
  validateUuid transition.targetProfileId "target profile id"
  validateUuid transition.trustDomainId "trust domain id"
  validateStoredPath transition.canonicalCwd
  validateRollout transition.sourceRollout
  rejectIf (transition.sourceProfileId ≠ transition.targetProfileId ∧
      ¬ transition.sourceGeneration + 1 < 2 ^ 32) (invalid "generation overflow")
  rejectIf (transition.sourceProfileId = transition.targetProfileId ∨
      transition.targetGeneration ≠ transition.sourceGeneration + 1 ∨
      transition.preparedAt < 0 ∨
      transition.updatedAt < transition.preparedAt)
    (invalid "handoff transition metadata is invalid")
  validateThreadBaseline transition.targetBaselineThreadIds
  if transition.phase.forkStarted then do
    let forkRequestedAt ← okOr transition.forkRequestedAt
      (invalid "handoff fork intent has no request timestamp")
    rejectIf (¬ (1 ≤ transition.forkAttempts ∧ transition.forkAttempts ≤ 2) ∨
        forkRequestedAt < transition.preparedAt ∨
        forkRequestedAt > transition.updatedAt)
      (invalid "handoff fork intent metadata is invalid")
  else
    rejectIf (transition.forkAttempts ≠ 0 ∨ transition.forkRequestedAt ≠ none ∨
        transition.targetBaselineThreadIds ≠ [])
      (invalid "pre-fork handoff contains fork intent metadata")

/-- An observed target against the transition and its source. -/
def validateObservation (transition : HandoffTransition) (source : ConversationGeneration) :
    Except ConversationError Unit := do
  rejectIf (transition.observedTarget.isSome ≠ transition.phase.observedRequired)
    (invalid "handoff target observation does not match its phase")
  match transition.observedTarget with
  | none => .ok ()
  | some target => do
    validateObservedTarget target
    rejectIf (target.canonicalCwd ≠ transition.canonicalCwd ∨
        target.threadId = source.threadId ∨
        sameRolloutFile target.rollout transition.sourceRollout ∨
        target.observedAt < transition.preparedAt ∨
        (transition.forkRequestedAt.any fun requestedAt => target.observedAt < requestedAt) ∨
        target.observedAt > transition.updatedAt)
      (invalid "observed handoff target conflicts with the source")

/-- The generation that is active while a transition is in its phase. -/
def HandoffTransition.expectedActive (transition : HandoffTransition) : ℕ :=
  if transition.phase = .committedUnattached then transition.targetGeneration
  else transition.sourceGeneration

/-- The lineage of the conversation against the phase. -/
def validateCommitment (transition : HandoffTransition) (conversation : Conversation) :
    Except ConversationError Unit := do
  rejectIf (conversation.activeGeneration ≠ transition.expectedActive)
    (invalid "handoff transition does not match the active generation")
  if transition.phase = .committedUnattached then do
    let target ← okOr transition.observedTarget (invalid "committed handoff target is missing")
    let generation ← okOr (conversation.generations.find? fun generation =>
        generation.generation = transition.targetGeneration)
      (invalid "committed handoff generation is missing")
    rejectIf (generation.profileId ≠ transition.targetProfileId ∨
        generation.threadId ≠ target.threadId ∨
        generation.canonicalCwd ≠ target.canonicalCwd ∨
        generation.codexVersion ≠ target.codexVersion ∨
        generation.adapterVersion ≠ target.adapterVersion ∨
        generation.trustDomainId ≠ some transition.trustDomainId ∨
        generation.rollout ≠ some target.rollout)
      (invalid "committed handoff target does not match its lineage")
  else
    rejectIf (conversation.generations.any fun generation =>
        generation.generation = transition.targetGeneration)
      (invalid "uncommitted handoff already has a target generation")

/-- The head and the pending launches of the workspace of a transition. -/
def validateTransitionWorkspace (document : ConversationDocument) (transition : HandoffTransition)
    (conversation : Conversation) : Except ConversationError Unit := do
  let head ← okOr (document.workspaceHeads.find? fun head =>
      head.provider = conversation.provider ∧ head.canonicalCwd = transition.canonicalCwd)
    (invalid "handoff workspace head is missing")
  rejectIf (head.state ≠ .ready ∨
      head.conversationId ≠ some transition.conversationId ∨
      head.generation ≠ some transition.expectedActive)
    (invalid "handoff workspace head does not match its phase")
  rejectIf (document.pendingLaunches.any fun pending =>
      pending.canonicalCwd = transition.canonicalCwd)
    (invalid "handoff overlaps a pending launch")

def validateActiveTransition (document : ConversationDocument) : Except ConversationError Unit :=
  match document.activeTransition with
  | none => .ok ()
  | some transition => do
    validateTransitionShape transition
    let conversation ← okOr (document.conversations.find? fun conversation =>
        conversation.conversationId = transition.conversationId)
      (invalid "handoff transition conversation is missing")
    let source ← okOr (conversation.generations.find? fun generation =>
        generation.generation = transition.sourceGeneration)
      (invalid "handoff source generation is missing")
    rejectIf (source.profileId ≠ transition.sourceProfileId ∨
        source.canonicalCwd ≠ transition.canonicalCwd ∨
        source.trustDomainId ≠ some transition.trustDomainId ∨
        source.rollout ≠ some transition.sourceRollout)
      (invalid "handoff source does not match its lineage")
    validateObservation transition source
    validateCommitment transition conversation
    validateTransitionWorkspace document transition conversation

/-! ## Schemas -/

def validateV1Document (document : ConversationDocument) : Except ConversationError Unit := do
  rejectIf (document.schemaVersion ≠ schemaVersionV1 ∨ document.preMigrationBackup ≠ none ∨
      document.activeTransition ≠ none)
    (invalid "schema v1 contains v2 state")
  validateDocumentContents document true

def validateV2Document (document : ConversationDocument) : Except ConversationError Unit := do
  rejectIf (document.schemaVersion ≠ schemaVersionV2) (invalid "schema v2 version is invalid")
  let backup ← okOr document.preMigrationBackup
    (invalid "schema v2 pre-migration backup metadata is missing")
  rejectIf (backup.schemaVersion ≠ schemaVersionV1 ∨ backup.revision > document.revision ∨
      ¬ isSha256Hex backup.sha256)
    (invalid "schema v2 pre-migration backup metadata is invalid")
  validateDocumentContents document false
  validateActiveTransition document

def validateDocument (document : ConversationDocument) : Except ConversationError Unit := do
  rejectIf (¬ (document.schemaVersion = schemaVersionV1 ∨ document.schemaVersion = schemaVersionV2))
    (invalid "unsupported conversation registry schema")
  if document.schemaVersion = schemaVersionV1 then validateV1Document document
  else validateV2Document document

end Calcifer
