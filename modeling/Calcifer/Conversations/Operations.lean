import Calcifer.Library.Lists
import Calcifer.Conversations.Validate

/-!
# Operations on a document

What each public operation of the registry does to the document inside its transaction. An
operation takes the loaded document and returns its result with the new document, or an error, in
which case the document is dropped. `Host` carries what one call reads from its surroundings.
-/

namespace Calcifer

open Checks Lists

/-- Where the file operations of a transaction can fail. -/
inductive Fault where
  /-- The directory of the registry does not exist. -/
  | missingRoot
  /-- The directory of the registry is not a private one. -/
  | unsafeRoot
  /-- The lock, the registry or its backup cannot be opened or read. -/
  | openRegistry
  /-- The backup is not renamed into place. -/
  | publishBackup
  /-- The backup is in place, but the directory cannot be synced. -/
  | syncBackup
  /-- The registry is not renamed into place. -/
  | publishRegistry
  /-- The registry is in place, but the directory cannot be synced. -/
  | syncRegistry
deriving DecidableEq, Repr

/-- What one call reads from its surroundings: the file system's canonical name of a directory,
the system clock in seconds since the epoch, a new random UUID, and where the file operations of
the transaction fail, if they do. -/
structure Host where
  canonicalDirectory : String → Option String
  clock : Option ℕ
  newV4 : Uuid
  fault : Option Fault

def unixTimestamp (host : Host) : Except ConversationError ℤ := do
  let seconds ← okOr host.clock (invalid "system clock is invalid")
  rejectIf (¬ seconds < 2 ^ 63) (invalid "system clock is invalid")
  pure (seconds : ℤ)

/-- The canonical name of an existing directory. -/
def canonicalPathString (host : Host) (path : String) : Except ConversationError String :=
  okOr (host.canonicalDirectory path) .cwdMismatch

namespace ConversationDocument

/-- Whether the active transition owns a workspace. -/
def transitioning (document : ConversationDocument) (canonicalCwd : String) : Bool :=
  document.activeTransition.any fun transition => transition.canonicalCwd = canonicalCwd

def ensureWorkspaceNotTransitioning (document : ConversationDocument) (canonicalCwd : String) :
    Except ConversationError Unit :=
  rejectIf (document.transitioning canonicalCwd) .transitionBusy

/-- Whether a pending launch owns a workspace. -/
def launching (document : ConversationDocument) (canonicalCwd : String) : Bool :=
  document.pendingLaunches.any fun pending => pending.canonicalCwd = canonicalCwd

/-- Whether a thread is bound to some generation of some conversation. -/
def bound (document : ConversationDocument) (threadId : String) : Bool :=
  document.conversations.any fun conversation =>
    conversation.generations.any fun generation => generation.threadId = threadId

/-- The head of a Codex workspace. -/
def isHeadOf (canonicalCwd : String) (head : WorkspaceHead) : Bool :=
  head.provider = .codex ∧ head.canonicalCwd = canonicalCwd

def headOf (document : ConversationDocument) (canonicalCwd : String) : Option WorkspaceHead :=
  document.workspaceHeads.find? (isHeadOf canonicalCwd)

def findConversation (document : ConversationDocument) (conversationId : String) :
    Option Conversation :=
  document.conversations.find? fun conversation => conversation.conversationId = conversationId

end ConversationDocument

/-- The generation of a conversation with a given number. -/
def Conversation.findGeneration (conversation : Conversation) (number : ℕ) :
    Option ConversationGeneration :=
  conversation.generations.find? fun generation => generation.generation = number

/-- The binding that names a generation of a conversation. -/
def Conversation.headBinding (conversation : Conversation) (generation : ConversationGeneration) :
    HeadBinding where
  conversationId := conversation.conversationId
  generation := generation.generation
  profileId := generation.profileId
  threadId := generation.threadId
  canonicalCwd := generation.canonicalCwd
  codexVersion := generation.codexVersion
  lifecycle := conversation.lastSafeLifecycle

namespace ConversationDocument

def resolveHeadDocument (document : ConversationDocument) (canonicalCwd : String) :
    Except ConversationError HeadBinding := do
  rejectIf (document.transitioning canonicalCwd) .transitionBusy
  rejectIf (document.launching canonicalCwd) .ambiguous
  let head ← okOr (document.headOf canonicalCwd) .notFound
  rejectIf (head.state ≠ .ready) .ambiguous
  let conversationId ← okOr head.conversationId (invalid "ready head has no conversation")
  let generationNumber ← okOr head.generation (invalid "ready head has no generation")
  let conversation ← okOr (document.findConversation conversationId)
    (invalid "head conversation is missing")
  let generation ← okOr (conversation.findGeneration generationNumber)
    (invalid "head generation is missing")
  pure (conversation.headBinding generation)

def markHeadNeedsSelection (document : ConversationDocument) (canonicalCwd : String) :
    ConversationDocument :=
  if (document.headOf canonicalCwd).isSome then
    { document with
      workspaceHeads := updateFirst (isHeadOf canonicalCwd)
        (fun head => { head with state := .needsSelection }) document.workspaceHeads }
  else
    { document with
      workspaceHeads := document.workspaceHeads ++
        [{ provider := .codex, canonicalCwd, state := .needsSelection,
           conversationId := none, generation := none }] }

section markHeadNeedsSelection

variable (d : ConversationDocument) (cwd : String)

/-- Marking a head changes nothing but the heads. -/
theorem markHeadNeedsSelection_eq :
    d.markHeadNeedsSelection cwd =
      { d with workspaceHeads := (d.markHeadNeedsSelection cwd).workspaceHeads } := by
  unfold markHeadNeedsSelection
  split_ifs <;> rfl

@[simp] theorem markHeadNeedsSelection_schemaVersion :
    (d.markHeadNeedsSelection cwd).schemaVersion = d.schemaVersion := by
  rw [markHeadNeedsSelection_eq]

@[simp] theorem markHeadNeedsSelection_revision :
    (d.markHeadNeedsSelection cwd).revision = d.revision := by
  rw [markHeadNeedsSelection_eq]

@[simp] theorem markHeadNeedsSelection_preMigrationBackup :
    (d.markHeadNeedsSelection cwd).preMigrationBackup = d.preMigrationBackup := by
  rw [markHeadNeedsSelection_eq]

@[simp] theorem markHeadNeedsSelection_conversations :
    (d.markHeadNeedsSelection cwd).conversations = d.conversations := by
  rw [markHeadNeedsSelection_eq]

@[simp] theorem markHeadNeedsSelection_pendingLaunches :
    (d.markHeadNeedsSelection cwd).pendingLaunches = d.pendingLaunches := by
  rw [markHeadNeedsSelection_eq]

@[simp] theorem markHeadNeedsSelection_activeTransition :
    (d.markHeadNeedsSelection cwd).activeTransition = d.activeTransition := by
  rw [markHeadNeedsSelection_eq]

end markHeadNeedsSelection

/-- Replace the head of a workspace by a ready one. -/
def setReadyHead (document : ConversationDocument) (canonicalCwd conversationId : String)
    (generation : ℕ) : ConversationDocument :=
  { document with
    workspaceHeads := (document.workspaceHeads.filter fun head => ¬ isHeadOf canonicalCwd head) ++
        [{ provider := .codex, canonicalCwd, state := .ready,
           conversationId := some conversationId, generation := some generation }] }

/-- Whether a generation binds exactly the profile and the thread of a binding. -/
def bindsSame (binding : BindingInput) (generation : ConversationGeneration) : Bool :=
  generation.profileId = binding.profileId ∧ generation.threadId = binding.threadId

/-- The generation a binding of a new thread starts a conversation with. -/
def firstGeneration (binding : BindingInput) (boundAt : ℤ) : ConversationGeneration where
  generation := 0
  profileId := binding.profileId
  threadId := binding.threadId
  canonicalCwd := binding.canonicalCwd
  codexVersion := binding.codexVersion
  adapterVersion := cargoPkgVersion
  boundAt
  trustDomainId := none
  rollout := none

/-- Bind a thread that a conversation already has: only the tail of the lineage in its own
workspace can be bound again. -/
def bindExisting (document : ConversationDocument) (binding : BindingInput)
    (conversation : Conversation) :
    Except ConversationError (String × ℕ × ConversationDocument) := do
  let generation ← okOr (conversation.generations.find? (bindsSame binding))
    (invalid "missing generation")
  rejectIf (generation.generation ≠ conversation.activeGeneration) .ambiguous
  rejectIf (generation.canonicalCwd ≠ binding.canonicalCwd) .cwdMismatch
  pure (conversation.conversationId, generation.generation,
    { document with
      conversations := updateFirst
        (fun conversation => conversation.generations.any (bindsSame binding))
        (fun conversation => { conversation with lastSafeLifecycle := binding.lifecycle })
        document.conversations })

/-- Bind a new thread: it becomes generation 0 of a new conversation. -/
def bindNew (host : Host) (document : ConversationDocument) (binding : BindingInput) :
    Except ConversationError (String × ℕ × ConversationDocument) := do
  let conversationId := host.newV4.toString
  let boundAt ← unixTimestamp host
  pure (conversationId, 0,
    { document with
      conversations := document.conversations ++
        [{ conversationId, provider := .codex, generations := [firstGeneration binding boundAt],
           activeGeneration := 0, lastSafeLifecycle := binding.lifecycle }] })

/-- The conversation and the generation a binding names, found or made. -/
def bindConversation (host : Host) (document : ConversationDocument) (binding : BindingInput) :
    Except ConversationError (String × ℕ × ConversationDocument) :=
  match document.conversations.find? fun conversation =>
      conversation.generations.any (bindsSame binding) with
  | some conversation => document.bindExisting binding conversation
  | none => document.bindNew host binding

def bindDocument (host : Host) (document : ConversationDocument) (binding : BindingInput) :
    Except ConversationError (HeadBinding × ConversationDocument) := do
  validateBindingInput binding
  document.ensureWorkspaceNotTransitioning binding.canonicalCwd
  rejectIf (document.conversations.any fun conversation =>
      conversation.generations.any fun generation =>
        generation.threadId = binding.threadId ∧ generation.profileId ≠ binding.profileId)
    .profileMismatch
  let (conversationId, generation, document) ← document.bindConversation host binding
  pure ({ conversationId, generation, profileId := binding.profileId,
          threadId := binding.threadId, canonicalCwd := binding.canonicalCwd,
          codexVersion := binding.codexVersion, lifecycle := binding.lifecycle },
    document.setReadyHead binding.canonicalCwd conversationId generation)

/-! ## Launches -/

/-- Record a launch, or mark the workspace ambiguous when another launch owns it. The result says
whether the launch overlaps. -/
def beginLaunch (document : ConversationDocument) (pending : PendingLaunch) :
    Except ConversationError (Bool × ConversationDocument) := do
  document.ensureWorkspaceNotTransitioning pending.canonicalCwd
  let overlapping := document.pendingLaunches.any fun existing =>
    existing.canonicalCwd = pending.canonicalCwd ∧ existing.launchId ≠ pending.launchId
  if overlapping then
    pure (true, document.markHeadNeedsSelection pending.canonicalCwd)
  else
    pure (false, { document with pendingLaunches := document.pendingLaunches ++ [pending] })

/-- Move a pending launch to a phase. -/
def setPendingPhase (document : ConversationDocument) (launchId : String) (phase : PendingPhase) :
    Except ConversationError (Unit × ConversationDocument) := do
  let _ ← okOr (document.pendingLaunches.find? fun pending => pending.launchId = launchId) .notFound
  pure ((), { document with
    pendingLaunches := updateFirst (fun pending => pending.launchId = launchId)
      (fun pending => { pending with phase }) document.pendingLaunches })

/-- Whether a head of a workspace, of any provider, waits for a selection. -/
def needsSelection (document : ConversationDocument) (canonicalCwd : String) : Bool :=
  document.workspaceHeads.any fun head =>
    head.canonicalCwd = canonicalCwd ∧ head.state = .needsSelection

def finishLaunch (host : Host) (document : ConversationDocument) (launchId : String)
    (resolution : LaunchResolution) :
    Except ConversationError (Option HeadBinding × ConversationDocument) := do
  let pending ← okOr (document.pendingLaunches.find? fun pending => pending.launchId = launchId)
    .notFound
  let document := { document with
    pendingLaunches := document.pendingLaunches.eraseP fun pending => pending.launchId = launchId }
  if pending.mode.isUntracked then
    pure (none, document.markHeadNeedsSelection pending.canonicalCwd)
  else if document.needsSelection pending.canonicalCwd then
    pure (none, document)
  else match resolution with
    | .bind binding =>
      if binding.profileId ≠ pending.profileId ∨ binding.canonicalCwd ≠ pending.canonicalCwd ∨
          pending.codexVersion ≠ some binding.codexVersion then
        pure (none, document.markHeadNeedsSelection pending.canonicalCwd)
      else do
        let (head, document) ← document.bindDocument host binding
        pure (some head, document)
    | .noThread => pure (none, document)
    | .ambiguous => pure (none, document.markHeadNeedsSelection pending.canonicalCwd)

def adopt (host : Host) (document : ConversationDocument) (binding : BindingInput) :
    Except ConversationError (HeadBinding × ConversationDocument) := do
  document.ensureWorkspaceNotTransitioning binding.canonicalCwd
  rejectIf (document.launching binding.canonicalCwd) .ambiguous
  document.bindDocument host binding

def refreshAdopted (host : Host) (document : ConversationDocument) (expected : HeadBinding)
    (binding : BindingInput) : Except ConversationError (HeadBinding × ConversationDocument) := do
  let current ← document.resolveHeadDocument binding.canonicalCwd
  rejectIf (current.conversationId ≠ expected.conversationId ∨
      current.generation ≠ expected.generation ∨
      current.profileId ≠ expected.profileId ∨
      current.threadId ≠ expected.threadId ∨
      current.codexVersion ≠ expected.codexVersion) .ambiguous
  document.bindDocument host binding

def markWorkspaceAmbiguous (document : ConversationDocument) (canonicalCwd : String) :
    Except ConversationError (Unit × ConversationDocument) := do
  document.ensureWorkspaceNotTransitioning canonicalCwd
  pure ((), document.markHeadNeedsSelection canonicalCwd)

def prepareUntracked (document : ConversationDocument) (pending : PendingLaunch) :
    Except ConversationError (String × ConversationDocument) := do
  document.ensureWorkspaceNotTransitioning pending.canonicalCwd
  rejectIf (document.launching pending.canonicalCwd) .ambiguous
  let document := document.markHeadNeedsSelection pending.canonicalCwd
  pure (pending.launchId,
    { document with pendingLaunches := document.pendingLaunches ++ [pending] })

/-! ## Handoffs -/

/-- Record the handoff metadata of the source generation, unless it already carries exactly the
same. -/
def recordSourceMetadata (preparation : HandoffPreparation) (source : ConversationGeneration) :
    Except ConversationError ConversationGeneration :=
  match source.trustDomainId, source.rollout with
  | none, none => pure { source with
      trustDomainId := some preparation.trustDomainId
      rollout := some preparation.sourceRollout }
  | some trustDomainId, some rollout =>
    if trustDomainId = preparation.trustDomainId ∧ rollout = preparation.sourceRollout then
      pure source
    else .error (invalid "handoff source metadata conflicts with its lineage")
  | _, _ => .error (invalid "handoff source metadata conflicts with its lineage")

/-- The journal of a handoff that was just prepared. -/
def preparedTransition (transitionId : String) (conversation : Conversation)
    (source : ConversationGeneration) (preparation : HandoffPreparation) (now : ℤ) :
    HandoffTransition where
  transitionId
  conversationId := conversation.conversationId
  sourceGeneration := source.generation
  targetGeneration := source.generation + 1
  sourceProfileId := source.profileId
  targetProfileId := preparation.targetProfileId
  canonicalCwd := source.canonicalCwd
  trustDomainId := preparation.trustDomainId
  reason := preparation.reason
  sourceRollout := preparation.sourceRollout
  phase := .prepared
  targetBaselineThreadIds := []
  forkAttempts := 0
  forkRequestedAt := none
  observedTarget := none
  preparedAt := now
  updatedAt := now

/-- Replace the generation of a conversation that has a given number. -/
def setGeneration (document : ConversationDocument) (conversationId : String) (number : ℕ)
    (source : ConversationGeneration) : ConversationDocument :=
  { document with
    conversations := updateFirst (fun conversation => conversation.conversationId = conversationId)
      (fun conversation => { conversation with
        generations := updateFirst (fun generation => generation.generation = number)
          (fun _ => source) conversation.generations })
      document.conversations }

def prepareHandoff (host : Host) (document : ConversationDocument)
    (preparation : HandoffPreparation) :
    Except ConversationError (HandoffTransition × ConversationDocument) := do
  rejectIf (document.activeTransition ≠ none) .transitionBusy
  rejectIf (document.launching preparation.expectedSource.canonicalCwd) .ambiguous
  let current ← document.resolveHeadDocument preparation.expectedSource.canonicalCwd
  rejectIf (current ≠ preparation.expectedSource) .ambiguous
  let conversation ← okOr
    (document.findConversation preparation.expectedSource.conversationId) .notFound
  rejectIf (conversation.activeGeneration ≠ preparation.expectedSource.generation) .ambiguous
  let source ← okOr (conversation.findGeneration conversation.activeGeneration)
    (invalid "active handoff source generation is missing")
  rejectIf (source.profileId ≠ preparation.expectedSource.profileId ∨
      source.threadId ≠ preparation.expectedSource.threadId ∨
      source.canonicalCwd ≠ preparation.expectedSource.canonicalCwd) .ambiguous
  let recorded ← recordSourceMetadata preparation source
  rejectIf (¬ source.generation + 1 < 2 ^ 32) (invalid "generation overflow")
  let now ← unixTimestamp host
  let transition := preparedTransition host.newV4.toString conversation source preparation now
  pure (transition, { document.setGeneration conversation.conversationId
      conversation.activeGeneration recorded with activeTransition := some transition })

/-- The active transition, when it has the given id and is in the expected phase. -/
def exactTransition (document : ConversationDocument) (transitionId : String)
    (expected : HandoffPhase) : Except ConversationError HandoffTransition := do
  let transition ← okOr (document.activeTransition.filter fun transition =>
    transition.transitionId = transitionId) .notFound
  rejectIf (transition.phase ≠ expected) .transitionPhaseInvalid
  pure transition

def advanceHandoffPhase (host : Host) (document : ConversationDocument) (transitionId : String)
    (expected next : HandoffPhase) :
    Except ConversationError (HandoffTransition × ConversationDocument) := do
  let transition ← document.exactTransition transitionId expected
  let now ← unixTimestamp host
  let transition := { transition with phase := next, updatedAt := now }
  pure (transition, { document with activeTransition := some transition })

def recordForkIntent (host : Host) (document : ConversationDocument) (transitionId : String)
    (targetBaselineThreadIds : List String) :
    Except ConversationError (HandoffTransition × ConversationDocument) := do
  let transition ← document.exactTransition transitionId .sourceStopped
  rejectIf (transition.forkAttempts ≠ 0 ∨ transition.forkRequestedAt ≠ none ∨
      transition.targetBaselineThreadIds ≠ []) .transitionPhaseInvalid
  let now ← unixTimestamp host
  let transition := { transition with
    phase := .forkRequested, targetBaselineThreadIds, forkAttempts := 1
    forkRequestedAt := some now, updatedAt := now }
  pure (transition, { document with activeTransition := some transition })

def recordBoundedForkRetry (host : Host) (document : ConversationDocument)
    (transitionId : String) :
    Except ConversationError (HandoffTransition × ConversationDocument) := do
  let transition ← document.exactTransition transitionId .forkRequested
  rejectIf (transition.forkAttempts ≠ 1 ∨ transition.forkRequestedAt = none ∨
      transition.observedTarget ≠ none) .transitionPhaseInvalid
  let now ← unixTimestamp host
  let transition := { transition with
    forkAttempts := 2, forkRequestedAt := some now, updatedAt := now }
  pure (transition, { document with activeTransition := some transition })

def observeHandoffTarget (host : Host) (document : ConversationDocument) (transitionId : String)
    (target : HandoffTarget) :
    Except ConversationError (HandoffTransition × ConversationDocument) := do
  let transition ← document.exactTransition transitionId .forkRequested
  rejectIf (target.canonicalCwd ≠ transition.canonicalCwd ∨
      sameRolloutFile target.rollout transition.sourceRollout)
    (invalid "observed handoff target conflicts with the source")
  let source ← okOr ((document.findConversation transition.conversationId).bind fun conversation =>
      conversation.findGeneration transition.sourceGeneration)
    (invalid "handoff source generation is missing")
  rejectIf (target.threadId = source.threadId ∨ document.bound target.threadId)
    (invalid "observed handoff target thread is not new")
  let now ← unixTimestamp host
  let transition := { transition with
    observedTarget := some {
      threadId := target.threadId
      canonicalCwd := target.canonicalCwd
      codexVersion := target.codexVersion
      adapterVersion := cargoPkgVersion
      rollout := target.rollout
      observedAt := now }
    phase := .forkObserved, updatedAt := now }
  pure (transition, { document with activeTransition := some transition })

/-- The generation a handoff commits. -/
def targetGeneration (transition : HandoffTransition) (target : ObservedHandoffTarget) :
    ConversationGeneration where
  generation := transition.targetGeneration
  profileId := transition.targetProfileId
  threadId := target.threadId
  canonicalCwd := target.canonicalCwd
  codexVersion := target.codexVersion
  adapterVersion := target.adapterVersion
  boundAt := target.observedAt
  trustDomainId := some transition.trustDomainId
  rollout := some target.rollout

/-- Append the committed generation to its lineage. -/
def commitGeneration (transition : HandoffTransition) (target : ObservedHandoffTarget)
    (conversation : Conversation) : Conversation :=
  { conversation with
    generations := conversation.generations ++ [targetGeneration transition target]
    activeGeneration := transition.targetGeneration
    lastSafeLifecycle := .interrupted }

def commitHandoff (host : Host) (document : ConversationDocument) (transitionId : String) :
    Except ConversationError (HeadBinding × ConversationDocument) := do
  let transition ← document.exactTransition transitionId .forkObserved
  let target ← okOr transition.observedTarget (invalid "observed handoff target is missing")
  rejectIf (document.bound target.threadId) (invalid "handoff target thread is already bound")
  let conversation ← okOr (document.findConversation transition.conversationId) .notFound
  rejectIf (conversation.activeGeneration ≠ transition.sourceGeneration ∨
      conversation.generations.length ≥ maxLineageGenerations) .transitionPhaseInvalid
  let head ← okOr (document.workspaceHeads.find? fun head =>
      head.provider = conversation.provider ∧ head.canonicalCwd = transition.canonicalCwd)
    (invalid "handoff workspace head is missing")
  rejectIf (head.state ≠ .ready ∨
      head.conversationId ≠ some transition.conversationId ∨
      head.generation ≠ some transition.sourceGeneration) .transitionPhaseInvalid
  let now ← unixTimestamp host
  pure ({ conversationId := transition.conversationId
          generation := transition.targetGeneration
          profileId := transition.targetProfileId
          threadId := target.threadId
          canonicalCwd := target.canonicalCwd
          codexVersion := target.codexVersion
          lifecycle := .interrupted },
    { document with
      conversations := updateFirst
        (fun conversation => conversation.conversationId = transition.conversationId)
        (commitGeneration transition target) document.conversations
      workspaceHeads := updateFirst
        (fun head => head.provider = conversation.provider ∧
          head.canonicalCwd = transition.canonicalCwd)
        (fun head => { head with generation := some transition.targetGeneration })
        document.workspaceHeads
      activeTransition := some { transition with
        phase := .committedUnattached, updatedAt := now } })

def finishHandoffAttachment (document : ConversationDocument) (transitionId : String) :
    Except ConversationError (HeadBinding × ConversationDocument) := do
  let transition ← document.exactTransition transitionId .committedUnattached
  let document := { document with activeTransition := none }
  let head ← document.resolveHeadDocument transition.canonicalCwd
  pure (head, document)

end ConversationDocument

end Calcifer
