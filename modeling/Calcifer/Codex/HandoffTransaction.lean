import Calcifer.Library.Program
import Calcifer.Conversations.Registry

/-!
# Recovering a handoff

The driver of a cross-profile handoff. `resumeAction` projects the journal on disk into the only next
action, `reconcileForkCandidates` decides what a target inventory means for a fork that was requested,
and `resumeHandoffOnce` advances one boundary. The driver is written over any monad that can call the
journal (`HandoffJournal`) and the provider (`HandoffRuntime`).
-/

namespace Calcifer

open Checks

def maxReconciliationThreads : ℕ := 1600

/-- The sole action the phase on disk authorizes. -/
inductive HandoffResumeAction where
  | persistSourceStopIntent
  | stopAndReapSource
  | captureTargetBaselineAndFork
  | reconcileFork
  | commitObservedTarget
  | attachCommittedTarget
deriving DecidableEq, Repr

inductive HandoffTransactionError where
  | unknownReason
  | invalidTransition
  | invalidInventory
  | invalidProfiles
deriving DecidableEq, Repr

def resumeAction (transition : HandoffTransition) :
    Except HandoffTransactionError HandoffResumeAction := do
  rejectIf (transition.reason = .unknownLegacy) .unknownReason
  match transition.phase with
  | .prepared => pure .persistSourceStopIntent
  | .sourceStopRequested => pure .stopAndReapSource
  | .sourceStopped => pure .captureTargetBaselineAndFork
  | .forkRequested =>
    if transition.forkAttempts = 1 ∨ transition.forkAttempts = 2 then pure .reconcileFork
    else .error .invalidTransition
  | .forkObserved => pure .commitObservedTarget
  | .committedUnattached => pure .attachCommittedTarget

/-! ## Fork candidates -/

/-- The assessment of one target thread: `matching` with the target to adopt, or a mismatch. -/
inductive ForkCandidateProjection (T : Type) where
  | matching (target : T)
  | mismatch
deriving DecidableEq, Repr

structure ForkCandidate (T : Type) where
  threadId : String
  projection : ForkCandidateProjection T
deriving DecidableEq, Repr

inductive ExplicitReconciliationReason where
  | mismatchedCandidate
  | multipleCandidates
  | retryExhausted
deriving DecidableEq, Repr

inductive ForkReconciliation (T : Type) where
  | adopt (target : T)
  | retryOnce
  | explicit (reason : ExplicitReconciliationReason)
deriving DecidableEq, Repr

def validateThreadId (threadId : String) : Except HandoffTransactionError Unit := do
  let parsed ← okOr (Uuid.parseStr threadId) .invalidInventory
  rejectIf (parsed.toString ≠ threadId) .invalidInventory

def validateSortedThreadIds (threadIds : List String) : Except HandoffTransactionError Unit := do
  rejectIf (threadIds.length > maxReconciliationThreads) .invalidTransition
  forEach threadIds fun index threadId => do
    (validateThreadId threadId).mapError fun _ => .invalidTransition
    rejectIf (0 < index ∧ (threadIds[index - 1]?).any fun previous => ¬ previous < threadId)
      .invalidTransition

/-- Compare a complete target inventory with the baseline recorded before the fork. -/
def reconcileForkCandidates {T : Type} (transition : HandoffTransition)
    (inventory : List (ForkCandidate T)) :
    Except HandoffTransactionError (ForkReconciliation T) := do
  rejectIf (transition.reason = .unknownLegacy) .unknownReason
  rejectIf (transition.phase ≠ .forkRequested ∨
      ¬ (transition.forkAttempts = 1 ∨ transition.forkAttempts = 2) ∨
      transition.forkRequestedAt = none ∨
      inventory.length > maxReconciliationThreads) .invalidTransition
  validateSortedThreadIds transition.targetBaselineThreadIds
  let inventory := inventory.insertionSort fun left right => left.threadId ≤ right.threadId
  forEach inventory fun index candidate => do
    validateThreadId candidate.threadId
    rejectIf (0 < index ∧ (inventory[index - 1]?).any fun previous =>
      previous.threadId = candidate.threadId) .invalidInventory
  match inventory.filter fun candidate =>
      ¬ Lists.binarySearch transition.targetBaselineThreadIds candidate.threadId with
  | [] =>
    if transition.forkAttempts = 1 then pure .retryOnce else pure (.explicit .retryExhausted)
  | [first] =>
    match first.projection with
    | .matching target => pure (.adopt target)
    | .mismatch => pure (.explicit .mismatchedCandidate)
  | _ => pure (.explicit .multipleCandidates)

/-! ## The driver -/

/-- The calls of the driver to the journal. -/
inductive JournalCall where
  | currentHandoff
  | markSourceStopRequested (transitionId : String)
  | markSourceStopped (transitionId : String)
  | recordForkIntent (transitionId : String) (targetBaselineThreadIds : List String)
  | recordBoundedForkRetry (transitionId : String)
  | observeHandoffTarget (transitionId : String) (target : HandoffTarget)
  | commitHandoff (transitionId : String)
  | finishHandoffAttachment (transitionId : String)
deriving DecidableEq, Repr

/-- What a call to the journal returns when it succeeds. -/
def JournalCall.Result : JournalCall → Type
  | .currentHandoff => Option HandoffTransition
  | .commitHandoff _ | .finishHandoffAttachment _ => HeadBinding
  | _ => HandoffTransition

/-- A call to the journal as a transaction of the registry. -/
def JournalCall.run [Sha256] (host : Host) : (call : JournalCall) → RegistryM call.Result
  | .currentHandoff => ConversationRegistry.currentHandoff host
  | .markSourceStopRequested id => ConversationRegistry.markSourceStopRequested host id
  | .markSourceStopped id => ConversationRegistry.markSourceStopped host id
  | .recordForkIntent id baseline => ConversationRegistry.recordForkIntent host id baseline
  | .recordBoundedForkRetry id => ConversationRegistry.recordBoundedForkRetry host id
  | .observeHandoffTarget id target => ConversationRegistry.observeHandoffTarget host id target
  | .commitHandoff id => ConversationRegistry.commitHandoff host id
  | .finishHandoffAttachment id => ConversationRegistry.finishHandoffAttachment host id

/-- Access to the journal. -/
class HandoffJournal (m : Type → Type) where
  journal : (call : JournalCall) → m (Except ConversationError call.Result)

/-- The provider operations of the driver. -/
structure HandoffRuntime (m : Type → Type) (ε : Type) where
  stopAndReapSource : HandoffTransition → m (Except ε Unit)
  captureTargetBaseline : HandoffTransition → m (Except ε (List String))
  requestFork : HandoffTransition → m (Except ε Unit)
  reconcileTargetInventory :
    HandoffTransition → m (Except ε (List (ForkCandidate HandoffTarget)))
  attachCommittedTarget : HandoffTransition → m (Except ε Unit)

inductive HandoffExecutionError (ε : Type) where
  | noTransition
  | journal (error : ConversationError)
  | decision (error : HandoffTransactionError)
  | runtime (error : ε)
deriving DecidableEq, Repr

inductive HandoffStep where
  | advanced (phase : HandoffPhase)
  | requiresExplicitReconciliation (reason : ExplicitReconciliationReason)
  | attached (head : HeadBinding)
deriving DecidableEq, Repr

section

variable {m : Type → Type} [Monad m] [HandoffJournal m] {ε : Type}

/-- A call to the journal inside the driver. -/
def callJournal (call : JournalCall) : ExceptT (HandoffExecutionError ε) m call.Result :=
  ExceptT.mk do return (← HandoffJournal.journal call).mapError .journal

/-- A provider operation inside the driver. -/
def callRuntime {α : Type} (x : m (Except ε α)) : ExceptT (HandoffExecutionError ε) m α :=
  ExceptT.mk do return (← x).mapError .runtime

/-- A decision inside the driver. -/
def callDecision {α : Type} (x : Except HandoffTransactionError α) :
    ExceptT (HandoffExecutionError ε) m α :=
  ExceptT.mk (pure (x.mapError .decision))

/-- Advance at most one boundary of the active handoff. The process holds the coordinator lease from
the beginning to the end. -/
def resumeHandoffOnce (runtime : HandoffRuntime m ε) :
    ExceptT (HandoffExecutionError ε) m HandoffStep := do
  let some transition ← callJournal .currentHandoff | throw .noTransition
  let transitionId := transition.transitionId
  match ← callDecision (resumeAction transition) with
  | .persistSourceStopIntent =>
    let next ← callJournal (.markSourceStopRequested transitionId)
    return .advanced (HandoffTransition.phase next)
  | .stopAndReapSource =>
    callRuntime (runtime.stopAndReapSource transition)
    let next ← callJournal (.markSourceStopped transitionId)
    return .advanced (HandoffTransition.phase next)
  | .captureTargetBaselineAndFork =>
    let baseline ← callRuntime (runtime.captureTargetBaseline transition)
    let requested ← callJournal (.recordForkIntent transitionId baseline)
    callRuntime (runtime.requestFork requested)
    return .advanced (HandoffTransition.phase requested)
  | .reconcileFork =>
    let inventory ← callRuntime (runtime.reconcileTargetInventory transition)
    match ← callDecision (reconcileForkCandidates transition inventory) with
    | .adopt target =>
      let next ← callJournal (.observeHandoffTarget transitionId target)
      return .advanced (HandoffTransition.phase next)
    | .retryOnce =>
      let retry ← callJournal (.recordBoundedForkRetry transitionId)
      callRuntime (runtime.requestFork retry)
      return .advanced (HandoffTransition.phase retry)
    | .explicit reason => return .requiresExplicitReconciliation reason
  | .commitObservedTarget =>
    let _ ← callJournal (.commitHandoff transitionId)
    return .advanced .committedUnattached
  | .attachCommittedTarget =>
    callRuntime (runtime.attachCommittedTarget transition)
    let head ← callJournal (.finishHandoffAttachment transitionId)
    return .attached head

end

end Calcifer
