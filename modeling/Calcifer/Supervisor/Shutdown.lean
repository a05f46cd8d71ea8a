import Calcifer.Library.Program
import Calcifer.Supervisor.Guardian

/-!
# The shutdown of a generation

Once a session or its startup is over, the guardian shuts down what it owns, in a fixed order: it stops
the provider children, asks the coordinator to restore the terminal, disarms its own recovery of the
terminal, cleans up, reports the reaped children and releases the anchor. A generation that cannot be
shut down is retained, and may be recovered once.

The functions here are programs over calls to the wire, to the components of the session and to the
completion endpoint of the anchor. Deadlines are left out, as in the coordinator: a call that runs into
one answers with an error. The bounds of the shutdown are always within range, so that the branches for
bounds that overflow are left out as well. The two loops that wait for the coordinator and for the
anchor go round by round.
-/

namespace Calcifer.Supervisor

/-! ## The lifecycle wire -/

inductive GuardianLifecycleError where
  | deadline
  | lost
  | protocol
deriving DecidableEq, Repr

def GuardianLifecycleError.classifyProtocolError : ProtocolError → GuardianLifecycleError
  | .timeout => .deadline
  | .unexpectedEof | .truncatedHeader | .truncatedBody | .io => .lost
  | _ => .protocol

/-- What the guardian knows about the wire when it shuts down. -/
inductive LifecycleCondition where
  | healthy
  | lost
  | invalid
deriving DecidableEq, Repr

def LifecycleCondition.fromError : GuardianLifecycleError → LifecycleCondition
  | .lost => .lost
  | .deadline | .protocol => .invalid

/-- The guardian half of one lifecycle wire. -/
structure GuardianLifecycle where
  commands : GuardianCommandReceiver
  failureAnnounced : Bool
deriving DecidableEq, Repr

namespace GuardianLifecycle

/-- Whether an event announces a failure. -/
def announces : GuardianEvent → Bool
  | .failed _ _ => true
  | _ => false

/-- Record an event and write it, when `written` is what the wire makes of the frame. -/
def emit (l : GuardianLifecycle) (event : GuardianEvent) (written : Except ProtocolError Unit) :
    Except GuardianLifecycleError Unit × GuardianLifecycle :=
  match l.commands.recordEvent event with
  | (.error error, commands) =>
    (.error (GuardianLifecycleError.classifyProtocolError error), { l with commands })
  | (.ok (), commands) =>
    match written with
    | .error error =>
      (.error (GuardianLifecycleError.classifyProtocolError error),
        { l with commands := { commands with poisoned := true } })
    | .ok () =>
      (.ok (), { commands, failureAnnounced := l.failureAnnounced || announces event })

/-- Receive a command, when `input` is what the wire holds. -/
def receive (l : GuardianLifecycle) (input : Except ProtocolError CoordinatorCommand) :
    Except GuardianLifecycleError CoordinatorCommand × GuardianLifecycle :=
  let (result, commands) := l.commands.receive input
  (result.mapError GuardianLifecycleError.classifyProtocolError, { l with commands })

def takeTerminalRestored (l : GuardianLifecycle) :
    Except GuardianLifecycleError Unit × GuardianLifecycle :=
  let (result, commands) := l.commands.take .terminalRestored
  (result.mapError GuardianLifecycleError.classifyProtocolError, { l with commands })

def takeExitDisposition (l : GuardianLifecycle) :
    Except GuardianLifecycleError GuardianExitDisposition × GuardianLifecycle :=
  let (result, commands) := l.commands.takeVerifiedExitDisposition
  (result.mapError GuardianLifecycleError.classifyProtocolError, { l with commands })

end GuardianLifecycle

/-! ## Errors and reports of a shutdown -/

inductive SessionCleanupError where
  | quiesce
  | tui
  | readinessRelay
  | monitor
  | appServer
  | terminalRestore
  | recoveryDisarm
  | runtime
  | pinnedBuild
  | missingAuthority
deriving DecidableEq, Repr

/-- The first failure of the session, and every cleanup phase that failed at least once. -/
structure SessionErrors where
  operation : Option SessionOperationError
  cleanup : List SessionCleanupError
deriving DecidableEq, Repr

namespace SessionErrors

def recordOperation (e : SessionErrors) (error : Option SessionOperationError) : SessionErrors :=
  { e with operation := e.operation.or error }

def recordCleanup (e : SessionErrors) (error : Option SessionCleanupError) : SessionErrors :=
  match error with
  | some error => { e with cleanup := e.cleanup.insert error }
  | none => e

end SessionErrors

/-- How a child was reaped, and whether its shutdown went without a failure. -/
structure ShutdownOutcome where
  disposition : ChildDisposition
  clean : Bool
deriving DecidableEq, Repr

/-- What the components of a session report once they are shut down: the drained App, the reaped TUI
and the joined worker. -/
structure ComponentsOutcome where
  app : ShutdownOutcome
  tui : ShutdownOutcome
  worker : WorkerJoinStatus
deriving DecidableEq, Repr

structure SessionShutdownReport where
  components : ComponentsOutcome
  terminationCause : Option SessionTerminationCause
  errors : SessionErrors
deriving DecidableEq, Repr

/-- What a startup reports once it is cleaned up. The App is absent if it was never started. -/
structure PartialStartupOutcome where
  app : Option ShutdownOutcome
  tui : Option ShutdownOutcome
  worker : WorkerJoinStatus
deriving DecidableEq, Repr

inductive StartupCleanupReport where
  | ofPartial (outcome : PartialStartupOutcome)
  | session (report : SessionShutdownReport)
deriving DecidableEq, Repr

/-- The fixed fields of the last event. The release authorization that goes with them is left out: every
report carries one. -/
structure SessionLifecycleProjection where
  app : ChildDisposition
  tui : ChildDisposition
  worker : WorkerJoinStatus
  session : SessionStatus
  guardianExit : GuardianExitDisposition
deriving DecidableEq, Repr

namespace SessionLifecycleProjection

/-- The projection of a startup, which is always a failure. -/
def failed (app tui : Option ShutdownOutcome) (worker : WorkerJoinStatus) :
    SessionLifecycleProjection where
  app := app.elim .notStarted ShutdownOutcome.disposition
  tui := tui.elim .notStarted ShutdownOutcome.disposition
  worker := worker
  session := .failed
  guardianExit := .internalFailure

def event (p : SessionLifecycleProjection) : GuardianEvent :=
  .childrenReaped p.app p.tui p.worker .complete p.session p.guardianExit

end SessionLifecycleProjection

def projectSessionSemantics (report : SessionShutdownReport) :
    SessionStatus × GuardianExitDisposition :=
  let { app, tui, worker } := report.components
  if report.errors.operation.isSome ∨ report.errors.cleanup ≠ [] ∨ ¬app.clean ∨ ¬tui.clean then
    (.failed, .internalFailure)
  else
  match report.terminationCause with
  | none => (.failed, .internalFailure)
  | some cause => projectTerminalSemantics app.disposition tui.disposition worker cause

def SessionShutdownReport.intoLifecycleProjection (report : SessionShutdownReport) :
    SessionLifecycleProjection where
  app := report.components.app.disposition
  tui := report.components.tui.disposition
  worker := report.components.worker
  session := (projectSessionSemantics report).1
  guardianExit := (projectSessionSemantics report).2

def StartupCleanupReport.intoLifecycleProjection :
    StartupCleanupReport → SessionLifecycleProjection
  | .ofPartial outcome => .failed outcome.app outcome.tui outcome.worker
  | .session report =>
    .failed (some report.components.app) (some report.components.tui) report.components.worker

/-! ## Phases -/

inductive ShutdownPhase where
  | quiesce
  | tui
  | readinessRelay
  | monitor
  | appServerStop
  | terminalRestore
  | recoveryDisarm
  | runtimeCleanup
  | pinnedBuild
  | complete
deriving DecidableEq, Repr

/-- The only three entry points for the recovery of a retained session. -/
inductive SessionShutdownRecoveryStage where
  | quiescing
  | restorePending
  | cleanupPending
deriving DecidableEq, Repr

namespace ShutdownPhase

@[simp] def next : ShutdownPhase → ShutdownPhase
  | .quiesce => .tui
  | .tui => .readinessRelay
  | .readinessRelay => .monitor
  | .monitor => .appServerStop
  | .appServerStop => .terminalRestore
  | .terminalRestore => .recoveryDisarm
  | .recoveryDisarm => .runtimeCleanup
  | .runtimeCleanup => .pinnedBuild
  | .pinnedBuild | .complete => .complete

@[simp] def recoveryStage : ShutdownPhase → SessionShutdownRecoveryStage
  | .quiesce | .tui | .readinessRelay | .monitor | .appServerStop => .quiescing
  | .terminalRestore => .restorePending
  | .recoveryDisarm | .runtimeCleanup | .pinnedBuild | .complete => .cleanupPending

/-- How many phases are left. -/
@[simp] def remaining : ShutdownPhase → Nat
  | .quiesce => 9
  | .tui => 8
  | .readinessRelay => 7
  | .monitor => 6
  | .appServerStop => 5
  | .terminalRestore => 4
  | .recoveryDisarm => 3
  | .runtimeCleanup => 2
  | .pinnedBuild => 1
  | .complete => 0

end ShutdownPhase

inductive StartupShutdownPhase where
  | tui
  | relay
  | monitor
  | appStop
  | terminalQuiesce
  | awaitingCoordinatorRestore
  | recoveryDisarm
  | runtimeCleanup
  | buildCleanup
  | complete
deriving DecidableEq, Repr

namespace StartupShutdownPhase

@[simp] def next : StartupShutdownPhase → StartupShutdownPhase
  | .tui => .relay
  | .relay => .monitor
  | .monitor => .appStop
  | .appStop => .terminalQuiesce
  | .terminalQuiesce => .awaitingCoordinatorRestore
  | .awaitingCoordinatorRestore => .recoveryDisarm
  | .recoveryDisarm => .runtimeCleanup
  | .runtimeCleanup => .buildCleanup
  | .buildCleanup | .complete => .complete

/-- How many phases are left. -/
@[simp] def remaining : StartupShutdownPhase → Nat
  | .tui => 9
  | .relay => 8
  | .monitor => 7
  | .appStop => 6
  | .terminalQuiesce => 5
  | .awaitingCoordinatorRestore => 4
  | .recoveryDisarm => 3
  | .runtimeCleanup => 2
  | .buildCleanup => 1
  | .complete => 0

end StartupShutdownPhase

inductive ShutdownProgress where
  | advanced
  | retained
deriving DecidableEq, Repr

structure ShutdownStep where
  progress : ShutdownProgress
  operationError : Option SessionOperationError
  cleanupError : Option SessionCleanupError
deriving DecidableEq, Repr

namespace ShutdownStep

def advanced : ShutdownStep := ⟨.advanced, none, none⟩

def retained (cleanupError : Option SessionCleanupError) : ShutdownStep :=
  ⟨.retained, none, cleanupError⟩

end ShutdownStep

/-- What a phase of a startup came to, and whether every child that it found can be reported. -/
structure StartupStep where
  progress : ShutdownProgress
  reportable : Bool
deriving DecidableEq, Repr

inductive RecoveryDisarmOutcome where
  | disarmed
  | unconfirmed
  | failed
deriving DecidableEq, Repr

/-- The guardian's own recovery of the outer terminal. A startup never has an armed one without the duty
to restore. -/
inductive TerminalRecoveryAuthority where
  | armed (restorationRequired : Bool)
  | coordinatorRestored
  | fallbackRestored
  | disarmUnconfirmed
  | disarmed
deriving DecidableEq, Repr

/-! ## Calls -/

/-- The two terminal frames of the completion endpoint. -/
inductive CompletionTerminalFrame where
  | providerReleased
  | retainedUnrecoverable
deriving DecidableEq, Repr

inductive RecoveryRequestPoll where
  | pending
  | verified
  | protocolRejected
  | ownerLost
  | protocolRejectedOwnerLost
deriving DecidableEq, Repr

inductive GuardianOp where
  | emit (event : GuardianEvent)
  | receive
  | takeTerminalRestored
  | takeExitDisposition
  | failureAnnounced
  | sessionStep (phase : ShutdownPhase)
  | finishSession (errors : SessionErrors) (terminationCause : Option SessionTerminationCause)
  | startupStep (phase : StartupShutdownPhase)
  | finishStartup
  | restore
  | disarm
  | retryDisarm
  | publish (frame : CompletionTerminalFrame)
  | pollRecoveryRequest

/-- What a call answers. -/
abbrev GuardianOp.Reply : GuardianOp → Type
  | .emit _ | .takeTerminalRestored => Except GuardianLifecycleError Unit
  | .receive => Except GuardianLifecycleError CoordinatorCommand
  | .takeExitDisposition => Except GuardianLifecycleError GuardianExitDisposition
  | .sessionStep _ => ShutdownStep
  | .finishSession _ _ => ComponentsOutcome
  | .startupStep _ => StartupStep
  | .finishStartup => PartialStartupOutcome
  | .failureAnnounced | .restore | .retryDisarm | .publish _ => Bool
  | .disarm => RecoveryDisarmOutcome
  | .pollRecoveryRequest => Option RecoveryRequestPoll

abbrev Guard : Type → Type := Program GuardianOp GuardianOp.Reply

def Guard.ask (op : GuardianOp) : Guard op.Reply := Program.perform op

open Guard

/-- What a shutdown comes to: its report, the owner of the phase that was retained, or the end of a
process that found its own state broken. -/
inductive ShutdownResult (Owner Report : Type) where
  | reported (report : Report)
  | retained (owner : Owner)
  | aborted

/-! ## The ordered shutdown of a session -/

/-- The shutdown of a session that has come to `phase`. Of the components, only the owner of the
terminal is kept: whether its pump is quiesced and the TUI reaped, the recovery of the terminal, and why
the TUI ends. -/
structure OrderedShutdown where
  phase : ShutdownPhase
  errors : SessionErrors
  pumpQuiesced : Bool
  tuiReaped : Bool
  recovery : Option TerminalRecoveryAuthority
  terminationCause : Option SessionTerminationCause
deriving DecidableEq, Repr

/-- A shutdown that was retained in its phase. -/
abbrev SessionShutdownFailure := OrderedShutdown

namespace OrderedShutdown

/-- A live session starts its shutdown with the recovery armed. -/
def new (terminationCause : Option SessionTerminationCause)
    (operationError : Option SessionOperationError) : OrderedShutdown where
  phase := .quiesce
  errors := ⟨operationError, []⟩
  pumpQuiesced := false
  tuiReaped := false
  recovery := some (.armed true)
  terminationCause := terminationCause

/-- Waiting for the coordinator's proof is a barrier, not a cleanup error. -/
def awaitCoordinatorRestore (s : OrderedShutdown) : ShutdownStep :=
  if ¬s.pumpQuiesced ∨ ¬s.tuiReaped then .retained (some .terminalRestore) else
  match s.recovery with
  | some (.armed _) => .retained none
  | some _ => .advanced
  | none => .retained (some .missingAuthority)

def disarmRecovery (s : OrderedShutdown) : Guard (ShutdownStep × OrderedShutdown) :=
  match s.recovery with
  | none => pure (.retained (some .missingAuthority), s)
  | some .coordinatorRestored | some .fallbackRestored => do
    match ← ask .disarm with
    | .disarmed => return (.advanced, { s with recovery := some .disarmed })
    | .unconfirmed =>
      return (.retained (some .recoveryDisarm), { s with recovery := some .disarmUnconfirmed })
    | .failed => return (.retained (some .recoveryDisarm), s)
  | some .disarmUnconfirmed => do
    if ← ask .retryDisarm then return (.advanced, { s with recovery := some .disarmed })
    else return (.retained (some .recoveryDisarm), s)
  | some .disarmed => pure (.advanced, s)
  | some (.armed _) => pure (.retained (some .recoveryDisarm), s)

def shutdownStep (s : OrderedShutdown) : Guard (ShutdownStep × OrderedShutdown) :=
  match s.phase with
  | .quiesce => return (← ask (.sessionStep .quiesce), { s with pumpQuiesced := true })
  | .tui => do
    let step ← ask (.sessionStep .tui)
    return (step, { s with tuiReaped := s.tuiReaped || step.progress = .advanced })
  | .terminalRestore => pure (s.awaitCoordinatorRestore, s)
  | .recoveryDisarm => s.disarmRecovery
  | .complete => pure (.advanced, s)
  | phase => return (← ask (.sessionStep phase), s)

def record (s : OrderedShutdown) (step : ShutdownStep) : OrderedShutdown :=
  { s with errors := (s.errors.recordOperation step.operationError).recordCleanup step.cleanupError }

/-- Run the given number of phases, or stop in the first one that is retained. -/
def runFor : Nat → OrderedShutdown → Guard (Except OrderedShutdown OrderedShutdown)
  | 0, s => pure (.ok s)
  | n + 1, s => do
    let (step, s) ← s.shutdownStep
    let s := s.record step
    match step.progress with
    | .advanced => runFor n { s with phase := s.phase.next }
    | .retained => return .error s

/-- Run every phase that is left. -/
def run (s : OrderedShutdown) : Guard (ShutdownResult SessionShutdownFailure SessionShutdownReport) := do
  match ← s.runFor s.phase.remaining with
  | .error s => return .retained s
  | .ok s =>
    if ¬s.tuiReaped ∨ ¬s.pumpQuiesced ∨ s.recovery ≠ some .disarmed then return .aborted
    else
      let components ← ask (.finishSession s.errors s.terminationCause)
      return .reported ⟨components, s.terminationCause, s.errors⟩

/-- A live session accepts a cause that it has not observed itself only from the coordinator or from the
usage monitor. -/
def acceptTerminationCause (observed : Option SessionTerminationCause)
    (supplied : SessionTerminationCause) :
    Option SessionTerminationCause × Option SessionOperationError :=
  match observed, supplied with
  | none, .coordinatorStop | none, .usageExhaustion => (some supplied, none)
  | some cause, _ => (observed, if cause = supplied then none else some .terminalPump)
  | none, _ => (none, some .terminalPump)

def recoveryStage (s : SessionShutdownFailure) : SessionShutdownRecoveryStage := s.phase.recoveryStage

def awaitingTerminalRestore (s : SessionShutdownFailure) : Bool := s.phase = .terminalRestore

/-- Install the proof that the coordinator has restored the terminal. -/
def acknowledgeTerminalRestored (s : SessionShutdownFailure) :
    Except SessionShutdownFailure SessionShutdownFailure :=
  match s.recovery with
  | some (.armed _) =>
    if s.phase = .terminalRestore ∧ s.pumpQuiesced ∧ s.tuiReaped then
      .ok { s with recovery := some .coordinatorRestored }
    else .error s
  | _ => .error s

/-- The guardian restores the terminal itself only after the loss of the wire. -/
def restoreAfterLifecycleLoss (s : SessionShutdownFailure) :
    Guard (Except SessionShutdownFailure SessionShutdownFailure) :=
  if s.phase ≠ .terminalRestore then pure (.error s) else
  match s.recovery with
  | none => pure (.error (s.record (.retained (some .missingAuthority))))
  | some (.armed true) => do
    if ← ask .restore then return .ok { s with recovery := some .fallbackRestored }
    else return .error (s.record (.retained (some .terminalRestore)))
  | some (.armed false) => pure (.error (s.record (.retained (some .terminalRestore))))
  | some _ => pure (.ok s)

end OrderedShutdown

/-! ## The shutdown of a startup -/

/-- What a startup has built before it failed. Of the components, only the terminal is kept, and whether
the App and the TUI are cleaned up. -/
structure PartialStartupOwner where
  phase : StartupShutdownPhase
  endpointOpen : Bool
  recovery : Option TerminalRecoveryAuthority
  terminalReportable : Bool
  appClean : Bool
  tuiClean : Bool
deriving DecidableEq, Repr

namespace PartialStartupOwner

def new : PartialStartupOwner where
  phase := .tui
  endpointOpen := true
  recovery := some (.armed true)
  terminalReportable := true
  appClean := false
  tuiClean := false

def quiesceTerminal (s : PartialStartupOwner) : Guard (ShutdownProgress × PartialStartupOwner) :=
  if ¬s.endpointOpen then pure (.advanced, s) else do
    match (← ask (.startupStep .terminalQuiesce)).progress with
    | .advanced => return (.advanced, { s with endpointOpen := false })
    | .retained => return (.retained, s)

def disarmRecovery (s : PartialStartupOwner) : Guard (ShutdownProgress × PartialStartupOwner) :=
  match s.recovery with
  | none => pure (.retained, s)
  | some .coordinatorRestored | some .fallbackRestored => do
    match ← ask .disarm with
    | .disarmed => return (.advanced, { s with recovery := some .disarmed })
    | .unconfirmed => return (.retained, { s with recovery := some .disarmUnconfirmed })
    | .failed => return (.retained, s)
  | some .disarmUnconfirmed => do
    if ← ask .retryDisarm then return (.advanced, { s with recovery := some .disarmed })
    else return (.retained, s)
  | some .disarmed => pure (.advanced, s)
  | some (.armed _) => pure (.retained, s)

/-- A phase of a component, with what it says about the children that it found. -/
def component (s : PartialStartupOwner) (phase : StartupShutdownPhase) :
    Guard (ShutdownProgress × PartialStartupOwner) := do
  let step ← ask (.startupStep phase)
  return (step.progress, { s with terminalReportable := s.terminalReportable && step.reportable })

/-- A child that was never announced has no legal report, and keeps the build. -/
def cleanupBuild (s : PartialStartupOwner) : Guard (ShutdownProgress × PartialStartupOwner) :=
  if ¬s.terminalReportable then pure (.retained, s) else
  return ((← ask (.startupStep .buildCleanup)).progress, s)

def step (s : PartialStartupOwner) : Guard (ShutdownProgress × PartialStartupOwner) :=
  match s.phase with
  | .terminalQuiesce => s.quiesceTerminal
  | .awaitingCoordinatorRestore => pure (.retained, s)
  | .recoveryDisarm => s.disarmRecovery
  | .buildCleanup => s.cleanupBuild
  | .complete => pure (.advanced, s)
  | .tui => do
    let (progress, s) ← s.component .tui
    return (progress, { s with tuiClean := s.tuiClean || progress = .advanced })
  | .runtimeCleanup => do
    let (progress, s) ← s.component .runtimeCleanup
    return (progress, { s with appClean := s.appClean || progress = .advanced })
  | phase => s.component phase

/-- Run the given number of phases, or stop in the first one that is retained. -/
def driveStartupPhases : Nat → PartialStartupOwner →
    Guard (Except PartialStartupOwner PartialStartupOwner)
  | 0, s => pure (.ok s)
  | n + 1, s => do
    match ← s.step with
    | (.advanced, s) => driveStartupPhases n { s with phase := s.phase.next }
    | (.retained, s) => return .error s

/-- An owner that is past the restoration already cannot be driven to it. -/
def runToRestore (s : PartialStartupOwner) :
    Guard (Except PartialStartupOwner PartialStartupOwner) :=
  if s.phase.remaining < StartupShutdownPhase.remaining .awaitingCoordinatorRestore then
    do match ← s.driveStartupPhases s.phase.remaining with
      | .ok s | .error s => return .error s
  else s.driveStartupPhases (s.phase.remaining - StartupShutdownPhase.remaining .awaitingCoordinatorRestore)

/-- Run every phase that is left. -/
def runAfterRestore (s : PartialStartupOwner) :
    Guard (ShutdownResult PartialStartupOwner PartialStartupOutcome) := do
  match ← s.driveStartupPhases s.phase.remaining with
  | .error s => return .retained s
  | .ok s =>
    if ¬s.appClean ∨ ¬s.tuiClean then return .retained s
    else if s.endpointOpen ∨ s.recovery ≠ some .disarmed then return .aborted
    else return .reported (← ask .finishStartup)

end PartialStartupOwner

/-- The owner of a failed startup, in any of its phases: the parts of a session, or a session that was
assembled already. -/
inductive StartupOwner where
  | ofPartial (owner : PartialStartupOwner)
  | session (failure : SessionShutdownFailure)
deriving DecidableEq, Repr

namespace StartupOwner

/-- Bring everything to a stop, up to the restoration of the terminal. -/
def quiesceOwner : StartupOwner → Guard (ShutdownResult StartupOwner StartupOwner)
  | .ofPartial owner => do
    match ← owner.runToRestore with
    | .ok owner => return .reported (.ofPartial owner)
    | .error owner => return .retained (.ofPartial owner)
  | .session failure => do
    match ← failure.run with
    | .reported _ | .aborted => return .aborted
    | .retained failure =>
      if failure.awaitingTerminalRestore then return .reported (.session failure)
      else return .retained (.session failure)

def acknowledgeTerminalRestored : StartupOwner → Except StartupOwner StartupOwner
  | .ofPartial owner =>
    match owner.recovery with
    | some (.armed _) =>
      if owner.phase = .awaitingCoordinatorRestore ∧ ¬owner.endpointOpen then
        .ok (.ofPartial
          { owner with recovery := some .coordinatorRestored, phase := owner.phase.next })
      else .error (.ofPartial owner)
    | _ => .error (.ofPartial owner)
  | .session failure =>
    match failure.acknowledgeTerminalRestored with
    | .ok failure => .ok (.session failure)
    | .error failure => .error (.session failure)

def restoreAfterLifecycleLoss : StartupOwner → Guard (Except StartupOwner StartupOwner)
  | .ofPartial owner =>
    match owner.recovery with
    | some (.armed _) => do
      if ← ask .restore then
        return .ok (.ofPartial
          { owner with recovery := some .fallbackRestored, phase := owner.phase.next })
      else return .error (.ofPartial owner)
    | _ => pure (.error (.ofPartial owner))
  | .session failure => do
    match ← failure.restoreAfterLifecycleLoss with
    | .ok failure => return .ok (.session failure)
    | .error failure => return .error (.session failure)

/-- Clean up after the restoration of the terminal. -/
def finishPostRestore : StartupOwner → Guard (ShutdownResult StartupOwner StartupCleanupReport)
  | .ofPartial owner => do
    match ← owner.runAfterRestore with
    | .reported outcome => return .reported (.ofPartial outcome)
    | .retained owner => return .retained (.ofPartial owner)
    | .aborted => return .aborted
  | .session failure => do
    match ← failure.run with
    | .reported report => return .reported (.session report)
    | .retained failure => return .retained (.session failure)
    | .aborted => return .aborted

/-- Whether every child of a retained cleanup can be reported. A session still waiting for the
restoration has no cleanup to retain, and the source aborts. -/
def terminalReportable : StartupOwner → Option Bool
  | .ofPartial owner => some owner.terminalReportable
  | .session failure => if failure.awaitingTerminalRestore then none else some true

end StartupOwner

/-! ## Retention -/

inductive GuardianRetentionReason where
  | deadline
  | protocolInvalid
  | restoreUnconfirmed
  | cleanupUnconfirmed
  | unreportableChild
deriving DecidableEq, Repr

def retentionReasonAllowsRecovery : GuardianRetentionReason → Bool
  | .deadline | .cleanupUnconfirmed => true
  | .protocolInvalid | .restoreUnconfirmed | .unreportableChild => false

inductive RetainedRecoveryBudget where
  | available
  | consumed
deriving DecidableEq, Repr

inductive RetainedGuardianOwner where
  | postArm
  | startupQuiesce (failure : StartupOwner)
  | startupRestore (awaiting : StartupOwner)
  | startupCleanup (failure : StartupOwner)
  | sessionShutdown (failure : SessionShutdownFailure)
deriving DecidableEq, Repr

structure RetainedGuardianGeneration where
  owner : RetainedGuardianOwner
  reason : GuardianRetentionReason
  recoveryBudget : RetainedRecoveryBudget
deriving DecidableEq, Repr

def restoreWaitRetentionReason : GuardianLifecycleError → GuardianRetentionReason
  | .deadline => .deadline
  | .protocol => .protocolInvalid
  | .lost => .restoreUnconfirmed

def retainedOwnerAllowsRecovery (reason : GuardianRetentionReason) (owner : RetainedGuardianOwner) :
    Bool :=
  retentionReasonAllowsRecovery reason &&
  match owner with
  | .postArm => false
  | .startupRestore _ => reason = .deadline
  | .sessionShutdown failure => failure.recoveryStage ≠ .restorePending || reason = .deadline
  | .startupQuiesce _ | .startupCleanup _ => true

def retainedGenerationCanAttemptRecovery (budget : RetainedRecoveryBudget)
    (ownerAllowsRecovery : Bool) : Bool :=
  budget = .available && ownerAllowsRecovery

/-- What a part of the shutdown comes to. A wait for the coordinator's answer is not over yet. -/
inductive GuardianRunOutcome where
  | terminal (disposition : GuardianExitDisposition)
  | retained (generation : RetainedGuardianGeneration)
  | awaitSessionRestore (failure : SessionShutdownFailure) (budget : RetainedRecoveryBudget)
  | awaitStartupRestore (awaiting : StartupOwner) (budget : RetainedRecoveryBudget)
  | aborted
deriving DecidableEq, Repr

def retained (owner : RetainedGuardianOwner) (reason : GuardianRetentionReason)
    (budget : RetainedRecoveryBudget) : GuardianRunOutcome :=
  .retained ⟨owner, reason, budget⟩

/-! ## Reports -/

/-- The last event, the disposition that it leaves to the guardian, and the release of the anchor. -/
def reportReaped (projection : SessionLifecycleProjection) : Guard GuardianRunOutcome := do
  match ← ask (.emit projection.event) with
  | .error _ => return .terminal .internalFailure
  | .ok () =>
    match ← ask .takeExitDisposition with
    | .error _ => return .terminal .internalFailure
    | .ok disposition =>
      if ← ask (.publish .providerReleased) then return .terminal disposition
      else return .terminal .internalFailure

/-- Tell the coordinator about a complete cleanup, and release the anchor. -/
def finalizeProjection (projection : SessionLifecycleProjection) : Guard GuardianRunOutcome := do
  match ← ask (.emit .terminalRecoveryDisarmed) with
  | .error _ => return .terminal .internalFailure
  | .ok () =>
    let announced ← ask .failureAnnounced
    if projection.worker ≠ .joinedClean && !announced then
      match ← ask (.emit (.failed .worker .worker)) with
      | .error _ => return .terminal .internalFailure
      | .ok () => reportReaped projection
    else reportReaped projection

/-- The loss of the coordinator forbids a successful disposition, but a complete fallback still
releases the anchor. -/
def finalizeFallbackCompletion : Guard GuardianRunOutcome := do
  let _ ← ask (.publish .providerReleased)
  return .terminal .internalFailure

/-- What becomes of a report, by the condition of the wire. -/
def finalizeReport (projection : SessionLifecycleProjection) :
    LifecycleCondition → Guard GuardianRunOutcome
  | .healthy => finalizeProjection projection
  | .lost | .invalid => finalizeFallbackCompletion

/-! ## The end of a session -/

def finishSessionCleanup (failure : SessionShutdownFailure) (condition : LifecycleCondition)
    (budget : RetainedRecoveryBudget) : Guard GuardianRunOutcome := do
  match ← failure.run with
  | .reported report => finalizeReport report.intoLifecycleProjection condition
  | .retained failure => return retained (.sessionShutdown failure) .cleanupUnconfirmed budget
  | .aborted => return .aborted

/-- The restoration of the terminal without the coordinator. -/
def restoreLostSession (failure : SessionShutdownFailure) (budget : RetainedRecoveryBudget) :
    Guard GuardianRunOutcome := do
  match ← failure.restoreAfterLifecycleLoss with
  | .error failure => return retained (.sessionShutdown failure) .restoreUnconfirmed budget
  | .ok failure => finishSessionCleanup failure .lost budget

/-- Retry what is not at the restoration of the terminal yet. An armed generation cannot complete before
it. -/
def retryToTerminalRestore (failure : SessionShutdownFailure) :
    Guard (ShutdownResult SessionShutdownFailure SessionShutdownFailure) :=
  if failure.awaitingTerminalRestore then pure (.reported failure) else do
    match ← failure.run with
    | .reported _ | .aborted => return .aborted
    | .retained failure =>
      if failure.awaitingTerminalRestore then return .reported failure else return .retained failure

/-- The source calls itself when the wire is lost, with an owner that is at the restoration already. -/
def finishSessionRestore (failure : SessionShutdownFailure) (condition : LifecycleCondition)
    (budget : RetainedRecoveryBudget) : Guard GuardianRunOutcome := do
  match ← retryToTerminalRestore failure with
  | .aborted => return .aborted
  | .retained failure => return retained (.sessionShutdown failure) .cleanupUnconfirmed budget
  | .reported failure =>
    match condition with
    | .invalid => return retained (.sessionShutdown failure) .protocolInvalid budget
    | .lost => restoreLostSession failure budget
    | .healthy =>
      match ← ask (.emit .terminalQuiesced) with
      | .ok () => return .awaitSessionRestore failure budget
      | .error error =>
        match LifecycleCondition.fromError error with
        | .lost => restoreLostSession failure budget
        | .healthy | .invalid => return retained (.sessionShutdown failure) .protocolInvalid budget

/-- One command of the wait for the restored terminal. Commands that the restoration supersedes are
skipped. -/
def awaitSessionRestore (failure : SessionShutdownFailure) (budget : RetainedRecoveryBudget) :
    Guard GuardianRunOutcome := do
  match ← ask .receive with
  | .ok .terminalRestored =>
    match ← ask .takeTerminalRestored with
    | .error _ => return retained (.sessionShutdown failure) .protocolInvalid budget
    | .ok () =>
      match failure.acknowledgeTerminalRestored with
      | .error failure => return retained (.sessionShutdown failure) .restoreUnconfirmed budget
      | .ok failure => finishSessionCleanup failure .healthy budget
  | .ok _ => return .awaitSessionRestore failure budget
  | .error .lost => restoreLostSession failure budget
  | .error error =>
    return retained (.sessionShutdown failure) (restoreWaitRetentionReason error) budget

/-- A failure is announced while the wire is healthy. -/
def announceFailure (event : Phase × FailureCode) :
    LifecycleCondition → Guard LifecycleCondition
  | .healthy => do
    match ← ask (.emit (.failed event.1 event.2)) with
    | .ok () => return .healthy
    | .error error => return LifecycleCondition.fromError error
  | condition => return condition

inductive SessionShutdownTrigger where
  | cause (cause : SessionTerminationCause)
  | failure (error : SessionOperationError)
deriving DecidableEq, Repr

/-- Run the ordered shutdown of a session that was live, and has observed a cause of its end. -/
def runProductionShutdown (observed : Option SessionTerminationCause) (trigger : SessionShutdownTrigger) :
    Guard (ShutdownResult SessionShutdownFailure SessionShutdownReport) :=
  match trigger with
  | .cause cause =>
    let (cause, error) := OrderedShutdown.acceptTerminationCause observed cause
    (OrderedShutdown.new cause error).run
  | .failure error => (OrderedShutdown.new observed (some error)).run

def beginSessionShutdown (observed : Option SessionTerminationCause) (trigger : SessionShutdownTrigger)
    (condition : LifecycleCondition) : Guard GuardianRunOutcome := do
  let condition ← match trigger with
    | .cause _ => pure condition
    | .failure error => announceFailure (operationFailureEvent error) condition
  match ← runProductionShutdown observed trigger with
  | .reported _ | .aborted => return .aborted
  | .retained failure => finishSessionRestore failure condition .available

def finishTerminalFailure (observed : Option SessionTerminationCause) (error : SessionOperationError)
    (condition : LifecycleCondition) : Guard GuardianRunOutcome :=
  beginSessionShutdown observed (.failure error) condition

/-! ## The end of a startup -/

/-- Retain a cleanup, unless the process aborts. -/
def retainStartupCleanup (failure : StartupOwner) (budget : RetainedRecoveryBudget) :
    GuardianRunOutcome :=
  match failure.terminalReportable with
  | none => .aborted
  | some true => retained (.startupCleanup failure) .cleanupUnconfirmed budget
  | some false => retained (.startupCleanup failure) .unreportableChild budget

def finishStartupCleanup (cleanup : StartupOwner) (condition : LifecycleCondition)
    (budget : RetainedRecoveryBudget) : Guard GuardianRunOutcome := do
  match ← cleanup.finishPostRestore with
  | .reported report => finalizeReport report.intoLifecycleProjection condition
  | .retained failure => return retainStartupCleanup failure budget
  | .aborted => return .aborted

def restoreLostStartup (awaiting : StartupOwner) (budget : RetainedRecoveryBudget) :
    Guard GuardianRunOutcome := do
  match ← awaiting.restoreAfterLifecycleLoss with
  | .error awaiting => return retained (.startupRestore awaiting) .restoreUnconfirmed budget
  | .ok cleanup => finishStartupCleanup cleanup .lost budget

def finishStartupRestore (awaiting : StartupOwner) (condition : LifecycleCondition)
    (budget : RetainedRecoveryBudget) : Guard GuardianRunOutcome :=
  match condition with
  | .invalid => return retained (.startupRestore awaiting) .protocolInvalid budget
  | .lost => restoreLostStartup awaiting budget
  | .healthy => do
    match ← ask (.emit .terminalQuiesced) with
    | .ok () => return .awaitStartupRestore awaiting budget
    | .error error =>
      match LifecycleCondition.fromError error with
      | .lost => restoreLostStartup awaiting budget
      | .healthy | .invalid => return retained (.startupRestore awaiting) .protocolInvalid budget

/-- One command of the wait for the restored terminal. -/
def awaitStartupRestore (awaiting : StartupOwner) (budget : RetainedRecoveryBudget) :
    Guard GuardianRunOutcome := do
  match ← ask .receive with
  | .ok .terminalRestored =>
    match ← ask .takeTerminalRestored with
    | .error _ => return retained (.startupRestore awaiting) .protocolInvalid budget
    | .ok () =>
      match awaiting.acknowledgeTerminalRestored with
      | .error awaiting => return retained (.startupRestore awaiting) .restoreUnconfirmed budget
      | .ok cleanup => finishStartupCleanup cleanup .healthy budget
  | .ok _ => return .awaitStartupRestore awaiting budget
  | .error .lost => restoreLostStartup awaiting budget
  | .error error =>
    return retained (.startupRestore awaiting) (restoreWaitRetentionReason error) budget

/-- How far a failed startup had come. -/
inductive SupervisedStartupFailure where
  | ofPartial
  | session (observed : Option SessionTerminationCause) (error : SessionOperationError)
deriving DecidableEq, Repr

/-- Shut down an assembled session first, and bring everything else to a stop. -/
def SupervisedStartupFailure.quiesce :
    SupervisedStartupFailure → Guard (ShutdownResult StartupOwner StartupOwner)
  | .ofPartial => StartupOwner.quiesceOwner (.ofPartial .new)
  | .session observed error => do
    match ← (OrderedShutdown.new observed (some error)).run with
    | .reported _ | .aborted => return .aborted
    | .retained failure => StartupOwner.quiesceOwner (.session failure)

def finishStartupFailure (failure : SupervisedStartupFailure) (error : SupervisedStartupError)
    (condition : LifecycleCondition) : Guard GuardianRunOutcome := do
  let condition ← announceFailure (startupFailureEvent error) condition
  match ← failure.quiesce with
  | .aborted => return .aborted
  | .reported awaiting => finishStartupRestore awaiting condition .available
  | .retained failure =>
    match ← failure.quiesceOwner with
    | .aborted => return .aborted
    | .reported awaiting => finishStartupRestore awaiting condition .available
    | .retained failure => return retained (.startupQuiesce failure) .cleanupUnconfirmed .available

/-! ## Recovery -/

/-- The one retry of a retained owner, which takes the wire for healthy. -/
def retryRetainedOwner : RetainedGuardianOwner → Guard GuardianRunOutcome
  | .postArm => return retained .postArm .unreportableChild .consumed
  | .startupQuiesce failure => do
    match ← failure.quiesceOwner with
    | .reported awaiting => finishStartupRestore awaiting .healthy .consumed
    | .retained failure => return retained (.startupQuiesce failure) .cleanupUnconfirmed .consumed
    | .aborted => return .aborted
  | .startupRestore awaiting => finishStartupRestore awaiting .healthy .consumed
  | .startupCleanup failure => do
    match ← failure.finishPostRestore with
    | .reported report => finalizeProjection report.intoLifecycleProjection
    | .retained failure => return retainStartupCleanup failure .consumed
    | .aborted => return .aborted
  | .sessionShutdown failure =>
    match failure.recoveryStage with
    | .quiescing | .restorePending => finishSessionRestore failure .healthy .consumed
    | .cleanupPending => finishSessionCleanup failure .healthy .consumed

/-! ## The guardian after its session -/

/-- How the guardian comes to its shutdown. -/
inductive GuardianShutdown where
  | session (observed : Option SessionTerminationCause) (trigger : SessionShutdownTrigger)
      (condition : LifecycleCondition)
  | startup (failure : SupervisedStartupFailure) (error : SupervisedStartupError)
      (condition : LifecycleCondition)
  | postArm
deriving DecidableEq, Repr

def GuardianShutdown.run : GuardianShutdown → Guard GuardianRunOutcome
  | .session observed trigger condition => beginSessionShutdown observed trigger condition
  | .startup failure error condition => finishStartupFailure failure error condition
  | .postArm => return retained .postArm .deadline .available

/-- Where the guardian waits: for the coordinator to restore the terminal, in its first attempt or in the
one after a recovery request, and for that request. -/
inductive GuardianPoint where
  | sessionRestore (failure : SessionShutdownFailure) (budget : RetainedRecoveryBudget)
  | startupRestore (awaiting : StartupOwner) (budget : RetainedRecoveryBudget)
  | recoveryRequest (generation : RetainedGuardianGeneration)
deriving DecidableEq, Repr

/-- How the guardian ends. A parked one lives on with what it owns. -/
inductive GuardianEnd where
  | exits (disposition : GuardianExitDisposition)
  | parks (owner : RetainedGuardianOwner)
  | aborts
deriving DecidableEq, Repr

def publishRetainedUnrecoverableAndPark (generation : RetainedGuardianGeneration) :
    Guard (GuardianPoint ⊕ GuardianEnd) := do
  let _ ← ask (.publish .retainedUnrecoverable)
  return .inr (.parks generation.owner)

/-- A generation waits for a recovery request only if it can make use of one, and once. -/
def awaitRecovery (generation : RetainedGuardianGeneration) : Guard (GuardianPoint ⊕ GuardianEnd) :=
  if retainedGenerationCanAttemptRecovery generation.recoveryBudget
      (retainedOwnerAllowsRecovery generation.reason generation.owner) then
    return .inl (.recoveryRequest { generation with recoveryBudget := .consumed })
  else publishRetainedUnrecoverableAndPark generation

/-- Go on with an outcome. A second retention has its budget consumed, and parks. -/
def GuardianRunOutcome.apply : GuardianRunOutcome → Guard (GuardianPoint ⊕ GuardianEnd)
  | .terminal disposition => return .inr (.exits disposition)
  | .retained generation => awaitRecovery generation
  | .awaitSessionRestore failure budget => return .inl (.sessionRestore failure budget)
  | .awaitStartupRestore awaiting budget => return .inl (.startupRestore awaiting budget)
  | .aborted => return .inr .aborts

def GuardianPoint.turn : GuardianPoint → Guard (GuardianPoint ⊕ GuardianEnd)
  | .sessionRestore failure budget => do (← awaitSessionRestore failure budget).apply
  | .startupRestore awaiting budget => do (← awaitStartupRestore awaiting budget).apply
  | .recoveryRequest generation => do
    match ← ask .pollRecoveryRequest with
    | none => publishRetainedUnrecoverableAndPark generation
    | some .pending | some .protocolRejected => return .inl (.recoveryRequest generation)
    | some .verified | some .ownerLost | some .protocolRejectedOwnerLost =>
      (← retryRetainedOwner generation.owner).apply

end Calcifer.Supervisor
