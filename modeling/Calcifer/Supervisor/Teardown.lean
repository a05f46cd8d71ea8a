import Calcifer.Supervisor.TerminalGeneration

/-!
# Ordered shutdown

A session is shut down in nine phases. `OrderedShutdown` attempts one after the other, through a backend
that advances the phase or retains it; a retained shutdown is retried where it stopped.
`productionBackend` is the backend of a session: its build, its monitor, its relay, its terminal and the
App Server that the monitor holds at first.

In `Supervisor.Shutdown` the components answer as they like. Here they are kept, so that it can be
said that none of them is missing in the end.
-/

namespace Calcifer.Supervisor.Teardown

/-! ## Errors -/

/-- The first failure of the session, and every cleanup phase that failed at least once. -/
structure SessionErrors where
  operation : Option SessionOperationError
  cleanup : List SessionCleanupError
deriving DecidableEq, Repr

namespace SessionErrors

def recordOperation (e : SessionErrors) (error : Option SessionOperationError) : SessionErrors :=
  { e with operation := e.operation.or error }

def recordCleanup (e : SessionErrors) (error : Option SessionCleanupError) : SessionErrors :=
  match error with
  | some error => { e with cleanup := e.cleanup.insert error }
  | none => e

def record (e : SessionErrors) (step : ShutdownStep) : SessionErrors :=
  (e.recordOperation step.operationError).recordCleanup step.cleanupError

end SessionErrors

/-! ## The engine -/

/-- What a shutdown runs on: how a phase is attempted and what is reported in the end, and the two ways
in which its terminal is restored. All that happens during a call is an `ι`. No report means that the
process aborts. -/
structure Backend (β ι ρ : Type) where
  shutdownStep : β → ShutdownPhase → ι → ShutdownStep × β
  finish : β → SessionErrors → Option ρ
  acknowledgeCoordinatorRestore : β → Bool × β
  restoreAfterLifecycleLoss : β → ι → ShutdownStep × β

structure OrderedShutdown (β : Type) where
  backend : β
  phase : ShutdownPhase
  errors : SessionErrors

/-- An attempt at a phase. -/
structure Attempt where
  phase : ShutdownPhase
  step : ShutdownStep
deriving DecidableEq, Repr

namespace OrderedShutdown

variable {β ι ρ : Type}

def new (backend : β) (operationError : Option SessionOperationError) : OrderedShutdown β where
  backend := backend
  phase := .quiesce
  errors := ⟨operationError, []⟩

/-- Attempt the given number of phases, or up to the first one that is retained: the attempts, whether
all of them advanced, and where the shutdown stands. -/
def runFor (b : Backend β ι ρ) (i : ι) :
    ℕ → OrderedShutdown β → List Attempt × Bool × OrderedShutdown β
  | 0, s => ([], true, s)
  | n + 1, s =>
    let (step, backend) := b.shutdownStep s.backend s.phase i
    let errors := s.errors.record step
    match step.progress with
    | .advanced =>
      let (attempts, advanced, s') := runFor b i n ⟨backend, s.phase.next, errors⟩
      (⟨s.phase, step⟩ :: attempts, advanced, s')
    | .retained => ([⟨s.phase, step⟩], false, ⟨backend, s.phase, errors⟩)

def attempts (b : Backend β ι ρ) (i : ι) (s : OrderedShutdown β) : List Attempt :=
  (runFor b i s.phase.remaining s).1

/-- Run every phase that is left. -/
def run (b : Backend β ι ρ) (i : ι) (s : OrderedShutdown β) : ShutdownResult (OrderedShutdown β) ρ :=
  match runFor b i s.phase.remaining s with
  | (_, false, s) => .retained s
  | (_, true, s) => (b.finish s.backend s.errors).elim .aborted .reported

/-- Install the proof that the coordinator has restored the terminal, or give it back. -/
def acknowledgeTerminalRestored (b : Backend β ι ρ) (s : OrderedShutdown β) :
    Bool × OrderedShutdown β :=
  if s.phase ≠ .terminalRestore then (false, s)
  else
    let (accepted, backend) := b.acknowledgeCoordinatorRestore s.backend
    (accepted, { s with backend })

/-- Restore the terminal without the coordinator. The cleanup error of the attempt is the one that is
recorded, if it was made at all. -/
def restoreAfterLifecycleLoss (b : Backend β ι ρ) (i : ι) (s : OrderedShutdown β) :
    Except SessionCleanupError Unit × OrderedShutdown β :=
  if s.phase ≠ .terminalRestore then (.error .terminalRestore, s)
  else
    let (step, backend) := b.restoreAfterLifecycleLoss s.backend i
    let s := { s with backend, errors := s.errors.recordCleanup step.cleanupError }
    match step.progress with
    | .advanced => (.ok (), s)
    | .retained => (.error (step.cleanupError.getD .terminalRestore), s)

end OrderedShutdown

/-- A call on a retained shutdown. -/
inductive ShutdownCall (ι : Type) where
  | retry (i : ι)
  | acknowledgeTerminalRestored
  | restoreAfterLifecycleLoss (i : ι)

/-- What a call did: the phases that it attempted, the cleanup error that a restoration ran into, and the
report that it ended with. -/
structure ShutdownOutput (ρ : Type) where
  attempts : List Attempt
  restoreError : Option SessionCleanupError
  report : Option ρ

/-- A call consumes a shutdown that it completes, so that every later one has nothing to act on. -/
def OrderedShutdown.call {β ι ρ : Type} (b : Backend β ι ρ) :
    ShutdownResult (OrderedShutdown β) ρ → ShutdownCall ι →
      ShutdownOutput ρ × ShutdownResult (OrderedShutdown β) ρ
  | .retained s, .retry i =>
    match s.run b i with
    | .reported report => (⟨s.attempts b i, none, some report⟩, .reported report)
    | result => (⟨s.attempts b i, none, none⟩, result)
  | .retained s, .acknowledgeTerminalRestored =>
    (⟨[], none, none⟩, .retained (s.acknowledgeTerminalRestored b).2)
  | .retained s, .restoreAfterLifecycleLoss i =>
    let error := if s.phase = .terminalRestore then (b.restoreAfterLifecycleLoss s.backend i).1.cleanupError
      else none
    (⟨[], error, none⟩, .retained (s.restoreAfterLifecycleLoss b i).2)
  | result, _ => (⟨[], none, none⟩, result)

/-! ## The components of a session -/

inductive RelayAuthority where
  | live
  | retained
  | clean
deriving DecidableEq, Repr

inductive MonitorAuthority where
  | live
  | clean
deriving DecidableEq, Repr

/-- A clean App Server is kept as the outcome of its graceful drain. -/
inductive AppAuthority where
  | inMonitor
  | connected
  | stopRetained
  | stopped
  | cleanupRetained
  | clean (drain : ShutdownOutcome)
  | missing
deriving DecidableEq, Repr

inductive BuildAuthority where
  | live
  | cleanupRetained
  | clean
deriving DecidableEq, Repr

structure ProductionSessionComponents where
  build : BuildAuthority
  monitor : MonitorAuthority
  relay : RelayAuthority
  terminal : TerminalGenerationOwner
  app : AppAuthority
  workerJoinStatus : WorkerJoinStatus
deriving DecidableEq, Repr

/-- The one error of the relay that a normal end of the TUI explains is that of its transport. -/
inductive ReadinessProxyError where
  | transport
  | other
deriving DecidableEq, Repr

/-- How the relay is shut down. A shutdown without an error is resolved. -/
structure RelayReply where
  operationError : Option ReadinessProxyError
  cleanupError : Bool
  resolved : Bool
deriving DecidableEq, Repr

/-- How the worker of the monitor is joined, and whether it gives back the session of the App Server. -/
inductive MonitorReply where
  | joined (session : Bool)
  | pendingJoin (error : SessionMonitorError)
  | joinedFailed (error : SessionMonitorError) (session : Bool)
  | joinedPanicked (error : SessionMonitorError) (session : Bool)
deriving DecidableEq, Repr

/-- All that happens during a run of the phases: each of them is attempted once at most. -/
structure ShutdownAnswers where
  shuts : Bool
  tui : TuiShutdownCall → Option ShutdownOutcome
  relay : RelayReply
  monitor : MonitorReply
  stops : Bool
  restores : Bool
  disarm : RecoveryDisarmOutcome
  confirms : Bool
  drain : Option ShutdownOutcome
  cleans : Bool

structure SessionShutdownReport where
  tuiOutcome : ShutdownOutcome
  appDrain : ShutdownOutcome
  workerJoinStatus : WorkerJoinStatus
  terminationCause : Option SessionTerminationCause
  operationError : Option SessionOperationError
  cleanupErrors : List SessionCleanupError
deriving DecidableEq, Repr

def relayShutdownOperationError (cause : Option SessionTerminationCause) :
    Option ReadinessProxyError → Option SessionOperationError
  | some .transport => if cause = some .naturalTuiEof then none else some (.component .readinessRelay)
  | some .other => some (.component .readinessRelay)
  | none => none

namespace ProductionSessionComponents

def shutdownRelay (c : ProductionSessionComponents) (reply : RelayReply) :
    ShutdownStep × ProductionSessionComponents :=
  let explained := relayShutdownOperationError c.terminal.terminationCause reply.operationError
  let cleanupError := if reply.cleanupError then some .readinessRelay else none
  match c.relay with
  | .clean => (.advanced, c)
  | .live =>
    if reply.resolved then (.advancedWith explained cleanupError, { c with relay := .clean })
    else (.retained explained cleanupError, { c with relay := .retained })
  | .retained =>
    if reply.resolved then (.advancedWith explained cleanupError, { c with relay := .clean })
    else
      (.retained (reply.operationError.map fun _ => .component .readinessRelay) cleanupError, c)

/-- A worker that was joined, with the session of the App Server or without it. -/
def joinMonitor (c : ProductionSessionComponents) (status : WorkerJoinStatus)
    (operationError missing : Option SessionOperationError) (session : Bool) :
    ShutdownStep × ProductionSessionComponents :=
  let c := { c with monitor := .clean, workerJoinStatus := status }
  if session then (.advancedWith operationError none, { c with app := .connected })
  else (.retained missing (some .missingAuthority), { c with app := .missing })

def shutdownMonitor (c : ProductionSessionComponents) (reply : MonitorReply) :
    ShutdownStep × ProductionSessionComponents :=
  match c.monitor with
  | .clean =>
    match c.app with
    | .inMonitor => (.retained (some (.component .monitorAndApp)) (some .missingAuthority), c)
    | _ => (.advanced, c)
  | .live =>
    match reply with
    | .joined session => c.joinMonitor .joinedClean none (some (.component .monitorAndApp)) session
    | .pendingJoin error => (.retained (some (.monitor error)) (some .monitor), c)
    | .joinedFailed error session =>
      c.joinMonitor .joinedFailed (some (.monitor error)) (some (.monitor error)) session
    | .joinedPanicked error session =>
      c.joinMonitor .joinedPanicked (some (.monitor error)) (some (.monitor error)) session

def stopAppServer (c : ProductionSessionComponents) (stops : Bool) :
    ShutdownStep × ProductionSessionComponents :=
  match c.app with
  | .connected | .stopRetained =>
    if stops then (.advanced, { c with app := .stopped })
    else (.retained none (some .appServer), { c with app := .stopRetained })
  | .stopped | .cleanupRetained | .clean _ => (.advanced, c)
  | .inMonitor | .missing =>
    (.retained (some (.component .monitorAndApp)) (some .missingAuthority), { c with app := .missing })

def cleanupAppRuntime (c : ProductionSessionComponents) (drain : Option ShutdownOutcome) :
    ShutdownStep × ProductionSessionComponents :=
  match c.app with
  | .stopped | .cleanupRetained =>
    match drain with
    | some drain => (.advanced, { c with app := .clean drain })
    | none => (.retained none (some .runtime), { c with app := .cleanupRetained })
  | .clean _ => (.advanced, c)
  | .inMonitor | .connected | .stopRetained | .missing =>
    (.retained none (some .missingAuthority), { c with app := .missing })

def cleanupBuild (c : ProductionSessionComponents) (cleans : Bool) :
    ShutdownStep × ProductionSessionComponents :=
  match c.build with
  | .live | .cleanupRetained =>
    if cleans then (.advanced, { c with build := .clean })
    else (.retained none (some .pinnedBuild), { c with build := .cleanupRetained })
  | .clean => (.advanced, c)

/-- An operation of the terminal, which leaves the other components alone. -/
def onTerminal (c : ProductionSessionComponents) (result : ShutdownStep × TerminalGenerationOwner) :
    ShutdownStep × ProductionSessionComponents :=
  (result.1, { c with terminal := result.2 })

def shutdownStep (c : ProductionSessionComponents) (phase : ShutdownPhase) (i : ShutdownAnswers) :
    ShutdownStep × ProductionSessionComponents :=
  match phase with
  | .quiesce => c.onTerminal (c.terminal.quiesce i.shuts)
  | .tui => c.onTerminal (c.terminal.shutdownTui i.tui)
  | .readinessRelay => c.shutdownRelay i.relay
  | .monitor => c.shutdownMonitor i.monitor
  | .appServerStop => c.stopAppServer i.stops
  | .terminalRestore => (c.terminal.awaitCoordinatorRestore, c)
  | .recoveryDisarm => c.onTerminal (c.terminal.disarmRecovery i.disarm i.confirms)
  | .runtimeCleanup => c.cleanupAppRuntime i.drain
  | .pinnedBuild => c.cleanupBuild i.cleans
  | .complete => (.advanced, c)

/-- The report of a session. The process aborts without a drained App Server. -/
def finish (c : ProductionSessionComponents) (errors : SessionErrors) : Option SessionShutdownReport :=
  match c.app with
  | .clean drain => do
    let (outcome, cause) ← c.terminal.intoFinalOutcome
    return ⟨outcome, drain, c.workerJoinStatus, cause, errors.operation, errors.cleanup⟩
  | .inMonitor | .connected | .stopRetained | .stopped | .cleanupRetained | .missing => none

end ProductionSessionComponents

def productionBackend : Backend ProductionSessionComponents ShutdownAnswers SessionShutdownReport where
  shutdownStep := ProductionSessionComponents.shutdownStep
  finish := ProductionSessionComponents.finish
  acknowledgeCoordinatorRestore c :=
    let (accepted, terminal) := c.terminal.acknowledgeCoordinatorRestore
    (accepted, { c with terminal })
  restoreAfterLifecycleLoss c i := c.onTerminal (c.terminal.restoreAfterLifecycleLoss i.restores)

abbrev SessionShutdownFailure : Type := OrderedShutdown ProductionSessionComponents

/-- The status of a session and how its guardian exits, by the report. -/
def SessionShutdownReport.projectSessionSemantics (r : SessionShutdownReport) :
    SessionStatus × GuardianExitDisposition :=
  if r.operationError.isSome ∨ r.cleanupErrors ≠ [] ∨ ¬r.appDrain.clean ∨ ¬r.tuiOutcome.clean then
    (.failed, .internalFailure)
  else
  match r.terminationCause with
  | none => (.failed, .internalFailure)
  | some cause =>
    projectTerminalSemantics r.appDrain.disposition r.tuiOutcome.disposition r.workerJoinStatus cause

/-! ## The guardian and its session

The surroundings of the guardian are arguments here. Bounds and deadlines are absent where they
overflow. -/

/-- What becomes of a session in the hands of its guardian. -/
inductive SessionEnd where
  | terminal (report : SessionShutdownReport) (condition : LifecycleCondition)
  | retained (failure : SessionShutdownFailure) (reason : GuardianRetentionReason)
  | waits (failure : SessionShutdownFailure)
  | aborted

/-- What the guardian receives while it waits for the restored terminal, and whether its receiver has the
proof of a restoration. -/
inductive RestoreRound where
  | overflow
  | received (command : Except GuardianLifecycleError CoordinatorCommand) (proof : Bool)

/-- What happens while a guardian finishes a session: the bounds of the retry with its answers, the word
that the terminal is quiesced, the commands that it receives, its own restoration of the terminal, and
the cleanup. -/
structure RestoreTurn where
  retry : Option ShutdownAnswers
  emitted : Option (Except GuardianLifecycleError Unit)
  rounds : List RestoreRound
  restore : ShutdownAnswers
  cleanup : Option ShutdownAnswers

namespace OrderedShutdown

def awaitingTerminalRestore (s : SessionShutdownFailure) : Bool := s.phase = .terminalRestore

end OrderedShutdown

def finishSessionCleanup (failure : SessionShutdownFailure) (condition : LifecycleCondition)
    (turn : RestoreTurn) : SessionEnd :=
  match turn.cleanup with
  | none => .retained failure .deadline
  | some i =>
    match failure.run productionBackend i with
    | .reported report => .terminal report condition
    | .retained failure => .retained failure .cleanupUnconfirmed
    | .aborted => .aborted

/-- The restoration of the terminal without the coordinator. -/
def restoreLostSession (failure : SessionShutdownFailure) (turn : RestoreTurn) : SessionEnd :=
  match failure.restoreAfterLifecycleLoss productionBackend turn.restore with
  | (.error _, failure) => .retained failure .restoreUnconfirmed
  | (.ok (), failure) => finishSessionCleanup failure .lost turn

/-- Receive until the terminal is restored. -/
def awaitRestored (failure : SessionShutdownFailure) (turn : RestoreTurn) :
    List RestoreRound → SessionEnd
  | [] => .waits failure
  | .overflow :: _ => .retained failure .deadline
  | .received (.ok .terminalRestored) proof :: _ =>
    if proof then
      match failure.acknowledgeTerminalRestored productionBackend with
      | (true, failure) => finishSessionCleanup failure .healthy turn
      | (false, failure) => .retained failure .restoreUnconfirmed
    else .retained failure .protocolInvalid
  | .received (.ok _) _ :: rounds => awaitRestored failure turn rounds
  | .received (.error .lost) _ :: _ => restoreLostSession failure turn
  | .received (.error error) _ :: _ => .retained failure (restoreWaitRetentionReason error)

/-- Go on with a session that waits for its terminal. The source calls `finishSessionRestore` again when
the wire is lost. -/
def restoreSession (failure : SessionShutdownFailure) (condition : LifecycleCondition)
    (turn : RestoreTurn) : SessionEnd :=
  match condition with
  | .invalid => .retained failure .protocolInvalid
  | .lost => restoreLostSession failure turn
  | .healthy =>
    match turn.emitted with
    | none => .retained failure .deadline
    | some (.ok ()) => awaitRestored failure turn turn.rounds
    | some (.error error) =>
      match LifecycleCondition.fromError error with
      | .lost => restoreLostSession failure turn
      | .healthy | .invalid => .retained failure .protocolInvalid

/-- Bring a session to the restoration of its terminal, and through it. A report before it is none. -/
def finishSessionRestore (failure : SessionShutdownFailure) (condition : LifecycleCondition)
    (turn : RestoreTurn) : SessionEnd :=
  if failure.awaitingTerminalRestore then restoreSession failure condition turn
  else
    match turn.retry with
    | none => .retained failure .deadline
    | some i =>
      match failure.run productionBackend i with
      | .reported _ | .aborted => .aborted
      | .retained failure =>
        if failure.awaitingTerminalRestore then restoreSession failure condition turn
        else .retained failure .cleanupUnconfirmed

inductive SessionShutdownTrigger where
  | cause (cause : SessionTerminationCause)
  | failure (error : SessionOperationError)
deriving DecidableEq, Repr

/-- What happens while a guardian begins a shutdown: what becomes of the word about a failure, the
answers to the first run of the phases and whether its bounds overflow, and all that follows. -/
structure ShutdownTurn where
  emitted : Except GuardianLifecycleError Unit
  overflow : Bool
  answers : ShutdownAnswers
  restore : RestoreTurn

/-- The condition of the wire after the word about a failure. -/
def announceFailure (condition : LifecycleCondition) (emitted : Except GuardianLifecycleError Unit) :
    LifecycleCondition :=
  match condition, emitted with
  | .healthy, .error error => LifecycleCondition.fromError error
  | condition, _ => condition

/-- The first run of the phases. A cause of its end that the terminal does not accept is a failure. -/
def runProductionShutdown (c : ProductionSessionComponents) (trigger : SessionShutdownTrigger)
    (i : ShutdownAnswers) : ShutdownResult SessionShutdownFailure SessionShutdownReport :=
  match trigger with
  | .cause cause =>
    let (accepted, terminal) := c.terminal.acceptTerminationCause cause
    let operationError := match accepted with
      | .ok _ => none
      | .error error => some (.terminalPump error)
    (OrderedShutdown.new { c with terminal } operationError).run productionBackend i
  | .failure error => (OrderedShutdown.new c (some error)).run productionBackend i

/-- Shut a session down. With bounds that overflow, it is driven with expired ones and retained. -/
def beginSessionShutdown (c : ProductionSessionComponents) (trigger : SessionShutdownTrigger)
    (condition : LifecycleCondition) (turn : ShutdownTurn) : SessionEnd :=
  let condition := match trigger with
    | .cause _ => condition
    | .failure _ => announceFailure condition turn.emitted
  match runProductionShutdown c trigger turn.answers with
  | .reported report => if turn.overflow then .terminal report .invalid else .aborted
  | .aborted => .aborted
  | .retained failure =>
    if turn.overflow then .retained failure .deadline
    else finishSessionRestore failure condition turn.restore

/-- Shut a session down after a fatal failure of its terminal. -/
def finishTerminalFailure (c : ProductionSessionComponents) (error : SessionOperationError)
    (condition : LifecycleCondition) (turn : ShutdownTurn) : SessionEnd :=
  let condition := announceFailure condition turn.emitted
  match runProductionShutdown c (.failure error) turn.answers with
  | .reported _ | .aborted => .aborted
  | .retained failure => finishSessionRestore failure condition turn.restore

/-- Recover a retained session. -/
def recoverSession (failure : SessionShutdownFailure) (turn : RestoreTurn) : SessionEnd :=
  match failure.phase.recoveryStage with
  | .quiescing | .restorePending => finishSessionRestore failure .healthy turn
  | .cleanupPending => finishSessionCleanup failure .healthy turn

/-- How a guardian comes to shut its session down. -/
inductive SessionStop where
  | shutdown (trigger : SessionShutdownTrigger)
  | terminalFailure (error : SessionOperationError)
deriving DecidableEq, Repr

def SessionStop.begin (stop : SessionStop) (c : ProductionSessionComponents)
    (condition : LifecycleCondition) (turn : ShutdownTurn) : SessionEnd :=
  match stop with
  | .shutdown trigger => beginSessionShutdown c trigger condition turn
  | .terminalFailure error => finishTerminalFailure c error condition turn

/-- The shutdown of a session, and every recovery of it. -/
def SessionStop.run (stop : SessionStop) (c : ProductionSessionComponents)
    (condition : LifecycleCondition) (turn : ShutdownTurn) (recoveries : List RestoreTurn) : SessionEnd :=
  recoveries.foldl
    (fun result turn => match result with
      | .retained failure _ => recoverSession failure turn
      | result => result)
    (stop.begin c condition turn)

end Calcifer.Supervisor.Teardown
