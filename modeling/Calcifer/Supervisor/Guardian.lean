import Calcifer.Supervisor.Protocol

/-!
# The guardian

The guardian owns the provider children of a session, and its half of the lifecycle wire.
-/

namespace Calcifer.Supervisor

/-! ## Failures -/

/-- The failure of a running session. What the monitor, a component or the pump reported is not told
to the coordinator and is left out. -/
inductive SessionOperationError where
  | recoveryRequested
  | deadline
  | monitor
  | component
  | terminalPump
deriving DecidableEq, Repr

/-- The failure of a session that was not ready yet. -/
inductive SupervisedStartupError where
  | terminal
  | compatibility
  | runtime
  | appPlan
  | appLaunch
  | appSocket
  | monitorConnect
  | monitorStart
  | relayPlan
  | relayStart
  | tuiPlan
  | tuiPty
  | tuiLaunch
  | tuiReadiness
  | lifecycle
  | sessionReadiness
  | deadline
deriving DecidableEq, Repr

def operationFailureEvent : SessionOperationError → Phase × FailureCode
  | .recoveryRequested => (.protocol, .internal)
  | .deadline => (.pump, .timeout)
  | .monitor | .component => (.readiness, .earlyExit)
  | .terminalPump => (.pump, .pump)

def startupFailureEvent : SupervisedStartupError → Phase × FailureCode
  | .terminal => (.terminal, .terminal)
  | .compatibility | .appPlan | .relayPlan | .tuiPlan => (.runtime, .internal)
  | .runtime => (.runtime, .internal)
  | .appLaunch | .appSocket => (.appServer, .spawn)
  | .monitorConnect | .monitorStart => (.worker, .worker)
  | .relayStart => (.readiness, .internal)
  | .tuiPty | .tuiLaunch => (.tui, .spawn)
  | .tuiReadiness => (.readiness, .earlyExit)
  | .lifecycle => (.protocol, .invalidControl)
  | .sessionReadiness => (.readiness, .earlyExit)
  | .deadline => (.readiness, .timeout)

/-- No failure of a session or of its startup withholds the terminal report. -/
theorem operationFailureEvent_reportable (error : SessionOperationError) :
    let (phase, code) := operationFailureEvent error
    ¬((phase = .cleanup ∨ phase = .restore) ∨ (code = .cleanupMismatch ∨ code = .restore)) := by
  cases error <;> simp [operationFailureEvent]

/-! ## The end of the process -/

/-- How a process ended, as its parent sees it. -/
inductive ExitStatus where
  | code (code : UInt8)
  | signal (signal : UInt8)
deriving DecidableEq, Repr

def usageExhaustedExitCode : UInt8 := 75

/-- The guardian ends as its disposition says. A signal whose default action does not end the process
fails closed. -/
def applyTerminalDisposition (raised : Bool) : GuardianExitDisposition → ExitStatus
  | .code code => .code code
  | .usageExhausted => .code usageExhaustedExitCode
  | .internalFailure => .code 1
  | .signal signal => if raised then .signal signal else .code 1

end Calcifer.Supervisor
