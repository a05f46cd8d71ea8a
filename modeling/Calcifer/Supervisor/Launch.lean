import Calcifer.Supervisor.Anchor

/-!
# The launch of a session

The anchor spawns the coordinator, and the coordinator spawns the guardian, each with a copy of the
writing end of the completion endpoint. Both go through many setup steps before any child of the provider
is started, and end without a frame if one of them fails.

The three processes run side by side here: the anchor by its drive, and the other two by what they do up
to the point where the guardian is armed.
-/

namespace Calcifer.Supervisor

open Program

/-! ## The roles of coordinator and guardian -/

/-- The setup steps that can fail, of both roles. -/
inductive LaunchStep where
  | takeCompletion
  | takeTransfer
  | readProfileId
  | readThreadId
  | validateThreadId
  | readCodexExecutable
  | readForegroundProcessGroup
  | workingDirectory
  | currentExecutable
  | managedRuntimeRoot
  | discoverRegistry
  | findProfile
  | receiveTargetReservation
  | acknowledgeReservation
  | validateCoordinatorConfig
  | awaitForeground
  | compareReservation
  | lockProfileCoordinator
  | refetchProfile
  | compareProfile
  | terminalChannelPair
  | captureTerminal
  | duplicateRecovery
  | lifecyclePair
  | transferChannelPair
  | handTerminal
  | handRecovery
  | transferReadTimeout
  | commitTransfer
  | coordinatorBounds
  | receiveProviderLease
  | acknowledgeLease
  | guardianBounds
  | bootstrapStdin
  | lifecycleTimeouts
  | bootstrapTerminal
  | bootstrapRecovery
  | captureSnapshot
  | compareLease
  | admitSession
  | emitLeaseCommitted
  | receiveStart
  | emitTerminalArmed
  | acceptLaunchAuthorization
deriving DecidableEq, Repr

/-- How the spawn of the guardian ends: a spawn can fail with a child that was started already. -/
inductive SpawnReply where
  | spawned
  | failedWithChild
  | failed
deriving DecidableEq, Repr

inductive LaunchOp where
  | attempt (step : LaunchStep)
  | spawnGuardian
  | sendPromotedLease
  | dropCompletion
  | assemble
  | runCoordinator
deriving DecidableEq, Repr

/-- What a call answers. A coordinator that ran without a status was retained. -/
abbrev LaunchOp.Reply : LaunchOp → Type
  | .attempt _ | .sendPromotedLease | .assemble => Bool
  | .spawnGuardian => SpawnReply
  | .dropCompletion => Unit
  | .runCoordinator => Option ExitStatus

/-- A part of a role, which may end its process with an exit code. -/
abbrev Role : Type → Type := ExceptT UInt8 (Program LaunchOp LaunchOp.Reply)

namespace Role

def ask (op : LaunchOp) : Role op.Reply := ExceptT.lift (Program.perform op)

/-- The process ends if the step fails. -/
def require (code : UInt8) (step : LaunchStep) : Role Unit := do
  if ¬(← ask (.attempt step)) then throw code

/-- The exit code of a role whose configuration does not parse. -/
def parseFailure : UInt8 := 70

end Role

open Role

/-- How the coordinator ends. A parked one lives on with its profile lease. -/
inductive CoordinatorEnd where
  | exits (status : ExitStatus)
  | parks
deriving DecidableEq, Repr

/-- What becomes of a guardian at the end of its bootstrap. -/
inductive GuardianBootstrap where
  | exits (status : ExitStatus)
  | armed
deriving DecidableEq, Repr

/-- Drive the session, or park with what the setup had. -/
def assembleAndRun : Role CoordinatorEnd := do
  ask .dropCompletion
  require 1 .coordinatorBounds
  if ← ask .assemble then
    match ← ask .runCoordinator with
    | some status => return .exits status
    | none => return .parks
  else return .parks

def tryRunProductionCoordinator (promoted : Bool) : Role CoordinatorEnd := do
  require 1 .validateCoordinatorConfig
  require 1 .awaitForeground
  if promoted then require 1 .compareReservation
  else
    require 1 .lockProfileCoordinator
    require 1 .refetchProfile
    require 1 .compareProfile
  require 1 .terminalChannelPair
  require 1 .captureTerminal
  require 1 .duplicateRecovery
  require 1 .lifecyclePair
  if promoted then require 1 .transferChannelPair
  require 1 .handTerminal
  require 1 .handRecovery
  match ← ask .spawnGuardian with
  | .failed => throw 1
  | .failedWithChild => assembleAndRun
  | .spawned =>
    if promoted then
      require 1 .transferReadTimeout
      -- Without an acknowledgement the coordinator goes on with its own half of the reservation.
      if ← ask .sendPromotedLease then require 1 .commitTransfer
    assembleAndRun

def parseAndRunCoordinatorRole (promoted : Bool) : Role CoordinatorEnd := do
  require parseFailure .takeCompletion
  if promoted then require parseFailure .takeTransfer
  require parseFailure .readProfileId
  require parseFailure .readThreadId
  require parseFailure .validateThreadId
  require parseFailure .readCodexExecutable
  require parseFailure .workingDirectory
  require parseFailure .currentExecutable
  require parseFailure .discoverRegistry
  require parseFailure .findProfile
  if promoted then
    require parseFailure .receiveTargetReservation
    require parseFailure .acknowledgeReservation
  tryRunProductionCoordinator promoted

/-- A failed bootstrap ends the guardian as an internal failure, without a frame. -/
def bootstrapGuardianCore (promoted : Bool) : Role GuardianBootstrap := do
  require 1 .guardianBounds
  require 1 .bootstrapStdin
  require 1 .lifecycleTimeouts
  require 1 .bootstrapTerminal
  require 1 .bootstrapRecovery
  require 1 .captureSnapshot
  if promoted then require 1 .compareLease
  require 1 .admitSession
  require 1 .emitLeaseCommitted
  require 1 .receiveStart
  require 1 .emitTerminalArmed
  require 1 .acceptLaunchAuthorization
  return .armed

def parseAndRunGuardianRole (promoted : Bool) : Role GuardianBootstrap := do
  require parseFailure .takeCompletion
  if promoted then require parseFailure .takeTransfer
  require parseFailure .readProfileId
  require parseFailure .readThreadId
  require parseFailure .validateThreadId
  require parseFailure .readCodexExecutable
  require parseFailure .readForegroundProcessGroup
  require parseFailure .workingDirectory
  require parseFailure .managedRuntimeRoot
  require parseFailure .discoverRegistry
  require parseFailure .findProfile
  if promoted then
    require parseFailure .receiveProviderLease
    require parseFailure .acknowledgeLease
  bootstrapGuardianCore promoted

/-! ## Processes -/

/-- A process and what it holds of the completion endpoint. -/
inductive Process (α : Type) where
  | absent
  | running (rest : Program LaunchOp LaunchOp.Reply (Except UInt8 α)) (holds : Bool)
  | finished (result : α) (holds : Bool)

namespace Process

def holds {α : Type} : Process α → Bool
  | .absent => false
  | .running _ holds | .finished _ holds => holds

end Process

/-- The processes of a launch, the bytes on the completion endpoint that the anchor has not read, the
latched signals of the anchor, how many looks fit before its deadlines, and whether it has restored the
outer terminal. -/
structure LaunchWorld where
  promoted : Bool
  coordinator : Process CoordinatorEnd
  guardian : Process GuardianBootstrap
  written : List UInt8
  latches : CoordinatorSignalLatches
  ticks : Nat
  restored : Bool

namespace LaunchWorld

/-- The anchor has just spawned the coordinator. -/
def start (promoted : Bool) (ticks : Nat) : LaunchWorld where
  promoted
  coordinator := .running (parseAndRunCoordinatorRole promoted).run true
  guardian := .absent
  written := []
  latches := {}
  ticks
  restored := false

/-- The guardian is past its bootstrap. -/
def Armed (w : LaunchWorld) : Prop := ∃ holds, w.guardian = .finished .armed holds

/-- A process still has the writing end of the completion endpoint. -/
def held (w : LaunchWorld) : Bool := w.coordinator.holds || w.guardian.holds

/-- The status of the coordinator, once it has ended. -/
def coordinatorStatus (w : LaunchWorld) : Option ExitStatus :=
  match w.coordinator with
  | .finished (.exits status) _ => some status
  | _ => none

/-- What a call of the coordinator does to the rest of the world. The guardian inherits the endpoint if
the coordinator still has it. -/
def coordinatorCall (w : LaunchWorld) (rest : Program LaunchOp LaunchOp.Reply (Except UInt8 CoordinatorEnd))
    (holds : Bool) : (op : LaunchOp) → op.Reply → LaunchWorld
  | .spawnGuardian, .spawned | .spawnGuardian, .failedWithChild => { w with
      coordinator := .running rest holds
      guardian := .running (parseAndRunGuardianRole w.promoted).run holds }
  | .dropCompletion, _ => { w with coordinator := .running rest false }
  | _, _ => { w with coordinator := .running rest holds }

/-- A process that exits closes the endpoint, and a parked one keeps what it has. -/
def coordinatorEnds (w : LaunchWorld) (holds : Bool) : Except UInt8 CoordinatorEnd → LaunchWorld
  | .error code => { w with coordinator := .finished (.exits (.code code)) false }
  | .ok (.exits status) => { w with coordinator := .finished (.exits status) false }
  | .ok .parks => { w with coordinator := .finished .parks holds }

/-- An armed guardian keeps the endpoint. -/
def guardianEnds (w : LaunchWorld) (holds : Bool) : Except UInt8 GuardianBootstrap → LaunchWorld
  | .error code => { w with guardian := .finished (.exits (.code code)) false }
  | .ok (.exits status) => { w with guardian := .finished (.exits status) false }
  | .ok .armed => { w with guardian := .finished .armed holds }

/-- What happens besides the calls of the anchor. Every setup step may fail, either process may be killed
at any time, and nothing is said about a guardian that is armed. -/
inductive Env : LaunchWorld → LaunchWorld → Prop
  | coordinator {w : LaunchWorld} {op : LaunchOp}
      {next : op.Reply → Program LaunchOp LaunchOp.Reply (Except UInt8 CoordinatorEnd)} {holds : Bool}
      (reply : op.Reply) (running : w.coordinator = .running (.call op next) holds) :
      Env w (w.coordinatorCall (next reply) holds op reply)
  | coordinatorEnds {w : LaunchWorld} {result : Except UInt8 CoordinatorEnd} {holds : Bool}
      (running : w.coordinator = .running (.done result) holds) : Env w (w.coordinatorEnds holds result)
  | coordinatorKilled {w : LaunchWorld} (signal : UInt8) (alive : w.coordinatorStatus = none) :
      Env w { w with coordinator := .finished (.exits (.signal signal)) false }
  | guardian {w : LaunchWorld} {op : LaunchOp}
      {next : op.Reply → Program LaunchOp LaunchOp.Reply (Except UInt8 GuardianBootstrap)} {holds : Bool}
      (reply : op.Reply) (running : w.guardian = .running (.call op next) holds) :
      Env w { w with guardian := .running (next reply) holds }
  | guardianEnds {w : LaunchWorld} {result : Except UInt8 GuardianBootstrap} {holds : Bool}
      (running : w.guardian = .running (.done result) holds) : Env w (w.guardianEnds holds result)
  | guardianKilled {w : LaunchWorld}
      {rest : Program LaunchOp LaunchOp.Reply (Except UInt8 GuardianBootstrap)} {holds : Bool}
      (signal : UInt8) (running : w.guardian = .running rest holds) :
      Env w { w with guardian := .finished (.exits (.signal signal)) false }
  | armed {w : LaunchWorld} (written : List UInt8) (holds : Bool) (armed : w.Armed) :
      Env w { w with written, guardian := .finished .armed holds }
  | signal {w : LaunchWorld} (signal : LatchedSignal) : Env w { w with latches := w.latches.raise signal }

/-- What a call of the anchor may answer. -/
def Answers (w : LaunchWorld) : (op : AnchorOp) → op.Reply → Prop
  | .tryWait, .ok status => status = w.coordinatorStatus
  | .read limit, .bytes piece =>
    if w.written = [] then piece = [] ∧ w.held = false
    else (piece = [] → limit = 0) ∧ piece.length ≤ limit ∧ piece <+: w.written
  | .read _, .wouldBlock => w.written = [] ∧ w.held
  | .nextActive, action => action = w.latches.nextActive.1
  | .nextSuspended, action => action = w.latches.nextSuspended.1
  | .beforeDeadline, before => before → 0 < w.ticks
  | _, _ => True

/-- What a call of the anchor does to the world. A coordinator that is killed closes what it has. -/
def after (w : LaunchWorld) : (op : AnchorOp) → op.Reply → LaunchWorld
  | .read _, .bytes piece => { w with written := w.written.drop piece.length }
  | .nextActive, _ => { w with latches := w.latches.nextActive.2 }
  | .nextSuspended, _ => { w with latches := w.latches.nextSuspended.2 }
  | .freezeForShutdown, _ => { w with latches := { w.latches with frozen := true } }
  | .beforeDeadline, before => { w with ticks := if before then w.ticks - 1 else w.ticks }
  | .signalCoordinator .kill, sent =>
    if sent ∧ w.coordinatorStatus = none then
      { w with coordinator := .finished (.exits (.signal 9)) false }
    else w
  | .restoreSnapshot, restored => { w with restored := w.restored || restored.isSome }
  | _, _ => w

end LaunchWorld

/-- An anchor whose calls answer as they are allowed to. -/
def launchSurroundings (allowed : (w : LaunchWorld) → (op : AnchorOp) → op.Reply → Prop) :
    Surroundings AnchorOp AnchorOp.Reply LaunchWorld where
  Exec w op reply w' := w.Answers op reply ∧ allowed w op reply ∧ w' = w.after op reply
  Env := LaunchWorld.Env

end Calcifer.Supervisor
