import Calcifer.Library.Text
import Calcifer.Library.Machine
import Calcifer.Library.Locks

/-!
# The split process lease

A launch is made by two processes. The supervisor holds the coordinator lock of the profile, the
guardian the provider lock, and the guardian spawns the provider once the supervisor has written `GO`
on the control stream. Each may fail, or be killed, between any two of its steps; the provider then
runs on, and the survivor has to keep its lock for as long.

`System` has any number of launches of one profile and of other users of both locks
(`Registry::lock_profile`), and takes one move of one process after the other. A lock is free when no
process holds it: a process holds its lock until it drops it or ends.
-/

namespace Calcifer.SplitLease

/-! ## The control stream -/

/-- The identifier that the system gives a spawned process. -/
structure Pid where
  raw : ℕ
  positive : 0 < raw
  bounded : raw < 2 ^ 31
deriving DecidableEq, Repr

def readyLine : String := "READY"
def goLine : String := "GO"
def abortLine : String := "ABORT"
def doneLine : String := "DONE"
def startLine (pid : Pid) : String := "START " ++ toString pid.raw

/-- What `read_control_line` gives. -/
inductive ControlLine where
  | line (text : String)
  | eof
  | failed
deriving DecidableEq, Repr

/-- A read of the lines that the peer has written. It blocks while there are none and the peer keeps
its end open. -/
def readControlLine (lines : List String) (closed fails : Bool) : Option (ControlLine × List String) :=
  if fails then some (.failed, lines)
  else match lines with
    | text :: lines => some (.line text, lines)
    | [] => if closed then some (.eof, []) else none

/-- A write of one line. -/
def writeLine (lines : List String) (text : String) (delivered : Bool) : List String :=
  if delivered then lines ++ [text] else lines

/-- The text of a `u32`, with an optional sign. -/
def parseU32 (text : String) : Option ℕ :=
  let digits := match text.toList with
    | '+' :: digits => digits
    | digits => digits
  if digits = [] ∨ ¬digits.all Char.isDigit then none
  else
    let value := Nat.ofDigitChars 10 digits 0
    if value < 2 ^ 32 then some value else none

/-! ## The supervisor -/

/-- How a process comes to its end: it returns, it ends by an error of its own, or it is killed. -/
inductive Ending where
  | returned
  | failed
  | killed
deriving DecidableEq, Repr

/-- Where `supervise_codex` is. -/
inductive SupervisorPhase where
  | starting
  | leased
  | accepting
  | connected
  | greeted
  | authorizing
  | monitoring (providerPid : Option ℕ)
  | exiting (pid : ℕ)
  | reaping
  | held (reason : String)
  | ended (how : Ending)
deriving DecidableEq, Repr

namespace SupervisorPhase

/-- The coordinator lock is dropped when the supervisor ends. -/
def leases : SupervisorPhase → Bool
  | starting | ended _ => false
  | leased | accepting | connected | greeted | authorizing | monitoring _ | exiting _ | reaping
  | held _ => true

def closed : SupervisorPhase → Bool
  | ended _ => true
  | _ => false

end SupervisorPhase

/-- What `monitor_provider_guardian` makes of a line. -/
inductive Monitored where
  | reap
  | track (pid : ℕ)
  | hold (reason : String)
deriving DecidableEq, Repr

def monitorLine (providerPid : Option ℕ) (line : String) : Monitored :=
  if line = abortLine ∧ providerPid = none then .reap
  else if line = doneLine ∧ providerPid ≠ none then .reap
  else match providerPid with
    | none => match (Text.stripPrefix "START " line).bind parseU32 with
      | some pid => .track pid
      | none => .hold "invalid guardian control message"
    | some _ => .hold "invalid guardian control message"

/-- Where the monitor goes after a read. -/
def monitorRead (providerPid : Option ℕ) : ControlLine → SupervisorPhase
  | .line text => match monitorLine providerPid text with
    | .reap => .reaping
    | .track pid => .monitoring (some pid)
    | .hold reason => .held reason
  | .eof | .failed => match providerPid with
    | some pid => .exiting pid
    | none => .held "control channel closed before START"

/-- The answer of `test_kill_process`. -/
inductive Liveness where
  | noSuchProcess
  | present
  | failed
deriving DecidableEq, Repr

/-- One turn of `wait_for_process_exit`. -/
def probeExit (pid : ℕ) (liveness : Liveness) : SupervisorPhase :=
  if 2 ^ 31 ≤ pid then .held "provider PID is out of range"
  else if pid = 0 then .held "provider PID is invalid"
  else match liveness with
    | .noSuchProcess => .reaping
    | .present => .exiting pid
    | .failed => .held "provider liveness check failed"

/-! ## The guardian -/

/-- What the guardian does between `GO` and the spawn, in its order. -/
inductive FinalCheck where
  | readTimeout
  | termination
  | preflightBarrier
  | repositoryConfig
  | neutralDirectory
  | capture
  | spawnAuthority
  | spawn
deriving DecidableEq, Repr

namespace FinalCheck

def next : FinalCheck → Option FinalCheck
  | readTimeout => some termination
  | termination => some preflightBarrier
  | preflightBarrier => some repositoryConfig
  | repositoryConfig => some neutralDirectory
  | neutralDirectory => some capture
  | capture => some spawnAuthority
  | spawnAuthority => some spawn
  | spawn => none

/-- Whether a failure is announced by `send_guardian_abort`. Two of them return at once. -/
def announced : FinalCheck → Bool
  | readTimeout | neutralDirectory => false
  | termination | preflightBarrier | repositoryConfig | capture | spawnAuthority | spawn => true

end FinalCheck

/-- How `guard_codex` ends. -/
inductive GuardianEnd where
  | refused
  | aborted (check : FinalCheck) (delivered : Bool)
  | silent (check : FinalCheck)
  | finished
  | waitFailed
  | killed
deriving DecidableEq, Repr

/-- Where `guard_codex` is. -/
inductive GuardianPhase where
  | absent
  | starting
  | leased
  | connected
  | awaitingGo
  | checking (check : FinalCheck)
  | spawned (pid : Pid)
  | waiting (pid : Pid)
  | completing
  | ended (how : GuardianEnd)
deriving DecidableEq, Repr

namespace GuardianPhase

/-- The provider lock is dropped when the guardian ends. -/
def leases : GuardianPhase → Bool
  | absent | starting | ended _ => false
  | leased | connected | awaitingGo | checking _ | spawned _ | waiting _ | completing => true

def closed : GuardianPhase → Bool
  | ended _ => true
  | _ => false

/-- The guardian runs. -/
def lives : GuardianPhase → Bool
  | absent | ended _ => false
  | _ => true

end GuardianPhase

inductive ProviderState where
  | unspawned
  | running (pid : Pid)
  | exited (pid : Pid)
deriving DecidableEq, Repr

/-! ## A launch -/

structure Launch where
  supervisor : SupervisorPhase
  guardian : GuardianPhase
  provider : ProviderState
  connected : Bool
  toGuardian : List String
  toSupervisor : List String
deriving DecidableEq, Repr

/-- A launch that has not taken its first lock. -/
def Launch.new : Launch where
  supervisor := .starting
  guardian := .absent
  provider := .unspawned
  connected := false
  toGuardian := []
  toSupervisor := []

/-- The moves of a supervisor. `fail` is a question mark of the part that it is in. -/
inductive SupervisorMove where
  | lockCoordinator
  | spawnGuardian
  | accept
  | guardianExited
  | giveUp
  | readReady (fails : Bool)
  | writeGo (written : Bool)
  | awaitStart (succeeds : Bool)
  | readLine (fails : Bool)
  | probe (liveness : Liveness)
  | wait (succeeds : Bool)
  | fail
  | kill
deriving DecidableEq, Repr

/-- The moves of a guardian. -/
inductive GuardianMove where
  | lockProvider
  | connect
  | writeReady (written : Bool)
  | readGo (fails : Bool)
  | check (passes delivered : Bool)
  | spawn (pid : Pid)
  | writeStart (delivered terminated : Bool)
  | wait (succeeds : Bool)
  | writeDone (delivered : Bool)
  | fail
  | kill
deriving DecidableEq, Repr

namespace Launch

/-- `terminate_before_provider_start` kills the guardian and waits for it. -/
def terminateGuardian (l : Launch) : Launch :=
  { l with
    supervisor := .ended .failed
    guardian := if l.guardian.lives then .ended .killed else l.guardian }

/-- A provider that runs is gone. -/
def providerExits (l : Launch) : Launch :=
  match l.provider with
  | .running pid => { l with provider := .exited pid }
  | .unspawned | .exited _ => l

/-- `supervise_codex`. A move that is not the next one of its phase is not taken. -/
def supervise (l : Launch) (lockFree : Bool) (move : SupervisorMove) : Option Launch :=
  match move, l.supervisor with
  | .lockCoordinator, .starting =>
    some { l with supervisor := if lockFree then .leased else .ended .failed }
  | .spawnGuardian, .leased => some { l with supervisor := .accepting, guardian := .starting }
  | .accept, .accepting => if l.connected then some { l with supervisor := .connected } else none
  | .guardianExited, .accepting =>
    if l.guardian.closed then some { l with supervisor := .ended .returned } else none
  | .giveUp, .accepting => some l.terminateGuardian
  | .readReady fails, .connected =>
    match readControlLine l.toSupervisor l.guardian.closed fails with
    | none => none
    | some (.failed, _) => some { l with supervisor := .ended .failed }
    | some (.line text, lines) =>
      if text = readyLine then some { l with supervisor := .greeted, toSupervisor := lines }
      else some { l with toSupervisor := lines }.terminateGuardian
    | some (.eof, lines) => some { l with toSupervisor := lines }.terminateGuardian
  | .writeGo written, .greeted =>
    some { l with
      supervisor := if written then .authorizing else .ended .failed
      toGuardian := writeLine l.toGuardian goLine written }
  | .awaitStart succeeds, .authorizing =>
    some { l with supervisor := if succeeds then .monitoring none else .ended .failed }
  | .readLine fails, .monitoring providerPid =>
    match readControlLine l.toSupervisor l.guardian.closed fails with
    | none => none
    | some (read, lines) =>
      some { l with supervisor := monitorRead providerPid read, toSupervisor := lines }
  | .probe liveness, .exiting pid =>
    -- The system knows a process that runs.
    match l.provider, liveness with
    | .running running, .noSuchProcess =>
      if running.raw = pid then none else some { l with supervisor := probeExit pid liveness }
    | _, _ => some { l with supervisor := probeExit pid liveness }
  | .wait succeeds, .reaping =>
    if succeeds then
      if l.guardian.closed then some { l with supervisor := .ended .returned } else none
    else some { l with supervisor := .ended .failed }
  | .fail, .starting | .fail, .leased | .fail, .accepting | .fail, .connected =>
    some { l with supervisor := .ended .failed }
  | .kill, .ended _ => none
  | .kill, _ => some { l with supervisor := .ended .killed }
  | _, _ => none

/-- `guard_codex`. -/
def guard (l : Launch) (lockFree : Bool) (move : GuardianMove) : Option Launch :=
  match move, l.guardian with
  | .lockProvider, .starting =>
    some { l with guardian := if lockFree then .leased else .ended .refused }
  | .connect, .leased =>
    if l.supervisor.closed then some { l with guardian := .ended .refused }
    else some { l with guardian := .connected, connected := true }
  | .writeReady written, .connected =>
    some { l with
      guardian := if written then .awaitingGo else .ended .refused
      toSupervisor := writeLine l.toSupervisor readyLine written }
  | .readGo fails, .awaitingGo =>
    match readControlLine l.toGuardian l.supervisor.closed fails with
    | none => none
    | some (.line text, lines) =>
      some { l with
        guardian := if text = goLine then .checking .readTimeout else .ended .refused
        toGuardian := lines }
    | some (.eof, lines) | some (.failed, lines) =>
      some { l with guardian := .ended .refused, toGuardian := lines }
  | .check passes delivered, .checking check =>
    if passes then check.next.map fun check => { l with guardian := .checking check }
    else if check.announced then
      some { l with
        guardian := .ended (.aborted check delivered)
        toSupervisor := writeLine l.toSupervisor abortLine delivered }
    else some { l with guardian := .ended (.silent check) }
  | .spawn pid, .checking .spawn => some { l with guardian := .spawned pid, provider := .running pid }
  | .writeStart delivered terminated, .spawned pid =>
    let started := { l with
      guardian := .waiting pid
      toSupervisor := writeLine l.toSupervisor (startLine pid) delivered }
    some (if terminated then started.providerExits else started)
  | .wait succeeds, .waiting _ =>
    if succeeds then
      match l.provider with
      | .exited _ => some { l with guardian := .completing }
      | .unspawned | .running _ => none
    else some { l with guardian := .ended .waitFailed }
  | .writeDone delivered, .completing =>
    some { l with
      guardian := .ended .finished
      toSupervisor := writeLine l.toSupervisor doneLine delivered }
  | .fail, .starting | .fail, .leased | .fail, .connected | .fail, .awaitingGo =>
    some { l with guardian := .ended .refused }
  | .kill, .absent | .kill, .ended _ => none
  | .kill, _ => some { l with guardian := .ended .killed }
  | _, _ => none

end Launch

/-! ## Other users of the locks -/

/-- Where a user of `Registry::lock_profile` is. It takes the coordinator lock first and drops the
provider lock first. -/
inductive UserPhase where
  | idle
  | halfway
  | leased
  | dropping
deriving DecidableEq, Repr

namespace UserPhase

def leasesCoordinator : UserPhase → Bool
  | idle => false
  | halfway | leased | dropping => true

def leasesProvider : UserPhase → Bool
  | leased => true
  | idle | halfway | dropping => false

end UserPhase

inductive UserMove where
  | lockCoordinator
  | lockProvider
  | dropProvider
  | dropCoordinator
  | kill
deriving DecidableEq, Repr

def UserPhase.use (u : UserPhase) (coordinatorFree providerFree : Bool) : UserMove → Option UserPhase
  | .lockCoordinator => match u with
    | idle => some (if coordinatorFree then halfway else idle)
    | halfway | leased | dropping => none
  | .lockProvider => match u with
    | halfway => some (if providerFree then leased else idle)
    | idle | leased | dropping => none
  | .dropProvider => match u with
    | leased => some dropping
    | idle | halfway | dropping => none
  | .dropCoordinator => match u with
    | dropping => some idle
    | idle | halfway | leased => none
  | .kill => some idle

/-! ## The system -/

inductive Holder where
  | launch (id : ℕ)
  | user (id : ℕ)
deriving DecidableEq, Repr

/-- The locks of a profile and the processes that use them. -/
structure System where
  coordinator : Option Holder
  provider : Option Holder
  launch : ℕ → Launch
  user : ℕ → UserPhase

inductive Move where
  | supervisor (id : ℕ) (move : SupervisorMove)
  | guardian (id : ℕ) (move : GuardianMove)
  | providerExits (id : ℕ)
  | user (id : ℕ) (move : UserMove)
deriving DecidableEq, Repr

namespace System

def new : System where
  coordinator := none
  provider := none
  launch _ := .new
  user _ := .idle

def setLaunch (s : System) (id : ℕ) (l : Launch) : System where
  coordinator := Locks.settle (.launch id) l.supervisor.leases s.coordinator
  provider := Locks.settle (.launch id) l.guardian.leases s.provider
  launch := Function.update s.launch id l
  user := s.user

def setUser (s : System) (id : ℕ) (u : UserPhase) : System where
  coordinator := Locks.settle (.user id) u.leasesCoordinator s.coordinator
  provider := Locks.settle (.user id) u.leasesProvider s.provider
  launch := s.launch
  user := Function.update s.user id u

def move (s : System) : Move → Option System
  | .supervisor id move => ((s.launch id).supervise s.coordinator.isNone move).map (s.setLaunch id)
  | .guardian id move => ((s.launch id).guard s.provider.isNone move).map (s.setLaunch id)
  | .providerExits id => some (s.setLaunch id (s.launch id).providerExits)
  | .user id move =>
    ((s.user id).use s.coordinator.isNone s.provider.isNone move).map (s.setUser id)

/-- One move, and whether it was taken. -/
def step (s : System) (m : Move) : Bool × System :=
  match s.move m with
  | some s' => (true, s')
  | none => (false, s)

end System

end Calcifer.SplitLease
