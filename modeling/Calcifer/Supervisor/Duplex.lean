import Calcifer.Supervisor.Guardian

/-!
# Both ends of the lifecycle wire

A session joins the receivers of coordinator and guardian by two queues. `Session.attempt` says what
the drive code of either side does next: the coordinator sends a command only where its transcript
awaits one, and the guardian serves, quiesces, restores, disarms and reaps in this order. A move ends
in an error when a validator refuses it.

`Reaches.serves` is the invariant of the time before a shutdown: at most one message is in flight,
and the two transcripts differ by exactly this message.
-/

namespace Calcifer.Supervisor

open TerminalLifecycleValidator

/-! ## The joint system -/

/-- How far the guardian's drive code has come. -/
inductive GuardianStage where
  | bootstrap
  | serving
  | quiescing
  | restoring
  | restored
  | disarmed
  | reaped
deriving DecidableEq, Repr

/-- A session: both receivers and what is written and not yet read, oldest first. It remembers the
proofs that the guardian took and the commands that it acted on, newest first. -/
structure Session where
  coordinator : CoordinatorReceiver
  guardian : GuardianCommandReceiver
  commands : List CoordinatorCommand
  events : List GuardianEvent
  stage : GuardianStage
  proofs : List PendingProof
  acted : List CoordinatorCommand

def Session.start : Session where
  coordinator := .newTerminal
  guardian := .newTerminal
  commands := []
  events := []
  stage := .bootstrap
  proofs := []
  acted := []

/-- The commands that the coordinator's drive code sends in a state of its transcript. Terminal sizes
are read with a check that they are not zero. -/
def coordinatorSends : TerminalLifecycleState → CoordinatorCommand → Bool
  | .awaitStart, .start
  | .awaitTerminalArmAcceptance, .terminalArmAccepted
  | .awaitAppDescriptorVerification, .childDescriptorsVerified .appServer
  | .awaitTuiDescriptorVerification, .childDescriptorsVerified .tui
  | .readyForGate, .openInputGate
  | .active, .signal _
  | .active, .suspend
  | .suspended, .signal _
  | .quiesced, .terminalRestored => true
  | .active, .resize rows cols | .suspended, .resume rows cols => rows ≠ 0 ∧ cols ≠ 0
  | _, _ => false

/-- The events that the guardian's drive code emits in answer to the coordinator, before its shutdown
begins. -/
def guardianAnswers : TerminalLifecycleState → GuardianEvent → Bool
  | .awaitLeaseBeforeStart, .leaseCommitted
  | .awaitTerminalArmed, .terminalArmed _
  | .awaitApp, .childStarted .appServer _ _
  | .awaitTui, .childStarted .tui _ _
  | .awaitReady, .ready
  | .awaitGateOpened, .inputGateOpened
  | .awaitSuspended, .suspended
  | .active, .usageExhausted => true
  | .awaitSignalForwarded expected _, .signalForwarded signal => signal = expected
  | .awaitResizeApplied expectedRows expectedCols, .resizeApplied rows cols
  | .awaitResumed expectedRows expectedCols, .resumed rows cols =>
    rows = expectedRows ∧ cols = expectedCols
  | _, _ => false

/-- The states in which the guardian's drive code reads a command, before its shutdown begins. -/
def guardianReads : TerminalLifecycleState → Bool
  | .awaitStart | .awaitTerminalArmAcceptance | .awaitAppDescriptorVerification
  | .awaitTuiDescriptorVerification | .readyForGate | .active | .suspended => true
  | _ => false

/-- The events after which the guardian shuts the session down. -/
def endsServing : GuardianEvent → Bool
  | .usageExhausted | .signalForwarded .hup | .signalForwarded .term => true
  | _ => false

/-- The commands that the guardian acts on. -/
def actsOn : CoordinatorCommand → Bool
  | .openInputGate | .signal _ | .resize _ _ | .suspend | .resume _ _ | .stop => true
  | _ => false

/-- What either side does next. -/
inductive Move where
  | send (command : CoordinatorCommand)
  | receiveEvent
  | answer (event : GuardianEvent)
  | receiveCommand
  | fail (error : SessionOperationError)
  | failStartup (error : SupervisedStartupError)
  | close
  | quiesce
  | disarm
  | failWorker
  | reap (app tui : ChildDisposition) (worker : WorkerJoinStatus) (session : SessionStatus)
      (guardianExit : GuardianExitDisposition)
deriving DecidableEq, Repr

namespace Session

/-- The coordinator writes a command. -/
def send (s : Session) (command : CoordinatorCommand) : Except ProtocolError Session :=
  match s.coordinator.recordCommand command with
  | (.error error, _) => .error error
  | (.ok _, coordinator) => .ok { s with coordinator, commands := s.commands ++ [command] }

/-- The guardian writes an event. -/
def emit (s : Session) (event : GuardianEvent) (stage : GuardianStage) :
    Except ProtocolError Session :=
  match s.guardian.recordEvent event with
  | (.error error, _) => .error error
  | (.ok _, guardian) => .ok { s with guardian, events := s.events ++ [event], stage }

/-- The guardian announces the failure of a session. A recovery request opens its slot first. -/
def announce (s : Session) (error : SessionOperationError) : Except ProtocolError Session :=
  let (phase, code) := operationFailureEvent error
  if error = .recoveryRequested then
    match s.guardian.armRecoveryCommandRace with
    | (.error error, _) => .error error
    | (.ok _, guardian) => { s with guardian }.emit (.failed phase code) .quiescing
  else s.emit (.failed phase code) .quiescing

/-- The guardian took the proof of a command. -/
def takeProof (s : Session) (proof : PendingProof) : Except ProtocolError Session :=
  match s.guardian.take proof with
  | (.error error, _) => .error error
  | (.ok _, guardian) => .ok { s with guardian, proofs := proof :: s.proofs }

/-- While it serves, the guardian takes the proof of a command that has one and acts on it. -/
def serve (s : Session) (command : CoordinatorCommand) : Except ProtocolError Session := do
  let s ← match s.guardian.pending with
    | some proof => s.takeProof proof
    | none => .ok s
  return { s with
    acted := if actsOn command then command :: s.acted else s.acted
    stage := match command with
      | .terminalArmAccepted => .serving
      | .stop => .quiescing
      | _ => s.stage }

/-- Once it has quiesced, the guardian only waits for the restoration of the terminal. -/
def awaitRestored (s : Session) (command : CoordinatorCommand) : Except ProtocolError Session :=
  if command = .terminalRestored then do
    let s ← s.takeProof .terminalRestored
    return { s with stage := .restored }
  else .ok s

/-- The guardian reads `command`, the oldest one, and is left with `commands`. -/
def read (s : Session) (command : CoordinatorCommand) (commands : List CoordinatorCommand) :
    Except ProtocolError Session :=
  match s.guardian.receive (.ok command) with
  | (.error error, _) => .error error
  | (.ok command, guardian) =>
    let s := { s with guardian, commands }
    if s.stage = .restoring then s.awaitRestored command else s.serve command

/-- Whether the guardian reads commands at all. -/
def reads (s : Session) : Bool :=
  match s.stage with
  | .bootstrap | .serving => guardianReads s.guardian.terminal.state
  | .restoring => true
  | _ => false

/-- The report on the children fits what was started, and a failed session is reported as one. -/
def Reported (s : Session) (app tui : ChildDisposition) (worker : WorkerJoinStatus)
    (session : SessionStatus) (guardianExit : GuardianExitDisposition) : Prop :=
  (app ≠ .notStarted ↔ s.guardian.terminal.appStarted) ∧
  (tui ≠ .notStarted ↔ s.guardian.terminal.tuiStarted) ∧
  (worker = .notStarted → ¬s.guardian.terminal.tuiStarted) ∧
  (s.guardian.terminal.failure.isSome → session = .failed ∧ guardianExit = .internalFailure)

instance (s : Session) (app tui : ChildDisposition) (worker : WorkerJoinStatus)
    (session : SessionStatus) (guardianExit : GuardianExitDisposition) :
    Decidable (s.Reported app tui worker session guardianExit) :=
  inferInstanceAs (Decidable (_ ∧ _ ∧ _ ∧ _))

/-- A move of the drive code, if it makes this move now. -/
def attempt (s : Session) : Move → Option (Except ProtocolError Session)
  | .send command =>
    if coordinatorSends s.coordinator.terminal.state command then some (s.send command) else none
  | .receiveEvent =>
    match s.events with
    | [] => none
    | event :: events =>
      match s.coordinator.receive (.ok event) with
      | (.error error, _) => some (.error error)
      | (.ok _, coordinator) => some (.ok { s with coordinator, events })
  | .answer event =>
    if (s.stage = .bootstrap ∨ s.stage = .serving) ∧
        guardianAnswers s.guardian.terminal.state event then
      some (s.emit event (if endsServing event then .quiescing else s.stage))
    else none
  | .receiveCommand =>
    match s.commands with
    | [] => none
    | command :: commands => if s.reads then some (s.read command commands) else none
  | .fail error => if s.stage = .serving then some (s.announce error) else none
  | .failStartup error =>
    if s.stage = .serving then
      let (phase, code) := startupFailureEvent error
      some (s.emit (.failed phase code) .quiescing)
    else none
  | .close =>
    if s.stage = .serving ∧ s.guardian.terminal.state = .active then
      some (.ok { s with stage := .quiescing })
    else none
  | .quiesce =>
    if s.stage = .quiescing then some (s.emit .terminalQuiesced .restoring) else none
  | .disarm =>
    if s.stage = .restored then some (s.emit .terminalRecoveryDisarmed .disarmed) else none
  | .failWorker =>
    if s.stage = .disarmed ∧ s.guardian.terminal.failure = none then
      some (s.emit (.failed .worker .worker) .disarmed)
    else none
  | .reap app tui worker session guardianExit =>
    if s.stage = .disarmed ∧ s.Reported app tui worker session guardianExit then
      some (s.emit (.childrenReaped app tui worker .complete session guardianExit) .reaped)
    else none

end Session

/-- The sessions that any order of moves leads to, as long as no validator refuses one. -/
inductive Reaches : Session → Session → Prop
  | refl (s : Session) : Reaches s s
  | tail {s s₁ s₂ : Session} (move : Move) (rest : Reaches s s₁)
      (h : s₁.attempt move = some (.ok s₂)) : Reaches s s₂

theorem Reaches.trans {s s₁ s₂ : Session} (h : Reaches s s₁) (h' : Reaches s₁ s₂) :
    Reaches s s₂ := by
  induction h' with
  | refl => exact h
  | tail move _ step ih => exact ih.tail move step

/-- What every move keeps is kept by every run. -/
theorem Reaches.keeps {s s' : Session} (I : Session → Prop)
    (step : ∀ s₁ s₂ move, I s₁ → s₁.attempt move = some (.ok s₂) → I s₂) (h : Reaches s s')
    (init : I s) : I s' := by
  induction h with
  | refl => exact init
  | tail move _ h ih => exact step _ _ move ih h

/-! ## Before the shutdown -/

/-- The states of a transcript before its shutdown. -/
def TerminalLifecycleState.live : TerminalLifecycleState → Bool
  | .awaitQuiesced | .failedAwaitQuiesced | .quiesced | .awaitRecoveryDisarmed | .recoveryDisarmed
  | .terminal => false
  | _ => true

/-- The states after a command, in which the coordinator waits for its answer. -/
structure TerminalLifecycleState.Answered (state : TerminalLifecycleState) : Prop where
  live : state.live
  quiet : ∀ command, coordinatorSends state command = false
  begun : state ≠ .awaitLeaseBeforeStart
  gate : state ≠ .readyForGate

theorem acceptCommand_live {v : TerminalLifecycleValidator} (h : v.state ≠ .quiesced)
    (command : CoordinatorCommand) :
    v.acceptCommand command = (v.applyCommand command).map (.applied, ·) := by
  rw [acceptCommand, acceptRecoverySupersededCommand, if_pos h]
  rfl

theorem validateTerminalSize_ok {rows cols : CellCount} (h : rows ≠ 0 ∧ cols ≠ 0) :
    validateTerminalSize rows cols = .ok () := by
  simp [validateTerminalSize, h]

theorem coordinatorSends_live {v : TerminalLifecycleValidator} {command : CoordinatorCommand}
    (h : coordinatorSends v.state command) (live : v.state.live) :
    guardianReads v.state ∧ ∃ state, v.acceptCommand command = .ok (.applied, { v with state }) ∧
      state.Answered := by
  have notQuiesced : v.state ≠ .quiesced := fun quiesced => by simp [quiesced, TerminalLifecycleState.live] at live
  rw [acceptCommand_live notQuiesced]
  unfold applyCommand
  generalize v.state = state at h live ⊢
  revert h live
  fun_cases coordinatorSends state command <;> intro h live
  case case9 => cases live
  case case12 => cases h
  case case10 | case11 =>
    simp only [validateTerminalSize_ok (of_decide_eq_true h)]
    exact ⟨rfl, _, rfl, ⟨rfl, fun c => by cases c <;> rfl, nofun, nofun⟩⟩
  all_goals exact ⟨rfl, _, rfl, ⟨rfl, fun c => by cases c <;> rfl, nofun, nofun⟩⟩

theorem guardianAnswers_accept {v v' : TerminalLifecycleValidator} {event : GuardianEvent}
    (h : guardianAnswers v.state event) (ends : endsServing event = false)
    (accept : v.acceptEvent event = .ok v') :
    guardianReads v'.state ∧ v'.state.live ∧ ∀ command, coordinatorSends v.state command = false := by
  revert h ends accept
  generalize hs : v.state = state
  fun_cases guardianAnswers state event <;> intro h ends accept
  case case12 => cases h
  all_goals simp only [acceptEvent, applyEvent, hs] at accept
  case case8 => cases ends
  case case3 pid pgid =>
    cases hgroup : validateProcessGroup pid pgid with
    | error e =>
      rw [hgroup] at accept
      cases accept
    | ok =>
      rw [hgroup] at accept
      cases accept
      exact ⟨rfl, rfl, fun c => by cases c <;> rfl⟩
  case case4 pid pgid =>
    cases hgroup : validateProcessGroup pid pgid with
    | error e =>
      rw [hgroup] at accept
      cases accept
    | ok =>
      rw [hgroup] at accept
      by_cases same : v.appProcessGroup = some pgid
      · simp only [same, if_true] at accept
        cases accept
      · simp only [same, if_false] at accept
        cases accept
        exact ⟨rfl, rfl, fun c => by cases c <;> rfl⟩
  case case9 expected wasSuspended signal =>
    obtain rfl : signal = expected := of_decide_eq_true h
    cases signal with
    | hup | term => cases ends
    | int | quit =>
      cases accept
      cases wasSuspended <;> exact ⟨rfl, rfl, fun c => by cases c <;> rfl⟩
  case case10 | case11 =>
    simp only [of_decide_eq_true h, and_self, if_true] at accept
    cases accept
    exact ⟨rfl, rfl, fun c => by cases c <;> rfl⟩
  all_goals
    cases accept
    exact ⟨rfl, rfl, fun c => by cases c <;> rfl⟩

theorem endsServing_of_guardianReads {state : TerminalLifecycleState} {event : GuardianEvent}
    (reads : guardianReads state) (answers : guardianAnswers state event) : endsServing event := by
  revert reads answers
  fun_cases guardianAnswers state event <;> simp [guardianReads, endsServing]

/-- While the guardian serves, at most one message is in flight, and the transcripts of the
coordinator and of the guardian differ by it. -/
inductive InStep : TerminalLifecycleValidator → TerminalLifecycleValidator →
    List CoordinatorCommand → List GuardianEvent → Prop
  | idle (v : TerminalLifecycleValidator) : InStep v v [] []
  | answered {u v : TerminalLifecycleValidator} {event : GuardianEvent}
      (h : guardianAnswers u.state event) (ends : endsServing event = false)
      (accept : u.acceptEvent event = .ok v) : InStep u v [] [event]
  | asked {v : TerminalLifecycleValidator} {command : CoordinatorCommand}
      {state : TerminalLifecycleState} (h : coordinatorSends v.state command)
      (accept : v.acceptCommand command = .ok (.applied, { v with state })) (answer : state.Answered) :
      InStep { v with state } v [command] []

structure Serving (s : Session) : Prop where
  coordinator : s.coordinator.poisoned = false
  guardian : s.guardian.poisoned = false
  live : s.guardian.terminal.state.live
  inStep : InStep s.coordinator.terminal s.guardian.terminal s.commands s.events

theorem ne_terminal_of_live {state : TerminalLifecycleState} (h : state.live) :
    state ≠ .terminal := by
  rintro rfl
  cases h

/-- A receiver that goes on accepts what its validator accepts. -/
theorem CoordinatorReceiver.receive_accept {r : CoordinatorReceiver} {event : GuardianEvent}
    {terminal : TerminalLifecycleValidator} (sound : r.poisoned = false)
    (going : r.terminal.state ≠ .terminal) (accept : r.terminal.acceptEvent event = .ok terminal) :
    ∃ r', r.receive (.ok event) = (.ok event, r') ∧ r'.terminal = terminal ∧ r'.poisoned = false := by
  refine ⟨(r.receive (.ok event)).2, ?_⟩
  simp [receive, closed, terminalReceived, sound, going, accept, expire]

theorem CoordinatorReceiver.recordCommand_accept {r : CoordinatorReceiver}
    {command : CoordinatorCommand} {acceptance : TerminalCommandAcceptance}
    {terminal : TerminalLifecycleValidator} (sound : r.poisoned = false)
    (going : r.terminal.state ≠ .terminal)
    (accept : r.terminal.acceptCommand command = .ok (acceptance, terminal)) :
    r.recordCommand command = (.ok (), { r.expire with terminal }) := by
  simp [recordCommand, closed, terminalReceived, sound, going, accept]

theorem GuardianCommandReceiver.receive_accept {r : GuardianCommandReceiver}
    {command : CoordinatorCommand} {terminal : TerminalLifecycleValidator}
    (sound : r.poisoned = false) (going : r.terminal.state ≠ .terminal)
    (accept : r.terminal.acceptCommand command = .ok (.applied, terminal)) :
    r.receive (.ok command) = (.ok command, { r with terminal, pending := proofOf r.terminal command }) := by
  simp [receive, closed, terminalReceived, sound, going, accept]

theorem GuardianCommandReceiver.recordEvent_accept {r : GuardianCommandReceiver}
    {event : GuardianEvent} {terminal : TerminalLifecycleValidator} (sound : r.poisoned = false)
    (accept : r.terminal.acceptEvent event = .ok terminal) :
    r.recordEvent event = (.ok (), { r with terminal, pending := none }) := by
  simp [recordEvent, sound, accept]

/-- An event that the guardian writes is one that its validator accepts. -/
theorem Session.emit_eq_ok {s s' : Session} {event : GuardianEvent} {stage : GuardianStage}
    (h : s.emit event stage = .ok s') : ∃ terminal, s.guardian.terminal.acceptEvent event = .ok terminal ∧
      s.guardian.poisoned = false ∧
      s' = { s with
        guardian := { s.guardian with terminal, pending := none }
        events := s.events ++ [event]
        stage } := by
  cases sound : s.guardian.poisoned with
  | true => simp [emit, GuardianCommandReceiver.recordEvent, sound] at h
  | false =>
    cases accept : s.guardian.terminal.acceptEvent event with
    | error e => simp [emit, GuardianCommandReceiver.recordEvent, sound, accept] at h
    | ok terminal =>
      rw [emit, GuardianCommandReceiver.recordEvent_accept sound accept] at h
      cases h
      exact ⟨terminal, rfl, rfl, rfl⟩

/-- Before the shutdown the guardian serves. -/
def Session.Serves (s : Session) : Prop := s.stage = .bootstrap ∨ s.stage = .serving → Serving s

theorem Serving.send {s s' : Session} {command : CoordinatorCommand} (serving : Serving s)
    (h : coordinatorSends s.coordinator.terminal.state command)
    (sent : s.send command = .ok s') : Serving s' := by
  obtain ⟨sound, guardianSound, live, inStep⟩ := serving
  generalize hu : s.coordinator.terminal = u at *
  generalize hv : s.guardian.terminal = v at *
  generalize hc : s.commands = commands at *
  generalize he : s.events = events at *
  cases inStep with
  | answered answers ends accept =>
    have quiet := (guardianAnswers_accept answers ends accept).2.2 command
    rw [quiet] at h
    cases h
  | asked _ _ answer =>
    rw [answer.quiet command] at h
    cases h
  | idle =>
    obtain ⟨-, state, accept, answer⟩ := coordinatorSends_live h live
    rw [← hu] at accept live
    rw [Session.send, CoordinatorReceiver.recordCommand_accept sound (ne_terminal_of_live live) accept,
      hc] at sent
    cases sent
    rw [← hu] at h
    exact ⟨sound, guardianSound, hv ▸ hu ▸ live, by simpa [hv, he, hu] using InStep.asked h accept answer⟩

theorem Serving.receiveEvent {s s' : Session} (serving : Serving s)
    (h : s.attempt .receiveEvent = some (.ok s')) : Serving s' := by
  obtain ⟨sound, guardianSound, live, inStep⟩ := serving
  generalize hu : s.coordinator.terminal = u at *
  generalize hv : s.guardian.terminal = v at *
  generalize hc : s.commands = commands at *
  generalize he : s.events = events at *
  cases inStep with
  | idle => simp [Session.attempt, he] at h
  | asked => simp [Session.attempt, he] at h
  | answered answers ends accept =>
    have going : s.coordinator.terminal.state ≠ .terminal := by
      intro terminal
      rw [← hu, terminal] at answers
      simp [guardianAnswers] at answers
    rw [← hu] at accept
    obtain ⟨r, received, terminal, sound'⟩ := CoordinatorReceiver.receive_accept sound going accept
    simp only [Session.attempt, he, received, Option.some.injEq, Except.ok.injEq] at h
    subst h
    exact ⟨sound', guardianSound, hv ▸ live, by simpa [terminal, hv, hc] using InStep.idle v⟩

theorem Serving.answer {s s' : Session} {event : GuardianEvent} {stage : GuardianStage}
    (serving : Serving s) (answers : guardianAnswers s.guardian.terminal.state event)
    (ends : endsServing event = false) (h : s.emit event stage = .ok s') : Serving s' := by
  obtain ⟨sound, guardianSound, live, inStep⟩ := serving
  obtain ⟨terminal, accept, -, rfl⟩ := Session.emit_eq_ok h
  obtain ⟨reads, live', -⟩ := guardianAnswers_accept answers ends accept
  generalize hu : s.coordinator.terminal = u at *
  generalize hv : s.guardian.terminal = v at *
  generalize hc : s.commands = commands at *
  generalize he : s.events = events at *
  cases inStep with
  | answered before ends' accept' =>
    have reads' := (guardianAnswers_accept before ends' accept').1
    rw [endsServing_of_guardianReads reads' answers] at ends
    cases ends
  | asked sends =>
    have reads' := (coordinatorSends_live sends live).1
    rw [endsServing_of_guardianReads reads' answers] at ends
    cases ends
  | idle => exact ⟨sound, guardianSound, live', by simpa [hu, hc, he] using InStep.answered answers ends accept⟩

theorem Session.takeProof_eq_ok {s s' : Session} {proof : PendingProof}
    (h : s.takeProof proof = .ok s') :
    s' = { s with guardian := { s.guardian with pending := none }, proofs := proof :: s.proofs } := by
  rw [takeProof, GuardianCommandReceiver.take] at h
  by_cases refused : s.guardian.poisoned ∨ s.guardian.pending ≠ some proof
  · rw [if_pos refused] at h
    cases h
  · rw [if_neg refused] at h
    cases h
    rfl

/-- What the guardian does with a command that it reads while it serves leaves the wire alone. -/
theorem Session.serve_eq_ok {s s' : Session} {command : CoordinatorCommand}
    (h : s.serve command = .ok s') : s'.coordinator = s.coordinator ∧
      s'.guardian.terminal = s.guardian.terminal ∧ s'.guardian.poisoned = s.guardian.poisoned ∧
      s'.commands = s.commands ∧ s'.events = s.events := by
  rw [serve] at h
  split at h
  · next proof pending =>
    cases taken : s.takeProof proof with
    | error e =>
      rw [taken] at h
      cases h
    | ok s₁ =>
      rw [taken] at h
      obtain rfl := takeProof_eq_ok taken
      cases h
      exact ⟨rfl, rfl, rfl, rfl, rfl⟩
  · cases h
    exact ⟨rfl, rfl, rfl, rfl, rfl⟩

theorem Serving.receiveCommand {s s' : Session} (serving : Serving s) (stage : s.stage ≠ .restoring)
    (h : s.attempt .receiveCommand = some (.ok s')) : Serving s' := by
  obtain ⟨sound, guardianSound, live, inStep⟩ := serving
  generalize hu : s.coordinator.terminal = u at *
  generalize hv : s.guardian.terminal = v at *
  generalize hc : s.commands = commands at *
  generalize he : s.events = events at *
  cases inStep with
  | idle => simp [Session.attempt, hc] at h
  | answered => simp [Session.attempt, hc] at h
  | asked sends accept answer =>
    rename_i command state
    simp only [Session.attempt, hc] at h
    split at h
    · rw [← hv] at accept live
      simp only [Session.read, GuardianCommandReceiver.receive_accept guardianSound
        (ne_terminal_of_live live) accept, if_neg stage, Option.some.injEq] at h
      obtain ⟨hcoordinator, hterminal, hpoisoned, hcommands, hevents⟩ := Session.serve_eq_ok h
      refine ⟨hcoordinator ▸ sound, hpoisoned ▸ guardianSound, hterminal ▸ answer.live, ?_⟩
      rw [hcoordinator, hterminal, hcommands, hevents, hu, ← hv]
      simpa [he] using InStep.idle _
    · cases h

/-- A wait for the restored terminal takes at most its proof. -/
theorem Session.awaitRestored_eq_ok {s s' : Session} {command : CoordinatorCommand}
    (h : s.awaitRestored command = .ok s') :
    (command = .terminalRestored ∧ s' = { s with
      guardian := { s.guardian with pending := none }
      proofs := .terminalRestored :: s.proofs
      stage := .restored }) ∨ (command ≠ .terminalRestored ∧ s' = s) := by
  rw [awaitRestored] at h
  split at h
  · next restored =>
    cases taken : s.takeProof .terminalRestored with
    | error e =>
      rw [taken] at h
      cases h
    | ok s₁ =>
      rw [taken] at h
      obtain rfl := takeProof_eq_ok taken
      cases h
      exact .inl ⟨restored, rfl⟩
  · next stale =>
    cases h
    exact .inr ⟨stale, rfl⟩

/-- The guardian never serves again. -/
theorem Session.attempt_stage {s s' : Session} {move : Move} (h : s.attempt move = some (.ok s'))
    (stage : s'.stage = .bootstrap ∨ s'.stage = .serving) :
    s.stage = .bootstrap ∨ s.stage = .serving := by
  cases move with
  | send command =>
    simp only [attempt, send] at h
    split at h
    · simp only [Option.some.injEq] at h
      split at h <;> cases h
      exact stage
    · cases h
  | receiveEvent =>
    simp only [attempt] at h
    split at h
    · cases h
    · split at h <;> cases h
      exact stage
  | answer event =>
    simp only [attempt] at h
    split at h
    · next guard => exact guard.1
    · cases h
  | receiveCommand =>
    simp only [attempt] at h
    split at h
    · cases h
    · next command commands _ =>
      split at h
      · next reads =>
        cases hs : s.stage with
        | bootstrap => exact .inl rfl
        | serving => exact .inr rfl
        | quiescing | restored | disarmed | reaped => simp [Session.reads, hs] at reads
        | restoring =>
          simp only [read, Option.some.injEq] at h
          split at h
          · cases h
          · rw [if_pos hs] at h
            obtain ⟨-, rfl⟩ | ⟨-, rfl⟩ := awaitRestored_eq_ok h <;> simp [hs] at stage
      · cases h
  | fail error =>
    simp only [attempt] at h
    split at h
    · next serving => exact .inr serving
    · cases h
  | failStartup error =>
    simp only [attempt] at h
    split at h
    · next serving => exact .inr serving
    · cases h
  | close =>
    simp only [attempt] at h
    split at h
    · next guard => exact .inr guard.1
    · cases h
  | quiesce | disarm | failWorker | reap =>
    simp only [attempt] at h
    split at h
    · obtain ⟨_, -, -, rfl⟩ := emit_eq_ok (Option.some.inj h)
      simp at stage
    · cases h

theorem Session.Serves.step {s s' : Session} {move : Move} (serves : s.Serves)
    (h : s.attempt move = some (.ok s')) : s'.Serves := by
  intro stage
  have before := attempt_stage h stage
  have serving := serves before
  cases move with
  | send command =>
    simp only [attempt] at h
    split at h
    · next sends => exact serving.send sends (Option.some.inj h)
    · cases h
  | receiveEvent => exact serving.receiveEvent h
  | answer event =>
    simp only [attempt] at h
    split at h
    · next guard =>
      have emitted := Option.some.inj h
      obtain ⟨terminal, -, -, same⟩ := emit_eq_ok emitted
      cases ends : endsServing event with
      | true => simp [same, ends] at stage
      | false => exact serving.answer guard.2 ends emitted
    · cases h
  | receiveCommand => exact serving.receiveCommand (by rcases before with h | h <;> simp [h]) h
  | fail error =>
    simp only [attempt, announce] at h
    split at h
    · split at h
      · simp only [Option.some.injEq] at h
        split at h
        · cases h
        · obtain ⟨_, -, -, rfl⟩ := emit_eq_ok h
          simp at stage
      · obtain ⟨_, -, -, rfl⟩ := emit_eq_ok (Option.some.inj h)
        simp at stage
    · cases h
  | close =>
    simp only [attempt] at h
    split at h <;> cases h
    simp at stage
  | failStartup | quiesce | disarm | failWorker | reap =>
    simp only [attempt] at h
    split at h
    · obtain ⟨_, -, -, rfl⟩ := emit_eq_ok (Option.some.inj h)
      simp at stage
    · cases h

theorem Serving.start : Serving .start :=
  ⟨rfl, rfl, rfl, .idle _⟩

/-- Before its shutdown, a session is in step. -/
theorem Reaches.serves {s : Session} (h : Reaches .start s) : s.Serves :=
  h.keeps Session.Serves (fun _ _ _ serves step => serves.step step) fun _ => .start

end Calcifer.Supervisor
