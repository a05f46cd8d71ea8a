import Calcifer.Supervisor.Coordinator

/-!
# The coordinator and its guardian

The coordinator is driven against a guardian that moves as in `Session.attempt`, under any local
signals. Every call of the coordinator succeeds, and its validator accepts what it reads.

Two things that a guardian may do are told apart, because the drive gives up on them: it may report
that the usage is exhausted, and it may end with another status than the one it reported. Without the
first, its events follow one course, `Course`, which the coordinator can rely on.
-/

namespace Calcifer.Supervisor

/-! ## The surroundings of the coordinator -/

/-- A session, the rest of what the coordinator sees, and the disposition that its validator minted. -/
structure CoordinatorWorld where
  session : Session
  latches : CoordinatorSignalLatches
  snapshot : TerminalSnapshotFingerprint
  status : Option ExitStatus
  minted : Option GuardianExitDisposition

/-- What is up to the surroundings of a call. -/
structure Choice where
  size : TerminalSize
  scan : DescriptorIsolationRetryOutcome

namespace CoordinatorWorld

def start (snapshot : TerminalSnapshotFingerprint) : CoordinatorWorld where
  session := .start
  latches := {}
  snapshot
  status := none
  minted := none

/-- Change what the coordinator keeps of the transcript. -/
def record (w : CoordinatorWorld) (coordinator : CoordinatorReceiver) : CoordinatorWorld :=
  { w with session := { w.session with coordinator } }

/-- The answer to a call, if it comes now. -/
def answer (w : CoordinatorWorld) (choice : Choice) :
    (op : CoordinatorOp) → Option (op.Reply × CoordinatorWorld)
  | .pumpOutput => some (.ok (), w)
  | .pumpInput => some (.ok (), w)
  | .drainOutput => some (.ok (), w)
  | .terminalStep _ => some (.ok (), w)
  | .snapshotFingerprint => some (w.snapshot, w)
  | .currentSize => some (.ok choice.size, w)
  | .scan _ =>
    if choice.scan = .lifecycleReadable ∧ w.session.events = [] then none
    else some (.ok choice.scan, w)
  | .readable => some (.ok !w.session.events.isEmpty, w)
  | .awaitReadable =>
    if w.session.events ≠ [] then some (.ok (), w)
    else if w.status.isSome then some (.error .guardian, w)
    else none
  | .guardianLive => some (if w.status.isSome then .error .guardian else .ok (), w)
  | .receive =>
    match w.session.events with
    | [] => none
    | event :: events =>
      -- Only an event that the validator accepts is received.
      match w.session.coordinator.receive (.ok event) with
      | (.error _, _) => none
      | (.ok event, coordinator) =>
        some (.ok event, { w with session := { w.session with coordinator, events } })
  | .command command =>
    match w.session.coordinator.recordCommand command with
    | (.error error, coordinator) => some (.error error, w.record coordinator)
    | (.ok _, coordinator) => some (.ok (), { w with
        session := { w.session with coordinator, commands := w.session.commands ++ [command] } })
  | .takeVerifiedReady =>
    let (reply, coordinator) := w.session.coordinator.takeVerifiedReady
    some (reply, w.record coordinator)
  | .takeVerifiedOpenGateAck =>
    let (reply, coordinator) := w.session.coordinator.takeVerifiedOpenGateAck
    some (reply, w.record coordinator)
  | .takeVerifiedExitDisposition =>
    match w.session.coordinator.takeVerifiedExitDisposition with
    | (.error error, coordinator) => some (.error error, w.record coordinator)
    | (.ok disposition, coordinator) =>
      some (.ok disposition, { w.record coordinator with minted := some disposition })
  | .nextActive =>
    let (action, latches) := w.latches.nextActive
    some (action, { w with latches })
  | .nextSuspended =>
    let (action, latches) := w.latches.nextSuspended
    some (action, { w with latches })
  | .stopAfterSuspendedAck =>
    -- The process stops until a continuation, which leaves its bit behind.
    some (.ok (), { w with latches := { w.latches with cont := true } })
  | .prepareResumeSizeSnapshot => some ((), { w with latches := { w.latches with winch := false } })
  | .freezeForShutdown => some ((), { w with latches := { w.latches with frozen := true } })
  | .waitGuardian => w.status.map fun status => (.ok status, w)
  | .verifyTerminalEof =>
    if w.session.coordinator.poisoned ∨ ¬w.session.coordinator.terminalReceived then
      some (.error .unexpectedState, w)
    else if w.session.events ≠ [] then some (.error .trailingData, w)
    else if w.status.isSome then some (.ok (), w)
    else none

end CoordinatorWorld

/-- What the guardian may do that its coordinator does not expect. -/
structure Conduct where
  exhausts : Bool
  misreports : Bool
deriving DecidableEq, Repr

/-- The moves of the guardian. -/
def Move.ofGuardian : Move → Bool
  | .send _ | .receiveEvent => false
  | _ => true

/-- The disposition that the guardian ends with, which is the one that its receiver verified if its
completion could be published. -/
def Session.exitDisposition (s : Session) (published : Bool) : GuardianExitDisposition :=
  match s.guardian.takeVerifiedExitDisposition with
  | (.ok disposition, _) => if published then disposition else .internalFailure
  | (.error _, _) => .internalFailure

/-- The disposition that the guardian reported. -/
def Session.reported (s : Session) : GuardianExitDisposition :=
  s.guardian.terminal.terminalExitDisposition.getD .internalFailure

/-- What happens besides the calls of the coordinator. -/
inductive CoordinatorWorld.Env (conduct : Conduct) : CoordinatorWorld → CoordinatorWorld → Prop
  | guardian {w : CoordinatorWorld} {session : Session} (move : Move) (side : move.ofGuardian)
      (expected : move = .answer .usageExhausted → conduct.exhausts)
      (h : w.session.attempt move = some (.ok session)) : Env conduct w { w with session }
  | exit {w : CoordinatorWorld} {status : ExitStatus} (published raised : Bool)
      (reaped : w.session.stage = .reaped) (running : w.status = none)
      (h : status = applyTerminalDisposition raised (w.session.exitDisposition published))
      (expected : guardianStatusMatches status w.session.reported ∨ conduct.misreports) :
      Env conduct w { w with status := some status }
  | signal {w : CoordinatorWorld} (signal : LatchedSignal) :
      Env conduct w { w with latches := w.latches.raise signal }

/-- The surroundings of a coordinator whose calls succeed. -/
def coordinatorSurroundings (conduct : Conduct) :
    Program.Surroundings CoordinatorOp CoordinatorOp.Reply CoordinatorWorld where
  Exec w op r w' := ∃ choice, w.answer choice op = some (r, w')
  Env := CoordinatorWorld.Env conduct

/-! ## The course of a session

Whatever the guardian does, its events follow one course: it serves, quiesces, disarms and reports the
reaped children, and it announces no failure between quiescing and disarming. -/

inductive Course where
  | serving
  | restoring
  | disarmed
  | reaped (guardianExit : GuardianExitDisposition)
deriving DecidableEq, Repr

/-- The course after an event, if the event can come there. Without a report of exhausted usage. -/
def Course.next : Course → GuardianEvent → Option Course
  | .serving, .terminalQuiesced => some .restoring
  | .serving, .usageExhausted | .serving, .terminalRecoveryDisarmed
  | .serving, .childrenReaped _ _ _ _ _ _ => none
  | .serving, _ => some .serving
  | .restoring, .terminalRecoveryDisarmed => some .disarmed
  | .disarmed, .failed .worker .worker => some .disarmed
  | .disarmed, .childrenReaped _ _ _ _ _ guardianExit => some (.reaped guardianExit)
  | _, _ => none

/-- How far the guardian has come. -/
def Session.course (s : Session) : Course :=
  match s.stage with
  | .bootstrap | .serving | .quiescing => .serving
  | .restoring | .restored => .restoring
  | .disarmed => .disarmed
  | .reaped => .reaped s.reported

/-- The stages in which the guardian has not seen the terminal restored. -/
def GuardianStage.unrestored : GuardianStage → Bool
  | .bootstrap | .serving | .quiescing | .restoring => true
  | .restored | .disarmed | .reaped => false

/-- A move of the guardian: it reads a command, or it emits an event on its course. -/
structure Session.Advances (s s' : Session) : Prop where
  coordinator : s'.coordinator = s.coordinator
  commands : s'.commands ⊆ s.commands
  course : (s'.events = s.events ∧ s'.course = s.course) ∨
    ∃ event, s'.events = s.events ++ [event] ∧ s.course.next event = some s'.course
  unrestored : s.stage.unrestored → .terminalRestored ∉ s.commands → s'.stage.unrestored

open TerminalLifecycleValidator

theorem validateTerminal_eq_ok {v : TerminalLifecycleValidator} {app tui : ChildDisposition}
    {worker : WorkerJoinStatus} {session : SessionStatus}
    {guardianExit disposition : GuardianExitDisposition}
    (h : v.validateTerminal app tui worker session guardianExit = .ok disposition) :
    disposition = guardianExit := by
  unfold validateTerminal at h
  grind

/-- An accepted report mints the disposition that it reports. -/
theorem acceptEvent_reaped {v v' : TerminalLifecycleValidator} {app tui : ChildDisposition}
    {worker : WorkerJoinStatus} {cleanup : CleanupStatus} {session : SessionStatus}
    {guardianExit : GuardianExitDisposition}
    (h : v.acceptEvent (.childrenReaped app tui worker cleanup session guardianExit) = .ok v') :
    v.state = .recoveryDisarmed ∧
      v' = { v with terminalExitDisposition := some guardianExit, state := .terminal } := by
  cases cleanup
  unfold acceptEvent applyEvent at h
  cases hs : v.state <;> simp only [hs] at h <;> try cases h
  cases hv : v.validateTerminal app tui worker session guardianExit with
  | error e =>
    rw [hv] at h
    cases h
  | ok disposition =>
    rw [hv] at h
    cases h
    exact ⟨rfl, by rw [validateTerminal_eq_ok hv]⟩

/-- An event that keeps the guardian on its course. -/
theorem Session.emit_advances {s s' : Session} {event : GuardianEvent} {stage : GuardianStage}
    (h : s.emit event stage = .ok s') (course : s.course.next event = some s'.course)
    (unrestored : s.stage.unrestored → stage.unrestored) : s.Advances s' := by
  obtain ⟨terminal, accept, -, rfl⟩ := emit_eq_ok h
  exact ⟨rfl, List.Subset.refl _, .inr ⟨event, rfl, course⟩, fun before _ => unrestored before⟩

theorem Session.course_serving {s : Session} (h : s.stage = .bootstrap ∨ s.stage = .serving) :
    s.course = .serving := by
  rcases h with h | h <;> simp [course, h]

/-- The stage of a session after an event is the one it was emitted for. -/
theorem Session.emit_stage {s s' : Session} {event : GuardianEvent} {stage : GuardianStage}
    (h : s.emit event stage = .ok s') : s'.stage = stage := by
  obtain ⟨_, -, -, rfl⟩ := emit_eq_ok h
  rfl

/-- What ends the serving of a session, or comes before, is on its course. -/
theorem Session.emit_serving {s s' : Session} {event : GuardianEvent} {stage : GuardianStage}
    (h : s.emit event stage = .ok s') (before : s.stage = .bootstrap ∨ s.stage = .serving)
    (after : stage = .quiescing ∨ stage = s.stage) (on : Course.serving.next event = some .serving) :
    s.Advances s' := by
  have after' : stage = .bootstrap ∨ stage = .serving ∨ stage = .quiescing := by
    rcases after with rfl | rfl
    · exact .inr (.inr rfl)
    · exact before.imp_right .inl
  refine emit_advances h ?_ fun _ => by rcases after' with h | h | h <;> simp [h, GuardianStage.unrestored]
  rw [course_serving before, on]
  rcases after' with after' | after' | after' <;> simp [course, emit_stage h, after']

theorem GuardianCommandReceiver.receive_eq_ok {r r' : GuardianCommandReceiver}
    {command command' : CoordinatorCommand} (h : r.receive (.ok command) = (.ok command', r')) :
    command' = command := by
  unfold receive at h
  grind

/-- A served command moves the guardian at most from its startup to serving or on to its shutdown. -/
theorem Session.serve_stage {s s' : Session} {command : CoordinatorCommand}
    (h : s.serve command = .ok s') :
    s'.stage = s.stage ∨ s'.stage = .serving ∨ s'.stage = .quiescing := by
  rw [serve] at h
  split at h
  · next proof pending =>
    cases taken : s.takeProof proof with
    | error e =>
      rw [taken] at h
      cases h
    | ok s₁ =>
      rw [taken] at h
      obtain rfl := takeProof_eq_ok taken
      cases h
      cases command <;> simp
  · cases h
    cases command <;> simp

/-- Reading a command keeps the guardian where it is on its course. -/
theorem Session.advances_receiveCommand {s s' : Session}
    (h : s.attempt .receiveCommand = some (.ok s')) : s.Advances s' := by
  simp only [Session.attempt] at h
  split at h
  · cases h
  · next command commands hcommands =>
    split at h
    · next reads =>
      simp only [read, Option.some.injEq] at h
      have fewer : commands ⊆ s.commands := hcommands ▸ List.subset_cons_self command commands
      split at h
      · cases h
      · next guardian received =>
        split at h
        · next restoring =>
          have stage : s.stage = .restoring := restoring
          obtain ⟨restored, rfl⟩ | ⟨-, rfl⟩ := awaitRestored_eq_ok h
          · refine ⟨rfl, fewer, .inl ⟨rfl, by simp [course, stage]⟩, fun _ unsent => ?_⟩
            obtain rfl := (GuardianCommandReceiver.receive_eq_ok received).symm.trans restored
            simp [hcommands] at unsent
          · exact ⟨rfl, fewer, .inl ⟨rfl, by simp [course, stage]⟩, fun before _ => before⟩
        · next notRestoring =>
          obtain ⟨hcoordinator, -, -, hcommands', hevents⟩ := serve_eq_ok h
          have before : s.stage = .bootstrap ∨ s.stage = .serving := by
            simp only [Session.reads] at reads
            split at reads
            · next stage => exact .inl stage
            · next stage => exact .inr stage
            · next stage => exact absurd stage notRestoring
            · cases reads
          have after : s'.stage = .bootstrap ∨ s'.stage = .serving ∨ s'.stage = .quiescing := by
            rcases serve_stage h with same | other
            · exact same ▸ before.imp_right .inl
            · exact .inr other
          refine ⟨hcoordinator, hcommands' ▸ fewer, .inl ⟨hevents, ?_⟩, fun _ _ => ?_⟩
          · rw [course_serving before]
            rcases after with after | after | after <;> simp [course, after]
          · rcases after with after | after | after <;> simp [GuardianStage.unrestored, after]
    · cases h

theorem Session.Advances.attempt {s s' : Session} {move : Move} (side : move.ofGuardian)
    (expected : move ≠ .answer .usageExhausted) (h : s.attempt move = some (.ok s')) :
    s.Advances s' := by
  cases move with
  | send | receiveEvent => cases side
  | answer event =>
    simp only [Session.attempt] at h
    split at h
    · next guard =>
      refine emit_serving (Option.some.inj h) guard.1 (by split <;> simp) ?_
      have unused : event ≠ .usageExhausted := fun same => expected (by rw [same])
      have answers := guard.2
      revert answers unused
      fun_cases guardianAnswers s.guardian.terminal.state event <;> simp [Course.next]
    · cases h
  | receiveCommand => exact advances_receiveCommand h
  | fail error =>
    simp only [Session.attempt, announce] at h
    split at h
    · next serving =>
      split at h
      · simp only [Option.some.injEq] at h
        split at h
        · cases h
        · next guardian _ =>
          obtain ⟨hcoordinator, hcommands, hcourse, hunrestored⟩ :=
            emit_serving h (.inr serving) (.inl rfl) rfl
          refine ⟨hcoordinator, hcommands, ?_, hunrestored⟩
          rw [course_serving (s := { s with guardian }) (.inr serving)] at hcourse
          rwa [course_serving (.inr serving)]
      · exact emit_serving (Option.some.inj h) (.inr serving) (.inl rfl) rfl
    · cases h
  | failStartup error =>
    simp only [Session.attempt] at h
    split at h
    · next serving => exact emit_serving (Option.some.inj h) (.inr serving) (.inl rfl) rfl
    · cases h
  | close =>
    simp only [Session.attempt] at h
    split at h
    · next guard =>
      cases h
      refine ⟨rfl, List.Subset.refl _, .inl ⟨rfl, ?_⟩, fun _ _ => rfl⟩
      rw [course_serving (.inr guard.1)]
      rfl
    · cases h
  | quiesce =>
    simp only [Session.attempt] at h
    split at h
    · next stage =>
      have emitted := Option.some.inj h
      refine emit_advances emitted ?_ fun _ => rfl
      simp [Session.course, stage, emit_stage emitted, Course.next]
    · cases h
  | disarm =>
    simp only [Session.attempt] at h
    split at h
    · next stage =>
      have emitted := Option.some.inj h
      refine emit_advances emitted ?_ fun before => by simp [stage, GuardianStage.unrestored] at before
      simp [Session.course, stage, emit_stage emitted, Course.next]
    · cases h
  | failWorker =>
    simp only [Session.attempt] at h
    split at h
    · next guard =>
      have emitted := Option.some.inj h
      refine emit_advances emitted ?_ fun before => by simp [guard.1, GuardianStage.unrestored] at before
      simp [Session.course, guard.1, emit_stage emitted, Course.next]
    · cases h
  | reap app tui worker session guardianExit =>
    simp only [Session.attempt] at h
    split at h
    · next guard =>
      have emitted := Option.some.inj h
      refine emit_advances emitted ?_ fun before => by simp [guard.1, GuardianStage.unrestored] at before
      obtain ⟨terminal, accept, -, rfl⟩ := emit_eq_ok emitted
      obtain ⟨-, rfl⟩ := acceptEvent_reaped accept
      simp [Session.course, guard.1, Course.next, Session.reported]
    · cases h

/-! ## What the coordinator accepts -/

/-- The state that a failure leaves behind. -/
def TerminalLifecycleState.failed : TerminalLifecycleState → TerminalLifecycleState
  | .quiesced => .quiesced
  | .awaitRecoveryDisarmed => .awaitRecoveryDisarmed
  | .recoveryDisarmed => .recoveryDisarmed
  | _ => .failedAwaitQuiesced

end Calcifer.Supervisor
