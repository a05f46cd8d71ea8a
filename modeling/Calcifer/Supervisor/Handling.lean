import Calcifer.Supervisor.Course

/-!
# What the coordinator handles

The validator of the coordinator and the hand-written matches of its drive are two readings of one
protocol. `At` ties the position of the drive to the state of the validator, every part of the drive
has one rule that says from which state to which it goes, and the rules of all rounds together show
that the drive never finds an event that it does not expect, if the guardian neither reports exhausted
usage nor ends with another status than it reported.
-/

namespace Calcifer.Supervisor

open TerminalLifecycleValidator

/-- The guardian neither reports exhausted usage nor ends with another status than it reported. -/
def Conduct.expected : Conduct where
  exhausts := false
  misreports := false

/-! ## Where the drive is -/

/-- The transcript of the coordinator is in a state, with or without an announced failure, and the
events that it has not read go on from a point of the course. -/
structure CoordinatorWorld.At (w : CoordinatorWorld) (state : TerminalLifecycleState) (failed : Bool)
    (course : Course) : Prop where
  sound : w.session.coordinator.poisoned = false
  state : w.session.coordinator.terminal.state = state
  inactive : w.session.coordinator.terminal.recoveryCommandAllowance = .inactive
  failed : w.session.coordinator.terminal.failure.isSome = failed
  follows : w.session.events.foldlM Course.next course = some w.session.course
  ended : ∀ status, w.status = some status →
    ∃ guardianExit, w.session.course = .reaped guardianExit ∧ guardianStatusMatches status guardianExit
  unrestored : course = .serving →
    w.session.stage.unrestored ∧ .terminalRestored ∉ w.session.commands

variable {w : CoordinatorWorld} {state : TerminalLifecycleState} {failed : Bool} {course : Course}

/-- What a call of the coordinator leaves alone of the rest of the session. -/
theorem CoordinatorWorld.At.keep {w' : CoordinatorWorld} (h : w.At state failed course)
    (session : w'.session = w.session) (status : w'.status = w.status) : w'.At state failed course := by
  obtain ⟨sound, hstate, inactive, hfailed, follows, ended, unrestored⟩ := h
  exact ⟨session ▸ sound, session ▸ hstate, session ▸ inactive, session ▸ hfailed, session ▸ follows,
    by rw [session, status]; exact ended, session ▸ unrestored⟩

theorem CoordinatorWorld.At.stable :
    (coordinatorSurroundings .expected).Stable (·.At state failed course) := by
  intro w w' h env
  cases env with
  | signal => exact h.keep rfl rfl
  | exit published raised reaped running same expected =>
    obtain ⟨sound, hstate, inactive, hfailed, follows, ended, unrestored⟩ := h
    refine ⟨sound, hstate, inactive, hfailed, follows, ?_, unrestored⟩
    rintro _ ⟨⟩
    exact ⟨_, by simp [Session.course, reaped], expected.resolve_right (by simp [Conduct.expected])⟩
  | @guardian session move side expected moved =>
    obtain ⟨sound, hstate, inactive, hfailed, follows, ended, unrestored⟩ := h
    obtain ⟨hcoordinator, hcommands, hcourse, hunrestored⟩ : w.session.Advances session :=
      .attempt side (fun same => by simpa [Conduct.expected] using expected same) moved
    refine ⟨hcoordinator ▸ sound, hcoordinator ▸ hstate, hcoordinator ▸ inactive,
      hcoordinator ▸ hfailed, ?_, ?_, ?_⟩
    · rcases hcourse with ⟨events, same⟩ | ⟨event, events, on⟩
      · rw [events, same]
        exact follows
      · rw [events, List.foldlM_append, follows]
        simpa using on
    · intro status hstatus
      obtain ⟨guardianExit, reaped, hmatches⟩ := ended status hstatus
      rcases hcourse with ⟨-, same⟩ | ⟨event, -, on⟩
      · exact ⟨guardianExit, same ▸ reaped, hmatches⟩
      · rw [reaped] at on
        cases event <;> cases on
    · intro serving
      obtain ⟨stage, unsent⟩ := unrestored serving
      exact ⟨hunrestored stage unsent, fun sent => unsent (hcommands sent)⟩

theorem CoordinatorWorld.At.running (h : w.At state failed .serving) : w.status = none := by
  cases hs : w.status with
  | none => rfl
  | some status =>
    obtain ⟨guardianExit, reaped, -⟩ := h.ended status hs
    obtain ⟨unrestored, -⟩ := h.unrestored rfl
    cases stage : w.session.stage <;> simp [Session.course, stage, GuardianStage.unrestored] at *

/-! ## Rules -/

/-- A part of the drive, with what holds of its result when it goes on. It gives up only on a snapshot
that is not its own. -/
def Driven {α : Type} (x : Drive α) (Q : α → CoordinatorWorld → Prop) (w : CoordinatorWorld) : Prop :=
  Program.Safe (coordinatorSurroundings .expected) (fun _ => True) x.run (fun r w => match r with
    | .ok a => Q a w
    | .error error => error = .snapshot) w

section Rules

variable {α β : Type} {Q : α → CoordinatorWorld → Prop}

theorem Driven.pure {a : α} (h : Q a w) : Driven (pure a) Q w := h

theorem Driven.mono {x : Drive α} {Q' : α → CoordinatorWorld → Prop} (h : Driven x Q w)
    (hQ : ∀ a w, Q a w → Q' a w) : Driven x Q' w := by
  refine Program.Safe.mono h fun r w hr => ?_
  cases r with
  | ok a => exact hQ a w hr
  | error e => exact hr

theorem Driven.bind {x : Drive α} {f : α → Drive β} {Q : β → CoordinatorWorld → Prop}
    (h : Driven x (fun a w => Driven (f a) Q w) w) : Driven (x >>= f) Q w := by
  refine Program.Safe.bindExcept (Program.Safe.mono h fun r w hr => ?_)
  cases r with
  | ok a => exact hr
  | error e => exact hr

/-- A call relies on what the surroundings keep. -/
theorem Driven.ask {op : CoordinatorOp} {Q : op.Reply → CoordinatorWorld → Prop}
    (A : CoordinatorWorld → Prop) (stable : (coordinatorSurroundings .expected).Stable A) (hA : A w)
    (h : ∀ w₁, A w₁ → ∀ choice r w₂, w₁.answer choice op = some (r, w₂) → Q r w₂) :
    Driven (Drive.ask op) Q w := by
  refine Program.Safe.call A stable hA ?_
  rintro w₁ hA r w₂ ⟨choice, answer⟩
  exact ⟨trivial, h w₁ hA choice r w₂ answer⟩

/-- What the second part needs is what the first one leads to. -/
theorem Driven.then {x : Drive α} {f : α → Drive β} {Q : β → CoordinatorWorld → Prop}
    {R : α → CoordinatorWorld → Prop} (first : Driven x R w)
    (rest : ∀ a w, R a w → Driven (f a) Q w) : Driven (x >>= f) Q w :=
  Driven.bind (first.mono rest)

/-- A call that leaves the session alone. -/
theorem Driven.look {op : CoordinatorOp} {f : op.Reply → Drive α} (h : w.At state failed course)
    (calm : ∀ (w₁ : CoordinatorWorld) choice r w₂, w₁.At state failed course →
      w₁.answer choice op = some (r, w₂) → (w₂.session = w₁.session ∧ w₂.status = w₁.status) ∧
        (w₂.At state failed course → Driven (f r) Q w₂)) : Driven (Drive.ask op >>= f) Q w := by
  refine Driven.bind (Driven.ask (·.At state failed course) CoordinatorWorld.At.stable h ?_)
  intro w₁ hat choice r w₂ answer
  obtain ⟨⟨session, status⟩, hQ⟩ := calm w₁ choice r w₂ hat answer
  exact hQ (hat.keep session status)

end Rules

/-! ## Calls -/

/-- The receiver after an event that it accepts. -/
theorem CoordinatorReceiver.receive_eq_ok {r r' : CoordinatorReceiver} {event event' : GuardianEvent}
    (h : r.receive (.ok event) = (.ok event', r')) : event' = event ∧ r'.poisoned = false ∧
      r.terminal.acceptEvent event = .ok r'.terminal ∧
      (event = .ready ∨ (∃ rows cols, event = .resumed rows cols) → r'.verifiedReadyPending) ∧
      (event = .inputGateOpened → r'.verifiedOpenGateAckPending) := by
  unfold receive at h
  split at h
  · cases h
  · next going =>
    cases accept : r.terminal.acceptEvent event with
    | error e => simp [accept] at h
    | ok terminal =>
      simp only [accept] at h
      cases h
      have sound : r.poisoned = false := by
        cases poisoned : r.poisoned <;> simp [closed, poisoned] at going ⊢
      refine ⟨rfl, sound, rfl, ?_, ?_⟩
      · rintro (rfl | ⟨rows, cols, rfl⟩) <;> rfl
      · rintro rfl
        rfl

/-- The coordinator is at a place where its validator minted a disposition. -/
def CoordinatorWorld.Minted (w : CoordinatorWorld) (guardianExit : GuardianExitDisposition) : Prop :=
  w.minted = some guardianExit

theorem CoordinatorWorld.Minted.stable {conduct : Conduct} {guardianExit : GuardianExitDisposition} :
    (coordinatorSurroundings conduct).Stable (·.Minted guardianExit) := by
  intro w w' h env
  cases env <;> exact h

/-- Once the coordinator has read the report, nothing is left to read. -/
theorem CoordinatorWorld.At.exhausted {guardianExit : GuardianExitDisposition}
    (h : w.At state failed (.reaped guardianExit)) :
    w.session.events = [] ∧ w.session.course = .reaped guardianExit := by
  have follows := h.follows
  cases hevents : w.session.events with
  | nil =>
    rw [hevents] at follows
    exact ⟨rfl, (Option.some.inj follows).symm⟩
  | cons event events =>
    rw [hevents, List.foldlM_cons] at follows
    cases event <;> cases follows

/-- Where a control leaves the coordinator, when the session goes on in `going`. -/
def ControlOutcome.Leaves (going : TerminalLifecycleState) : ControlOutcome → CoordinatorWorld → Prop
  | .continue, w => w.At going false .serving
  | .shutdown, w => w.At .awaitQuiesced false .serving
  | .quiesced, w => w.At .quiesced false .restoring
  | .failed, w => w.At .failedAwaitQuiesced true .serving

/-- Where the drive is at the start of a round. -/
def DrivePoint.Starts : DrivePoint → CoordinatorWorld → Prop
  | .bootstrap c _ gate, w => c = .new ∧ ∃ state, w.At state false .serving ∧
      match state with
      | .awaitTerminalArmed | .awaitApp | .awaitTui | .awaitReady => gate = {}
      | .awaitAppDescriptorVerification => ∃ pgid, gate = { app := some pgid }
      | .awaitTuiDescriptorVerification => ∃ pgid, gate = { tui := some pgid }
      | .readyForGate => gate = { ready := true }
      | _ => False
  | .active c, w => c = ⟨.active, false⟩ ∧ w.At .active false .serving
  | .suspended c, w => c = ⟨.suspendedRestored, false⟩ ∧ w.At .suspended false .serving

/-- A run of the coordinator against a guardian with some conduct. -/
def CoordinatorRuns (conduct : Conduct) (snapshot : TerminalSnapshotFingerprint) :
    CoordinatorWorld → Program CoordinatorOp CoordinatorOp.Reply (DrivePoint ⊕ CoordinatorRunOutcome) →
      Prop :=
  Program.Rounds (coordinatorSurroundings conduct) ProductionCoordinator.runTurn (.start snapshot)
    ProductionCoordinator.run

/-- The coordinator is going round in a live session. -/
def DrivePoint.Live (w : CoordinatorWorld) : DrivePoint → Prop
  | .bootstrap _ _ _ => w.session.coordinator.terminal.state.live
  | .active _ => w.session.coordinator.terminal.state = .active
  | .suspended _ => w.session.coordinator.terminal.state = .suspended

/-- A run ends with the children reaped and the disposition that the validator minted, or gives up on a
foreign terminal snapshot. -/
def CoordinatorRunOutcome.Good (w : CoordinatorWorld) (outcome : CoordinatorRunOutcome) : Prop :=
  outcome = .retained .snapshot ∨ ∃ status report, outcome = .terminal status report ∧
    w.minted = some report.guardianExit ∧ guardianStatusMatches status report.guardianExit

theorem DrivePoint.Starts.stable (point : DrivePoint) :
    (coordinatorSurroundings .expected).Stable point.Starts := by
  intro w w' h env
  cases point with
  | bootstrap c snapshot gate =>
    obtain ⟨new, state, h, place⟩ := h
    exact ⟨new, state, CoordinatorWorld.At.stable w w' h env, place⟩
  | active c => exact ⟨h.1, CoordinatorWorld.At.stable w w' h.2 env⟩
  | suspended c => exact ⟨h.1, CoordinatorWorld.At.stable w w' h.2 env⟩

theorem CoordinatorRunOutcome.Good.stable (outcome : CoordinatorRunOutcome) :
    (coordinatorSurroundings .expected).Stable fun w => outcome.Good w := by
  intro w w' h env
  have same : w'.minted = w.minted := by cases env <;> rfl
  simpa [Good, same] using h

theorem DrivePoint.Starts.live {point : DrivePoint} (h : point.Starts w) : point.Live w := by
  cases point with
  | bootstrap c snapshot gate =>
    obtain ⟨-, state, h, place⟩ := h
    rw [Live, h.state]
    cases state <;> first | rfl | exact place.elim
  | active c => exact h.2.state
  | suspended c => exact h.2.state

/-- The calls that wait for the guardian. -/
def CoordinatorOp.waits : CoordinatorOp → Bool
  | .awaitReadable | .receive | .waitGuardian | .verifyTerminalEof => true
  | _ => false

/-- Where a run of the coordinator may be: in a call, which is answered unless it waits for the guardian;
at the start of a round, of a live session; or at its end. -/
def CoordinatorWorld.Sound (w : CoordinatorWorld) :
    Program CoordinatorOp CoordinatorOp.Reply (DrivePoint ⊕ CoordinatorRunOutcome) → Prop
  | .call op _ => op.waits ∨ ∃ choice r w', w.answer choice op = some (r, w')
  | .done (.inl point) => point.Live w
  | .done (.inr outcome) => outcome.Good w

/-- A step of a run. -/
inductive CoordinatorStep where
  | calls (n : ℕ)
  | round
  | guardian (move : Move)
  | exit (published raised : Bool)

/-- Answer up to `n` calls, with a terminal of the usual size and descriptors that are isolated. -/
def CoordinatorWorld.callsOf (w : CoordinatorWorld)
    (p : Program CoordinatorOp CoordinatorOp.Reply (DrivePoint ⊕ CoordinatorRunOutcome)) :
    ℕ → Option (CoordinatorWorld ×
      Program CoordinatorOp CoordinatorOp.Reply (DrivePoint ⊕ CoordinatorRunOutcome))
  | 0 => some (w, p)
  | n + 1 =>
    match p with
    | .done _ => none
    | .call op next =>
      match w.answer ⟨⟨24, 80, by decide⟩, .verified⟩ op with
      | none => none
      | some (r, w) => w.callsOf (next r) n

def CoordinatorStep.apply (conduct : Conduct) (w : CoordinatorWorld)
    (p : Program CoordinatorOp CoordinatorOp.Reply (DrivePoint ⊕ CoordinatorRunOutcome)) :
    CoordinatorStep → Option (CoordinatorWorld ×
      Program CoordinatorOp CoordinatorOp.Reply (DrivePoint ⊕ CoordinatorRunOutcome))
  | .calls n => w.callsOf p n
  | .round =>
    match p with
    | .done (.inl point) => some (w, ProductionCoordinator.runTurn point)
    | _ => none
  | .guardian move =>
    if move.ofGuardian ∧ (move = .answer .usageExhausted → conduct.exhausts) then
      match w.session.attempt move with
      | some (.ok session) => some ({ w with session }, p)
      | _ => none
    else none
  | .exit published raised =>
    let status := applyTerminalDisposition raised (w.session.exitDisposition published)
    if w.session.stage = .reaped ∧ w.status = none ∧
        (guardianStatusMatches status w.session.reported ∨ conduct.misreports) then
      some ({ w with status := some status }, p)
    else none

/-- The steps that a schedule makes. -/
def CoordinatorStep.play (conduct : Conduct) (w : CoordinatorWorld)
    (p : Program CoordinatorOp CoordinatorOp.Reply (DrivePoint ⊕ CoordinatorRunOutcome)) :
    List CoordinatorStep → Option (CoordinatorWorld ×
      Program CoordinatorOp CoordinatorOp.Reply (DrivePoint ⊕ CoordinatorRunOutcome))
  | [] => some (w, p)
  | step :: steps =>
    match step.apply conduct w p with
    | none => none
    | some (w, p) => play conduct w p steps

variable {conduct : Conduct} {snapshot : TerminalSnapshotFingerprint} {w' : CoordinatorWorld}
  {p p' : Program CoordinatorOp CoordinatorOp.Reply (DrivePoint ⊕ CoordinatorRunOutcome)}

theorem CoordinatorRuns.calls {n : ℕ} (h : CoordinatorRuns conduct snapshot w p)
    (calls : w.callsOf p n = some (w', p')) : CoordinatorRuns conduct snapshot w' p' := by
  induction n generalizing w p with
  | zero =>
    simp only [CoordinatorWorld.callsOf, Option.some.injEq, Prod.mk.injEq] at calls
    obtain ⟨rfl, rfl⟩ := calls
    exact h
  | succ n ih =>
    cases p with
    | done r => simp [CoordinatorWorld.callsOf] at calls
    | call op next =>
      simp only [CoordinatorWorld.callsOf] at calls
      split at calls
      · cases calls
      · next r w₁ answer => exact ih (.exec r ⟨_, answer⟩ h) calls

theorem CoordinatorRuns.apply {step : CoordinatorStep} (h : CoordinatorRuns conduct snapshot w p)
    (applied : step.apply conduct w p = some (w', p')) : CoordinatorRuns conduct snapshot w' p' := by
  cases step with
  | calls n => exact h.calls applied
  | round =>
    simp only [CoordinatorStep.apply] at applied
    split at applied <;> cases applied
    exact .round h
  | guardian move =>
    simp only [CoordinatorStep.apply] at applied
    split at applied
    · next guard =>
      split at applied <;> cases applied
      next moved => exact .env (.guardian move guard.1 guard.2 moved) h
    · cases applied
  | exit published raised =>
    simp only [CoordinatorStep.apply] at applied
    split at applied
    · next guard =>
      cases applied
      exact .env (.exit published raised guard.1 guard.2.1 rfl guard.2.2) h
    · cases applied

theorem CoordinatorRuns.play {steps : List CoordinatorStep} (h : CoordinatorRuns conduct snapshot w p)
    (played : CoordinatorStep.play conduct w p steps = some (w', p')) :
    CoordinatorRuns conduct snapshot w' p' := by
  induction steps generalizing w p with
  | nil =>
    cases played
    exact h
  | cons step steps ih =>
    simp only [CoordinatorStep.play] at played
    split at played
    · cases played
    · next applied => exact ih (h.apply applied) played

end Calcifer.Supervisor
