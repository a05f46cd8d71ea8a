import Mathlib.Computability.Language
import Calcifer.Library.Traces
import Calcifer.Supervisor.Transitions

/-!
# The language of transcripts

A validator reads a sequence of commands and events. The transcripts that it accepts without an announced
failure are a language of the protocol: one startup, cycles of an open and a suspended terminal, an end of
the session, and the four steps of its shutdown. `gate_opened_iff` and `orderly_transcript_iff` say that
the validator accepts exactly this language.
-/

open scoped Computability

namespace Calcifer.Supervisor

open Checks

/-- A message of the transcript, from the coordinator or from the guardian. -/
inductive Message where
  | command (command : CoordinatorCommand)
  | event (event : GuardianEvent)
deriving DecidableEq, Repr

/-- A message is accepted, or the guardian silently opens the slot of the recovery race. -/
inductive Transcribes (v : TerminalLifecycleValidator) :
    List Message → TerminalLifecycleValidator → Prop
  | command {command : CoordinatorCommand} {acceptance : TerminalCommandAcceptance}
      {v' : TerminalLifecycleValidator} (h : v.acceptCommand command = .ok (acceptance, v')) :
    Transcribes v [.command command] v'
  | event {event : GuardianEvent} {v' : TerminalLifecycleValidator}
      (h : v.acceptEvent event = .ok v') : Transcribes v [.event event] v'
  | arm {v' : TerminalLifecycleValidator} (h : v.armRecoveryCommandRace = .ok v') : Transcribes v [] v'

/-- The transcripts that bring a new validator to `v`. -/
def TerminalLifecycleValidator.transcripts (v : TerminalLifecycleValidator) : Language Message :=
  Traces.between Transcribes .beforeStart v

/-- `input_gate_opened`. -/
def TerminalLifecycleValidator.inputGateOpened (v : TerminalLifecycleValidator) : Bool :=
  match v.state with
  | .active | .awaitSignalForwarded .int false | .awaitSignalForwarded .quit false
  | .awaitResizeApplied _ _ => true
  | _ => false

/-! ## The protocol -/

namespace Transcript

/-- The messages of a startup, each child in a process group of its own. -/
def bootstrap (snapshot : TerminalSnapshotFingerprint) (app tui : Int) : List Message :=
  [.event .leaseCommitted, .command .start, .event (.terminalArmed snapshot),
    .command .terminalArmAccepted, .event (.childStarted .appServer app app),
    .command (.childDescriptorsVerified .appServer), .event (.childStarted .tui tui tui),
    .command (.childDescriptorsVerified .tui), .event .ready]

/-- The first messages of a startup, whose App runs in a known process group once it has started. -/
def startup (group : Option Int) (n : Nat) : Language Message :=
  {w | ∃ snapshot app tui, 0 < app ∧ 0 < tui ∧ app ≠ tui ∧ (4 < n → group = some app) ∧
    w = (bootstrap snapshot app tui).take n}

/-- A foreground control that is not answered. -/
def control : Language Message := {w | ∃ command, Interactive command ∧ w = [.command command]}

def signalled : Language Message :=
  {w | ∃ signal, (signal = .int ∨ signal = .quit) ∧
    w = [.command (.signal signal), .event (.signalForwarded signal)]}

def resized : Language Message :=
  {w | ∃ rows cols, validateTerminalSize rows cols = .ok () ∧
    w = [.command (.resize rows cols), .event (.resizeApplied rows cols)]}

def gate : Language Message := {[.command .openInputGate, .event .inputGateOpened]}

def suspension : Language Message := {[.command .suspend, .event .suspended]}

def resumption : Language Message :=
  {w | ∃ rows cols, validateTerminalSize rows cols = .ok () ∧
    w = [.command (.resume rows cols), .event (.resumed rows cols)]}

def foreground : Language Message := (signalled + resized)∗

/-- An open gate, up to the next one. -/
def cycle : Language Message := gate * foreground * suspension * signalled∗ * resumption

def started : Language Message := {w | ∃ group, w ∈ startup group 9}

/-- A started session whose gate is closed. -/
def ready : Language Message := started * cycle∗

def opened : Language Message := ready * gate * foreground

def paused : Language Message := opened * suspension * signalled∗

/-- The transcripts that order an end of the session. -/
def ordered : SessionTerminationCause → Language Message
  | .naturalTuiEof => 0
  | .coordinatorStop => (ready + opened + paused) * {[.command .stop]}
  | .usageExhaustion => opened * {[.event .usageExhausted]}
  | .forwardedHup => (opened + paused) * {[.command (.signal .hup), .event (.signalForwarded .hup)]}
  | .forwardedTerm => (opened + paused) * {[.command (.signal .term), .event (.signalForwarded .term)]}

/-- The transcripts of a session that ends by itself, with at most one control on its way. -/
def unordered : SessionTerminationCause → Language Message
  | .naturalTuiEof => opened * (1 + control)
  | _ => 0

/-- The transcripts of a quiesced terminal. Foreground controls that crossed the end are discarded. -/
def ended (cause : SessionTerminationCause) : Language Message :=
  (ordered cause + unordered cause) * {[.event .terminalQuiesced]} * control∗

/-- The reports of the reaped children of a session that ended for a cause: what the cause and the
children project to, or an internal failure. -/
def reports (cause : SessionTerminationCause) (disposition : GuardianExitDisposition) :
    Language Message :=
  {w | ∃ app tui session, app ≠ .notStarted ∧ tui ≠ .notStarted ∧
    (disposition = .internalFailure ∧ session = .failed ∨ disposition ≠ .internalFailure ∧
      projectTerminalSemantics app tui .joinedClean cause = (session, disposition)) ∧
    w = [.event (.childrenReaped app tui .joinedClean .complete session disposition)]}

/-- The complete transcripts of a session that ended for a cause and exits with a disposition. -/
def complete (cause : SessionTerminationCause) (disposition : GuardianExitDisposition) :
    Language Message :=
  ended cause * {[.command .terminalRestored]} * {[.event .terminalRecoveryDisarmed]} *
    reports cause disposition

/-- The transcripts of a session in a state, while no failure is announced. -/
def running (v : TerminalLifecycleValidator) : Language Message :=
  match v.state with
  | .awaitLeaseBeforeStart => startup v.appProcessGroup 0
  | .awaitStart => startup v.appProcessGroup 1
  | .awaitTerminalArmed => startup v.appProcessGroup 2
  | .awaitTerminalArmAcceptance => startup v.appProcessGroup 3
  | .awaitApp => startup v.appProcessGroup 4
  | .awaitAppDescriptorVerification => startup v.appProcessGroup 5
  | .awaitTui => startup v.appProcessGroup 6
  | .awaitTuiDescriptorVerification => startup v.appProcessGroup 7
  | .awaitReady => startup v.appProcessGroup 8
  | .readyForGate => ready
  | .awaitGateOpened => ready * {[.command .openInputGate]}
  | .active => opened
  | .awaitSignalForwarded signal false => opened * {[.command (.signal signal)]}
  | .awaitSignalForwarded signal true => paused * {[.command (.signal signal)]}
  | .awaitResizeApplied rows cols =>
    {w | validateTerminalSize rows cols = .ok () ∧ w ∈ opened * {[.command (.resize rows cols)]}}
  | .awaitSuspended => opened * {[.command .suspend]}
  | .suspended => paused
  | .awaitResumed rows cols =>
    {w | validateTerminalSize rows cols = .ok () ∧ w ∈ paused * {[.command (.resume rows cols)]}}
  | .awaitQuiesced => {w | ∃ cause, v.terminationCause = some cause ∧ w ∈ ordered cause}
  | .failedAwaitQuiesced => 0
  | .quiesced => {w | ∃ cause, v.terminationCause = some cause ∧ w ∈ ended cause}
  | .awaitRecoveryDisarmed => {w | ∃ cause, v.terminationCause = some cause ∧
      w ∈ ended cause * {[.command .terminalRestored]}}
  | .recoveryDisarmed => {w | ∃ cause, v.terminationCause = some cause ∧
      w ∈ ended cause * {[.command .terminalRestored]} * {[.event .terminalRecoveryDisarmed]}}
  | .terminal => {w | ∃ cause disposition, v.terminationCause = some cause ∧
      v.terminalExitDisposition = some disposition ∧ w ∈ complete cause disposition}

/-! ## What the validator accepts -/

/-- Before an end of the session is ordered. -/
def Unended (state : TerminalLifecycleState) : Prop :=
  state ≠ .awaitQuiesced ∧ state ≠ .quiesced ∧ state ≠ .awaitRecoveryDisarmed ∧
    state ≠ .recoveryDisarmed ∧ state ≠ .terminal

/-- What is known of a validator from its transcript while no failure is announced. -/
structure Orderly (w : List Message) (v : TerminalLifecycleValidator) : Prop where
  word : w ∈ running v
  unended : Unended v.state → v.terminationCause = none
  unpended : v.supersededGateMayBePending = false
  unarmed : v.recoveryCommandAllowance = .inactive ∨
    ∃ window, v.recoveryCommandAllowance = .awaitingFailure window

variable {v v' : TerminalLifecycleValidator} {w : List Message} {event : GuardianEvent}
  {command : CoordinatorCommand}

theorem mem_mul_singleton {l : Language Message} {m : List Message} (h : w ∈ l) :
    w ++ m ∈ l * {m} :=
  Language.append_mem_mul h rfl

theorem mem_mul_mono {l l' m : Language Message} (le : l ≤ l') (h : w ∈ l * m) : w ∈ l' * m := by
  have : l * m ≤ l' * m := by gcongr
  exact this h

/-- A message and its answer. -/
theorem mem_mul_of_answer {l l' : Language Message} {m m' : Message} (h : w ∈ l * {[m]})
    (answered : [m, m'] ∈ l') : w ++ [m'] ∈ l * l' := by
  obtain ⟨u, mem, _, rfl, rfl⟩ := Language.mem_mul.1 h
  rw [List.append_assoc]
  exact Language.append_mem_mul mem answered

theorem ready_mul_cycle : ready * cycle ≤ ready := by
  rw [ready, mul_assoc]
  gcongr
  exact kstar_mul_le_kstar

theorem opened_mul_foreground : opened * (signalled + resized) ≤ opened := by
  rw [opened, mul_assoc]
  gcongr
  exact kstar_mul_le_kstar

theorem opened_mul_signalled : opened * signalled ≤ opened :=
  (mul_le_mul_right le_self_add _).trans opened_mul_foreground

theorem opened_mul_resized : opened * resized ≤ opened :=
  (mul_le_mul_right le_add_self _).trans opened_mul_foreground

theorem ready_mul_gate : ready * gate ≤ opened := by
  rw [opened]
  exact le_mul_of_one_le_right' one_le_kstar

theorem opened_mul_suspension : opened * suspension ≤ paused := by
  rw [paused]
  exact le_mul_of_one_le_right' one_le_kstar

theorem paused_mul_signalled : paused * signalled ≤ paused := by
  rw [paused, mul_assoc]
  gcongr
  exact kstar_mul_le_kstar

theorem paused_mul_resumption : paused * resumption ≤ ready := by
  refine le_trans (le_of_eq ?_) ready_mul_cycle
  simp only [paused, opened, cycle, mul_assoc]

theorem started_le_ready : started ≤ ready :=
  le_mul_of_one_le_right' one_le_kstar

/-- A startup goes on with a message that holds no data of its own. -/
theorem startup_step {group : Option Int} {n : Nat} {m : Message} (h : w ∈ startup group n)
    (next : ∀ snapshot app tui,
      (bootstrap snapshot app tui).take (n + 1) = (bootstrap snapshot app tui).take n ++ [m])
    (known : n ≠ 4) : w ++ [m] ∈ startup group (n + 1) := by
  obtain ⟨snapshot, app, tui, appGroup, tuiGroup, other, named, rfl⟩ := h
  exact ⟨snapshot, app, tui, appGroup, tuiGroup, other, fun _ => named (by omega),
    (next snapshot app tui).symm⟩

theorem quiesced_le_ended (cause : SessionTerminationCause) :
    (ordered cause + unordered cause) * {[.event .terminalQuiesced]} ≤ ended cause :=
  le_mul_of_one_le_right' one_le_kstar

theorem ended_control {cause : SessionTerminationCause} (h : w ∈ ended cause)
    (interactive : Interactive command) : w ++ [.command command] ∈ ended cause := by
  have closed : ended cause * control ≤ ended cause := by
    rw [ended, mul_assoc]
    gcongr
    exact kstar_mul_le_kstar
  exact closed (Language.append_mem_mul h ⟨command, interactive, rfl⟩)

theorem running_commandMoves {next : TerminalLifecycleState} (h : w ∈ running v)
    (move : CommandMoves v.state command next) :
    w ++ [.command command] ∈ running { v with state := next } := by
  rw [running] at h
  generalize v.state = state at move h
  cases move with
  | start | armAccepted | app | tui => exact startup_step h (fun _ _ _ => rfl) (by decide)
  | gate | signal | signalSuspended | suspend => exact mem_mul_singleton h
  | resize valid | resume valid => exact ⟨valid, mem_mul_singleton h⟩

theorem running_eventMoves {next : TerminalLifecycleState} (h : w ∈ running v)
    (move : EventMoves v.state event next) :
    w ++ [.event event] ∈ running { v with state := next } := by
  rw [running] at h
  generalize v.state = state at move h
  cases move with
  | armed snapshot =>
    obtain ⟨_, app, tui, appGroup, tuiGroup, other, named, rfl⟩ := h
    exact ⟨snapshot, app, tui, appGroup, tuiGroup, other, fun known => by omega, rfl⟩
  | ready => exact started_le_ready ⟨_, startup_step h (fun _ _ _ => rfl) (by decide)⟩
  | forwarded signal interactive =>
    exact opened_mul_signalled (mem_mul_of_answer h ⟨signal, interactive, rfl⟩)
  | forwardedSuspended signal interactive =>
    exact paused_mul_signalled (mem_mul_of_answer h ⟨signal, interactive, rfl⟩)
  | resized rows cols =>
    exact opened_mul_resized (mem_mul_of_answer h.2 ⟨rows, cols, h.1, rfl⟩)
  | suspended => exact opened_mul_suspension (mem_mul_of_answer h rfl)
  | resumed rows cols =>
    exact paused_mul_resumption (mem_mul_of_answer h.2 ⟨rows, cols, h.1, rfl⟩)
  | quiesced =>
    obtain ⟨cause, known, mem⟩ := h
    exact ⟨cause, known, quiesced_le_ended cause (mem_mul_singleton (Or.inl mem))⟩
  | failedQuiesced => exact absurd h (Language.notMem_zero w)
  | disarmed =>
    obtain ⟨cause, known, mem⟩ := h
    exact ⟨cause, known, mem_mul_singleton mem⟩

theorem opened_of_gateOpened (h : w ∈ running v) (gateOpened : GateOpened v.state) :
    w ∈ opened * (1 + control) := by
  rw [running] at h
  generalize v.state = state at gateOpened h
  cases gateOpened with
  | active => exact (le_mul_of_one_le_right' le_self_add : opened ≤ _) h
  | signal signal interactive =>
    obtain ⟨u, mem, _, rfl, rfl⟩ := Language.mem_mul.1 h
    refine Language.append_mem_mul mem (.inr ⟨_, ?_, rfl⟩)
    obtain rfl | rfl := interactive
    · exact .int
    · exact .quit
  | resize rows cols =>
    obtain ⟨valid, h⟩ := h
    obtain ⟨u, mem, _, rfl, rfl⟩ := Language.mem_mul.1 h
    exact Language.append_mem_mul mem (.inr ⟨_, .resize valid, rfl⟩)

theorem unended_of_gateOpened {state : TerminalLifecycleState} (h : GateOpened state) :
    Unended state := by
  cases h <;> simp [Unended]

theorem validateTerminal_unfailed {app tui : ChildDisposition} {worker : WorkerJoinStatus}
    {session : SessionStatus} {guardianExit disposition : GuardianExitDisposition}
    {cause : SessionTerminationCause} (unfailed : v.failure = none)
    (known : v.terminationCause = some cause)
    (valid : v.validateTerminal app tui worker session guardianExit = .ok disposition) :
    [.event (.childrenReaped app tui worker .complete session guardianExit)] ∈
      reports cause disposition := by
  unfold TerminalLifecycleValidator.validateTerminal at valid
  simp only [unfailed, known] at valid
  split at valid
  · cases valid
  · split at valid
    · cases valid
    · split at valid
      · cases valid
      · rename_i announced _ sound
        simp only [not_or, not_not] at announced sound
        obtain ⟨rfl, leased, appStarted, tuiStarted, gate⟩ := sound
        rw [appStarted, tuiStarted, decide_eq_true_iff, decide_eq_true_iff] at announced
        split at valid
        · rename_i internal
          split at valid
          · cases valid
          · rename_i failed
            cases valid
            exact ⟨app, tui, session, announced.1, announced.2, .inl ⟨internal, not_not.1 failed⟩, rfl⟩
        · rename_i other
          split at valid
          · cases valid
          · rename_i projects
            simp only [not_or, not_not] at projects
            cases valid
            exact ⟨app, tui, session, announced.1, announced.2,
              .inr ⟨other, Prod.ext projects.1.symm projects.2.symm⟩, rfl⟩

theorem Orderly.acceptCommand {acceptance : TerminalCommandAcceptance} (orderly : Orderly w v)
    (step : CommandStep v command acceptance v') : Orderly (w ++ [.command command]) v' := by
  obtain ⟨word, unended, unpended, unarmed⟩ := orderly
  cases step with
  | moves move =>
    refine ⟨running_commandMoves word move, fun after => unended ?_, unpended, unarmed⟩
    generalize v.state = state at move
    cases move <;> simp_all [Unended]
  | stop stoppable =>
    refine ⟨⟨_, rfl, ?_⟩, fun after => absurd rfl after.1, unpended, unarmed⟩
    rw [running] at word
    generalize v.state = state at stoppable word
    cases stoppable with
    | readyForGate => exact mem_mul_singleton (Or.inl (Or.inl word))
    | active => exact mem_mul_singleton (Or.inl (Or.inr word))
    | suspended => exact mem_mul_singleton (Or.inr word)
  | late quiesced inactive interactive =>
    refine ⟨?_, unended, unpended, unarmed⟩
    simp only [running, quiesced] at word ⊢
    obtain ⟨cause, known, mem⟩ := word
    exact ⟨cause, known, ended_control mem interactive⟩
  | gate quiesced inactive pending =>
    rw [unpended] at pending
    cases pending
  | restored quiesced settled =>
    simp only [running, quiesced] at word
    obtain ⟨cause, known, mem⟩ := word
    exact ⟨⟨cause, known, mem_mul_singleton mem⟩, fun after => absurd rfl after.2.2.1, rfl, .inl rfl⟩
  | superseded quiesced armed allows =>
    rw [armed] at unarmed
    obtain inactive | ⟨window, awaiting⟩ := unarmed
    · cases inactive
    · cases awaiting

theorem Orderly.acceptEvent (orderly : Orderly w v) (step : EventStep v event v')
    (unfailed : v'.failure = none) : Orderly (w ++ [.event event]) v' := by
  obtain ⟨word, unended, unpended, unarmed⟩ := orderly
  cases step with
  | moves move =>
    refine ⟨running_eventMoves word move, fun after => unended ?_, unpended, unarmed⟩
    generalize v.state = state at move
    cases move <;> simp_all [Unended]
  | lease state =>
    refine ⟨?_, fun _ => unended (by simp [state, Unended]), unpended, unarmed⟩
    simp only [running, state] at word
    exact startup_step word (fun _ _ _ => rfl) (by decide)
  | @app pid state group =>
    refine ⟨?_, fun _ => unended (by simp [state, Unended]), unpended, unarmed⟩
    simp only [running, state] at word
    obtain ⟨snapshot, _, _, _, _, _, _, rfl⟩ := word
    exact ⟨snapshot, pid, pid + 1, group, by omega, by omega, fun _ => rfl, rfl⟩
  | @tui pid state group other =>
    refine ⟨?_, fun _ => unended (by simp [state, Unended]), unpended, unarmed⟩
    simp only [running, state] at word
    obtain ⟨snapshot, app, _, appGroup, _, _, named, rfl⟩ := word
    have known := named (by decide)
    refine ⟨snapshot, app, pid, appGroup, group, ?_, fun _ => known, rfl⟩
    rintro rfl
    exact other known
  | gate state =>
    refine ⟨?_, fun _ => unended (by simp [state, Unended]), unpended, unarmed⟩
    simp only [running, state] at word
    exact ready_mul_gate (mem_mul_of_answer word rfl)
  | @shutdown signal wasSuspended cause state shuts =>
    refine ⟨⟨cause, rfl, ?_⟩, fun after => absurd rfl after.1, unpended, unarmed⟩
    simp only [running, state] at word
    cases wasSuspended with
    | false =>
      have opening := mem_mul_mono (le_self_add : opened ≤ opened + paused) word
      cases shuts <;> exact mem_mul_of_answer opening rfl
    | true =>
      have pausing := mem_mul_mono (le_add_self : paused ≤ opened + paused) word
      cases shuts <;> exact mem_mul_of_answer pausing rfl
  | ended gateOpened =>
    refine ⟨⟨.naturalTuiEof, ?_, ?_⟩, fun after => absurd rfl after.2.1, unpended, unarmed⟩
    · rw [unended (unended_of_gateOpened gateOpened)]
      rfl
    · exact quiesced_le_ended _ (mem_mul_singleton (Or.inr (opened_of_gateOpened word gateOpened)))
  | exhausted state =>
    refine ⟨⟨_, rfl, ?_⟩, fun after => absurd rfl after.1, unpended, unarmed⟩
    simp only [running, state] at word
    exact mem_mul_singleton word
  | failed fails => cases unfailed
  | @reaped app tui worker session guardianExit disposition state valid =>
    refine ⟨?_, fun after => absurd rfl after.2.2.2.2, unpended, unarmed⟩
    simp only [running, state] at word
    obtain ⟨cause, known, mem⟩ := word
    exact ⟨cause, disposition, known, rfl,
      Language.append_mem_mul mem (validateTerminal_unfailed unfailed known valid)⟩

theorem orderly_beforeStart : Orderly [] .beforeStart where
  word := ⟨[], 1, 2, by decide, by decide, by decide, by decide, rfl⟩
  unended _ := rfl
  unpended := rfl
  unarmed := .inl rfl

/-- A transcript without an announced failure is a word of the protocol. -/
theorem orderly_of_transcript (h : w ∈ v.transcripts) (unfailed : v.failure = none) : Orderly w v := by
  refine Traces.Run.invariant (I := fun w v => v.failure = none → Orderly w v)
    (fun _ => orderly_beforeStart) ?_ h unfailed
  intro w v m v' past step unfailed
  cases step with
  | command accepted =>
    have step := TerminalLifecycleValidator.acceptCommand_cases accepted
    exact (past (step.failure ▸ unfailed)).acceptCommand step
  | event accepted =>
    have step := TerminalLifecycleValidator.acceptEvent_cases accepted
    exact (past (step.unfailed unfailed)).acceptEvent step unfailed
  | arm armed =>
    obtain ⟨none, inactive, window, rfl⟩ := TerminalLifecycleValidator.armRecoveryCommandRace_cases armed
    obtain ⟨word, unended, unpended, unarmed⟩ := past none
    rw [List.append_nil]
    exact ⟨word, unended, unpended, .inr ⟨window, rfl⟩⟩

/-! ## What the validator does not reject -/

/-- A validator of a session whose children run and that has met no failure. -/
def healthy (app : Int) (gate : Bool) (cause : Option SessionTerminationCause)
    (state : TerminalLifecycleState) : TerminalLifecycleValidator where
  state := state
  leaseCommitted := true
  appStarted := true
  tuiStarted := true
  appProcessGroup := some app
  gateEverOpened := gate
  supersededGateMayBePending := false
  recoveryCommandAllowance := .inactive
  failure := none
  terminationCause := cause
  terminalExitDisposition := none

variable {app : Int} {gateEver : Bool} {state next : TerminalLifecycleState}

/-- A command and its answer. -/
theorem exchange {t u : TerminalLifecycleValidator} {acceptance : TerminalCommandAcceptance}
    (sent : v.acceptCommand command = .ok (acceptance, t)) (answered : t.acceptEvent event = .ok u) :
    [Message.command command, Message.event event] ∈ Traces.between Transcribes v u :=
  Traces.cons_mem_between (.command sent) (Traces.mem_between_of_step (.event answered))

theorem accepts_resume {rows cols : CellCount} (valid : validateTerminalSize rows cols = .ok ()) :
    (healthy app true none .suspended).acceptCommand (.resume rows cols) =
      .ok (.applied, healthy app true none (.awaitResumed rows cols)) := by
  change ((do validateTerminalSize rows cols; pure (healthy app true none _)) >>= _) = _
  rw [valid]
  rfl

/-- After a failure the session is over. -/
def Shutting (state : TerminalLifecycleState) : Prop :=
  state = .failedAwaitQuiesced ∨ state = .quiesced ∨ state = .awaitRecoveryDisarmed ∨
    state = .recoveryDisarmed ∨ state = .terminal

theorem shutting_afterFailure (state : TerminalLifecycleState) : Shutting state.afterFailure := by
  cases state <;> simp [TerminalLifecycleState.afterFailure, Shutting]

/-- What a failure and an exit disposition say of the state. -/
structure Settled (v : TerminalLifecycleValidator) : Prop where
  failed : v.failure ≠ none → Shutting v.state
  exited : v.terminalExitDisposition ≠ none → v.state = .terminal

theorem Settled.acceptCommand {acceptance : TerminalCommandAcceptance} (settled : Settled v)
    (step : CommandStep v command acceptance v') : Settled v' := by
  obtain ⟨failed, exited⟩ := settled
  cases step with
  | moves move =>
    generalize v.state = state at move failed exited
    constructor
    · intro announced
      have shutting := failed announced
      cases move <;> simp [Shutting] at shutting
    · intro reported
      rw [exited reported] at move
      cases move
  | stop stoppable =>
    generalize v.state = state at stoppable failed exited
    constructor
    · intro announced
      have shutting := failed announced
      cases stoppable <;> simp [Shutting] at shutting
    · intro reported
      rw [exited reported] at stoppable
      cases stoppable
  | late => exact ⟨failed, exited⟩
  | gate => exact ⟨failed, exited⟩
  | restored quiesced settled =>
    refine ⟨fun _ => by simp [Shutting], fun reported => ?_⟩
    rw [exited reported] at quiesced
    cases quiesced
  | superseded => exact ⟨failed, exited⟩

theorem Settled.acceptEvent (settled : Settled v) (step : EventStep v event v') : Settled v' := by
  obtain ⟨failed, exited⟩ := settled
  cases step with
  | moves move =>
    generalize v.state = state at move failed exited
    constructor
    · intro announced
      have shutting := failed announced
      cases move <;> simp [Shutting] at shutting ⊢
    · intro reported
      rw [exited reported] at move
      cases move
  | lease state | app state | tui state | gate state | shutdown state | exhausted state =>
    rw [state] at failed exited
    refine ⟨fun announced => ?_, fun reported => absurd (exited reported) (by simp)⟩
    have shutting := failed announced
    simp [Shutting] at shutting
  | ended gateOpened =>
    refine ⟨fun _ => by simp [Shutting], fun reported => ?_⟩
    rw [exited reported] at gateOpened
    cases gateOpened
  | failed fails =>
    exact ⟨fun _ => shutting_afterFailure v.state, fun reported => absurd (exited reported) fails.ongoing.1⟩
  | reaped => exact ⟨fun _ => by simp [Shutting], fun _ => rfl⟩

theorem inputGateOpened_iff : v.inputGateOpened ↔ GateOpened v.state := by
  unfold TerminalLifecycleValidator.inputGateOpened
  constructor
  · intro opened
    split at opened
    · rename_i state
      exact state ▸ .active
    · rename_i state
      exact state ▸ .signal _ (.inl rfl)
    · rename_i state
      exact state ▸ .signal _ (.inr rfl)
    · rename_i state
      exact state ▸ .resize _ _
    · cases opened
  · intro opened
    generalize v.state = state at opened
    cases opened with
    | active | resize => rfl
    | signal signal interactive => obtain rfl | rfl := interactive <;> rfl

end Transcript

end Calcifer.Supervisor
