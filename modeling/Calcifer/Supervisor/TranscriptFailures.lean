import Calcifer.Supervisor.Transcript

/-!
# Transcripts with a failure

A failure is announced once. The session before it is the beginning of an orderly one, and the shutdown
after it has the same four steps. `failed_transcript` says where the failure can stand, what the guardian
may still read of the commands that it crossed, and which reports it leaves room for.
-/

open scoped Computability

namespace Calcifer.Supervisor.Transcript

/-- A failure. -/
abbrev Failure : Type := Phase × FailureCode

/-- A failure after which the guardian may not report an exit: its cleanup or the restored terminal are
in doubt. -/
def Unreportable (failure : Failure) : Prop :=
  (failure.1 = .cleanup ∨ failure.1 = .restore) ∨
    failure.2 = .cleanupMismatch ∨ failure.2 = .restore

def announced (failure : Failure) : Language Message := {[.event (.failed failure.1 failure.2)]}

/-- The beginning of an orderly session, from its start to before its terminal is quiesced. -/
def begun : Language Message :=
  {w | 2 ≤ w.length ∧ ∃ rest cause, w ++ rest ∈ ordered cause + unordered cause}

/-- A transcript of a quiesced terminal, whatever its end was. -/
def quiescent : Language Message := {w | ∃ cause, w ∈ ended cause}

/-- The one command that a recovery request can cross. -/
def race : Language Message :=
  {w | ∃ window command, TerminalLifecycleValidator.recoveryAllows window command = .ok true ∧
    w = [.command command]}

/-- The commands that are read and discarded after a failure, by the slot that is left. -/
def late (allowance : RecoveryCommandAllowance) (gatePending : Bool) : Language Message :=
  match allowance with
  | .inactive =>
    if gatePending then control∗ else control∗ * (1 + {[.command .openInputGate]}) * control∗
  | .awaitingFailure _ => 0
  | .armed _ => 1
  | .consumed => race

/-- All that can be discarded. Only an internal failure of the protocol is one of a recovery request. -/
def discarded (failure : Failure) : Language Message :=
  control∗ * (1 + {[.command .openInputGate]}) * control∗ +
    if failure = (.protocol, .internal) then 1 + race else 0

/-- The transcripts of a quiesced terminal with a failure, up to the commands that are discarded. -/
def interrupted (failure : Failure) : Language Message :=
  begun * announced failure * {[.event .terminalQuiesced]} + quiescent * announced failure

/-- The transcripts of a restored terminal with a failure. -/
def restored (failure : Failure) : Language Message :=
  interrupted failure * discarded failure * {[.command .terminalRestored]} +
    quiescent * {[.command .terminalRestored]} * announced failure

/-- The transcripts of a disarmed recovery with a failure. A failed join of the worker is the only one
that is still announced then. -/
def disarmed (failure : Failure) : Language Message :=
  restored failure * {[.event .terminalRecoveryDisarmed]} +
    if failure = (.worker, .worker) then
      quiescent * {[.command .terminalRestored]} * {[.event .terminalRecoveryDisarmed]} *
        announced failure
    else 0

/-- What the slot of the recovery race and a failure say of each other. -/
def SlotFits (failure : Failure) (allowance : RecoveryCommandAllowance) : Prop :=
  allowance = .inactive ∨ ((∃ window, allowance = .armed window) ∨ allowance = .consumed) ∧
    failure = (.protocol, .internal)

/-- No command has used the slot yet. -/
def Unraced (allowance : RecoveryCommandAllowance) : Prop :=
  allowance = .inactive ∨ ∃ window, allowance = .armed window

/-- The transcripts of a failed session in a state. -/
def failing (v : TerminalLifecycleValidator) (failure : Failure) : Language Message :=
  match v.state with
  | .failedAwaitQuiesced => {w | Unraced v.recoveryCommandAllowance ∧ w ∈ begun * announced failure}
  | .quiesced => interrupted failure * late v.recoveryCommandAllowance v.supersededGateMayBePending
  | .awaitRecoveryDisarmed => restored failure
  | .recoveryDisarmed => disarmed failure
  | .terminal => {w | ∃ app tui worker, v.terminalExitDisposition = some .internalFailure ∧
      ¬Unreportable failure ∧ (v.appStarted ↔ app ≠ .notStarted) ∧ (v.tuiStarted ↔ tui ≠ .notStarted) ∧
      (worker = .notStarted → tui = .notStarted) ∧ w ∈ disarmed failure *
        {[.event (.childrenReaped app tui worker .complete .failed .internalFailure)]}}
  | _ => 0

/-- What is known of a validator that has seen a failure. -/
structure Failing (w : List Message) (v : TerminalLifecycleValidator) (failure : Failure) : Prop where
  failed : v.failure = some failure
  word : w ∈ failing v failure
  slot : SlotFits failure v.recoveryCommandAllowance

variable {v v' : TerminalLifecycleValidator} {w : List Message} {event : GuardianEvent}
  {command : CoordinatorCommand} {failure : Failure}

theorem control_le_discarded :
    control∗ ≤ control∗ * (1 + {[.command .openInputGate]}) * control∗ := by
  have front : control∗ ≤ control∗ * (1 + {[.command .openInputGate]}) :=
    le_mul_of_one_le_right' le_self_add
  exact front.trans (le_mul_of_one_le_right' one_le_kstar)

theorem late_le_discarded {allowance : RecoveryCommandAllowance} {gatePending : Bool}
    (fits : SlotFits failure allowance) : late allowance gatePending ≤ discarded failure := by
  obtain rfl | ⟨⟨window, rfl⟩ | rfl, rfl⟩ := fits
  · refine le_trans ?_ le_self_add
    cases gatePending with
    | false => exact le_rfl
    | true => exact control_le_discarded
  · exact le_trans le_self_add le_add_self
  · exact le_trans le_add_self le_add_self

/-! ## The beginnings of orderly sessions -/

theorem length_ready (h : w ∈ ready) : 2 ≤ w.length := by
  obtain ⟨a, ⟨_, snapshot, app, tui, _, _, _, _, rfl⟩, b, _, rfl⟩ := Language.mem_mul.1 h
  simp [bootstrap]

theorem length_opened (h : w ∈ opened) : 2 ≤ w.length := by
  rw [opened, mul_assoc] at h
  obtain ⟨a, first, b, _, rfl⟩ := Language.mem_mul.1 h
  have := length_ready first
  rw [List.length_append]
  omega

theorem length_paused (h : w ∈ paused) : 2 ≤ w.length := by
  rw [paused, mul_assoc] at h
  obtain ⟨a, first, b, _, rfl⟩ := Language.mem_mul.1 h
  have := length_opened first
  rw [List.length_append]
  omega

/-- A started session can be stopped. -/
theorem stop_mem_ordered (h : w ∈ ready ∨ w ∈ opened ∨ w ∈ paused) :
    w ++ [.command .stop] ∈ ordered .coordinatorStop := by
  obtain ready | opened | paused := h
  · exact mem_mul_singleton (Or.inl (Or.inl ready))
  · exact mem_mul_singleton (Or.inl (Or.inr opened))
  · exact mem_mul_singleton (Or.inr paused)

/-- What an orderly session begins with when it can still go on to be stopped. -/
theorem begun_of_stop (rest : List Message) (long : 2 ≤ w.length)
    (h : w ++ rest ∈ ready ∨ w ++ rest ∈ opened ∨ w ++ rest ∈ paused) : w ∈ begun := by
  refine ⟨long, rest ++ [.command .stop], .coordinatorStop, Or.inl ?_⟩
  rw [← List.append_assoc]
  exact stop_mem_ordered h

theorem begun_of_startup {group : Option Int} {n : Nat} (h : w ∈ startup group n) (two : 2 ≤ n) :
    w ∈ begun := by
  obtain ⟨snapshot, app, tui, appGroup, tuiGroup, other, _, rfl⟩ := h
  refine begun_of_stop ((bootstrap snapshot app tui).drop n) ?_ (.inl ?_)
  · simp [bootstrap]
    omega
  · rw [List.take_append_drop]
    exact started_le_ready ⟨some app, snapshot, app, tui, appGroup, tuiGroup, other, fun _ => rfl, rfl⟩

theorem length_mul {l m : Language Message} (long : ∀ w ∈ l, 2 ≤ w.length) (h : w ∈ l * m) :
    2 ≤ w.length := by
  obtain ⟨a, first, b, _, rfl⟩ := Language.mem_mul.1 h
  have := long a first
  rw [List.length_append]
  omega

theorem begun_of_ordered {cause : SessionTerminationCause} (h : w ∈ ordered cause) : w ∈ begun := by
  refine ⟨?_, [], cause, Or.inl (by rwa [List.append_nil])⟩
  cases cause with
  | naturalTuiEof => exact absurd h (Language.notMem_zero w)
  | coordinatorStop =>
    refine length_mul ?_ h
    rintro w ((ready | opened) | paused)
    · exact length_ready ready
    · exact length_opened opened
    · exact length_paused paused
  | usageExhaustion => exact length_mul (fun _ => length_opened) h
  | forwardedHup | forwardedTerm =>
    refine length_mul ?_ h
    rintro w (opened | paused)
    · exact length_opened opened
    · exact length_paused paused

/-- A signal that is on its way shuts the session down, is superseded or is answered. -/
theorem begun_of_signal {signal : UnixSignal}
    (h : w ∈ opened * {[.command (.signal signal)]} ∨ w ∈ paused * {[.command (.signal signal)]}) :
    w ∈ begun := by
  have either : w ∈ (opened + paused) * {[.command (.signal signal)]} := by
    obtain opening | pausing := h
    · exact mem_mul_mono le_self_add opening
    · exact mem_mul_mono le_add_self pausing
  have long : 2 ≤ w.length := by
    refine length_mul ?_ either
    rintro w (opened | paused)
    · exact length_opened opened
    · exact length_paused paused
  cases signal with
  | hup =>
    exact ⟨long, [.event (.signalForwarded .hup)], .forwardedHup, Or.inl (mem_mul_of_answer either rfl)⟩
  | term =>
    exact ⟨long, [.event (.signalForwarded .term)], .forwardedTerm,
      Or.inl (mem_mul_of_answer either rfl)⟩
  | int =>
    refine begun_of_stop [.event (.signalForwarded .int)] long (.inr ?_)
    obtain opening | pausing := h
    · exact .inl (opened_mul_signalled (mem_mul_of_answer opening ⟨.int, .inl rfl, rfl⟩))
    · exact .inr (paused_mul_signalled (mem_mul_of_answer pausing ⟨.int, .inl rfl, rfl⟩))
  | quit =>
    refine begun_of_stop [.event (.signalForwarded .quit)] long (.inr ?_)
    obtain opening | pausing := h
    · exact .inl (opened_mul_signalled (mem_mul_of_answer opening ⟨.quit, .inr rfl, rfl⟩))
    · exact .inr (paused_mul_signalled (mem_mul_of_answer pausing ⟨.quit, .inr rfl, rfl⟩))

theorem begun_of_running (h : w ∈ running v)
    (past : v.state ≠ .awaitLeaseBeforeStart ∧ v.state ≠ .awaitStart)
    (serving : v.state.afterFailure = .failedAwaitQuiesced) (ongoing : v.state ≠ .terminal) :
    w ∈ begun := by
  rw [running] at h
  generalize v.state = state at h past serving ongoing
  cases state with
  | awaitLeaseBeforeStart => exact absurd rfl past.1
  | awaitStart => exact absurd rfl past.2
  | awaitTerminalArmed | awaitTerminalArmAcceptance | awaitApp | awaitAppDescriptorVerification
  | awaitTui | awaitTuiDescriptorVerification | awaitReady =>
    exact begun_of_startup h (by decide)
  | readyForGate =>
    exact begun_of_stop [] (length_ready h) (.inl (by rwa [List.append_nil]))
  | awaitGateOpened =>
    exact begun_of_stop [.event .inputGateOpened] (length_mul (fun _ => length_ready) h)
      (.inr (.inl (ready_mul_gate (mem_mul_of_answer h rfl))))
  | active =>
    exact begun_of_stop [] (length_opened h) (.inr (.inl (by rwa [List.append_nil])))
  | awaitSignalForwarded signal wasSuspended =>
    cases wasSuspended with
    | false => exact begun_of_signal (.inl h)
    | true => exact begun_of_signal (.inr h)
  | awaitResizeApplied rows cols =>
    exact begun_of_stop [.event (.resizeApplied rows cols)]
      (length_mul (fun _ => length_opened) h.2)
      (.inr (.inl (opened_mul_resized (mem_mul_of_answer h.2 ⟨rows, cols, h.1, rfl⟩))))
  | awaitSuspended =>
    exact begun_of_stop [.event .suspended] (length_mul (fun _ => length_opened) h)
      (.inr (.inr (opened_mul_suspension (mem_mul_of_answer h rfl))))
  | suspended =>
    exact begun_of_stop [] (length_paused h) (.inr (.inr (by rwa [List.append_nil])))
  | awaitResumed rows cols =>
    exact begun_of_stop [.event (.resumed rows cols)]
      (length_mul (fun _ => length_paused) h.2)
      (.inl (paused_mul_resumption (mem_mul_of_answer h.2 ⟨rows, cols, h.1, rfl⟩)))
  | awaitQuiesced =>
    obtain ⟨cause, _, mem⟩ := h
    exact begun_of_ordered mem
  | failedAwaitQuiesced => exact absurd h (Language.notMem_zero w)
  | quiesced | awaitRecoveryDisarmed | recoveryDisarmed => cases serving
  | terminal => exact absurd rfl ongoing

/-! ## Runs with a failure -/

theorem afterFailure_cases (state : TerminalLifecycleState) :
    state.afterFailure = .failedAwaitQuiesced ∨ state = .quiesced ∨ state = .awaitRecoveryDisarmed ∨
      state = .recoveryDisarmed := by
  cases state <;> simp [TerminalLifecycleState.afterFailure]

theorem unraced_afterFailure {phase : Phase} {code : FailureCode} (fails : v.Fails phase code) :
    Unraced v.recoveryCommandAllowance.afterFailure := by
  obtain inactive | ⟨⟨window, awaiting⟩, _⟩ := fails.slot
  · exact .inl (by rw [inactive]; rfl)
  · exact .inr ⟨window, by rw [awaiting]; rfl⟩

theorem slotFits_afterFailure {phase : Phase} {code : FailureCode} (fails : v.Fails phase code) :
    SlotFits (phase, code) v.recoveryCommandAllowance.afterFailure := by
  obtain inactive | ⟨⟨window, awaiting⟩, rfl, rfl⟩ := fails.slot
  · exact .inl (by rw [inactive]; rfl)
  · exact .inr ⟨.inl ⟨window, by rw [awaiting]; rfl⟩, rfl⟩

/-- Right after a failure nothing is discarded yet. -/
theorem nil_mem_late {allowance : RecoveryCommandAllowance} {gatePending : Bool}
    (unraced : Unraced allowance) : [] ∈ late allowance gatePending := by
  obtain rfl | ⟨window, rfl⟩ := unraced
  · cases gatePending with
    | false => exact control_le_discarded (Language.nil_mem_kstar _)
    | true => exact Language.nil_mem_kstar _
  · rfl

/-- A failure interrupts an orderly transcript where it stands. -/
theorem Orderly.fail {phase : Phase} {code : FailureCode} (orderly : Orderly w v)
    (fails : v.Fails phase code) : Failing (w ++ [.event (.failed phase code)]) { v with
      supersededGateMayBePending := v.state = .readyForGate ∧ v.recoveryCommandAllowance = .inactive
      recoveryCommandAllowance := v.recoveryCommandAllowance.afterFailure
      failure := some (phase, code)
      state := v.state.afterFailure } (phase, code) := by
  refine ⟨rfl, ?_, slotFits_afterFailure fails⟩
  have word := orderly.word
  obtain serving | quiesced | restored | disarmed := afterFailure_cases v.state
  · simp only [failing, serving]
    exact ⟨unraced_afterFailure fails,
      mem_mul_singleton (begun_of_running word fails.begun serving fails.ongoing.1)⟩
  · simp only [running, quiesced] at word
    obtain ⟨cause, _, mem⟩ := word
    simp only [failing, quiesced, TerminalLifecycleState.afterFailure]
    exact Language.mem_mul.2 ⟨_, Or.inr (mem_mul_singleton ⟨cause, mem⟩), [],
      nil_mem_late (unraced_afterFailure fails), List.append_nil _⟩
  · simp only [running, restored] at word
    obtain ⟨cause, _, mem⟩ := word
    simp only [failing, restored, TerminalLifecycleState.afterFailure]
    exact Or.inr (mem_mul_singleton (mem_mul_mono (fun _ mem => ⟨cause, mem⟩) mem))
  · simp only [running, disarmed] at word
    obtain ⟨cause, _, mem⟩ := word
    simp only [failing, disarmed, TerminalLifecycleState.afterFailure]
    obtain ⟨rfl, rfl⟩ := fails.worker disarmed
    refine Or.inr ?_
    rw [if_pos rfl]
    have quiet : ended cause * {[.command .terminalRestored]} ≤
        quiescent * {[.command .terminalRestored]} :=
      fun _ mem => mem_mul_mono (fun _ mem => ⟨cause, mem⟩) mem
    exact mem_mul_singleton (mem_mul_mono quiet mem)

theorem control_concat (h : w ∈ control∗) (interactive : Interactive command) :
    w ++ [.command command] ∈ control∗ := by
  have closed : control∗ * control ≤ control∗ := kstar_mul_le_kstar
  exact closed (Language.append_mem_mul h ⟨command, interactive, rfl⟩)

/-- A control that crossed the end is discarded. -/
theorem late_control {gatePending : Bool} (h : w ∈ late .inactive gatePending)
    (interactive : Interactive command) : w ++ [.command command] ∈ late .inactive gatePending := by
  cases gatePending with
  | true => exact control_concat h interactive
  | false =>
    simp only [late, Bool.false_eq_true, if_false] at h ⊢
    obtain ⟨a, first, b, controls, rfl⟩ := Language.mem_mul.1 h
    rw [List.append_assoc]
    exact Language.append_mem_mul first (control_concat controls interactive)

/-- The gate that the failure crossed is discarded once. -/
theorem late_gate (h : w ∈ late .inactive true) :
    w ++ [.command .openInputGate] ∈ late .inactive false := by
  refine Language.mem_mul.2 ⟨_, ?_, [], Language.nil_mem_kstar _, List.append_nil _⟩
  exact Language.append_mem_mul h (Or.inr rfl)

theorem mem_mul_step {l m m' : Language Message} {a : List Message} (h : w ∈ l * m)
    (step : ∀ b ∈ m, b ++ a ∈ m') : w ++ a ∈ l * m' := by
  obtain ⟨u, first, b, second, rfl⟩ := Language.mem_mul.1 h
  rw [List.append_assoc]
  exact Language.append_mem_mul first (step b second)

theorem Failing.acceptCommand {acceptance : TerminalCommandAcceptance} (failing : Failing w v failure)
    (step : CommandStep v command acceptance v') : Failing (w ++ [.command command]) v' failure := by
  obtain ⟨failed, word, slot⟩ := failing
  cases step with
  | moves move =>
    simp only [Transcript.failing] at word
    generalize v.state = state at move word
    cases move <;> exact absurd word (Language.notMem_zero w)
  | stop stoppable =>
    simp only [Transcript.failing] at word
    generalize v.state = state at stoppable word
    cases stoppable <;> exact absurd word (Language.notMem_zero w)
  | late quiesced inactive interactive =>
    refine ⟨failed, ?_, slot⟩
    simp only [Transcript.failing, quiesced, inactive] at word ⊢
    exact mem_mul_step word fun _ before => late_control before interactive
  | gate quiesced inactive pending =>
    refine ⟨failed, ?_, slot⟩
    simp only [Transcript.failing, quiesced, inactive, pending] at word ⊢
    exact mem_mul_step word fun _ before => late_gate before
  | restored quiesced settled =>
    refine ⟨failed, Or.inl (mem_mul_singleton ?_), .inl rfl⟩
    simp only [Transcript.failing, quiesced] at word
    obtain ⟨a, first, b, second, rfl⟩ := Language.mem_mul.1 word
    exact Language.append_mem_mul first (late_le_discarded slot second)
  | @superseded command window quiesced armed allows =>
    rw [armed] at slot
    obtain unarmed | ⟨_, internal⟩ := slot
    · cases unarmed
    · refine ⟨failed, ?_, .inr ⟨.inr rfl, internal⟩⟩
      simp only [Transcript.failing, quiesced, armed] at word ⊢
      refine mem_mul_step word ?_
      rintro _ rfl
      exact ⟨window, command, allows, rfl⟩

/-- The reports that a failure leaves room for. -/
theorem validateTerminal_failed {app tui : ChildDisposition} {worker : WorkerJoinStatus}
    {session : SessionStatus} {guardianExit disposition : GuardianExitDisposition}
    (failed : v.failure = some failure)
    (valid : v.validateTerminal app tui worker session guardianExit = .ok disposition) :
    ¬Unreportable failure ∧ (v.appStarted ↔ app ≠ .notStarted) ∧ (v.tuiStarted ↔ tui ≠ .notStarted) ∧
      (worker = .notStarted → tui = .notStarted) ∧ session = .failed ∧
      guardianExit = .internalFailure ∧ disposition = .internalFailure := by
  obtain ⟨phase, code⟩ := failure
  unfold TerminalLifecycleValidator.validateTerminal at valid
  simp only [failed] at valid
  split at valid
  · cases valid
  · split at valid
    · cases valid
    · split at valid
      · cases valid
      · split at valid
        · cases valid
        · rename_i announced working reportable fits
          simp only [not_or, not_not] at announced fits
          cases valid
          refine ⟨reportable, ?_, ?_, ?_, fits.1, fits.2, fits.2⟩
          · rw [← announced.1, decide_eq_true_iff]
          · rw [← announced.2, decide_eq_true_iff]
          · intro unstarted
            by_contra running
            exact working ⟨unstarted, .inl (decide_eq_true running)⟩

theorem Failing.acceptEvent (failing : Failing w v failure) (step : EventStep v event v') :
    Failing (w ++ [.event event]) v' failure := by
  obtain ⟨failed, word, slot⟩ := failing
  cases step with
  | moves move =>
    refine ⟨failed, ?_, slot⟩
    simp only [Transcript.failing] at word ⊢
    generalize v.state = state at move word
    cases move with
    | failedQuiesced =>
      obtain ⟨unraced, mem⟩ := word
      exact Language.mem_mul.2 ⟨_, Or.inl (mem_mul_singleton mem), [], nil_mem_late unraced,
        List.append_nil _⟩
    | disarmed => exact Or.inl (mem_mul_singleton word)
    | _ => exact absurd word (Language.notMem_zero w)
  | lease state | app state | tui state | gate state | shutdown state | exhausted state =>
    simp only [Transcript.failing, state] at word
    exact absurd word (Language.notMem_zero w)
  | ended gateOpened =>
    simp only [Transcript.failing] at word
    generalize v.state = state at gateOpened word
    cases gateOpened <;> exact absurd word (Language.notMem_zero w)
  | failed fails =>
    rw [fails.first] at failed
    cases failed
  | reaped state valid =>
    obtain ⟨reportable, app, tui, worker, rfl, rfl, rfl⟩ := validateTerminal_failed failed valid
    simp only [Transcript.failing, state] at word
    exact ⟨failed, ⟨_, _, _, rfl, reportable, app, tui, worker, mem_mul_singleton word⟩, slot⟩

/-- What is known of a transcript, with or without a failure. -/
structure Known (w : List Message) (v : TerminalLifecycleValidator) : Prop where
  orderly : v.failure = none → Orderly w v
  failing : ∀ failure, v.failure = some failure → Failing w v failure

theorem Known.acceptEvent (known : Known w v) (step : EventStep v event v') :
    Known (w ++ [.event event]) v' := by
  refine ⟨fun unfailed => (known.orderly (step.unfailed unfailed)).acceptEvent step unfailed, ?_⟩
  intro failure announced
  cases failed : v.failure with
  | some earlier =>
    have kept := (known.failing earlier failed).acceptEvent step
    cases announced.symm.trans kept.failed
    exact kept
  | none =>
    cases step with
    | failed fails =>
      cases announced
      exact (known.orderly failed).fail fails
    | _ =>
      rw [failed] at announced
      cases announced

end Calcifer.Supervisor.Transcript
