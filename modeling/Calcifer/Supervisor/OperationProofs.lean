import Calcifer.Library.Checks
import Calcifer.Library.Machine
import Calcifer.Supervisor.Duplex

/-!
# The operation proofs of the guardian

A guardian acts on a command only with the proof that its receiver leaves behind for it. `call` makes
the receiver a machine of its methods, with every method that takes a proof. In a run that accepts
no command only to discard it (`Discards`), every proof taken is fresh (`FreshProof`): it belongs to
the receipt that the transcript made last, and that receipt made the transition of its command.

A quiesced validator accepts a resize or an open gate that it does not apply, and reports both as
applied; the receiver then leaves a proof behind all the same.
-/

namespace Calcifer.Supervisor

open Machine

/-! ## The methods of the receiver -/

namespace GuardianCommandReceiver

def takeVerifiedInitialOpenGateCommand (r : GuardianCommandReceiver) :
    Except ProtocolError Unit × GuardianCommandReceiver :=
  r.take (.openGate .initial)

def takeVerifiedResumeOpenGateCommand (r : GuardianCommandReceiver) :
    Except ProtocolError Unit × GuardianCommandReceiver :=
  r.take (.openGate .resume)

def takeVerifiedSuspendCommand (r : GuardianCommandReceiver) :
    Except ProtocolError Unit × GuardianCommandReceiver :=
  r.take .suspend

/-- The proof of a resume tells its size. -/
def takeVerifiedResumeCommand (r : GuardianCommandReceiver) :
    Except ProtocolError (CellCount × CellCount) × GuardianCommandReceiver :=
  match r.pending with
  | some (.resume rows cols) =>
    if r.poisoned then (.error .unexpectedState, { r with pending := none })
    else (.ok (rows, cols), { r with pending := none })
  | _ => (.error .unexpectedState, r)

/-- The proof of a resize tells its size. -/
def takeVerifiedResizeCommand (r : GuardianCommandReceiver) :
    Except ProtocolError (CellCount × CellCount) × GuardianCommandReceiver :=
  match r.pending with
  | some (.resize rows cols) =>
    if r.poisoned then (.error .unexpectedState, { r with pending := none })
    else (.ok (rows, cols), { r with pending := none })
  | _ => (.error .unexpectedState, r)

def takeVerifiedTerminalRestoredCommand (r : GuardianCommandReceiver) :
    Except ProtocolError Unit × GuardianCommandReceiver :=
  r.take .terminalRestored

end GuardianCommandReceiver

/-- A method of the receiver. What is received is what the wire holds, or the error of reading it. -/
inductive ReceiverCall where
  | receive (input : Except ProtocolError CoordinatorCommand)
  | recordEvent (event : GuardianEvent)
  | armRecoveryCommandRace
  | takeVerifiedInitialOpenGateCommand
  | takeVerifiedResumeOpenGateCommand
  | takeVerifiedSuspendCommand
  | takeVerifiedResumeCommand
  | takeVerifiedResizeCommand
  | takeVerifiedTerminalRestoredCommand
  | takeVerifiedExitDisposition

/-- What a method returns when it succeeds. -/
inductive ReceiverReply where
  | command (command : CoordinatorCommand)
  | done
  | proof (proof : PendingProof)
  | exitDisposition (disposition : GuardianExitDisposition)
deriving DecidableEq, Repr

/-- The methods that advance the transcript; the others take a proof. -/
def ReceiverCall.Advances : ReceiverCall → Prop
  | .receive _ | .recordEvent _ | .armRecoveryCommandRace => True
  | _ => False

namespace GuardianCommandReceiver

def call (r : GuardianCommandReceiver) :
    ReceiverCall → Except ProtocolError ReceiverReply × GuardianCommandReceiver
  | .receive input => ((r.receive input).1.map .command, (r.receive input).2)
  | .recordEvent event => ((r.recordEvent event).1.map fun _ => .done, (r.recordEvent event).2)
  | .armRecoveryCommandRace =>
    (r.armRecoveryCommandRace.1.map fun _ => .done, r.armRecoveryCommandRace.2)
  | .takeVerifiedInitialOpenGateCommand =>
    (r.takeVerifiedInitialOpenGateCommand.1.map fun _ => .proof (.openGate .initial),
      r.takeVerifiedInitialOpenGateCommand.2)
  | .takeVerifiedResumeOpenGateCommand =>
    (r.takeVerifiedResumeOpenGateCommand.1.map fun _ => .proof (.openGate .resume),
      r.takeVerifiedResumeOpenGateCommand.2)
  | .takeVerifiedSuspendCommand =>
    (r.takeVerifiedSuspendCommand.1.map fun _ => .proof .suspend, r.takeVerifiedSuspendCommand.2)
  | .takeVerifiedResumeCommand =>
    (r.takeVerifiedResumeCommand.1.map fun size => .proof (.resume size.1 size.2),
      r.takeVerifiedResumeCommand.2)
  | .takeVerifiedResizeCommand =>
    (r.takeVerifiedResizeCommand.1.map fun size => .proof (.resize size.1 size.2),
      r.takeVerifiedResizeCommand.2)
  | .takeVerifiedTerminalRestoredCommand =>
    (r.takeVerifiedTerminalRestoredCommand.1.map fun _ => .proof .terminalRestored,
      r.takeVerifiedTerminalRestoredCommand.2)
  | .takeVerifiedExitDisposition =>
    (r.takeVerifiedExitDisposition.1.map .exitDisposition, r.takeVerifiedExitDisposition.2)

end GuardianCommandReceiver

abbrev ReceiverStep : Type :=
  Step GuardianCommandReceiver ReceiverCall (Except ProtocolError ReceiverReply)

/-- The steps of a run from a new receiver of the terminal protocol. -/
def transcript (calls : List ReceiverCall) : List ReceiverStep :=
  history GuardianCommandReceiver.call .newTerminal calls

/-- Where that run ends. -/
def receiverAfter (calls : List ReceiverCall) : GuardianCommandReceiver :=
  final GuardianCommandReceiver.call .newTerminal calls

/-! ## Fresh proofs -/

/-- The command that a proof is about. -/
def PendingProof.command : PendingProof → CoordinatorCommand
  | .openGate _ => .openInputGate
  | .suspend => .suspend
  | .resume rows cols => .resume rows cols
  | .resize rows cols => .resize rows cols
  | .terminalRestored => .terminalRestored

/-- The transition of the command that a proof is about. -/
def PendingProof.Moves : PendingProof → TerminalLifecycleState → TerminalLifecycleState → Prop
  | .openGate _, s, s' => s = .readyForGate ∧ s' = .awaitGateOpened
  | .suspend, s, s' => s = .active ∧ s' = .awaitSuspended
  | .resume rows cols, s, s' => s = .suspended ∧ s' = .awaitResumed rows cols
  | .resize rows cols, s, s' => s = .active ∧ s' = .awaitResizeApplied rows cols
  | .terminalRestored, s, s' => s = .quiesced ∧ s' = .awaitRecoveryDisarmed

/-- The step received the command of the proof and made its transition. -/
structure ReceiptOf (proof : PendingProof) (step : ReceiverStep) : Prop where
  input : step.input = .receive (.ok proof.command)
  output : step.output = .ok (.command proof.command)
  moves : proof.Moves step.before.terminal.state step.after.terminal.state

/-- The last step that advanced the transcript is the receipt of the proof's command, and no proof was
taken since. -/
def JustReceived (proof : PendingProof) (past : List ReceiverStep) : Prop :=
  ∃ earlier receipt takes, past = earlier ++ receipt :: takes ∧ ReceiptOf proof receipt ∧
    ∀ take ∈ takes, ¬take.input.Advances ∧ ∀ other, take.output ≠ .ok (.proof other)

/-- The states from the quiescence of the terminal on. -/
def TerminalLifecycleState.Quieted : TerminalLifecycleState → Prop
  | .quiesced | .awaitRecoveryDisarmed | .recoveryDisarmed | .terminal => True
  | _ => False

/-- What a proof of an operation that a step took after a past guarantees. -/
structure FreshProof (past : List ReceiverStep) (step : ReceiverStep) (proof : PendingProof) :
    Prop where
  received : JustReceived proof past
  unquieted : ¬step.before.terminal.state.Quieted
  gateUnopened : proof = .openGate .initial →
    ∀ earlier ∈ past, earlier.input = .recordEvent .inputGateOpened → earlier.output ≠ .ok .done

/-- Every proof of an operation that a run takes is fresh. -/
def ProofsFresh (steps : List ReceiverStep) : Prop :=
  ∀ past step later proof, steps = past ++ step :: later → step.output = .ok (.proof proof) →
    proof ≠ .terminalRestored → FreshProof past step proof

/-- A quiesced validator accepts the command without applying it. -/
def TerminalLifecycleValidator.Discards (v : TerminalLifecycleValidator) : CoordinatorCommand → Prop
  | .resize rows cols =>
    v.state = .quiesced ∧ v.recoveryCommandAllowance = .inactive ∧ rows ≠ 0 ∧ cols ≠ 0
  | .openInputGate =>
    v.state = .quiesced ∧ v.recoveryCommandAllowance = .inactive ∧ v.supersededGateMayBePending
  | _ => False

/-- The receiver receives a command that its validator only discards. -/
def GuardianCommandReceiver.Discards (r : GuardianCommandReceiver) : ReceiverCall → Prop
  | .receive (.ok command) => r.poisoned = false ∧ r.terminal.Discards command
  | _ => False

instance (v : TerminalLifecycleValidator) : DecidablePred v.Discards
  | .resize rows cols => inferInstanceAs (Decidable (v.state = .quiesced ∧
      v.recoveryCommandAllowance = .inactive ∧ rows ≠ 0 ∧ cols ≠ 0))
  | .openInputGate => inferInstanceAs (Decidable (v.state = .quiesced ∧
      v.recoveryCommandAllowance = .inactive ∧ v.supersededGateMayBePending))
  | .start | .terminalArmAccepted | .childDescriptorsVerified _ | .stop | .signal _ | .suspend
  | .resume _ _ | .terminalRestored => .isFalse id

instance (r : GuardianCommandReceiver) : DecidablePred r.Discards
  | .receive (.ok command) =>
    inferInstanceAs (Decidable (r.poisoned = false ∧ r.terminal.Discards command))
  | .receive (.error _) | .recordEvent _ | .armRecoveryCommandRace
  | .takeVerifiedInitialOpenGateCommand | .takeVerifiedResumeOpenGateCommand
  | .takeVerifiedSuspendCommand | .takeVerifiedResumeCommand | .takeVerifiedResizeCommand
  | .takeVerifiedTerminalRestoredCommand | .takeVerifiedExitDisposition => .isFalse id

/-! ## What the validator accepts -/

section

open Checks TerminalLifecycleValidator

variable {v v' : TerminalLifecycleValidator} {command : CoordinatorCommand} {proof : PendingProof}

theorem validateTerminalSize_eq_ok {rows cols : CellCount} :
    validateTerminalSize rows cols = .ok () ↔ rows ≠ 0 ∧ cols ≠ 0 := by
  unfold validateTerminalSize
  by_cases zero : rows = 0 ∨ cols = 0
  · rw [if_pos zero]
    exact ⟨fun h => (by cases h), fun h => absurd zero (not_or.2 h)⟩
  · rw [if_neg zero]
    exact ⟨fun _ => not_or.1 zero, fun _ => rfl⟩

theorem acceptRecoverySupersededCommand_eq_none {w : TerminalLifecycleValidator}
    (h : v.acceptRecoverySupersededCommand command = .ok (none, w)) :
    w.state = v.state ∧ w.gateEverOpened = v.gateEverOpened ∧
      w.supersededGateMayBePending = v.supersededGateMayBePending ∧
      (v.state = .quiesced → command ≠ .terminalRestored → v.recoveryCommandAllowance = .inactive) := by
  unfold acceptRecoverySupersededCommand at h
  by_cases live : v.state ≠ .quiesced
  · rw [if_pos live] at h
    cases h
    exact ⟨rfl, rfl, rfl, fun quiesced => absurd quiesced live⟩
  rw [if_neg live] at h
  cases allowance : v.recoveryCommandAllowance with
  | inactive =>
    simp only [allowance] at h
    cases h
    exact ⟨rfl, rfl, rfl, fun _ _ => rfl⟩
  | awaitingFailure window =>
    simp only [allowance] at h
    cases h
  | armed window =>
    simp only [allowance] at h
    by_cases restored : command = .terminalRestored
    · rw [if_pos restored] at h
      cases h
      exact ⟨rfl, rfl, rfl, fun _ other => absurd restored other⟩
    · rw [if_neg restored, bind_eq_ok] at h
      obtain ⟨allowed, -, h⟩ := h
      cases allowed <;> cases h
  | consumed =>
    simp only [allowance] at h
    by_cases restored : command = .terminalRestored
    · rw [if_pos restored] at h
      cases h
      exact ⟨rfl, rfl, rfl, fun _ other => absurd restored other⟩
    · rw [if_neg restored] at h
      cases h

theorem acceptRecoverySupersededCommand_gate {acceptance : TerminalCommandAcceptance}
    (h : v.acceptRecoverySupersededCommand command = .ok (some acceptance, v')) :
    acceptance = .recoverySuperseded ∧ v'.gateEverOpened = v.gateEverOpened := by
  unfold acceptRecoverySupersededCommand at h
  split at h
  · cases h
  split at h
  · cases h
  · cases h
  · split at h <;> cases h
  · split at h
    · cases h
    · rw [bind_eq_ok] at h
      obtain ⟨allowed, -, h⟩ := h
      cases allowed <;> cases h
      exact ⟨rfl, rfl⟩

/-- An accepted command was superseded by a recovery, or it is applied after the look at the recovery. -/
theorem acceptCommand_eq_ok {acceptance : TerminalCommandAcceptance}
    (h : v.acceptCommand command = .ok (acceptance, v')) :
    (acceptance = .recoverySuperseded ∧ v'.gateEverOpened = v.gateEverOpened) ∨
      ∃ w, v.acceptRecoverySupersededCommand command = .ok (none, w) ∧ acceptance = .applied ∧
        w.applyCommand command = .ok v' := by
  rw [acceptCommand, bind_eq_ok] at h
  obtain ⟨⟨superseded, w⟩, looked, h⟩ := h
  cases superseded with
  | some superseded =>
    cases h
    exact .inl (acceptRecoverySupersededCommand_gate looked)
  | none =>
    dsimp only at h
    rw [bind_eq_ok] at h
    obtain ⟨w', applied, h⟩ := h
    cases h
    exact .inr ⟨w, looked, rfl, applied⟩

theorem acceptCommand_inactive (inactive : v.recoveryCommandAllowance = .inactive) :
    v.acceptCommand command = (v.applyCommand command).map (.applied, ·) := by
  have looked : v.acceptRecoverySupersededCommand command = .ok (none, v) := by
    simp [acceptRecoverySupersededCommand, inactive]
  rw [acceptCommand, looked]
  rfl

theorem applyCommand_gateEverOpened (h : v.applyCommand command = .ok v') :
    v'.gateEverOpened = v.gateEverOpened := by
  unfold applyCommand at h
  split at h
  case h_8 | h_10 | h_16 =>
    rw [check_bind_eq_ok] at h
    cases h.2
    rfl
  case h_17 =>
    split at h
    · cases h
      rfl
    · cases h
  case h_19 => cases h
  all_goals
    cases h
    rfl

theorem acceptCommand_gateEverOpened {acceptance : TerminalCommandAcceptance}
    (h : v.acceptCommand command = .ok (acceptance, v')) : v'.gateEverOpened = v.gateEverOpened := by
  rcases acceptCommand_eq_ok h with ⟨-, gate⟩ | ⟨w, looked, -, applied⟩
  · exact gate
  · exact (applyCommand_gateEverOpened applied).trans (acceptRecoverySupersededCommand_eq_none looked).2.1

theorem acceptFailure_gateEverOpened {phase : Phase} {code : FailureCode}
    (h : v.acceptFailure phase code = .ok v') : v'.gateEverOpened = v.gateEverOpened := by
  unfold acceptFailure at h
  dsimp only at h
  split at h
  · cases h
  cases allowance : v.recoveryCommandAllowance with
  | awaitingFailure window =>
    simp only [allowance] at h
    split at h <;> cases h
    rfl
  | armed window | consumed =>
    simp only [allowance] at h
    cases h
  | inactive =>
    simp only [allowance] at h
    cases h
    rfl

theorem applyEvent_gateEverOpened {event : GuardianEvent} (h : v.applyEvent event = .ok v') :
    v'.gateEverOpened = (v.gateEverOpened || event = .inputGateOpened) := by
  unfold applyEvent at h
  split at h
  case h_3 | h_19 =>
    rw [bind_eq_ok] at h
    obtain ⟨_, -, h⟩ := h
    cases h
    simp
  case h_4 =>
    rw [check_bind_eq_ok] at h
    obtain ⟨-, h⟩ := h
    dsimp only at h
    split at h
    · cases h
    · cases h
      simp
  -- The acknowledged signal decides the next state only.
  case h_7 =>
    split at h
    · cases h
    · split at h <;> cases h <;> simp
  case h_8 | h_14 =>
    split at h
    · cases h
      simp
    · cases h
  case h_20 => cases h
  all_goals
    cases h
    simp

theorem acceptEvent_gateEverOpened {event : GuardianEvent} (h : v.acceptEvent event = .ok v') :
    v'.gateEverOpened = (v.gateEverOpened || event = .inputGateOpened) := by
  unfold acceptEvent at h
  split at h
  · rw [acceptFailure_gateEverOpened h]
    simp
  · exact applyEvent_gateEverOpened h

theorem armRecoveryCommandRace_gateEverOpened (h : v.armRecoveryCommandRace = .ok v') :
    v'.gateEverOpened = v.gateEverOpened := by
  unfold armRecoveryCommandRace at h
  split at h
  · cases h
  · split at h <;> cases h <;> rfl

/-- An applied command that leaves a proof behind, and is not discarded, makes the transition of the
proof. -/
theorem proofOf_moves (h : v.acceptCommand command = .ok (.applied, v'))
    (keeps : ¬v.Discards command)
    (minted : GuardianCommandReceiver.proofOf v command = some proof) :
    proof.command = command ∧ proof.Moves v.state v'.state ∧
      (proof = .openGate .initial → v.gateEverOpened = false) := by
  rcases acceptCommand_eq_ok h with ⟨other, -⟩ | ⟨w, looked, -, applied⟩
  · cases other
  obtain ⟨state, -, gate, inactive⟩ := acceptRecoverySupersededCommand_eq_none looked
  cases command with
  | openInputGate =>
    obtain rfl := Option.some.inj minted
    refine ⟨rfl, ?_, fun first => ?_⟩
    · show v.state = _ ∧ _
      rw [← state]
      unfold applyCommand at applied
      cases hs : w.state <;> simp only [hs] at applied <;> try cases applied
      · exact ⟨rfl, rfl⟩
      · have quiesced : v.state = .quiesced := state.symm.trans hs
        split at applied
        · next pending => exact absurd ⟨quiesced, inactive quiesced (by simp), gate ▸ pending⟩ keeps
        · cases applied
    · cases hopened : v.gateEverOpened with
      | false => rfl
      | true => simp [hopened] at first
  | suspend =>
    obtain rfl := Option.some.inj minted
    refine ⟨rfl, ?_, fun first => by cases first⟩
    show v.state = _ ∧ _
    rw [← state]
    unfold applyCommand at applied
    cases hs : w.state <;> simp only [hs] at applied <;> cases applied
    exact ⟨rfl, rfl⟩
  | resume rows cols =>
    obtain rfl := Option.some.inj minted
    refine ⟨rfl, ?_, fun first => by cases first⟩
    show v.state = _ ∧ _
    rw [← state]
    unfold applyCommand at applied
    cases hs : w.state <;> simp only [hs] at applied <;> try cases applied
    rw [check_bind_eq_ok] at applied
    cases applied.2
    exact ⟨rfl, rfl⟩
  | resize rows cols =>
    obtain rfl := Option.some.inj minted
    refine ⟨rfl, ?_, fun first => by cases first⟩
    show v.state = _ ∧ _
    rw [← state]
    unfold applyCommand at applied
    cases hs : w.state <;> simp only [hs] at applied <;> try cases applied
    · rw [check_bind_eq_ok] at applied
      cases applied.2
      exact ⟨rfl, rfl⟩
    · have quiesced : v.state = .quiesced := state.symm.trans hs
      rw [check_bind_eq_ok] at applied
      exact absurd ⟨quiesced, inactive quiesced (by simp), validateTerminalSize_eq_ok.1 applied.1⟩ keeps
  | terminalRestored =>
    obtain rfl := Option.some.inj minted
    refine ⟨rfl, ?_, fun first => by cases first⟩
    show v.state = _ ∧ _
    rw [← state]
    unfold applyCommand at applied
    cases hs : w.state <;> simp only [hs] at applied <;> cases applied
    exact ⟨rfl, rfl⟩
  | start | terminalArmAccepted | childDescriptorsVerified role | stop | signal signal => cases minted

end

/-! ## What a method does to the proof -/

namespace GuardianCommandReceiver

variable {r : GuardianCommandReceiver} {c : ReceiverCall}

/-- What a method that takes a proof can do: it returns the pending one, which is then gone, or it
returns none. -/
structure TakeOutcome (r : GuardianCommandReceiver)
    (outcome : Except ProtocolError ReceiverReply × GuardianCommandReceiver) : Prop where
  state : outcome.2.terminal.state = r.terminal.state
  gate : outcome.2.terminal.gateEverOpened = r.terminal.gateEverOpened
  poisoned : outcome.2.poisoned = r.poisoned
  pending : outcome.2.pending = r.pending ∨ outcome.2.pending = none
  proof : ∀ proof, outcome.1 = .ok (.proof proof) → r.pending = some proof ∧ outcome.2.pending = none

theorem takeOutcome_refused (r : GuardianCommandReceiver) : TakeOutcome r (.error .unexpectedState, r) :=
  ⟨rfl, rfl, rfl, .inl rfl, fun _ h => by cases h⟩

theorem takeOutcome_taken {proof : PendingProof} (h : r.pending = some proof) :
    TakeOutcome r (.ok (.proof proof), { r with pending := none }) := by
  refine ⟨rfl, rfl, rfl, .inr rfl, fun other taken => ?_⟩
  cases taken
  exact ⟨h, rfl⟩

theorem takeOutcome_take (r : GuardianCommandReceiver) (proof : PendingProof) :
    TakeOutcome r ((r.take proof).1.map fun _ => .proof proof, (r.take proof).2) := by
  unfold take
  by_cases refused : r.poisoned ∨ r.pending ≠ some proof
  · rw [if_pos refused]
    exact takeOutcome_refused r
  · rw [if_neg refused]
    exact takeOutcome_taken (not_not.1 (not_or.1 refused).2)

theorem call_takeOutcome (takes : ¬c.Advances) : TakeOutcome r (r.call c) := by
  cases c with
  | receive input | recordEvent event | armRecoveryCommandRace => exact absurd trivial takes
  | takeVerifiedInitialOpenGateCommand | takeVerifiedResumeOpenGateCommand
  | takeVerifiedSuspendCommand | takeVerifiedTerminalRestoredCommand => exact takeOutcome_take r _
  | takeVerifiedResumeCommand =>
    unfold call takeVerifiedResumeCommand
    dsimp only
    split
    · next rows cols pending =>
      by_cases poisoned : r.poisoned
      · rw [if_pos poisoned]
        exact ⟨rfl, rfl, rfl, .inr rfl, fun _ h => by cases h⟩
      · rw [if_neg poisoned]
        exact takeOutcome_taken pending
    · exact takeOutcome_refused r
  | takeVerifiedResizeCommand =>
    unfold call takeVerifiedResizeCommand
    dsimp only
    split
    · next rows cols pending =>
      by_cases poisoned : r.poisoned
      · rw [if_pos poisoned]
        exact ⟨rfl, rfl, rfl, .inr rfl, fun _ h => by cases h⟩
      · rw [if_neg poisoned]
        exact takeOutcome_taken pending
    · exact takeOutcome_refused r
  | takeVerifiedExitDisposition =>
    unfold call takeVerifiedExitDisposition
    dsimp only
    split
    · exact takeOutcome_refused r
    · split <;> exact ⟨rfl, rfl, rfl, .inl rfl, fun _ h => by cases h⟩

theorem closed_cases (h : r.closed = true) : r.poisoned = true ∨ r.terminal.state = .terminal := by
  by_cases poisoned : r.poisoned
  · exact .inl poisoned
  · simp [closed, terminalReceived, poisoned] at h
    exact .inr h

/-- What a method that advances the transcript leaves behind: nothing, unless it received a command
that its validator applied. -/
theorem call_pending (advances : c.Advances)
    (clear : r.poisoned = true ∨ r.terminal.state = .terminal → r.pending = none) :
    (r.call c).2.pending = none ∨
      ∃ command terminal, c = .receive (.ok command) ∧ r.poisoned = false ∧
        r.terminal.acceptCommand command = .ok (.applied, terminal) ∧
        r.call c =
          (.ok (.command command), { r with terminal, pending := proofOf r.terminal command }) := by
  cases c with
  | receive input =>
    simp only [call, receive]
    by_cases closed : r.closed = true
    · rw [if_pos closed]
      exact .inl (clear (closed_cases closed))
    rw [if_neg closed]
    have sound : r.poisoned = false := by
      simp [GuardianCommandReceiver.closed] at closed
      exact closed.1
    cases input with
    | error e => exact .inl rfl
    | ok command =>
      dsimp only
      cases accept : r.terminal.acceptCommand command with
      | error e => exact .inl rfl
      | ok accepted =>
        obtain ⟨acceptance, terminal⟩ := accepted
        cases acceptance with
        | recoverySuperseded => exact .inl rfl
        | applied => exact .inr ⟨command, terminal, rfl, sound, accept, rfl⟩
  | recordEvent event =>
    simp only [call, recordEvent]
    by_cases poisoned : r.poisoned = true
    · rw [if_pos poisoned]
      exact .inl (clear (.inl poisoned))
    rw [if_neg poisoned]
    cases r.terminal.acceptEvent event <;> exact .inl rfl
  | armRecoveryCommandRace =>
    simp only [call, armRecoveryCommandRace]
    by_cases closed : r.closed = true
    · rw [if_pos closed]
      exact .inl (clear (closed_cases closed))
    rw [if_neg closed]
    cases r.terminal.armRecoveryCommandRace <;> exact .inl rfl
  | takeVerifiedInitialOpenGateCommand | takeVerifiedResumeOpenGateCommand
  | takeVerifiedSuspendCommand | takeVerifiedResumeCommand | takeVerifiedResizeCommand
  | takeVerifiedTerminalRestoredCommand | takeVerifiedExitDisposition => cases advances

theorem not_advances_of_proof {proof : PendingProof} (h : (r.call c).1 = .ok (.proof proof)) :
    ¬c.Advances := by
  intro advances
  cases c with
  | receive input =>
    simp only [call] at h
    cases received : (r.receive input).1 <;> simp [received, Except.map] at h
  | recordEvent event =>
    simp only [call] at h
    cases recorded : (r.recordEvent event).1 <;> simp [recorded, Except.map] at h
  | armRecoveryCommandRace =>
    simp only [call] at h
    cases armed : r.armRecoveryCommandRace.1 <;> simp [armed, Except.map] at h
  | takeVerifiedInitialOpenGateCommand | takeVerifiedResumeOpenGateCommand
  | takeVerifiedSuspendCommand | takeVerifiedResumeCommand | takeVerifiedResizeCommand
  | takeVerifiedTerminalRestoredCommand | takeVerifiedExitDisposition => cases advances

/-- The gate is known to have opened from the record of its opening on. -/
theorem call_gate (h : r.terminal.gateEverOpened = true ∨
    c = .recordEvent .inputGateOpened ∧ (r.call c).1 = .ok .done) :
    (r.call c).2.terminal.gateEverOpened = true := by
  by_cases takes : ¬c.Advances
  · rcases h with opened | ⟨rfl, -⟩
    · exact (call_takeOutcome takes).gate.trans opened
    · exact absurd trivial takes
  cases c with
  | receive input =>
    have opened : r.terminal.gateEverOpened = true := h.resolve_right fun h => by cases h.1
    simp only [call, receive]
    split
    · exact opened
    split
    · exact opened
    · split
      · exact opened
      · next accept => exact (acceptCommand_gateEverOpened accept).trans opened
      · next accept => exact (acceptCommand_gateEverOpened accept).trans opened
  | recordEvent event =>
    simp only [call, recordEvent] at h ⊢
    by_cases poisoned : r.poisoned = true
    · rw [if_pos poisoned] at h ⊢
      exact h.resolve_right fun h => by cases h.2
    rw [if_neg poisoned] at h ⊢
    cases accept : r.terminal.acceptEvent event with
    | error e =>
      simp only [accept] at h ⊢
      exact h.resolve_right fun h => by cases h.2
    | ok terminal =>
      show terminal.gateEverOpened = true
      rw [acceptEvent_gateEverOpened accept]
      rcases h with opened | ⟨recorded, -⟩
      · rw [opened, Bool.true_or]
      · cases recorded
        exact Bool.or_true _
  | armRecoveryCommandRace =>
    have opened : r.terminal.gateEverOpened = true := h.resolve_right fun h => by cases h.1
    simp only [call, armRecoveryCommandRace]
    split
    · exact opened
    · cases armed : r.terminal.armRecoveryCommandRace with
      | error e => exact opened
      | ok terminal => exact (armRecoveryCommandRace_gateEverOpened armed).trans opened
  | takeVerifiedInitialOpenGateCommand | takeVerifiedResumeOpenGateCommand
  | takeVerifiedSuspendCommand | takeVerifiedResumeCommand | takeVerifiedResizeCommand
  | takeVerifiedTerminalRestoredCommand | takeVerifiedExitDisposition => exact absurd id takes

end GuardianCommandReceiver

/-! ## Runs -/

theorem PendingProof.Moves.going {proof : PendingProof} {s s' : TerminalLifecycleState}
    (h : proof.Moves s s') : s' ≠ .terminal := by
  cases proof <;> exact fun terminal => by cases h.2.symm.trans terminal

theorem PendingProof.Moves.unquieted {proof : PendingProof} {s s' : TerminalLifecycleState}
    (h : proof.Moves s s') (operation : proof ≠ .terminalRestored) : ¬s'.Quieted := by
  cases proof with
  | terminalRestored => exact absurd rfl operation
  | openGate | suspend | resume | resize =>
    rw [h.2]
    exact id

/-- What a run without discarded commands knows of its receiver: where a pending proof comes from, and
that a record of the opened gate is kept. -/
structure Minted (past : List ReceiverStep) (r : GuardianCommandReceiver) : Prop where
  received : ∀ proof, r.pending = some proof → JustReceived proof past
  moved : ∀ proof, r.pending = some proof → ∃ s, proof.Moves s r.terminal.state
  initial : r.pending = some (.openGate .initial) → r.terminal.gateEverOpened = false
  sound : r.poisoned = true → r.pending = none
  opened : ∀ step ∈ past, step.input = .recordEvent .inputGateOpened → step.output = .ok .done →
    r.terminal.gateEverOpened = true

theorem Minted.start : Minted [] .newTerminal where
  received _ h := by cases h
  moved _ h := by cases h
  initial h := by cases h
  sound _ := rfl
  opened _ mem := by cases mem

section

variable {past : List ReceiverStep} {r : GuardianCommandReceiver} {c : ReceiverCall}

theorem Minted.opened_step (h : Minted past r) (step : ReceiverStep)
    (mem : step ∈ past ++ [stepAt GuardianCommandReceiver.call r c])
    (input : step.input = .recordEvent .inputGateOpened) (output : step.output = .ok .done) :
    (r.call c).2.terminal.gateEverOpened = true := by
  rcases List.mem_append.1 mem with mem | mem
  · exact GuardianCommandReceiver.call_gate (.inl (h.opened step mem input output))
  · obtain rfl := List.mem_singleton.1 mem
    exact GuardianCommandReceiver.call_gate (.inr ⟨input, output⟩)

/-- A method that takes a proof keeps what is known of the pending one. -/
theorem Minted.take (h : Minted past r) (takes : ¬c.Advances) :
    Minted (past ++ [stepAt GuardianCommandReceiver.call r c]) (r.call c).2 := by
  have outcome : GuardianCommandReceiver.TakeOutcome r (r.call c) :=
    GuardianCommandReceiver.call_takeOutcome takes
  -- A proof that is pending after the step was pending before it, and the step returned none.
  have kept : ∀ proof, (r.call c).2.pending = some proof →
      r.pending = some proof ∧ ∀ other, (r.call c).1 ≠ .ok (.proof other) := by
    intro proof pending
    refine ⟨?_, fun other taken => ?_⟩
    · rcases outcome.pending with same | none
      · exact same ▸ pending
      · cases none.symm.trans pending
    · cases (outcome.proof other taken).2.symm.trans pending
  refine ⟨fun proof pending => ?_, fun proof pending => ?_, fun pending => ?_, fun poisoned => ?_,
    h.opened_step⟩
  · obtain ⟨before, none⟩ := kept proof pending
    obtain ⟨earlier, receipt, later, rfl, received, quiet⟩ := h.received proof before
    refine ⟨earlier, receipt, later ++ [stepAt GuardianCommandReceiver.call r c], ?_,
      received, fun take mem => ?_⟩
    · rw [List.append_assoc, List.cons_append]
    · rcases List.mem_append.1 mem with mem | mem
      · exact quiet take mem
      · obtain rfl := List.mem_singleton.1 mem
        exact ⟨takes, none⟩
  · rw [outcome.state]
    exact h.moved proof (kept proof pending).1
  · rw [outcome.gate]
    exact h.initial (kept _ pending).1
  · rw [outcome.poisoned] at poisoned
    rcases outcome.pending with same | none
    · exact same.trans (h.sound poisoned)
    · exact none

/-- A method that advances the transcript leaves no proof behind but that of the command which it
received, and the command made its transition. -/
theorem Minted.advance (h : Minted past r) (advances : c.Advances) (keeps : ¬r.Discards c) :
    Minted (past ++ [stepAt GuardianCommandReceiver.call r c]) (r.call c).2 := by
  have clear : r.poisoned = true ∨ r.terminal.state = .terminal → r.pending = none := by
    rintro (poisoned | terminal)
    · exact h.sound poisoned
    · cases pending : r.pending with
      | none => rfl
      | some proof =>
        obtain ⟨s, moves⟩ := h.moved proof pending
        exact absurd terminal moves.going
  rcases GuardianCommandReceiver.call_pending advances clear with
    none | ⟨command, terminal, rfl, sound, accept, hcall⟩
  · refine ⟨fun proof pending => ?_, fun proof pending => ?_, fun pending => ?_, fun _ => none,
      h.opened_step⟩ <;> cases none.symm.trans pending
  · have applied : ∀ proof, GuardianCommandReceiver.proofOf r.terminal command = some proof →
        proof.command = command ∧ proof.Moves r.terminal.state terminal.state ∧
          (proof = .openGate .initial → r.terminal.gateEverOpened = false) :=
      fun proof minted => proofOf_moves accept (fun discards => keeps ⟨sound, discards⟩) minted
    have opened := h.opened_step (c := .receive (.ok command))
    refine ⟨fun proof pending => ?_, fun proof pending => ?_, fun pending => ?_, fun poisoned => ?_,
      opened⟩
    · rw [hcall] at pending
      obtain ⟨hcommand, moves, -⟩ := applied proof pending
      refine ⟨past, _, [], rfl, ⟨?_, ?_, ?_⟩, fun _ mem => by cases mem⟩
      · rw [hcommand]
        rfl
      · rw [hcommand]
        exact congrArg Prod.fst hcall
      · show proof.Moves r.terminal.state (r.call (.receive (.ok command))).2.terminal.state
        rw [hcall]
        exact moves
    · rw [hcall] at pending ⊢
      exact ⟨_, (applied proof pending).2.1⟩
    · rw [hcall] at pending ⊢
      exact (acceptCommand_gateEverOpened accept).trans ((applied _ pending).2.2 rfl)
    · rw [hcall] at poisoned
      cases sound.symm.trans poisoned

theorem Minted.step (h : Minted past r) (keeps : ¬r.Discards c) :
    Minted (past ++ [stepAt GuardianCommandReceiver.call r c]) (r.call c).2 := by
  by_cases advances : c.Advances
  · exact h.advance advances keeps
  · exact h.take advances

/-- What a step takes in such a run is fresh. -/
theorem Minted.freshProof (h : Minted past r) {proof : PendingProof}
    (taken : (r.call c).1 = .ok (.proof proof)) (operation : proof ≠ .terminalRestored) :
    FreshProof past (stepAt GuardianCommandReceiver.call r c) proof := by
  have takes : ¬c.Advances := GuardianCommandReceiver.not_advances_of_proof taken
  have pending := ((GuardianCommandReceiver.call_takeOutcome takes).proof proof taken).1
  obtain ⟨s, moves⟩ := h.moved proof pending
  refine ⟨h.received proof pending, moves.unquieted operation, fun first earlier mem input output => ?_⟩
  subst first
  cases (h.initial pending).symm.trans (h.opened earlier mem input output)

end

theorem minted_of_keeps {calls : List ReceiverCall}
    (keeps : ∀ step ∈ transcript calls, ¬step.before.Discards step.input) :
    Minted (transcript calls) (receiverAfter calls) :=
  history_invariant Minted.start (fun _ _ _ minted keeps => minted.step keeps) calls keeps

theorem proofsFresh_of_keeps {calls : List ReceiverCall}
    (keeps : ∀ step ∈ transcript calls, ¬step.before.Discards step.input) :
    ProofsFresh (transcript calls) := by
  intro past step later proof split taken operation
  obtain ⟨earlier, c, rest, hcalls, rfl, rfl, -⟩ := history_split split
  have minted : Minted (transcript earlier) (receiverAfter earlier) := by
    refine minted_of_keeps fun step mem => keeps step ?_
    rw [split]
    exact List.mem_append_left _ mem
  exact minted.freshProof taken operation

/-- A discarded command leaves its validator quiesced, and its proof pending. -/
theorem discards_receive {r : GuardianCommandReceiver} {command : CoordinatorCommand}
    (sound : r.poisoned = false) (h : r.terminal.Discards command) :
    ∃ terminal proof, proof ≠ .terminalRestored ∧ terminal.state = .quiesced ∧
      GuardianCommandReceiver.proofOf r.terminal command = some proof ∧
      (r.call (.receive (.ok command))).2 = { r with terminal, pending := some proof } := by
  cases command with
  | resize rows cols =>
    obtain ⟨state, inactive, size⟩ := h
    have accept : r.terminal.acceptCommand (.resize rows cols) = .ok (.applied, r.terminal) := by
      rw [acceptCommand_inactive inactive]
      simp [TerminalLifecycleValidator.applyCommand, state, validateTerminalSize_ok size, Except.map]
    refine ⟨r.terminal, .resize rows cols, by simp, state, rfl, ?_⟩
    simp only [GuardianCommandReceiver.call]
    rw [GuardianCommandReceiver.receive_accept sound (by simp [state]) accept]
    rfl
  | openInputGate =>
    obtain ⟨state, inactive, superseded⟩ := h
    have accept : r.terminal.acceptCommand .openInputGate =
        .ok (.applied, { r.terminal with supersededGateMayBePending := false }) := by
      rw [acceptCommand_inactive inactive]
      simp [TerminalLifecycleValidator.applyCommand, state, superseded, Except.map]
    refine ⟨{ r.terminal with supersededGateMayBePending := false }, _, ?_, state, rfl, ?_⟩
    · simp
    · simp only [GuardianCommandReceiver.call]
      rw [GuardianCommandReceiver.receive_accept sound (by simp [state]) accept]
      rfl
  | start | terminalArmAccepted | childDescriptorsVerified role | stop | signal signal | suspend
  | resume rows cols | terminalRestored => cases h

/-- A pending proof of an unpoisoned receiver can be taken. -/
theorem takes_pending (r : GuardianCommandReceiver) (proof : PendingProof) (sound : r.poisoned = false)
    (pending : r.pending = some proof) : ∃ take : ReceiverCall, ¬take.Advances ∧
      (r.call take).1 = .ok (.proof proof) := by
  cases proof with
  | openGate cycle =>
    cases cycle with
    | initial =>
      refine ⟨.takeVerifiedInitialOpenGateCommand, id, ?_⟩
      simp [GuardianCommandReceiver.call, GuardianCommandReceiver.takeVerifiedInitialOpenGateCommand,
        GuardianCommandReceiver.take, sound, pending, Except.map]
    | resume =>
      refine ⟨.takeVerifiedResumeOpenGateCommand, id, ?_⟩
      simp [GuardianCommandReceiver.call, GuardianCommandReceiver.takeVerifiedResumeOpenGateCommand,
        GuardianCommandReceiver.take, sound, pending, Except.map]
  | suspend =>
    refine ⟨.takeVerifiedSuspendCommand, id, ?_⟩
    simp [GuardianCommandReceiver.call, GuardianCommandReceiver.takeVerifiedSuspendCommand,
      GuardianCommandReceiver.take, sound, pending, Except.map]
  | resume rows cols =>
    refine ⟨.takeVerifiedResumeCommand, id, ?_⟩
    simp [GuardianCommandReceiver.call, GuardianCommandReceiver.takeVerifiedResumeCommand,
      sound, pending, Except.map]
  | resize rows cols =>
    refine ⟨.takeVerifiedResizeCommand, id, ?_⟩
    simp [GuardianCommandReceiver.call, GuardianCommandReceiver.takeVerifiedResizeCommand,
      sound, pending, Except.map]
  | terminalRestored =>
    refine ⟨.takeVerifiedTerminalRestoredCommand, id, ?_⟩
    simp [GuardianCommandReceiver.call, GuardianCommandReceiver.takeVerifiedTerminalRestoredCommand,
      GuardianCommandReceiver.take, sound, pending, Except.map]

/-- After a command that is discarded a proof can be taken that is not fresh. -/
theorem not_proofsFresh_of_discards {calls : List ReceiverCall} {c : ReceiverCall}
    (h : (receiverAfter calls).Discards c) :
    ∃ take, ¬take.Advances ∧ ¬ProofsFresh (transcript (calls ++ [c] ++ [take])) := by
  cases c with
  | receive input =>
    cases input with
    | error e => cases h
    | ok command =>
      obtain ⟨sound, discards⟩ := h
      obtain ⟨terminal, proof, operation, quiesced, -, received⟩ := discards_receive sound discards
      have ends : receiverAfter (calls ++ [.receive (.ok command)]) =
          { receiverAfter calls with terminal, pending := some proof } :=
        (final_concat calls _).trans received
      obtain ⟨take, takes, taken⟩ := takes_pending
        (receiverAfter (calls ++ [.receive (.ok command)])) proof (by rw [ends]; exact sound) (by rw [ends])
      refine ⟨take, takes, fun fresh => ?_⟩
      refine (fresh _ _ [] proof (history_concat _ take) taken operation).unquieted ?_
      show (receiverAfter (calls ++ [.receive (.ok command)])).terminal.state.Quieted
      rw [ends]
      show terminal.state.Quieted
      rw [quiesced]
      trivial
  | _ => cases h

/-- In a run that discards no command every proof of an operation is fresh, and after a command that is
discarded a proof can be taken that is not. -/
theorem operation_proofs_fresh (calls : List ReceiverCall) :
    ((∀ step ∈ transcript calls, ¬step.before.Discards step.input) → ProofsFresh (transcript calls)) ∧
      ∀ c, (receiverAfter calls).Discards c →
        ∃ take, ¬take.Advances ∧ ¬ProofsFresh (transcript (calls ++ [c] ++ [take])) :=
  ⟨proofsFresh_of_keeps, fun _ discards => not_proofsFresh_of_discards discards⟩

/-- A session whose gate opens and whose TUI then ends. -/
def endedSession : List ReceiverCall :=
  [.recordEvent .leaseCommitted, .receive (.ok .start),
    .recordEvent (.terminalArmed (List.replicate 32 0)), .receive (.ok .terminalArmAccepted),
    .recordEvent (.childStarted .appServer 20 20),
    .receive (.ok (.childDescriptorsVerified .appServer)), .recordEvent (.childStarted .tui 21 21),
    .receive (.ok (.childDescriptorsVerified .tui)), .recordEvent .ready,
    .receive (.ok .openInputGate), .takeVerifiedInitialOpenGateCommand,
    .recordEvent .inputGateOpened, .recordEvent .terminalQuiesced]

theorem operation_proofs_fresh_endedSession : ProofsFresh (transcript endedSession) :=
  (operation_proofs_fresh endedSession).1 (by decide)

/-- The resize that the exit of the TUI superseded still yields a proof. -/
theorem superseded_resize_not_fresh : ¬ProofsFresh (transcript
    (endedSession ++ [.receive (.ok (.resize 41 123))] ++ [.takeVerifiedResizeCommand])) := by
  intro fresh
  have taken := fresh _ _ [] (.resize 41 123) (history_concat _ _) rfl (by decide)
  exact taken.unquieted trivial

end Calcifer.Supervisor
