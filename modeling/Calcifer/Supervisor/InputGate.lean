import Calcifer.Supervisor.TerminalGeneration
import Calcifer.Supervisor.OperationProofs

/-!
# The input gate

The guardian opens the gate of the terminal channel with the proof of a gate command, which its receiver
mints and an opening consumes. `input_gate` says for every run of the owner of the terminal, under any
results of input and output, that what is typed reaches the TUI only through an open gate, and only what
is typed after the gate was opened.

Once the pump drains its output it is in the very state from which an initial proof would open the gate
again; there is none any more, since the receiver mints at most one (`Gated`).
-/

namespace Calcifer.Supervisor

open Checks Machine

/-! ## The initial gate command -/

/-- No initial gate command can be accepted any more. -/
def TerminalLifecycleValidator.GateSpent (v : TerminalLifecycleValidator) : Prop :=
  v.gateEverOpened = true ∨ v.state = .awaitGateOpened ∨
    v.supersededGateMayBePending = false ∧ (v.state = .failedAwaitQuiesced ∨ v.state = .quiesced ∨
      v.state = .awaitRecoveryDisarmed ∨ v.state = .recoveryDisarmed ∨ v.state = .terminal)

namespace TerminalLifecycleValidator

variable {v v' : TerminalLifecycleValidator} {command : CoordinatorCommand}

theorem GateSpent.of_eq (h : v.GateSpent) (state : v'.state = v.state)
    (gate : v'.gateEverOpened = v.gateEverOpened)
    (superseded : v'.supersededGateMayBePending = v.supersededGateMayBePending) : v'.GateSpent := by
  rw [GateSpent, state, gate, superseded]
  exact h

theorem GateSpent.applyCommand (h : v.GateSpent) (applied : v.applyCommand command = .ok v') :
    v'.GateSpent ∧ (command = .openInputGate → v.gateEverOpened = true) := by
  obtain gate | waits | ⟨superseded, ends⟩ := h
  · exact ⟨.inl ((applyCommand_gateEverOpened applied).trans gate), fun _ => gate⟩
  · unfold TerminalLifecycleValidator.applyCommand at applied
    rw [waits] at applied
    cases command <;> cases applied
  · unfold TerminalLifecycleValidator.applyCommand at applied
    obtain state | state | state | state | state := ends
    · rw [state] at applied
      cases command <;> cases applied
    · rw [state] at applied
      cases command with
      | signal signal =>
        cases signal <;> cases applied <;>
          exact ⟨.inr (.inr ⟨superseded, .inr (.inl state)⟩), fun other => by cases other⟩
      | resize rows cols =>
        obtain ⟨-, kept⟩ := check_bind_eq_ok.1 applied
        cases kept
        exact ⟨.inr (.inr ⟨superseded, .inr (.inl state)⟩), fun other => by cases other⟩
      | openInputGate =>
        simp only [superseded] at applied
        cases applied
      | terminalRestored =>
        cases applied
        exact ⟨.inr (.inr ⟨rfl, .inr (.inr (.inl rfl))⟩), fun other => by cases other⟩
      | start | terminalArmAccepted | childDescriptorsVerified role | stop | suspend
      | resume rows cols => cases applied
    · rw [state] at applied
      cases command <;> cases applied
    · rw [state] at applied
      cases command <;> cases applied
    · rw [state] at applied
      cases command <;> cases applied

/-- An applied gate command is the last initial one. -/
theorem gateSpent_of_openInputGate (applied : v.applyCommand .openInputGate = .ok v') :
    v'.GateSpent := by
  unfold TerminalLifecycleValidator.applyCommand at applied
  cases state : v.state <;> rw [state] at applied <;> try cases applied
  · exact .inr (.inl rfl)
  · by_cases superseded : v.supersededGateMayBePending
    · rw [if_pos superseded] at applied
      cases applied
      exact .inr (.inr ⟨rfl, .inr (.inl rfl)⟩)
    · rw [if_neg superseded] at applied
      cases applied

/-- A command that a recovery superseded leaves the terminal quiesced. -/
theorem acceptRecoverySupersededCommand_gateSpent {acceptance : TerminalCommandAcceptance}
    (h : v.acceptRecoverySupersededCommand command = .ok (some acceptance, v')) : v'.GateSpent := by
  unfold acceptRecoverySupersededCommand at h
  by_cases live : v.state ≠ .quiesced
  · rw [if_pos live] at h
    cases h
  rw [if_neg live] at h
  split at h
  · cases h
  · cases h
  · split at h <;> cases h
  · split at h
    · cases h
    · obtain ⟨allowed, -, h⟩ := bind_eq_ok.1 h
      cases allowed <;> cases h
      exact .inr (.inr ⟨rfl, .inr (.inl (not_not.1 live))⟩)

theorem acceptCommand_gateSpent {acceptance : TerminalCommandAcceptance}
    (accepted : v.acceptCommand command = .ok (acceptance, v')) :
    (v.GateSpent → v'.GateSpent) ∧
      (acceptance = .applied → command = .openInputGate →
        v'.GateSpent ∧ (v.GateSpent → v.gateEverOpened = true)) := by
  rw [acceptCommand] at accepted
  obtain ⟨⟨superseded, w⟩, looked, accepted⟩ := bind_eq_ok.1 accepted
  cases superseded with
  | some superseded =>
    cases accepted
    obtain ⟨rfl, -⟩ := acceptRecoverySupersededCommand_gate looked
    exact ⟨fun _ => acceptRecoverySupersededCommand_gateSpent looked, fun other => by cases other⟩
  | none =>
    obtain ⟨w', applied, accepted⟩ := bind_eq_ok.1 accepted
    cases accepted
    obtain ⟨state, gate, superseded, -⟩ := acceptRecoverySupersededCommand_eq_none looked
    refine ⟨fun h => ((h.of_eq state gate superseded).applyCommand applied).1, ?_⟩
    rintro - rfl
    refine ⟨gateSpent_of_openInputGate applied, fun h => ?_⟩
    rw [← gate]
    exact ((h.of_eq state gate superseded).applyCommand applied).2 rfl

/-- Where a failure leads to. A gate command can be pending only where the gate could be opened. -/
theorem acceptFailure_kept {phase : Phase} {code : FailureCode}
    (accepted : v.acceptFailure phase code = .ok v') (waits : v.state ≠ .readyForGate) :
    v'.supersededGateMayBePending = false ∧ (v'.state = v.state ∨ v'.state = .failedAwaitQuiesced) ∧
      (v.state = .awaitGateOpened → v'.state = .failedAwaitQuiesced) := by
  unfold acceptFailure at accepted
  dsimp only at accepted
  split at accepted
  · cases accepted
  cases allowance : v.recoveryCommandAllowance with
  | awaitingFailure window =>
    simp only [allowance] at accepted
    split at accepted <;> cases accepted
    refine ⟨by simp, ?_, fun state => by simp [state]⟩
    cases v.state <;> simp
  | armed window | consumed =>
    simp only [allowance] at accepted
    cases accepted
  | inactive =>
    simp only [allowance] at accepted
    cases accepted
    refine ⟨by simp [waits], ?_, fun state => by simp [state]⟩
    cases v.state <;> simp

theorem GateSpent.acceptFailure {phase : Phase} {code : FailureCode} (h : v.GateSpent)
    (accepted : v.acceptFailure phase code = .ok v') : v'.GateSpent := by
  obtain opened | waits | ⟨-, ends⟩ := h
  · exact .inl ((acceptFailure_gateEverOpened accepted).trans opened)
  · obtain ⟨superseded, -, failed⟩ := acceptFailure_kept accepted (by rw [waits]; decide)
    exact .inr (.inr ⟨superseded, .inl (failed waits)⟩)
  · have late : v.state ≠ .readyForGate := by
      intro ready
      rw [ready] at ends
      obtain state | state | state | state | state := ends <;> cases state
    obtain ⟨superseded, kept | failed, -⟩ := acceptFailure_kept accepted late
    · exact .inr (.inr ⟨superseded, by rwa [kept]⟩)
    · exact .inr (.inr ⟨superseded, .inl failed⟩)

theorem GateSpent.applyEvent {event : GuardianEvent} (h : v.GateSpent)
    (accepted : v.applyEvent event = .ok v') : v'.GateSpent := by
  have gate := applyEvent_gateEverOpened accepted
  obtain opened | waits | ⟨superseded, ends⟩ := h
  · rw [opened, Bool.true_or] at gate
    exact .inl gate
  · unfold TerminalLifecycleValidator.applyEvent at accepted
    rw [waits] at accepted
    cases event <;> cases accepted
    exact .inl rfl
  · unfold TerminalLifecycleValidator.applyEvent at accepted
    obtain state | state | state | state | state := ends
    · rw [state] at accepted
      cases event <;> cases accepted
      exact .inr (.inr ⟨superseded, .inr (.inl rfl)⟩)
    · rw [state] at accepted
      cases event <;> cases accepted
    · rw [state] at accepted
      cases event <;> cases accepted
      exact .inr (.inr ⟨superseded, .inr (.inr (.inr (.inl rfl)))⟩)
    · rw [state] at accepted
      cases event with
      | childrenReaped app tui worker cleanup session guardianExit =>
        cases cleanup
        obtain ⟨disposition, -, accepted⟩ := bind_eq_ok.1 accepted
        cases accepted
        exact .inr (.inr ⟨superseded, .inr (.inr (.inr (.inr rfl)))⟩)
      | _ => cases accepted
    · rw [state] at accepted
      cases event <;> cases accepted

theorem GateSpent.acceptEvent {event : GuardianEvent} (h : v.GateSpent)
    (accepted : v.acceptEvent event = .ok v') : v'.GateSpent := by
  unfold TerminalLifecycleValidator.acceptEvent at accepted
  split at accepted
  · exact h.acceptFailure accepted
  · exact h.applyEvent accepted

theorem GateSpent.armRecoveryCommandRace (h : v.GateSpent)
    (armed : v.armRecoveryCommandRace = .ok v') : v'.GateSpent := by
  unfold TerminalLifecycleValidator.armRecoveryCommandRace at armed
  split at armed
  · cases armed
  · split at armed <;> cases armed <;> exact h

end TerminalLifecycleValidator

namespace GuardianCommandReceiver

variable {r : GuardianCommandReceiver} {c : ReceiverCall}

/-- What a call does about the initial gate command: a new proof of it spends the command. -/
structure GateOutcome (r r' : GuardianCommandReceiver) : Prop where
  spent : r.terminal.GateSpent → r'.terminal.GateSpent
  minted : r'.pending = some (.openGate .initial) →
    r.pending = some (.openGate .initial) ∨ r'.terminal.GateSpent ∧ ¬r.terminal.GateSpent

theorem GateOutcome.same (r : GuardianCommandReceiver) : GateOutcome r r := ⟨id, .inl⟩

theorem GateOutcome.cleared {r' : GuardianCommandReceiver} (none : r'.pending = none)
    (spent : r.terminal.GateSpent → r'.terminal.GateSpent) : GateOutcome r r' :=
  ⟨spent, fun pending => by rw [none] at pending; cases pending⟩

theorem GateOutcome.take (r : GuardianCommandReceiver) (proof : PendingProof) :
    GateOutcome r (r.take proof).2 := by
  unfold GuardianCommandReceiver.take
  split
  · exact .same r
  · exact .cleared rfl id

theorem receive_gateOutcome (input : Except ProtocolError CoordinatorCommand) :
    GateOutcome r (r.receive input).2 := by
  unfold receive
  by_cases closed : r.closed
  · rw [if_pos closed]
    exact .same r
  rw [if_neg closed]
  cases input with
  | error error => exact .cleared rfl id
  | ok command =>
    dsimp only
    cases accepted : r.terminal.acceptCommand command with
    | error error => exact .cleared rfl id
    | ok accepted' =>
      obtain ⟨acceptance, terminal⟩ := accepted'
      obtain ⟨spent, minted⟩ := TerminalLifecycleValidator.acceptCommand_gateSpent accepted
      cases acceptance with
      | recoverySuperseded => exact .cleared rfl spent
      | applied =>
        refine ⟨spent, fun pending => .inr ?_⟩
        cases command with
        | openInputGate =>
          obtain ⟨now, before⟩ := minted rfl rfl
          refine ⟨now, fun earlier => ?_⟩
          have opened := before earlier
          simp [proofOf, opened] at pending
        | _ => cases pending

theorem recordEvent_gateOutcome (event : GuardianEvent) : GateOutcome r (r.recordEvent event).2 := by
  unfold recordEvent
  by_cases poisoned : r.poisoned
  · rw [if_pos poisoned]
    exact .same r
  rw [if_neg poisoned]
  cases accepted : r.terminal.acceptEvent event with
  | error error => exact .cleared rfl id
  | ok terminal => exact .cleared rfl fun h => h.acceptEvent accepted

theorem armRecoveryCommandRace_gateOutcome : GateOutcome r r.armRecoveryCommandRace.2 := by
  unfold armRecoveryCommandRace
  by_cases closed : r.closed
  · rw [if_pos closed]
    exact .same r
  rw [if_neg closed]
  cases armed : r.terminal.armRecoveryCommandRace with
  | error error => exact .cleared rfl id
  | ok terminal => exact .cleared rfl fun h => h.armRecoveryCommandRace armed

theorem call_gateOutcome (r : GuardianCommandReceiver) (c : ReceiverCall) :
    GateOutcome r (r.call c).2 := by
  cases c with
  | receive input => exact receive_gateOutcome input
  | recordEvent event => exact recordEvent_gateOutcome event
  | armRecoveryCommandRace => exact armRecoveryCommandRace_gateOutcome
  | takeVerifiedInitialOpenGateCommand | takeVerifiedResumeOpenGateCommand
  | takeVerifiedSuspendCommand | takeVerifiedTerminalRestoredCommand => exact .take r _
  | takeVerifiedResumeCommand =>
    unfold call takeVerifiedResumeCommand
    dsimp only
    split
    · split
      · exact .cleared rfl id
      · exact .cleared rfl id
    · exact .same r
  | takeVerifiedResizeCommand =>
    unfold call takeVerifiedResizeCommand
    dsimp only
    split
    · split
      · exact .cleared rfl id
      · exact .cleared rfl id
    · exact .same r
  | takeVerifiedExitDisposition =>
    unfold call takeVerifiedExitDisposition
    dsimp only
    split
    · exact .same r
    · split
      · exact ⟨id, .inl⟩
      · exact .same r

end GuardianCommandReceiver

/-! ## The owner and its proofs -/

/-- The receiver of the guardian, the proofs of gate commands that were taken from it and are not used
yet, the owner of the terminal and its channel. -/
structure Ingress where
  receiver : GuardianCommandReceiver
  initialProofs : ℕ
  resumeProofs : ℕ
  owner : TerminalGenerationOwner
  channel : TerminalChannel

/-- A call of the receiver or of the owner, with all that input and output come to. -/
inductive IngressCall where
  | receiver (call : ReceiverCall)
  | pumpOnce (turn : GuardianPumpTurn)
  | openInitialIngress (rounds : List DiscardRound)
  | openResumedIngress (rounds : List DiscardRound)
  | suspend (rounds : List DiscardRound) (suspends : Bool)
  | resumeTui (size : CellCount × CellCount) (resizes resumes : Bool)
  | resize (size : CellCount × CellCount) (resizes : Bool)
  | forwardSignal (signal : UnixSignal) (forwards continues : Bool)
  | beginOutputDrain
  | quiesce (shuts : Bool)
  | shutdownTui (reply : TuiShutdownCall → Option ShutdownOutcome)

/-- The calls that discard what is pending. -/
def IngressCall.Discards : IngressCall → Prop
  | .openInitialIngress _ | .openResumedIngress _ | .suspend _ _ => True
  | _ => False

/-- Whether a call succeeded, and the bytes that it forwarded to the TUI. -/
structure IngressOutput where
  done : Bool
  forwarded : List ChannelByte
deriving DecidableEq, Repr

/-- Whether a result is a success. -/
def succeeded {ε α : Type} : Except ε α → Bool
  | .ok _ => true
  | .error _ => false

namespace Ingress

def new : Ingress where
  receiver := .newTerminal
  initialProofs := 0
  resumeProofs := 0
  owner := .new
  channel := ⟨0, [], false⟩

/-- A call of the receiver can hand out a proof. -/
def receive (s : Ingress) (c : ReceiverCall) : Ingress :=
  let (reply, receiver) := s.receiver.call c
  { s with
    receiver
    initialProofs := s.initialProofs + if reply = .ok (.proof (.openGate .initial)) then 1 else 0
    resumeProofs := s.resumeProofs + if reply = .ok (.proof (.openGate .resume)) then 1 else 0 }

/-- One call. An opening consumes a proof, and without one it cannot be called. -/
def step (s : Ingress) : IngressCall → IngressOutput × Ingress
  | .receiver c => (⟨succeeded (s.receiver.call c).1, []⟩, s.receive c)
  | .pumpOnce turn =>
    let (result, owner, channel, written) := s.owner.pumpOnce s.channel turn
    (⟨succeeded result, written⟩, { s with owner, channel })
  | .openInitialIngress rounds =>
    if s.initialProofs = 0 then (⟨false, []⟩, s)
    else
      let (result, owner, channel) := s.owner.openInitialIngress s.channel rounds
      (⟨succeeded result, []⟩, { s with initialProofs := s.initialProofs - 1, owner, channel })
  | .openResumedIngress rounds =>
    if s.resumeProofs = 0 then (⟨false, []⟩, s)
    else
      let (result, owner, channel) := s.owner.openResumedIngress s.channel rounds
      (⟨succeeded result, []⟩, { s with resumeProofs := s.resumeProofs - 1, owner, channel })
  | .suspend rounds suspends =>
    let (result, owner, channel) := s.owner.suspend s.channel rounds suspends
    (⟨succeeded result, []⟩, { s with owner, channel })
  | .resumeTui size resizes resumes =>
    let (result, owner) := s.owner.resumeTui size resizes resumes
    (⟨succeeded result, []⟩, { s with owner })
  | .resize size resizes =>
    let (result, owner) := s.owner.resize size resizes
    (⟨succeeded result, []⟩, { s with owner })
  | .forwardSignal signal forwards continues =>
    let (result, owner) := s.owner.forwardSignal signal forwards continues
    (⟨succeeded result, []⟩, { s with owner })
  | .beginOutputDrain =>
    let (result, owner) := s.owner.beginOutputDrain
    (⟨succeeded result, []⟩, { s with owner })
  | .quiesce shuts =>
    let (step, owner) := s.owner.quiesce shuts
    (⟨step.progress = .advanced, []⟩, { s with owner })
  | .shutdownTui reply =>
    let (step, owner) := s.owner.shutdownTui reply
    (⟨step.progress = .advanced, []⟩, { s with owner })

end Ingress

/-! ## What is read -/

namespace TerminalChannel

variable {c c' : TerminalChannel} {turn : ReadTurn} {read : TerminalRead}

theorem le_position_of_mem_number {position : ℕ} {bytes : List UInt8} {b : ChannelByte}
    (mem : b ∈ number position bytes) : position ≤ b.position := by
  induction bytes generalizing position with
  | nil => cases mem
  | cons byte bytes ih =>
    rw [number, List.mem_cons] at mem
    obtain rfl | mem := mem
    · exact le_refl _
    · have later := ih mem
      omega

/-- A channel moves on: what is pending was pending before or has arrived since. -/
structure MovesOn (c c' : TerminalChannel) : Prop where
  arrived : c.arrived ≤ c'.arrived
  pending : ∀ b ∈ c'.pending, b ∈ c.pending ∨ c.arrived ≤ b.position

theorem MovesOn.refl (c : TerminalChannel) : MovesOn c c := ⟨le_refl _, fun _ => .inl⟩

theorem MovesOn.trans {c'' : TerminalChannel} (h : MovesOn c c') (h' : MovesOn c' c'') :
    MovesOn c c'' := by
  refine ⟨le_trans h.arrived h'.arrived, fun b mem => ?_⟩
  obtain earlier | later := h'.pending b mem
  · exact h.pending b earlier
  · exact .inr (le_trans h.arrived later)

/-- The bytes of a read, delivered or left pending, were pending before or arrived for it. Nothing is
pending where it would block. -/
theorem read_movesOn (h : c.read turn = (read, c')) :
    MovesOn c c' ∧
      (∀ chunk, read = .data chunk → ∀ b ∈ chunk, b ∈ c.pending ∨ c.arrived ≤ b.position) ∧
      (read = .wouldBlock → c'.pending = []) := by
  have arrives : ∀ b ∈ c.pending ++ number c.arrived turn.arrives,
      b ∈ c.pending ∨ c.arrived ≤ b.position := by
    intro b mem
    exact (List.mem_append.1 mem).imp_right le_position_of_mem_number
  unfold TerminalChannel.read arrive at h
  cases reply : turn.reply with
  | failed =>
    simp only [reply] at h
    obtain ⟨rfl, rfl⟩ := Prod.mk.inj h
    exact ⟨⟨Nat.le_add_right _ _, arrives⟩, fun _ other => by (cases other), fun other => by cases other⟩
  | deliver limit =>
    simp only [reply] at h
    by_cases empty : c.pending ++ number c.arrived turn.arrives = []
    · rw [if_pos empty] at h
      obtain ⟨rfl, rfl⟩ := Prod.mk.inj h
      refine ⟨⟨Nat.le_add_right _ _, arrives⟩, fun chunk other => ?_, fun _ => empty⟩
      split at other <;> cases other
    · rw [if_neg empty] at h
      obtain ⟨rfl, rfl⟩ := Prod.mk.inj h
      refine ⟨⟨Nat.le_add_right _ _, fun b mem => arrives b (List.mem_of_mem_drop mem)⟩, ?_, ?_⟩
      · rintro chunk ⟨⟩ b mem
        exact arrives b (List.mem_of_mem_take mem)
      · exact fun other => by cases other

end TerminalChannel

open TerminalChannel

/-- A discard that succeeds leaves nothing pending. -/
theorem discardFragments_movesOn (fragments : ℕ) (rounds : List DiscardRound) (c : TerminalChannel) :
    MovesOn c (discardFragments fragments rounds c).2 ∧
      ((discardFragments fragments rounds c).1 = .ok () →
        (discardFragments fragments rounds c).2.pending = []) := by
  fun_induction discardFragments fragments rounds c with
  | case1 | case2 | case3 => exact ⟨.refl _, fun other => by cases other⟩
  | case4 fragments turn rounds c chunk c' read ih =>
    exact ⟨(read_movesOn read).1.trans ih.1, ih.2⟩
  | case5 fragments turn rounds c c' read =>
    obtain ⟨advances, -, empty⟩ := read_movesOn read
    exact ⟨advances, fun _ => empty rfl⟩
  | case6 fragments turn rounds c c' read => exact ⟨(read_movesOn read).1, fun other => by cases other⟩
  | case7 fragments turn rounds c c' read => exact ⟨(read_movesOn read).1, fun other => by cases other⟩

theorem discard_movesOn {rounds : List DiscardRound} {c c' : TerminalChannel}
    {result : Except TerminalPumpFailure Unit}
    (h : discardTerminalInputBefore rounds c = (result, c')) :
    MovesOn c c' ∧ (result = .ok () → c'.pending = []) := by
  have spec := discardFragments_movesOn terminalDiscardMaxFragments rounds c
  rw [discardTerminalInputBefore] at h
  rwa [h] at spec

/-- What is written of a fragment belongs to it. -/
theorem writeFragmentBefore_mem {α : Type} {failure : TerminalPumpFailure} {chunk : List α}
    {rounds : List WriteRound} {b : α} (mem : b ∈ (writeFragmentBefore failure chunk rounds).2) :
    b ∈ chunk := by
  fun_induction writeFragmentBefore failure chunk rounds with
  | case1 | case2 | case3 | case4 | case7 => cases mem
  | case5 b chunk rounds ih | case6 b chunk rounds ih => exact ih mem
  | case8 first chunk accepted rounds count positive result written rest ih =>
    obtain now | later := List.mem_append.1 mem
    · exact List.mem_of_mem_take now
    · exact List.mem_of_mem_drop (ih (by rw [rest]; exact later))

/-! ## What a call does to the pump -/

/-- A pump that never forwards input again. -/
def TerminalPumpAuthority.Ended : TerminalPumpAuthority → Prop
  | .outputClosed | .quiesced | .failed _ => True
  | .outputOnly | .duplex | .suspended _ => False

/-- The moves of the pump. -/
inductive PumpMove (s : Ingress) (c : IngressCall) (s' : Ingress) : Prop
  | kept (same : s'.owner.pump = s.owner.pump)
  | openedInitial (rounds : List DiscardRound) (call : c = .openInitialIngress rounds)
      (proof : 0 < s.initialProofs) (before : s.owner.pump = .outputOnly)
      (after : s'.owner.pump = .duplex) (empty : s'.channel.pending = [])
      (used : s'.initialProofs + 1 = s.initialProofs)
  | openedResumed (rounds : List DiscardRound) (call : c = .openResumedIngress rounds)
      (proof : 0 < s.resumeProofs) (before : s.owner.pump = .suspended true)
      (after : s'.owner.pump = .duplex) (empty : s'.channel.pending = [])
      (used : s'.resumeProofs + 1 = s.resumeProofs)
  | drained (call : c = .beginOutputDrain) (before : s.owner.pump = .duplex)
      (after : s'.owner.pump = .outputOnly)
  | suspended (before : s.owner.pump = .duplex) (after : s'.owner.pump = .suspended false)
  | resumed (before : s.owner.pump = .suspended false) (after : s'.owner.pump = .suspended true)
  | ended (after : s'.owner.pump.Ended)

/-- What a call of the owner does: the pump moves, the channel moves on, bytes are forwarded through a
duplex pump only, and no proof is handed out. -/
structure OwnerStep (s : Ingress) (c : IngressCall) (output : IngressOutput) (s' : Ingress) : Prop where
  move : PumpMove s c s'
  channel : MovesOn s.channel s'.channel
  forwards : ∀ b ∈ output.forwarded, s.owner.pump = .duplex ∧
    (b ∈ s.channel.pending ∨ s.channel.arrived ≤ b.position)
  drains : c = .beginOutputDrain → output.done = true → s.owner.pump = .duplex ∧
    s'.owner.pump = .outputOnly
  empties : c.Discards → output.done = true → s'.channel.pending = []
  receiver : s'.receiver = s.receiver
  proofs : s'.initialProofs ≤ s.initialProofs
  used : ∀ rounds, c = .openInitialIngress rounds → s'.initialProofs = s.initialProofs - 1

section

variable {s : Ingress}

theorem pumpInput_bytes (c : TerminalChannel) (turn : GuardianPumpTurn) :
    MovesOn c (pumpInput c turn).2.1 ∧
      ∀ b ∈ (pumpInput c turn).2.2, b ∈ c.pending ∨ c.arrived ≤ b.position := by
  unfold pumpInput
  split
  · next chunk c' read =>
    obtain ⟨advances, bytes, -⟩ := read_movesOn read
    refine ⟨advances, fun b mem => bytes chunk rfl b ?_⟩
    exact writeFragmentBefore_mem mem
  · next c' read => exact ⟨(read_movesOn read).1, fun b mem => by cases mem⟩
  · next c' read => exact ⟨(read_movesOn read).1, fun b mem => by cases mem⟩
  · next c' read => exact ⟨(read_movesOn read).1, fun b mem => by cases mem⟩

theorem pumpGuardianTerminalOnce_bytes (pump : TerminalPumpAuthority) (c : TerminalChannel)
    (turn : GuardianPumpTurn) :
    MovesOn c (pumpGuardianTerminalOnce pump c turn).2.1 ∧
      ∀ b ∈ (pumpGuardianTerminalOnce pump c turn).2.2, pump = .duplex ∧
        (b ∈ c.pending ∨ c.arrived ≤ b.position) := by
  unfold pumpGuardianTerminalOnce
  cases pump with
  | duplex =>
    dsimp only
    cases pumpOutput turn.output with
    | error error => exact ⟨.refl c, fun b mem => by cases mem⟩
    | ok output =>
      obtain ⟨advances, bytes⟩ := pumpInput_bytes c turn
      exact ⟨advances, fun b mem => ⟨rfl, bytes b mem⟩⟩
  | outputOnly | suspended resumed | outputClosed | quiesced | failed error =>
    exact ⟨.refl c, fun b mem => by cases mem⟩

/-- A turn leaves the pump as it is or ends it. -/
theorem applyGuardianPumpResult_pump (o : TerminalGenerationOwner)
    (result : Except TerminalPumpFailure TerminalPumpProgress) :
    (o.applyGuardianPumpResult result).2.pump = o.pump ∨
      (o.applyGuardianPumpResult result).2.pump.Ended := by
  unfold TerminalGenerationOwner.applyGuardianPumpResult
  split
  · exact .inl rfl
  · exact .inr trivial
  · exact .inr trivial

theorem step_pumpOnce (turn : GuardianPumpTurn) :
    OwnerStep s (.pumpOnce turn) (s.step (.pumpOnce turn)).1 (s.step (.pumpOnce turn)).2 := by
  show OwnerStep s (.pumpOnce turn) ⟨_, (s.owner.pumpOnce s.channel turn).2.2.2⟩
    { s with
      owner := (s.owner.pumpOnce s.channel turn).2.1
      channel := (s.owner.pumpOnce s.channel turn).2.2.1 }
  unfold TerminalGenerationOwner.pumpOnce
  by_cases dead : s.owner.tui ≠ some .live
  · rw [if_pos dead]
    exact ⟨.kept rfl, .refl _, fun b mem => (by cases mem), fun other => (by cases other),
      fun other => (by cases other), rfl, le_refl _,
      fun rounds other => by cases other⟩
  · rw [if_neg dead]
    obtain ⟨advances, bytes⟩ := pumpGuardianTerminalOnce_bytes s.owner.pump s.channel turn
    refine ⟨?_, advances, bytes, fun other => (by cases other),
      fun other => (by cases other), rfl, le_refl _,
      fun rounds other => by cases other⟩
    obtain same | ended := applyGuardianPumpResult_pump s.owner
      (pumpGuardianTerminalOnce s.owner.pump s.channel turn).1
    · exact .kept same
    · exact .ended ended

/-- A call that only touches the owner, and neither opens the gate nor drains. -/
theorem OwnerStep.ofOwner {c : IngressCall} {done : Bool} {owner : TerminalGenerationOwner}
    (move : PumpMove s c { s with owner }) (other : c ≠ .beginOutputDrain) (keeps : ¬c.Discards) :
    OwnerStep s c ⟨done, []⟩ { s with owner } := by
  refine ⟨move, .refl _, fun b mem => (by cases mem), fun drain => absurd drain other,
    fun discards => absurd discards keeps, rfl, le_refl _, fun rounds opens => ?_⟩
  rw [opens] at keeps
  exact absurd trivial keeps

theorem step_openInitialIngress (rounds : List DiscardRound) :
    OwnerStep s (.openInitialIngress rounds) (s.step (.openInitialIngress rounds)).1
      (s.step (.openInitialIngress rounds)).2 := by
  unfold Ingress.step
  dsimp only
  by_cases none : s.initialProofs = 0
  · rw [if_pos none]
    exact ⟨.kept rfl, .refl _, fun b mem => (by cases mem), fun other => (by cases other),
      fun _ other => (by cases other), rfl, le_refl _, fun _ _ => by rw [none]⟩
  rw [if_neg none]
  unfold TerminalGenerationOwner.openInitialIngress
  cases discarded : discardTerminalInputBefore rounds s.channel with
  | mk result channel =>
    obtain ⟨advances, empty⟩ := discard_movesOn discarded
    cases result with
    | error error =>
      exact ⟨.kept rfl, advances, fun b mem => (by cases mem), fun other => (by cases other),
        fun _ other => (by cases other), rfl, Nat.sub_le _ _, fun _ _ => rfl⟩
    | ok _ =>
      dsimp only
      split
      · next before =>
        exact ⟨.openedInitial rounds rfl (Nat.pos_of_ne_zero none) before rfl (empty rfl)
          (Nat.succ_pred none), advances, fun b mem => (by cases mem), fun other => (by cases other),
          fun _ _ => empty rfl, rfl, Nat.sub_le _ _, fun _ _ => rfl⟩
      · exact ⟨.kept rfl, advances, fun b mem => (by cases mem), fun other => (by cases other),
          fun _ other => (by cases other), rfl, Nat.sub_le _ _, fun _ _ => rfl⟩

theorem step_openResumedIngress (rounds : List DiscardRound) :
    OwnerStep s (.openResumedIngress rounds) (s.step (.openResumedIngress rounds)).1
      (s.step (.openResumedIngress rounds)).2 := by
  unfold Ingress.step
  dsimp only
  by_cases none : s.resumeProofs = 0
  · rw [if_pos none]
    exact ⟨.kept rfl, .refl _, fun b mem => (by cases mem), fun other => (by cases other),
      fun _ other => (by cases other), rfl, le_refl _, fun _ other => by cases other⟩
  rw [if_neg none]
  unfold TerminalGenerationOwner.openResumedIngress
  cases discarded : discardTerminalInputBefore rounds s.channel with
  | mk result channel =>
    obtain ⟨advances, empty⟩ := discard_movesOn discarded
    cases result with
    | error error =>
      exact ⟨.kept rfl, advances, fun b mem => (by cases mem), fun other => (by cases other),
        fun _ other => (by cases other), rfl, le_refl _, fun _ other => by cases other⟩
    | ok _ =>
      dsimp only
      split
      · next before =>
        exact ⟨.openedResumed rounds rfl (Nat.pos_of_ne_zero none) before rfl (empty rfl)
          (Nat.succ_pred none), advances, fun b mem => (by cases mem), fun other => (by cases other),
          fun _ _ => empty rfl, rfl, le_refl _, fun _ other => by cases other⟩
      · exact ⟨.kept rfl, advances, fun b mem => (by cases mem), fun other => (by cases other),
          fun _ other => (by cases other), rfl, le_refl _, fun _ other => by cases other⟩

/-- A suspension ends the ingress, or the pump. -/
theorem suspend_pump (o : TerminalGenerationOwner) (c : TerminalChannel) (rounds : List DiscardRound)
    (suspends : Bool) :
    MovesOn c (o.suspend c rounds suspends).2.2 ∧
      (succeeded (o.suspend c rounds suspends).1 → (o.suspend c rounds suspends).2.2.pending = []) ∧
      ((o.suspend c rounds suspends).2.1.pump = o.pump ∨
        o.pump = .duplex ∧ (o.suspend c rounds suspends).2.1.pump = .suspended false ∨
        (o.suspend c rounds suspends).2.1.pump.Ended) := by
  unfold TerminalGenerationOwner.suspend
  cases pump : o.pump with
  | duplex =>
    dsimp only
    cases discarded : discardTerminalInputBefore rounds c with
    | mk result channel =>
      obtain ⟨advances, empty⟩ := discard_movesOn discarded
      cases result with
      | error error => exact ⟨advances, fun other => (by cases other), .inr (.inr trivial)⟩
      | ok _ =>
        dsimp only
        split_ifs
        · exact ⟨advances, fun _ => empty rfl, .inr (.inr trivial)⟩
        · exact ⟨advances, fun _ => empty rfl, .inr (.inl ⟨rfl, rfl⟩)⟩
        · exact ⟨advances, fun _ => empty rfl, .inr (.inr trivial)⟩
  | outputOnly | suspended resumed | outputClosed | quiesced | failed error =>
    exact ⟨.refl c, fun other => (by cases other), .inl pump⟩

theorem step_suspend (rounds : List DiscardRound) (suspends : Bool) :
    OwnerStep s (.suspend rounds suspends) (s.step (.suspend rounds suspends)).1
      (s.step (.suspend rounds suspends)).2 := by
  obtain ⟨advances, empty, moves⟩ := suspend_pump s.owner s.channel rounds suspends
  refine ⟨?_, advances, fun b mem => (by cases mem), fun other => (by cases other), fun _ => empty, rfl,
    le_refl _, fun _ other => by cases other⟩
  obtain same | ⟨before, after⟩ | ended := moves
  · exact .kept same
  · exact .suspended before after
  · exact .ended ended

theorem step_resumeTui (size : CellCount × CellCount) (resizes resumes : Bool) :
    PumpMove s (.resumeTui size resizes resumes)
      { s with owner := (s.owner.resumeTui size resizes resumes).2 } := by
  unfold TerminalGenerationOwner.resumeTui
  split
  · next before =>
    split_ifs
    · exact .kept rfl
    · exact .resumed before rfl
    · exact .ended trivial
    · exact .ended trivial
  · exact .kept rfl
  · exact .kept rfl

theorem resize_pump (o : TerminalGenerationOwner) (size : CellCount × CellCount) (resizes : Bool) :
    (o.resize size resizes).2.pump = o.pump := by
  unfold TerminalGenerationOwner.resize
  split_ifs <;> rfl

theorem forwardSignal_pump (o : TerminalGenerationOwner) (signal : UnixSignal)
    (forwards continues : Bool) : (o.forwardSignal signal forwards continues).2.pump = o.pump := by
  unfold TerminalGenerationOwner.forwardSignal
  cases signal with
  | int | quit | hup | term =>
    dsimp only
    split_ifs <;> rfl

theorem tuiShutdown_pump (o : TerminalGenerationOwner) (outcome : Option ShutdownOutcome) :
    (o.tuiShutdown outcome).2.pump = o.pump := by
  cases outcome <;> rfl

theorem shutdownTui_pump (o : TerminalGenerationOwner)
    (reply : TuiShutdownCall → Option ShutdownOutcome) : (o.shutdownTui reply).2.pump = o.pump := by
  unfold TerminalGenerationOwner.shutdownTui
  split
  · rfl
  · split
    · exact tuiShutdown_pump _ _
    · split
      · exact tuiShutdown_pump _ _
      · exact tuiShutdown_pump _ _
  · exact tuiShutdown_pump _ _
  · rfl

theorem step_beginOutputDrain :
    OwnerStep s .beginOutputDrain (s.step .beginOutputDrain).1 (s.step .beginOutputDrain).2 := by
  unfold Ingress.step TerminalGenerationOwner.beginOutputDrain
  cases pump : s.owner.pump with
  | duplex =>
    exact ⟨.drained rfl pump rfl, .refl _, fun b mem => (by cases mem), fun _ _ => ⟨pump, rfl⟩,
      fun other => (by cases other), rfl, le_refl _, fun _ other => by cases other⟩
  | outputOnly | suspended resumed | outputClosed | quiesced | failed error =>
    exact ⟨.kept rfl, .refl _, fun b mem => (by cases mem), fun _ other => (by cases other),
      fun other => (by cases other), rfl, le_refl _, fun _ other => by cases other⟩

/-- Every call but those of the receiver. -/
theorem step_owner {c : IngressCall} (owned : ∀ call, c ≠ .receiver call) :
    OwnerStep s c (s.step c).1 (s.step c).2 := by
  cases c with
  | receiver call => exact absurd rfl (owned call)
  | pumpOnce turn => exact step_pumpOnce turn
  | openInitialIngress rounds => exact step_openInitialIngress rounds
  | openResumedIngress rounds => exact step_openResumedIngress rounds
  | suspend rounds suspends => exact step_suspend rounds suspends
  | resumeTui size resizes resumes => exact .ofOwner (step_resumeTui size resizes resumes) (by simp) id
  | resize size resizes => exact .ofOwner (.kept (resize_pump _ _ _)) (by simp) id
  | forwardSignal signal forwards continues =>
    exact .ofOwner (.kept (forwardSignal_pump _ _ _ _)) (by simp) id
  | beginOutputDrain => exact step_beginOutputDrain
  | quiesce shuts => exact .ofOwner (.ended trivial) (by simp) id
  | shutdownTui reply => exact .ofOwner (.kept (shutdownTui_pump _ _)) (by simp) id

end

/-! ## At most one initial proof -/

namespace Ingress

variable {s : Ingress} {c : IngressCall} {r : ReceiverCall}

/-- There is no initial proof, and there will be none. -/
structure Spent (s : Ingress) : Prop where
  proofs : s.initialProofs = 0
  pending : s.receiver.pending ≠ some (.openGate .initial)
  gate : s.receiver.terminal.GateSpent

/-- The initial proof is one, and it is used once the gate has been open. -/
structure Gated (s : Ingress) : Prop where
  minted : 0 < s.initialProofs ∨ s.receiver.pending = some (.openGate .initial) →
    s.receiver.terminal.GateSpent
  single : s.receiver.pending = some (.openGate .initial) → s.initialProofs = 0
  unique : s.initialProofs ≤ 1
  opened : (s.owner.pump = .duplex ∨ ∃ resumed, s.owner.pump = .suspended resumed) → s.Spent

theorem Gated.new : Gated .new :=
  ⟨fun held => (by obtain none | none := held <;> cases none), fun none => (by cases none),
    Nat.zero_le 1, fun opened => (by obtain other | ⟨resumed, other⟩ := opened <;> cases other)⟩

theorem receive_of_proof (taken : (s.receiver.call r).1 = .ok (.proof (.openGate .initial))) :
    s.receiver.pending = some (.openGate .initial) ∧
      (s.receive r).receiver.pending = none ∧ (s.receive r).initialProofs = s.initialProofs + 1 := by
  have outcome : GuardianCommandReceiver.TakeOutcome s.receiver (s.receiver.call r) :=
    GuardianCommandReceiver.call_takeOutcome (GuardianCommandReceiver.not_advances_of_proof taken)
  obtain ⟨pending, none⟩ := outcome.proof _ taken
  refine ⟨pending, none, ?_⟩
  simp only [receive, taken, if_true]

theorem receive_initialProofs (kept : (s.receiver.call r).1 ≠ .ok (.proof (.openGate .initial))) :
    (s.receive r).initialProofs = s.initialProofs := by
  simp only [receive, if_neg kept, Nat.add_zero]

theorem Spent.receive (h : s.Spent) (r : ReceiverCall) : (s.receive r).Spent := by
  have outcome := GuardianCommandReceiver.call_gateOutcome s.receiver r
  refine ⟨?_, fun pending => ?_, outcome.spent h.gate⟩
  · rw [receive_initialProofs fun taken => h.pending (receive_of_proof taken).1]
    exact h.proofs
  · obtain earlier | ⟨-, unspent⟩ := outcome.minted pending
    · exact h.pending earlier
    · exact unspent h.gate

theorem Gated.receive (h : s.Gated) (r : ReceiverCall) : (s.receive r).Gated := by
  have outcome := GuardianCommandReceiver.call_gateOutcome s.receiver r
  by_cases taken : (s.receiver.call r).1 = .ok (.proof (.openGate .initial))
  · obtain ⟨pending, none, one⟩ := receive_of_proof taken
    have proofs : (s.receive r).initialProofs = 1 := by rw [one, h.single pending]
    refine ⟨fun _ => outcome.spent (h.minted (.inr pending)), fun other => ?_, proofs.le, fun opened => ?_⟩
    · cases none.symm.trans other
    · exact absurd pending (h.opened opened).pending
  · have proofs := receive_initialProofs taken
    refine ⟨?_, fun pending => ?_, proofs.trans_le h.unique, fun opened => (h.opened opened).receive r⟩
    · rintro (held | pending)
      · exact outcome.spent (h.minted (.inl (proofs ▸ held)))
      · obtain earlier | ⟨spent, -⟩ := outcome.minted pending
        · exact outcome.spent (h.minted (.inr earlier))
        · exact spent
    · rw [proofs]
      obtain earlier | ⟨-, unspent⟩ := outcome.minted pending
      · exact h.single earlier
      · by_contra held
        exact unspent (h.minted (.inl (Nat.pos_of_ne_zero held)))

variable {output : IngressOutput} {s' : Ingress}

theorem Spent.ofOwner (h : s.Spent) (step : OwnerStep s c output s') : s'.Spent := by
  refine ⟨Nat.le_zero.1 (h.proofs ▸ step.proofs), ?_, ?_⟩
  · rw [step.receiver]
    exact h.pending
  · rw [step.receiver]
    exact h.gate

/-- An opening uses the one initial proof. -/
theorem Gated.ofOwner (h : s.Gated) (step : OwnerStep s c output s') : s'.Gated := by
  refine ⟨?_, fun pending => ?_, le_trans step.proofs h.unique, fun opened => ?_⟩
  · rw [step.receiver]
    rintro (held | pending)
    · exact h.minted (.inl (lt_of_lt_of_le held step.proofs))
    · exact h.minted (.inr pending)
  · rw [step.receiver] at pending
    exact Nat.le_zero.1 (h.single pending ▸ step.proofs)
  · cases step.move with
    | kept same => exact (h.opened (same ▸ opened)).ofOwner step
    | openedInitial rounds call proof =>
      have used := step.used rounds call
      have unique := h.unique
      refine ⟨by omega, ?_, ?_⟩
      · rw [step.receiver]
        exact fun pending => absurd (h.single pending) (Nat.pos_iff_ne_zero.1 proof)
      · rw [step.receiver]
        exact h.minted (.inl proof)
    | openedResumed rounds call proof before => exact (h.opened (.inr ⟨true, before⟩)).ofOwner step
    | drained call before after =>
      rw [after] at opened
      obtain other | ⟨resumed, other⟩ := opened <;> cases other
    | suspended before => exact (h.opened (.inl before)).ofOwner step
    | resumed before => exact (h.opened (.inr ⟨false, before⟩)).ofOwner step
    | ended after =>
      obtain other | ⟨resumed, other⟩ := opened
      · rw [other] at after
        cases after
      · rw [other] at after
        cases after

theorem Gated.step (h : s.Gated) (c : IngressCall) : (s.step c).2.Gated := by
  by_cases owned : ∀ call, c ≠ .receiver call
  · exact h.ofOwner (step_owner owned)
  · obtain ⟨call, called⟩ := not_forall.1 owned
    obtain rfl := not_not.1 called
    exact h.receive call

/-! ## Where the input ends -/

/-- No input is forwarded any more: the pump has ended, or it is open for output only and no initial
proof is left. -/
def Dry (s : Ingress) : Prop :=
  (s.owner.pump = .outputOnly ∧ s.Spent) ∨ s.owner.pump.Ended

theorem Dry.not_duplex (h : s.Dry) : s.owner.pump ≠ .duplex := by
  intro duplex
  obtain ⟨only, -⟩ | ended := h
  · cases duplex.symm.trans only
  · rw [duplex] at ended
    cases ended

theorem Dry.not_suspended (h : s.Dry) (resumed : Bool) : s.owner.pump ≠ .suspended resumed := by
  intro suspended
  obtain ⟨only, -⟩ | ended := h
  · cases suspended.symm.trans only
  · rw [suspended] at ended
    cases ended

theorem Dry.ofOwner (h : s.Dry) (step : OwnerStep s c output s') : s'.Dry := by
  cases step.move with
  | kept same =>
    rw [Dry, same]
    exact h.imp_left fun only => ⟨only.1, only.2.ofOwner step⟩
  | openedInitial rounds call proof before =>
    obtain ⟨-, spent⟩ | ended := h
    · exact absurd spent.proofs (Nat.pos_iff_ne_zero.1 proof)
    · rw [before] at ended
      cases ended
  | openedResumed rounds call proof before => exact absurd before (h.not_suspended true)
  | drained call before => exact absurd before h.not_duplex
  | suspended before => exact absurd before h.not_duplex
  | resumed before => exact absurd before (h.not_suspended false)
  | ended after => exact .inr after

theorem Dry.step (h : s.Dry) (c : IngressCall) : (s.step c).2.Dry := by
  by_cases owned : ∀ call, c ≠ .receiver call
  · exact h.ofOwner (step_owner owned)
  · obtain ⟨call, called⟩ := not_forall.1 owned
    obtain rfl := not_not.1 called
    exact h.imp_left fun only => ⟨only.1, only.2.receive call⟩

theorem Dry.final (h : s.Dry) (calls : List IngressCall) : (final Ingress.step s calls).Dry := by
  induction calls generalizing s with
  | nil => exact h
  | cons c calls ih => exact ih (h.step c)

theorem step_forwards {b : ChannelByte} (mem : b ∈ (s.step c).1.forwarded) :
    s.owner.pump = .duplex ∧ (b ∈ s.channel.pending ∨ s.channel.arrived ≤ b.position) := by
  by_cases owned : ∀ call, c ≠ .receiver call
  · exact (step_owner owned).forwards b mem
  · obtain ⟨call, called⟩ := not_forall.1 owned
    obtain rfl := not_not.1 called
    cases mem

/-- A drain that succeeds ends the input, since the gate has been open. -/
theorem Gated.dry_of_drain (h : s.Gated) (drained : (s.step .beginOutputDrain).1.done = true) :
    (s.step .beginOutputDrain).2.Dry := by
  have step := step_beginOutputDrain (s := s)
  obtain ⟨before, after⟩ := step.drains rfl drained
  exact .inl ⟨after, (h.opened (.inl before)).ofOwner step⟩

end Ingress

/-! ## Runs -/

abbrev IngressStep : Type := Step Ingress IngressCall IngressOutput

/-- The gate is closed before a step or after it. -/
def Fences (step : IngressStep) : Prop :=
  step.before.owner.pump ≠ .duplex ∨ step.after.owner.pump ≠ .duplex

/-- A step that ends the input: it drains the output, or it ends the pump. -/
def EndsInput (step : IngressStep) : Prop :=
  (step.input = .beginOutputDrain ∧ step.output.done = true) ∨ step.after.owner.pump.Ended

/-- The step opens a closed gate with a proof, which it uses up. -/
inductive Opens (step : IngressStep) : Prop
  | initial (rounds : List DiscardRound) (input : step.input = .openInitialIngress rounds)
      (before : step.before.owner.pump = .outputOnly)
      (used : step.after.initialProofs + 1 = step.before.initialProofs)
  | resumed (rounds : List DiscardRound) (input : step.input = .openResumedIngress rounds)
      (before : step.before.owner.pump = .suspended true)
      (used : step.after.resumeProofs + 1 = step.before.resumeProofs)

/-- What the steps of a run keep to. -/
structure InputKept (steps : List IngressStep) : Prop where
  forwards : ∀ step ∈ steps, step.output.forwarded ≠ [] → step.before.owner.pump = .duplex
  opens : ∀ step ∈ steps, step.before.owner.pump ≠ .duplex → step.after.owner.pump = .duplex → Opens step
  empties : ∀ step ∈ steps, step.input.Discards → step.output.done = true →
    step.after.channel.pending = []
  discards : ∀ past fence mid step later, steps = past ++ fence :: (mid ++ step :: later) → Fences fence →
    ∀ b ∈ step.output.forwarded, fence.after.channel.arrived ≤ b.position
  ends : ∀ past last mid step later, steps = past ++ last :: (mid ++ step :: later) → EndsInput last →
    step.output.forwarded = []

/-- What holds after the steps of a past. -/
structure Fenced (past : List IngressStep) (s : Ingress) : Prop where
  gated : s.Gated
  arrived : ∀ step ∈ past, step.after.channel.arrived ≤ s.channel.arrived
  fresh : s.owner.pump = .duplex → ∀ step ∈ past, Fences step → ∀ b ∈ s.channel.pending,
    step.after.channel.arrived ≤ b.position

section

variable {s : Ingress} {c : IngressCall} {past : List IngressStep}

theorem step_movesOn : MovesOn s.channel (s.step c).2.channel := by
  by_cases owned : ∀ call, c ≠ .receiver call
  · exact (step_owner owned).channel
  · obtain ⟨call, called⟩ := not_forall.1 owned
    obtain rfl := not_not.1 called
    exact .refl _

theorem step_opens (before : s.owner.pump ≠ .duplex) (after : (s.step c).2.owner.pump = .duplex) :
    Opens (stepAt Ingress.step s c) ∧ (s.step c).2.channel.pending = [] := by
  by_cases owned : ∀ call, c ≠ .receiver call
  · cases (step_owner owned).move with
    | kept same => exact absurd (same.symm.trans after) before
    | openedInitial rounds call proof only duplex empty used => exact ⟨.initial rounds call only used, empty⟩
    | openedResumed rounds call proof only duplex empty used => exact ⟨.resumed rounds call only used, empty⟩
    | drained call duplex => exact absurd duplex before
    | suspended duplex => exact absurd duplex before
    | resumed suspended resumed => cases after.symm.trans resumed
    | ended ended =>
      rw [after] at ended
      cases ended
  · obtain ⟨call, called⟩ := not_forall.1 owned
    obtain rfl := not_not.1 called
    exact absurd after before

theorem step_empties (discards : c.Discards) (done : (s.step c).1.done = true) :
    (s.step c).2.channel.pending = [] := by
  refine (step_owner fun call => ?_).empties discards done
  rintro rfl
  cases discards

theorem Fenced.step (h : Fenced past s) (c : IngressCall) :
    Fenced (past ++ [stepAt Ingress.step s c]) (s.step c).2 := by
  have advances := step_movesOn (s := s) (c := c)
  refine ⟨h.gated.step c, fun step mem => ?_, fun duplex step mem fences b pending => ?_⟩
  · obtain earlier | rfl := List.mem_append.1 mem |>.imp_right List.mem_singleton.1
    · exact le_trans (h.arrived step earlier) advances.arrived
    · exact le_refl _
  · by_cases before : s.owner.pump = .duplex
    · obtain earlier | rfl := List.mem_append.1 mem |>.imp_right List.mem_singleton.1
      · obtain old | new := advances.pending b pending
        · exact h.fresh before step earlier fences b old
        · exact le_trans (h.arrived step earlier) new
      · exact (fences.elim (absurd before) (absurd duplex))
    · rw [(step_opens before duplex).2] at pending
      cases pending

theorem fenced_history (calls : List IngressCall) :
    Fenced (history Ingress.step .new calls) (final Ingress.step .new calls) := by
  refine history_invariant (P := fun _ => True) ⟨.new, fun step mem => (by cases mem), ?_⟩
    (fun past s c h _ => h.step c) calls fun _ _ => trivial
  exact fun _ step mem => by cases mem

end

/-- What is typed reaches the TUI only through an open gate, the gate is opened only with a proof, what
was pending when it was closed is never forwarded, and after the end of the input nothing is. -/
theorem input_gate (calls : List IngressCall) : InputKept (history Ingress.step .new calls) := by
  refine ⟨fun step mem forwards => ?_, fun step mem before after => ?_, fun step mem discards done => ?_,
    fun past fence mid step later steps fences b forwarded => ?_,
    fun past last mid step later steps ends => ?_⟩
  · obtain ⟨past, later, steps⟩ := List.append_of_mem mem
    obtain ⟨earlier, c, -, -, -, rfl, -⟩ := history_split steps
    obtain ⟨b, forwarded⟩ := List.exists_mem_of_ne_nil _ forwards
    exact (Ingress.step_forwards forwarded).1
  · obtain ⟨past, later, steps⟩ := List.append_of_mem mem
    obtain ⟨earlier, c, -, -, -, rfl, -⟩ := history_split steps
    exact (step_opens before after).1
  · obtain ⟨past, later, steps⟩ := List.append_of_mem mem
    obtain ⟨earlier, c, -, -, -, rfl, -⟩ := history_split steps
    exact step_empties discards done
  · -- The fence lies in the past of the step, where an open gate has fresh bytes pending only.
    rw [← List.cons_append, ← List.append_assoc] at steps
    obtain ⟨earlier, c, -, -, hpast, rfl, -⟩ := history_split steps
    have fenced := fenced_history earlier
    have mem : fence ∈ history Ingress.step .new earlier := by
      rw [← hpast]
      exact List.mem_append_right _ (List.mem_cons_self ..)
    obtain ⟨duplex, old | new⟩ := Ingress.step_forwards forwarded
    · exact fenced.fresh duplex fence mem fences b old
    · exact le_trans (fenced.arrived fence mem) new
  · obtain ⟨earlier, c, rest, -, -, rfl, tail⟩ := history_split steps
    obtain ⟨between, d, -, -, -, rfl, -⟩ := history_split tail.symm
    have gated := (fenced_history earlier).gated
    have dry : (stepAt Ingress.step (final Ingress.step .new earlier) c).after.Dry := by
      obtain ⟨drains, done⟩ | ended := ends
      · obtain rfl : c = .beginOutputDrain := drains
        exact gated.dry_of_drain done
      · exact .inr ended
    refine List.eq_nil_iff_forall_not_mem.2 fun b forwarded => ?_
    exact (dry.final between).not_duplex (Ingress.step_forwards forwarded).1

end Calcifer.Supervisor
