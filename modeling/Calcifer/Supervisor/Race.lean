import Calcifer.Supervisor.Duplex

/-!
# A failure that races a command

The guardian announces a failure of one of its components and quiesces while a command of the
coordinator may still be unread. `Racing` follows both sides from there to the end of the session, in
every order of delivery.

`announced_failure_tolerates_iff` says which commands the guardian can still read: an opened gate, an
interrupt or quit signal and a resize. It reports an error for every other one that the coordinator
may have sent, although the coordinator takes the failure for the answer to all of them.
-/

namespace Calcifer.Supervisor

open TerminalLifecycleValidator

/-! ## The two transcripts of a race -/

/-- The transcript `v` after the announced failure `f`. -/
def TerminalLifecycleValidator.announced (v : TerminalLifecycleValidator) (f : Phase × FailureCode)
    (state : TerminalLifecycleState) (gate : Bool) : TerminalLifecycleValidator :=
  { v with state, supersededGateMayBePending := gate, failure := some f }

/-- The transcript `v` after the last of the guardian's words. -/
def TerminalLifecycleValidator.ended (v : TerminalLifecycleValidator) (f : Phase × FailureCode) :
    TerminalLifecycleValidator :=
  { v.announced f .terminal false with terminalExitDisposition := some .internalFailure }

/-- The commands that may be in flight when the guardian fails: none, or one that the coordinator sent
in the same state. -/
inductive Stale (v : TerminalLifecycleValidator) : List CoordinatorCommand → Prop
  | none : Stale v []
  | one {command : CoordinatorCommand} (sends : coordinatorSends v.state command) : Stale v [command]

/-- Where the coordinator is: its transcript, how many of the guardian's last words it has received,
and the commands that it wrote since `v`. -/
inductive CoordinatorAt (v : TerminalLifecycleValidator) (f : Phase × FailureCode) :
    TerminalLifecycleValidator → Nat → List CoordinatorCommand → Prop
  | synced : CoordinatorAt v f v 0 []
  | asked {command : CoordinatorCommand} {state : TerminalLifecycleState}
      (sends : coordinatorSends v.state command) (answer : state.Answered) :
      CoordinatorAt v f { v with state } 0 [command]
  | informed {old : List CoordinatorCommand} (gate : Bool) (stale : Stale v old) :
      CoordinatorAt v f (v.announced f .failedAwaitQuiesced gate) 1 old
  | quiet {old : List CoordinatorCommand} (gate : Bool) (stale : Stale v old) :
      CoordinatorAt v f (v.announced f .quiesced gate) 2 old
  | restored {old : List CoordinatorCommand} (stale : Stale v old) :
      CoordinatorAt v f (v.announced f .awaitRecoveryDisarmed false) 2 (old ++ [.terminalRestored])
  | disarmed {old : List CoordinatorCommand} (stale : Stale v old) :
      CoordinatorAt v f (v.announced f .recoveryDisarmed false) 3 (old ++ [.terminalRestored])
  | done {old : List CoordinatorCommand} (stale : Stale v old) :
      CoordinatorAt v f (v.ended f) 4 (old ++ [.terminalRestored])

/-- Where the guardian is: its transcript, its stage, how many of its last words it has written, and
the commands that it read since `v`. -/
inductive GuardianAt (v : TerminalLifecycleValidator) (f : Phase × FailureCode) :
    TerminalLifecycleValidator → GuardianStage → Nat → List CoordinatorCommand → Prop
  | quiescing : GuardianAt v f (v.announced f .failedAwaitQuiesced (v.state = .readyForGate))
      .quiescing 1 []
  | restoring {old : List CoordinatorCommand} (gate : Bool) (stale : Stale v old)
      (unread : old = [] → gate = decide (v.state = .readyForGate)) :
      GuardianAt v f (v.announced f .quiesced gate) .restoring 2 old
  | restored {old : List CoordinatorCommand} (stale : Stale v old) :
      GuardianAt v f (v.announced f .awaitRecoveryDisarmed false) .restored 2
        (old ++ [.terminalRestored])
  | disarmed {old : List CoordinatorCommand} (stale : Stale v old) :
      GuardianAt v f (v.announced f .recoveryDisarmed false) .disarmed 3 (old ++ [.terminalRestored])
  | reaped {old : List CoordinatorCommand} (stale : Stale v old) :
      GuardianAt v f (v.ended f) .reaped 4 (old ++ [.terminalRestored])

/-- The guardian's last words, with the report on the children at their end. -/
def lastWords (f : Phase × FailureCode) (report : GuardianEvent) : List GuardianEvent :=
  [.failed f.1 f.2, .terminalQuiesced, .terminalRecoveryDisarmed, report]

/-- A report that the transcript of the race accepts. -/
def Fits (v : TerminalLifecycleValidator) (f : Phase × FailureCode) (report : GuardianEvent) : Prop :=
  (v.announced f .recoveryDisarmed false).acceptEvent report = .ok (v.ended f)

/-- How far a race has come: how many of its last words the guardian has written and the coordinator
received, and the commands that were written and read. -/
structure Marks where
  emitted : Nat
  consumed : Nat
  written : List CoordinatorCommand
  read : List CoordinatorCommand

def Marks.rank (m : Marks) : Nat := m.emitted + m.consumed + m.written.length + m.read.length

/-- A session in a race. It began with the transcript `v`, in a state in which the guardian serves a
session that is ready, and with the proofs `proofs` and the acts `acted`. -/
structure Racing (v : TerminalLifecycleValidator) (f : Phase × FailureCode)
    (proofs : List PendingProof) (acted : List CoordinatorCommand) (m : Marks) (s : Session) :
    Prop where
  window : v.state = .readyForGate ∨ v.state = .active ∨ v.state = .suspended
  inactive : v.recoveryCommandAllowance = .inactive
  unfailed : v.failure = none
  coordinatorSound : s.coordinator.poisoned = false
  guardianSound : s.guardian.poisoned = false
  coordinator : CoordinatorAt v f s.coordinator.terminal m.consumed m.written
  guardian : GuardianAt v f s.guardian.terminal s.stage m.emitted m.read
  commands : m.written = m.read ++ s.commands
  behind : m.consumed ≤ m.emitted
  events : ∃ report, s.events = ((lastWords f report).take m.emitted).drop m.consumed ∧
    (m.emitted = 4 → Fits v f report)
  proofs : s.proofs = (if .terminalRestored ∈ m.read then [.terminalRestored] else []) ++ proofs
  acted : s.acted = acted

/-! ## What the validators accept in a race -/

section

variable {v : TerminalLifecycleValidator} {f : Phase × FailureCode}

/-- A failure is accepted wherever the session is under way. -/
theorem acceptEvent_failed {u : TerminalLifecycleValidator} (unfailed : u.failure = none)
    (inactive : u.recoveryCommandAllowance = .inactive) (live : u.state.live)
    (begun : u.state ≠ .awaitLeaseBeforeStart) (started : u.state ≠ .awaitStart) :
    u.acceptEvent (.failed f.1 f.2) =
      .ok (u.announced f .failedAwaitQuiesced (u.state = .readyForGate)) := by
  simp only [acceptEvent, acceptFailure, announced, unfailed, inactive]
  generalize u.state = state at live begun started ⊢
  cases state <;> first | rfl | contradiction

theorem acceptCommand_quiesced (inactive : v.recoveryCommandAllowance = .inactive) (gate : Bool)
    (command : CoordinatorCommand) :
    (v.announced f .quiesced gate).acceptCommand command =
      ((v.announced f .quiesced gate).applyCommand command).map (.applied, ·) := by
  simp [acceptCommand, acceptRecoverySupersededCommand, announced, inactive]
  cases (v.announced f .quiesced gate).applyCommand command <;> rfl

/-- The commands that the guardian can still read once it has quiesced. -/
def Superseded : CoordinatorCommand → Prop
  | .openInputGate | .signal .int | .signal .quit | .resize _ _ => True
  | _ => False

/-- The guardian reads a stale command exactly if it is a superseded one. -/
theorem acceptCommand_stale (inactive : v.recoveryCommandAllowance = .inactive)
    {command : CoordinatorCommand} (sends : coordinatorSends v.state command)
    (live : v.state.live) :
    (Superseded command ∧ ∃ gate, (v.announced f .quiesced (v.state = .readyForGate)).acceptCommand
        command = .ok (.applied, v.announced f .quiesced gate)) ∨
      (¬Superseded command ∧ (v.announced f .quiesced (v.state = .readyForGate)).acceptCommand
        command = .error .unexpectedState) := by
  rw [acceptCommand_quiesced inactive]
  revert sends live
  generalize v.state = state
  fun_cases coordinatorSends state command <;> intro sends live
  case case12 => cases sends
  case case9 => cases live
  case case5 => exact .inl ⟨trivial, _, rfl⟩
  case case6 signal | case8 signal =>
    cases signal with
    | int | quit => exact .inl ⟨trivial, _, rfl⟩
    | hup | term => exact .inr ⟨id, rfl⟩
  case case10 rows cols =>
    refine .inl ⟨trivial, false, ?_⟩
    simp [applyCommand, announced, validateTerminalSize_ok (of_decide_eq_true sends), Except.map]
  all_goals exact .inr ⟨id, rfl⟩

theorem live_of_window (window : v.state = .readyForGate ∨ v.state = .active ∨ v.state = .suspended) :
    v.state.live := by
  rcases window with h | h | h <;> rw [h] <;> rfl

theorem Stale.ne_terminalRestored {old : List CoordinatorCommand} (stale : Stale v old)
    (window : v.state = .readyForGate ∨ v.state = .active ∨ v.state = .suspended) :
    .terminalRestored ∉ old := by
  cases stale with
  | none => exact List.not_mem_nil
  | one sends =>
    simp only [List.mem_singleton]
    rintro rfl
    rcases window with h | h | h <;> simp [h, coordinatorSends] at sends

/-- The coordinator can write what it sends. -/
theorem CoordinatorAt.send {u : TerminalLifecycleValidator} {consumed : Nat}
    {written : List CoordinatorCommand} (place : CoordinatorAt v f u consumed written)
    (window : v.state = .readyForGate ∨ v.state = .active ∨ v.state = .suspended)
    (inactive : v.recoveryCommandAllowance = .inactive) {command : CoordinatorCommand}
    (sends : coordinatorSends u.state command) :
    (written = [] ∨ command = .terminalRestored) ∧ ∃ u', u.state ≠ .terminal ∧
      u.acceptCommand command = .ok (.applied, u') ∧
      CoordinatorAt v f u' consumed (written ++ [command]) := by
  cases place with
  | synced =>
    have live := live_of_window window
    obtain ⟨-, state, accept, answer⟩ := coordinatorSends_live sends live
    exact ⟨.inl rfl, _, ne_terminal_of_live live, accept, .asked sends answer⟩
  | asked _ answer =>
    rw [answer.quiet command] at sends
    cases sends
  | quiet gate stale =>
    cases command with
    | terminalRestored =>
      refine ⟨.inr rfl, _, nofun, ?_, .restored stale⟩
      rw [acceptCommand_quiesced inactive]
      rfl
    | _ => simp [announced, coordinatorSends] at sends
  | informed | restored | disarmed | done => simp [announced, ended, coordinatorSends] at sends

/-- The coordinator can receive the next of the guardian's last words. -/
theorem CoordinatorAt.receive {u : TerminalLifecycleValidator} {consumed : Nat}
    {written : List CoordinatorCommand} (place : CoordinatorAt v f u consumed written)
    (window : v.state = .readyForGate ∨ v.state = .active ∨ v.state = .suspended)
    (inactive : v.recoveryCommandAllowance = .inactive) (unfailed : v.failure = none)
    {event report : GuardianEvent} (next : (lastWords f report)[consumed]? = some event)
    (answered : 2 ≤ consumed → .terminalRestored ∈ written) (fits : 3 ≤ consumed → Fits v f report) :
    ∃ u', u.state ≠ .terminal ∧ u.acceptEvent event = .ok u' ∧
      CoordinatorAt v f u' (consumed + 1) written := by
  have live := live_of_window window
  cases place with
  | synced =>
    cases next
    refine ⟨_, ne_terminal_of_live live, acceptEvent_failed unfailed inactive live ?_ ?_,
      .informed _ .none⟩
    all_goals rcases window with h | h | h <;> rw [h] <;> nofun
  | asked sends answer =>
    cases next
    refine ⟨_, ne_terminal_of_live answer.live,
      acceptEvent_failed unfailed inactive answer.live answer.begun ?_, .informed _ (.one sends)⟩
    rintro rfl
    cases answer.quiet .start
  | informed gate stale =>
    cases next
    exact ⟨_, nofun, rfl, .quiet gate stale⟩
  | quiet gate stale => exact absurd (answered (Nat.le_refl 2)) (stale.ne_terminalRestored window)
  | restored stale =>
    cases next
    exact ⟨_, nofun, rfl, .disarmed stale⟩
  | disarmed stale =>
    cases next
    exact ⟨_, nofun, fits (Nat.le_refl 3), .done stale⟩
  | done => cases next

theorem CoordinatorAt.written_cases {u : TerminalLifecycleValidator} {consumed : Nat}
    {written : List CoordinatorCommand} (place : CoordinatorAt v f u consumed written) :
    ∃ old, Stale v old ∧ (written = old ∨ written = old ++ [.terminalRestored]) := by
  cases place with
  | synced => exact ⟨_, .none, .inl rfl⟩
  | asked sends => exact ⟨_, .one sends, .inl rfl⟩
  | informed _ stale | quiet _ stale => exact ⟨_, stale, .inl rfl⟩
  | restored stale | disarmed stale | done stale => exact ⟨_, stale, .inr rfl⟩

/-- The guardian waits for the restoration, behind at most one stale command. -/
theorem CoordinatorAt.next_command {u : TerminalLifecycleValidator} {consumed : Nat}
    {read commands : List CoordinatorCommand} {command : CoordinatorCommand}
    (place : CoordinatorAt v f u consumed (read ++ command :: commands)) (stale : Stale v read) :
    command = .terminalRestored ∨ read = [] ∧ coordinatorSends v.state command := by
  obtain ⟨old, stale', written⟩ := place.written_cases
  cases stale with
  | none =>
    cases stale' with
    | none => rcases written with h | h <;> simp_all
    | one sends => rcases written with h | h <;> simp_all
  | one =>
    cases stale' with
    | none => rcases written with h | h <;> simp_all
    | one => rcases written with h | h <;> simp_all

/-- An unread stale command is the first one that the guardian will read. -/
theorem CoordinatorAt.unread {u : TerminalLifecycleValidator} {consumed : Nat}
    {read commands : List CoordinatorCommand} {command : CoordinatorCommand}
    (place : CoordinatorAt v f u consumed (read ++ commands)) (stale : Stale v read)
    (mem : command ∈ commands) (ne : command ≠ .terminalRestored) :
    read = [] ∧ ∃ rest, commands = command :: rest ∧ ∀ c ∈ rest, c = .terminalRestored := by
  obtain ⟨old, stale', written⟩ := place.written_cases
  cases stale' with
  | none => cases stale <;> rcases written with h | h <;> simp_all
  | one => cases stale <;> rcases written with h | h <;> simp_all

theorem GuardianAt.emitted_le {u : TerminalLifecycleValidator} {stage : GuardianStage} {emitted : Nat}
    {read : List CoordinatorCommand} (place : GuardianAt v f u stage emitted read) : emitted ≤ 4 := by
  cases place <;> decide

theorem GuardianAt.of_quiescing {u : TerminalLifecycleValidator} {emitted : Nat}
    {read : List CoordinatorCommand} (place : GuardianAt v f u .quiescing emitted read) :
    u = v.announced f .failedAwaitQuiesced (v.state = .readyForGate) ∧ emitted = 1 ∧ read = [] := by
  cases place
  exact ⟨rfl, rfl, rfl⟩

theorem GuardianAt.of_restored {u : TerminalLifecycleValidator} {emitted : Nat}
    {read : List CoordinatorCommand} (place : GuardianAt v f u .restored emitted read) :
    u = v.announced f .awaitRecoveryDisarmed false ∧ emitted = 2 ∧
      GuardianAt v f (v.announced f .recoveryDisarmed false) .disarmed 3 read := by
  cases place with
  | restored stale => exact ⟨rfl, rfl, .disarmed stale⟩

theorem GuardianAt.of_disarmed {u : TerminalLifecycleValidator} {emitted : Nat}
    {read : List CoordinatorCommand} (place : GuardianAt v f u .disarmed emitted read) :
    u = v.announced f .recoveryDisarmed false ∧ emitted = 3 ∧
      GuardianAt v f (v.ended f) .reaped 4 read := by
  cases place with
  | disarmed stale => exact ⟨rfl, rfl, .reaped stale⟩

theorem GuardianAt.of_restoring {u : TerminalLifecycleValidator} {emitted : Nat}
    {read : List CoordinatorCommand} (place : GuardianAt v f u .restoring emitted read) :
    emitted = 2 ∧ Stale v read := by
  cases place with
  | restoring _ stale => exact ⟨rfl, stale⟩

theorem GuardianAt.of_reaped {u : TerminalLifecycleValidator} {emitted : Nat}
    {read : List CoordinatorCommand} (place : GuardianAt v f u .reaped emitted read) :
    emitted = 4 ∧ ∃ old, Stale v old ∧ read = old ++ [.terminalRestored] := by
  cases place with
  | reaped stale => exact ⟨rfl, _, stale, rfl⟩

/-- A coordinator that heard of the quiescence answers it, if it has not yet. -/
theorem CoordinatorAt.answers {u : TerminalLifecycleValidator} {written : List CoordinatorCommand}
    (place : CoordinatorAt v f u 2 written) :
    coordinatorSends u.state .terminalRestored ∨ .terminalRestored ∈ written := by
  cases place with
  | quiet => exact .inl rfl
  | restored => exact .inr (by simp)

theorem CoordinatorAt.of_done {u : TerminalLifecycleValidator} {written : List CoordinatorCommand}
    (place : CoordinatorAt v f u 4 written) :
    u.state = .terminal ∧ ∃ old, Stale v old ∧ written = old ++ [.terminalRestored] := by
  cases place with
  | done stale => exact ⟨rfl, _, stale, rfl⟩

theorem GuardianAt.of_unread {u : TerminalLifecycleValidator} {stage : GuardianStage} {emitted : Nat}
    (place : GuardianAt v f u stage emitted []) :
    stage = .quiescing ∧ emitted = 1 ∨ stage = .restoring ∧ emitted = 2 := by
  generalize unread : ([] : List CoordinatorCommand) = read at place
  cases place with
  | quiescing => exact .inl ⟨rfl, rfl⟩
  | restoring => exact .inr ⟨rfl, rfl⟩
  | restored | disarmed | reaped => simp at unread

theorem GuardianAt.late {u : TerminalLifecycleValidator} {stage : GuardianStage} {emitted : Nat}
    {read : List CoordinatorCommand} (place : GuardianAt v f u stage emitted read) :
    stage ≠ .bootstrap ∧ stage ≠ .serving := by
  cases place <;> exact ⟨nofun, nofun⟩

theorem GuardianAt.mem_read {u : TerminalLifecycleValidator} {stage : GuardianStage} {emitted : Nat}
    {read : List CoordinatorCommand} (place : GuardianAt v f u stage emitted read)
    (h : 3 ≤ emitted) : .terminalRestored ∈ read := by
  cases place with
  | quiescing | restoring | restored => omega
  | disarmed | reaped => simp

/-! ## What the two sides do in a race -/

variable {proofs : List PendingProof} {acted : List CoordinatorCommand} {m : Marks} {s : Session}

/-- The coordinator wrote a command. -/
theorem Racing.wrote (race : Racing v f proofs acted m s) {command : CoordinatorCommand}
    {coordinator : CoordinatorReceiver} (sound : coordinator.poisoned = false)
    (place : CoordinatorAt v f coordinator.terminal m.consumed (m.written ++ [command])) :
    Racing v f proofs acted { m with written := m.written ++ [command] }
      { s with coordinator, commands := s.commands ++ [command] } where
  __ := race
  coordinatorSound := sound
  coordinator := place
  commands := by simp [race.commands]

/-- The coordinator received the next of the last words. -/
theorem Racing.heard (race : Racing v f proofs acted m s) {event : GuardianEvent}
    {events : List GuardianEvent} {coordinator : CoordinatorReceiver}
    (sound : coordinator.poisoned = false) (next : s.events = event :: events)
    (place : CoordinatorAt v f coordinator.terminal (m.consumed + 1) m.written) :
    Racing v f proofs acted { m with consumed := m.consumed + 1 } { s with coordinator, events } := by
  obtain ⟨report, words, fits⟩ := race.events
  rw [next] at words
  refine { race with
    coordinatorSound := sound
    coordinator := place
    behind := ?_
    events := ⟨report, ?_, fits⟩ }
  · have length := congrArg List.length words
    simp only [List.length_cons, List.length_drop, List.length_take] at length
    show m.consumed + 1 ≤ m.emitted
    omega
  · have rest := congrArg List.tail words
    simpa using rest

/-- The guardian can write its next word. -/
theorem Racing.said (race : Racing v f proofs acted m s) (report : GuardianEvent)
    (stage : GuardianStage) {event : GuardianEvent} {terminal : TerminalLifecycleValidator}
    (accept : s.guardian.terminal.acceptEvent event = .ok terminal)
    (next : (lastWords f report)[m.emitted]? = some event) (early : m.emitted ≤ 3)
    (fits : m.emitted = 3 → Fits v f report)
    (place : GuardianAt v f terminal stage (m.emitted + 1) m.read) :
    ∃ s', s.emit event stage = .ok s' ∧
      Racing v f proofs acted { m with emitted := m.emitted + 1 } s' := by
  obtain ⟨report', words, -⟩ := race.events
  have emitted : s.emit event stage = .ok { s with
      guardian := { s.guardian with terminal, pending := none }
      events := s.events ++ [event]
      stage } := by
    simp only [Session.emit, GuardianCommandReceiver.recordEvent_accept race.guardianSound accept]
  refine ⟨_, emitted, { race with
    guardianSound := race.guardianSound
    guardian := place
    behind := Nat.le_succ_of_le race.behind
    events := ⟨report, ?_, fun last => fits (Nat.succ.inj last)⟩ }⟩
  -- The report is the last of the words, so the ones before it do not depend on it.
  have same : (lastWords f report').take m.emitted = (lastWords f report).take m.emitted := by
    have split (r : GuardianEvent) : lastWords f r = (lastWords f r).take 3 ++ [r] := rfl
    rw [split report', split report, List.take_append_of_le_length early,
      List.take_append_of_le_length early]
    rfl
  have length : m.consumed ≤ ((lastWords f report).take m.emitted).length := by
    have := race.behind
    simp only [List.length_take, lastWords, List.length_cons, List.length_nil]
    omega
  simp only [words, same, List.take_add_one, next, List.drop_append_of_le_length length]
  rfl

/-- The coordinator can write what it sends, and after the failure this is only the answer to the
quiescence. -/
theorem Racing.send {command : CoordinatorCommand} (race : Racing v f proofs acted m s)
    (sends : coordinatorSends s.coordinator.terminal.state command) :
    (m.written = [] ∨ command = .terminalRestored) ∧ ∃ s', s.send command = .ok s' ∧
      Racing v f proofs acted { m with written := m.written ++ [command] } s' := by
  obtain ⟨only, u, going, accept, place⟩ := race.coordinator.send race.window race.inactive sends
  have recorded := CoordinatorReceiver.recordCommand_accept race.coordinatorSound going accept
  have sent : s.send command = .ok { s with
      coordinator := { s.coordinator.expire with terminal := u }
      commands := s.commands ++ [command] } := by
    simp only [Session.send, recorded]
  exact ⟨only, _, sent, race.wrote race.coordinatorSound place⟩

/-- The coordinator can receive what the guardian wrote. -/
theorem Racing.receiveEvent (race : Racing v f proofs acted m s) {event : GuardianEvent}
    {events : List GuardianEvent} (next : s.events = event :: events) :
    ∃ s', s.attempt .receiveEvent = some (.ok s') ∧
      Racing v f proofs acted { m with consumed := m.consumed + 1 } s' := by
  obtain ⟨report, words, fits⟩ := race.events
  have word : m.consumed < m.emitted ∧ (lastWords f report)[m.consumed]? = some event := by
    have head := congrArg List.head? (words.symm.trans next)
    simpa [List.head?_drop, List.getElem?_take] using head
  have answered : 3 ≤ m.emitted → .terminalRestored ∈ m.written := by
    intro emitted
    rw [race.commands]
    exact List.mem_append_left _ (race.guardian.mem_read emitted)
  obtain ⟨u, going, accept, place⟩ := race.coordinator.receive race.window race.inactive race.unfailed
    word.2 (fun h => answered (by omega)) fun h => fits (by have := race.guardian.emitted_le; omega)
  obtain ⟨r, received, rfl, sound⟩ :=
    CoordinatorReceiver.receive_accept race.coordinatorSound going accept
  exact ⟨_, by simp only [Session.attempt, next, received], race.heard sound next place⟩

/-- What reading a command does to a guardian that waits for the restoration. -/
theorem Session.read_restoring (stage : s.stage = .restoring) (sound : s.guardian.poisoned = false)
    (going : s.guardian.terminal.state ≠ .terminal) {command : CoordinatorCommand}
    {commands : List CoordinatorCommand} {terminal : TerminalLifecycleValidator}
    (accept : s.guardian.terminal.acceptCommand command = .ok (.applied, terminal)) :
    s.read command commands = .ok (if command = .terminalRestored then { s with
        guardian := { s.guardian with terminal, pending := none }
        commands
        proofs := .terminalRestored :: s.proofs
        stage := .restored }
      else { s with
        guardian := { s.guardian with
          terminal, pending := GuardianCommandReceiver.proofOf s.guardian.terminal command }
        commands }) := by
  simp only [read, GuardianCommandReceiver.receive_accept sound going accept, stage, if_true,
    awaitRestored]
  by_cases restored : command = .terminalRestored
  · subst restored
    simp [takeProof, GuardianCommandReceiver.take, sound, GuardianCommandReceiver.proofOf]
  · simp [restored]

theorem Session.read_refused (sound : s.guardian.poisoned = false)
    (going : s.guardian.terminal.state ≠ .terminal) {command : CoordinatorCommand}
    {commands : List CoordinatorCommand} {error : ProtocolError}
    (refuse : s.guardian.terminal.acceptCommand command = .error error) :
    s.read command commands = .error error := by
  simp [read, GuardianCommandReceiver.receive, GuardianCommandReceiver.closed,
    GuardianCommandReceiver.terminalReceived, sound, going, refuse]

/-- The guardian can read the answer of the coordinator, and before it exactly a superseded
command. -/
theorem Racing.receiveCommand (race : Racing v f proofs acted m s) (stage : s.stage = .restoring)
    {command : CoordinatorCommand} {commands : List CoordinatorCommand}
    (next : s.commands = command :: commands) :
    ((command = .terminalRestored ∨ Superseded command) ∧
      ∃ s', s.attempt .receiveCommand = some (.ok s') ∧
        Racing v f proofs acted { m with read := m.read ++ [command] } s') ∨
    (command ≠ .terminalRestored ∧ ¬Superseded command ∧
      s.attempt .receiveCommand = some (.error .unexpectedState)) := by
  have place := race.guardian
  have reading := (race.commands.trans (congrArg (m.read ++ ·) next)) ▸ race.coordinator
  have written : m.written = (m.read ++ [command]) ++ commands := by simp [race.commands, next]
  have attempt : s.attempt .receiveCommand = some (s.read command commands) := by
    simp [Session.attempt, next, Session.reads, stage]
  rw [stage] at place
  generalize hu : s.guardian.terminal = u at place
  generalize he : m.emitted = emitted at place
  generalize hr : m.read = read at place reading
  cases place with
  | restoring gate stale unread =>
    have going : s.guardian.terminal.state ≠ .terminal := by
      rw [hu]
      exact TerminalLifecycleState.noConfusion
    have fresh := stale.ne_terminalRestored race.window
    rcases reading.next_command stale with rfl | ⟨rfl, sends⟩
    · -- The restoration ends the wait, and its proof is the only one that is taken.
      have accept : s.guardian.terminal.acceptCommand .terminalRestored =
          .ok (.applied, v.announced f .awaitRecoveryDisarmed false) := by
        rw [hu, acceptCommand_quiesced race.inactive]
        rfl
      have done : s.read .terminalRestored commands = _ :=
        Session.read_restoring stage race.guardianSound going accept
      rw [if_pos rfl] at done
      refine .inl ⟨.inl rfl, _, attempt.trans (congrArg some done), ?_⟩
      exact { race with
        guardianSound := race.guardianSound
        guardian := by simpa [he, hr] using GuardianAt.restored stale
        commands := by simpa [hr] using written
        behind := by simpa [he] using race.behind
        events := by simpa [he] using race.events
        proofs := by simpa [fresh, hr] using race.proofs }
    · obtain rfl := unread rfl
      have stale' : command ≠ .terminalRestored := by
        rintro rfl
        exact Stale.ne_terminalRestored (.one sends) race.window (List.mem_singleton.mpr rfl)
      rcases acceptCommand_stale race.inactive sends (live_of_window race.window) (f := f) with
        ⟨superseded, gate, accept⟩ | ⟨untolerated, refuse⟩
      · rw [← hu] at accept
        have done : s.read command commands = _ :=
          Session.read_restoring stage race.guardianSound going accept
        rw [if_neg stale'] at done
        refine .inl ⟨.inr superseded, _, attempt.trans (congrArg some done), ?_⟩
        exact { race with
          guardianSound := race.guardianSound
          guardian := by simpa [he, hr, stage] using GuardianAt.restoring gate (.one sends) (by simp)
          commands := by simpa [hr] using written
          behind := by simpa [he] using race.behind
          events := by simpa [he] using race.events
          proofs := by simpa [stale'.symm, hr] using race.proofs }
      · rw [← hu] at refuse
        have done : s.read command commands = _ :=
          Session.read_refused race.guardianSound going refuse
        exact .inr ⟨stale', untolerated, attempt.trans (congrArg some done)⟩

/-- A report on the children of a failed session fits the transcript of the race. -/
theorem fits_of_reported (reportable : ¬((f.1 = .cleanup ∨ f.1 = .restore) ∨
      (f.2 = .cleanupMismatch ∨ f.2 = .restore))) {app tui : ChildDisposition}
    {worker : WorkerJoinStatus} {session : SessionStatus} {guardianExit : GuardianExitDisposition}
    (terminal : s.guardian.terminal = v.announced f .recoveryDisarmed false)
    (reported : s.Reported app tui worker session guardianExit) :
    Fits v f (.childrenReaped app tui worker .complete session guardianExit) := by
  obtain ⟨happ, htui, hworker, hfailed⟩ := reported
  simp only [terminal, announced] at happ htui hworker hfailed
  obtain ⟨rfl, rfl⟩ := hfailed rfl
  have happ' : decide (app ≠ .notStarted) = v.appStarted := by
    rw [Bool.eq_iff_iff, decide_eq_true_iff]
    exact happ
  have htui' : decide (tui ≠ .notStarted) = v.tuiStarted := by
    rw [Bool.eq_iff_iff, decide_eq_true_iff]
    exact htui
  have valid : (v.announced f .recoveryDisarmed false).validateTerminal app tui worker .failed
      .internalFailure = .ok .internalFailure := by
    simp only [validateTerminal, announced, happ', htui']
    rw [if_neg (by simp), if_neg (by simpa using hworker), if_neg reportable, if_neg (by simp)]
  simp only [Fits, acceptEvent, applyEvent, announced] at valid ⊢
  rw [valid]
  rfl

theorem Racing.quiesce (race : Racing v f proofs acted m s) (stage : s.stage = .quiescing) :
    ∃ s', s.attempt .quiesce = some (.ok s') ∧
      Racing v f proofs acted { m with emitted := m.emitted + 1 } s' := by
  obtain ⟨hu, he, hr⟩ := (stage ▸ race.guardian).of_quiescing
  have accept : s.guardian.terminal.acceptEvent .terminalQuiesced =
      .ok (v.announced f .quiesced (v.state = .readyForGate)) := by
    rw [hu]
    rfl
  obtain ⟨s', emitted, race'⟩ := race.said .ready .restoring accept (by rw [he]; rfl) (by omega)
    (by omega) (by rw [he, hr]; exact .restoring _ .none fun _ => rfl)
  exact ⟨s', by rw [Session.attempt, if_pos stage, emitted], race'⟩

theorem Racing.disarm (race : Racing v f proofs acted m s) (stage : s.stage = .restored) :
    ∃ s', s.attempt .disarm = some (.ok s') ∧
      Racing v f proofs acted { m with emitted := m.emitted + 1 } s' := by
  obtain ⟨hu, he, place⟩ := (stage ▸ race.guardian).of_restored
  have accept : s.guardian.terminal.acceptEvent .terminalRecoveryDisarmed =
      .ok (v.announced f .recoveryDisarmed false) := by
    rw [hu]
    rfl
  obtain ⟨s', emitted, race'⟩ := race.said .ready .disarmed accept (by rw [he]; rfl) (by omega)
    (by omega) (he ▸ place)
  exact ⟨s', by rw [Session.attempt, if_pos stage, emitted], race'⟩

theorem Racing.reap (race : Racing v f proofs acted m s) (stage : s.stage = .disarmed)
    (reportable : ¬((f.1 = .cleanup ∨ f.1 = .restore) ∨ (f.2 = .cleanupMismatch ∨ f.2 = .restore)))
    {app tui : ChildDisposition} {worker : WorkerJoinStatus} {session : SessionStatus}
    {guardianExit : GuardianExitDisposition}
    (reported : s.Reported app tui worker session guardianExit) :
    ∃ s', s.attempt (.reap app tui worker session guardianExit) = some (.ok s') ∧
      Racing v f proofs acted { m with emitted := m.emitted + 1 } s' := by
  obtain ⟨hu, he, place⟩ := (stage ▸ race.guardian).of_disarmed
  have fits := fits_of_reported reportable hu reported
  have accept : s.guardian.terminal.acceptEvent
      (.childrenReaped app tui worker .complete session guardianExit) = .ok (v.ended f) := by
    rw [hu]
    exact fits
  obtain ⟨s', emitted, race'⟩ := race.said _ .reaped accept (by rw [he]; rfl) (by omega)
    (fun _ => fits) (by rw [he]; exact place)
  exact ⟨s', by rw [Session.attempt, if_pos ⟨stage, reported⟩, emitted], race'⟩

/-! ## Whole races -/

/-- The commands of a race that the guardian can read. -/
def Marks.Tolerated (m : Marks) : Prop :=
  ∀ command ∈ m.written, command = .terminalRestored ∨ Superseded command

/-- A move of a race: it goes on, or the guardian refuses a stale command. -/
theorem Racing.step (reportable : ¬((f.1 = .cleanup ∨ f.1 = .restore) ∨
      (f.2 = .cleanupMismatch ∨ f.2 = .restore))) (race : Racing v f proofs acted m s) {move : Move}
    {result : Except ProtocolError Session} (h : s.attempt move = some result) :
    (∃ s' m', result = .ok s' ∧ Racing v f proofs acted m' s' ∧
      (m'.written = m.written ∨ m.written = [] ∨ m'.written = m.written ++ [.terminalRestored])) ∨
    ∃ command commands, s.commands = command :: commands ∧ command ≠ .terminalRestored ∧
      ¬Superseded command ∧ result = .error .unexpectedState := by
  have late := race.guardian.late
  cases move with
  | send command =>
    simp only [Session.attempt] at h
    split at h
    · next sends =>
      obtain ⟨only, s', sent, race'⟩ := race.send sends
      cases h
      refine .inl ⟨s', _, sent, race', ?_⟩
      rcases only with h | rfl
      · exact .inr (.inl h)
      · exact .inr (.inr rfl)
    · cases h
  | receiveEvent =>
    cases events : s.events with
    | nil => simp [Session.attempt, events] at h
    | cons event rest =>
      obtain ⟨s', received, race'⟩ := race.receiveEvent events
      rw [received] at h
      cases h
      exact .inl ⟨s', _, rfl, race', .inl rfl⟩
  | receiveCommand =>
    cases commands : s.commands with
    | nil => simp [Session.attempt, commands] at h
    | cons command rest =>
      have stage : s.stage = .restoring := by
        have reads : s.reads := by
          by_contra quiet
          simp [Session.attempt, commands, quiet] at h
        rw [Session.reads] at reads
        split at reads
        · exact absurd ‹_› late.1
        · exact absurd ‹_› late.2
        · assumption
        · cases reads
      rcases race.receiveCommand stage commands with
        ⟨-, s', received, race'⟩ | ⟨stale, refused, received⟩
      · rw [received] at h
        cases h
        exact .inl ⟨s', _, rfl, race', .inl rfl⟩
      · rw [received] at h
        cases h
        exact .inr ⟨command, rest, rfl, stale, refused, rfl⟩
  | quiesce =>
    simp only [Session.attempt] at h
    split at h
    · next stage =>
      obtain ⟨s', emitted, race'⟩ := race.quiesce stage
      rw [Session.attempt, if_pos stage] at emitted
      cases h
      exact .inl ⟨s', _, Option.some.inj emitted, race', .inl rfl⟩
    · cases h
  | disarm =>
    simp only [Session.attempt] at h
    split at h
    · next stage =>
      obtain ⟨s', emitted, race'⟩ := race.disarm stage
      rw [Session.attempt, if_pos stage] at emitted
      cases h
      exact .inl ⟨s', _, Option.some.inj emitted, race', .inl rfl⟩
    · cases h
  | reap app tui worker session guardianExit =>
    simp only [Session.attempt] at h
    split at h
    · next guard =>
      obtain ⟨s', emitted, race'⟩ := race.reap guard.1 reportable guard.2
      rw [Session.attempt, if_pos guard] at emitted
      cases h
      exact .inl ⟨s', _, Option.some.inj emitted, race', .inl rfl⟩
    · cases h
  | failWorker =>
    simp only [Session.attempt] at h
    split at h
    · next guard =>
      have failed := (guard.1 ▸ race.guardian).of_disarmed.1
      rw [failed] at guard
      cases guard.2
    · cases h
  | answer event => simp [Session.attempt, late] at h
  | fail error => simp [Session.attempt, late] at h
  | failStartup error => simp [Session.attempt, late] at h
  | close => simp [Session.attempt, late] at h

theorem Racing.keeps (reportable : ¬((f.1 = .cleanup ∨ f.1 = .restore) ∨
      (f.2 = .cleanupMismatch ∨ f.2 = .restore))) {s' : Session} (h : Reaches s s')
    (race : Racing v f proofs acted m s) (sent : m.written ≠ []) (tolerated : m.Tolerated) :
    ∃ m', Racing v f proofs acted m' s' ∧ m'.written ≠ [] ∧ m'.Tolerated := by
  induction h with
  | refl => exact ⟨m, race, sent, tolerated⟩
  | tail move _ step ih =>
    obtain ⟨m₁, race₁, sent₁, tolerated₁⟩ := ih
    rcases race₁.step reportable step with ⟨s₂, m₂, ok, race₂, written⟩ | ⟨_, _, -, -, -, refused⟩
    · cases ok
      refine ⟨m₂, race₂, ?_, ?_⟩
      · rcases written with h | h | h <;> simp_all
      · rcases written with h | h | h
        · simpa [Marks.Tolerated, h] using tolerated₁
        · exact absurd h sent₁
        · intro command mem
          rw [h, List.mem_append, List.mem_singleton] at mem
          exact mem.elim (tolerated₁ command) .inl
    · cases refused

/-- Both sides have come to their end and everything is read. -/
structure Session.Completed (s : Session) : Prop where
  stage : s.stage = .reaped
  coordinator : s.coordinator.terminal.state = .terminal
  commands : s.commands = []
  events : s.events = []

theorem Racing.rank_le (race : Racing v f proofs acted m s) : m.rank ≤ 12 := by
  have written : m.written.length ≤ 2 := by
    obtain ⟨old, stale, h⟩ := race.coordinator.written_cases
    cases stale <;> rcases h with h | h <;> simp [h]
  have read : m.read.length ≤ m.written.length := by simp [race.commands]
  have := race.behind
  have := race.guardian.emitted_le
  simp only [Marks.rank]
  omega

/-- Everything that was read by the end is everything that was written. -/
theorem Racing.commands_nil (race : Racing v f proofs acted m s)
    (written : ∃ old, Stale v old ∧ m.written = old ++ [.terminalRestored])
    (read : ∃ old, Stale v old ∧ m.read = old ++ [.terminalRestored]) : s.commands = [] := by
  obtain ⟨old, stale, hw⟩ := written
  obtain ⟨old', -, hr⟩ := read
  have eq := race.commands
  rw [hw, hr] at eq
  have fresh := stale.ne_terminalRestored race.window
  rcases List.eq_nil_or_concat s.commands with commands | ⟨init, last, commands⟩
  · exact commands
  · rw [commands, List.concat_eq_append, ← List.append_assoc] at eq
    obtain ⟨rfl, -⟩ := List.append_inj' eq rfl
    exact absurd (by simp) fresh

/-- A race that is not over goes on. -/
theorem Racing.progress (reportable : ¬((f.1 = .cleanup ∨ f.1 = .restore) ∨
      (f.2 = .cleanupMismatch ∨ f.2 = .restore))) (race : Racing v f proofs acted m s)
    (tolerated : m.Tolerated) (unfinished : ¬s.Completed) :
    ∃ move s' m', s.attempt move = some (.ok s') ∧ Racing v f proofs acted m' s' ∧
      m'.Tolerated ∧ m'.rank = m.rank + 1 := by
  cases events : s.events with
  | cons event rest =>
    obtain ⟨s', received, race'⟩ := race.receiveEvent events
    exact ⟨_, s', _, received, race', tolerated, by simp only [Marks.rank]; omega⟩
  | nil =>
    have caughtUp : m.consumed = m.emitted := by
      obtain ⟨report, words, -⟩ := race.events
      have length := congrArg List.length (words.symm.trans events)
      simp only [List.length_drop, List.length_take, lastWords, List.length_cons, List.length_nil]
        at length
      have := race.behind
      have := race.guardian.emitted_le
      omega
    have coordinator := caughtUp ▸ race.coordinator
    cases hs : s.stage with
    | bootstrap => exact absurd hs race.guardian.late.1
    | serving => exact absurd hs race.guardian.late.2
    | quiescing =>
      obtain ⟨s', emitted, race'⟩ := race.quiesce hs
      exact ⟨_, s', _, emitted, race', tolerated, by simp only [Marks.rank]; omega⟩
    | restoring =>
      obtain ⟨he, stale⟩ := (hs ▸ race.guardian).of_restoring
      rw [he] at coordinator
      rcases coordinator.answers with sends | answered
      · obtain ⟨-, s', sent, race'⟩ := race.send sends
        refine ⟨.send .terminalRestored, s', _, ?_, race', ?_, ?_⟩
        · rw [Session.attempt, if_pos sends, sent]
        · intro command mem
          rw [List.mem_append, List.mem_singleton] at mem
          exact mem.elim (tolerated command) .inl
        · simp only [Marks.rank, List.length_append, List.length_singleton]
          omega
      · cases commands : s.commands with
        | nil =>
          have eq := race.commands
          rw [commands, List.append_nil] at eq
          exact absurd (eq ▸ answered) (stale.ne_terminalRestored race.window)
        | cons command rest =>
          have mem : command ∈ m.written := by simp [race.commands, commands]
          rcases race.receiveCommand hs commands with ⟨-, s', read, race'⟩ | ⟨ne, refused, -⟩
          · refine ⟨_, s', _, read, race', tolerated, ?_⟩
            simp only [Marks.rank, List.length_append, List.length_singleton]
            omega
          · exact absurd (tolerated command mem) (by simp [ne, refused])
    | restored =>
      obtain ⟨s', emitted, race'⟩ := race.disarm hs
      exact ⟨_, s', _, emitted, race', tolerated, by simp only [Marks.rank]; omega⟩
    | disarmed =>
      have reported : s.Reported
          (if s.guardian.terminal.appStarted then .exited 0 .none else .notStarted)
          (if s.guardian.terminal.tuiStarted then .exited 0 .none else .notStarted)
          .joinedClean .failed .internalFailure := by
        refine ⟨?_, ?_, by simp, fun _ => ⟨rfl, rfl⟩⟩ <;> split <;> simp_all
      obtain ⟨s', emitted, race'⟩ := race.reap hs reportable reported
      exact ⟨_, s', _, emitted, race', tolerated, by simp only [Marks.rank]; omega⟩
    | reaped =>
      obtain ⟨he, read⟩ := (hs ▸ race.guardian).of_reaped
      rw [he] at coordinator
      obtain ⟨terminal, written⟩ := coordinator.of_done
      exact absurd ⟨hs, terminal, race.commands_nil written read, events⟩ unfinished

/-- A race can always be brought to its end. -/
theorem Racing.completes (reportable : ¬((f.1 = .cleanup ∨ f.1 = .restore) ∨
      (f.2 = .cleanupMismatch ∨ f.2 = .restore))) (race : Racing v f proofs acted m s)
    (tolerated : m.Tolerated) : ∃ s', Reaches s s' ∧ s'.Completed := by
  generalize budget : 12 - m.rank = n
  induction n using Nat.strongRecOn generalizing m s with
  | ind n ih =>
    by_cases finished : s.Completed
    · exact ⟨s, .refl s, finished⟩
    · obtain ⟨move, s₁, m₁, step, race₁, tolerated₁, rank⟩ :=
        race.progress reportable tolerated finished
      have := race₁.rank_le
      obtain ⟨s', rest, completed⟩ := ih (12 - m₁.rank) (by omega) race₁ tolerated₁ rfl
      exact ⟨s', (Reaches.tail move (.refl s) step).trans rest, completed⟩

/-! ## The beginning of a race -/

/-- A session whose coordinator has an answer of the guardian to receive before the failure. -/
structure Lagging (v : TerminalLifecycleValidator) (f : Phase × FailureCode)
    (proofs : List PendingProof) (acted : List CoordinatorCommand) (s : Session) : Prop where
  window : v.state = .readyForGate ∨ v.state = .active ∨ v.state = .suspended
  inactive : v.recoveryCommandAllowance = .inactive
  unfailed : v.failure = none
  coordinatorSound : s.coordinator.poisoned = false
  guardianSound : s.guardian.poisoned = false
  answer : ∃ event emitted, guardianAnswers s.coordinator.terminal.state event ∧
    endsServing event = false ∧ s.coordinator.terminal.acceptEvent event = .ok v ∧
    s.events = event :: (lastWords f .ready).take emitted ∧
    GuardianAt v f s.guardian.terminal s.stage emitted []
  commands : s.commands = []
  proofs : s.proofs = proofs
  acted : s.acted = acted

/-- A session after the announced failure. -/
def Announced (v : TerminalLifecycleValidator) (f : Phase × FailureCode)
    (proofs : List PendingProof) (acted : List CoordinatorCommand) (s : Session) : Prop :=
  Lagging v f proofs acted s ∨ ∃ m, Racing v f proofs acted m s

theorem Lagging.step {s' : Session} {move : Move} (lag : Lagging v f proofs acted s)
    (h : s.attempt move = some (.ok s')) : Announced v f proofs acted s' := by
  obtain ⟨event, emitted, answers, ends, accept, events, place⟩ := lag.answer
  have late := place.late
  have early := place.of_unread
  cases move with
  | send command =>
    have quiet := (guardianAnswers_accept answers ends accept).2.2 command
    simp [Session.attempt, quiet] at h
  | receiveEvent =>
    have going : s.coordinator.terminal.state ≠ .terminal := by
      intro terminal
      simp [terminal, guardianAnswers] at answers
    obtain ⟨r, received, terminal, sound⟩ :=
      CoordinatorReceiver.receive_accept lag.coordinatorSound going accept
    simp only [Session.attempt, events, received, Option.some.injEq, Except.ok.injEq] at h
    subst h
    refine .inr ⟨⟨emitted, 0, [], []⟩, lag.window, lag.inactive, lag.unfailed, sound,
      lag.guardianSound, by rw [terminal]; exact .synced, place, lag.commands.symm, Nat.zero_le _,
      ⟨.ready, rfl, fun last => ?_⟩, by simpa using lag.proofs, lag.acted⟩
    simp only at last
    omega
  | quiesce =>
    simp only [Session.attempt] at h
    split at h
    · next stage =>
      rw [stage] at place
      obtain ⟨hu, he, -⟩ := place.of_quiescing
      obtain ⟨terminal, accept', -, rfl⟩ := Session.emit_eq_ok (Option.some.inj h)
      rw [hu] at accept'
      cases accept'
      refine .inl { lag with
        guardianSound := lag.guardianSound
        answer := ⟨event, 2, answers, ends, accept, ?_, .restoring _ .none fun _ => rfl⟩ }
      simp [events, he, lastWords]
    · cases h
  | receiveCommand => simp [Session.attempt, lag.commands] at h
  | disarm => rcases early with h' | h' <;> simp [Session.attempt, h'.1] at h
  | failWorker => rcases early with h' | h' <;> simp [Session.attempt, h'.1] at h
  | reap => rcases early with h' | h' <;> simp [Session.attempt, h'.1] at h
  | answer event => simp [Session.attempt, late] at h
  | fail error => simp [Session.attempt, late] at h
  | failStartup error => simp [Session.attempt, late] at h
  | close => simp [Session.attempt, late] at h

theorem Announced.keeps (reportable : ¬((f.1 = .cleanup ∨ f.1 = .restore) ∨
      (f.2 = .cleanupMismatch ∨ f.2 = .restore))) {s' : Session} (h : Reaches s s')
    (announced : Announced v f proofs acted s) : Announced v f proofs acted s' := by
  refine h.keeps (Announced v f proofs acted) (fun s₁ s₂ move now step => ?_) announced
  rcases now with lag | ⟨m, race⟩
  · exact lag.step step
  · rcases race.step reportable step with ⟨s', m', ok, race', -⟩ | ⟨_, _, -, -, -, refused⟩
    · cases ok
      exact .inr ⟨m', race'⟩
    · cases refused

/-- A failure of a component is accepted only once and not after a recovery request. -/
theorem acceptEvent_failed_inv {u u' : TerminalLifecycleValidator} {phase : Phase}
    {code : FailureCode} (component : ¬(phase = .protocol ∧ code = .internal))
    (accept : u.acceptEvent (.failed phase code) = .ok u') :
    u.failure = none ∧ u.recoveryCommandAllowance = .inactive := by
  simp only [acceptEvent, acceptFailure] at accept
  split at accept
  · cases accept
  · next fresh =>
    refine ⟨Option.not_isSome_iff_eq_none.mp fun failed => fresh (.inl failed), ?_⟩
    cases allowance : u.recoveryCommandAllowance with
    | inactive => rfl
    | awaitingFailure window =>
      simp only [allowance] at accept
      cases accept
    | armed window | consumed =>
      simp only [allowance] at accept
      cases accept

/-- The announcement of a failure begins a race. -/
theorem Serving.announce {s' : Session} (serving : Serving s) {error : SessionOperationError}
    (component : error ≠ .recoveryRequested)
    (window : s.guardian.terminal.state = .readyForGate ∨ s.guardian.terminal.state = .active ∨
      s.guardian.terminal.state = .suspended)
    (h : s.announce error = .ok s') :
    Announced s.guardian.terminal (operationFailureEvent error) s.proofs s.acted s' := by
  simp only [Session.announce, component, if_false] at h
  obtain ⟨terminal, accept, -, rfl⟩ := Session.emit_eq_ok h
  have typed : ¬((operationFailureEvent error).1 = .protocol ∧
      (operationFailureEvent error).2 = .internal) := by
    cases error <;> simp_all [operationFailureEvent]
  obtain ⟨unfailed, inactive⟩ := acceptEvent_failed_inv typed accept
  rw [acceptEvent_failed unfailed inactive serving.live
    (by rcases window with h | h | h <;> rw [h] <;> decide)
    (by rcases window with h | h | h <;> rw [h] <;> decide)] at accept
  cases accept
  obtain ⟨sound, guardianSound, live, inStep⟩ := serving
  generalize hu : s.coordinator.terminal = u at inStep
  generalize hc : s.commands = commands at inStep
  generalize he : s.events = events at inStep
  generalize hv : s.guardian.terminal = v at *
  cases inStep with
  | idle =>
    exact .inr ⟨⟨1, 0, [], []⟩, window, inactive, unfailed, sound, guardianSound,
      by simpa [hu] using CoordinatorAt.synced, .quiescing, rfl, Nat.zero_le _,
      ⟨.ready, rfl, by simp⟩, by simp, rfl⟩
  | answered answers ends accept =>
    exact .inl ⟨window, inactive, unfailed, sound, guardianSound,
      ⟨_, 1, hu ▸ answers, ends, hu ▸ accept, rfl, .quiescing⟩, rfl, rfl, rfl⟩
  | asked sends accept answer =>
    exact .inr ⟨⟨1, 0, _, []⟩, window, inactive, unfailed, sound, guardianSound,
      by simpa [hu] using CoordinatorAt.asked sends answer, .quiescing, rfl, Nat.zero_le _,
      ⟨.ready, rfl, by simp⟩, by simp, rfl⟩

end

/-- Whatever happens next, no validator reports an error, nothing that is still unread makes the
guardian act or gives it a proof, except for the one of the restoration, and the session can be
completed. -/
def Session.Tolerates (s : Session) : Prop :=
  ∀ s', Reaches s s' →
    (∀ move error, s'.attempt move ≠ some (.error error)) ∧ s'.acted = s.acted ∧
    (s'.proofs = s.proofs ∨ s'.proofs = .terminalRestored :: s.proofs) ∧
    ∃ s'', Reaches s' s'' ∧ s''.Completed

/-- The guardian announces the failure of a component while the session is ready, active or
suspended, and quiesces. It tolerates the command that it has not read yet exactly if this is an
opened gate, an interrupt or quit signal or a resize. -/
theorem announced_failure_tolerates_iff {s s₁ s₂ : Session} {error : SessionOperationError}
    {command : CoordinatorCommand} (run : Reaches .start s)
    (window : s.guardian.terminal.state = .readyForGate ∨ s.guardian.terminal.state = .active ∨
      s.guardian.terminal.state = .suspended)
    (component : error ≠ .recoveryRequested) (failed : s.attempt (.fail error) = some (.ok s₁))
    (rest : Reaches s₁ s₂) (quiesced : s₂.stage = .restoring) (unread : command ∈ s₂.commands)
    (stale : command ≠ .terminalRestored) : s₂.Tolerates ↔ Superseded command := by
  have reportable := operationFailureEvent_reportable error
  simp only [Session.attempt] at failed
  split at failed
  rotate_left
  · cases failed
  next serving =>
  have announced := ((run.serves (.inr serving)).announce component window
    (Option.some.inj failed)).keeps reportable rest
  rcases announced with lag | ⟨m, race⟩
  · simp [lag.commands] at unread
  obtain ⟨he, old⟩ := (quiesced ▸ race.guardian).of_restoring
  obtain ⟨unread', rest, next, restored⟩ :=
    (race.commands ▸ race.coordinator).unread old unread stale
  constructor
  · intro tolerates
    by_contra refused
    rcases race.receiveCommand quiesced next with ⟨h, -⟩ | ⟨-, -, error⟩
    · exact h.elim stale refused
    · exact (tolerates s₂ (.refl s₂)).1 _ _ error
  · intro superseded s₃ reach
    have written : m.written = command :: rest := by rw [race.commands, unread', next]; rfl
    have tolerated : m.Tolerated := by
      intro c mem
      rw [written, List.mem_cons] at mem
      rcases mem with rfl | mem
      · exact .inr superseded
      · exact .inl (restored c mem)
    obtain ⟨m', race', sent, tolerated'⟩ :=
      race.keeps reportable reach (by rw [written]; exact List.cons_ne_nil _ _) tolerated
    refine ⟨fun move error attempt => ?_, ?_, ?_, race'.completes reportable tolerated'⟩
    · rcases race'.step reportable attempt with ⟨_, _, ok, -⟩ | ⟨c, _, head, ne, refused, -⟩
      · cases ok
      · have mem : c ∈ m'.written := by simp [race'.commands, head]
        exact (tolerated' c mem).elim ne refused
    · rw [race'.acted, race.acted]
    · have before := race.proofs
      rw [unread'] at before
      have after := race'.proofs
      split at after
      · exact .inr (by simpa [before] using after)
      · exact .inl (by simpa [before] using after)

/-! ## Two runs -/

/-- The session after some moves, if no validator refuses one. -/
def Session.run : List Move → Session → Option Session
  | [], s => some s
  | move :: moves, s =>
    match attempt s move with
    | some (.ok s') => s'.run moves
    | _ => none

theorem reaches_of_run {moves : List Move} {s s' : Session} (h : s.run moves = some s') :
    Reaches s s' := by
  induction moves generalizing s with
  | nil =>
    cases h
    exact .refl _
  | cons move moves ih =>
    rw [Session.run] at h
    split at h
    · next s₁ step => exact (Reaches.tail move (.refl s) step).trans (ih h)
    · cases h

/-- The bootstrap of a session, up to the gate. -/
def bootstrapMoves : List Move :=
  [.answer .leaseCommitted, .receiveEvent, .send .start, .receiveCommand,
    .answer (.terminalArmed []), .receiveEvent, .send .terminalArmAccepted, .receiveCommand,
    .answer (.childStarted .appServer 10 10), .receiveEvent,
    .send (.childDescriptorsVerified .appServer), .receiveCommand,
    .answer (.childStarted .tui 20 20), .receiveEvent,
    .send (.childDescriptorsVerified .tui), .receiveCommand, .answer .ready, .receiveEvent]

/-- The gate of a session is opened. -/
def gateMoves : List Move :=
  [.send .openInputGate, .receiveCommand, .answer .inputGateOpened, .receiveEvent]

def sampleAt (moves : List Move) : Session := (Session.start.run moves).getD .start

/-- A gate command that races a failure is tolerated. -/
theorem announced_failure_tolerates_gate :
    Reaches .start (sampleAt (bootstrapMoves ++ [.send .openInputGate])) ∧
    (sampleAt (bootstrapMoves ++ [.send .openInputGate, .fail .component, .quiesce])).Tolerates := by
  have run : Reaches .start (sampleAt (bootstrapMoves ++ [.send .openInputGate])) :=
    reaches_of_run (by rfl : Session.start.run (bootstrapMoves ++ [.send .openInputGate]) = _)
  have rest : Reaches (sampleAt (bootstrapMoves ++ [.send .openInputGate, .fail .component]))
      (sampleAt (bootstrapMoves ++ [.send .openInputGate, .fail .component, .quiesce])) :=
    .tail .quiesce (.refl _) rfl
  exact ⟨run, (@announced_failure_tolerates_iff _ _ _ .component .openInputGate run (.inl rfl) nofun
    rfl rest rfl List.mem_cons_self nofun).mpr trivial⟩

/-- A suspension that races a failure makes the guardian report an error. -/
theorem announced_failure_refuses_suspend :
    let s := sampleAt (bootstrapMoves ++ gateMoves ++ [.send .suspend])
    let s₁ := sampleAt (bootstrapMoves ++ gateMoves ++ [.send .suspend, .fail .component])
    let s₂ := sampleAt (bootstrapMoves ++ gateMoves ++ [.send .suspend, .fail .component, .quiesce])
    Reaches .start s ∧ s.guardian.terminal.state = .active ∧
      s.attempt (.fail .component) = some (.ok s₁) ∧ s₁.attempt .quiesce = some (.ok s₂) ∧
      .suspend ∈ s₂.commands ∧ s₂.attempt .receiveCommand = some (.error .unexpectedState) ∧
      ¬s₂.Tolerates := by
  have refused : (sampleAt (bootstrapMoves ++ gateMoves ++
      [.send .suspend, .fail .component, .quiesce])).attempt .receiveCommand =
        some (.error .unexpectedState) := rfl
  have run : Session.start.run (bootstrapMoves ++ gateMoves ++ [.send .suspend]) = _ := rfl
  exact ⟨reaches_of_run run, rfl, rfl, rfl, List.mem_cons_self, refused,
    fun tolerates => (tolerates _ (.refl _)).1 _ _ refused⟩

end Calcifer.Supervisor
