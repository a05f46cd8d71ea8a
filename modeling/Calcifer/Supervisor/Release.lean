import Calcifer.Library.Checks
import Calcifer.Supervisor.Shutdown

/-!
# The release of the anchor

The anchor returns to the shell only when the guardian has published the frame of a released provider.
The shutdown is run here in a world that keeps the guardian's end of the wire, what was published and
what became of the events that follow a report.

Every function of the shutdown has one rule, which says what it makes of a sound owner. The rules of all
rounds together show that the frame is published only after a report, and never beside the frame of a
retained generation; and that a report releases the anchor exactly if no event that follows it is
refused.
-/

namespace Calcifer.Supervisor

open Program Guard

/-! ## The surroundings of the guardian -/

/-- The guardian's end of the wire, whether the outer terminal is restored and whether there was a
report, what became of the events since, and the frames on the completion endpoint. -/
structure GuardianWorld where
  lifecycle : GuardianLifecycle
  restored : Bool
  reported : Bool
  closing : List (Except GuardianLifecycleError Unit)
  published : List CompletionTerminalFrame
deriving Repr

/-- What is up to the surroundings of a call. -/
abbrev GuardianOp.Input : GuardianOp → Type
  | .emit _ => Except ProtocolError Unit
  | .receive => Except ProtocolError CoordinatorCommand
  | .takeTerminalRestored | .takeExitDisposition | .failureAnnounced => Unit
  | .sessionStep _ => ShutdownStep
  | .finishSession _ _ => ComponentsOutcome
  | .startupStep _ => StartupStep
  | .finishStartup => PartialStartupOutcome
  | .restore | .retryDisarm | .publish _ => Bool
  | .disarm => RecoveryDisarmOutcome
  | .pollRecoveryRequest => Option RecoveryRequestPoll

namespace GuardianWorld

/-- The answer to a call. -/
def answer (w : GuardianWorld) : (op : GuardianOp) → op.Input → op.Reply × GuardianWorld
  | .emit event, written =>
    let (reply, lifecycle) := w.lifecycle.emit event written
    (reply, { w with
      lifecycle, closing := if w.reported then w.closing ++ [reply] else w.closing })
  | .receive, input =>
    let (reply, lifecycle) := w.lifecycle.receive input
    (reply, { w with lifecycle, restored := w.restored || reply matches .ok .terminalRestored })
  | .takeTerminalRestored, _ =>
    let (reply, lifecycle) := w.lifecycle.takeTerminalRestored
    (reply, { w with lifecycle })
  | .takeExitDisposition, _ =>
    let (reply, lifecycle) := w.lifecycle.takeExitDisposition
    (reply, { w with lifecycle })
  | .failureAnnounced, _ => (w.lifecycle.failureAnnounced, w)
  | .sessionStep _, step => (step, w)
  | .finishSession _ _, outcome => (outcome, { w with reported := true })
  | .startupStep _, step => (step, w)
  | .finishStartup, outcome => (outcome, { w with reported := true })
  | .restore, restored => (restored, { w with restored := w.restored || restored })
  | .disarm, outcome => (outcome, w)
  | .retryDisarm, disarmed => (disarmed, w)
  | .publish frame, written =>
    (written, { w with published := if written then w.published ++ [frame] else w.published })
  | .pollRecoveryRequest, poll => (poll, w)

end GuardianWorld

/-- A guardian whose surroundings choose what is allowed to them. -/
def guardianSurroundings (allowed : (w : GuardianWorld) → (op : GuardianOp) → op.Input → Prop) :
    Surroundings GuardianOp GuardianOp.Reply GuardianWorld where
  Exec w op reply w' := ∃ input, allowed w op input ∧ w.answer op input = (reply, w')
  Env _ _ := False

variable {allowed : (w : GuardianWorld) → (op : GuardianOp) → op.Input → Prop}

theorem guardianSurroundings_still : (guardianSurroundings allowed).Still := fun _ _ => id

/-- The frames of a generation come one at a time, and the released one only after a report. -/
def GuardianWorld.Orderly (w : GuardianWorld) : Prop :=
  w.published = [] ∨ (w.published = [.providerReleased] ∧ w.reported) ∨
    (w.published = [.retainedUnrecoverable] ∧ w.reported = false)

/-- A part of the shutdown in such surroundings, with what holds of its result. -/
def Guarded {α : Type} (allowed : (w : GuardianWorld) → (op : GuardianOp) → op.Input → Prop)
    (x : Guard α) (Q : α → GuardianWorld → Prop) (w : GuardianWorld) : Prop :=
  Safe (guardianSurroundings allowed) GuardianWorld.Orderly x Q w

section Rules

variable {α β : Type} {w : GuardianWorld} {Q : α → GuardianWorld → Prop}

theorem Guarded.pure {a : α} (h : Q a w) : Guarded allowed (pure a) Q w := h

theorem Guarded.mono {x : Guard α} {Q' : α → GuardianWorld → Prop} (h : Guarded allowed x Q w)
    (imp : ∀ a w, Q a w → Q' a w) : Guarded allowed x Q' w :=
  Safe.mono h imp

/-- Sequencing: the first part establishes what the second one needs. -/
theorem Guarded.bind {x : Guard α} {f : α → Guard β} {Q' : β → GuardianWorld → Prop}
    (h : Guarded allowed x Q w) (next : ∀ a w, Q a w → Guarded allowed (f a) Q' w) :
    Guarded allowed (x >>= f) Q' w :=
  Safe.bind (Safe.mono h next)

/-- A call, and what follows it. -/
theorem Guarded.ask {op : GuardianOp} {f : op.Reply → Guard β} {Q' : β → GuardianWorld → Prop}
    (h : ∀ input, allowed w op input → (w.answer op input).2.Orderly ∧
      Guarded allowed (f (w.answer op input).1) Q' (w.answer op input).2) :
    Guarded allowed (ask op >>= f) Q' w := by
  refine Safe.bind (Safe.perform guardianSurroundings_still ?_)
  rintro r w' ⟨input, ok, same⟩
  have := h input ok
  rw [same] at this
  exact this

end Rules

/-! ## Sound owners

The phases before the restoration of the terminal have the recovery armed, those after it have the
terminal restored. -/

/-- Every phase that is tried advances. -/
structure Advances (allowed : (w : GuardianWorld) → (op : GuardianOp) → op.Input → Prop) : Prop where
  session : ∀ w phase step, allowed w (.sessionStep phase) step → step.progress = .advanced
  startup : ∀ w phase step, allowed w (.startupStep phase) step →
    step.progress = .advanced ∧ step.reportable
  disarm : ∀ w outcome, allowed w .disarm outcome → outcome = .disarmed
  retryDisarm : ∀ w disarmed, allowed w .retryDisarm disarmed → disarmed

/-- The recovery of a terminal that is restored. -/
def TerminalRecoveryAuthority.restored : TerminalRecoveryAuthority → Bool
  | .armed _ => false
  | _ => true

namespace OrderedShutdown

/-- A shutdown that the restoration of the terminal is ahead of. -/
structure Armed (s : OrderedShutdown) : Prop where
  pump : s.phase ≠ .quiesce → s.pumpQuiesced
  tui : s.phase ≠ .quiesce → s.phase ≠ .tui → s.tuiReaped
  recovery : s.recovery = some (.armed true)
  ahead : 4 ≤ s.phase.remaining

/-- A shutdown that the restoration of the terminal is behind of. -/
structure Restored (s : OrderedShutdown) : Prop where
  pump : s.pumpQuiesced
  tui : s.tuiReaped
  recovery : ∃ authority, s.recovery = some authority ∧ authority.restored
  behind : s.phase.remaining ≤ 4
  disarmed : s.phase.remaining < 3 → s.recovery = some .disarmed

theorem Armed.new (cause : Option SessionTerminationCause) (error : Option SessionOperationError) :
    (new cause error).Armed :=
  ⟨fun h => absurd rfl h, fun h => absurd rfl h, rfl, by simp [OrderedShutdown.new]⟩

variable {s : OrderedShutdown} {w : GuardianWorld}

theorem Armed.record (h : s.Armed) (step : ShutdownStep) : (s.record step).Armed :=
  ⟨h.pump, h.tui, h.recovery, h.ahead⟩

theorem Restored.record (h : s.Restored) (step : ShutdownStep) : (s.record step).Restored :=
  ⟨h.pump, h.tui, h.recovery, h.behind, h.disarmed⟩

/-- A component advances, or is retained although not everything advances. -/
theorem component_cases {phase : ShutdownPhase} {step : ShutdownStep} {A B C : Prop}
    (ok : allowed w (.sessionStep phase) step) (advanced : step.progress = .advanced → A)
    (retained : B) :
    step.progress = .advanced ∧ A ∨ step.progress = .retained ∧ B ∧ (Advances allowed → C) := by
  cases progress : step.progress with
  | advanced => exact .inl ⟨rfl, advanced progress⟩
  | retained =>
    refine .inr ⟨rfl, retained, fun advances => ?_⟩
    simp [advances.session w phase step ok] at progress

/-- What a phase before the restoration comes to. -/
theorem Armed.shutdownStep (h : s.Armed) (orderly : w.Orderly) :
    Guarded allowed s.shutdownStep (fun (step, s') w' => w' = w ∧ s'.phase = s.phase ∧
      (step.progress = .advanced ∧ { s' with phase := s.phase.next }.Armed ∨
        step.progress = .retained ∧ s'.Armed ∧ (Advances allowed → s.phase = .terminalRestore))) w := by
  obtain ⟨pump, tui, recovery, ahead⟩ := h
  obtain ⟨phase, errors, pumpQuiesced, tuiReaped, authority, cause⟩ := s
  simp only at pump tui recovery ahead
  subst recovery
  cases phase with
  | quiesce =>
    refine Guarded.ask fun step ok => ⟨orderly, rfl, rfl, component_cases ok (fun _ => ?_) ?_⟩
    · exact ⟨fun _ => rfl, fun _ h => absurd rfl h, rfl, by simp⟩
    · exact ⟨fun _ => rfl, fun h => absurd rfl h, rfl, ahead⟩
  | tui =>
    refine Guarded.ask fun step ok => ⟨orderly, rfl, rfl, component_cases ok (fun advanced => ?_) ?_⟩
    · exact ⟨fun _ => pump (by simp), fun _ _ => by simp [advanced], rfl,
        by simp⟩
    · exact ⟨pump, fun _ h => absurd rfl h, rfl, ahead⟩
  | readinessRelay | monitor | appServerStop =>
    refine Guarded.ask fun step ok => ⟨orderly, rfl, rfl, component_cases ok (fun _ => ?_) ?_⟩
    · exact ⟨fun _ => pump (by simp), fun _ _ => tui (by simp) (by simp), rfl,
        by simp⟩
    · exact ⟨pump, tui, rfl, ahead⟩
  | terminalRestore =>
    refine ⟨rfl, rfl, .inr ⟨?_, ⟨pump, tui, rfl, ahead⟩, fun _ => rfl⟩⟩
    simp [awaitCoordinatorRestore, pump, tui, ShutdownStep.retained]
  | recoveryDisarm | runtimeCleanup | pinnedBuild | complete =>
    simp at ahead

/-- What the rest of a phase does not look at. -/
theorem remaining_next {phase : ShutdownPhase} {n : Nat} (left : phase.remaining = n + 1) :
    phase.next.remaining = n := by
  cases phase <;> simp_all

/-- Up to the restoration of the terminal, a shutdown is retained at the latest there. -/
theorem Armed.runFor {n : Nat} (h : s.Armed) (left : s.phase.remaining = n) (orderly : w.Orderly) :
    Guarded allowed (s.runFor n) (fun result w' => w' = w ∧ ∃ s', result = .error s' ∧ s'.Armed ∧
      (Advances allowed → s'.phase = .terminalRestore)) w := by
  induction n generalizing s with
  | zero => exact absurd h.ahead (by omega)
  | succ n ih =>
    refine Guarded.bind (h.shutdownStep orderly) ?_
    rintro ⟨step, s'⟩ _ ⟨rfl, phase, ⟨progress, armed⟩ | ⟨progress, armed, advances⟩⟩
    · simp only [progress]
      refine ih (s := { s'.record step with phase := s'.phase.next }) ?_ ?_
      · rw [phase]
        exact armed.record step
      · rw [phase]
        exact remaining_next left
    · simp only [progress]
      exact ⟨rfl, _, rfl, armed.record step, fun all => phase.trans (advances all)⟩

/-- What a phase after the restoration comes to. -/
theorem Restored.shutdownStep (h : s.Restored) (left : 1 ≤ s.phase.remaining) (orderly : w.Orderly) :
    Guarded allowed s.shutdownStep (fun (step, s') w' => w' = w ∧ s'.phase = s.phase ∧
      (step.progress = .advanced ∧ { s' with phase := s.phase.next }.Restored ∨
        step.progress = .retained ∧ (s'.Restored ∧ s.phase.remaining ≤ 3) ∧
          (Advances allowed → False))) w := by
  obtain ⟨pump, tui, ⟨authority, recovery, restored⟩, behind, disarmed⟩ := h
  obtain ⟨phase, errors, pumpQuiesced, tuiReaped, recovery', cause⟩ := s
  simp only at pump tui recovery behind disarmed left
  subst recovery
  cases phase with
  | quiesce | tui | readinessRelay | monitor | appServerStop => simp at behind
  | terminalRestore =>
    refine ⟨rfl, rfl, .inl ⟨?_, pump, tui, ⟨authority, rfl, restored⟩, by simp, ?_⟩⟩
    · cases authority <;>
        simp_all [awaitCoordinatorRestore, ShutdownStep.advanced, TerminalRecoveryAuthority.restored]
    · simp
  | recoveryDisarm =>
    have next : OrderedShutdown.Restored
        ⟨.runtimeCleanup, errors, pumpQuiesced, tuiReaped, some .disarmed, cause⟩ :=
      ⟨pump, tui, ⟨_, rfl, rfl⟩, by simp, fun _ => rfl⟩
    have stay {authority : TerminalRecoveryAuthority} (restored : authority.restored) :
        OrderedShutdown.Restored
          ⟨.recoveryDisarm, errors, pumpQuiesced, tuiReaped, some authority, cause⟩ :=
      ⟨pump, tui, ⟨_, rfl, restored⟩, by simp, by simp⟩
    cases authority with
    | armed => simp [TerminalRecoveryAuthority.restored] at restored
    | disarmed => exact ⟨rfl, rfl, .inl ⟨rfl, next⟩⟩
    | coordinatorRestored | fallbackRestored =>
      refine Guarded.ask fun outcome ok => ⟨orderly, ?_⟩
      cases outcome with
      | disarmed => exact ⟨rfl, rfl, .inl ⟨rfl, next⟩⟩
      | unconfirmed | failed =>
        refine ⟨rfl, rfl, .inr ⟨rfl, ⟨stay rfl, by simp⟩, fun advances => ?_⟩⟩
        cases advances.disarm w _ ok
    | disarmUnconfirmed =>
      refine Guarded.ask fun disarmed ok => ⟨orderly, ?_⟩
      cases disarmed with
      | true => exact ⟨rfl, rfl, .inl ⟨rfl, next⟩⟩
      | false =>
        refine ⟨rfl, rfl, .inr ⟨rfl, ⟨stay rfl, by simp⟩, fun advances => ?_⟩⟩
        cases advances.retryDisarm w _ ok
  | runtimeCleanup | pinnedBuild =>
    refine Guarded.ask fun step ok => ⟨orderly, rfl, rfl, component_cases ok (fun _ => ?_) ?_⟩
    · exact ⟨pump, tui, ⟨authority, rfl, restored⟩, by simp,
        fun _ => disarmed (by simp)⟩
    · exact ⟨⟨pump, tui, ⟨authority, rfl, restored⟩, behind, disarmed⟩, by simp⟩
  | complete => simp at left

/-- After the restoration of the terminal, a shutdown completes or is retained in its cleanup. -/
theorem Restored.runFor {n : Nat} (h : s.Restored) (left : s.phase.remaining = n) (orderly : w.Orderly) :
    Guarded allowed (s.runFor n) (fun result w' => w' = w ∧
      ((∃ s', result = .ok s' ∧ s'.Restored ∧ s'.recovery = some .disarmed) ∨
        ∃ s', result = .error s' ∧ (s'.Restored ∧ s'.phase.remaining ≤ 3) ∧
          (Advances allowed → False))) w := by
  induction n generalizing s with
  | zero => exact ⟨rfl, .inl ⟨s, rfl, h, h.disarmed (by omega)⟩⟩
  | succ n ih =>
    refine Guarded.bind (h.shutdownStep (by omega) orderly) ?_
    rintro ⟨step, s'⟩ _ ⟨rfl, phase, ⟨progress, restored⟩ | ⟨progress, ⟨restored, cleanup⟩, advances⟩⟩
    · simp only [progress]
      refine ih (s := { s'.record step with phase := s'.phase.next }) ?_ ?_
      · rw [phase]
        exact restored.record step
      · rw [phase]
        exact remaining_next left
    · simp only [progress]
      exact ⟨rfl, .inr ⟨_, rfl, ⟨restored.record step, phase ▸ cleanup⟩, advances⟩⟩

theorem Armed.run (h : s.Armed) (orderly : w.Orderly) :
    Guarded allowed s.run (fun result w' => w' = w ∧ ∃ s', result = .retained s' ∧ s'.Armed ∧
      (Advances allowed → s'.phase = .terminalRestore)) w := by
  refine Guarded.bind (h.runFor rfl orderly) ?_
  rintro _ _ ⟨rfl, s', rfl, armed, advances⟩
  exact ⟨rfl, s', rfl, armed, advances⟩

/-- A report was made now, as the surroundings are allowed to make it. -/
def Reports (allowed : (w : GuardianWorld) → (op : GuardianOp) → op.Input → Prop)
    (w : GuardianWorld) (report : SessionShutdownReport) (w' : GuardianWorld) : Prop :=
  w' = { w with reported := true } ∧
    allowed w (.finishSession report.errors report.terminationCause) report.components

theorem Restored.run (h : s.Restored) (fresh : w.published = []) :
    Guarded allowed s.run (fun result w' => (∃ report, result = .reported report ∧
      Reports allowed w report w') ∨ w' = w ∧ ∃ s', result = .retained s' ∧
        (s'.Restored ∧ s'.phase.remaining ≤ 3) ∧ (Advances allowed → False)) w := by
  refine Guarded.bind (h.runFor rfl (.inl fresh)) ?_
  rintro _ _ ⟨rfl, ⟨s', rfl, restored, disarmed⟩ | ⟨s', rfl, retained⟩⟩
  · have complete : ¬(¬s'.tuiReaped ∨ ¬s'.pumpQuiesced ∨ s'.recovery ≠ some .disarmed) := by
      simp [restored.tui, restored.pump, disarmed]
    simp only [complete, if_false]
    refine Guarded.ask fun outcome ok => ⟨.inl fresh, .inl ⟨_, rfl, rfl, ok⟩⟩
  · exact .inr ⟨rfl, s', rfl, retained⟩

/-- A shutdown that waits for the restoration of the terminal takes the coordinator's proof. -/
theorem Armed.acknowledgeTerminalRestored (h : s.Armed) (restore : s.phase = .terminalRestore) :
    ∃ s', s.acknowledgeTerminalRestored = .ok s' ∧ s'.Restored := by
  have pump := h.pump (by simp [restore])
  have tui := h.tui (by simp [restore]) (by simp [restore])
  refine ⟨{ s with recovery := some .coordinatorRestored }, ?_, pump, tui, ⟨_, rfl, rfl⟩, ?_, ?_⟩
  · simp [OrderedShutdown.acknowledgeTerminalRestored, h.recovery, restore, pump, tui]
  · simp [restore]
  · simp [restore]

/-- The fallback restores the terminal, or leaves the shutdown where it was. -/
theorem Armed.restoreAfterLifecycleLoss (h : s.Armed) (restore : s.phase = .terminalRestore)
    (orderly : w.Orderly) :
    Guarded allowed s.restoreAfterLifecycleLoss (fun result w' =>
      (∃ s', result = .ok s' ∧ s'.Restored ∧ w' = { w with restored := true }) ∨
      ∃ s', result = .error s' ∧ (s'.Armed ∧ s'.phase = .terminalRestore) ∧ w' = w ∧
        allowed w .restore false) w := by
  have pump := h.pump (by simp [restore])
  have tui := h.tui (by simp [restore]) (by simp [restore])
  have here : ¬s.phase ≠ .terminalRestore := not_not_intro restore
  simp only [OrderedShutdown.restoreAfterLifecycleLoss, if_neg here, h.recovery]
  refine Guarded.ask fun restored ok => ⟨orderly, ?_⟩
  cases restored with
  | true =>
    refine .inl ⟨{ s with recovery := some .fallbackRestored }, rfl, ?_, ?_⟩
    · exact ⟨pump, tui, ⟨_, rfl, rfl⟩, by simp [restore], by simp [restore]⟩
    · simp [GuardianWorld.answer]
  | false =>
    refine .inr ⟨_, rfl, ⟨h.record _, restore⟩, ?_, ok⟩
    simp [GuardianWorld.answer]

end OrderedShutdown

namespace PartialStartupOwner

/-- A startup that the restoration of the terminal is ahead of. -/
structure Armed (s : PartialStartupOwner) : Prop where
  tui : s.phase ≠ .tui → s.tuiClean
  endpoint : s.phase = .awaitingCoordinatorRestore → s.endpointOpen = false
  recovery : s.recovery = some (.armed true)
  ahead : 4 ≤ s.phase.remaining

/-- A startup that the restoration of the terminal is behind of. -/
structure Restored (s : PartialStartupOwner) : Prop where
  tui : s.tuiClean
  endpoint : s.endpointOpen = false
  recovery : ∃ authority, s.recovery = some authority ∧ authority.restored
  behind : s.phase.remaining ≤ 3
  disarmed : s.phase.remaining < 3 → s.recovery = some .disarmed
  app : s.phase.remaining < 2 → s.appClean

theorem Armed.new : Armed .new :=
  ⟨fun h => absurd rfl h, nofun, rfl, by decide⟩

variable {s : PartialStartupOwner} {w : GuardianWorld}

/-- A component advances, or is retained although not everything advances. -/
theorem component_cases {phase : StartupShutdownPhase} {step : StartupStep} {A B : Prop}
    (ok : allowed w (.startupStep phase) step) (advanced : step.progress = .advanced → A)
    (retained : B) :
    step.progress = .advanced ∧ A ∨ step.progress = .retained ∧ B ∧ (Advances allowed → False) := by
  cases progress : step.progress with
  | advanced => exact .inl ⟨rfl, advanced progress⟩
  | retained =>
    refine .inr ⟨rfl, retained, fun advances => ?_⟩
    simp [advances.startup w phase step ok] at progress

/-- What a phase before the restoration comes to. -/
theorem Armed.step (h : s.Armed) (left : 5 ≤ s.phase.remaining) (orderly : w.Orderly) :
    Guarded allowed s.step (fun (progress, s') w' => w' = w ∧ s'.phase = s.phase ∧
      (Advances allowed → s.terminalReportable → s'.terminalReportable) ∧
      (progress = .advanced ∧ { s' with phase := s.phase.next }.Armed ∨
        progress = .retained ∧ s'.Armed ∧ (Advances allowed → False))) w := by
  obtain ⟨tui, endpoint, recovery, ahead⟩ := h
  obtain ⟨phase, endpointOpen, authority, reportable, appClean, tuiClean⟩ := s
  simp only at tui endpoint recovery ahead left
  subst recovery
  have stays {phase : StartupShutdownPhase} {step : StartupStep}
      (ok : allowed w (.startupStep phase) step) (advances : Advances allowed) (h : reportable) :
      (reportable && step.reportable) = true := by
    simp [h, advances.startup w phase step ok]
  cases phase with
  | tui =>
    refine Guarded.ask fun step ok => ⟨orderly, rfl, rfl, stays ok, component_cases ok (fun advanced => ?_) ?_⟩
    · exact ⟨fun _ => Bool.or_eq_true_iff.mpr (.inr (decide_eq_true advanced)), by simp, rfl, by simp⟩
    · exact ⟨fun h => absurd rfl h, by simp, rfl, ahead⟩
  | relay | monitor | appStop =>
    refine Guarded.ask fun step ok => ⟨orderly, rfl, rfl, stays ok, component_cases ok (fun _ => ?_) ?_⟩
    · exact ⟨fun _ => tui (by simp), by simp, rfl, by simp⟩
    · exact ⟨tui, by simp, rfl, ahead⟩
  | terminalQuiesce =>
    cases endpointOpen with
    | false =>
      exact ⟨rfl, rfl, fun _ h => h, .inl ⟨rfl, fun _ => tui (by simp), fun _ => rfl, rfl, by simp⟩⟩
    | true =>
      refine Guarded.ask fun step ok => ⟨orderly, ?_⟩
      obtain ⟨progress, reports⟩ := step
      cases progress with
      | advanced =>
        exact ⟨rfl, rfl, fun _ h => h, .inl ⟨rfl, fun _ => tui (by simp), fun _ => rfl, rfl, by simp⟩⟩
      | retained =>
        refine ⟨rfl, rfl, fun _ h => h, .inr ⟨rfl, ⟨tui, by simp, rfl, ahead⟩, fun advances => ?_⟩⟩
        simpa using advances.startup w _ _ ok
  | awaitingCoordinatorRestore | recoveryDisarm | runtimeCleanup | buildCleanup | complete =>
    simp at left

theorem remaining_next {phase : StartupShutdownPhase} {n : Nat} (left : phase.remaining = n + 1) :
    phase.next.remaining = n := by
  cases phase <;> simp_all

/-- The phases before the restoration lead to it, or are retained. -/
theorem Armed.driveStartupPhases {n : Nat} (h : s.Armed) (left : s.phase.remaining = n + 4)
    (orderly : w.Orderly) :
    Guarded allowed (s.driveStartupPhases n) (fun result w' => w' = w ∧
      ((∃ s', result = .ok s' ∧ s'.Armed ∧ s'.phase = .awaitingCoordinatorRestore ∧
        (Advances allowed → s.terminalReportable → s'.terminalReportable)) ∨
        ∃ s', result = .error s' ∧ s'.Armed ∧ (Advances allowed → False))) w := by
  induction n generalizing s with
  | zero =>
    refine ⟨rfl, .inl ⟨s, rfl, h, ?_, fun _ h => h⟩⟩
    cases phase : s.phase <;> simp [phase] at left ⊢
  | succ n ih =>
    refine Guarded.bind (h.step (by omega) orderly) ?_
    rintro ⟨_, s'⟩ _ ⟨rfl, phase, reportable, ⟨rfl, armed⟩ | ⟨rfl, armed, advances⟩⟩
    · have next := ih (s := { s' with phase := s'.phase.next }) (phase ▸ armed)
        (phase ▸ remaining_next left)
      refine next.mono ?_
      rintro _ _ ⟨rfl, ⟨s'', rfl, armed, restore, still⟩ | ⟨s'', rfl, retained⟩⟩
      · exact ⟨rfl, .inl ⟨s'', rfl, armed, restore, fun all h => still all (reportable all h)⟩⟩
      · exact ⟨rfl, .inr ⟨s'', rfl, retained⟩⟩
    · exact ⟨rfl, .inr ⟨s', rfl, armed, advances⟩⟩

theorem Armed.runToRestore (h : s.Armed) (orderly : w.Orderly) :
    Guarded allowed s.runToRestore (fun result w' => w' = w ∧
      ((∃ s', result = .ok s' ∧ s'.Armed ∧ s'.phase = .awaitingCoordinatorRestore ∧
        (Advances allowed → s.terminalReportable → s'.terminalReportable)) ∨
        ∃ s', result = .error s' ∧ s'.Armed ∧ (Advances allowed → False))) w := by
  have ahead := h.ahead
  have four : StartupShutdownPhase.remaining .awaitingCoordinatorRestore = 4 := rfl
  have within : ¬s.phase.remaining < 4 := by omega
  simp only [PartialStartupOwner.runToRestore, four, within, if_false]
  exact h.driveStartupPhases (by omega) orderly

/-- What a phase after the restoration comes to. -/
theorem Restored.step (h : s.Restored) (left : 1 ≤ s.phase.remaining) (orderly : w.Orderly) :
    Guarded allowed s.step (fun (progress, s') w' => w' = w ∧ s'.phase = s.phase ∧
      (Advances allowed → s.terminalReportable → s'.terminalReportable) ∧
      (progress = .advanced ∧ { s' with phase := s.phase.next }.Restored ∨
        progress = .retained ∧ s'.Restored ∧
          (Advances allowed → s.terminalReportable → False))) w := by
  obtain ⟨tui, endpoint, ⟨authority, recovery, restored⟩, behind, disarmed, app⟩ := h
  obtain ⟨phase, endpointOpen, recovery', reportable, appClean, tuiClean⟩ := s
  simp only at tui endpoint recovery behind disarmed app left
  subst recovery tui endpoint
  cases phase with
  | tui | relay | monitor | appStop | terminalQuiesce | awaitingCoordinatorRestore => simp at behind
  | recoveryDisarm =>
    have next : PartialStartupOwner.Restored
        ⟨.runtimeCleanup, false, some .disarmed, reportable, appClean, true⟩ :=
      ⟨rfl, rfl, ⟨_, rfl, rfl⟩, by simp, fun _ => rfl, by simp⟩
    have stay {authority : TerminalRecoveryAuthority} (restored : authority.restored) :
        PartialStartupOwner.Restored
          ⟨.recoveryDisarm, false, some authority, reportable, appClean, true⟩ :=
      ⟨rfl, rfl, ⟨_, rfl, restored⟩, by simp, by simp, by simp⟩
    cases authority with
    | armed => simp [TerminalRecoveryAuthority.restored] at restored
    | disarmed => exact ⟨rfl, rfl, fun _ h => h, .inl ⟨rfl, next⟩⟩
    | coordinatorRestored | fallbackRestored =>
      refine Guarded.ask fun outcome ok => ⟨orderly, ?_⟩
      cases outcome with
      | disarmed => exact ⟨rfl, rfl, fun _ h => h, .inl ⟨rfl, next⟩⟩
      | unconfirmed | failed =>
        refine ⟨rfl, rfl, fun _ h => h, .inr ⟨rfl, stay rfl, fun advances => ?_⟩⟩
        cases advances.disarm w _ ok
    | disarmUnconfirmed =>
      refine Guarded.ask fun disarmed ok => ⟨orderly, ?_⟩
      cases disarmed with
      | true => exact ⟨rfl, rfl, fun _ h => h, .inl ⟨rfl, next⟩⟩
      | false =>
        refine ⟨rfl, rfl, fun _ h => h, .inr ⟨rfl, stay rfl, fun advances => ?_⟩⟩
        cases advances.retryDisarm w _ ok
  | runtimeCleanup =>
    refine Guarded.ask fun step ok => ⟨orderly, rfl, rfl, fun advances h => ?_, ?_⟩
    · exact Bool.and_eq_true_iff.mpr ⟨h, (advances.startup w _ step ok).2⟩
    · have disarmed := disarmed (by simp)
      rcases component_cases (A := True) (B := True) ok (fun _ => trivial) trivial with
        ⟨advanced, -⟩ | ⟨retained, -, stuck⟩
      · exact .inl ⟨advanced, rfl, rfl, ⟨authority, rfl, restored⟩, by simp, fun _ => disarmed,
          fun _ => Bool.or_eq_true_iff.mpr (.inr (decide_eq_true advanced))⟩
      · exact .inr ⟨retained, ⟨rfl, rfl, ⟨authority, rfl, restored⟩, behind, fun _ => disarmed,
          by simp⟩, fun advances _ => stuck advances⟩
  | buildCleanup =>
    have disarmed := disarmed (by simp)
    have app := app (by simp)
    have stay : PartialStartupOwner.Restored
        ⟨.buildCleanup, false, some authority, reportable, appClean, true⟩ :=
      ⟨rfl, rfl, ⟨authority, rfl, restored⟩, behind, fun _ => disarmed, fun _ => app⟩
    cases reportable with
    | false => exact ⟨rfl, rfl, fun _ h => h, .inr ⟨rfl, stay, fun _ h => nomatch h⟩⟩
    | true =>
      refine Guarded.ask fun step ok => ⟨orderly, rfl, rfl, fun _ h => h, ?_⟩
      rcases component_cases (A := True) (B := True) ok (fun _ => trivial) trivial with
        ⟨advanced, -⟩ | ⟨retained, -, stuck⟩
      · exact .inl ⟨advanced, rfl, rfl, ⟨authority, rfl, restored⟩, by simp, fun _ => disarmed,
          fun _ => app⟩
      · exact .inr ⟨retained, stay, fun advances _ => stuck advances⟩
  | complete => simp at left

/-- After the restoration of the terminal, a startup completes or is retained in its cleanup. -/
theorem Restored.driveStartupPhases {n : Nat} (h : s.Restored) (left : s.phase.remaining = n)
    (orderly : w.Orderly) :
    Guarded allowed (s.driveStartupPhases n) (fun result w' => w' = w ∧
      ((∃ s', result = .ok s' ∧ s'.Restored ∧ s'.recovery = some .disarmed ∧ s'.appClean) ∨
        ∃ s', result = .error s' ∧ s'.Restored ∧
          (Advances allowed → s.terminalReportable → False))) w := by
  induction n generalizing s with
  | zero => exact ⟨rfl, .inl ⟨s, rfl, h, h.disarmed (by omega), h.app (by omega)⟩⟩
  | succ n ih =>
    refine Guarded.bind (h.step (by omega) orderly) ?_
    rintro ⟨_, s'⟩ _ ⟨rfl, phase, reportable, ⟨rfl, restored⟩ | ⟨rfl, restored, advances⟩⟩
    · have next := ih (s := { s' with phase := s'.phase.next }) (phase ▸ restored)
        (phase ▸ remaining_next left)
      refine next.mono ?_
      rintro _ _ ⟨rfl, done | ⟨s'', rfl, restored, stuck⟩⟩
      · exact ⟨rfl, .inl done⟩
      · exact ⟨rfl, .inr ⟨s'', rfl, restored, fun all h => stuck all (reportable all h)⟩⟩
    · exact ⟨rfl, .inr ⟨s', rfl, restored, advances⟩⟩

theorem Restored.runAfterRestore (h : s.Restored) (fresh : w.published = []) :
    Guarded allowed s.runAfterRestore (fun result w' => (∃ outcome, result = .reported outcome ∧
      w' = { w with reported := true } ∧ allowed w .finishStartup outcome) ∨
      w' = w ∧ ∃ s', result = .retained s' ∧ s'.Restored ∧
        (Advances allowed → s.terminalReportable → False)) w := by
  refine Guarded.bind (h.driveStartupPhases rfl (.inl fresh)) ?_
  rintro _ _ ⟨rfl, ⟨s', rfl, restored, disarmed, app⟩ | ⟨s', rfl, retained⟩⟩
  · simp only [app, restored.tui, restored.endpoint, disarmed, not_true, or_self, if_false,
      Bool.false_eq_true, ne_eq]
    exact Guarded.ask fun outcome ok => ⟨.inl fresh, .inl ⟨_, rfl, rfl, ok⟩⟩
  · exact .inr ⟨rfl, s', rfl, retained⟩

end PartialStartupOwner

/-- A report that the surroundings are allowed to make. -/
def StartupCleanupReport.Allowed
    (allowed : (w : GuardianWorld) → (op : GuardianOp) → op.Input → Prop) (w : GuardianWorld) :
    StartupCleanupReport → Prop
  | .ofPartial outcome => allowed w .finishStartup outcome
  | .session report =>
    allowed w (.finishSession report.errors report.terminationCause) report.components

namespace StartupOwner

/-- An owner that the restoration of the terminal is ahead of. -/
def Armed : StartupOwner → Prop
  | .ofPartial owner => owner.Armed
  | .session failure => failure.Armed

/-- An owner that waits for the restoration of the terminal. -/
def AtRestore : StartupOwner → Prop
  | .ofPartial owner => owner.Armed ∧ owner.phase = .awaitingCoordinatorRestore
  | .session failure => failure.Armed ∧ failure.phase = .terminalRestore

/-- An owner that has the terminal restored. -/
def Restored : StartupOwner → Prop
  | .ofPartial owner => owner.Restored
  | .session failure => failure.Restored

/-- An owner that was retained in its cleanup. -/
def CleansUp : StartupOwner → Prop
  | .ofPartial owner => owner.Restored
  | .session failure => failure.Restored ∧ failure.phase.remaining ≤ 3

/-- Every child of the owner can be reported. -/
def Reportable : StartupOwner → Prop
  | .ofPartial owner => owner.terminalReportable
  | .session _ => True

variable {o : StartupOwner} {w : GuardianWorld}

theorem CleansUp.restored (h : o.CleansUp) : o.Restored := by
  cases o with
  | ofPartial owner => exact h
  | session failure => exact h.1

theorem AtRestore.armed (h : o.AtRestore) : o.Armed := by
  cases o with
  | ofPartial owner => exact h.1
  | session failure => exact h.1

theorem Armed.quiesceOwner (h : o.Armed) (orderly : w.Orderly) :
    Guarded allowed o.quiesceOwner (fun result w' => w' = w ∧
      ((∃ o', result = .reported o' ∧ o'.AtRestore ∧
        (Advances allowed → o.Reportable → o'.Reportable)) ∨
        ∃ o', result = .retained o' ∧ o'.Armed ∧ (Advances allowed → False))) w := by
  cases o with
  | ofPartial owner =>
    refine Guarded.bind (PartialStartupOwner.Armed.runToRestore h orderly) ?_
    rintro _ _ ⟨rfl, ⟨s', rfl, armed, restore, reportable⟩ | ⟨s', rfl, armed, stuck⟩⟩
    · exact ⟨rfl, .inl ⟨_, rfl, ⟨armed, restore⟩, reportable⟩⟩
    · exact ⟨rfl, .inr ⟨_, rfl, armed, stuck⟩⟩
  | session failure =>
    refine Guarded.bind (OrderedShutdown.Armed.run h orderly) ?_
    rintro _ _ ⟨rfl, s', rfl, armed, advances⟩
    by_cases restore : s'.phase = .terminalRestore
    · simp only [OrderedShutdown.awaitingTerminalRestore, restore, decide_true, if_true]
      exact ⟨rfl, .inl ⟨_, rfl, ⟨armed, restore⟩, fun _ _ => trivial⟩⟩
    · simp only [OrderedShutdown.awaitingTerminalRestore, restore, decide_false, Bool.false_eq_true,
        if_false]
      exact ⟨rfl, .inr ⟨_, rfl, armed, fun all => restore (advances all)⟩⟩

theorem AtRestore.acknowledgeTerminalRestored (h : o.AtRestore) :
    ∃ o', o.acknowledgeTerminalRestored = .ok o' ∧ o'.Restored ∧ (o.Reportable → o'.Reportable) := by
  cases o with
  | ofPartial owner =>
    obtain ⟨armed, restore⟩ := h
    have tui := armed.tui (by simp [restore])
    have endpoint := armed.endpoint restore
    refine ⟨.ofPartial { owner with recovery := some .coordinatorRestored, phase := owner.phase.next },
      ?_, ⟨tui, endpoint, ⟨_, rfl, rfl⟩, ?_, ?_, ?_⟩, fun h => h⟩
    · simp [StartupOwner.acknowledgeTerminalRestored, armed.recovery, restore, endpoint]
    · simp [restore]
    · simp [restore]
    · simp [restore]
  | session failure =>
    obtain ⟨s', ok, restored⟩ := OrderedShutdown.Armed.acknowledgeTerminalRestored h.1 h.2
    exact ⟨.session s', by simp [StartupOwner.acknowledgeTerminalRestored, ok], restored, fun h => h⟩

theorem AtRestore.restoreAfterLifecycleLoss (h : o.AtRestore) (orderly : w.Orderly) :
    Guarded allowed o.restoreAfterLifecycleLoss (fun result w' =>
      (∃ o', result = .ok o' ∧ o'.Restored ∧ (o.Reportable → o'.Reportable) ∧
        w' = { w with restored := true }) ∨
      ∃ o', result = .error o' ∧ o'.AtRestore ∧ w' = w ∧ allowed w .restore false) w := by
  cases o with
  | ofPartial owner =>
    obtain ⟨armed, restore⟩ := h
    have tui := armed.tui (by simp [restore])
    have endpoint := armed.endpoint restore
    simp only [StartupOwner.restoreAfterLifecycleLoss, armed.recovery]
    refine Guarded.ask fun restored ok => ⟨orderly, ?_⟩
    cases restored with
    | true =>
      refine .inl ⟨_, rfl, ⟨tui, endpoint, ⟨_, rfl, rfl⟩, ?_, ?_, ?_⟩, fun h => h, ?_⟩
      · simp [restore]
      · simp [restore]
      · simp [restore]
      · simp [GuardianWorld.answer]
    | false =>
      refine .inr ⟨_, rfl, ⟨armed, restore⟩, ?_, ok⟩
      simp [GuardianWorld.answer]
  | session failure =>
    refine Guarded.bind (OrderedShutdown.Armed.restoreAfterLifecycleLoss h.1 h.2 orderly) ?_
    rintro _ _ (⟨s', rfl, restored, rfl⟩ | ⟨s', rfl, armed, rfl, no⟩)
    · exact .inl ⟨_, rfl, restored, fun h => h, rfl⟩
    · exact .inr ⟨_, rfl, armed, rfl, no⟩

theorem Restored.finishPostRestore (h : o.Restored) (fresh : w.published = []) :
    Guarded allowed o.finishPostRestore (fun result w' =>
      (∃ report, result = .reported report ∧ w' = { w with reported := true } ∧
        report.Allowed allowed w) ∨
      w' = w ∧ ∃ o', result = .retained o' ∧ o'.CleansUp ∧
        (Advances allowed → o.Reportable → False)) w := by
  cases o with
  | ofPartial owner =>
    refine Guarded.bind (PartialStartupOwner.Restored.runAfterRestore h fresh) ?_
    rintro _ _ (⟨outcome, rfl, rfl, ok⟩ | ⟨rfl, s', rfl, restored, stuck⟩)
    · exact .inl ⟨_, rfl, rfl, ok⟩
    · exact .inr ⟨rfl, _, rfl, restored, stuck⟩
  | session failure =>
    refine Guarded.bind (OrderedShutdown.Restored.run h fresh) ?_
    rintro _ _ (⟨report, rfl, rfl, ok⟩ | ⟨rfl, s', rfl, restored, stuck⟩)
    · exact .inl ⟨_, rfl, rfl, ok⟩
    · exact .inr ⟨rfl, _, rfl, restored, fun advances _ => stuck advances⟩

end StartupOwner

/-! ## Reports -/

/-- The completion endpoint takes what is written to it. -/
def Writable (allowed : (w : GuardianWorld) → (op : GuardianOp) → op.Input → Prop) : Prop :=
  ∀ w frame written, allowed w (.publish frame) written → written

namespace GuardianWorld

/-- There was no report yet, and nothing was published. -/
structure Fresh (w : GuardianWorld) : Prop where
  unreported : w.reported = false
  closing : w.closing = []
  published : w.published = []

/-- There was a report just now. -/
structure Reporting (w : GuardianWorld) : Prop where
  reported : w.reported
  closing : w.closing = []
  published : w.published = []

/-- No event since the report was refused. -/
def Undisturbed (w : GuardianWorld) : Prop := ∀ reply ∈ w.closing, reply = .ok ()

/-- The report has released the anchor, if no event since was refused. -/
structure Closed (w : GuardianWorld) : Prop where
  reported : w.reported
  released : w.Undisturbed → w.published = [.providerReleased]
  withheld : ¬w.Undisturbed → w.published = []

variable {w : GuardianWorld}

theorem Fresh.orderly (h : w.Fresh) : w.Orderly := .inl h.published

theorem Fresh.emit (h : w.Fresh) (event : GuardianEvent) (written : Except ProtocolError Unit) :
    (w.answer (.emit event) written).2.Fresh :=
  ⟨h.unreported, by simp [answer, h.unreported, h.closing], h.published⟩

theorem Fresh.receive (h : w.Fresh) (input : Except ProtocolError CoordinatorCommand) :
    (w.answer .receive input).2.Fresh :=
  ⟨h.unreported, h.closing, h.published⟩

theorem Fresh.takeTerminalRestored (h : w.Fresh) (input : Unit) :
    (w.answer .takeTerminalRestored input).2.Fresh :=
  ⟨h.unreported, h.closing, h.published⟩

theorem Fresh.report (h : w.Fresh) : { w with reported := true }.Reporting :=
  ⟨rfl, h.closing, h.published⟩

theorem Fresh.restore (h : w.Fresh) : { w with restored := true }.Fresh :=
  ⟨h.unreported, h.closing, h.published⟩

end GuardianWorld

/-- What an accepted event leaves behind. -/
theorem emit_ok {l : GuardianLifecycle} {event : GuardianEvent} {written : Except ProtocolError Unit}
    (h : (l.emit event written).1 = .ok ()) : l.commands.poisoned = false ∧ written = .ok () ∧
      ∃ terminal, l.commands.terminal.acceptEvent event = .ok terminal ∧
        (l.emit event written).2 = {
          commands := { l.commands with terminal, pending := none }
          failureAnnounced := l.failureAnnounced || GuardianLifecycle.announces event } := by
  unfold GuardianLifecycle.emit GuardianCommandReceiver.recordEvent at h ⊢
  by_cases poisoned : l.commands.poisoned
  · simp [poisoned] at h
  · cases accept : l.commands.terminal.acceptEvent event with
    | error error => simp [poisoned, accept] at h
    | ok terminal =>
      cases written with
      | error error => simp [poisoned, accept] at h
      | ok => simp [poisoned]

/-- The last event, once it is accepted, leaves the disposition to be taken. -/
theorem takeExitDisposition_of_emit {l : GuardianLifecycle} {p : SessionLifecycleProjection}
    {written : Except ProtocolError Unit} (h : (l.emit p.event written).1 = .ok ()) :
    ∃ disposition, (l.emit p.event written).2.takeExitDisposition.1 = .ok disposition := by
  obtain ⟨sound, rfl, terminal, accept, same⟩ := emit_ok h
  rw [same]
  have state : l.commands.terminal.state = .recoveryDisarmed := by
    simp only [SessionLifecycleProjection.event, TerminalLifecycleValidator.acceptEvent,
      TerminalLifecycleValidator.applyEvent] at accept
    split at accept <;> simp_all
  simp only [SessionLifecycleProjection.event, TerminalLifecycleValidator.acceptEvent,
    TerminalLifecycleValidator.applyEvent, state] at accept
  obtain ⟨disposition, -, made⟩ := Checks.bind_eq_ok.mp accept
  obtain rfl := Checks.pure_eq_ok.mp made
  exact ⟨disposition, by simp [GuardianLifecycle.takeExitDisposition,
    GuardianCommandReceiver.takeVerifiedExitDisposition, sound, Except.mapError]⟩

/-- A part of the closing, with what holds if it goes on undisturbed. -/
theorem Guarded.closing {w : GuardianWorld} {event : GuardianEvent} {α : Type}
    {f : Except GuardianLifecycleError Unit → Guard α} {Q : α → GuardianWorld → Prop}
    (reported : w.reported) (undisturbed : w.Undisturbed) (published : w.published = [])
    (accepted : ∀ written, (w.lifecycle.emit event written).1 = .ok () →
      (w.answer (.emit event) written).2.reported → (w.answer (.emit event) written).2.Undisturbed →
      (w.answer (.emit event) written).2.published = [] →
      Guarded allowed (f (.ok ())) Q (w.answer (.emit event) written).2)
    (refused : ∀ error w', w'.Closed → Guarded allowed (f (.error error)) Q w') :
    Guarded allowed (Guard.ask (.emit event) >>= f) Q w := by
  refine Guarded.ask fun written _ => ⟨.inl published, ?_⟩
  have closing : (w.answer (.emit event) written).2.closing =
      w.closing ++ [(w.lifecycle.emit event written).1] := by simp [GuardianWorld.answer, reported]
  have reply : (w.answer (.emit event) written).1 = (w.lifecycle.emit event written).1 := rfl
  cases result : (w.lifecycle.emit event written).1 with
  | ok =>
    rw [reply, result]
    refine accepted written result reported ?_ published
    intro r hr
    rw [closing, List.mem_append] at hr
    rcases hr with hr | hr
    · exact undisturbed r hr
    · rw [List.mem_singleton.mp hr, result]
  | error error =>
    rw [reply, result]
    refine refused error _ ⟨reported, fun all => ?_, fun _ => published⟩
    have := all (.error error) (by simp [closing, result])
    cases this

variable {w : GuardianWorld}

/-- The guardian ends, and its report is closed. -/
def EndsClosed (outcome : GuardianRunOutcome) (w : GuardianWorld) : Prop :=
  (∃ disposition, outcome = .terminal disposition) ∧ w.Closed

/-- The frame of a released provider closes the report. -/
theorem Guarded.release {α : Type} {f : Bool → Guard α} {Q : α → GuardianWorld → Prop}
    (writable : Writable allowed) (reported : w.reported) (undisturbed : w.Undisturbed)
    (published : w.published = []) (next : ∀ w', w'.Closed → Guarded allowed (f true) Q w') :
    Guarded allowed (Guard.ask (.publish .providerReleased) >>= f) Q w := by
  refine Guarded.ask fun written ok => ?_
  obtain rfl : written = true := writable _ _ _ ok
  have frames : (w.answer (.publish .providerReleased) true).2.published = [.providerReleased] := by
    simp [GuardianWorld.answer, published]
  refine ⟨.inr (.inl ⟨frames, reported⟩), next _ ⟨reported, fun _ => frames, fun no => ?_⟩⟩
  exact (no undisturbed).elim

theorem reportReaped_closed (writable : Writable allowed) (p : SessionLifecycleProjection)
    (reported : w.reported) (undisturbed : w.Undisturbed) (published : w.published = []) :
    Guarded allowed (reportReaped p) EndsClosed w := by
  refine Guarded.closing reported undisturbed published ?_ fun _ _ closed => ⟨⟨_, rfl⟩, closed⟩
  intro written accepted reported undisturbed published
  obtain ⟨disposition, taken⟩ := takeExitDisposition_of_emit accepted
  refine Guarded.ask fun _ _ => ⟨.inl published, ?_⟩
  have reply : ((w.answer (.emit p.event) written).2.answer .takeExitDisposition ()).1 =
    .ok disposition := taken
  rw [reply]
  exact Guarded.release writable reported undisturbed published fun _ closed => ⟨⟨_, rfl⟩, closed⟩

/-- A report that is told to the coordinator. -/
theorem finalizeProjection_closed (writable : Writable allowed) (p : SessionLifecycleProjection)
    (h : w.Reporting) : Guarded allowed (finalizeProjection p) EndsClosed w := by
  have none : w.Undisturbed := by simp [GuardianWorld.Undisturbed, h.closing]
  refine Guarded.closing h.reported none h.published ?_ fun _ _ closed => ⟨⟨_, rfl⟩, closed⟩
  intro written accepted reported undisturbed published
  refine Guarded.ask fun _ _ => ⟨.inl published, ?_⟩
  split
  · refine Guarded.closing reported undisturbed published ?_ fun _ _ closed => ⟨⟨_, rfl⟩, closed⟩
    intro written accepted reported undisturbed published
    exact reportReaped_closed writable p reported undisturbed published
  · exact reportReaped_closed writable p reported undisturbed published

theorem finalizeReport_closed (writable : Writable allowed) (p : SessionLifecycleProjection)
    (condition : LifecycleCondition) (h : w.Reporting) :
    Guarded allowed (finalizeReport p condition) EndsClosed w := by
  have fallback : Guarded allowed finalizeFallbackCompletion EndsClosed w := by
    have none : w.Undisturbed := by simp [GuardianWorld.Undisturbed, h.closing]
    exact Guarded.release writable h.reported none h.published fun _ closed => ⟨⟨_, rfl⟩, closed⟩
  cases condition with
  | healthy => exact finalizeProjection_closed writable p h
  | lost => exact fallback
  | invalid => exact fallback

/-! ## Outcomes -/

/-- A retained owner is in one of its phases, and has the terminal restored if this is behind it. -/
def RetainedGuardianOwner.Sound (w : GuardianWorld) : RetainedGuardianOwner → Prop
  | .postArm => True
  | .startupQuiesce failure => failure.Armed
  | .startupRestore awaiting => awaiting.AtRestore
  | .startupCleanup failure => failure.CleansUp ∧ w.restored
  | .sessionShutdown failure =>
    failure.Armed ∨ (failure.Restored ∧ failure.phase.remaining ≤ 3) ∧ w.restored

/-- A part of the shutdown closes its report, or leaves a sound owner and nothing published. -/
def GuardianRunOutcome.Sound (outcome : GuardianRunOutcome) (w : GuardianWorld) : Prop :=
  match outcome with
  | .terminal _ => w.Closed
  | .retained generation => w.Fresh ∧ generation.owner.Sound w
  | .awaitSessionRestore failure _ => w.Fresh ∧ failure.Armed ∧ failure.phase = .terminalRestore
  | .awaitStartupRestore awaiting _ => w.Fresh ∧ awaiting.AtRestore
  | .aborted => False

section Outcomes

variable {s : SessionShutdownFailure} {o : StartupOwner} {budget : RetainedRecoveryBudget}
  {condition : LifecycleCondition}

theorem EndsClosed.sound {outcome : GuardianRunOutcome} (h : EndsClosed outcome w) : outcome.Sound w := by
  obtain ⟨⟨disposition, rfl⟩, closed⟩ := h
  exact closed

theorem finishSessionCleanup_sound (writable : Writable allowed) (fresh : w.Fresh) (h : s.Restored)
    (restored : w.restored) :
    Guarded allowed (finishSessionCleanup s condition budget) GuardianRunOutcome.Sound w := by
  refine Guarded.bind (h.run fresh.published) ?_
  rintro _ _ (⟨report, rfl, rfl, -⟩ | ⟨rfl, s', rfl, cleanup, -⟩)
  · exact (finalizeReport_closed writable _ condition fresh.report).mono fun _ _ => EndsClosed.sound
  · exact ⟨fresh, .inr ⟨cleanup, restored⟩⟩

theorem restoreLostSession_sound (writable : Writable allowed) (fresh : w.Fresh) (h : s.Armed)
    (restore : s.phase = .terminalRestore) :
    Guarded allowed (restoreLostSession s budget) GuardianRunOutcome.Sound w := by
  refine Guarded.bind (h.restoreAfterLifecycleLoss restore fresh.orderly) ?_
  rintro _ _ (⟨s', rfl, restored, rfl⟩ | ⟨s', rfl, ⟨armed, -⟩, rfl, -⟩)
  · exact finishSessionCleanup_sound writable fresh.restore restored rfl
  · exact ⟨fresh, .inl armed⟩

theorem retryToTerminalRestore_armed (fresh : w.Fresh) (h : s.Armed) :
    Guarded allowed (retryToTerminalRestore s) (fun result w' => w' = w ∧
      ((∃ s', result = .reported s' ∧ s'.Armed ∧ s'.phase = .terminalRestore) ∨
        ∃ s', result = .retained s' ∧ s'.Armed ∧ (Advances allowed → False))) w := by
  unfold retryToTerminalRestore
  by_cases here : s.phase = .terminalRestore
  · simp only [OrderedShutdown.awaitingTerminalRestore, here, decide_true, if_true]
    exact ⟨rfl, .inl ⟨s, rfl, h, here⟩⟩
  · simp only [OrderedShutdown.awaitingTerminalRestore, here, decide_false, Bool.false_eq_true, if_false]
    refine Guarded.bind (h.run fresh.orderly) ?_
    rintro _ _ ⟨rfl, s', rfl, armed, advances⟩
    by_cases restore : s'.phase = .terminalRestore
    · simp only [restore, decide_true, if_true]
      exact ⟨rfl, .inl ⟨s', rfl, armed, restore⟩⟩
    · simp only [restore, decide_false, Bool.false_eq_true, if_false]
      exact ⟨rfl, .inr ⟨s', rfl, armed, fun all => restore (advances all)⟩⟩

theorem finishSessionRestore_sound (writable : Writable allowed) (fresh : w.Fresh) (h : s.Armed) :
    Guarded allowed (finishSessionRestore s condition budget) GuardianRunOutcome.Sound w := by
  refine Guarded.bind (retryToTerminalRestore_armed fresh h) ?_
  rintro _ _ ⟨rfl, ⟨s', rfl, armed, restore⟩ | ⟨s', rfl, armed, -⟩⟩
  · cases condition with
    | invalid => exact ⟨fresh, .inl armed⟩
    | lost => exact restoreLostSession_sound writable fresh armed restore
    | healthy =>
      refine Guarded.ask fun written _ => ⟨(fresh.emit _ written).orderly, ?_⟩
      split
      · exact ⟨fresh.emit _ written, armed, restore⟩
      · split
        · exact restoreLostSession_sound writable (fresh.emit _ written) armed restore
        · exact ⟨fresh.emit _ written, .inl armed⟩
        · exact ⟨fresh.emit _ written, .inl armed⟩
  · exact ⟨fresh, .inl armed⟩

/-- The coordinator's word that it has restored the terminal. -/
theorem restored_of_receive {input : Except ProtocolError CoordinatorCommand}
    (h : (w.answer .receive input).1 = .ok .terminalRestored) : (w.answer .receive input).2.restored := by
  have reply : (w.lifecycle.receive input).1 = .ok .terminalRestored := h
  simp [GuardianWorld.answer, reply]

theorem awaitSessionRestore_sound (writable : Writable allowed) (fresh : w.Fresh) (h : s.Armed)
    (restore : s.phase = .terminalRestore) :
    Guarded allowed (awaitSessionRestore s budget) GuardianRunOutcome.Sound w := by
  refine Guarded.ask fun input _ => ⟨(fresh.receive input).orderly, ?_⟩
  have fresh' := fresh.receive input
  split
  · rename_i received
    have restored := restored_of_receive received
    refine Guarded.ask fun _ _ => ⟨(fresh'.takeTerminalRestored ()).orderly, ?_⟩
    split
    · exact ⟨fresh'.takeTerminalRestored (), .inl h⟩
    · obtain ⟨s', ok, restored'⟩ := h.acknowledgeTerminalRestored restore
      rw [ok]
      exact finishSessionCleanup_sound writable (fresh'.takeTerminalRestored ()) restored' restored
  · exact ⟨fresh', h, restore⟩
  · exact restoreLostSession_sound writable fresh' h restore
  · exact ⟨fresh', .inl h⟩

theorem retainStartupCleanup_sound (fresh : w.Fresh) (h : o.CleansUp) (restored : w.restored) :
    (retainStartupCleanup o budget).Sound w := by
  cases o with
  | ofPartial owner =>
    cases reportable : owner.terminalReportable <;>
      simp only [retainStartupCleanup, StartupOwner.terminalReportable, reportable]
    · exact ⟨fresh, h, restored⟩
    · exact ⟨fresh, h, restored⟩
  | session failure =>
    have past : failure.awaitingTerminalRestore = false := by
      have := h.2
      cases phase : failure.phase <;> simp [phase, OrderedShutdown.awaitingTerminalRestore] at this ⊢
    simp only [retainStartupCleanup, StartupOwner.terminalReportable, past, Bool.false_eq_true, if_false]
    exact ⟨fresh, h, restored⟩

theorem finishStartupCleanup_sound (writable : Writable allowed) (fresh : w.Fresh) (h : o.Restored)
    (restored : w.restored) :
    Guarded allowed (finishStartupCleanup o condition budget) GuardianRunOutcome.Sound w := by
  refine Guarded.bind (h.finishPostRestore fresh.published) ?_
  rintro _ _ (⟨report, rfl, rfl, -⟩ | ⟨rfl, o', rfl, cleanup, -⟩)
  · exact (finalizeReport_closed writable _ condition fresh.report).mono fun _ _ => EndsClosed.sound
  · exact retainStartupCleanup_sound fresh cleanup restored

theorem restoreLostStartup_sound (writable : Writable allowed) (fresh : w.Fresh) (h : o.AtRestore) :
    Guarded allowed (restoreLostStartup o budget) GuardianRunOutcome.Sound w := by
  refine Guarded.bind (h.restoreAfterLifecycleLoss fresh.orderly) ?_
  rintro _ _ (⟨o', rfl, restored, -, rfl⟩ | ⟨o', rfl, atRestore, rfl, -⟩)
  · exact finishStartupCleanup_sound writable fresh.restore restored rfl
  · exact ⟨fresh, atRestore⟩

theorem finishStartupRestore_sound (writable : Writable allowed) (fresh : w.Fresh) (h : o.AtRestore) :
    Guarded allowed (finishStartupRestore o condition budget) GuardianRunOutcome.Sound w := by
  cases condition with
  | invalid => exact ⟨fresh, h⟩
  | lost => exact restoreLostStartup_sound writable fresh h
  | healthy =>
    refine Guarded.ask fun written _ => ⟨(fresh.emit _ written).orderly, ?_⟩
    split
    · exact ⟨fresh.emit _ written, h⟩
    · split
      · exact restoreLostStartup_sound writable (fresh.emit _ written) h
      · exact ⟨fresh.emit _ written, h⟩
      · exact ⟨fresh.emit _ written, h⟩

theorem awaitStartupRestore_sound (writable : Writable allowed) (fresh : w.Fresh) (h : o.AtRestore) :
    Guarded allowed (awaitStartupRestore o budget) GuardianRunOutcome.Sound w := by
  refine Guarded.ask fun input _ => ⟨(fresh.receive input).orderly, ?_⟩
  have fresh' := fresh.receive input
  split
  · rename_i received
    have restored := restored_of_receive received
    refine Guarded.ask fun _ _ => ⟨(fresh'.takeTerminalRestored ()).orderly, ?_⟩
    split
    · exact ⟨fresh'.takeTerminalRestored (), h⟩
    · obtain ⟨o', ok, restored', -⟩ := h.acknowledgeTerminalRestored
      rw [ok]
      exact finishStartupCleanup_sound writable (fresh'.takeTerminalRestored ()) restored' restored
  · exact ⟨fresh', h⟩
  · exact restoreLostStartup_sound writable fresh' h
  · exact ⟨fresh', h⟩

theorem retryRetainedOwner_sound (writable : Writable allowed) {owner : RetainedGuardianOwner}
    (fresh : w.Fresh) (h : owner.Sound w) :
    Guarded allowed (retryRetainedOwner owner) GuardianRunOutcome.Sound w := by
  cases owner with
  | postArm => exact ⟨fresh, trivial⟩
  | startupQuiesce o =>
    refine Guarded.bind (StartupOwner.Armed.quiesceOwner h fresh.orderly) ?_
    rintro _ _ ⟨rfl, ⟨o', rfl, atRestore, -⟩ | ⟨o', rfl, armed, -⟩⟩
    · exact finishStartupRestore_sound writable fresh atRestore
    · exact ⟨fresh, armed⟩
  | startupRestore o =>
    change Guarded allowed (finishStartupRestore o .healthy .consumed) _ w
    exact finishStartupRestore_sound writable fresh h
  | startupCleanup o =>
    obtain ⟨cleanup, restored⟩ := h
    refine Guarded.bind (cleanup.restored.finishPostRestore fresh.published) ?_
    rintro _ _ (⟨report, rfl, rfl, -⟩ | ⟨rfl, o', rfl, cleanup, -⟩)
    · exact (finalizeProjection_closed writable _ fresh.report).mono fun _ _ => EndsClosed.sound
    · exact retainStartupCleanup_sound fresh cleanup restored
  | sessionShutdown s =>
    rcases h with armed | ⟨⟨restored, behind⟩, outer⟩
    · have stage : s.recoveryStage ≠ .cleanupPending := by
        have := armed.ahead
        cases phase : s.phase <;> simp [phase, OrderedShutdown.recoveryStage] at this ⊢
      simp only [retryRetainedOwner]
      split
      · exact finishSessionRestore_sound writable fresh armed
      · exact finishSessionRestore_sound writable fresh armed
      · exact absurd ‹_› stage
    · have stage : s.recoveryStage = .cleanupPending := by
        cases phase : s.phase <;> simp [phase, OrderedShutdown.recoveryStage] at behind ⊢
      simp only [retryRetainedOwner, stage]
      exact finishSessionCleanup_sound writable fresh restored outer

end Outcomes

/-! ## Runs -/

/-- Where the guardian waits, it owns something sound and has published nothing. -/
def GuardianPoint.Sound (point : GuardianPoint) (w : GuardianWorld) : Prop :=
  match point with
  | .sessionRestore failure _ => w.Fresh ∧ failure.Armed ∧ failure.phase = .terminalRestore
  | .startupRestore awaiting _ => w.Fresh ∧ awaiting.AtRestore
  | .recoveryRequest generation => w.Fresh ∧ generation.owner.Sound w

/-- A guardian exits with a closed report, and parks without one. -/
def GuardianEnd.Sound (stop : GuardianEnd) (w : GuardianWorld) : Prop :=
  match stop with
  | .exits _ => w.Closed
  | .parks _ => w.reported = false ∧ w.published = [.retainedUnrecoverable]
  | .aborts => False

theorem publishRetained_sound (writable : Writable allowed) (generation : RetainedGuardianGeneration)
    (fresh : w.Fresh) :
    Guarded allowed (publishRetainedUnrecoverableAndPark generation)
      (Ends GuardianPoint.Sound GuardianEnd.Sound) w := by
  refine Guarded.ask fun written ok => ?_
  obtain rfl : written = true := writable _ _ _ ok
  have frames : (w.answer (.publish .retainedUnrecoverable) true).2.published =
      [.retainedUnrecoverable] := by
    simp [GuardianWorld.answer, fresh.published]
  exact ⟨.inr (.inr ⟨frames, fresh.unreported⟩), fresh.unreported, frames⟩

theorem GuardianRunOutcome.Sound.apply (writable : Writable allowed) {outcome : GuardianRunOutcome}
    (h : outcome.Sound w) :
    Guarded allowed outcome.apply (Ends GuardianPoint.Sound GuardianEnd.Sound) w := by
  cases outcome with
  | terminal disposition => exact h
  | retained generation =>
    simp only [GuardianRunOutcome.apply, awaitRecovery]
    split
    · exact h
    · exact publishRetained_sound writable generation h.1
  | awaitSessionRestore failure budget => exact h
  | awaitStartupRestore awaiting budget => exact h
  | aborted => exact h.elim

/-- One round of the guardian. -/
theorem GuardianPoint.Sound.turn (writable : Writable allowed) {point : GuardianPoint}
    (h : point.Sound w) :
    Guarded allowed point.turn (Ends GuardianPoint.Sound GuardianEnd.Sound) w := by
  cases point with
  | sessionRestore failure budget =>
    obtain ⟨fresh, armed, restore⟩ := h
    exact Guarded.bind (awaitSessionRestore_sound writable fresh armed restore)
      fun _ _ sound => sound.apply writable
  | startupRestore awaiting budget =>
    obtain ⟨fresh, atRestore⟩ := h
    exact Guarded.bind (awaitStartupRestore_sound writable fresh atRestore)
      fun _ _ sound => sound.apply writable
  | recoveryRequest generation =>
    obtain ⟨fresh, owner⟩ := h
    refine Guarded.ask fun poll _ => ⟨fresh.orderly, ?_⟩
    have retry := Guarded.bind (retryRetainedOwner_sound writable fresh owner)
      fun _ _ sound => sound.apply writable
    change Guarded allowed (match poll with
      | none => _
      | some .pending | some .protocolRejected => _
      | some .verified | some .ownerLost | some .protocolRejectedOwnerLost => _) _ w
    split
    · exact publishRetained_sound writable generation fresh
    · exact ⟨fresh, owner⟩
    · exact ⟨fresh, owner⟩
    · exact retry
    · exact retry
    · exact retry

/-- The guardian from the beginning of its shutdown. -/
def GuardianShutdown.guardian (start : GuardianShutdown) : Guard (GuardianPoint ⊕ GuardianEnd) := do
  (← start.run).apply

end Calcifer.Supervisor
