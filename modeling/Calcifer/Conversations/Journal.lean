import Calcifer.Conversations.Lineage

/-!
# The journal of a handoff

The active transition as a state machine of its own. `PhaseStep` is the table of its moves, with the
operation that makes each of them, and `JournalStep` adds the beginning and the end of a handoff.
`journal_step` shows that no step of the registry does anything else to the active transition.
-/

namespace Calcifer

open Checks Lists ConversationDocument

/-- The transition an operation works on, for the operations that name one. -/
def Operation.transitionOf : Operation → Option String
  | .markSourceStopRequested transitionId | .markSourceStopped transitionId
  | .recordForkIntent transitionId _ | .recordBoundedForkRetry transitionId
  | .observeHandoffTarget transitionId _ | .commitHandoff transitionId
  | .finishHandoffAttachment transitionId => some transitionId
  | _ => none

/-- The moves of a journal: an operation, and the phase and the number of fork attempts before and
after it. -/
inductive PhaseStep : Operation → HandoffPhase → ℕ → HandoffPhase → ℕ → Prop
  | stopRequested (id : String) (n : ℕ) :
      PhaseStep (.markSourceStopRequested id) .prepared n .sourceStopRequested n
  | stopped (id : String) (n : ℕ) :
      PhaseStep (.markSourceStopped id) .sourceStopRequested n .sourceStopped n
  | intent (id : String) (ids : List String) :
      PhaseStep (.recordForkIntent id ids) .sourceStopped 0 .forkRequested 1
  | retry (id : String) : PhaseStep (.recordBoundedForkRetry id) .forkRequested 1 .forkRequested 2
  | observed (id : String) (target : HandoffTarget) (n : ℕ) :
      PhaseStep (.observeHandoffTarget id target) .forkRequested n .forkObserved n
  | committed (id : String) (n : ℕ) :
      PhaseStep (.commitHandoff id) .forkObserved n .committedUnattached n

/-- The place of a phase in the order of a handoff. -/
def HandoffPhase.rank : HandoffPhase → ℕ
  | .prepared => 0
  | .sourceStopRequested => 1
  | .sourceStopped => 2
  | .forkRequested => 3
  | .forkObserved => 4
  | .committedUnattached => 5

/-- Phases and attempts only move forward, and every move is visible in one of them. -/
theorem PhaseStep.lt {op : Operation} {phase phase' : HandoffPhase} {n n' : ℕ}
    (h : PhaseStep op phase n phase' n') :
    phase.rank ≤ phase'.rank ∧ n ≤ n' ∧ phase.rank + n < phase'.rank + n' := by
  cases h <;> simp [HandoffPhase.rank]

/-- Two states of the journal of one handoff. -/
structure SameHandoff (t t' : HandoffTransition) : Prop where
  transitionId : t'.transitionId = t.transitionId
  conversationId : t'.conversationId = t.conversationId
  sourceGeneration : t'.sourceGeneration = t.sourceGeneration
  targetGeneration : t'.targetGeneration = t.targetGeneration
  sourceProfileId : t'.sourceProfileId = t.sourceProfileId
  targetProfileId : t'.targetProfileId = t.targetProfileId
  canonicalCwd : t'.canonicalCwd = t.canonicalCwd
  trustDomainId : t'.trustDomainId = t.trustDomainId
  reason : t'.reason = t.reason
  sourceRollout : t'.sourceRollout = t.sourceRollout

theorem SameHandoff.refl (t : HandoffTransition) : SameHandoff t t :=
  ⟨rfl, rfl, rfl, rfl, rfl, rfl, rfl, rfl, rfl, rfl⟩

theorem SameHandoff.trans {t t' t'' : HandoffTransition} (h : SameHandoff t t')
    (h' : SameHandoff t' t'') : SameHandoff t t'' where
  transitionId := h'.transitionId.trans h.transitionId
  conversationId := h'.conversationId.trans h.conversationId
  sourceGeneration := h'.sourceGeneration.trans h.sourceGeneration
  targetGeneration := h'.targetGeneration.trans h.targetGeneration
  sourceProfileId := h'.sourceProfileId.trans h.sourceProfileId
  targetProfileId := h'.targetProfileId.trans h.targetProfileId
  canonicalCwd := h'.canonicalCwd.trans h.canonicalCwd
  trustDomainId := h'.trustDomainId.trans h.trustDomainId
  reason := h'.reason.trans h.reason
  sourceRollout := h'.sourceRollout.trans h.sourceRollout

/-- What a step can do to the active transition. -/
inductive JournalStep (host : Host) (op : Operation) :
    Option HandoffTransition → Option HandoffTransition → Prop
  | kept (t : Option HandoffTransition) : JournalStep host op t t
  | prepared (preparation : HandoffPreparation) (t : HandoffTransition)
      (hop : op = .prepareHandoff preparation) (id : t.transitionId = host.newV4.toString)
      (phase : t.phase = .prepared) (attempts : t.forkAttempts = 0) :
      JournalStep host op none (some t)
  | moved (t t' : HandoffTransition) (own : op.transitionOf = some t.transitionId)
      (same : SameHandoff t t')
      (step : PhaseStep op t.phase t.forkAttempts t'.phase t'.forkAttempts) :
      JournalStep host op (some t) (some t')
  | attached (t : HandoffTransition) (hop : op = .finishHandoffAttachment t.transitionId)
      (phase : t.phase = .committedUnattached) : JournalStep host op (some t) none

section

variable {host : Host} {op : Operation} {d d' : ConversationDocument} {t t' : HandoffTransition}

theorem Advance.journalStep (h : Advance host d t op t') :
    JournalStep host op (some t) (some t') := by
  have same : ∀ (phase : HandoffPhase) (ids : List String) (n : ℕ) (at' : Option ℤ)
      (target : Option ObservedHandoffTarget) (now : ℤ),
      SameHandoff t { t with
        phase, targetBaselineThreadIds := ids, forkAttempts := n, forkRequestedAt := at'
        observedTarget := target, updatedAt := now } :=
    fun _ _ _ _ _ _ => ⟨rfl, rfl, rfl, rfl, rfl, rfl, rfl, rfl, rfl, rfl⟩
  cases h with
  | stopRequested now ht hp => exact .moved _ _ rfl (same ..) (by rw [hp]; exact .stopRequested _ _)
  | stopped now ht hp => exact .moved _ _ rfl (same ..) (by rw [hp]; exact .stopped _ _)
  | intent now ids ht hp hn => exact .moved _ _ rfl (same ..) (by rw [hp, hn]; exact .intent _ _)
  | retry now ht hp hn =>
    exact .moved _ _ rfl (same ..) (by simp only [hp, hn]; exact .retry _)
  | observed now target ht hp new =>
    exact .moved _ _ rfl (same ..) (by rw [hp]; exact .observed _ _ _)

theorem Binds.activeTransition {binding : BindingInput} (h : Binds host binding d d') :
    d'.activeTransition = d.activeTransition := by
  cases h.bound <;> rfl

theorem Change.journalStep (h : Change host op d d') :
    JournalStep host op d.activeTransition d'.activeTransition := by
  cases h with
  | launched | started | captureFailed => exact .kept _
  | overlapped | marked | untracked =>
    simp only [markHeadNeedsSelection_activeTransition]
    exact .kept _
  | finished pending found h =>
    cases h with
    | marked =>
      simp only [markHeadNeedsSelection_activeTransition, dropPending]
      exact .kept _
    | left => exact .kept _
    | bound binding _ _ _ h =>
      rw [h.activeTransition]
      exact .kept _
  | adopted binding idle h =>
    rw [h.activeTransition]
    exact .kept _
  | refreshed binding current head h =>
    rw [h.activeTransition]
    exact .kept _
  | prepared c source recorded now h =>
    rw [h.idle]
    exact .prepared _ _ rfl rfl rfl rfl
  | advanced t t' active h =>
    rw [active]
    exact h.journalStep
  | committed t target c now h =>
    rw [h.active]
    refine .moved _ _ rfl ⟨rfl, rfl, rfl, rfl, rfl, rfl, rfl, rfl, rfl, rfl⟩ ?_
    rw [h.phase]
    exact .committed _ _
  | attached t active phase =>
    rw [active]
    exact .attached t rfl phase

variable [Sha256]

/-- Every step of the registry is a step of its journal. -/
theorem journal_step (host : Host) (op : Operation) (disk : Disk) :
    JournalStep host op disk.document.activeTransition
      (op.step host disk).document.activeTransition := by
  have step := document_step host op disk
  generalize (op.step host disk).document = d' at step
  cases step with
  | same => exact .kept _
  | published document edited body change =>
    rw [← body.activeTransition]
    exact change.journalStep

end

end Calcifer
