import Calcifer.Library.Logs
import Calcifer.Codex.ForkRequests
import Calcifer.Conversations.Exclusion

/-!
# Driving a handoff to its end

`driveHandoff` advances a handoff boundary by boundary, up to eight times. Every boundary raises the
phase or the number of fork attempts (`resumeHandoffOnce_step`), and there are at most seven of them,
so the driver never runs out of steps.
-/

namespace Calcifer

open Checks Lists Program ConversationDocument RegistryM

def maxHandoffSteps : ℕ := 8

/-! ## The loop -/

/-- How a driver can end when no call fails. -/
inductive HandoffEnd where
  | attached (head : HeadBinding)
  | requiresExplicitReconciliation (reason : ExplicitReconciliationReason)
  | outOfSteps
deriving DecidableEq, Repr

section

variable {m : Type → Type} [Monad m] [HandoffJournal m] {ε : Type}

/-- Advance a handoff by so many boundaries at most. -/
def driveSteps (runtime : HandoffRuntime m ε) : ℕ → ExceptT (HandoffExecutionError ε) m HandoffEnd
  | 0 => pure .outOfSteps
  | steps + 1 => do
    match ← resumeHandoffOnce runtime with
    | .advanced _ => driveSteps runtime steps
    | .requiresExplicitReconciliation reason => return .requiresExplicitReconciliation reason
    | .attached head => return .attached head

def driveHandoff (runtime : HandoffRuntime m ε) : ExceptT (HandoffExecutionError ε) m HandoffEnd :=
  driveSteps runtime maxHandoffSteps

end

/-! ## The disk under a driver -/

section

variable [Sha256] {ε : Type}

/-- What a call of the driver can do to the disk: a transaction under any host, or a provider operation
with any answer. -/
inductive DriverExec (disk : Disk) : (op : HandoffOp) → op.Reply ε → Disk → Prop
  | journal (call : JournalCall) (host : Host) (r : Except ConversationError call.Result) (disk' : Disk)
      (h : call.run host disk = (r, disk')) : DriverExec disk (.journal call) r disk'
  | runtime (call : RuntimeCall) (r : Except ε call.Result) : DriverExec disk (.runtime call) r disk

/-- What happens to the disk besides: any operation that does not work on the handoff. -/
inductive Elsewhere (id : String) (disk : Disk) : Disk → Prop
  | other (host : Host) (op : Operation) (unrelated : op.transitionOf ≠ some id) :
      Elsewhere id disk (op.step host disk)

/-- The surroundings of a driver of the handoff `id`. -/
def driverSurroundings (ε : Type) (id : String) :
    Surroundings HandoffOp (HandoffOp.Reply ε) Disk where
  Exec := DriverExec
  Env := Elsewhere id

/-- The journal on disk is `t`. -/
structure Holding (t : HandoffTransition) (disk : Disk) : Prop where
  reachable : Reachable disk
  active : disk.document.activeTransition = some t

variable {t t' : HandoffTransition} {disk disk' : Disk}

/-- Nobody else moves the journal. -/
theorem holding_stable (ε : Type) {id : String} (hid : t.transitionId = id) :
    (driverSurroundings ε id).Stable (Holding t) := by
  rintro disk _ ⟨reachable, active⟩ ⟨host, op, unrelated⟩
  refine ⟨reachable.step host op, ?_⟩
  have step := journal_step host op disk
  rw [active] at step
  generalize (op.step host disk).document.activeTransition = active' at step
  cases step with
  | kept => rfl
  | moved _ t' own => exact absurd (hid ▸ own) unrelated
  | attached _ hop => exact absurd (by rw [hop, ← hid]; rfl) unrelated

/-! ## The calls of a driver -/

abbrev DriverM (ε : Type) : Type → Type := ExceptT (HandoffExecutionError ε) (HandoffProgram ε)

/-- The calls of a driver and their replies. -/
abbrev DriverLog (ε : Type) : Type := List ((op : HandoffOp) × op.Reply ε)

variable {id : String} {α : Type} {log : DriverLog ε} {r : Except (HandoffExecutionError ε) α}

/-- A call to the journal fails, or the rest goes on with what it returned. -/
theorem driver_journal {call : JournalCall} {f : call.Result → DriverM ε α} (hid : t.transitionId = id)
    (holding : Holding t disk) (run : Trace (callJournal call >>= f : DriverM ε α).run log r)
    (plays : (driverSurroundings ε id).Plays disk log disk') :
    (∃ e, r = .error e) ∨ ∃ host disk₁ disk₂ a rest,
      log = ⟨.journal call, (.ok a : Except ConversationError call.Result)⟩ :: rest ∧
      Holding t disk₁ ∧ call.run host disk₁ = (.ok a, disk₂) ∧ Trace (f a).run rest r ∧
      (driverSurroundings ε id).Plays disk₂ rest disk' := by
  obtain ⟨e, rfl, -⟩ | ⟨before, rest, a, rfl, hcall, hrest⟩ := trace_bindExcept.1 run
  · exact Or.inl ⟨e, rfl⟩
  obtain ⟨reply, h, ha⟩ : ∃ reply : Except ConversationError call.Result,
      before = [⟨.journal call, reply⟩] ∧ .ok a = reply.mapError (HandoffExecutionError.journal (ε := ε)) := by
    obtain ⟨before, after, reply, rfl, hp, hr⟩ := trace_bind.1 hcall
    obtain rfl := trace_perform.1 hp
    obtain ⟨rfl, ha⟩ := trace_pure.1 hr
    exact ⟨reply, rfl, ha⟩
  subst h
  cases reply with
  | error e => cases ha
  | ok b =>
    cases ha
    obtain ⟨disk₁, disk₂, env, exec, plays⟩ := Surroundings.plays_cons.1 plays
    cases exec with
    | journal _ host _ _ h =>
      exact Or.inr ⟨host, disk₁, disk₂, a, rest, rfl, (holding_stable ε hid).star holding env, h,
        hrest, plays⟩

/-- A provider operation fails, or the rest goes on with what it returned. -/
theorem driver_runtime {call : RuntimeCall} {f : call.Result → DriverM ε α}
    (hid : t.transitionId = id) (holding : Holding t disk)
    (run : Trace (callRuntime (Program.perform (HandoffOp.runtime call)) >>= f : DriverM ε α).run log r)
    (plays : (driverSurroundings ε id).Plays disk log disk') :
    (∃ e, r = .error e) ∨ ∃ disk₁ a rest,
      log = ⟨.runtime call, (.ok a : Except ε call.Result)⟩ :: rest ∧ Holding t disk₁ ∧
      Trace (f a).run rest r ∧ (driverSurroundings ε id).Plays disk₁ rest disk' := by
  obtain ⟨e, rfl, -⟩ | ⟨before, rest, a, rfl, hcall, hrest⟩ := trace_bindExcept.1 run
  · exact Or.inl ⟨e, rfl⟩
  obtain ⟨reply, h, ha⟩ : ∃ reply : Except ε call.Result,
      before = [⟨.runtime call, reply⟩] ∧ .ok a = reply.mapError HandoffExecutionError.runtime := by
    obtain ⟨before, after, reply, rfl, hp, hr⟩ := trace_bind.1 hcall
    obtain rfl := trace_perform.1 hp
    obtain ⟨rfl, ha⟩ := trace_pure.1 hr
    exact ⟨reply, rfl, ha⟩
  subst h
  cases reply with
  | error e => cases ha
  | ok b =>
    cases ha
    obtain ⟨disk₁, disk₂, env, exec, plays⟩ := Surroundings.plays_cons.1 plays
    cases exec with
    | runtime => exact Or.inr ⟨disk₁, a, rest, rfl, (holding_stable ε hid).star holding env, hrest, plays⟩

omit [Sha256] in
theorem driver_decision {β : Type} {x : Except HandoffTransactionError β} {f : β → DriverM ε α}
    (run : Trace (callDecision x >>= f : DriverM ε α).run log r) :
    (∃ e, r = .error e) ∨ ∃ a, x = .ok a ∧ Trace (f a).run log r := by
  cases x with
  | error e =>
    obtain ⟨-, rfl⟩ := trace_pure.1 run
    exact Or.inl ⟨_, rfl⟩
  | ok a => exact Or.inr ⟨a, rfl, run⟩

/-! ## What a call writes -/

/-- How far a handoff is. -/
def HandoffTransition.progress (t : HandoffTransition) : ℕ := t.phase.rank + t.forkAttempts

/-- A journal is at most seven boundaries from its beginning. -/
theorem Holding.progress_le (h : Holding t disk) : t.progress ≤ 7 := by
  obtain ⟨c, source, ok⟩ := transition_of_valid h.reachable.valid h.active
  have started := ok.shape.started
  have unstarted := ok.shape.unstarted
  unfold HandoffTransition.progress
  cases hp : t.phase with
  | prepared | sourceStopRequested | sourceStopped =>
    rw [hp] at unstarted
    have := (unstarted rfl).1
    simp [HandoffPhase.rank, this]
  | forkRequested | forkObserved | committedUnattached =>
    rw [hp] at started
    obtain ⟨_, -, ⟨-, few⟩, -⟩ := started rfl
    simp only [HandoffPhase.rank]
    omega

/-- The journal was moved on from `t` to `t'`. -/
structure Furthered (t t' : HandoffTransition) (disk' : Disk) : Prop where
  active : disk'.document.activeTransition = some t'
  same : SameHandoff t t'
  further : t.progress < t'.progress

variable {host : Host} {disk₁ disk₂ : Disk}

theorem Holding.exact (h : Holding t disk) {document : ConversationDocument} {expected : HandoffPhase}
    (body : SameBody disk.document document) (exact : document.exactTransition id expected = .ok t') :
    t = t' ∧ t'.phase = expected := by
  obtain ⟨active, -, phase⟩ := exactTransition_iff.1 exact
  exact ⟨Option.some.inj ((body.activeTransition.trans h.active).symm.trans active), phase⟩

theorem furthered_advance {expected next : HandoffPhase} (holding : Holding t disk₁)
    (h : ConversationRegistry.advanceHandoffPhase host id expected next disk₁ = (.ok t', disk₂))
    (rank : expected.rank < next.rank) :
    Furthered t t' disk₂ ∧ t'.observedTarget = t.observedTarget := by
  unfold ConversationRegistry.advanceHandoffPhase at h
  obtain ⟨e, -, he, -⟩ | ⟨_, -, h⟩ := lift_bind_cases h
  · cases he
  obtain ⟨document, edited, body, hop, after⟩ := transactV2_published h
  simp only [ConversationDocument.advanceHandoffPhase, bind_eq_ok, pure_eq_ok, Prod.mk.injEq] at hop
  obtain ⟨t₀, ht₀, now, -, rfl, rfl⟩ := hop
  obtain ⟨rfl, phase⟩ := holding.exact body ht₀
  refine ⟨⟨after, ⟨rfl, rfl, rfl, rfl, rfl, rfl, rfl, rfl, rfl, rfl⟩, ?_⟩, rfl⟩
  simp only [HandoffTransition.progress, phase]
  omega

theorem furthered_intent {baseline : List String} (holding : Holding t disk₁)
    (h : ConversationRegistry.recordForkIntent host id baseline disk₁ = (.ok t', disk₂)) :
    Furthered t t' disk₂ ∧ t'.observedTarget = t.observedTarget := by
  unfold ConversationRegistry.recordForkIntent at h
  obtain ⟨e, -, he, -⟩ | ⟨_, -, h⟩ := lift_bind_cases h
  · cases he
  obtain ⟨e, -, he, -⟩ | ⟨_, -, h⟩ := lift_bind_cases h
  · cases he
  obtain ⟨document, edited, body, hop, after⟩ := transactV2_published h
  simp only [ConversationDocument.recordForkIntent, bind_eq_ok, rejectIf_eq_ok, pure_eq_ok,
    Prod.mk.injEq, not_or, Decidable.not_not] at hop
  obtain ⟨t₀, ht₀, ⟨⟩, ⟨attempts, -, -⟩, now, -, rfl, rfl⟩ := hop
  obtain ⟨rfl, phase⟩ := holding.exact body ht₀
  refine ⟨⟨after, ⟨rfl, rfl, rfl, rfl, rfl, rfl, rfl, rfl, rfl, rfl⟩, ?_⟩, rfl⟩
  simp [HandoffTransition.progress, phase, attempts, HandoffPhase.rank]

theorem furthered_retry (holding : Holding t disk₁)
    (h : ConversationRegistry.recordBoundedForkRetry host id disk₁ = (.ok t', disk₂)) :
    Furthered t t' disk₂ ∧ t'.observedTarget = t.observedTarget := by
  unfold ConversationRegistry.recordBoundedForkRetry at h
  obtain ⟨e, -, he, -⟩ | ⟨_, -, h⟩ := lift_bind_cases h
  · cases he
  obtain ⟨document, edited, body, hop, after⟩ := transactV2_published h
  simp only [ConversationDocument.recordBoundedForkRetry, bind_eq_ok, rejectIf_eq_ok, pure_eq_ok,
    Prod.mk.injEq, not_or, Decidable.not_not] at hop
  obtain ⟨t₀, ht₀, ⟨⟩, ⟨attempts, -, -⟩, now, -, rfl, rfl⟩ := hop
  obtain ⟨rfl, phase⟩ := holding.exact body ht₀
  refine ⟨⟨after, ⟨rfl, rfl, rfl, rfl, rfl, rfl, rfl, rfl, rfl, rfl⟩, ?_⟩, rfl⟩
  simp [HandoffTransition.progress, attempts]

theorem Holding.unobserved (h : Holding t disk) (phase : t.phase = .forkRequested) :
    t.observedTarget = none := by
  obtain ⟨c, source, ok⟩ := transition_of_valid h.reachable.valid h.active
  have observed := (observation_iff.1 ok.observation).1
  rw [phase] at observed
  exact Option.not_isSome_iff_eq_none.1 (by rw [observed]; decide)

theorem furthered_observe {target : HandoffTarget} (holding : Holding t disk₁)
    (h : ConversationRegistry.observeHandoffTarget host id target disk₁ = (.ok t', disk₂)) :
    Furthered t t' disk₂ ∧ t.observedTarget = none ∧
      t'.observedTarget.map (·.threadId) = some target.threadId := by
  unfold ConversationRegistry.observeHandoffTarget at h
  obtain ⟨e, -, he, -⟩ | ⟨_, -, h⟩ := lift_bind_cases h
  · cases he
  obtain ⟨e, -, he, -⟩ | ⟨_, -, h⟩ := lift_bind_cases h
  · cases he
  obtain ⟨document, edited, body, hop, after⟩ := transactV2_published h
  simp only [ConversationDocument.observeHandoffTarget, bind_eq_ok, rejectIf_eq_ok, pure_eq_ok,
    Prod.mk.injEq] at hop
  obtain ⟨t₀, ht₀, -, -, source, -, -, -, now, -, rfl, rfl⟩ := hop
  obtain ⟨rfl, phase⟩ := holding.exact body ht₀
  refine ⟨⟨after, ⟨rfl, rfl, rfl, rfl, rfl, rfl, rfl, rfl, rfl, rfl⟩, ?_⟩, holding.unobserved phase, rfl⟩
  simp [HandoffTransition.progress, phase, HandoffPhase.rank]

theorem furthered_commit {head : HeadBinding} (holding : Holding t disk₁)
    (h : ConversationRegistry.commitHandoff host id disk₁ = (.ok head, disk₂)) :
    ∃ t', Furthered t t' disk₂ ∧ t'.observedTarget = t.observedTarget := by
  unfold ConversationRegistry.commitHandoff at h
  obtain ⟨e, -, he, -⟩ | ⟨_, -, h⟩ := lift_bind_cases h
  · cases he
  obtain ⟨document, edited, body, hop, after⟩ := transactV2_published h
  simp only [ConversationDocument.commitHandoff, bind_eq_ok, rejectIf_eq_ok, pure_eq_ok,
    Prod.mk.injEq] at hop
  obtain ⟨t₀, ht₀, target, -, -, -, c, -, -, -, whead, -, -, -, now, -, -, rfl⟩ := hop
  obtain ⟨rfl, phase⟩ := holding.exact body ht₀
  refine ⟨_, ⟨after, ⟨rfl, rfl, rfl, rfl, rfl, rfl, rfl, rfl, rfl, rfl⟩, ?_⟩, rfl⟩
  simp [HandoffTransition.progress, phase, HandoffPhase.rank]

/-- The head is the committed target of the handoff, whose journal is gone. -/
structure AttachedTo (t : HandoffTransition) (head : HeadBinding) (disk' : Disk) : Prop where
  conversation : head.conversationId = t.conversationId
  generation : head.generation = t.targetGeneration
  profile : head.profileId = t.targetProfileId
  thread : t.observedTarget.map (·.threadId) = some head.threadId
  idle : disk'.document.activeTransition = none

theorem attachedTo_finish {head : HeadBinding} (holding : Holding t disk₁)
    (h : ConversationRegistry.finishHandoffAttachment host id disk₁ = (.ok head, disk₂)) :
    AttachedTo t head disk₂ := by
  unfold ConversationRegistry.finishHandoffAttachment at h
  obtain ⟨e, -, he, -⟩ | ⟨_, -, h⟩ := lift_bind_cases h
  · cases he
  obtain ⟨document, edited, body, hop, after⟩ := transactV2_published h
  simp only [ConversationDocument.finishHandoffAttachment, bind_eq_ok, pure_eq_ok, Prod.mk.injEq] at hop
  obtain ⟨t₀, ht₀, head', hhead, rfl, rfl⟩ := hop
  obtain ⟨rfl, phase⟩ := holding.exact body ht₀
  have valid := holding.reachable.valid
  obtain ⟨c, source, ok⟩ := transition_of_valid valid holding.active
  obtain ⟨target, g, htarget, hg, committed⟩ := (commitment_iff.1 ok.commitment).2.1 phase
  -- the head on disk names the conversation and the generation that the handoff committed
  have named := (head_of_transition valid holding.active).1
  simp only [resolveHeadDocument, bind_eq_ok, okOr_eq_ok, rejectIf_eq_ok, pure_eq_ok] at hhead
  obtain ⟨-, -, -, -, whead, hwhead, -, -, id', hid', n, hn, c', hc', g', hg', rfl⟩ := hhead
  have hheads : disk₁.document.headOf t.canonicalCwd = some whead :=
    (congrArg (List.find? _) body.workspaceHeads.symm).trans hwhead
  obtain rfl : t.head = whead := Option.some.inj (named.symm.trans hheads)
  obtain rfl : t.conversationId = id' := Option.some.inj hid'
  have hactive : t.expectedActive = t.targetGeneration := if_pos phase
  obtain rfl : t.targetGeneration = n := hactive.symm.trans (Option.some.inj hn)
  have hconversation : disk₁.document.findConversation t.conversationId = some c' :=
    (congrArg (List.find? _) body.conversations.symm).trans hc'
  obtain rfl : c = c' := Option.some.inj (ok.conversation_eq.symm.trans hconversation)
  obtain rfl : g = g' := Option.some.inj (hg.symm.trans hg')
  have conversation : c.conversationId = t.conversationId := by
    simpa using List.find?_some ok.conversation_eq
  have generation : g.generation = t.targetGeneration := by simpa using List.find?_some hg
  exact ⟨conversation, generation, committed.profile, by rw [htarget]; exact congrArg some committed.thread.symm,
    after⟩

/-! ## One boundary -/

theorem Holding.reachable_run (h : Holding t disk₁) {call : JournalCall} {a : call.Result}
    (run : call.run host disk₁ = (.ok a, disk₂)) : Reachable disk₂ := by
  have after := call.run_snd host disk₁
  rw [run] at after
  subst after
  cases call.operation with
  | none => exact h.reachable
  | some op => exact h.reachable.step host op

/-- The log holds an inventory that is reconciled by adopting the target. -/
def AdoptsTarget (t : HandoffTransition) (log : DriverLog ε) (target : HandoffTarget) : Prop :=
  ∃ t' inventory, SameHandoff t t' ∧
    ⟨.runtime (.reconcileTargetInventory t'),
      (.ok inventory : Except ε (List (ForkCandidate HandoffTarget)))⟩ ∈ log ∧
    reconcileForkCandidates t' inventory = .ok (.adopt target)

/-- What a call of `resumeHandoffOnce` comes to. -/
inductive Boundary (t : HandoffTransition) (log : DriverLog ε) (disk' : Disk) :
    Except (HandoffExecutionError ε) HandoffStep → Prop
  | failed (e : HandoffExecutionError ε) : Boundary t log disk' (.error e)
  | explicit (reason : ExplicitReconciliationReason) :
      Boundary t log disk' (.ok (.requiresExplicitReconciliation reason))
  | advanced (phase : HandoffPhase) (t' : HandoffTransition) (holding : Holding t' disk')
      (same : SameHandoff t t') (further : t.progress < t'.progress)
      (target : t'.observedTarget = t.observedTarget ∨
        t.observedTarget = none ∧ ∃ target, AdoptsTarget t log target ∧
          t'.observedTarget.map (·.threadId) = some target.threadId) :
      Boundary t log disk' (.ok (.advanced phase))
  | attached (head : HeadBinding) (h : AttachedTo t head disk') :
      Boundary t log disk' (.ok (.attached head))

/-- The last call of a boundary, after which the journal is `t'`. -/
theorem boundary_of_furthered {call : JournalCall} {a : call.Result} (holding : Holding t disk₁)
    (run : call.run host disk₁ = (.ok a, disk₂)) (furthered : Furthered t t' disk₂)
    (target : t'.observedTarget = t.observedTarget ∨
      t.observedTarget = none ∧ ∃ target, AdoptsTarget t log target ∧
        t'.observedTarget.map (·.threadId) = some target.threadId) (phase : HandoffPhase) :
    Boundary t log disk₂ (.ok (.advanced phase)) :=
  .advanced phase t' ⟨holding.reachable_run run, furthered.active⟩ furthered.same furthered.further target

/-- A call that reads the registry. -/
theorem read_eq_ok {operation : ConversationDocument → Except ConversationError α} {a : α}
    (reachable : Reachable disk) (h : read host operation disk = (.ok a, disk')) :
    operation disk.document = .ok a ∧ disk' = disk := by
  unfold read at h
  obtain ⟨_, -, he, -⟩ | ⟨_, -, h⟩ := lift_bind_cases h
  · cases he
  obtain ⟨_, -, he, -⟩ | ⟨_, -, h⟩ := lift_bind_cases h
  · cases he
  obtain ⟨_, -, he, -⟩ | ⟨_, -, h⟩ := lift_bind_cases h
  · cases he
  obtain ⟨_, -, he, -⟩ | ⟨document, hload, h⟩ := inspect_bind_cases h
  · cases he
  rw [reachable.load_eq] at hload
  cases hload
  obtain ⟨hop, rfl⟩ : operation disk.document = .ok a ∧ disk = disk' := Prod.mk.inj h
  exact ⟨hop, rfl⟩

theorem resumeHandoffOnce_step {r : Except (HandoffExecutionError ε) HandoffStep}
    (holding : Holding t disk) (run : Trace (resumeHandoffOnce (anyRuntime ε)).run log r)
    (plays : (driverSurroundings ε t.transitionId).Plays disk log disk') : Boundary t log disk' r := by
  unfold resumeHandoffOnce at run
  obtain ⟨e, rfl⟩ | ⟨host, disk₁, disk₂, current, log₁, rfl, holding₁, hcurrent, run₁, plays₁⟩ :=
    driver_journal rfl holding run plays
  · exact .failed e
  -- the first call reads the journal, and leaves the disk as it is
  obtain ⟨hread, rfl⟩ := read_eq_ok holding₁.reachable hcurrent
  rw [holding₁.active] at hread
  cases hread
  obtain ⟨e, rfl⟩ | ⟨action, haction, run₂⟩ := driver_decision run₁
  · exact .failed e
  cases action with
  | persistSourceStopIntent =>
    obtain ⟨e, rfl⟩ | ⟨host, disk₃, disk₄, t', log₂, rfl, holding₂, hnext, run₃, plays₂⟩ :=
      driver_journal rfl holding₁ run₂ plays₁
    · exact .failed e
    obtain ⟨rfl, rfl⟩ := trace_pure.1 run₃
    obtain rfl := Surroundings.plays_nil.1 plays₂
    obtain ⟨furthered, target⟩ := furthered_advance holding₂ hnext (by decide)
    exact boundary_of_furthered holding₂ hnext furthered (Or.inl target) _
  | stopAndReapSource =>
    obtain ⟨e, rfl⟩ | ⟨disk₃, _, log₂, rfl, holding₂, run₃, plays₂⟩ :=
      driver_runtime rfl holding₁ run₂ plays₁
    · exact .failed e
    obtain ⟨e, rfl⟩ | ⟨host, disk₄, disk₅, t', log₃, rfl, holding₃, hnext, run₄, plays₃⟩ :=
      driver_journal rfl holding₂ run₃ plays₂
    · exact .failed e
    obtain ⟨rfl, rfl⟩ := trace_pure.1 run₄
    obtain rfl := Surroundings.plays_nil.1 plays₃
    obtain ⟨furthered, target⟩ := furthered_advance holding₃ hnext (by decide)
    exact boundary_of_furthered holding₃ hnext furthered (Or.inl target) _
  | captureTargetBaselineAndFork =>
    obtain ⟨e, rfl⟩ | ⟨disk₃, baseline, log₂, rfl, holding₂, run₃, plays₂⟩ :=
      driver_runtime rfl holding₁ run₂ plays₁
    · exact .failed e
    obtain ⟨e, rfl⟩ | ⟨host, disk₄, disk₅, t', log₃, rfl, holding₃, hnext, run₄, plays₃⟩ :=
      driver_journal rfl holding₂ run₃ plays₂
    · exact .failed e
    obtain ⟨furthered, target⟩ := furthered_intent holding₃ hnext
    have requested : Holding t' disk₅ := ⟨holding₃.reachable_run hnext, furthered.active⟩
    obtain ⟨e, rfl⟩ | ⟨disk₆, _, log₄, rfl, holding₄, run₅, plays₄⟩ :=
      driver_runtime furthered.same.transitionId requested run₄ plays₃
    · exact .failed e
    obtain ⟨rfl, rfl⟩ := trace_pure.1 run₅
    obtain rfl := Surroundings.plays_nil.1 plays₄
    exact .advanced _ t' holding₄ furthered.same furthered.further (Or.inl target)
  | reconcileFork =>
    obtain ⟨e, rfl⟩ | ⟨disk₃, inventory, log₂, rfl, holding₂, run₃, plays₂⟩ :=
      driver_runtime rfl holding₁ run₂ plays₁
    · exact .failed e
    obtain ⟨e, rfl⟩ | ⟨decision, hdecision, run₄⟩ := driver_decision run₃
    · exact .failed e
    cases decision with
    | adopt target =>
      obtain ⟨e, rfl⟩ | ⟨host, disk₄, disk₅, t', log₃, rfl, holding₃, hnext, run₅, plays₃⟩ :=
        driver_journal rfl holding₂ run₄ plays₂
      · exact .failed e
      obtain ⟨rfl, rfl⟩ := trace_pure.1 run₅
      obtain rfl := Surroundings.plays_nil.1 plays₃
      obtain ⟨furthered, unobserved, observed⟩ := furthered_observe holding₃ hnext
      refine boundary_of_furthered holding₃ hnext furthered
        (Or.inr ⟨unobserved, target, ⟨t, inventory, .refl t, ?_, hdecision⟩, observed⟩) _
      exact List.mem_cons_of_mem _ List.mem_cons_self
    | retryOnce =>
      obtain ⟨e, rfl⟩ | ⟨host, disk₄, disk₅, t', log₃, rfl, holding₃, hnext, run₅, plays₃⟩ :=
        driver_journal rfl holding₂ run₄ plays₂
      · exact .failed e
      obtain ⟨furthered, target⟩ := furthered_retry holding₃ hnext
      have requested : Holding t' disk₅ := ⟨holding₃.reachable_run hnext, furthered.active⟩
      obtain ⟨e, rfl⟩ | ⟨disk₆, _, log₄, rfl, holding₄, run₆, plays₄⟩ :=
        driver_runtime furthered.same.transitionId requested run₅ plays₃
      · exact .failed e
      obtain ⟨rfl, rfl⟩ := trace_pure.1 run₆
      obtain rfl := Surroundings.plays_nil.1 plays₄
      exact .advanced _ t' holding₄ furthered.same furthered.further (Or.inl target)
    | explicit reason =>
      obtain ⟨rfl, rfl⟩ := trace_pure.1 run₄
      exact .explicit reason
  | commitObservedTarget =>
    obtain ⟨e, rfl⟩ | ⟨host, disk₃, disk₄, head, log₂, rfl, holding₂, hnext, run₃, plays₂⟩ :=
      driver_journal rfl holding₁ run₂ plays₁
    · exact .failed e
    obtain ⟨rfl, rfl⟩ := trace_pure.1 run₃
    obtain rfl := Surroundings.plays_nil.1 plays₂
    obtain ⟨t', furthered, target⟩ := furthered_commit holding₂ hnext
    exact boundary_of_furthered holding₂ hnext furthered (Or.inl target) _
  | attachCommittedTarget =>
    obtain ⟨e, rfl⟩ | ⟨disk₃, _, log₂, rfl, holding₂, run₃, plays₂⟩ :=
      driver_runtime rfl holding₁ run₂ plays₁
    · exact .failed e
    obtain ⟨e, rfl⟩ | ⟨host, disk₄, disk₅, head, log₃, rfl, holding₃, hnext, run₄, plays₃⟩ :=
      driver_journal rfl holding₂ run₃ plays₂
    · exact .failed e
    obtain ⟨rfl, rfl⟩ := trace_pure.1 run₄
    obtain rfl := Surroundings.plays_nil.1 plays₃
    exact .attached head (attachedTo_finish holding₃ hnext)

/-! ## The run -/

/-- The thread that a handoff adopts: the one it had observed, or one that a reconciliation in the log
adopts. -/
def AdoptedThread (t : HandoffTransition) (log : DriverLog ε) (threadId : String) : Prop :=
  t.observedTarget.map (·.threadId) = some threadId ∨
  t.observedTarget = none ∧ ∃ target, AdoptsTarget t log target ∧ target.threadId = threadId

/-- The end of a driver: it does not run out of steps, and a head that it attaches is the committed
target of the handoff. -/
structure DriverEnds (t : HandoffTransition) (log : DriverLog ε) (disk' : Disk)
    (r : Except (HandoffExecutionError ε) HandoffEnd) : Prop where
  ends : r ≠ .ok .outOfSteps
  conversation : ∀ head, r = .ok (.attached head) → head.conversationId = t.conversationId
  generation : ∀ head, r = .ok (.attached head) → head.generation = t.targetGeneration
  profile : ∀ head, r = .ok (.attached head) → head.profileId = t.targetProfileId
  thread : ∀ head, r = .ok (.attached head) → AdoptedThread t log head.threadId
  idle : ∀ head, r = .ok (.attached head) → disk'.document.activeTransition = none

omit [Sha256] in
theorem AdoptsTarget.mono {log' : DriverLog ε} {target : HandoffTarget} (h : AdoptsTarget t log target)
    (sub : log ⊆ log') : AdoptsTarget t log' target := by
  obtain ⟨t', inventory, same, hmem, adopts⟩ := h
  exact ⟨t', inventory, same, sub hmem, adopts⟩

omit [Sha256] in
/-- What is adopted after a boundary is adopted from before it. -/
theorem AdoptedThread.before {before after : DriverLog ε} {threadId : String} (same : SameHandoff t t')
    (target : t'.observedTarget = t.observedTarget ∨
      t.observedTarget = none ∧ ∃ target, AdoptsTarget t before target ∧
        t'.observedTarget.map (·.threadId) = some target.threadId)
    (h : AdoptedThread t' after threadId) : AdoptedThread t (before ++ after) threadId := by
  obtain h | ⟨none, target', ⟨t'', inventory, same', hmem, adopts⟩, rfl⟩ := h
  · obtain kept | ⟨unobserved, target, adopts, observed⟩ := target
    · exact Or.inl (kept ▸ h)
    · obtain rfl := Option.some.inj (observed.symm.trans h)
      exact Or.inr ⟨unobserved, target, adopts.mono (List.subset_append_left _ _), rfl⟩
  · obtain kept | ⟨unobserved, target, adopts, observed⟩ := target
    · refine Or.inr ⟨kept ▸ none, target', ⟨t'', inventory, same.trans same', ?_, adopts⟩, rfl⟩
      exact List.mem_append_right _ hmem
    · rw [none] at observed
      cases observed

/-- With steps enough for what is left of a handoff, the driver ends. -/
theorem driveSteps_ends {steps : ℕ} {r : Except (HandoffExecutionError ε) HandoffEnd}
    (holding : Holding t disk) (enough : 8 ≤ t.progress + steps)
    (run : Trace (driveSteps (anyRuntime ε) steps).run log r)
    (plays : (driverSurroundings ε t.transitionId).Plays disk log disk') : DriverEnds t log disk' r := by
  induction steps generalizing t disk log with
  | zero =>
    have := holding.progress_le
    omega
  | succ steps ih =>
    unfold driveSteps at run
    obtain ⟨e, rfl, -⟩ | ⟨before, after, step, rfl, first, rest⟩ := trace_bindExcept.1 run
    · exact ⟨by simp, by simp, by simp, by simp, by simp, by simp⟩
    obtain ⟨disk₁, plays₁, plays₂⟩ := Surroundings.plays_append.1 plays
    have boundary := resumeHandoffOnce_step holding first plays₁
    cases boundary with
    | explicit reason =>
      obtain ⟨-, rfl⟩ := trace_pure.1 rest
      exact ⟨by simp, by simp, by simp, by simp, by simp, by simp⟩
    | attached head h =>
      obtain ⟨rfl, rfl⟩ := trace_pure.1 rest
      obtain rfl := Surroundings.plays_nil.1 plays₂
      refine ⟨by simp, ?_, ?_, ?_, ?_, ?_⟩
      all_goals rintro _ ⟨⟩
      · exact h.conversation
      · exact h.generation
      · exact h.profile
      · exact Or.inl h.thread
      · exact h.idle
    | advanced phase t' holding' same further target =>
      have ends := ih holding' (by omega) rest (by rwa [same.transitionId])
      exact ⟨ends.ends, fun head h => (ends.conversation head h).trans same.conversationId,
        fun head h => (ends.generation head h).trans same.targetGeneration,
        fun head h => (ends.profile head h).trans same.targetProfileId,
        fun head h => (ends.thread head h).before same target, ends.idle⟩

/-- From any reachable journal, a driver that nobody else interferes with ends within its eight
steps, whatever the provider answers. A head that it attaches is the target of the handoff, and no
journal is left. -/
theorem driveHandoff_ends {r : Except (HandoffExecutionError ε) HandoffEnd} (reachable : Reachable disk)
    (active : disk.document.activeTransition = some t)
    (run : Trace (driveHandoff (anyRuntime ε)).run log r)
    (plays : (driverSurroundings ε t.transitionId).Plays disk log disk') : DriverEnds t log disk' r :=
  driveSteps_ends ⟨reachable, active⟩ (Nat.le_add_left _ _) run plays

end

/-! ### A sample run -/

section

attribute [local instance] sampleSha256

/-- The provider finds one new thread in the target profile. -/
def sampleRuntimeReply : (call : RuntimeCall) → Except Unit call.Result
  | .stopAndReapSource _ => .ok ()
  | .captureTargetBaseline _ => .ok [sampleId 6]
  | .requestFork _ => .ok ()
  | .reconcileTargetInventory _ =>
    .ok [⟨sampleId 6, .mismatch⟩, ⟨sampleId 4, .matching sampleTarget⟩]
  | .attachCommittedTarget _ => .ok ()

/-- Answer a driver from the disk, with a clock that counts its revisions. -/
def sampleAnswer (disk : Disk) : (op : HandoffOp) → op.Reply Unit × Disk
  | .journal c => c.run (sampleHost 12 (1760000000 + disk.document.revision)) disk
  | .runtime c => (sampleRuntimeReply c, disk)

def samplePreparedDisk : Disk := ⟨some samplePrepared, some sampleAdopted⟩

/-- The driver of the sample: what it calls, and how it ends. -/
def sampleDrive : DriverLog Unit × Except (HandoffExecutionError Unit) HandoffEnd :=
  (driveHandoff (anyRuntime Unit)).run.record sampleAnswer samplePreparedDisk

def sampleTargetHead : HeadBinding where
  conversationId := sampleId 10
  generation := 1
  profileId := sampleId 2
  threadId := sampleId 4
  canonicalCwd := "/work"
  codexVersion := "0.144.4"
  lifecycle := .interrupted

theorem driveHandoff_sample : sampleDrive.2 = .ok (.attached sampleTargetHead) ∧
    sampleTargetHead.generation = sampleTransition.targetGeneration ∧
    AdoptedThread sampleTransition sampleDrive.1 (sampleId 4) := by
  have hdisk : sampleDisk 2 = samplePreparedDisk := sampleDisk_eq.2.1
  have reachable : Reachable samplePreparedDisk := hdisk ▸ sampleDisk_reachable 2
  have exec : ∀ disk op, (driverSurroundings Unit sampleTransition.transitionId).Exec disk op
      (sampleAnswer disk op).1 (sampleAnswer disk op).2 := by
    intro disk op
    cases op with
    | journal c => exact .journal c _ _ _ rfl
    | runtime c => exact .runtime c _
  have ends := driveHandoff_ends reachable rfl (trace_record sampleAnswer _ _)
    (Surroundings.plays_record sampleAnswer exec _ _)
  have attached : sampleDrive.2 = .ok (.attached sampleTargetHead) := by decide +kernel
  exact ⟨attached, ends.generation _ attached, ends.thread _ attached⟩

end

end Calcifer
