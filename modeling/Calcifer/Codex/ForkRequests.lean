import Calcifer.Codex.HandoffTransaction
import Calcifer.Conversations.Journal

/-!
# Fork requests are never replayed

The driver of a handoff among everything that can happen to it: any provider behaviour, any failure
of the registry (also after its rename), crashes and restarts between any two of its calls, and the
calls of other processes. A world carries the history of what was on disk and of the forks that were
requested, newest first.

`fork_requests_bounded` is the law: a fork is requested only while the journal on disk holds the
intent for exactly this attempt, no attempt is requested twice, there are at most two, and the phases
of a handoff only move forward.
-/

namespace Calcifer

open Checks RegistryM

/-! ## The system -/

/-- The provider operations as calls of their own. -/
inductive RuntimeCall where
  | stopAndReapSource (transition : HandoffTransition)
  | captureTargetBaseline (transition : HandoffTransition)
  | requestFork (transition : HandoffTransition)
  | reconcileTargetInventory (transition : HandoffTransition)
  | attachCommittedTarget (transition : HandoffTransition)
deriving DecidableEq, Repr

def RuntimeCall.Result : RuntimeCall → Type
  | .captureTargetBaseline _ => List String
  | .reconcileTargetInventory _ => List (ForkCandidate HandoffTarget)
  | _ => Unit

/-- Everything the driver calls. -/
inductive HandoffOp where
  | journal (call : JournalCall)
  | runtime (call : RuntimeCall)
deriving DecidableEq, Repr

def HandoffOp.Reply (ε : Type) : HandoffOp → Type
  | .journal call => Except ConversationError call.Result
  | .runtime call => Except ε call.Result

abbrev HandoffProgram (ε : Type) : Type → Type := Program HandoffOp (HandoffOp.Reply ε)

instance (ε : Type) : HandoffJournal (HandoffProgram ε) where
  journal call := Program.perform (HandoffOp.journal call)

/-- The runtime that leaves every provider operation to the surroundings. -/
def anyRuntime (ε : Type) : HandoffRuntime (HandoffProgram ε) ε where
  stopAndReapSource transition := Program.perform (HandoffOp.runtime (.stopAndReapSource transition))
  captureTargetBaseline transition :=
    Program.perform (HandoffOp.runtime (.captureTargetBaseline transition))
  requestFork transition := Program.perform (HandoffOp.runtime (.requestFork transition))
  reconcileTargetInventory transition :=
    Program.perform (HandoffOp.runtime (.reconcileTargetInventory transition))
  attachCommittedTarget transition :=
    Program.perform (HandoffOp.runtime (.attachCommittedTarget transition))

/-- What happened: the journal on disk after a call, or a fork request. -/
inductive HandoffEvent where
  | journal (active : Option HandoffTransition)
  | requestFork (transition : HandoffTransition)
deriving DecidableEq, Repr

/-- The files of the registry and what happened so far, newest first. -/
structure HandoffWorld where
  disk : Disk
  history : List HandoffEvent

/-- The world after a call that left `disk`. -/
def HandoffWorld.record (w : HandoffWorld) (disk : Disk) : HandoffWorld :=
  ⟨disk, .journal disk.document.activeTransition :: w.history⟩

def HandoffWorld.start : HandoffWorld := ⟨.empty, []⟩

section

variable [Sha256] {ε : Type}

/-- What a call of the driver can do: a transaction under any host, or a provider operation with any
answer. -/
inductive HandoffExec (w : HandoffWorld) : (op : HandoffOp) → op.Reply ε → HandoffWorld → Prop
  | journal (call : JournalCall) (host : Host) (r : Except ConversationError call.Result)
      (disk : Disk) (h : call.run host w.disk = (r, disk)) :
      HandoffExec w (.journal call) r (w.record disk)
  | requestFork (t : HandoffTransition) (r : Except ε Unit) :
      HandoffExec w (.runtime (.requestFork t)) r { w with history := .requestFork t :: w.history }
  | runtime (call : RuntimeCall) (hc : ∀ t, call ≠ .requestFork t) (r : Except ε call.Result) :
      HandoffExec w (.runtime call) r w

/-- What other processes can do meanwhile: every operation that names no handoff. The coordinator
lease keeps them from advancing one, and a new handoff gets a UUID that was not used before. -/
inductive HandoffEnv (w : HandoffWorld) : HandoffWorld → Prop
  | other (host : Host) (op : Operation) (unrelated : op.transitionOf = none)
      (fresh : (∃ preparation, op = .prepareHandoff preparation) →
        ∀ t, .journal (some t) ∈ w.history → t.transitionId ≠ host.newV4.toString) :
      HandoffEnv w (w.record (op.step host w.disk))

/-- The surroundings of the driver. -/
def handoffSurroundings (ε : Type) :
    Program.Surroundings HandoffOp (HandoffOp.Reply ε) HandoffWorld where
  Exec := HandoffExec
  Env := HandoffEnv

/-- The reachable worlds of the driver, with what is left of the process that runs, if one does. -/
def HandoffReach (ε : Type) :
    HandoffWorld → Option (HandoffProgram ε (Except (HandoffExecutionError ε) HandoffStep)) → Prop :=
  Program.Reach (handoffSurroundings ε) (· = (resumeHandoffOnce (anyRuntime ε)).run) HandoffWorld.start

end

/-! ## Reading a history -/

/-- The journal on disk at the end of a history. -/
def onDisk : List HandoffEvent → Option HandoffTransition
  | [] => none
  | .journal active :: _ => active
  | .requestFork _ :: past => onDisk past

/-- The fork requests for one handoff, newest first. -/
def forkRequests (id : String) (history : List HandoffEvent) : List HandoffTransition :=
  history.filterMap fun event => match event with
    | .journal _ => none
    | .requestFork t => if t.transitionId = id then some t else none

/-- How far a handoff has come at the end of a history: 0 before it is prepared, 1 to 6 for its
phases, 7 once it is cleared. -/
def handoffStage (id : String) : List HandoffEvent → ℕ
  | [] => 0
  | .requestFork _ :: past => handoffStage id past
  | .journal active :: past =>
    match active.filter fun t => t.transitionId = id with
    | some t => t.phase.rank + 1
    | none => if handoffStage id past = 0 then 0 else 7

/-- What holds when a fork is requested after `past`. -/
structure RequestOk (past : List HandoffEvent) (t : HandoffTransition) : Prop where
  onDisk_eq : onDisk past = some t
  phase : t.phase = .forkRequested
  bounded : 1 ≤ t.forkAttempts ∧ t.forkAttempts ≤ 2
  new : ∀ r ∈ forkRequests t.transitionId past, r.forkAttempts < t.forkAttempts
  recorded : ∃ t', .journal (some t') ∈ past ∧ t'.transitionId = t.transitionId ∧
    t'.phase = .forkRequested ∧ t'.forkAttempts = (forkRequests t.transitionId past).length + 1
  unobserved : ∀ t', .journal (some t') ∈ past → t'.transitionId = t.transitionId →
    t'.phase ≠ .forkObserved ∧ t'.phase ≠ .committedUnattached

section

variable {history past : List HandoffEvent} {t : HandoffTransition} {id : String}

theorem mem_of_onDisk (h : onDisk history = some t) : .journal (some t) ∈ history := by
  induction history with
  | nil => cases h
  | cons event past ih =>
    cases event with
    | journal active =>
      obtain rfl : active = some t := h
      exact List.mem_cons_self
    | requestFork t' => exact List.mem_cons_of_mem _ (ih h)

theorem handoffStage_le (id : String) (history : List HandoffEvent) : handoffStage id history ≤ 7 := by
  induction history with
  | nil => simp [handoffStage]
  | cons event past ih =>
    cases event with
    | requestFork t => exact ih
    | journal active =>
      rw [handoffStage]
      split
      · rename_i t _
        cases t.phase <;> simp [HandoffPhase.rank]
      · split_ifs <;> simp

/-- A handoff whose journal was on disk has been prepared. -/
theorem handoffStage_pos (h : .journal (some t) ∈ history) :
    0 < handoffStage t.transitionId history := by
  induction history with
  | nil => cases h
  | cons event past ih =>
    cases event with
    | requestFork t' =>
      obtain h | h := List.mem_cons.1 h
      · cases h
      · exact ih h
    | journal active =>
      rw [handoffStage]
      obtain h | h := List.mem_cons.1 h
      · cases h
        simp [Option.filter]
      · split
        · exact Nat.succ_pos _
        · rw [if_neg (ih h).ne']
          exact Nat.succ_pos _

theorem mem_of_handoffStage_pos (h : 0 < handoffStage id history) :
    ∃ t, .journal (some t) ∈ history ∧ t.transitionId = id := by
  induction history with
  | nil => simp [handoffStage] at h
  | cons event past ih =>
    have tail : 0 < handoffStage id past →
        ∃ t, .journal (some t) ∈ event :: past ∧ t.transitionId = id := by
      intro h
      obtain ⟨t, ht, hid⟩ := ih h
      exact ⟨t, List.mem_cons_of_mem _ ht, hid⟩
    cases event with
    | requestFork t => exact tail h
    | journal active =>
      rw [handoffStage] at h
      split at h
      · rename_i t ht
        obtain ⟨rfl, hid⟩ := Option.filter_eq_some_iff.1 ht
        exact ⟨t, List.mem_cons_self, by simpa using hid⟩
      · split_ifs at h with hz
        · exact absurd h (lt_irrefl 0)
        · exact tail (Nat.pos_of_ne_zero hz)

theorem handoffStage_of_onDisk (h : onDisk history = some t) :
    handoffStage t.transitionId history = t.phase.rank + 1 := by
  induction history with
  | nil => cases h
  | cons event past ih =>
    cases event with
    | journal active =>
      obtain rfl : active = some t := h
      simp [handoffStage, Option.filter]
    | requestFork t' => exact ih h

theorem mem_forkRequests {r : HandoffTransition} :
    r ∈ forkRequests id history ↔ .requestFork r ∈ history ∧ r.transitionId = id := by
  simp only [forkRequests, List.mem_filterMap]
  constructor
  · rintro ⟨event, he, h⟩
    cases event with
    | journal => cases h
    | requestFork t =>
      dsimp only at h
      split_ifs at h with hid
      cases h
      exact ⟨he, hid⟩
  · rintro ⟨he, hid⟩
    exact ⟨_, he, by simp [hid]⟩

@[simp] theorem forkRequests_journal (active : Option HandoffTransition) :
    forkRequests id (.journal active :: past) = forkRequests id past := rfl

theorem forkRequests_requestFork (t : HandoffTransition) :
    forkRequests id (.requestFork t :: past) =
      if t.transitionId = id then t :: forkRequests id past else forkRequests id past := by
  by_cases hid : t.transitionId = id <;> simp [forkRequests, hid]

/-- The stage of every handoff moves forward when the journal on disk does. -/
theorem handoffStage_le_journal {active : Option HandoffTransition}
    (h : ∀ t, active = some t → handoffStage t.transitionId past ≤ t.phase.rank + 1) (id : String) :
    handoffStage id past ≤ handoffStage id (.journal active :: past) := by
  have le := handoffStage_le id past
  rw [handoffStage]
  split
  · rename_i t ht
    obtain ⟨rfl, hid⟩ := Option.filter_eq_some_iff.1 ht
    obtain rfl : t.transitionId = id := by simpa using hid
    exact h t rfl
  · split_ifs with hz
    · exact hz.le
    · exact le

/-- What was on disk at some point of a history ends one of its parts. -/
theorem exists_suffix_of_mem (h : .journal (some t) ∈ history) :
    ∃ past, past <:+ history ∧ onDisk past = some t := by
  obtain ⟨later, earlier, rfl⟩ := List.append_of_mem h
  exact ⟨.journal (some t) :: earlier, List.suffix_append _ _, rfl⟩

end

/-! ## The law -/

/-- The attempts of a handoff whose journal is on disk: none beyond its counter was requested, and
each of them up to its counter was recorded. -/
structure AttemptsOk (history : List HandoffEvent) (t : HandoffTransition) : Prop where
  requested : ∀ r ∈ forkRequests t.transitionId history, r.forkAttempts ≤ t.forkAttempts
  recorded : ∀ k, 1 ≤ k → k ≤ t.forkAttempts → ∃ t', .journal (some t') ∈ history ∧
    t'.transitionId = t.transitionId ∧ t'.phase = .forkRequested ∧ t'.forkAttempts = k

/-- What holds in every world of the driver. -/
structure Lawful [Sha256] (w : HandoffWorld) : Prop where
  reachable : Reachable w.disk
  onDisk_eq : onDisk w.history = w.disk.document.activeTransition
  forward : ∀ id later earlier, later <:+ w.history → earlier <:+ later →
    handoffStage id earlier ≤ handoffStage id later
  requests : ∀ t past, .requestFork t :: past <:+ w.history → RequestOk past t
  attempts : ∀ t, w.disk.document.activeTransition = some t → AttemptsOk w.history t

section

variable [Sha256] {w : HandoffWorld} {t : HandoffTransition} {id : String}

theorem lawful_start : Lawful HandoffWorld.start where
  reachable := .empty
  onDisk_eq := rfl
  forward id later earlier hl he := by
    rw [List.suffix_nil.1 hl] at he ⊢
    rw [List.suffix_nil.1 he]
  requests t past h := by cases List.suffix_nil.1 h
  attempts t h := by cases h

/-- One more event keeps the order of stages. -/
theorem Lawful.forward_cons (h : Lawful w) {event : HandoffEvent}
    (step : ∀ id, handoffStage id w.history ≤ handoffStage id (event :: w.history)) (id : String)
    (later earlier : List HandoffEvent) (hl : later <:+ event :: w.history) (he : earlier <:+ later) :
    handoffStage id earlier ≤ handoffStage id later := by
  obtain rfl | hl := List.suffix_cons_iff.1 hl
  · obtain rfl | he := List.suffix_cons_iff.1 he
    · exact le_rfl
    · exact (h.forward id _ _ (List.suffix_refl _) he).trans (step id)
  · exact h.forward id later earlier hl he

/-- A requested fork was on disk before. -/
theorem Lawful.mem_of_request (h : Lawful w) (hr : t ∈ forkRequests id w.history) :
    .journal (some t) ∈ w.history ∧ 1 ≤ t.forkAttempts ∧ t.forkAttempts ≤ 2 := by
  obtain ⟨later, past, hs⟩ := List.append_of_mem (mem_forkRequests.1 hr).1
  have hpast : .requestFork t :: past <:+ w.history := hs ▸ List.suffix_append _ _
  have ok := h.requests t past hpast
  exact ⟨hpast.subset (List.mem_cons_of_mem _ (mem_of_onDisk ok.onDisk_eq)), ok.bounded⟩

/-- The attempts that were requested for one handoff, newest first, decrease. -/
theorem Lawful.decreasing (h : Lawful w) (id : String) :
    ((forkRequests id w.history).map HandoffTransition.forkAttempts).Pairwise (· > ·) := by
  have requests := h.requests
  generalize w.history = history at requests
  induction history with
  | nil => exact List.Pairwise.nil
  | cons event past ih =>
    have hpast := ih fun t earlier he => requests t earlier (he.trans (List.suffix_cons _ _))
    cases event with
    | journal active => exact hpast
    | requestFork t =>
      rw [forkRequests_requestFork]
      split_ifs with hid
      · refine List.pairwise_cons.2 ⟨fun n hn => ?_, hpast⟩
        obtain ⟨r, hr, rfl⟩ := List.mem_map.1 hn
        exact (requests t past (List.suffix_refl _)).new r (hid ▸ hr)
      · exact hpast

/-- A new journal on disk carries the attempts of the old one on. -/
theorem Lawful.attemptsOk_of_step (h : Lawful w) {host : Host} {op : Operation}
    {active : Option HandoffTransition}
    (step : JournalStep host op w.disk.document.activeTransition active)
    (fresh : (∃ preparation, op = .prepareHandoff preparation) →
      ∀ t, .journal (some t) ∈ w.history → t.transitionId ≠ host.newV4.toString)
    (ht : active = some t) : AttemptsOk (.journal active :: w.history) t := by
  subst ht
  have old := h.attempts
  generalize w.disk.document.activeTransition = before at step old
  -- what was recorded before stays recorded
  have carry : ∀ {t' : HandoffTransition} {k : ℕ}, before = some t' →
      t'.transitionId = t.transitionId → 1 ≤ k → k ≤ t'.forkAttempts →
      ∃ r, .journal (some r) ∈ HandoffEvent.journal (some t) :: w.history ∧
        r.transitionId = t.transitionId ∧ r.phase = .forkRequested ∧ r.forkAttempts = k := by
    intro t' k hb hid h1 hk
    obtain ⟨r, hr, rid, rp, rk⟩ := (old t' hb).recorded k h1 hk
    exact ⟨r, List.mem_cons_of_mem _ hr, rid.trans hid, rp, rk⟩
  cases step with
  | kept => exact ⟨(old t rfl).requested, fun k => carry rfl rfl⟩
  | prepared preparation _ hop hid phase attempts =>
    refine ⟨fun r hr => ?_, fun k h1 hk => by omega⟩
    rw [forkRequests_journal] at hr
    exact absurd ((mem_forkRequests.1 hr).2.trans hid)
      (fresh ⟨preparation, hop⟩ r (h.mem_of_request hr).1)
  | moved t' _ own same step =>
    have hid := same.transitionId
    refine ⟨fun r hr => ?_, fun k h1 hk => ?_⟩
    · rw [forkRequests_journal, hid] at hr
      exact ((old t' rfl).requested r hr).trans step.lt.2.1
    · by_cases hle : k ≤ t'.forkAttempts
      · exact carry rfl hid.symm h1 hle
      · -- only the intent and the retry raise the counter, by one each
        refine ⟨t, List.mem_cons_self, rfl, ?_⟩
        generalize t'.phase = phase, t'.forkAttempts = n, t.phase = phase', t.forkAttempts = n'
          at step hk hle
        cases step <;> first | exact ⟨rfl, by omega⟩ | omega

/-- Every step of the journal keeps the law. -/
theorem Lawful.record (h : Lawful w) {disk : Disk} (reachable : Reachable disk) {host : Host}
    {op : Operation}
    (step : JournalStep host op w.disk.document.activeTransition disk.document.activeTransition)
    (fresh : (∃ preparation, op = .prepareHandoff preparation) →
      ∀ t, .journal (some t) ∈ w.history → t.transitionId ≠ host.newV4.toString) :
    Lawful (w.record disk) := by
  refine ⟨reachable, rfl, h.forward_cons fun id => ?_, fun t past hp => ?_,
    fun t ht => h.attemptsOk_of_step step fresh ht⟩
  · refine handoffStage_le_journal (fun t ht => ?_) id
    have before := h.onDisk_eq
    rw [ht] at step
    generalize w.disk.document.activeTransition = active at step before
    cases step with
    | kept => exact (handoffStage_of_onDisk before).le
    | prepared preparation _ hop hid phase attempts =>
      -- the id of a new handoff is not in the history
      refine (Nat.eq_zero_of_not_pos fun pos => ?_).le.trans (Nat.zero_le _)
      obtain ⟨r, hr, rid⟩ := mem_of_handoffStage_pos pos
      exact fresh ⟨preparation, hop⟩ r hr (rid.trans hid)
    | moved t' _ own same step =>
      rw [same.transitionId, handoffStage_of_onDisk before]
      exact Nat.succ_le_succ step.lt.1
  · obtain hp | hp := List.suffix_cons_iff.1 hp
    · cases hp
    · exact h.requests t past hp

/-- A fork may be requested when its attempt is on disk and no request for it was made. -/
theorem Lawful.request (h : Lawful w) (ht : w.disk.document.activeTransition = some t)
    (phase : t.phase = .forkRequested)
    (new : ∀ r ∈ forkRequests t.transitionId w.history, r.forkAttempts < t.forkAttempts) :
    Lawful { w with history := .requestFork t :: w.history } := by
  have disk : onDisk w.history = some t := h.onDisk_eq.trans ht
  have stage := handoffStage_of_onDisk disk
  obtain ⟨c, source, ok⟩ := transition_of_valid h.reachable.valid ht
  obtain ⟨-, -, bounded, -⟩ := ok.shape.started (by rw [phase]; rfl)
  -- the attempts requested so far are positive, decrease and lie below this one
  have few : (forkRequests t.transitionId w.history).length + 1 ≤ t.forkAttempts := by
    have := Lists.length_le_of_decreasing (h.decreasing t.transitionId) (n := t.forkAttempts - 1)
      (fun n hn => by
        obtain ⟨r, hr, rfl⟩ := List.mem_map.1 hn
        exact (h.mem_of_request hr).2.1)
      (fun n hn => by
        obtain ⟨r, hr, rfl⟩ := List.mem_map.1 hn
        exact Nat.le_sub_one_of_lt (new r hr))
    rw [List.length_map] at this
    omega
  have requestOk : RequestOk w.history t := by
    refine ⟨disk, phase, bounded, new, (h.attempts t ht).recorded _ (Nat.succ_pos _) few,
      fun t' ht' hid => ?_⟩
    obtain ⟨past, hs, hpast⟩ := exists_suffix_of_mem ht'
    have le := h.forward t.transitionId _ past (List.suffix_refl _) hs
    rw [stage, ← hid, handoffStage_of_onDisk hpast, phase] at le
    constructor <;> intro hp <;> rw [hp] at le <;> simp [HandoffPhase.rank] at le
  refine ⟨h.reachable, h.onDisk_eq, h.forward_cons fun id => le_rfl, fun r past hr => ?_,
    fun t' ht' => ?_⟩
  · obtain hr | hr := List.suffix_cons_iff.1 hr
    · cases hr
      exact requestOk
    · exact h.requests r past hr
  · obtain rfl : t = t' := Option.some.inj (ht.symm.trans ht')
    refine ⟨fun r hr => ?_, fun k h1 hk => ?_⟩
    · rw [forkRequests_requestFork, if_pos rfl] at hr
      obtain rfl | hr := List.mem_cons.1 hr
      · exact le_rfl
      · exact (new r hr).le
    · obtain ⟨r, hr, rest⟩ := (h.attempts t ht).recorded k h1 hk
      exact ⟨r, List.mem_cons_of_mem _ hr, rest⟩

end

/-! ## The driver -/

/-- The operation behind a call to the journal. -/
def JournalCall.operation : JournalCall → Option Operation
  | .currentHandoff => none
  | .markSourceStopRequested id => some (.markSourceStopRequested id)
  | .markSourceStopped id => some (.markSourceStopped id)
  | .recordForkIntent id baseline => some (.recordForkIntent id baseline)
  | .recordBoundedForkRetry id => some (.recordBoundedForkRetry id)
  | .observeHandoffTarget id target => some (.observeHandoffTarget id target)
  | .commitHandoff id => some (.commitHandoff id)
  | .finishHandoffAttachment id => some (.finishHandoffAttachment id)

section

variable [Sha256] {w : HandoffWorld} {t : HandoffTransition}

omit [Sha256] in
theorem discard_snd {α : Type} (x : RegistryM α) (disk : Disk) :
    ((do let _ ← x : RegistryM Unit) disk).2 = (x disk).2 := by
  rw [bind_apply]
  rcases x disk with ⟨_ | a, disk⟩ <;> rfl

theorem read_snd {α : Type} (host : Host)
    (operation : ConversationDocument → Except ConversationError α) (disk : Disk) :
    (read host operation disk).2 = disk := by
  rcases h : read host operation disk with ⟨r, disk'⟩
  unfold read faultAt at h
  obtain ⟨-, -, -, rfl⟩ | ⟨_, -, h⟩ := lift_bind_cases h
  · rfl
  obtain ⟨-, -, -, rfl⟩ | ⟨_, -, h⟩ := lift_bind_cases h
  · rfl
  obtain ⟨-, -, -, rfl⟩ | ⟨_, -, h⟩ := lift_bind_cases h
  · rfl
  obtain ⟨-, -, -, rfl⟩ | ⟨_, -, h⟩ := inspect_bind_cases h
  · rfl
  cases h
  rfl

/-- What a call to the journal leaves on disk. -/
theorem JournalCall.run_snd (host : Host) (call : JournalCall) (disk : Disk) :
    (call.run host disk).2 = (call.operation.map fun op => op.step host disk).getD disk := by
  cases call with
  | currentHandoff => exact read_snd host _ disk
  | _ => exact (discard_snd _ disk).symm

/-- A v2 transaction that succeeds published what its operation made of the document on disk. -/
theorem transactV2_published {α : Type} {host : Host} {disk disk' : Disk} {a : α}
    {operation : ConversationDocument → Except ConversationError (α × ConversationDocument)}
    (h : transactV2 host operation disk = (.ok a, disk')) :
    ∃ document edited, SameBody disk.document document ∧ operation document = .ok (a, edited) ∧
      disk'.document.activeTransition = edited.activeTransition := by
  generalize hr : Except.ok a = r at h
  have outcome := transactV2_cases h
  cases outcome with
  | refused | backedUp => cases hr
  | published result _ h hr' =>
    subst hr
    obtain hr' | hr' := hr'
    · cases hr'
      obtain ⟨original, document, edited, published, hload, hprep, hop, hrev, -, rfl⟩ := h
      obtain ⟨-, rfl⟩ := Calcifer.nextRevision_eq hrev
      obtain ⟨rfl, -⟩ := document_of_load hload
      exact ⟨document, edited, sameBody_of_prepared hprep, hop, rfl⟩
    · cases hr'

/-- A journal that was just written authorizes one more fork request. -/
structure ForkIntent (before after : Disk) (t : HandoffTransition) : Prop where
  active : after.document.activeTransition = some t
  phase : t.phase = .forkRequested
  next : ∃ t', before.document.activeTransition = some t' ∧ t'.transitionId = t.transitionId ∧
    t.forkAttempts = t'.forkAttempts + 1

theorem recordForkIntent_intent {host : Host} {id : String} {baseline : List String}
    {disk disk' : Disk}
    (h : ConversationRegistry.recordForkIntent host id baseline disk = (.ok t, disk')) :
    ForkIntent disk disk' t := by
  unfold ConversationRegistry.recordForkIntent at h
  obtain ⟨e, -, he, -⟩ | ⟨_, -, h⟩ := lift_bind_cases h
  · cases he
  obtain ⟨e, -, he, -⟩ | ⟨_, -, h⟩ := lift_bind_cases h
  · cases he
  obtain ⟨document, edited, body, hop, after⟩ := transactV2_published h
  simp only [ConversationDocument.recordForkIntent, bind_eq_ok, rejectIf_eq_ok, pure_eq_ok,
    Prod.mk.injEq, not_or, Decidable.not_not] at hop
  obtain ⟨t', ht', ⟨⟩, ⟨attempts, -, -⟩, now, -, rfl, rfl⟩ := hop
  obtain ⟨ha, -, -⟩ := exactTransition_iff.1 ht'
  exact ⟨after, rfl, t', body.activeTransition ▸ ha, rfl, by rw [attempts]⟩

theorem recordBoundedForkRetry_intent {host : Host} {id : String} {disk disk' : Disk}
    (h : ConversationRegistry.recordBoundedForkRetry host id disk = (.ok t, disk')) :
    ForkIntent disk disk' t := by
  unfold ConversationRegistry.recordBoundedForkRetry at h
  obtain ⟨e, -, he, -⟩ | ⟨_, -, h⟩ := lift_bind_cases h
  · cases he
  obtain ⟨document, edited, body, hop, after⟩ := transactV2_published h
  simp only [ConversationDocument.recordBoundedForkRetry, bind_eq_ok, rejectIf_eq_ok, pure_eq_ok,
    Prod.mk.injEq, not_or, Decidable.not_not] at hop
  obtain ⟨t', ht', ⟨⟩, ⟨attempts, -, -⟩, now, -, rfl, rfl⟩ := hop
  obtain ⟨ha, -, hp⟩ := exactTransition_iff.1 ht'
  exact ⟨after, hp, t', body.activeTransition ▸ ha, rfl, by rw [attempts]⟩

/-- What allows a process to request a fork. -/
structure Ready (t : HandoffTransition) (w : HandoffWorld) : Prop where
  lawful : Lawful w
  active : w.disk.document.activeTransition = some t
  phase : t.phase = .forkRequested
  new : ∀ r ∈ forkRequests t.transitionId w.history, r.forkAttempts < t.forkAttempts

theorem JournalCall.lawful (h : Lawful w) (host : Host) (call : JournalCall) :
    Lawful (w.record (call.run host w.disk).2) := by
  rw [call.run_snd]
  cases hop : call.operation with
  | some op =>
    refine h.record (h.reachable.step host op) (journal_step host op w.disk) ?_
    rintro ⟨preparation, rfl⟩
    cases call <;> cases hop
  | none =>
    -- a read names no operation, and any operation may leave the journal alone
    have kept : JournalStep host (.markCaptureFailed "") w.disk.document.activeTransition
        w.disk.document.activeTransition := .kept _
    exact h.record h.reachable kept (by simp)

/-- What other processes do keeps the law, and the permission to request a fork. -/
theorem lawful_stable (ε : Type) : (handoffSurroundings ε).Stable Lawful := by
  rintro w _ h ⟨host, op, -, fresh⟩
  exact h.record (h.reachable.step host op) (journal_step host op w.disk) fresh

theorem ready_stable (ε : Type) (t : HandoffTransition) :
    (handoffSurroundings ε).Stable (Ready t) := by
  intro w w' h env
  have lawful := lawful_stable ε w w' h.lawful env
  obtain ⟨host, op, unrelated, -⟩ := env
  refine ⟨lawful, ?_, h.phase, h.new⟩
  have step := journal_step host op w.disk
  rw [h.active] at step
  rw [HandoffWorld.record]
  generalize (op.step host w.disk).document.activeTransition = after at step
  cases step with
  | kept => rfl
  | moved _ t' own =>
    rw [unrelated] at own
    cases own
  | attached _ hop =>
    subst hop
    cases unrelated

/-- An intent that was just recorded allows its request. -/
theorem ForkIntent.ready (h : Lawful w) {disk : Disk} (intent : ForkIntent w.disk disk t)
    (lawful : Lawful (w.record disk)) : Ready t (w.record disk) := by
  obtain ⟨t', before, hid, attempts⟩ := intent.next
  refine ⟨lawful, intent.active, intent.phase, fun r hr => ?_⟩
  have := (h.attempts t' before).requested r (hid ▸ hr)
  omega

end

/-! ## Safety of the driver -/

section

variable [Sha256] {w : HandoffWorld} {ε α β : Type}

/-- A part of the driver that keeps the law whatever happens. -/
def Careful (x : ExceptT (HandoffExecutionError ε) (HandoffProgram ε) α) (w : HandoffWorld) : Prop :=
  Program.Safe (handoffSurroundings ε) Lawful x.run (fun _ _ => True) w

variable {f : α → ExceptT (HandoffExecutionError ε) (HandoffProgram ε) β}

theorem careful_pure (a : α) : Careful (pure a : ExceptT _ (HandoffProgram ε) α) w := trivial

theorem careful_decision {x : Except HandoffTransactionError α} (h : ∀ a, Careful (f a) w) :
    Careful (callDecision x >>= f) w := by
  refine Program.Safe.bindExcept ?_
  cases x with
  | ok a => exact h a
  | error e => trivial

theorem careful_journal {call : JournalCall}
    {f : call.Result → ExceptT (HandoffExecutionError ε) (HandoffProgram ε) β} (h : Lawful w)
    (next : ∀ w', Lawful w' → ∀ host a disk, call.run host w'.disk = (.ok a, disk) →
      Lawful (w'.record disk) → Careful (f a) (w'.record disk)) :
    Careful (callJournal call >>= f) w := by
  refine Program.Safe.bindExcept (Program.Safe.call Lawful (lawful_stable ε) h ?_)
  rintro w' h' r _ ⟨_, host, _, disk, hrun⟩
  have lawful : Lawful (w'.record disk) := by
    have := call.lawful h' host
    rwa [hrun] at this
  refine ⟨lawful, ?_⟩
  cases r with
  | ok a => exact next w' h' host a disk hrun lawful
  | error e => trivial

theorem careful_runtime {call : RuntimeCall} (hc : ∀ t, call ≠ .requestFork t)
    {f : call.Result → ExceptT (HandoffExecutionError ε) (HandoffProgram ε) β} (h : Lawful w)
    (next : ∀ w', Lawful w' → ∀ a, Careful (f a) w') :
    Careful (callRuntime (Program.perform (HandoffOp.runtime call)) >>= f) w := by
  refine Program.Safe.bindExcept (Program.Safe.call Lawful (lawful_stable ε) h ?_)
  rintro w' h' r w₂ exec
  have hw : w₂ = w' := by
    cases exec with
    | requestFork t => exact absurd rfl (hc t)
    | runtime => rfl
  subst hw
  refine ⟨h', ?_⟩
  cases r with
  | ok a => exact next _ h' a
  | error e => trivial

theorem careful_requestFork {t : HandoffTransition}
    {f : Unit → ExceptT (HandoffExecutionError ε) (HandoffProgram ε) β} (h : Ready t w)
    (next : ∀ w', Lawful w' → Careful (f ()) w') :
    Careful (callRuntime ((anyRuntime ε).requestFork t) >>= f) w := by
  refine Program.Safe.bindExcept (Program.Safe.call (Ready t) (ready_stable ε t) h ?_)
  rintro w' h' r w₂ exec
  have lawful : Lawful w₂ := by
    cases exec with
    | requestFork => exact h'.lawful.request h'.active h'.phase h'.new
    | runtime _ hc => exact absurd rfl (hc t)
  refine ⟨lawful, ?_⟩
  cases r with
  | ok a => exact next _ lawful
  | error e => trivial

/-- The driver keeps the law from any lawful world on. -/
theorem careful_resumeHandoffOnce (h : Lawful w) : Careful (resumeHandoffOnce (anyRuntime ε)) w := by
  refine careful_journal h fun w _ host current disk _ h => ?_
  generalize w.record disk = w at h
  cases current with
  | none => exact trivial
  | some transition =>
    refine careful_decision fun action => ?_
    cases action with
    | persistSourceStopIntent =>
      exact careful_journal h fun w _ host next disk _ h => careful_pure _
    | stopAndReapSource =>
      refine careful_runtime (by simp) h fun w h _ => ?_
      exact careful_journal h fun w _ host next disk _ h => careful_pure _
    | captureTargetBaselineAndFork =>
      refine careful_runtime (by simp) h fun w h baseline => ?_
      refine careful_journal h fun w h host requested disk hrun lawful => ?_
      have ready := (recordForkIntent_intent hrun).ready h lawful
      exact careful_requestFork ready fun w _ => careful_pure _
    | reconcileFork =>
      refine careful_runtime (by simp) h fun w h inventory => ?_
      refine careful_decision fun decision => ?_
      cases decision with
      | adopt target => exact careful_journal h fun w _ host next disk _ h => careful_pure _
      | retryOnce =>
        refine careful_journal h fun w h host retry disk hrun lawful => ?_
        have ready := (recordBoundedForkRetry_intent hrun).ready h lawful
        exact careful_requestFork ready fun w _ => careful_pure _
      | explicit reason => exact careful_pure _
    | commitObservedTarget => exact careful_journal h fun w _ host next disk _ h => careful_pure _
    | attachCommittedTarget =>
      refine careful_runtime (by simp) h fun w h _ => ?_
      exact careful_journal h fun w _ host next disk _ h => careful_pure _

/-- Every reachable world of the driver is lawful. -/
theorem HandoffReach.lawful
    {running : Option (HandoffProgram ε (Except (HandoffExecutionError ε) HandoffStep))}
    (h : HandoffReach ε w running) : Lawful w := by
  refine Program.Reach.invariant lawful_start (lawful_stable ε) (fun _ h => h) (fun p hp w hw => ?_) h
  rw [hp]
  exact careful_resumeHandoffOnce hw

/-- However often the driver fails, crashes and restarts: at most two forks are requested for a
handoff, no attempt twice, each with its own intent on disk and none once a target was observed;
and the stages of a handoff only move forward. -/
theorem fork_requests_bounded
    {running : Option (HandoffProgram ε (Except (HandoffExecutionError ε) HandoffStep))}
    (h : HandoffReach ε w running) (id : String) :
    (forkRequests id w.history).length ≤ 2 ∧
      ((forkRequests id w.history).map HandoffTransition.forkAttempts).Nodup ∧
      (∀ t past, .requestFork t :: past <:+ w.history → RequestOk past t) ∧
      ∀ later earlier, later <:+ w.history → earlier <:+ later →
        handoffStage id earlier ≤ handoffStage id later := by
  have lawful := h.lawful
  refine ⟨?_, (lawful.decreasing id).imp fun h => (Nat.ne_of_lt h).symm, lawful.requests,
    lawful.forward id⟩
  have := Lists.length_le_of_decreasing (lawful.decreasing id) (n := 2)
    (fun n hn => by
      obtain ⟨r, hr, rfl⟩ := List.mem_map.1 hn
      exact (lawful.mem_of_request hr).2.1)
    (fun n hn => by
      obtain ⟨r, hr, rfl⟩ := List.mem_map.1 hn
      exact (lawful.mem_of_request hr).2.2)
  rwa [List.length_map] at this

end

/-! ### A sample run -/

section

attribute [local instance] sampleSha256

/-- After the request to stop the source. -/
def sampleStopRequested : ConversationDocument := { samplePrepared with
  revision := 3
  activeTransition := some { sampleTransition with
    phase := .sourceStopRequested, updatedAt := 1760000002 } }

/-- The journal of the sample with its fork requested. -/
def sampleRequested : HandoffTransition := { sampleTransition with
  phase := .forkRequested
  targetBaselineThreadIds := [sampleId 6]
  forkAttempts := 1
  forkRequestedAt := some 1760000004
  updatedAt := 1760000004 }

/-- The documents of the sample as results of its calls. -/
theorem sampleCalls_ok :
    ConversationRegistry.markSourceStopRequested (sampleHost 12 1760000002) (sampleId 11)
        ⟨some samplePrepared, some sampleAdopted⟩ =
      (.ok { sampleTransition with phase := .sourceStopRequested, updatedAt := 1760000002 },
        ⟨some sampleStopRequested, some sampleAdopted⟩) ∧
    ConversationRegistry.markSourceStopped (sampleHost 12 1760000003) (sampleId 11)
        ⟨some sampleStopRequested, some sampleAdopted⟩ =
      (.ok { sampleTransition with phase := .sourceStopped, updatedAt := 1760000003 },
        ⟨some sampleStopped, some sampleAdopted⟩) ∧
    ConversationRegistry.recordForkIntent (sampleHost 12 1760000004) (sampleId 11) [sampleId 6]
        ⟨some sampleStopped, some sampleAdopted⟩ =
      (.ok sampleRequested, ⟨some { sampleStopped with
        revision := 5, activeTransition := some sampleRequested }, some sampleAdopted⟩) := by
  decide +kernel

/-- A process reads the journal first. -/
theorem HandoffReach.current {w : HandoffWorld} {t : HandoffTransition}
    (h : HandoffReach Unit w none) (ht : w.disk.document.activeTransition = some t) :
    (handoffSurroundings Unit).Exec w (.journal .currentHandoff)
      (.ok (some t) : Except ConversationError (Option HandoffTransition)) (w.record w.disk) := by
  refine .journal .currentHandoff (sampleHost 12 0) _ _ ?_
  rw [← ht]
  exact read_ok rfl h.lawful.reachable.load_eq

/-- A call of the driver to the journal under the host of the sample. -/
theorem handoffExec_journal {w : HandoffWorld} {call : JournalCall} {clock : ℕ} {a : call.Result}
    {before after : Disk} (hd : w.disk = before)
    (h : call.run (sampleHost 12 clock) before = (.ok a, after)) :
    (handoffSurroundings Unit).Exec w (.journal call)
      (.ok a : Except ConversationError call.Result) (w.record after) := by
  subst hd
  exact HandoffExec.journal call (sampleHost 12 clock) _ _ h

/-- A call of another process. -/
theorem HandoffReach.other {w : HandoffWorld} {host : Host} {op : Operation} {before after : Disk}
    (h : HandoffReach Unit w none) (hd : w.disk = before) (step : after = op.step host before)
    (unrelated : op.transitionOf = none)
    (fresh : ∀ t, .journal (some t) ∈ w.history → t.transitionId ≠ host.newV4.toString) :
    HandoffReach Unit (w.record after) none := by
  subst hd step
  exact .env (.other host op unrelated fun _ => fresh) h

/-- The handoff of the sample is prepared. -/
theorem sample_prepared : ∃ w, HandoffReach Unit w none ∧
    w.disk = ⟨some samplePrepared, some sampleAdopted⟩ ∧ forkRequests (sampleId 11) w.history = [] := by
  have step1 : sampleDisk 1 =
      (Operation.adopt sampleBinding).step (sampleHost 10 1760000000) .empty := by
    simp only [sampleDisk, sampleCalls, runAll, List.take, List.foldl]
  have step2 : sampleDisk 2 = (Operation.prepareHandoff samplePreparation).step
      (sampleHost 11 1760000001) (sampleDisk 1) := by
    simp only [sampleDisk, sampleCalls, runAll, List.take, List.foldl]
  rw [sampleDisk_eq.1] at step1
  rw [sampleDisk_eq.2.1, sampleDisk_eq.1] at step2
  have before : HandoffReach Unit HandoffWorld.start none := .start
  have adopted := before.other rfl step1 rfl (by simp [HandoffWorld.start])
  have prepared := adopted.other rfl step2 rfl
    (by simp [HandoffWorld.record, HandoffWorld.start, Disk.document, sampleAdopted])
  exact ⟨_, prepared, rfl, rfl⟩

/-- Its source is stopped by two processes. -/
theorem sample_stopped : ∃ w, HandoffReach Unit w none ∧
    w.disk = ⟨some sampleStopped, some sampleAdopted⟩ ∧ forkRequests (sampleId 11) w.history = [] := by
  obtain ⟨w, h, hd, hr⟩ := sample_prepared
  have requested : HandoffReach Unit ((w.record w.disk).record
      ⟨some sampleStopRequested, some sampleAdopted⟩) none :=
    h.run rfl (.call _ (h.current (t := sampleTransition) (by rw [hd]; rfl))
      (.call _ (handoffExec_journal hd sampleCalls_ok.1) (.done _)))
  generalize hw : (w.record w.disk).record ⟨some sampleStopRequested, some sampleAdopted⟩ = w₁
    at requested
  have hd₁ : w₁.disk = ⟨some sampleStopRequested, some sampleAdopted⟩ := by rw [← hw]; rfl
  have hr₁ : forkRequests (sampleId 11) w₁.history = [] := by rw [← hw]; exact hr
  have stopped : HandoffReach Unit ((w₁.record w₁.disk).record
      ⟨some sampleStopped, some sampleAdopted⟩) none :=
    requested.run rfl (.call _ (requested.current (t := { sampleTransition with
        phase := .sourceStopRequested, updatedAt := 1760000002 }) (by rw [hd₁]; rfl))
      (.call _ (HandoffExec.runtime (.stopAndReapSource _) (by simp) (.ok ()))
        (.call _ (handoffExec_journal hd₁ sampleCalls_ok.2.1) (.done _))))
  exact ⟨_, stopped, rfl, hr₁⟩

/-- A fork is requested. -/
theorem sample_forkRequested : ∃ w, HandoffReach Unit w none ∧
    forkRequests (sampleId 11) w.history = [sampleRequested] := by
  obtain ⟨w, h, hd, hr⟩ := sample_stopped
  have requested := h.run rfl (.call _ (h.current (t := { sampleTransition with
        phase := .sourceStopped, updatedAt := 1760000003 }) (by rw [hd]; rfl))
      (.call _ (HandoffExec.runtime (.captureTargetBaseline _) (by simp) (.ok [sampleId 6]))
        (.call _ (handoffExec_journal hd sampleCalls_ok.2.2)
          (.call _ (HandoffExec.requestFork sampleRequested (.ok ())) (.done _)))))
  refine ⟨_, requested, ?_⟩
  have hid : sampleRequested.transitionId = sampleId 11 := rfl
  change forkRequests (sampleId 11) (.requestFork sampleRequested :: _) = _
  rw [forkRequests_requestFork, if_pos hid]
  exact congrArg (sampleRequested :: ·) hr

theorem fork_requests_bounded_sample : ∃ w, HandoffReach Unit w none ∧
    forkRequests (sampleId 11) w.history = [sampleRequested] ∧
    (forkRequests (sampleId 11) w.history).length ≤ 2 ∧
    ∀ t past, .requestFork t :: past <:+ w.history → RequestOk past t := by
  obtain ⟨w, h, hr⟩ := sample_forkRequested
  have bounded := fork_requests_bounded h (sampleId 11)
  exact ⟨w, h, hr, bounded.1, bounded.2.2.1⟩

end

end Calcifer
