import Calcifer.Conversations.Steps

/-!
# What a step can do to the document

`Change host op d d'` lists every way in which the operation `op` turns the document `d` into `d'`
inside its transaction, with the guards that were checked. `step_cases` shows that a step leaves the
registry file alone, or publishes a validated document that came about by such a change. Everything
proved about runs of the registry is proved from these two.
-/

namespace Calcifer

open Checks Lists RegistryM ConversationDocument

/-- The ways `bindDocument` finds or makes the conversation of a binding. -/
inductive Bound (host : Host) (binding : BindingInput) (d : ConversationDocument) :
    ConversationDocument → Prop
  /-- The thread is the active tail of a lineage in the workspace of the binding. -/
  | existing (c : Conversation) (g : ConversationGeneration)
      (hc : d.conversations.find? (fun c => c.generations.any (bindsSame binding)) = some c)
      (hg : c.generations.find? (bindsSame binding) = some g)
      (active : g.generation = c.activeGeneration)
      (cwd : g.canonicalCwd = binding.canonicalCwd) :
      Bound host binding d (setReadyHead { d with
        conversations := updateFirst (fun c => c.generations.any (bindsSame binding))
          (fun c => { c with lastSafeLifecycle := binding.lifecycle }) d.conversations }
        binding.canonicalCwd c.conversationId g.generation)
  /-- The thread is new. -/
  | new (boundAt : ℤ) (now : unixTimestamp host = .ok boundAt)
      (hc : d.conversations.find? (fun c => c.generations.any (bindsSame binding)) = none) :
      Bound host binding d (setReadyHead { d with
        conversations := d.conversations ++
          [{ conversationId := host.newV4.toString, provider := .codex,
             generations := [firstGeneration binding boundAt], activeGeneration := 0,
             lastSafeLifecycle := binding.lifecycle }] }
        binding.canonicalCwd host.newV4.toString 0)

/-- What a successful `bindDocument` checked and did. -/
structure Binds (host : Host) (binding : BindingInput) (d d' : ConversationDocument) : Prop where
  input : validateBindingInput binding = .ok ()
  free : d.transitioning binding.canonicalCwd = false
  owner : ∀ c ∈ d.conversations, ∀ g ∈ c.generations, g.threadId = binding.threadId →
    g.profileId = binding.profileId
  bound : Bound host binding d d'

/-- What `finishLaunch` does once the launch is removed. -/
inductive Finished (host : Host) (pending : PendingLaunch) (resolution : LaunchResolution)
    (d : ConversationDocument) : ConversationDocument → Prop
  | marked : Finished host pending resolution d (d.markHeadNeedsSelection pending.canonicalCwd)
  | left : Finished host pending resolution d d
  | bound (binding : BindingInput) {d' : ConversationDocument} (hr : resolution = .bind binding)
      (cwd : binding.canonicalCwd = pending.canonicalCwd)
      (ready : d.needsSelection pending.canonicalCwd = false) (h : Binds host binding d d') :
      Finished host pending resolution d d'

/-- The document without the launch that is finished. -/
def ConversationDocument.dropPending (d : ConversationDocument) (launchId : String) :
    ConversationDocument :=
  { d with pendingLaunches := d.pendingLaunches.eraseP fun pending => pending.launchId = launchId }

/-- A phase operation that only rewrites the transition. -/
inductive Advance (host : Host) (d : ConversationDocument) (t : HandoffTransition) :
    Operation → HandoffTransition → Prop
  | stopRequested (now : ℤ) (ht : unixTimestamp host = .ok now) (hp : t.phase = .prepared) :
      Advance host d t (.markSourceStopRequested t.transitionId)
        { t with phase := .sourceStopRequested, updatedAt := now }
  | stopped (now : ℤ) (ht : unixTimestamp host = .ok now) (hp : t.phase = .sourceStopRequested) :
      Advance host d t (.markSourceStopped t.transitionId)
        { t with phase := .sourceStopped, updatedAt := now }
  | intent (now : ℤ) (ids : List String) (ht : unixTimestamp host = .ok now)
      (hp : t.phase = .sourceStopped) (attempts : t.forkAttempts = 0) :
      Advance host d t (.recordForkIntent t.transitionId ids)
        { t with phase := .forkRequested, targetBaselineThreadIds := ids, forkAttempts := 1,
                 forkRequestedAt := some now, updatedAt := now }
  | retry (now : ℤ) (ht : unixTimestamp host = .ok now) (hp : t.phase = .forkRequested)
      (attempts : t.forkAttempts = 1) :
      Advance host d t (.recordBoundedForkRetry t.transitionId)
        { t with forkAttempts := 2, forkRequestedAt := some now, updatedAt := now }
  | observed (now : ℤ) (target : HandoffTarget) (ht : unixTimestamp host = .ok now)
      (hp : t.phase = .forkRequested) (new : d.bound target.threadId = false) :
      Advance host d t (.observeHandoffTarget t.transitionId target)
        { t with
          observedTarget := some {
            threadId := target.threadId
            canonicalCwd := target.canonicalCwd
            codexVersion := target.codexVersion
            adapterVersion := cargoPkgVersion
            rollout := target.rollout
            observedAt := now }
          phase := .forkObserved, updatedAt := now }

/-- What a successful `prepareHandoff` found. -/
structure Prepares (host : Host) (preparation : HandoffPreparation) (d : ConversationDocument)
    (c : Conversation) (source recorded : ConversationGeneration) (now : ℤ) : Prop where
  idle : d.activeTransition = none
  free : d.launching preparation.expectedSource.canonicalCwd = false
  head : d.resolveHeadDocument preparation.expectedSource.canonicalCwd =
    .ok preparation.expectedSource
  conversation_eq : d.findConversation preparation.expectedSource.conversationId = some c
  source_eq : c.findGeneration c.activeGeneration = some source
  cwd_eq : source.canonicalCwd = preparation.expectedSource.canonicalCwd
  recorded_eq : recordSourceMetadata preparation source = .ok recorded
  now_eq : unixTimestamp host = .ok now

/-- What a successful `commitHandoff` found. -/
structure Commits (host : Host) (d : ConversationDocument) (t : HandoffTransition)
    (target : ObservedHandoffTarget) (c : Conversation) (now : ℤ) : Prop where
  active : d.activeTransition = some t
  phase : t.phase = .forkObserved
  target_eq : t.observedTarget = some target
  unbound : d.bound target.threadId = false
  conversation_eq : d.findConversation t.conversationId = some c
  source : c.activeGeneration = t.sourceGeneration
  room : c.generations.length < maxLineageGenerations
  now_eq : unixTimestamp host = .ok now

/-- The document after a commit. -/
def ConversationDocument.committed (d : ConversationDocument) (t : HandoffTransition)
    (target : ObservedHandoffTarget) (provider : Provider) (now : ℤ) : ConversationDocument :=
  { d with
    conversations := updateFirst (fun c => c.conversationId = t.conversationId)
      (commitGeneration t target) d.conversations
    workspaceHeads := updateFirst
      (fun head => head.provider = provider ∧ head.canonicalCwd = t.canonicalCwd)
      (fun head => { head with generation := some t.targetGeneration }) d.workspaceHeads
    activeTransition := some { t with phase := .committedUnattached, updatedAt := now } }

/-- Every way in which an operation turns a document into another. -/
inductive Change (host : Host) : Operation → ConversationDocument → ConversationDocument → Prop
  | launched {d : ConversationDocument} {profileId path codexVersion : String} {mode : LaunchMode}
      {inventory : List InventoryThread} (pending : PendingLaunch)
      (path_eq : host.canonicalDirectory path = some pending.canonicalCwd)
      (free : d.transitioning pending.canonicalCwd = false)
      (sole : ∀ p ∈ d.pendingLaunches, p.canonicalCwd = pending.canonicalCwd →
        p.launchId = pending.launchId) :
      Change host (.beginLaunch profileId path mode codexVersion inventory) d
        { d with pendingLaunches := d.pendingLaunches ++ [pending] }
  | overlapped {d : ConversationDocument} {profileId path codexVersion : String}
      {mode : LaunchMode} {inventory : List InventoryThread} (cwd : String)
      (path_eq : host.canonicalDirectory path = some cwd) (free : d.transitioning cwd = false) :
      Change host (.beginLaunch profileId path mode codexVersion inventory) d
        (d.markHeadNeedsSelection cwd)
  | started {d : ConversationDocument} (launchId : String) :
      Change host (.markProviderStarted launchId) d { d with
        pendingLaunches := updateFirst (fun p => p.launchId = launchId)
          (fun p => { p with phase := .providerStarted }) d.pendingLaunches }
  | captureFailed {d : ConversationDocument} (launchId : String) :
      Change host (.markCaptureFailed launchId) d { d with
        pendingLaunches := updateFirst (fun p => p.launchId = launchId)
          (fun p => { p with phase := .captureFailed }) d.pendingLaunches }
  | finished {d d' : ConversationDocument} {launchId : String} {resolution : LaunchResolution}
      (pending : PendingLaunch)
      (found : d.pendingLaunches.find? (fun p => p.launchId = launchId) = some pending)
      (h : Finished host pending resolution (d.dropPending launchId) d') :
      Change host (.finishLaunch launchId resolution) d d'
  | adopted {d d' : ConversationDocument} (binding : BindingInput)
      (idle : d.launching binding.canonicalCwd = false) (h : Binds host binding d d') :
      Change host (.adopt binding) d d'
  | refreshed {d d' : ConversationDocument} {expected : HeadBinding} (binding : BindingInput)
      (current : HeadBinding) (head : d.resolveHeadDocument binding.canonicalCwd = .ok current)
      (h : Binds host binding d d') :
      Change host (.refreshAdopted expected binding) d d'
  | marked {d : ConversationDocument} {path : String} (cwd : String)
      (path_eq : host.canonicalDirectory path = some cwd) (free : d.transitioning cwd = false) :
      Change host (.markWorkspaceAmbiguous path) d (d.markHeadNeedsSelection cwd)
  | untracked {d : ConversationDocument} {profileId path : String} {mode : LaunchMode}
      (pending : PendingLaunch)
      (path_eq : host.canonicalDirectory path = some pending.canonicalCwd)
      (free : d.transitioning pending.canonicalCwd = false)
      (idle : d.launching pending.canonicalCwd = false) :
      Change host (.prepareUntracked profileId path mode) d
        { d.markHeadNeedsSelection pending.canonicalCwd with
          pendingLaunches := d.pendingLaunches ++ [pending] }
  | prepared {d : ConversationDocument} {preparation : HandoffPreparation} (c : Conversation)
      (source recorded : ConversationGeneration) (now : ℤ)
      (h : Prepares host preparation d c source recorded now) :
      Change host (.prepareHandoff preparation) d
        { d.setGeneration c.conversationId c.activeGeneration recorded with
          activeTransition := some
            (preparedTransition host.newV4.toString c source preparation now) }
  | advanced {d : ConversationDocument} {op : Operation} (t t' : HandoffTransition)
      (active : d.activeTransition = some t) (h : Advance host d t op t') :
      Change host op d { d with activeTransition := some t' }
  | committed {d : ConversationDocument} (t : HandoffTransition)
      (target : ObservedHandoffTarget) (c : Conversation) (now : ℤ)
      (h : Commits host d t target c now) :
      Change host (.commitHandoff t.transitionId) d (d.committed t target c.provider now)
  | attached {d : ConversationDocument} (t : HandoffTransition)
      (active : d.activeTransition = some t) (phase : t.phase = .committedUnattached) :
      Change host (.finishHandoffAttachment t.transitionId) d { d with activeTransition := none }

/-! ## Inverting the operations -/

section

variable {host : Host} {d d' : ConversationDocument}

theorem bindDocument_cases {binding : BindingInput} {head : HeadBinding}
    (h : d.bindDocument host binding = .ok (head, d')) : Binds host binding d d' := by
  simp only [bindDocument, bind_eq_ok, ensureWorkspaceNotTransitioning, rejectIf_eq_ok,
    pure_eq_ok, Prod.mk.injEq] at h
  obtain ⟨⟨⟩, input, ⟨⟩, free, ⟨⟩, owner, ⟨id, number, d₁⟩, hb, -, rfl⟩ := h
  refine ⟨input, by simpa using free, ?_, ?_⟩
  · intro c hc g hg hthread
    by_contra hne
    exact owner (List.any_eq_true.2 ⟨c, hc, List.any_eq_true.2 ⟨g, hg, by simp [hthread, hne]⟩⟩)
  unfold bindConversation at hb
  split at hb
  · rename_i c hc
    simp only [bindExisting, bind_eq_ok, okOr_eq_ok, rejectIf_eq_ok, pure_eq_ok, Prod.mk.injEq,
      Decidable.not_not] at hb
    obtain ⟨g, hg, ⟨⟩, active, ⟨⟩, cwd, rfl, rfl, rfl⟩ := hb
    exact .existing c g hc hg active cwd
  · rename_i hc
    simp only [bindNew, bind_eq_ok, pure_eq_ok, Prod.mk.injEq] at hb
    obtain ⟨boundAt, now, rfl, rfl, rfl⟩ := hb
    exact .new boundAt now hc

theorem finishLaunch_cases {launchId : String} {resolution : LaunchResolution}
    {result : Option HeadBinding}
    (h : d.finishLaunch host launchId resolution = .ok (result, d')) :
    ∃ pending, d.pendingLaunches.find? (fun p => p.launchId = launchId) = some pending ∧
      Finished host pending resolution (d.dropPending launchId) d' := by
  simp only [ConversationDocument.finishLaunch, bind_eq_ok, okOr_eq_ok] at h
  obtain ⟨pending, found, h⟩ := h
  refine ⟨pending, found, ?_⟩
  change (if pending.mode.isUntracked = true then _ else
    if (d.dropPending launchId).needsSelection pending.canonicalCwd = true then _ else _) = _ at h
  split_ifs at h with hu hn
  · cases h
    exact .marked
  · cases h
    exact .left
  · cases resolution with
    | bind binding =>
      dsimp only at h
      split_ifs at h with hm
      · cases h
        exact .marked
      · simp only [bind_eq_ok] at h
        obtain ⟨⟨head, d₁⟩, hb, h⟩ := h
        cases h
        simp only [not_or, Decidable.not_not] at hm
        exact .bound binding rfl hm.2.1 (by simpa using hn) (bindDocument_cases hb)
    | noThread =>
      cases h
      exact .left
    | ambiguous =>
      cases h
      exact .marked

theorem exactTransition_iff {transitionId : String} {expected : HandoffPhase}
    {t : HandoffTransition} : d.exactTransition transitionId expected = .ok t ↔
      d.activeTransition = some t ∧ t.transitionId = transitionId ∧ t.phase = expected := by
  simp only [exactTransition, bind_eq_ok, okOr_eq_ok, rejectIf_eq_ok, pure_eq_ok,
    Option.filter_eq_some_iff, decide_eq_true_eq, Decidable.not_not]
  constructor
  · rintro ⟨t', ⟨ha, hid⟩, ⟨⟩, hp, rfl⟩
    exact ⟨ha, hid, hp⟩
  · rintro ⟨ha, hid, hp⟩
    exact ⟨t, ⟨ha, hid⟩, (), hp, rfl⟩

theorem beginLaunch_cases {profileId path codexVersion : String} {mode : LaunchMode}
    {inventory : List InventoryThread} {pending : PendingLaunch} {overlapping : Bool}
    (path_eq : host.canonicalDirectory path = some pending.canonicalCwd)
    (h : d.beginLaunch pending = .ok (overlapping, d')) :
    Change host (.beginLaunch profileId path mode codexVersion inventory) d d' := by
  simp only [ConversationDocument.beginLaunch, ensureWorkspaceNotTransitioning, bind_eq_ok,
    rejectIf_eq_ok] at h
  obtain ⟨⟨⟩, free, h⟩ := h
  split_ifs at h with ho
  · cases h
    exact .overlapped _ path_eq (by simpa using free)
  · cases h
    refine .launched pending path_eq (by simpa using free) fun p hp hcwd => ?_
    by_contra hne
    exact ho (List.any_eq_true.2 ⟨p, hp, by simp [hcwd, hne]⟩)

theorem prepareUntracked_cases {profileId path : String} {mode : LaunchMode}
    {pending : PendingLaunch} {launchId : String}
    (path_eq : host.canonicalDirectory path = some pending.canonicalCwd)
    (h : d.prepareUntracked pending = .ok (launchId, d')) :
    Change host (.prepareUntracked profileId path mode) d d' := by
  simp only [ConversationDocument.prepareUntracked, ensureWorkspaceNotTransitioning, bind_eq_ok,
    rejectIf_eq_ok, pure_eq_ok, Prod.mk.injEq] at h
  obtain ⟨⟨⟩, free, ⟨⟩, idle, -, rfl⟩ := h
  rw [markHeadNeedsSelection_pendingLaunches]
  exact .untracked pending path_eq (by simpa using free) (by simpa using idle)

theorem prepareHandoff_cases {preparation : HandoffPreparation} {t : HandoffTransition}
    (h : d.prepareHandoff host preparation = .ok (t, d')) :
    ∃ c source recorded now, Prepares host preparation d c source recorded now ∧
      source.generation + 1 < 2 ^ 32 ∧
      t = preparedTransition host.newV4.toString c source preparation now ∧
      d' = { d.setGeneration c.conversationId c.activeGeneration recorded with
        activeTransition := some t } := by
  simp only [ConversationDocument.prepareHandoff, bind_eq_ok, okOr_eq_ok, rejectIf_eq_ok,
    pure_eq_ok, Prod.mk.injEq, Decidable.not_not, not_or] at h
  obtain ⟨⟨⟩, idle, ⟨⟩, free, current, head, ⟨⟩, rfl, c, hc, ⟨⟩, hactive, source, hs, ⟨⟩,
    ⟨-, -, hcwd⟩, recorded, hr, ⟨⟩, hgen, now, hnow, rfl, rfl⟩ := h
  exact ⟨c, source, recorded, now, ⟨idle, by simpa using free, head, hc, hs, hcwd, hr, hnow⟩, hgen,
    rfl, rfl⟩

theorem commitHandoff_cases {transitionId : String} {head : HeadBinding}
    (h : d.commitHandoff host transitionId = .ok (head, d')) :
    ∃ t target c now, t.transitionId = transitionId ∧ Commits host d t target c now ∧
      d' = d.committed t target c.provider now := by
  simp only [ConversationDocument.commitHandoff, bind_eq_ok, okOr_eq_ok, rejectIf_eq_ok,
    pure_eq_ok, Prod.mk.injEq, Decidable.not_not, not_or] at h
  obtain ⟨t, ht, target, htarget, ⟨⟩, unbound, c, hc, ⟨⟩, ⟨hsource, hroom⟩, hd, -, ⟨⟩, -, now,
    hnow, -, rfl⟩ := h
  obtain ⟨ha, hid, hp⟩ := exactTransition_iff.1 ht
  exact ⟨t, target, c, now, hid,
    ⟨ha, hp, htarget, by simpa using unbound, hc, hsource, by omega, hnow⟩, rfl⟩

end

/-! ## Steps -/

/-- Whether an operation runs in a v2 transaction. -/
def Operation.v2 : Operation → Bool
  | .prepareHandoff _ | .markSourceStopRequested _ | .markSourceStopped _ | .recordForkIntent _ _
  | .recordBoundedForkRetry _ | .observeHandoffTarget _ _ | .commitHandoff _
  | .finishHandoffAttachment _ => true
  | _ => false

variable [Sha256]

/-- What a step can leave on disk. -/
inductive StepCase (host : Host) (op : Operation) (disk : Disk) : Disk → Prop
  /-- The files are unchanged. -/
  | same : StepCase host op disk disk
  /-- Only the backup of a v1 document was written. -/
  | backedUp (original : ConversationDocument) (v2 : op.v2 = true)
      (load_eq : load disk = .ok original)
      (serialize_eq : serializeV1Document original = .ok original.toVecPretty) :
      StepCase host op disk { disk with backup := some original }
  /-- A changed document was written. -/
  | published (original document edited published : ConversationDocument)
      (load_eq : load disk = .ok original)
      (prepared_eq : Calcifer.prepared op.v2 original = .ok document)
      (change : Change host op document edited)
      (nextRevision_eq : nextRevision edited = .ok published)
      (checkSave_eq : checkSave published = .ok ()) :
      StepCase host op disk ⟨some published, backupAfter op.v2 original disk⟩

section

variable {α β : Type} {host : Host} {op : Operation} {disk : Disk}

theorem StepCase.of_outcome {v2 : Bool} (hv : op.v2 = v2)
    {operation : ConversationDocument → Except ConversationError (α × ConversationDocument)}
    (change : ∀ d a d', operation d = .ok (a, d') → Change host op d d')
    {r : Except ConversationError α} {disk' : Disk} (h : Outcome v2 operation disk r disk') :
    StepCase host op disk disk' := by
  subst hv
  cases h with
  | refused e => exact .same
  | backedUp e original hv hload hs => exact .backedUp original hv hload hs
  | published result r h _ =>
    obtain ⟨original, document, edited, published, hload, hprep, hop, hrev, hcheck, rfl⟩ := h
    exact .published original document edited published hload hprep (change _ _ _ hop) hrev hcheck

theorem StepCase.transact (hv : op.v2 = false)
    {operation : ConversationDocument → Except ConversationError (α × ConversationDocument)}
    (change : ∀ d a d', operation d = .ok (a, d') → Change host op d d') :
    StepCase host op disk (transact host operation disk).2 :=
  .of_outcome hv change (transact_cases rfl)

theorem StepCase.transactV2 (hv : op.v2 = true)
    {operation : ConversationDocument → Except ConversationError (α × ConversationDocument)}
    (change : ∀ d a d', operation d = .ok (a, d') → Change host op d d') :
    StepCase host op disk (transactV2 host operation disk).2 :=
  .of_outcome hv change (transactV2_cases rfl)

theorem StepCase.lift {x : Except ConversationError α} {f : α → RegistryM β}
    (h : ∀ a, x = .ok a → StepCase host op disk (f a disk).2) :
    StepCase host op disk ((lift x >>= f) disk).2 := by
  cases x with
  | error e => exact .same
  | ok a => exact h a rfl

/-- What follows a transaction and does not touch the disk is irrelevant. -/
theorem StepCase.discard {x : RegistryM α} {f : α → RegistryM β}
    (hf : ∀ a disk, (f a disk).2 = disk) (h : StepCase host op disk (x disk).2) :
    StepCase host op disk ((x >>= f) disk).2 := by
  rw [bind_apply]
  rcases hx : x disk with ⟨_ | a, disk₁⟩ <;> rw [hx] at h
  · exact h
  · simpa only [hf] using h

theorem StepCase.advance {transitionId : String} {expected next : HandoffPhase}
    (hv : op.v2 = true)
    (hop : ∀ d t now, t.transitionId = transitionId → t.phase = expected →
      unixTimestamp host = .ok now →
      Advance host d t op { t with phase := next, updatedAt := now }) :
    StepCase host op disk
      (ConversationRegistry.advanceHandoffPhase host transitionId expected next disk).2 := by
  refine .lift fun _ _ => .transactV2 hv fun d a d' h => ?_
  simp only [ConversationDocument.advanceHandoffPhase, bind_eq_ok, pure_eq_ok,
    Prod.mk.injEq] at h
  obtain ⟨t, ht, now, hnow, rfl, rfl⟩ := h
  obtain ⟨ha, hid, hp⟩ := exactTransition_iff.1 ht
  exact .advanced t _ ha (hop d t now hid hp hnow)

end

/-- A step leaves the files alone, writes the backup of a migration, or publishes a change. -/
theorem step_cases (host : Host) (op : Operation) (disk : Disk) :
    StepCase host op disk (op.step host disk) := by
  have done : ∀ {α : Type} (a : α) (disk : Disk), ((pure () : RegistryM Unit) disk).2 = disk :=
    fun _ _ => rfl
  cases op with
  | beginLaunch profileId path mode codexVersion inventory =>
    refine .discard done (.lift fun _ _ => .lift fun _ _ => .lift fun cwd hcwd => .lift fun _ _ =>
      .lift fun _ _ => .lift fun startedAt _ => .discard (fun a disk => ?_)
        (.transact rfl fun d a d' h => ?_))
    · cases a <;> rfl
    · exact beginLaunch_cases (by simpa [canonicalPathString] using hcwd) h
  | markProviderStarted launchId =>
    refine .lift fun _ _ => .transact rfl fun d a d' h => ?_
    simp only [setPendingPhase, bind_eq_ok, pure_eq_ok, Prod.mk.injEq] at h
    obtain ⟨p, -, -, rfl⟩ := h
    exact .started launchId
  | markCaptureFailed launchId =>
    refine .lift fun _ _ => .transact rfl fun d a d' h => ?_
    simp only [setPendingPhase, bind_eq_ok, pure_eq_ok, Prod.mk.injEq] at h
    obtain ⟨p, -, -, rfl⟩ := h
    exact .captureFailed launchId
  | finishLaunch launchId resolution =>
    refine .discard done (.lift fun _ _ => .transact rfl fun d a d' h => ?_)
    obtain ⟨pending, found, hf⟩ := finishLaunch_cases h
    exact .finished pending found hf
  | adopt binding =>
    refine .discard done (.lift fun _ _ => .transact rfl fun d a d' h => ?_)
    simp only [ConversationDocument.adopt, bind_eq_ok, rejectIf_eq_ok] at h
    obtain ⟨⟨⟩, -, ⟨⟩, idle, h⟩ := h
    exact .adopted binding (by simpa using idle) (bindDocument_cases h)
  | refreshAdopted expected binding =>
    refine .discard done (.lift fun _ _ => .lift fun _ _ => .transact rfl fun d a d' h => ?_)
    simp only [ConversationDocument.refreshAdopted, bind_eq_ok, rejectIf_eq_ok] at h
    obtain ⟨current, head, ⟨⟩, -, h⟩ := h
    exact .refreshed binding current head (bindDocument_cases h)
  | markWorkspaceAmbiguous path =>
    refine .lift fun cwd hcwd => .transact rfl fun d a d' h => ?_
    simp only [ConversationDocument.markWorkspaceAmbiguous, ensureWorkspaceNotTransitioning,
      bind_eq_ok, rejectIf_eq_ok, pure_eq_ok, Prod.mk.injEq] at h
    obtain ⟨⟨⟩, free, -, rfl⟩ := h
    exact .marked cwd (by simpa [canonicalPathString] using hcwd) (by simpa using free)
  | prepareUntracked profileId path mode =>
    refine .discard done (.lift fun _ _ => .lift fun _ _ => .lift fun cwd hcwd =>
      .lift fun startedAt _ => .transact rfl fun d a d' h => ?_)
    exact prepareUntracked_cases (by simpa [canonicalPathString] using hcwd) h
  | prepareHandoff preparation =>
    refine .discard done (.lift fun _ _ => .transactV2 rfl fun d a d' h => ?_)
    obtain ⟨c, source, recorded, now, hp, -, rfl, rfl⟩ := prepareHandoff_cases h
    exact .prepared c source recorded now hp
  | markSourceStopRequested transitionId =>
    refine .discard done (.advance rfl fun d t now hid hp hnow => ?_)
    exact hid ▸ .stopRequested now hnow hp
  | markSourceStopped transitionId =>
    refine .discard done (.advance rfl fun d t now hid hp hnow => ?_)
    exact hid ▸ .stopped now hnow hp
  | recordForkIntent transitionId ids =>
    refine .discard done (.lift fun _ _ => .lift fun _ _ => .transactV2 rfl fun d a d' h => ?_)
    simp only [ConversationDocument.recordForkIntent, bind_eq_ok, rejectIf_eq_ok, pure_eq_ok,
      Prod.mk.injEq, not_or, Decidable.not_not] at h
    obtain ⟨t, ht, ⟨⟩, ⟨attempts, -, -⟩, now, hnow, rfl, rfl⟩ := h
    obtain ⟨ha, rfl, hp⟩ := exactTransition_iff.1 ht
    exact .advanced t _ ha (.intent now ids hnow hp attempts)
  | recordBoundedForkRetry transitionId =>
    refine .discard done (.lift fun _ _ => .transactV2 rfl fun d a d' h => ?_)
    simp only [ConversationDocument.recordBoundedForkRetry, bind_eq_ok, rejectIf_eq_ok, pure_eq_ok,
      Prod.mk.injEq, not_or, Decidable.not_not] at h
    obtain ⟨t, ht, ⟨⟩, ⟨attempts, -, -⟩, now, hnow, rfl, rfl⟩ := h
    obtain ⟨ha, rfl, hp⟩ := exactTransition_iff.1 ht
    exact .advanced t _ ha (.retry now hnow hp attempts)
  | observeHandoffTarget transitionId target =>
    refine .discard done (.lift fun _ _ => .lift fun _ _ => .transactV2 rfl fun d a d' h => ?_)
    simp only [ConversationDocument.observeHandoffTarget, bind_eq_ok, rejectIf_eq_ok, pure_eq_ok,
      Prod.mk.injEq, not_or] at h
    obtain ⟨t, ht, ⟨⟩, -, source, -, ⟨⟩, ⟨-, new⟩, now, hnow, rfl, rfl⟩ := h
    obtain ⟨ha, rfl, hp⟩ := exactTransition_iff.1 ht
    exact .advanced t _ ha (.observed now target hnow hp (by simpa using new))
  | commitHandoff transitionId =>
    refine .discard done (.lift fun _ _ => .transactV2 rfl fun d a d' h => ?_)
    obtain ⟨t, target, c, now, rfl, hc, rfl⟩ := commitHandoff_cases h
    exact .committed t target c now hc
  | finishHandoffAttachment transitionId =>
    refine .discard done (.lift fun _ _ => .transactV2 rfl fun d a d' h => ?_)
    simp only [ConversationDocument.finishHandoffAttachment, bind_eq_ok, pure_eq_ok,
      Prod.mk.injEq] at h
    obtain ⟨t, ht, head, -, -, rfl⟩ := h
    obtain ⟨ha, rfl, hp⟩ := exactTransition_iff.1 ht
    exact .attached t ha hp

end Calcifer
