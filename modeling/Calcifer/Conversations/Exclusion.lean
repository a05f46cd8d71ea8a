import Calcifer.Conversations.Journal

/-!
# Workspace exclusion

Pending launches, the active transition and the head are three ways to own a workspace. A workspace
has at most one pending launch, never next to the active transition, and from the preparation of a
handoff to its attachment only the operations of that handoff touch the head, the conversation and
the launches of its workspace (`workspace_exclusion`).

While a transition is active its journal determines the head of its workspace
(`head_of_transition`), so that it is enough to follow the journal and the conversation.
-/

namespace Calcifer

open Checks Lists RegistryM ConversationDocument

/-! ## Refusals -/

section Refused

variable {α β : Type} {disk : Disk}

/-- A call that fails and leaves the files as they were. -/
def Refused (x : RegistryM α) (disk : Disk) : Prop := ∃ e, x disk = (.error e, disk)

theorem Refused.lift {x : Except ConversationError α} {f : α → RegistryM β}
    (h : ∀ a, x = .ok a → Refused (f a) disk) : Refused (lift x >>= f) disk := by
  cases x with
  | error e => exact ⟨e, rfl⟩
  | ok a => exact h a rfl

theorem Refused.bind {x : RegistryM α} {f : α → RegistryM β} (h : Refused x disk) :
    Refused (x >>= f) disk := by
  obtain ⟨e, he⟩ := h
  exact ⟨e, by rw [bind_apply, he]⟩

/-- A transaction is refused when its operation refuses the current document. -/
theorem Refused.transact [Sha256] {host : Host}
    {operation : ConversationDocument → Except ConversationError (α × ConversationDocument)}
    (h : ∀ a d', operation disk.document ≠ .ok (a, d')) :
    Refused (Calcifer.transact host operation) disk := by
  rcases ht : Calcifer.transact host operation disk with ⟨r, disk'⟩
  have outcome := transact_cases ht
  cases outcome with
  | refused e => exact ⟨e, ht⟩
  | backedUp e original hv => cases hv
  | published result r p =>
    obtain ⟨original, document, edited, published, hload, hprep, hop, -, -, -⟩ := p
    cases hprep
    obtain ⟨rfl, -⟩ := document_of_load hload
    exact absurd hop (h _ _)

theorem Refused.inspect {x : Disk → Except ConversationError α} {f : α → RegistryM β}
    (h : ∀ a, x disk = .ok a → Refused (f a) disk) : Refused (inspect x >>= f) disk :=
  Refused.lift (x := x disk) h

/-- A read is refused when it refuses the current document. -/
theorem Refused.read [Sha256] {host : Host}
    {operation : ConversationDocument → Except ConversationError α}
    (h : ∀ a, operation disk.document ≠ .ok a) : Refused (Calcifer.read host operation) disk := by
  refine .lift fun _ _ => .lift fun _ _ => .lift fun _ _ => .inspect fun d hload => ?_
  obtain ⟨rfl, -⟩ := document_of_load hload
  cases ho : operation disk.document with
  | error e => exact ⟨e, rfl⟩
  | ok a => exact absurd ho (h a)

end Refused

/-! ## The workspace of a transition -/

/-- The head that the journal of an active transition determines. -/
def HandoffTransition.head (t : HandoffTransition) : WorkspaceHead where
  provider := .codex
  canonicalCwd := t.canonicalCwd
  state := .ready
  conversationId := some t.conversationId
  generation := some t.expectedActive

section

variable {d d' : ConversationDocument} {t : HandoffTransition}

/-- An active transition determines the head of its workspace and excludes launches there. -/
theorem head_of_transition (hv : validateDocument d = .ok ()) (ht : d.activeTransition = some t) :
    d.headOf t.canonicalCwd = some t.head ∧ d.launching t.canonicalCwd = false := by
  obtain ⟨c, source, ok⟩ := transition_of_valid hv ht
  have hc := (contents_of_valid hv).conversations c (List.mem_of_find?_eq_some ok.conversation_eq)
  obtain ⟨⟨head, hf, hs, hid, hg⟩, hl⟩ := transitionWorkspace_iff.1 ok.workspace
  rw [hc.provider] at hf
  refine ⟨?_, hl⟩
  have hkey := List.find?_some hf
  simp only [decide_eq_true_eq] at hkey
  refine hf.trans (congrArg some ?_)
  obtain ⟨provider, cwd, state, id, generation⟩ := head
  simp only at hkey hs hid hg
  simp [HandoffTransition.head, hkey, hs, hid, hg]

/-- A pending launch and the active transition never share a workspace. -/
theorem launching_of_transitioning (hv : validateDocument d = .ok ()) {cwd : String}
    (h : d.transitioning cwd = true) : d.launching cwd = false := by
  obtain ⟨t, ht, hcwd⟩ : ∃ t, d.activeTransition = some t ∧ t.canonicalCwd = cwd := by
    simpa [transitioning, Option.any_eq_true] using h
  subst hcwd
  exact (head_of_transition hv ht).2

/-- All generations of the conversation of a transition are in its workspace. -/
theorem conversation_of_transition (hv : validateDocument d = .ok ())
    (ht : d.activeTransition = some t) : ∃ c, d.findConversation t.conversationId = some c ∧
      ∀ g ∈ c.generations, g.canonicalCwd = t.canonicalCwd := by
  obtain ⟨c, source, ok⟩ := transition_of_valid hv ht
  have hc := (contents_of_valid hv).conversations c (List.mem_of_find?_eq_some ok.conversation_eq)
  refine ⟨c, ok.conversation_eq, fun g hg => ?_⟩
  rw [← ok.cwd]
  exact hc.cwd_eq hg (List.mem_of_find?_eq_some ok.source_eq)

/-- A binding leaves the conversations of other workspaces alone. -/
theorem Binds.findConversation_eq {host : Host} {binding : BindingInput}
    (ids : (d.conversations.map (·.conversationId)).Nodup) (h : Binds host binding d d') {id : String} {c : Conversation}
    (hc : d.findConversation id = some c)
    (hcwd : ∀ g ∈ c.generations, g.canonicalCwd ≠ binding.canonicalCwd) :
    d'.findConversation id = some c := by
  have hid : c.conversationId = id := by simpa using List.find?_some hc
  obtain ⟨-, -, -, h⟩ := h
  cases h with
  | existing c' g hc' hg active cwd =>
    have hne : c'.conversationId ≠ id := by
      intro he
      obtain rfl : c' = c := List.inj_on_of_nodup_map ids (List.mem_of_find?_eq_some hc')
        (List.mem_of_find?_eq_some hc) (he.trans hid.symm)
      exact hcwd g (List.mem_of_find?_eq_some hg) cwd
    refine Eq.trans ?_ hc
    exact find?_updateFirst_of_not hc' (by simpa using hne) (by simpa using hne)
  | new boundAt now hnew =>
    change (d.conversations ++ _).find? _ = _
    rw [List.find?_append, show d.conversations.find? _ = some c from hc]
    rfl

/-- What a transition protects: its journal, and the conversation it works on. -/
structure Protected (t : HandoffTransition) (d d' : ConversationDocument) : Prop where
  activeTransition : d'.activeTransition = some t
  conversation : d'.findConversation t.conversationId = d.findConversation t.conversationId

/-- Only the operations of a transition change its journal or its conversation. -/
theorem Change.protected {host : Host} {op : Operation}
    (ids : (d.conversations.map (·.conversationId)).Nodup) (ht : d.activeTransition = some t) {c : Conversation}
    (hc : d.findConversation t.conversationId = some c)
    (hcwd : ∀ g ∈ c.generations, g.canonicalCwd = t.canonicalCwd)
    (h : Change host op d d') (other : op.transitionOf ≠ some t.transitionId) :
    Protected t d d' := by
  have binds : ∀ d₁ {d₂ binding}, d₁.activeTransition = d.activeTransition →
      d₁.conversations = d.conversations → Binds host binding d₁ d₂ → Protected t d d₂ := by
    intro d₁ d₂ binding hat hconv h
    have hc₁ : d₁.findConversation t.conversationId = some c := by
      rw [← hc]
      simp only [findConversation, hconv]
    refine ⟨h.activeTransition.trans (hat.trans ht), ?_⟩
    rw [h.findConversation_eq (hconv ▸ ids) hc₁ fun g hg he => ?_, hc]
    have free := h.free
    rw [transitioning, hat, ht, ← he, hcwd g hg] at free
    simp at free
  have own : ∀ {t'}, d.activeTransition = some t' → op.transitionOf ≠ some t'.transitionId := by
    intro t' ht'
    obtain rfl : t = t' := Option.some.inj (ht.symm.trans ht')
    exact other
  cases h with
  | launched | overlapped | started | captureFailed | marked | untracked =>
    exact ⟨by simpa using ht, by simp [findConversation]⟩
  | finished pending found h =>
    cases h with
    | marked => exact ⟨by simpa [dropPending] using ht, by simp [findConversation, dropPending]⟩
    | left => exact ⟨ht, rfl⟩
    | bound binding _ _ _ h => exact binds (d.dropPending _) rfl rfl h
  | adopted binding idle h => exact binds d rfl rfl h
  | refreshed binding current head h => exact binds d rfl rfl h
  | prepared c source recorded now h =>
    rw [h.idle] at ht
    cases ht
  | advanced t₁ t' active h => exact absurd (by cases h <;> rfl) (own active)
  | committed t₁ target c now h => exact absurd rfl (own h.active)
  | attached t₁ active phase => exact absurd rfl (own active)

/-! ## The law -/

/-- The calls that would take hold of a workspace: those that launch, bind or mark it, and those
that finish a launch which no other workspace has. -/
def Operation.claims (host : Host) (d : ConversationDocument) (cwd : String) : Operation → Prop
  | .beginLaunch _ path _ _ _ | .prepareUntracked _ path _ | .markWorkspaceAmbiguous path =>
    host.canonicalDirectory path = some cwd
  | .adopt binding | .refreshAdopted _ binding => binding.canonicalCwd = cwd
  | .finishLaunch launchId _ =>
    ∀ pending ∈ d.pendingLaunches, pending.launchId = launchId → pending.canonicalCwd = cwd
  | _ => False

variable [Sha256] {disk disk' : Disk}

/-- Every call that would take hold of the workspace of a transition is refused. -/
theorem refused_of_claims (hv : validateDocument disk.document = .ok ())
    (ht : disk.document.activeTransition = some t) (host : Host) (op : Operation)
    (h : op.claims host disk.document t.canonicalCwd) : Refused (op.run host) disk := by
  have busy : disk.document.transitioning t.canonicalCwd = true := by simp [transitioning, ht]
  have bound : ∀ {binding : BindingInput} {a d'}, binding.canonicalCwd = t.canonicalCwd →
      disk.document.bindDocument host binding ≠ .ok (a, d') := by
    intro binding a d' hcwd hb
    have free := (bindDocument_cases hb).free
    rw [hcwd, busy] at free
    cases free
  cases op with
  | beginLaunch profileId path mode codexVersion inventory =>
    refine .bind (.lift fun _ _ => .lift fun _ _ => .lift fun cwd hcwd => .lift fun _ _ =>
      .lift fun _ _ => .lift fun _ _ => .bind (.transact fun a d' hop => ?_))
    obtain rfl : t.canonicalCwd = cwd := by
      simpa [canonicalPathString, show host.canonicalDirectory path = _ from h] using hcwd
    simp [ConversationDocument.beginLaunch, ensureWorkspaceNotTransitioning, bind_eq_ok, busy] at hop
  | finishLaunch launchId resolution =>
    refine .bind (.lift fun _ _ => .transact fun a d' hop => ?_)
    obtain ⟨pending, found, -⟩ := finishLaunch_cases hop
    have hp := h pending (List.mem_of_find?_eq_some found) (by simpa using List.find?_some found)
    have idle := (head_of_transition hv ht).2
    rw [launching, List.any_eq_false] at idle
    exact idle pending (List.mem_of_find?_eq_some found) (by simpa using hp)
  | adopt binding =>
    refine .bind (.lift fun _ _ => .transact fun a d' hop => ?_)
    simp only [ConversationDocument.adopt, bind_eq_ok] at hop
    obtain ⟨_, -, _, -, hop⟩ := hop
    exact bound h hop
  | refreshAdopted expected binding =>
    refine .bind (.lift fun _ _ => .lift fun _ _ => .transact fun a d' hop => ?_)
    simp only [ConversationDocument.refreshAdopted, bind_eq_ok] at hop
    obtain ⟨_, -, _, -, hop⟩ := hop
    exact bound h hop
  | markWorkspaceAmbiguous path =>
    refine .lift fun cwd hcwd => .transact fun a d' hop => ?_
    obtain rfl : t.canonicalCwd = cwd := by
      simpa [canonicalPathString, show host.canonicalDirectory path = _ from h] using hcwd
    simp only [ConversationDocument.markWorkspaceAmbiguous, ensureWorkspaceNotTransitioning,
      bind_eq_ok, rejectIf_eq_ok] at hop
    obtain ⟨_, free, -⟩ := hop
    exact free busy
  | prepareUntracked profileId path mode =>
    refine .bind (.lift fun _ _ => .lift fun _ _ => .lift fun cwd hcwd => .lift fun _ _ =>
      .transact fun a d' hop => ?_)
    obtain rfl : t.canonicalCwd = cwd := by
      simpa [canonicalPathString, show host.canonicalDirectory path = _ from h] using hcwd
    simp [ConversationDocument.prepareUntracked, ensureWorkspaceNotTransitioning, bind_eq_ok,
      busy] at hop
  | markProviderStarted | markCaptureFailed | prepareHandoff | markSourceStopRequested
  | markSourceStopped | recordForkIntent | recordBoundedForkRetry | observeHandoffTarget
  | commitHandoff | finishHandoffAttachment => cases h

/-- The workspace of a transition is the same in two documents: its head, the conversation the head
names, and its pending launches. -/
structure SameWorkspace (t : HandoffTransition) (d d' : ConversationDocument) : Prop where
  activeTransition : d'.activeTransition = d.activeTransition
  head : d'.headOf t.canonicalCwd = d.headOf t.canonicalCwd
  conversation : d'.findConversation t.conversationId = d.findConversation t.conversationId
  launches : (d'.pendingLaunches.filter fun p => p.canonicalCwd = t.canonicalCwd) =
    d.pendingLaunches.filter fun p => p.canonicalCwd = t.canonicalCwd

theorem sameWorkspace_step (hr : Reachable disk) (ht : disk.document.activeTransition = some t)
    (host : Host) (op : Operation) (other : op.transitionOf ≠ some t.transitionId) :
    SameWorkspace t disk.document (op.step host disk).document := by
  have hv := hr.valid
  have step := document_step host op disk
  have hv' := (hr.step host op).valid
  generalize (op.step host disk).document = d' at step hv'
  cases step with
  | same => exact ⟨rfl, rfl, rfl, rfl⟩
  | published document edited body change =>
    obtain ⟨c, hc, hcwd⟩ := conversation_of_transition hv ht
    have hids := hr.contents.ids
    rw [← body.conversations] at hids
    have hc' : document.findConversation t.conversationId = some c := by
      rw [← hc, findConversation, body.conversations]
      rfl
    have prot := change.protected hids (body.activeTransition.trans ht) hc' hcwd other
    -- the journal is the same, and it determines the head and the launches
    obtain ⟨h1, h2⟩ := head_of_transition hv ht
    obtain ⟨h1', h2'⟩ := head_of_transition hv' prot.activeTransition
    refine ⟨prot.activeTransition.trans ht.symm, h1'.trans h1.symm, ?_, ?_⟩
    · exact prot.conversation.trans (hc'.trans hc.symm)
    · rw [launching, List.any_eq_false] at h2 h2'
      rw [List.filter_eq_nil_iff.2 h2', List.filter_eq_nil_iff.2 h2]

/-- A step that does not attach a handoff: it is another operation, or it has no effect. -/
def LeavesUnattached (transitionId : String) (disk : Disk) (host : Host) (op : Operation) : Prop :=
  op ≠ .finishHandoffAttachment transitionId ∨ op.step host disk = disk

/-- A handoff stays active until it is attached. -/
theorem transition_persists (ht : disk.document.activeTransition = some t)
    (r : RunOf (LeavesUnattached t.transitionId) disk disk') :
    ∃ t', disk'.document.activeTransition = some t' ∧ SameHandoff t t' := by
  induction r with
  | refl => exact ⟨t, ht, .refl t⟩
  | @step disk₁ host op hop _ ih =>
    obtain ⟨t', ht', same⟩ := ih
    obtain hop | hop := hop
    on_goal 2 => exact ⟨t', by rw [hop, ht'], same⟩
    have step := journal_step host op disk₁
    rw [ht'] at step
    generalize (op.step host disk₁).document.activeTransition = j at step
    cases step with
    | kept => exact ⟨t', rfl, same⟩
    | moved _ t'' own same' => exact ⟨t'', rfl, same.trans same'⟩
    | attached _ ha => exact absurd (same.transitionId ▸ ha) hop

/-- Workspaces are owned exclusively: in every reachable document a workspace has at most one
pending launch, and none while the active transition owns it. From any state of a handoff until it
is attached, only its own operations change its workspace, and every call that would take hold of
the workspace is refused without a trace. -/
theorem workspace_exclusion (hr : Reachable disk) :
    (disk.document.pendingLaunches.map (·.canonicalCwd)).Nodup ∧
    (∀ cwd, ¬ (disk.document.launching cwd = true ∧ disk.document.transitioning cwd = true)) ∧
    ∀ t, disk.document.activeTransition = some t → ∀ disk',
      RunOf (LeavesUnattached t.transitionId) disk disk' →
      ∃ t', disk'.document.activeTransition = some t' ∧ SameHandoff t t' ∧ ∀ (host : Host) (op : Operation),
        (op.transitionOf ≠ some t.transitionId →
          SameWorkspace t' disk'.document (op.step host disk').document) ∧
        (op.claims host disk'.document t.canonicalCwd → Refused (op.run host) disk') := by
  refine ⟨hr.contents.launchCwds, fun cwd ⟨hl, ht⟩ => ?_, fun t ht disk' r => ?_⟩
  · rw [launching_of_transitioning hr.valid ht] at hl
    cases hl
  · have hr' := hr.run r
    obtain ⟨t', ht', same⟩ := transition_persists ht r
    refine ⟨t', ht', same, fun host op => ⟨fun other => ?_, fun claims => ?_⟩⟩
    · exact sameWorkspace_step hr' ht' host op (same.transitionId ▸ other)
    · rw [← same.canonicalCwd] at claims
      exact refused_of_claims hr'.valid ht' host op claims

end

attribute [local instance] sampleSha256

/-- Between the preparation and the observation of the sample, its workspace cannot be adopted. -/
theorem workspace_exclusion_handoff :
    ∃ t, (sampleDisk 6).document.activeTransition = some t ∧ SameHandoff sampleTransition t ∧
      Refused ((Operation.adopt sampleBinding).run (sampleHost 12 1760000006)) (sampleDisk 6) := by
  have active : (sampleDisk 2).document.activeTransition = some sampleTransition := by
    rw [sampleDisk_eq.2.1]
    rfl
  have run : RunOf (LeavesUnattached sampleTransition.transitionId) (sampleDisk 2) (sampleDisk 6) := by
    refine sampleDisk_runOf 2 4 fun call hcall disk => Or.inl ?_
    simp only [sampleCalls, List.drop_succ_cons, List.drop_zero, List.take_succ_cons, List.take_zero,
      List.mem_cons, List.not_mem_nil, or_false] at hcall
    rcases hcall with rfl | rfl | rfl | rfl <;> exact Operation.noConfusion
  obtain ⟨t, ht, same, h⟩ := (workspace_exclusion (sampleDisk_reachable 2)).2.2 _ active _ run
  exact ⟨t, ht, same, (h _ _).2 rfl⟩

end Calcifer
