import Calcifer.Conversations.Handoff

/-!
# When an observed handoff can be committed

A handoff whose target has been observed has no way back: it is committed or its workspace stays
blocked. `commit_handoff_iff` gives the exact condition, in every state that the other users of the
registry can reach after the observation: the lineage has room for another generation, nobody else
has bound the target thread, and the registry has room.
-/

namespace Calcifer

open Checks Lists RegistryM ConversationDocument

section

variable {d : ConversationDocument} {t : HandoffTransition} {target : ObservedHandoffTarget}
variable {c : Conversation} {source : ConversationGeneration} {now : ℤ}

/-- A transition whose target is observed but not yet committed. -/
structure Observed (d : ConversationDocument) (t : HandoffTransition)
    (target : ObservedHandoffTarget) (c : Conversation) (source : ConversationGeneration) : Prop where
  active : d.activeTransition = some t
  phase : t.phase = .forkObserved
  target_eq : t.observedTarget = some target
  ok : TransitionOk d t c source

namespace Observed

theorem observedOk (h : Observed d t target c source) : ObservedOk t source target :=
  (observation_iff.1 h.ok.observation).2 target h.target_eq

theorem conversationOk (hd : Contents false d) (h : Observed d t target c source) :
    ConversationOk false c :=
  hd.conversations c (List.mem_of_find?_eq_some h.ok.conversation_eq)

theorem expectedActive (h : Observed d t target c source) : t.expectedActive = t.sourceGeneration := by
  rw [HandoffTransition.expectedActive, if_neg (by rw [h.phase]; decide)]

/-- The source is the tail of the lineage, and the target comes right after it. -/
theorem numbers (hd : Contents false d) (h : Observed d t target c source) :
    c.activeGeneration = t.sourceGeneration ∧ t.targetGeneration = c.generations.length := by
  have hcom := (commitment_iff.1 h.ok.commitment).1
  rw [h.expectedActive] at hcom
  have hactive := (h.conversationOk hd).activeGeneration_eq
  have htarget := h.ok.shape.target
  exact ⟨hcom, by omega⟩

/-- The lineage already has the trust domain of the transition. -/
theorem lineageTrustDomain (hd : Contents false d) (h : Observed d t target c source) :
    c.lineageTrustDomain = some t.trustDomainId :=
  (h.conversationOk hd).trustDomain_eq (List.mem_of_find?_eq_some h.ok.source_eq) h.ok.trust

/-- Every generation of the lineage carries handoff metadata. -/
theorem complete (hd : Contents false d) (h : Observed d t target c source)
    {i : ℕ} {g : ConversationGeneration} (hg : c.generations[i]? = some g) :
    g.trustDomainId ≠ none ∧ g.rollout ≠ none := by
  have hc := h.conversationOk hd
  by_cases hlen : 1 < c.generations.length
  · exact (hc.generations i g hg).complete rfl hlen
  · -- the only generation is the source, whose metadata the preparation recorded
    have hsource := h.ok.source_eq
    rw [hc.findGeneration_eq] at hsource
    have h1 := (List.getElem?_eq_some_iff.1 hg).1
    have h2 := (List.getElem?_eq_some_iff.1 hsource).1
    obtain rfl : i = t.sourceGeneration := by omega
    obtain rfl : g = source := Option.some.inj (hg.symm.trans hsource)
    rw [h.ok.trust, h.ok.rollout]
    simp

end Observed

/-! ## The committed lineage -/

/-- The committed generation takes its place at the end of the lineage. -/
theorem generationOk_target (hd : Contents false d) (h : Observed d t target c source) :
    GenerationOk false (commitGeneration t target c) t.targetGeneration
      (targetGeneration t target) := by
  have hc := h.conversationOk hd
  have obs := h.observedOk
  have htarget := obs.ok
  simp only [validateObservedTarget, check_bind_eq_ok, rejectIf_eq_ok, not_lt] at htarget
  obtain ⟨thread, path, version, adapter, rollout, boundAt⟩ := htarget
  have hhead : (c.generations ++ [targetGeneration t target]).head? = c.generations.head? :=
    List.head?_append_of_ne_nil _ hc.nonempty
  refine ⟨rfl, validateUuid_label h.ok.shape.targetProfileId _, validateUuid_label thread _, path,
    version, adapter, boundAt, ?_, ?_, fun _ _ => ⟨Option.some_ne_none _, Option.some_ne_none _⟩,
    nofun⟩
  · obtain ⟨j, hj⟩ := List.mem_iff_getElem?.1 (List.mem_of_find?_eq_some h.ok.source_eq)
    have hcwd := (hc.generations j source hj).cwd
    rw [h.ok.cwd, ← obs.cwd] at hcwd
    simp only [commitGeneration, hhead]
    exact hcwd
  · refine validateHandoffMetadata_iff.2 (Or.inr ⟨t.trustDomainId, target.rollout, rfl, rfl, rfl,
      h.ok.shape.trustDomainId, rollout, ?_⟩)
    have hl := h.lineageTrustDomain hd
    unfold Conversation.lineageTrustDomain at hl ⊢
    simp only [commitGeneration, List.findSome?_append, hl]
    rfl

/-- An earlier generation stays well formed in the committed lineage. -/
theorem generationOk_committed (hd : Contents false d) (h : Observed d t target c source)
    {i : ℕ} {g : ConversationGeneration} (hg : c.generations[i]? = some g) :
    GenerationOk false (commitGeneration t target c) i g := by
  have hc := h.conversationOk hd
  have ok := hc.generations i g hg
  have hhead : (c.generations ++ [targetGeneration t target]).head? = c.generations.head? :=
    List.head?_append_of_ne_nil _ hc.nonempty
  refine ⟨ok.number, ok.profile, ok.thread, ok.path, ok.version, ok.adapter, ok.boundAt, ?_, ?_,
    fun _ _ => h.complete hd hg, nofun⟩
  · simp only [commitGeneration, hhead]
    exact ok.cwd
  · obtain hn | ⟨t', r, ht', hr, hs, hu, hv, hl⟩ := validateHandoffMetadata_iff.1 ok.metadata
    · exact validateHandoffMetadata_iff.2 (Or.inl hn)
    · refine validateHandoffMetadata_iff.2 (Or.inr ⟨t', r, ht', hr, hs, hu, hv, ?_⟩)
      unfold Conversation.lineageTrustDomain at hl ⊢
      simp only [commitGeneration, List.findSome?_append, hl]
      rfl

theorem conversationOk_committed (hd : Contents false d) (h : Observed d t target c source)
    (room : c.generations.length < maxLineageGenerations) :
    ConversationOk false (commitGeneration t target c) := by
  have hc := h.conversationOk hd
  obtain ⟨-, htarget⟩ := h.numbers hd
  refine ⟨hc.id, hc.provider, by simp [commitGeneration], ?_, nofun, Or.inr (Or.inl rfl),
    ?_, fun i g hg => ?_⟩
  · simp only [commitGeneration, List.length_append, List.length_singleton]
    omega
  · simp [commitGeneration, targetGeneration]
  · simp only [commitGeneration] at hg
    obtain hi | hi := Nat.lt_or_ge i c.generations.length
    · rw [List.getElem?_append_left hi] at hg
      exact generationOk_committed hd h hg
    · rw [List.getElem?_append_right hi] at hg
      obtain ⟨hlt, hg⟩ := List.getElem?_eq_some_iff.1 hg
      simp only [List.length_singleton] at hlt
      obtain rfl : i = t.targetGeneration := by omega
      simp only [htarget, Nat.sub_self, List.getElem_singleton] at hg
      subst hg
      exact generationOk_target hd h

/-! ## The committed document -/

/-- The committed generation is found under its number. -/
theorem findGeneration_target (hd : Contents false d) (h : Observed d t target c source)
    (room : c.generations.length < maxLineageGenerations) :
    (commitGeneration t target c).findGeneration t.targetGeneration =
      some (targetGeneration t target) := by
  rw [(conversationOk_committed hd h room).findGeneration_eq, (h.numbers hd).2]
  simp [commitGeneration]

/-- The conversation of the transition is found in its committed form. -/
theorem findConversation_committed (h : Observed d t target c source) (provider : Provider) :
    (d.committed t target provider now).findConversation t.conversationId =
      some (commitGeneration t target c) := by
  refine Eq.trans (find?_updateFirst_self fun _ => rfl) ?_
  rw [show d.conversations.find? _ = some c from h.ok.conversation_eq]
  rfl

/-- Heads of other workspaces name other conversations and stay well formed. -/
theorem headOk_committed (hd : Contents false d) (h : Observed d t target c source)
    {head : WorkspaceHead} (ok : HeadOk d head)
    (hne : head.state = .ready → head.canonicalCwd ≠ t.canonicalCwd) (provider : Provider) :
    HeadOk (d.committed t target provider now) head := by
  refine ⟨ok.path, ?_⟩
  cases hs : head.state with
  | needsSelection =>
    have hst := ok.state
    unfold validateHeadState at hst ⊢
    rw [hs] at hst ⊢
    exact hst
  | ready =>
    obtain ⟨id, c₁, g, hid, hu, hn, hc₁, hg, hp, hcwd, hact⟩ := (validateHeadState_iff hs).1 ok.state
    refine (validateHeadState_iff hs).2 ⟨id, c₁, g, hid, hu, hn, ?_, hg, hp, hcwd, hact⟩
    have hother : c.conversationId ≠ id := by
      rintro rfl
      have hid' : c.conversationId = t.conversationId := by
        simpa using List.find?_some h.ok.conversation_eq
      rw [hid'] at hc₁
      obtain rfl : c = c₁ := Option.some.inj (h.ok.conversation_eq.symm.trans hc₁)
      have := (h.conversationOk hd).cwd_eq (List.mem_of_find?_eq_some hg)
        (List.mem_of_find?_eq_some h.ok.source_eq)
      exact hne hs (hcwd.symm.trans (this.trans h.ok.cwd))
    refine Eq.trans ?_ hc₁
    exact find?_updateFirst_of_not h.ok.conversation_eq (decide_eq_false hother)
      (decide_eq_false hother)

/-- The head of the workspace after the commit. -/
theorem headOk_target (hd : Contents false d) (h : Observed d t target c source)
    (room : c.generations.length < maxLineageGenerations) (provider : Provider) :
    HeadOk (d.committed t target provider now)
      { t.head with generation := some t.targetGeneration } := by
  refine ⟨h.ok.shape.path, ?_⟩
  have hc : (d.committed t target provider now).findConversation t.conversationId =
      some (commitGeneration t target c) := findConversation_committed h provider
  have hg := findGeneration_target hd h room
  exact (validateHeadState_iff rfl).2 ⟨_, _, targetGeneration t target, rfl,
    h.ok.shape.conversationId, rfl, hc, hg, (h.conversationOk hd).provider, h.observedOk.cwd, rfl⟩

/-- The contents of the committed document are well formed. -/
theorem contents_committed (hd : Contents false d) (h : Observed d t target c source)
    (hhead : d.headOf t.canonicalCwd = some t.head)
    (room : c.generations.length < maxLineageGenerations)
    (unbound : d.bound target.threadId = false) :
    Contents false (d.committed t target .codex now) where
  conversations := by
    intro c₁ hc₁
    obtain hold | ⟨c₂, hc₂, rfl⟩ := mem_updateFirst hc₁
    · exact hd.conversations c₁ hold
    · obtain rfl : c = c₂ := Option.some.inj (h.ok.conversation_eq.symm.trans hc₂)
      exact conversationOk_committed hd h room
  ids := by
    have := hd.ids
    rwa [← map_updateFirst (p := fun c => c.conversationId = t.conversationId)
      (f := commitGeneration t target) (fun _ => rfl)] at this
  threads := by
    refine nodup_flatMap_updateFirst (x := target.threadId) h.ok.conversation_eq ?_ hd.threads ?_
    · simp [commitGeneration, targetGeneration]
    · simpa [bound, List.mem_flatMap] using unbound
  heads := by
    intro head hmem
    obtain ⟨h₁, h₂, hsplit, hkey, -, hu⟩ := exists_split_of_find? hhead
    have hmem' : head ∈ h₁ ++ { t.head with generation := some t.targetGeneration } :: h₂ :=
      hu (fun head => { head with generation := some t.targetGeneration }) ▸ hmem
    -- a head before or after the one that moves has another key
    have other : head ∈ h₁ ∨ head ∈ h₂ → HeadOk (d.committed t target .codex now) head := by
      intro hm
      have hold : head ∈ d.workspaceHeads := by
        rw [hsplit]
        simp only [List.mem_append, List.mem_cons]
        tauto
      refine headOk_committed hd h (hd.heads head hold) (fun hs hcwd => ?_) _
      obtain ⟨c₁, hc₁, g, -, -, -, hp, -⟩ := (hd.heads head hold).ready hd.conversations hs
      have hkeys := hd.headKeys
      rw [hsplit, List.map_append, List.map_cons] at hkeys
      have hfresh := (List.nodup_cons.1 (List.perm_middle.nodup_iff.1 hkeys)).1
      refine hfresh ?_
      rw [← List.map_append, List.mem_map]
      refine ⟨head, List.mem_append.2 hm, ?_⟩
      rw [hp, (hd.conversations c₁ hc₁).provider, hcwd]
      rfl
    rw [List.mem_append, List.mem_cons] at hmem'
    obtain hm | rfl | hm := hmem'
    · exact other (Or.inl hm)
    · exact headOk_target hd h room _
    · exact other (Or.inr hm)
  headKeys := by
    have := hd.headKeys
    rwa [← map_updateFirst (p := fun head => head.provider = .codex ∧
        head.canonicalCwd = t.canonicalCwd)
      (f := fun head => { head with generation := some t.targetGeneration }) (fun _ => rfl)] at this
  pendings := hd.pendings
  launchIds := hd.launchIds
  launchCwds := hd.launchCwds

/-- The journal agrees with the lineage it has committed. -/
theorem transitionOk_committed (hd : Contents false d) (h : Observed d t target c source)
    (hhead : d.headOf t.canonicalCwd = some t.head) (free : d.launching t.canonicalCwd = false)
    (room : c.generations.length < maxLineageGenerations) (later : t.updatedAt ≤ now) :
    TransitionOk (d.committed t target .codex now)
      { t with phase := .committedUnattached, updatedAt := now }
      (commitGeneration t target c) source := by
  have obs := h.observedOk
  have shape := h.ok.shape
  have hprovider := (h.conversationOk hd).provider
  obtain ⟨requestedAt, hreq, hattempts, hprep, hup⟩ := shape.started (by rw [h.phase]; rfl)
  refine ⟨{ shape with
      updatedAt := shape.updatedAt.trans later
      started := fun _ => ⟨requestedAt, hreq, hattempts, hprep, hup.trans later⟩
      unstarted := nofun }, findConversation_committed h _, ?_, h.ok.profile, h.ok.cwd, h.ok.trust,
    h.ok.rollout, observation_iff.2 ⟨?_, fun target' ht' => ?_⟩, ?_, ?_⟩
  · unfold Conversation.findGeneration
    simp only [commitGeneration, List.find?_append]
    rw [show c.generations.find? _ = some source from h.ok.source_eq]
    rfl
  · simp [h.target_eq, HandoffPhase.observedRequired]
  · obtain rfl : target = target' := Option.some.inj (h.target_eq.symm.trans ht')
    exact { obs with updated := obs.updated.trans later }
  · refine commitment_iff.2 ⟨rfl, fun _ => ?_, fun hp => absurd rfl hp⟩
    exact ⟨target, targetGeneration t target, h.target_eq, findGeneration_target hd h room,
      rfl, rfl, rfl, rfl, rfl, rfl, rfl⟩
  · refine transitionWorkspace_iff.2 ⟨⟨{ t.head with generation := some t.targetGeneration }, ?_, rfl,
      rfl, rfl⟩, free⟩
    simp only [commitGeneration, hprovider]
    exact Eq.trans (find?_updateFirst_self fun _ => rfl) (congrArg (Option.map _) hhead)

theorem validV2_committed (hv : ValidV2 d) (h : Observed d t target c source)
    (room : c.generations.length < maxLineageGenerations)
    (unbound : d.bound target.threadId = false) (later : t.updatedAt ≤ now) :
    ValidV2 (d.committed t target .codex now) := by
  obtain ⟨hhead, free⟩ := head_of_transition (validateDocument_iff.2 (Or.inr hv)) h.active
  refine ⟨hv.schema, hv.backup, contents_committed hv.contents h hhead room unbound, fun t' ht' => ?_⟩
  cases ht'
  exact ⟨_, source, transitionOk_committed hv.contents h hhead free room later⟩

/-- The operation itself succeeds exactly when the target is unbound and the lineage has room. -/
theorem Observed.commitHandoff_iff (hv : ValidV2 d) (h : Observed d t target c source) {host : Host}
    (hnow : unixTimestamp host = .ok now) {d' : ConversationDocument} :
    (∃ head, d.commitHandoff host t.transitionId = .ok (head, d')) ↔
      c.generations.length < maxLineageGenerations ∧ d.bound target.threadId = false ∧
      d' = d.committed t target .codex now := by
  have hprovider := (h.conversationOk hv.contents).provider
  constructor
  · rintro ⟨head, hcommit⟩
    obtain ⟨t', target', c', now', -, hc, rfl⟩ := commitHandoff_cases hcommit
    obtain rfl : t = t' := Option.some.inj (h.active.symm.trans hc.active)
    obtain rfl : target = target' := Option.some.inj (h.target_eq.symm.trans hc.target_eq)
    obtain rfl : c = c' := Option.some.inj (h.ok.conversation_eq.symm.trans hc.conversation_eq)
    obtain rfl : now = now' := Except.ok.inj (hnow.symm.trans hc.now_eq)
    exact ⟨hc.room, hc.unbound, by rw [hprovider]⟩
  · rintro ⟨room, unbound, rfl⟩
    obtain ⟨hhead, -⟩ := head_of_transition (validateDocument_iff.2 (Or.inr hv)) h.active
    have ht : d.exactTransition t.transitionId .forkObserved = .ok t :=
      exactTransition_iff.2 ⟨h.active, rfl, h.phase⟩
    refine ⟨⟨t.conversationId, t.targetGeneration, t.targetProfileId, target.threadId,
      target.canonicalCwd, target.codexVersion, .interrupted⟩, ?_⟩
    simp only [ConversationDocument.commitHandoff, bind_eq_ok, okOr_eq_ok, rejectIf_eq_ok, pure_eq_ok]
    refine ⟨t, ht, target, h.target_eq, (), by simp [unbound], c, h.ok.conversation_eq, (), ?_,
      t.head, ?_, (), ?_, now, hnow, ?_⟩
    · have := (h.numbers hv.contents).1
      simp [this, room]
    · rw [hprovider]
      exact hhead
    · simp [HandoffTransition.head, h.expectedActive]
    · rw [hprovider]
      rfl

end

/-! ## Other users of the registry -/

/-- The thread an operation may bind to a conversation. -/
def Operation.bindsThread : Operation → Option String
  | .adopt binding | .refreshAdopted _ binding | .finishLaunch _ (.bind binding) =>
    some binding.threadId
  | _ => none

section

variable {host : Host} {op : Operation} {d d' : ConversationDocument} {threadId : String}
variable {t : HandoffTransition}

/-- Whether a thread is bound only depends on the threads of the document. -/
theorem bound_iff : d.bound threadId = true ↔ threadId ∈ d.threadIds := by
  simp [bound, threadIds]

theorem Binds.unbound {binding : BindingInput} (h : Binds host binding d d')
    (hne : binding.threadId ≠ threadId) (hu : threadId ∉ d.threadIds) : threadId ∉ d'.threadIds := by
  obtain ⟨-, -, -, h⟩ := h
  cases h with
  | existing c g hc hg =>
    -- only the lifecycle of a conversation changes
    have hthreads : ∀ c : Conversation,
        ({ c with lastSafeLifecycle := binding.lifecycle } : Conversation).generations.map
          (·.threadId) = c.generations.map (·.threadId) := fun _ => rfl
    simp only [threadIds, setReadyHead] at hu ⊢
    rwa [flatMap_updateFirst hthreads]
  | new boundAt now hc =>
    simp only [threadIds, setReadyHead, List.flatMap_append, List.mem_append, not_or] at hu ⊢
    refine ⟨hu, ?_⟩
    simpa [firstGeneration] using hne.symm

/-- While a transition is active, only an operation that binds a thread makes it bound. -/
theorem Change.unbound (h : Change host op d d') (ht : d.activeTransition = some t)
    (other : op.transitionOf ≠ some t.transitionId) (hb : op.bindsThread ≠ some threadId)
    (hu : threadId ∉ d.threadIds) : threadId ∉ d'.threadIds := by
  have bindsNe : ∀ {binding : BindingInput}, op.bindsThread = some binding.threadId →
      binding.threadId ≠ threadId := fun he hthread => hb (he.trans (congrArg some hthread))
  cases h with
  | launched | overlapped | started | captureFailed | marked | untracked | advanced | attached =>
    simpa [threadIds] using hu
  | finished pending found h =>
    cases h with
    | marked => simpa [threadIds, dropPending] using hu
    | left => exact hu
    | bound binding hr _ _ h =>
      subst hr
      exact h.unbound (bindsNe rfl) hu
  | adopted binding idle h => exact h.unbound (bindsNe rfl) hu
  | refreshed binding current head h => exact h.unbound (bindsNe rfl) hu
  | prepared c source recorded now h =>
    rw [h.idle] at ht
    cases ht
  | committed t' target c now h =>
    obtain rfl : t = t' := Option.some.inj (ht.symm.trans h.active)
    exact absurd rfl other

variable [Sha256] {disk disk' : Disk}

/-- Calls of other users of the registry keep the journal and the lineage of a transition. -/
theorem otherCalls_run (hr : Reachable disk) (ht : disk.document.activeTransition = some t)
    (r : RunOf (fun _ _ op => op.transitionOf ≠ some t.transitionId) disk disk') :
    disk'.document.activeTransition = some t ∧
      disk'.document.findConversation t.conversationId =
        disk.document.findConversation t.conversationId := by
  induction r with
  | refl => exact ⟨ht, rfl⟩
  | step host op hop r ih =>
    have same := sameWorkspace_step (hr.run r) ih.1 host op hop
    exact ⟨same.activeTransition.trans ih.1, same.conversation.trans ih.2⟩

/-- Calls that do not bind a thread leave it unbound. -/
theorem unbound_run (hr : Reachable disk) (ht : disk.document.activeTransition = some t)
    (hu : disk.document.bound threadId = false)
    (r : RunOf (fun _ _ op => op.transitionOf ≠ some t.transitionId ∧
      op.bindsThread ≠ some threadId) disk disk') :
    disk'.document.bound threadId = false := by
  have key : disk'.document.activeTransition = some t ∧ threadId ∉ disk'.document.threadIds := by
    induction r with
    | refl => exact ⟨ht, fun h => by rw [bound_iff.2 h] at hu; cases hu⟩
    | @step disk₁ host op hop r ih =>
      have same := sameWorkspace_step (hr.run r) ih.1 host op hop.1
      refine ⟨same.activeTransition.trans ih.1, ?_⟩
      have step := document_step host op disk₁
      generalize (op.step host disk₁).document = d' at step
      cases step with
      | same => exact ih.2
      | published document edited body change =>
        refine change.unbound (body.activeTransition.trans ih.1) hop.1 hop.2 ?_
        simpa only [threadIds, body.conversations] using ih.2
  exact Bool.eq_false_iff.2 fun h => key.2 (bound_iff.1 h)

/-- An observed handoff can be committed exactly when its lineage has room, its target is unbound
and the registry has room. -/
theorem Observed.succeeds_iff (hr : Reachable disk) {target : ObservedHandoffTarget}
    {c : Conversation} {source : ConversationGeneration} {now : ℤ}
    (h : Observed disk.document t target c source) (hf : host.fault = none)
    (hnow : unixTimestamp host = .ok now) (later : t.updatedAt ≤ now) :
    Succeeds (ConversationRegistry.commitHandoff host t.transitionId) disk ↔
      c.generations.length < maxLineageGenerations ∧
      disk.document.bound target.threadId = false ∧
      Fits (disk.document.committed t target .codex now) := by
  have hv : ValidV2 disk.document := by
    obtain hv | hv := validateDocument_iff.1 hr.valid
    · have := hv.transition
      rw [h.active] at this
      cases this
    · exact hv
  have hv2 : disk.document.schemaVersion ≠ schemaVersionV1 := by
    rw [hv.schema]
    decide
  rw [ConversationRegistry.commitHandoff, succeeds_lift_iff]
  simp only [h.ok.shape.transitionId, exists_const, true_and, transactV2_succeeds_iff hr hv2 hf]
  constructor
  · rintro ⟨head, edited, published, hop, hpub⟩
    obtain ⟨room, unbound, rfl⟩ := (h.commitHandoff_iff hv hnow).1 ⟨head, hop⟩
    have valid := validV2_committed hv h room unbound later
    exact ⟨room, unbound, valid.publish_iff.1 ⟨published, hpub⟩⟩
  · rintro ⟨room, unbound, hfits⟩
    have valid := validV2_committed hv h room unbound later
    obtain ⟨published, hpub⟩ := valid.publish_iff.2 hfits
    obtain ⟨head, hop⟩ := (h.commitHandoff_iff hv hnow).2 ⟨room, unbound, rfl⟩
    exact ⟨head, _, published, hop, hpub⟩

/-- After any calls of other users, an observed handoff can be committed exactly when its lineage had
room, its target is still unbound and the registry has room; and the target stays unbound as long as
no call binds it. -/
theorem commit_handoff_iff (hr : Reachable disk) {target : ObservedHandoffTarget}
    (ht : disk.document.activeTransition = some t) (hp : t.phase = .forkObserved)
    (htarget : t.observedTarget = some target)
    (r : RunOf (fun _ _ op => op.transitionOf ≠ some t.transitionId) disk disk')
    (hf : host.fault = none) {now : ℤ} (hnow : unixTimestamp host = .ok now)
    (later : t.updatedAt ≤ now) :
    ∃ c, disk.document.findConversation t.conversationId = some c ∧
      (Succeeds (ConversationRegistry.commitHandoff host t.transitionId) disk' ↔
        c.generations.length < maxLineageGenerations ∧
        disk'.document.bound target.threadId = false ∧
        Fits (disk'.document.committed t target .codex now)) ∧
      (disk.document.bound target.threadId = false →
        RunOf (fun _ _ op => op.transitionOf ≠ some t.transitionId ∧
          op.bindsThread ≠ some target.threadId) disk disk' →
        disk'.document.bound target.threadId = false) := by
  have hr' := hr.run r
  obtain ⟨ht', hconv⟩ := otherCalls_run hr ht r
  obtain ⟨c, source, ok⟩ := transition_of_valid hr'.valid ht'
  refine ⟨c, hconv.symm.trans ok.conversation_eq, ?_, fun hu r' => unbound_run hr ht hu r'⟩
  exact Observed.succeeds_iff hr' ⟨ht', hp, htarget, ok⟩ hf hnow later

end

/-! ### The commit of the sample -/

attribute [local instance] sampleSha256

/-- The journal of the sample once its target is observed. -/
def sampleObservedTransition : HandoffTransition := { sampleTransition with
  phase := .forkObserved
  targetBaselineThreadIds := [sampleId 6]
  forkAttempts := 1
  forkRequestedAt := some 1760000004
  observedTarget := some sampleObservedTarget
  updatedAt := 1760000005 }

theorem sampleDisk_observed : (sampleDisk 6).document = sampleObserved := by
  rw [sampleDisk_eq.2.2.2.1]
  rfl

theorem commit_handoff_sample :
    Succeeds (ConversationRegistry.commitHandoff (sampleHost 12 1760000006) (sampleId 11))
      (sampleDisk 6) := by
  have active : (sampleDisk 6).document.activeTransition = some sampleObservedTransition := by
    rw [sampleDisk_observed]
    rfl
  have working : (sampleHost 12 1760000006).fault = none := rfl
  obtain ⟨c, hc, hiff, -⟩ := commit_handoff_iff (sampleDisk_reachable 6) active rfl rfl (.refl _)
    working rfl (by decide)
  rw [sampleDisk_observed] at hc hiff
  obtain rfl : _ = c := Option.some.inj hc
  exact hiff.2 ⟨by decide, by decide +kernel, by decide, by decide +kernel⟩

/-- The target thread of the sample, adopted in another workspace. -/
def sampleOtherBinding : BindingInput where
  profileId := sampleId 2
  threadId := sampleId 4
  canonicalCwd := "/other"
  codexVersion := "0.144.4"
  lifecycle := .clean

/-- After that adoption. -/
def sampleTaken : ConversationDocument := { sampleObserved with
  revision := 7
  conversations := sampleObserved.conversations ++
    [{ conversationId := sampleId 14, provider := .codex,
       generations := [firstGeneration sampleOtherBinding 1760000006], activeGeneration := 0,
       lastSafeLifecycle := .clean }]
  workspaceHeads := sampleObserved.workspaceHeads ++
    [{ provider := .codex, canonicalCwd := "/other", state := .ready,
       conversationId := some (sampleId 14), generation := some 0 }] }

/-- The disk after that adoption. -/
def sampleTakenDisk : Disk :=
  (Operation.adopt sampleOtherBinding).step (sampleHost 14 1760000006) (sampleDisk 6)

theorem sampleTakenDisk_document : sampleTakenDisk.document = sampleTaken := by
  have hvalid : validateBindingInput sampleOtherBinding = .ok () := by decide +kernel
  have hload := (sampleDisk_reachable 6).load_eq
  rw [sampleDisk_observed] at hload
  have hop : sampleObserved.adopt (sampleHost 14 1760000006) sampleOtherBinding =
      .ok (⟨sampleId 14, 0, sampleId 2, sampleId 4, "/other", "0.144.4", .clean⟩,
        { sampleTaken with revision := 6 }) := by decide +kernel
  have hadopt : ConversationRegistry.adopt (sampleHost 14 1760000006) sampleOtherBinding
      (sampleDisk 6) = (.ok ⟨sampleId 14, 0, sampleId 2, sampleId 4, "/other", "0.144.4", .clean⟩,
        { sampleDisk 6 with registry := some sampleTaken }) := by
    rw [ConversationRegistry.adopt, lift_bind_apply, hvalid]
    exact transact_ok rfl hload hop rfl (by decide +kernel)
  rw [sampleTakenDisk, step_adopt hadopt]
  rfl

/-- Once another workspace has bound the target thread, the handoff can no longer be committed. -/
theorem commit_handoff_taken :
    Reachable (sampleDisk 6) ∧
    (sampleDisk 6).document.activeTransition = some sampleObservedTransition ∧
    sampleObservedTransition.phase = .forkObserved ∧
    RunOf (fun _ _ op => op.transitionOf ≠ some sampleObservedTransition.transitionId)
      (sampleDisk 6) sampleTakenDisk ∧
    ConversationRegistry.commitHandoff (sampleHost 12 1760000007)
        sampleObservedTransition.transitionId sampleTakenDisk =
      (.error (invalid "handoff target thread is already bound"), sampleTakenDisk) := by
  have hr : Reachable sampleTakenDisk := (sampleDisk_reachable 6).step _ _
  refine ⟨sampleDisk_reachable 6, ?_, rfl, (RunOf.refl _).step _ _ nofun, ?_⟩
  · rw [sampleDisk_observed]
    rfl
  · have hid : validateUuid sampleObservedTransition.transitionId "transition id" = .ok () := by
      decide +kernel
    have hload := hr.load_eq
    rw [sampleTakenDisk_document] at hload
    rw [ConversationRegistry.commitHandoff, lift_bind_apply, hid]
    exact transactV2_error rfl hload rfl (by decide +kernel)

end Calcifer
