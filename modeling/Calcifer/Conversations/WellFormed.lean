import Calcifer.Conversations.Operations

/-!
# Well-formed documents

The validators of a document say exactly that it is well formed: its conversations are ordered
lineages with distinct ids and globally distinct threads, its heads and pending launches are one a
workspace, every ready head names the tail of a lineage of its own workspace, and an active
transition agrees with the lineage it works on. `contents_iff`, `activeTransition_iff` and
`validateDocument_iff` translate the loops of the validators into these statements, in both
directions: the forward one gives the invariants of the registry, the backward one shows that an
operation's result is accepted.
-/

namespace Calcifer

open Checks Lists

/-- All thread ids of a document. -/
def ConversationDocument.threadIds (d : ConversationDocument) : List String :=
  d.conversations.flatMap fun c => c.generations.map (·.threadId)

/-- A generation in its place in a lineage. -/
structure GenerationOk (schemaV1 : Bool) (c : Conversation) (i : ℕ) (g : ConversationGeneration) :
    Prop where
  number : g.generation = i
  profile : validateUuid g.profileId "profile id" = .ok ()
  thread : validateUuid g.threadId "thread id" = .ok ()
  path : validateStoredPath g.canonicalCwd = .ok ()
  version : validateCodexVersion g.codexVersion = .ok ()
  adapter : validateAdapterVersion g.adapterVersion = .ok ()
  boundAt : 0 ≤ g.boundAt
  cwd : c.generations.head?.map (·.canonicalCwd) = some g.canonicalCwd
  metadata : validateHandoffMetadata schemaV1 c g = .ok ()
  complete : schemaV1 = false → 1 < c.generations.length → g.trustDomainId ≠ none ∧ g.rollout ≠ none
  bare : schemaV1 = true → g.trustDomainId = none ∧ g.rollout = none

/-- A conversation whose generations form an ordered lineage. -/
structure ConversationOk (schemaV1 : Bool) (c : Conversation) : Prop where
  id : validateUuid c.conversationId "conversation id" = .ok ()
  provider : c.provider = .codex
  nonempty : c.generations ≠ []
  bounded : c.generations.length ≤ maxLineageGenerations
  single : schemaV1 = true → c.generations.length = 1 ∧ c.activeGeneration = 0
  lifecycle : c.lastSafeLifecycle = .clean ∨ c.lastSafeLifecycle = .interrupted ∨
    c.lastSafeLifecycle = .unknownCrash
  tail : c.generations.getLast?.map (·.generation) = some c.activeGeneration
  generations : ∀ i g, c.generations[i]? = some g → GenerationOk schemaV1 c i g

/-- A head on its own. -/
structure HeadOk (d : ConversationDocument) (head : WorkspaceHead) : Prop where
  path : validateStoredPath head.canonicalCwd = .ok ()
  state : validateHeadState d head = .ok ()

/-- A pending launch on its own. -/
structure PendingOk (p : PendingLaunch) : Prop where
  launch : validateUuid p.launchId "launch id" = .ok ()
  profile : validateUuid p.profileId "profile id" = .ok ()
  path : validateStoredPath p.canonicalCwd = .ok ()
  adapter : validateAdapterVersion p.adapterVersion = .ok ()
  startedAt : 0 ≤ p.startedAt
  bounded : p.preInventory.length ≤ maxInventoryThreads
  capture : validateCapture p = .ok ()
  inventory : normalizeInventory p.preInventory = .ok p.preInventory

/-- The conversations, heads and pending launches of a well-formed document. -/
structure Contents (schemaV1 : Bool) (d : ConversationDocument) : Prop where
  conversations : ∀ c ∈ d.conversations, ConversationOk schemaV1 c
  ids : (d.conversations.map (·.conversationId)).Nodup
  threads : d.threadIds.Nodup
  heads : ∀ head ∈ d.workspaceHeads, HeadOk d head
  headKeys : (d.workspaceHeads.map fun head => (head.provider, head.canonicalCwd)).Nodup
  pendings : ∀ p ∈ d.pendingLaunches, PendingOk p
  launchIds : (d.pendingLaunches.map (·.launchId)).Nodup
  launchCwds : (d.pendingLaunches.map (·.canonicalCwd)).Nodup

/-! ## Conversations -/

theorem generationOfIndex_eq {i : ℕ} (h : i ≤ maxLineageGenerations) : generationOfIndex i = i := by
  unfold generationOfIndex
  rw [if_pos (lt_of_le_of_lt h (by decide))]

theorem validateGeneration_iff {schemaV1 : Bool} {c : Conversation} {i : ℕ}
    {g : ConversationGeneration} (hi : i ≤ maxLineageGenerations) :
    validateGeneration schemaV1 c i g = .ok () ↔ GenerationOk schemaV1 c i g := by
  simp only [validateGeneration, bind_eq_ok, rejectIf_eq_ok, Decidable.not_not,
    generationOfIndex_eq hi, not_lt, not_and, not_or, Bool.not_eq_true, gt_iff_lt]
  constructor
  · rintro ⟨_, number, _, profile, _, thread, _, path, _, version, _, adapter, _, boundAt, _, cwd, _,
      metadata, _, complete, bare⟩
    exact ⟨number, profile, thread, path, version, adapter, boundAt, cwd, metadata, complete, bare⟩
  · rintro ⟨number, profile, thread, path, version, adapter, boundAt, cwd, metadata, complete, bare⟩
    exact ⟨(), number, (), profile, (), thread, (), path, (), version, (), adapter, (), boundAt, (),
      cwd, (), metadata, (), complete, bare⟩

/-- A generation carries no handoff metadata, or all of it with the trust domain of its lineage. -/
theorem validateHandoffMetadata_iff {schemaV1 : Bool} {c : Conversation}
    {g : ConversationGeneration} :
    validateHandoffMetadata schemaV1 c g = .ok () ↔
      (g.trustDomainId = none ∧ g.rollout = none) ∨
      ∃ t r, g.trustDomainId = some t ∧ g.rollout = some r ∧ schemaV1 = false ∧
        validateUuid t "trust domain id" = .ok () ∧ validateRollout r = .ok () ∧
        c.lineageTrustDomain = some t := by
  unfold validateHandoffMetadata
  cases g.trustDomainId with
  | none => cases g.rollout <;> simp
  | some t =>
    cases g.rollout with
    | none => simp
    | some r => cases schemaV1 <;> simp [check_bind_eq_ok]

/-- A conversation at index `i` passes exactly when it is well formed on its own, its id differs
from the earlier ones, and so do its threads from the earlier ones of the document and its own. -/
theorem validateConversation_iff {d : ConversationDocument} {schemaV1 : Bool} {i : ℕ}
    {c : Conversation} :
    validateConversation d schemaV1 i c = .ok () ↔
      ConversationOk schemaV1 c ∧
      (∀ c' ∈ d.conversations.take i, ¬ c'.conversationId = c.conversationId) ∧
      (∀ c' ∈ d.conversations.take i, ∀ g' ∈ c'.generations, ∀ g ∈ c.generations,
        ¬ g'.threadId = g.threadId) ∧
      (c.generations.map (·.threadId)).Nodup := by
  simp only [validateConversation, bind_eq_ok, rejectIf_eq_ok, Decidable.not_not, not_or,
    forEach_eq_ok, List.any_eq_true, List.mem_flatMap, decide_eq_true_eq, not_exists, not_and,
    forall_exists_index, and_imp]
  constructor
  · rintro ⟨_, id, _, ⟨provider, nonempty, bounded, single⟩, _, lifecycle, _, tail, _, gens, _, ids,
      threads⟩
    have hlen : c.generations.length ≤ maxLineageGenerations := by omega
    have ok : ∀ i g, c.generations[i]? = some g → GenerationOk schemaV1 c i g := fun i g hg =>
      (validateGeneration_iff (le_trans (List.getElem?_eq_some_iff.1 hg).1.le hlen)).1 (gens i g hg)
    simp only [← Decidable.or_iff_not_imp_left] at lifecycle
    refine ⟨⟨id, provider, nonempty, hlen, fun h => ?_, lifecycle, tail, ok⟩, ids, ?_, ?_⟩
    · simpa [h] using single
    · intro c' hc' g' hg' g hg
      obtain ⟨j, hj⟩ := List.mem_iff_getElem?.1 hg
      exact (threads j g hj).1 g' c' hc' hg'
    · rw [← pairwise_ne_iff_nodup_map, ← forall_take_iff_pairwise]
      intro j g hj b hb
      have := (threads j g hj).2 b
      rw [(ok j g hj).number] at this
      exact this hb
  · rintro ⟨⟨id, provider, nonempty, bounded, single, lifecycle, tail, ok⟩, ids, others, own⟩
    rw [← pairwise_ne_iff_nodup_map, ← forall_take_iff_pairwise] at own
    simp only [Decidable.or_iff_not_imp_left] at lifecycle
    refine ⟨(), id, (), ⟨provider, nonempty, by omega, fun h => ?_⟩, (), lifecycle, (), tail, (),
      fun i g hg => ?_, (), ids, fun j g hj => ⟨fun g' c' hc' hg' =>
        others c' hc' g' hg' g (List.mem_of_getElem? hj), fun b hb => ?_⟩⟩
    · simpa using single h
    · exact (validateGeneration_iff
        (le_trans (List.getElem?_eq_some_iff.1 hg).1.le bounded)).2 (ok i g hg)
    · rw [(ok j g hj).number] at hb
      exact own j g hj b hb

/-! ## Heads and pending launches -/

/-- A ready head passes exactly when it names the active generation of a lineage of its own
workspace. -/
theorem validateHeadState_iff {d : ConversationDocument} {head : WorkspaceHead}
    (hs : head.state = .ready) :
    validateHeadState d head = .ok () ↔ ∃ id c g, head.conversationId = some id ∧
      validateUuid id "conversation id" = .ok () ∧ head.generation = some g.generation ∧
      d.findConversation id = some c ∧ c.findGeneration g.generation = some g ∧
      c.provider = head.provider ∧ g.canonicalCwd = head.canonicalCwd ∧
      g.generation = c.activeGeneration := by
  simp only [validateHeadState, hs, bind_eq_ok, okOr_eq_ok, rejectIf_eq_ok, not_or,
    Decidable.not_not]
  constructor
  · rintro ⟨id, hid, _, hu, n, hn, c, hc, g, hg, hp, hcwd, hact⟩
    obtain rfl : g.generation = n := by simpa using List.find?_some hg
    exact ⟨id, c, g, hid, hu, hn, hc, hg, hp, hcwd, hact⟩
  · rintro ⟨id, c, g, hid, hu, hn, hc, hg, hp, hcwd, hact⟩
    exact ⟨id, hid, (), hu, _, hn, c, hc, g, hg, hp, hcwd, hact⟩

theorem validateHead_iff {d : ConversationDocument} {i : ℕ} {head : WorkspaceHead} :
    validateHead d i head = .ok () ↔ HeadOk d head ∧ ∀ head' ∈ d.workspaceHeads.take i,
      ¬ (head'.provider, head'.canonicalCwd) = (head.provider, head.canonicalCwd) := by
  simp only [validateHead, bind_eq_ok, rejectIf_eq_ok, List.any_eq_true, decide_eq_true_eq,
    not_exists, not_and, Prod.mk.injEq]
  constructor
  · rintro ⟨_, path, _, keys, state⟩
    exact ⟨⟨path, state⟩, keys⟩
  · rintro ⟨⟨path, state⟩, keys⟩
    exact ⟨(), path, (), keys, state⟩

theorem validatePending_iff {d : ConversationDocument} {i : ℕ} {p : PendingLaunch} :
    validatePending d i p = .ok () ↔ PendingOk p ∧
      (∀ p' ∈ d.pendingLaunches.take i, ¬ p'.launchId = p.launchId) ∧
      ∀ p' ∈ d.pendingLaunches.take i, ¬ p'.canonicalCwd = p.canonicalCwd := by
  simp only [validatePending, bind_eq_ok, rejectIf_eq_ok, List.any_eq_true, decide_eq_true_eq,
    not_exists, not_and, not_or, not_lt, gt_iff_lt, Decidable.not_not]
  constructor
  · rintro ⟨_, launch, _, profile, _, path, _, adapter, _, ⟨startedAt, bounded⟩, _, capture,
      inventory, hn, _, rfl, keys⟩
    exact ⟨⟨launch, profile, path, adapter, startedAt, bounded, capture, hn⟩,
      fun p' hp' => (keys p' hp').1, fun p' hp' => (keys p' hp').2⟩
  · rintro ⟨⟨launch, profile, path, adapter, startedAt, bounded, capture, hn⟩, ids, cwds⟩
    exact ⟨(), launch, (), profile, (), path, (), adapter, (), ⟨startedAt, bounded⟩, (), capture,
      p.preInventory, hn, (), rfl, fun p' hp' => ⟨ids p' hp', cwds p' hp'⟩⟩

/-! ## Documents -/

/-- The loop over the conversations is a statement about each and about each pair. -/
theorem conversations_iff {d : ConversationDocument} {schemaV1 : Bool} :
    forEach d.conversations (validateConversation d schemaV1) = .ok () ↔
      (∀ c ∈ d.conversations, ConversationOk schemaV1 c) ∧
      (d.conversations.map (·.conversationId)).Nodup ∧ d.threadIds.Nodup := by
  rw [forEach_eq_ok, ConversationDocument.threadIds, List.nodup_flatMap,
    ← pairwise_ne_iff_nodup_map, ← forall_take_iff_pairwise, ← forall_take_iff_pairwise]
  simp only [validateConversation_iff]
  constructor
  · intro h
    refine ⟨fun c hc => ?_, fun i c hc => (h i c hc).2.1, fun c hc => ?_, fun i c hc c' hc' => ?_⟩
    · obtain ⟨i, hi⟩ := List.mem_iff_getElem?.1 hc
      exact (h i c hi).1
    · obtain ⟨i, hi⟩ := List.mem_iff_getElem?.1 hc
      exact (h i c hi).2.2.2
    · simp only [Function.onFun, List.Disjoint, List.mem_map]
      rintro _ ⟨g', hg', rfl⟩ ⟨g, hg, e⟩
      exact (h i c hc).2.2.1 c' hc' g' hg' g hg e.symm
  · rintro ⟨ok, ids, own, others⟩ i c hc
    refine ⟨ok c (List.mem_of_getElem? hc), ids i c hc, fun c' hc' g' hg' g hg e => ?_,
      own c (List.mem_of_getElem? hc)⟩
    exact others i c hc c' hc' (List.mem_map.2 ⟨g', hg', rfl⟩) (List.mem_map.2 ⟨g, hg, e.symm⟩)

theorem heads_iff {d : ConversationDocument} :
    forEach d.workspaceHeads (validateHead d) = .ok () ↔ (∀ head ∈ d.workspaceHeads, HeadOk d head) ∧
      (d.workspaceHeads.map fun head => (head.provider, head.canonicalCwd)).Nodup := by
  rw [forEach_eq_ok, ← pairwise_ne_iff_nodup_map, ← forall_take_iff_pairwise]
  simp only [validateHead_iff]
  constructor
  · intro h
    refine ⟨fun head hh => ?_, fun i head hi => (h i head hi).2⟩
    obtain ⟨i, hi⟩ := List.mem_iff_getElem?.1 hh
    exact (h i head hi).1
  · rintro ⟨ok, keys⟩ i head hi
    exact ⟨ok head (List.mem_of_getElem? hi), keys i head hi⟩

theorem pendings_iff {d : ConversationDocument} :
    forEach d.pendingLaunches (validatePending d) = .ok () ↔
      (∀ p ∈ d.pendingLaunches, PendingOk p) ∧ (d.pendingLaunches.map (·.launchId)).Nodup ∧
      (d.pendingLaunches.map (·.canonicalCwd)).Nodup := by
  rw [forEach_eq_ok, ← pairwise_ne_iff_nodup_map, ← pairwise_ne_iff_nodup_map,
    ← forall_take_iff_pairwise, ← forall_take_iff_pairwise]
  simp only [validatePending_iff]
  constructor
  · intro h
    refine ⟨fun p hp => ?_, fun i p hi => (h i p hi).2.1, fun i p hi => (h i p hi).2.2⟩
    obtain ⟨i, hi⟩ := List.mem_iff_getElem?.1 hp
    exact (h i p hi).1
  · rintro ⟨ok, ids, cwds⟩ i p hi
    exact ⟨ok p (List.mem_of_getElem? hi), ids i p hi, cwds i p hi⟩

/-- The contents of a document pass exactly when they are well formed. -/
theorem contents_iff {d : ConversationDocument} {schemaV1 : Bool} :
    validateDocumentContents d schemaV1 = .ok () ↔ Contents schemaV1 d := by
  simp only [validateDocumentContents, bind_eq_ok]
  constructor
  · rintro ⟨_, hc, _, hh, hp⟩
    obtain ⟨c1, c2, c3⟩ := conversations_iff.1 hc
    obtain ⟨h1, h2⟩ := heads_iff.1 hh
    obtain ⟨p1, p2, p3⟩ := pendings_iff.1 hp
    exact ⟨c1, c2, c3, h1, h2, p1, p2, p3⟩
  · rintro ⟨c1, c2, c3, h1, h2, p1, p2, p3⟩
    exact ⟨(), conversations_iff.2 ⟨c1, c2, c3⟩, (), heads_iff.2 ⟨h1, h2⟩,
      pendings_iff.2 ⟨p1, p2, p3⟩⟩

/-! ## The active transition -/

/-- A transition on its own. -/
structure ShapeOk (t : HandoffTransition) : Prop where
  transitionId : validateUuid t.transitionId "transition id" = .ok ()
  conversationId : validateUuid t.conversationId "conversation id" = .ok ()
  sourceProfileId : validateUuid t.sourceProfileId "source profile id" = .ok ()
  targetProfileId : validateUuid t.targetProfileId "target profile id" = .ok ()
  trustDomainId : validateUuid t.trustDomainId "trust domain id" = .ok ()
  path : validateStoredPath t.canonicalCwd = .ok ()
  rollout : validateRollout t.sourceRollout = .ok ()
  bounded : t.sourceGeneration + 1 < 2 ^ 32
  different : t.sourceProfileId ≠ t.targetProfileId
  target : t.targetGeneration = t.sourceGeneration + 1
  preparedAt : 0 ≤ t.preparedAt
  updatedAt : t.preparedAt ≤ t.updatedAt
  baseline : validateThreadBaseline t.targetBaselineThreadIds = .ok ()
  started : t.phase.forkStarted = true → ∃ requestedAt, t.forkRequestedAt = some requestedAt ∧
    (1 ≤ t.forkAttempts ∧ t.forkAttempts ≤ 2) ∧ t.preparedAt ≤ requestedAt ∧
    requestedAt ≤ t.updatedAt
  unstarted : t.phase.forkStarted = false →
    t.forkAttempts = 0 ∧ t.forkRequestedAt = none ∧ t.targetBaselineThreadIds = []

theorem shape_iff {t : HandoffTransition} : validateTransitionShape t = .ok () ↔ ShapeOk t := by
  simp only [validateTransitionShape, check_bind_eq_ok, rejectIf_eq_ok, not_or, not_and, not_lt,
    Decidable.not_not]
  constructor
  · rintro ⟨h1, h2, h3, h4, h5, h6, h7, bounded, ⟨different, target, hp, hu⟩, baseline, fork⟩
    refine ⟨h1, h2, h3, h4, h5, h6, h7, not_le.1 (bounded different), different, target, hp, hu,
      baseline, fun hs => ?_, fun hs => ?_⟩
    · simpa [hs, bind_eq_ok, okOr_eq_ok] using fork
    · simpa [hs] using fork
  · rintro ⟨h1, h2, h3, h4, h5, h6, h7, bounded, different, target, hp, hu, baseline, started,
      unstarted⟩
    refine ⟨h1, h2, h3, h4, h5, h6, h7, fun _ => not_le.2 bounded, ⟨different, target, hp, hu⟩, baseline,
      ?_⟩
    cases hs : t.phase.forkStarted with
    | true => simpa [bind_eq_ok, okOr_eq_ok] using started hs
    | false => simpa using unstarted hs

/-- An observed target against the transition and its source. -/
structure ObservedOk (t : HandoffTransition) (source : ConversationGeneration)
    (target : ObservedHandoffTarget) : Prop where
  ok : validateObservedTarget target = .ok ()
  cwd : target.canonicalCwd = t.canonicalCwd
  thread : target.threadId ≠ source.threadId
  file : sameRolloutFile target.rollout t.sourceRollout = false
  prepared : t.preparedAt ≤ target.observedAt
  requested : ∀ requestedAt, t.forkRequestedAt = some requestedAt → requestedAt ≤ target.observedAt
  updated : target.observedAt ≤ t.updatedAt

theorem observation_iff {t : HandoffTransition} {source : ConversationGeneration} :
    validateObservation t source = .ok () ↔
      t.observedTarget.isSome = t.phase.observedRequired ∧
      ∀ target, t.observedTarget = some target → ObservedOk t source target := by
  simp only [validateObservation, check_bind_eq_ok, rejectIf_eq_ok, Decidable.not_not]
  refine and_congr_right fun _ => ?_
  cases t.observedTarget with
  | none => simp
  | some target =>
    simp only [check_bind_eq_ok, rejectIf_eq_ok, not_or, Decidable.not_not, not_lt,
      Option.some.injEq, forall_eq', Bool.not_eq_true]
    constructor
    · rintro ⟨ok, cwd, thread, file, prepared, requested, updated⟩
      refine ⟨ok, cwd, thread, file, prepared, fun requestedAt hr => ?_, updated⟩
      rw [hr] at requested
      simpa using requested
    · rintro ⟨ok, cwd, thread, file, prepared, requested, updated⟩
      refine ⟨ok, cwd, thread, file, prepared, ?_, updated⟩
      cases hr : t.forkRequestedAt with
      | none => rfl
      | some requestedAt => simpa using requested requestedAt hr

/-- The generation a committed transition left in its lineage. -/
structure CommittedOk (t : HandoffTransition) (target : ObservedHandoffTarget)
    (g : ConversationGeneration) : Prop where
  profile : g.profileId = t.targetProfileId
  thread : g.threadId = target.threadId
  cwd : g.canonicalCwd = target.canonicalCwd
  version : g.codexVersion = target.codexVersion
  adapter : g.adapterVersion = target.adapterVersion
  trust : g.trustDomainId = some t.trustDomainId
  rollout : g.rollout = some target.rollout

theorem commitment_iff {t : HandoffTransition} {c : Conversation} :
    validateCommitment t c = .ok () ↔ c.activeGeneration = t.expectedActive ∧
      (t.phase = .committedUnattached → ∃ target g, t.observedTarget = some target ∧
        c.findGeneration t.targetGeneration = some g ∧ CommittedOk t target g) ∧
      (t.phase ≠ .committedUnattached →
        ∀ g ∈ c.generations, g.generation ≠ t.targetGeneration) := by
  simp only [validateCommitment, check_bind_eq_ok, rejectIf_eq_ok, Decidable.not_not]
  refine and_congr_right fun _ => ?_
  by_cases hp : t.phase = .committedUnattached
  · simp only [hp, if_true, bind_eq_ok, okOr_eq_ok, rejectIf_eq_ok, not_or, Decidable.not_not,
      true_imp_iff, ne_eq, not_true, false_imp_iff, and_true]
    constructor
    · rintro ⟨target, ht, g, hg, h1, h2, h3, h4, h5, h6, h7⟩
      exact ⟨target, g, ht, hg, h1, h2, h3, h4, h5, h6, h7⟩
    · rintro ⟨target, g, ht, hg, h1, h2, h3, h4, h5, h6, h7⟩
      exact ⟨target, ht, g, hg, h1, h2, h3, h4, h5, h6, h7⟩
  · simp [hp]

theorem transitionWorkspace_iff {d : ConversationDocument} {t : HandoffTransition}
    {c : Conversation} :
    validateTransitionWorkspace d t c = .ok () ↔
      (∃ head, (d.workspaceHeads.find? fun head =>
          head.provider = c.provider ∧ head.canonicalCwd = t.canonicalCwd) = some head ∧
        head.state = .ready ∧ head.conversationId = some t.conversationId ∧
        head.generation = some t.expectedActive) ∧ d.launching t.canonicalCwd = false := by
  simp only [validateTransitionWorkspace, bind_eq_ok, okOr_eq_ok, rejectIf_eq_ok, not_or,
    Decidable.not_not, Bool.not_eq_true]
  constructor
  · rintro ⟨head, hf, _, hh, hl⟩
    exact ⟨⟨head, hf, hh⟩, hl⟩
  · rintro ⟨⟨head, hf, hh⟩, hl⟩
    exact ⟨head, hf, (), hh, hl⟩

/-- An active transition against the lineage, the head and the launches of its workspace. -/
structure TransitionOk (d : ConversationDocument) (t : HandoffTransition) (c : Conversation)
    (source : ConversationGeneration) : Prop where
  shape : ShapeOk t
  conversation_eq : d.findConversation t.conversationId = some c
  source_eq : c.findGeneration t.sourceGeneration = some source
  profile : source.profileId = t.sourceProfileId
  cwd : source.canonicalCwd = t.canonicalCwd
  trust : source.trustDomainId = some t.trustDomainId
  rollout : source.rollout = some t.sourceRollout
  observation : validateObservation t source = .ok ()
  commitment : validateCommitment t c = .ok ()
  workspace : validateTransitionWorkspace d t c = .ok ()

theorem activeTransition_iff {d : ConversationDocument} :
    validateActiveTransition d = .ok () ↔
      ∀ t, d.activeTransition = some t → ∃ c source, TransitionOk d t c source := by
  unfold validateActiveTransition
  cases ht : d.activeTransition with
  | none => simp
  | some t =>
    simp only [bind_eq_ok, okOr_eq_ok, rejectIf_eq_ok, not_or, Decidable.not_not,
      Option.some.injEq]
    constructor
    · rintro ⟨_, shape, c, hc, source, hs, _, ⟨profile, cwd, trust, rollout⟩, _, obs, _, com, work⟩ _ rfl
      exact ⟨c, source, shape_iff.1 shape, hc, hs, profile, cwd, trust, rollout, obs, com, work⟩
    · intro h
      obtain ⟨c, source, shape, hc, hs, profile, cwd, trust, rollout, obs, com, work⟩ := h t rfl
      exact ⟨(), shape_iff.2 shape, c, hc, source, hs, (), ⟨profile, cwd, trust, rollout⟩, (), obs, (),
        com, work⟩

/-- A well-formed document of the first schema. -/
structure ValidV1 (d : ConversationDocument) : Prop where
  schema : d.schemaVersion = schemaVersionV1
  backup : d.preMigrationBackup = none
  transition : d.activeTransition = none
  contents : Contents true d

/-- A well-formed document of the second schema. -/
structure ValidV2 (d : ConversationDocument) : Prop where
  schema : d.schemaVersion = schemaVersionV2
  backup : ∃ b, d.preMigrationBackup = some b ∧ b.schemaVersion = schemaVersionV1 ∧
    b.revision ≤ d.revision ∧ isSha256Hex b.sha256 = true
  contents : Contents false d
  transition : ∀ t, d.activeTransition = some t → ∃ c source, TransitionOk d t c source

theorem validateV1Document_iff {d : ConversationDocument} :
    validateV1Document d = .ok () ↔ ValidV1 d := by
  simp only [validateV1Document, bind_eq_ok, rejectIf_eq_ok, not_or, Decidable.not_not, contents_iff]
  constructor
  · rintro ⟨_, ⟨schema, backup, transition⟩, contents⟩
    exact ⟨schema, backup, transition, contents⟩
  · rintro ⟨schema, backup, transition, contents⟩
    exact ⟨(), ⟨schema, backup, transition⟩, contents⟩

theorem validateV2Document_iff {d : ConversationDocument} :
    validateV2Document d = .ok () ↔ ValidV2 d := by
  simp only [validateV2Document, bind_eq_ok, rejectIf_eq_ok, not_or, Decidable.not_not, okOr_eq_ok,
    activeTransition_iff, not_lt, gt_iff_lt]
  constructor
  · rintro ⟨_, schema, b, hb, _, ⟨h1, h2, h3⟩, _, contents, transition⟩
    exact ⟨schema, ⟨b, hb, h1, h2, h3⟩, contents_iff.1 contents, transition⟩
  · rintro ⟨schema, ⟨b, hb, h1, h2, h3⟩, contents, transition⟩
    exact ⟨(), schema, b, hb, (), ⟨h1, h2, h3⟩, (), contents_iff.2 contents, transition⟩

/-- The validator accepts exactly the well-formed documents of the two schemas. -/
theorem validateDocument_iff {d : ConversationDocument} :
    validateDocument d = .ok () ↔ ValidV1 d ∨ ValidV2 d := by
  simp only [validateDocument, bind_eq_ok, rejectIf_eq_ok, Decidable.not_not]
  constructor
  · rintro ⟨_, -, h⟩
    split_ifs at h
    · exact Or.inl (validateV1Document_iff.1 h)
    · exact Or.inr (validateV2Document_iff.1 h)
  · rintro (h | h)
    · refine ⟨(), Or.inl h.schema, ?_⟩
      rw [if_pos h.schema]
      exact validateV1Document_iff.2 h
    · refine ⟨(), Or.inr h.schema, ?_⟩
      rw [if_neg (by rw [h.schema]; decide)]
      exact validateV2Document_iff.2 h

/-- The contents of an accepted document are well formed for the schema it has. -/
theorem contents_of_valid {d : ConversationDocument} (h : validateDocument d = .ok ()) :
    Contents (d.schemaVersion = schemaVersionV1) d := by
  obtain h | h := validateDocument_iff.1 h
  · simpa [h.schema] using h.contents
  · simpa [h.schema, schemaVersionV1, schemaVersionV2] using h.contents

/-- The transition of an accepted document is well formed. -/
theorem transition_of_valid {d : ConversationDocument} (h : validateDocument d = .ok ())
    {t : HandoffTransition} (ht : d.activeTransition = some t) :
    ∃ c source, TransitionOk d t c source := by
  obtain h | h := validateDocument_iff.1 h
  · rw [h.transition] at ht
    cases ht
  · exact h.transition t ht

end Calcifer
