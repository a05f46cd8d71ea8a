import Calcifer.Conversations.Ambiguity
import Calcifer.Conversations.Handoff

/-!
# What a binding does to a well-formed document

A thread belongs to at most one generation of a well-formed document, so `bindDocument` has one
outcome for each relation between the binding and that generation (`bindDocument_eq`). The edits a
launch can end with keep the document well formed (`Contents.dropPending`,
`Contents.markHeadNeedsSelection`, `Contents.rebound`), so that only the size of the registry stands
between such an edit and its publication (`transact_succeeds_iff`).
-/

namespace Calcifer

open Checks Lists RegistryM ConversationDocument

/-! ## The generation of a thread -/

section

variable {schemaV1 : Bool} {d : ConversationDocument} {binding : BindingInput}

/-- No two generations of a document share a thread. -/
theorem Contents.thread_unique (h : Contents schemaV1 d) {c c' : Conversation}
    {g g' : ConversationGeneration} (hc : c ∈ d.conversations) (hg : g ∈ c.generations)
    (hc' : c' ∈ d.conversations) (hg' : g' ∈ c'.generations) (e : g.threadId = g'.threadId) :
    c = c' ∧ g = g' := by
  obtain ⟨own, others⟩ := List.nodup_flatMap.1 h.threads
  have : Std.Symm (Function.onFun List.Disjoint
      fun c : Conversation => c.generations.map (·.threadId)) := ⟨fun _ _ h _ ha hb => h hb ha⟩
  have hcc : c = c' := by
    by_contra hne
    exact others.forall hc hc' hne (List.mem_map_of_mem hg) (e ▸ List.mem_map_of_mem hg')
  subst hcc
  exact ⟨rfl, List.inj_on_of_nodup_map (own c hc) hg hg' e⟩

/-- The generation a thread belongs to, if it belongs to one. -/
inductive ThreadOwner (d : ConversationDocument) (threadId : String) : Prop
  | none (unbound : ∀ c ∈ d.conversations, ∀ g ∈ c.generations, g.threadId ≠ threadId)
  | some (c : Conversation) (g : ConversationGeneration) (hc : c ∈ d.conversations)
      (hg : g ∈ c.generations) (thread : g.threadId = threadId)

theorem threadOwner (d : ConversationDocument) (threadId : String) : ThreadOwner d threadId := by
  by_cases h : ∃ c ∈ d.conversations, ∃ g ∈ c.generations, g.threadId = threadId
  · obtain ⟨c, hc, g, hg, thread⟩ := h
    exact .some c g hc hg thread
  · exact .none fun c hc g hg thread => h ⟨c, hc, g, hg, thread⟩

/-- Some generation of the thread of a binding has the property `p`. -/
def ConversationDocument.owned (d : ConversationDocument) (binding : BindingInput)
    (p : Conversation → ConversationGeneration → Bool) : Bool :=
  d.conversations.any fun c => c.generations.any fun g => g.threadId = binding.threadId ∧ p c g

theorem owned_eq_false {p : Conversation → ConversationGeneration → Bool}
    (unbound : ∀ c ∈ d.conversations, ∀ g ∈ c.generations, g.threadId ≠ binding.threadId) :
    d.owned binding p = false := by
  refine List.any_eq_false.2 fun c hc => ?_
  rw [List.any_eq_true]
  rintro ⟨g, hg, h⟩
  simp only [decide_eq_true_eq] at h
  exact unbound c hc g hg h.1

/-- What holds of some generation of a thread holds of its only one. -/
theorem Contents.owned_eq (h : Contents schemaV1 d) {c : Conversation} {g : ConversationGeneration}
    (hc : c ∈ d.conversations) (hg : g ∈ c.generations) (thread : g.threadId = binding.threadId)
    (p : Conversation → ConversationGeneration → Bool) : d.owned binding p = p c g := by
  rw [Bool.eq_iff_iff, owned, List.any_eq_true]
  constructor
  · rintro ⟨c', hc', hany⟩
    obtain ⟨g', hg', hp⟩ := List.any_eq_true.1 hany
    simp only [decide_eq_true_eq] at hp
    obtain ⟨rfl, rfl⟩ := h.thread_unique hc' hg' hc hg (hp.1.trans thread.symm)
    exact hp.2
  · intro hp
    exact ⟨c, hc, List.any_eq_true.2 ⟨g, hg, by simp [thread, hp]⟩⟩

/-- The thread of a binding belongs to another profile. -/
def ConversationDocument.ownedByOther (d : ConversationDocument) (binding : BindingInput) : Bool :=
  d.owned binding fun _ g => g.profileId ≠ binding.profileId

/-- The thread of a binding is an older generation of a lineage of its own profile. -/
def ConversationDocument.superseded (d : ConversationDocument) (binding : BindingInput) : Bool :=
  d.owned binding fun c g => g.profileId = binding.profileId ∧ g.generation ≠ c.activeGeneration

/-- The thread of a binding belongs to another workspace. -/
def ConversationDocument.ownedElsewhere (d : ConversationDocument) (binding : BindingInput) : Bool :=
  d.owned binding fun _ g => g.canonicalCwd ≠ binding.canonicalCwd

/-- The head a binding makes. -/
def BindingInput.headBinding (binding : BindingInput) (conversationId : String) (generation : ℕ) :
    HeadBinding where
  conversationId
  generation
  profileId := binding.profileId
  threadId := binding.threadId
  canonicalCwd := binding.canonicalCwd
  codexVersion := binding.codexVersion
  lifecycle := binding.lifecycle

/-- The conversation a binding of a new thread starts. -/
def firstConversation (conversationId : String) (binding : BindingInput) (boundAt : ℤ) :
    Conversation where
  conversationId
  provider := .codex
  generations := [firstGeneration binding boundAt]
  activeGeneration := 0
  lastSafeLifecycle := binding.lifecycle

/-- The document after a binding that succeeds. -/
def ConversationDocument.rebound (d : ConversationDocument) (host : Host) (binding : BindingInput)
    (now : ℤ) : ConversationDocument :=
  match d.conversations.find? fun c => c.generations.any (bindsSame binding) with
  | some c => setReadyHead { d with
      conversations := updateFirst (fun c => c.generations.any (bindsSame binding))
        (fun c => { c with lastSafeLifecycle := binding.lifecycle }) d.conversations }
      binding.canonicalCwd c.conversationId c.activeGeneration
  | none => setReadyHead { d with
      conversations := d.conversations ++ [firstConversation host.newV4.toString binding now] }
      binding.canonicalCwd host.newV4.toString 0

/-- The conversation of the thread of a binding is found under that binding. -/
theorem Contents.find?_bindsSame (h : Contents schemaV1 d) {c : Conversation}
    {g : ConversationGeneration} (hc : c ∈ d.conversations) (hg : g ∈ c.generations)
    (same : bindsSame binding g = true) :
    d.conversations.find? (fun c => c.generations.any (bindsSame binding)) = some c ∧
      c.generations.find? (bindsSame binding) = some g := by
  have thread : ∀ {g : ConversationGeneration}, bindsSame binding g = true →
      g.threadId = binding.threadId := by
    intro g hs
    simp only [bindsSame, decide_eq_true_eq] at hs
    exact hs.2
  constructor
  · cases hf : d.conversations.find? fun c => c.generations.any (bindsSame binding) with
    | none =>
      have := List.find?_eq_none.1 hf c hc
      exact absurd (List.any_eq_true.2 ⟨g, hg, same⟩) this
    | some c' =>
      have hany := List.find?_some
        (p := fun c : Conversation => c.generations.any (bindsSame binding)) hf
      obtain ⟨g', hg', hs⟩ := List.any_eq_true.1 hany
      have hc' := List.mem_of_find?_eq_some hf
      rw [(h.thread_unique hc' hg' hc hg ((thread hs).trans (thread same).symm)).1]
  · cases hf : c.generations.find? (bindsSame binding) with
    | none => exact absurd same (List.find?_eq_none.1 hf g hg)
    | some g' =>
      have hs := List.find?_some hf
      have hg' := List.mem_of_find?_eq_some hf
      rw [(h.thread_unique hc hg' hc hg ((thread hs).trans (thread same).symm)).2]

theorem find?_bindsSame_eq_none
    (unbound : ∀ c ∈ d.conversations, ∀ g ∈ c.generations, g.threadId ≠ binding.threadId) :
    d.conversations.find? (fun c => c.generations.any (bindsSame binding)) = none := by
  refine List.find?_eq_none.2 fun c hc hany => ?_
  obtain ⟨g, hg, hs⟩ := List.any_eq_true.1 hany
  simp only [bindsSame, decide_eq_true_eq] at hs
  exact unbound c hc g hg hs.2

/-- Binding a thread that some generation has. -/
theorem Contents.bindDocument_of_owner (h : Contents schemaV1 d)
    (input : validateBindingInput binding = .ok ())
    (free : d.transitioning binding.canonicalCwd = false) {c : Conversation}
    {g : ConversationGeneration} (hc : c ∈ d.conversations) (hg : g ∈ c.generations)
    (thread : g.threadId = binding.threadId) (host : Host) (now : ℤ) :
    d.bindDocument host binding =
      if g.profileId ≠ binding.profileId then .error .profileMismatch
      else if g.generation ≠ c.activeGeneration then .error .ambiguous
      else if g.canonicalCwd ≠ binding.canonicalCwd then .error .cwdMismatch
      else .ok (binding.headBinding c.conversationId c.activeGeneration,
        d.rebound host binding now) := by
  have other : d.conversations.any (fun c => c.generations.any fun g =>
      g.threadId = binding.threadId ∧ g.profileId ≠ binding.profileId) =
        decide (g.profileId ≠ binding.profileId) := by
    have := h.owned_eq hc hg thread fun _ g => g.profileId ≠ binding.profileId
    simpa [owned] using this
  rw [bindDocument, input, ensureWorkspaceNotTransitioning, free, other]
  by_cases hprofile : g.profileId = binding.profileId
  · have same : bindsSame binding g = true := by simp [bindsSame, hprofile, thread]
    obtain ⟨hfc, hfg⟩ := h.find?_bindsSame hc hg same
    by_cases hactive : g.generation = c.activeGeneration
    · by_cases hcwd : g.canonicalCwd = binding.canonicalCwd
      · simp [rejectIf, hprofile, bindConversation, rebound, hfc, bindExisting, hfg, okOr, hactive,
          hcwd, BindingInput.headBinding, bind, Except.bind, pure, Except.pure]
      · simp [rejectIf, hprofile, bindConversation, hfc, bindExisting, hfg, okOr, hactive, hcwd, bind,
          Except.bind]
    · simp [rejectIf, hprofile, bindConversation, hfc, bindExisting, hfg, okOr, hactive, bind,
        Except.bind]
  · simp [rejectIf, hprofile, bind, Except.bind]

/-- Binding a thread that no generation has. -/
theorem bindDocument_of_unbound (input : validateBindingInput binding = .ok ())
    (free : d.transitioning binding.canonicalCwd = false)
    (unbound : ∀ c ∈ d.conversations, ∀ g ∈ c.generations, g.threadId ≠ binding.threadId)
    {host : Host} {now : ℤ} (hnow : unixTimestamp host = .ok now) :
    d.bindDocument host binding =
      .ok (binding.headBinding host.newV4.toString 0, d.rebound host binding now) := by
  have other : d.conversations.any (fun c => c.generations.any fun g =>
      g.threadId = binding.threadId ∧ g.profileId ≠ binding.profileId) = false := by
    simpa [owned] using owned_eq_false (p := fun _ g => g.profileId ≠ binding.profileId) unbound
  have hf := find?_bindsSame_eq_none unbound
  rw [bindDocument, input, ensureWorkspaceNotTransitioning, free, other]
  simp [rejectIf, bindConversation, rebound, firstConversation, hf, bindNew, hnow,
    BindingInput.headBinding, bind, Except.bind, pure, Except.pure]

end

/-! ## Edits that keep a document well formed -/

section

variable {schemaV1 : Bool} {d d' : ConversationDocument} {binding : BindingInput} {cwd : String}

/-- A document without one of its launches. -/
theorem Contents.dropPending (h : Contents schemaV1 d) (launchId : String) :
    Contents schemaV1 (d.dropPending launchId) := by
  have sub : (d.dropPending launchId).pendingLaunches.Sublist d.pendingLaunches :=
    List.eraseP_sublist
  exact ⟨h.conversations, h.ids, h.threads,
    fun head hhead => ⟨(h.heads head hhead).path, (h.heads head hhead).state⟩, h.headKeys,
    fun p hp => h.pendings p (sub.subset hp), h.launchIds.sublist (sub.map _),
    h.launchCwds.sublist (sub.map _)⟩

/-- A head that waits for a selection names a whole generation or nothing. -/
theorem headOk_needsSelection {head : WorkspaceHead} (path : validateStoredPath head.canonicalCwd = .ok ())
    (hs : head.state = .needsSelection)
    (same : head.conversationId.isSome = head.generation.isSome) : HeadOk d head := by
  refine ⟨path, ?_⟩
  rw [validateHeadState, hs]
  simp [same]

/-- A well-formed head names a whole generation or nothing. -/
theorem HeadOk.isSome_eq {head : WorkspaceHead} (h : HeadOk d head) :
    head.conversationId.isSome = head.generation.isSome := by
  cases hs : head.state with
  | ready =>
    obtain ⟨id, c, g, hid, -, hn, -⟩ := (validateHeadState_iff hs).1 h.state
    rw [hid, hn]
    rfl
  | needsSelection =>
    have := h.state
    rw [validateHeadState, hs] at this
    simpa using this

/-- The heads of a document only depend on its conversations. -/
theorem HeadOk.congr {head : WorkspaceHead} (h : HeadOk d head)
    (hc : d'.conversations = d.conversations) : HeadOk d' head := by
  refine ⟨h.path, ?_⟩
  have := h.state
  unfold validateHeadState at this ⊢
  rwa [hc]

/-- Marking rewrites the head of the workspace or adds one. -/
theorem markHeadNeedsSelection_cases (d : ConversationDocument) (cwd : String) :
    (d.markHeadNeedsSelection cwd).workspaceHeads = updateFirst (isHeadOf cwd)
        (fun head => { head with state := .needsSelection }) d.workspaceHeads ∨
      (d.headOf cwd = none ∧ (d.markHeadNeedsSelection cwd).workspaceHeads =
        d.workspaceHeads ++ [⟨.codex, cwd, .needsSelection, none, none⟩]) := by
  unfold ConversationDocument.markHeadNeedsSelection
  split_ifs with h
  · exact Or.inl rfl
  · exact Or.inr ⟨Option.not_isSome_iff_eq_none.1 h, rfl⟩

theorem Contents.markHeadNeedsSelection (h : Contents schemaV1 d)
    (path : validateStoredPath cwd = .ok ()) :
    Contents schemaV1 (d.markHeadNeedsSelection cwd) := by
  have hc := markHeadNeedsSelection_conversations d cwd
  have hp := markHeadNeedsSelection_pendingLaunches d cwd
  have old : ∀ head ∈ d.workspaceHeads, HeadOk (d.markHeadNeedsSelection cwd) head :=
    fun head hhead => (h.heads head hhead).congr hc
  have heads := markHeadNeedsSelection_cases d cwd
  generalize d.markHeadNeedsSelection cwd = marked at hc hp old heads
  refine ⟨by rw [hc]; exact h.conversations, by rw [hc]; exact h.ids, ?_, fun head hhead => ?_, ?_,
    by rw [hp]; exact h.pendings, by rw [hp]; exact h.launchIds, by rw [hp]; exact h.launchCwds⟩
  · have := h.threads
    rwa [threadIds, ← hc] at this
  · obtain heads | ⟨-, heads⟩ := heads <;> rw [heads] at hhead
    · obtain hold | ⟨head', hf, rfl⟩ := mem_updateFirst hhead
      · exact old head hold
      · have ok := old head' (List.mem_of_find?_eq_some hf)
        exact headOk_needsSelection ok.path rfl ok.isSome_eq
    · rw [List.mem_append, List.mem_singleton] at hhead
      obtain hold | rfl := hhead
      · exact old head hold
      · exact headOk_needsSelection path rfl rfl
  · obtain heads | ⟨hnone, heads⟩ := heads <;> rw [heads]
    · rw [map_updateFirst]
      · exact h.headKeys
      · exact fun _ => rfl
    · rw [List.map_append, List.map_singleton]
      refine List.Nodup.append h.headKeys (List.nodup_singleton _) fun key hkey hnew => ?_
      rw [List.mem_singleton] at hnew
      obtain ⟨head, hhead, rfl⟩ := List.mem_map.1 hkey
      rw [Prod.mk.injEq] at hnew
      exact List.find?_eq_none.1 hnone head hhead (by simp [isHeadOf, hnew])

/-- Marking a workspace does not touch the heads of the others. -/
theorem headOf_markHeadNeedsSelection_of_ne (d : ConversationDocument) {other : String}
    (hne : other ≠ cwd) : (d.markHeadNeedsSelection other).headOf cwd = d.headOf cwd := by
  unfold headOf
  have disjoint : ∀ head, isHeadOf other head → isHeadOf cwd head = false := by
    intro head hh
    simp only [isHeadOf, decide_eq_true_eq] at hh
    simp [isHeadOf, hh.2, hne]
  obtain heads | ⟨-, heads⟩ := markHeadNeedsSelection_cases d other <;> rw [heads]
  · exact find?_updateFirst_of_disjoint disjoint fun _ => rfl
  · rw [List.find?_append]
    simp [isHeadOf, hne]

/-- A head stays well formed when the conversations it can name keep their lineages. -/
theorem HeadOk.of_findConversation {head : WorkspaceHead} (h : HeadOk d head)
    (hc : ∀ id c, d.findConversation id = some c → ∃ c', d'.findConversation id = some c' ∧
      c'.generations = c.generations ∧ c'.provider = c.provider ∧
      c'.activeGeneration = c.activeGeneration) : HeadOk d' head := by
  cases hs : head.state with
  | ready =>
    obtain ⟨id, c, g, hid, hu, hn, hfc, hfg, hp, hcwd, hact⟩ := (validateHeadState_iff hs).1 h.state
    obtain ⟨c', hc', generations, provider, active⟩ := hc id c hfc
    refine ⟨h.path, (validateHeadState_iff hs).2 ⟨id, c', g, hid, hu, hn, hc', ?_,
      provider.trans hp, hcwd, hact.trans active.symm⟩⟩
    rw [Conversation.findGeneration, generations]
    exact hfg
  | needsSelection => exact headOk_needsSelection h.path hs h.isSome_eq

/-- Recording how a session ended keeps the lineages. -/
theorem Contents.setLifecycle (h : Contents schemaV1 d) (p : Conversation → Bool)
    {lifecycle : ConversationLifecycle}
    (usable : lifecycle = .clean ∨ lifecycle = .interrupted ∨ lifecycle = .unknownCrash) :
    Contents schemaV1 { d with
      conversations := updateFirst p (fun c => { c with lastSafeLifecycle := lifecycle })
        d.conversations } where
  conversations := by
    intro c hc
    obtain hold | ⟨c', hc', rfl⟩ := mem_updateFirst hc
    · exact h.conversations c hold
    · have ok := h.conversations c' (List.mem_of_find?_eq_some hc')
      refine ⟨ok.id, ok.provider, ok.nonempty, ok.bounded, ok.single, usable, ok.tail,
        fun i g hg => ?_⟩
      obtain ⟨h1, h2, h3, h4, h5, h6, h7, h8, h9, h10, h11⟩ := ok.generations i g hg
      exact ⟨h1, h2, h3, h4, h5, h6, h7, h8, h9, h10, h11⟩
  ids := by
    rw [map_updateFirst]
    · exact h.ids
    · exact fun _ => rfl
  threads := by
    rw [threadIds, flatMap_updateFirst]
    · exact h.threads
    · exact fun _ => rfl
  heads head hhead := by
    refine (h.heads head hhead).of_findConversation fun id c hc => ?_
    obtain hf | hf := find?_updateFirst_cases (p := p)
      (f := fun c => { c with lastSafeLifecycle := lifecycle }) (fun _ => rfl) hc
    · exact ⟨c, hf, rfl, rfl, rfl⟩
    · exact ⟨_, hf, rfl, rfl, rfl⟩
  headKeys := h.headKeys
  pendings := h.pendings
  launchIds := h.launchIds
  launchCwds := h.launchCwds

/-- Adding a conversation with a new id and new threads. -/
theorem Contents.addConversation (h : Contents schemaV1 d) {c : Conversation}
    (ok : ConversationOk schemaV1 c)
    (fresh : ∀ c' ∈ d.conversations, c'.conversationId ≠ c.conversationId)
    (own : (c.generations.map (·.threadId)).Nodup)
    (threads : ∀ c' ∈ d.conversations, ∀ g' ∈ c'.generations, ∀ g ∈ c.generations,
      g'.threadId ≠ g.threadId) :
    Contents schemaV1 { d with conversations := d.conversations ++ [c] } where
  conversations := by
    intro c' hc'
    rw [List.mem_append, List.mem_singleton] at hc'
    obtain hc' | rfl := hc'
    · exact h.conversations c' hc'
    · exact ok
  ids := by
    rw [List.map_append, List.map_singleton]
    refine List.Nodup.append h.ids (List.nodup_singleton _) fun id hid hnew => ?_
    obtain ⟨c', hc', rfl⟩ := List.mem_map.1 hid
    exact fresh c' hc' (List.mem_singleton.1 hnew)
  threads := by
    rw [threadIds, List.flatMap_append, List.flatMap_singleton]
    refine List.Nodup.append h.threads own fun id hid hnew => ?_
    obtain ⟨c', hc', hid⟩ := List.mem_flatMap.1 hid
    obtain ⟨g', hg', rfl⟩ := List.mem_map.1 hid
    obtain ⟨g, hg, e⟩ := List.mem_map.1 hnew
    exact threads c' hc' g' hg' g hg e.symm
  heads head hhead := by
    refine (h.heads head hhead).of_findConversation fun id c' hc' => ⟨c', ?_, rfl, rfl, rfl⟩
    unfold findConversation at hc' ⊢
    rw [List.find?_append, hc']
    rfl
  headKeys := h.headKeys
  pendings := h.pendings
  launchIds := h.launchIds
  launchCwds := h.launchCwds

/-- Naming the active generation of a lineage of the workspace in its head. -/
theorem Contents.setReadyHead (h : Contents schemaV1 d) {c : Conversation}
    {g : ConversationGeneration} (hc : d.findConversation c.conversationId = some c)
    (hg : c.findGeneration c.activeGeneration = some g) (hcwd : g.canonicalCwd = cwd) :
    Contents schemaV1 (d.setReadyHead cwd c.conversationId c.activeGeneration) where
  conversations := h.conversations
  ids := h.ids
  threads := h.threads
  heads := by
    intro head hhead
    rw [ConversationDocument.setReadyHead, List.mem_append, List.mem_singleton] at hhead
    obtain hold | rfl := hhead
    · exact (h.heads head (List.mem_filter.1 hold).1).congr rfl
    · have ok := h.conversations c (List.mem_of_find?_eq_some hc)
      have number : g.generation = c.activeGeneration := by simpa using List.find?_some hg
      obtain ⟨i, hi⟩ := List.mem_iff_getElem?.1 (List.mem_of_find?_eq_some hg)
      refine ⟨hcwd ▸ (ok.generations i g hi).path, (validateHeadState_iff rfl).2 ⟨_, c, g, rfl, ok.id,
        congrArg some number.symm, hc, ?_, ok.provider, hcwd, number⟩⟩
      rw [number]
      exact hg
  headKeys := by
    rw [ConversationDocument.setReadyHead, List.map_append, List.map_singleton]
    refine List.Nodup.append (h.headKeys.sublist (List.filter_sublist.map _))
      (List.nodup_singleton _) fun key hkey hnew => ?_
    rw [List.mem_singleton] at hnew
    obtain ⟨head, hhead, rfl⟩ := List.mem_map.1 hkey
    rw [Prod.mk.injEq] at hnew
    have := (List.mem_filter.1 hhead).2
    simp [isHeadOf, hnew] at this
  pendings := h.pendings
  launchIds := h.launchIds
  launchCwds := h.launchCwds

theorem usable_of_validateBindingInput (input : validateBindingInput binding = .ok ()) :
    binding.lifecycle = .clean ∨ binding.lifecycle = .interrupted ∨
      binding.lifecycle = .unknownCrash := by
  simp only [validateBindingInput, check_bind_eq_ok, rejectIf_eq_ok] at input
  have := input.2.2.2.2
  cases hl : binding.lifecycle <;> simp_all

theorem conversationOk_first (input : validateBindingInput binding = .ok ()) (id : Uuid) {now : ℤ}
    (hnow : 0 ≤ now) : ConversationOk schemaV1 (firstConversation id.toString binding now) := by
  have usable := usable_of_validateBindingInput input
  simp only [validateBindingInput, check_bind_eq_ok] at input
  obtain ⟨profile, thread, path, version, -⟩ := input
  refine ⟨validateUuid_toString id _, rfl, by simp [firstConversation], by
    simp [firstConversation, maxLineageGenerations], fun _ => ⟨rfl, rfl⟩, usable, rfl,
    fun i g hg => ?_⟩
  obtain ⟨rfl, rfl⟩ : i = 0 ∧ g = firstGeneration binding now := by
    simp only [firstConversation, List.getElem?_singleton] at hg
    split_ifs at hg with hi
    exact ⟨hi, (Option.some.inj hg).symm⟩
  exact ⟨rfl, profile, thread, path, version, rfl, hnow, rfl, rfl,
    fun _ h => absurd h (by simp [firstConversation]), fun _ => ⟨rfl, rfl⟩⟩

/-- The head of a workspace after it was set. -/
theorem headOf_setReadyHead (d : ConversationDocument) (cwd id : String) (n : ℕ) :
    (d.setReadyHead cwd id n).headOf cwd = some ⟨.codex, cwd, .ready, some id, some n⟩ := by
  have old : (d.workspaceHeads.filter fun head => ¬ isHeadOf cwd head).find? (isHeadOf cwd) = none := by
    refine List.find?_eq_none.2 fun head hhead => ?_
    simpa using (List.mem_filter.1 hhead).2
  rw [headOf, ConversationDocument.setReadyHead, List.find?_append, old]
  simp [isHeadOf]

/-- The head of the workspace of a binding names a generation with its profile and its thread. -/
structure Names (d : ConversationDocument) (binding : BindingInput) (c : Conversation)
    (g : ConversationGeneration) : Prop where
  head_eq : d.headOf binding.canonicalCwd =
    some ⟨.codex, binding.canonicalCwd, .ready, some c.conversationId, some c.activeGeneration⟩
  conversation_eq : d.findConversation c.conversationId = some c
  generation_eq : c.findGeneration c.activeGeneration = some g
  profile : g.profileId = binding.profileId
  thread : g.threadId = binding.threadId
  cwd : g.canonicalCwd = binding.canonicalCwd

/-- Binding a thread again keeps the document well formed, and its head names the thread. -/
theorem Contents.rebound_of_owner (h : Contents schemaV1 d)
    (input : validateBindingInput binding = .ok ()) {c : Conversation}
    {g : ConversationGeneration} (hc : c ∈ d.conversations) (hg : g ∈ c.generations)
    (thread : g.threadId = binding.threadId) (profile : g.profileId = binding.profileId)
    (active : g.generation = c.activeGeneration) (hcwd : g.canonicalCwd = binding.canonicalCwd)
    (host : Host) (now : ℤ) :
    Contents schemaV1 (d.rebound host binding now) ∧
      ∃ c, Names (d.rebound host binding now) binding c g := by
  have same : bindsSame binding g = true := by simp [bindsSame, profile, thread]
  rw [rebound, (h.find?_bindsSame hc hg same).1]
  have h₁ := h.setLifecycle (fun c => c.generations.any (bindsSame binding))
    (usable_of_validateBindingInput input)
  obtain ⟨i, hi⟩ := List.mem_iff_getElem?.1 hg
  have hgen : c.findGeneration c.activeGeneration = some g := by
    have ok := h.conversations c hc
    rw [ok.findGeneration_eq, ← active, ok.number_eq hi, hi]
  have hfind : d.findConversation c.conversationId = some c := find?_of_nodup_map h.ids hc
  obtain ⟨c', hf, hid, hgens, hactive⟩ : ∃ c',
      (updateFirst (fun c => c.generations.any (bindsSame binding))
        (fun c => { c with lastSafeLifecycle := binding.lifecycle }) d.conversations).find?
          (fun c' => c'.conversationId = c.conversationId) = some c' ∧
        c'.conversationId = c.conversationId ∧ c'.generations = c.generations ∧
        c'.activeGeneration = c.activeGeneration := by
    obtain hf | hf := find?_updateFirst_cases
      (p := fun c => c.generations.any (bindsSame binding))
      (f := fun c => { c with lastSafeLifecycle := binding.lifecycle }) (fun _ => rfl) hfind
    · exact ⟨c, hf, rfl, rfl, rfl⟩
    · exact ⟨_, hf, rfl, rfl, rfl⟩
  have hgen' : c'.findGeneration c'.activeGeneration = some g := by
    rw [Conversation.findGeneration, hgens, hactive]
    exact hgen
  rw [← hid] at hf
  simp only [← hid, ← hactive]
  exact ⟨h₁.setReadyHead hf hgen' hcwd, c', headOf_setReadyHead _ _ _ _, hf, hgen', profile, thread,
    hcwd⟩

/-- Binding a new thread keeps the document well formed, and its head names the thread. -/
theorem Contents.rebound_of_unbound (h : Contents schemaV1 d)
    (input : validateBindingInput binding = .ok ())
    (unbound : ∀ c ∈ d.conversations, ∀ g ∈ c.generations, g.threadId ≠ binding.threadId)
    {host : Host} (fresh : ∀ c ∈ d.conversations, c.conversationId ≠ host.newV4.toString)
    {now : ℤ} (hnow : 0 ≤ now) :
    Contents schemaV1 (d.rebound host binding now) ∧
      ∃ c g, Names (d.rebound host binding now) binding c g := by
  rw [rebound, find?_bindsSame_eq_none unbound]
  have h₁ := h.addConversation (conversationOk_first input host.newV4 hnow) fresh
    (List.nodup_singleton _) fun c hc g hg g' hg' => by
      rw [List.mem_singleton.1 hg']
      exact unbound c hc g hg
  have hf : (d.conversations ++ [firstConversation host.newV4.toString binding now]).find?
      (fun c => c.conversationId = host.newV4.toString) =
        some (firstConversation host.newV4.toString binding now) := by
    rw [List.find?_append, List.find?_eq_none.2 fun c hc => by simpa using fresh c hc]
    simp [firstConversation]
  exact ⟨h₁.setReadyHead (c := firstConversation host.newV4.toString binding now) hf rfl rfl,
    firstConversation host.newV4.toString binding now, firstGeneration binding now,
    headOf_setReadyHead _ _ _ _, hf, rfl, rfl, rfl, rfl⟩

/-- An edit outside the workspace of the active transition keeps an accepted document accepted. -/
theorem validateDocument_edit (hv : validateDocument d = .ok ()) (header : SameHeader d d')
    (transition : d'.activeTransition = d.activeTransition)
    (contents : ∀ schemaV1, Contents schemaV1 d → Contents schemaV1 d')
    (conversation : ∀ t, d.activeTransition = some t →
      d'.findConversation t.conversationId = d.findConversation t.conversationId)
    (head : ∀ t, d.activeTransition = some t →
      d'.headOf t.canonicalCwd = d.headOf t.canonicalCwd)
    (launching : ∀ t, d.activeTransition = some t → d'.launching t.canonicalCwd = false) :
    validateDocument d' = .ok () := by
  refine validateDocument_iff.2 ?_
  obtain hv | hv := validateDocument_iff.1 hv
  · exact Or.inl ⟨header.schemaVersion.trans hv.schema, header.preMigrationBackup.trans hv.backup,
      transition.trans hv.transition, contents _ hv.contents⟩
  · refine Or.inr ⟨header.schemaVersion.trans hv.schema, ?_, contents _ hv.contents, fun t ht => ?_⟩
    · rw [header.preMigrationBackup, header.revision]
      exact hv.backup
    · rw [transition] at ht
      obtain ⟨c, source, ok⟩ := hv.transition t ht
      refine ⟨c, source, { ok with
        conversation_eq := (conversation t ht).trans ok.conversation_eq
        workspace := transitionWorkspace_iff.2 ⟨?_, launching t ht⟩ }⟩
      obtain ⟨⟨head', hf, hs⟩, -⟩ := transitionWorkspace_iff.1 ok.workspace
      have hc := hv.contents.conversations c (List.mem_of_find?_eq_some ok.conversation_eq)
      rw [hc.provider] at hf ⊢
      exact ⟨head', (head t ht).trans hf, hs⟩

theorem validateDocument_dropPending (hv : validateDocument d = .ok ()) (launchId : String) :
    validateDocument (d.dropPending launchId) = .ok () := by
  refine validateDocument_edit hv ⟨rfl, rfl, rfl⟩ rfl (fun _ h => h.dropPending launchId)
    (fun _ _ => rfl) (fun _ _ => rfl) fun t ht => List.any_eq_false.2 fun p hp => ?_
  have idle := (head_of_transition hv ht).2
  rw [launching, List.any_eq_false] at idle
  exact idle p (List.mem_of_mem_eraseP hp)

/-- The workspace of the active transition is not free. -/
theorem ne_of_free {t : HandoffTransition} (ht : d.activeTransition = some t)
    (free : d.transitioning cwd = false) : cwd ≠ t.canonicalCwd := by
  rintro rfl
  simp [transitioning, ht] at free

theorem validateDocument_markHeadNeedsSelection (hv : validateDocument d = .ok ())
    (path : validateStoredPath cwd = .ok ()) (free : d.transitioning cwd = false) :
    validateDocument (d.markHeadNeedsSelection cwd) = .ok () := by
  refine validateDocument_edit hv (sameHeader_markHeadNeedsSelection d cwd) (by simp)
    (fun _ h => h.markHeadNeedsSelection path) (fun _ _ => by simp [findConversation])
    (fun t ht => headOf_markHeadNeedsSelection_of_ne d (ne_of_free ht free)) fun t ht => ?_
  rw [launching, markHeadNeedsSelection_pendingLaunches]
  exact (head_of_transition hv ht).2

theorem validateDocument_binds {host : Host} (hv : validateDocument d = .ok ())
    (hb : Binds host binding d d')
    (contents : ∀ schemaV1, Contents schemaV1 d → Contents schemaV1 d') :
    validateDocument d' = .ok () := by
  refine validateDocument_edit hv hb.sameHeader hb.activeTransition contents (fun t ht => ?_)
    (fun t ht => ?_) fun t ht => ?_
  · obtain ⟨c, hc, hcwd⟩ := conversation_of_transition hv ht
    rw [hc]
    refine hb.findConversation_eq (contents_of_valid hv).ids hc fun g hg he => ?_
    exact ne_of_free ht hb.free (he.symm.trans (hcwd g hg))
  · have hne := ne_of_free ht hb.free
    cases hb.bound with
    | existing => exact headOf_setReadyHead_of_ne _ hne _ _
    | new => exact headOf_setReadyHead_of_ne _ hne _ _
  · have idle := (head_of_transition hv ht).2
    cases hb.bound with
    | existing => exact idle
    | new => exact idle

/-- Only Codex workspaces have heads. -/
def CodexHeads (d : ConversationDocument) : Prop := ∀ head ∈ d.workspaceHeads, head.provider = .codex

theorem CodexHeads.updateFirst {p : WorkspaceHead → Bool} {f : WorkspaceHead → WorkspaceHead}
    (h : CodexHeads d) (he : d'.workspaceHeads = Lists.updateFirst p f d.workspaceHeads)
    (hf : ∀ head, (f head).provider = head.provider) : CodexHeads d' := by
  intro head hhead
  rw [he] at hhead
  obtain hold | ⟨head', hh, rfl⟩ := mem_updateFirst hhead
  · exact h head hold
  · exact (hf head').trans (h head' (List.mem_of_find?_eq_some hh))

theorem CodexHeads.markHeadNeedsSelection (h : CodexHeads d) (cwd : String) :
    CodexHeads (d.markHeadNeedsSelection cwd) := by
  obtain heads | ⟨-, heads⟩ := markHeadNeedsSelection_cases d cwd
  · exact h.updateFirst heads fun _ => rfl
  · intro head hhead
    rw [heads, List.mem_append, List.mem_singleton] at hhead
    obtain hold | rfl := hhead
    · exact h head hold
    · rfl

theorem CodexHeads.binds {host : Host} (h : CodexHeads d) (hb : Binds host binding d d') :
    CodexHeads d' := by
  have set : ∀ (d₁ : ConversationDocument) (id : String) (n : ℕ),
      d₁.workspaceHeads = d.workspaceHeads → CodexHeads (d₁.setReadyHead binding.canonicalCwd id n) := by
    intro d₁ id n he head hhead
    rw [ConversationDocument.setReadyHead, he, List.mem_append, List.mem_singleton] at hhead
    obtain hold | rfl := hhead
    · exact h head (List.mem_filter.1 hold).1
    · rfl
  cases hb.bound with
  | existing => exact set _ _ _ rfl
  | new => exact set _ _ _ rfl

theorem CodexHeads.change {host : Host} {op : Operation} (h : CodexHeads d)
    (hc : Change host op d d') : CodexHeads d' := by
  cases hc with
  | launched | started | captureFailed | prepared | advanced | attached => exact h
  | overlapped | marked => exact h.markHeadNeedsSelection _
  | untracked => exact h.markHeadNeedsSelection _
  | finished pending found hfin =>
    have h₁ : ∀ id, CodexHeads (d.dropPending id) := fun _ => h
    cases hfin with
    | marked => exact (h₁ _).markHeadNeedsSelection _
    | left => exact h₁ _
    | bound binding hr hcwd ready hb => exact (h₁ _).binds hb
  | adopted binding idle hb => exact h.binds hb
  | refreshed binding current head hb => exact h.binds hb
  | committed => exact h.updateFirst rfl fun _ => rfl

/-- The next revision of an accepted document is accepted. -/
theorem validateDocument_next (hv : validateDocument d = .ok ()) :
    validateDocument { d with revision := d.revision + 1 } = .ok () := by
  refine validateDocument_iff.2 ?_
  obtain hv | hv := validateDocument_iff.1 hv
  · exact Or.inl ⟨hv.schema, hv.backup, hv.transition, hv.contents.congr rfl rfl rfl⟩
  · exact Or.inr hv.next

variable [Sha256] {α : Type} {host : Host} {disk : Disk} {r : α} {edited : ConversationDocument}
variable {operation : ConversationDocument → Except ConversationError (α × ConversationDocument)}

theorem Reachable.codexHeads (hr : Reachable disk) : CodexHeads disk.document := by
  induction hr with
  | empty => exact nofun
  | @step disk host op _ ih =>
    have step := document_step host op disk
    generalize (op.step host disk).document = d' at step
    cases step with
    | same => exact ih
    | published document edited body change =>
      have h : CodexHeads document := by
        rw [CodexHeads, body.workspaceHeads]
        exact ih
      exact (h.change change : CodexHeads edited)

/-- A workspace of a reachable document waits for a selection exactly when its Codex head does. -/
theorem Reachable.needsSelection_iff (hr : Reachable disk) {cwd : String} :
    disk.document.needsSelection cwd = true ↔ Ambiguous disk.document cwd := by
  refine ⟨fun h => ?_, Ambiguous.needsSelection⟩
  obtain ⟨head, hhead, hs⟩ := List.any_eq_true.1 h
  simp only [decide_eq_true_eq] at hs
  refine ⟨head, ?_, hs.2⟩
  have hf := find?_of_nodup_map hr.contents.headKeys hhead
  simp only [hr.codexHeads head hhead, hs.1, Prod.mk.injEq] at hf
  exact hf

/-- A transaction publishes an accepted result that fits. -/
theorem transact_of_fits (hr : Reachable disk) (hf : host.fault = none)
    (hop : operation disk.document = .ok (r, edited)) (hv : validateDocument edited = .ok ())
    (fits : Fits edited) :
    transact host operation disk = (.ok r,
      { disk with registry := some { edited with revision := edited.revision + 1 } }) := by
  exact transact_ok hf hr.load_eq hop (nextRevision_of_room fits.1)
    (checkSave_iff.2 ⟨validateDocument_next hv, fits.2⟩)

/-- A transaction whose result does not fit leaves everything as it was. -/
theorem transact_of_not_fits (hr : Reachable disk) (hf : host.fault = none)
    (hop : operation disk.document = .ok (r, edited)) (hv : validateDocument edited = .ok ())
    (fits : ¬ Fits edited) :
    ∃ reason, transact host operation disk = (.error (invalid reason), disk) := by
  by_cases room : edited.revision + 1 < 2 ^ 64
  · have size : maxRegistryBytes < ({ edited with
        revision := edited.revision + 1 } : ConversationDocument).toVecPretty.length := by
      by_contra hle
      exact fits ⟨room, not_lt.1 hle⟩
    have hrev := nextRevision_of_room room
    have hcheck : checkSave { edited with revision := edited.revision + 1 } =
        .error (invalid "registry exceeds its size limit") := by
      rw [checkSave, validateDocument_next hv]
      simp [rejectIf, size, bind, Except.bind]
    refine ⟨"registry exceeds its size limit", ?_⟩
    simp [transact, bind_apply, verifyPrivateDirectory_ok hf, faultAt, inspect, rejectIf, hf,
      hr.load_eq, hop, hrev, save, hcheck]
  · have hrev : nextRevision edited = .error (invalid "revision overflow") := by
      rw [nextRevision, rejectIf, if_pos room]
      rfl
    refine ⟨"revision overflow", ?_⟩
    simp [transact, bind_apply, verifyPrivateDirectory_ok hf, faultAt, inspect, rejectIf, hf,
      hr.load_eq, hop, hrev]

end

end Calcifer
