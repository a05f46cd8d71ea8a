import Calcifer.Conversations.Binding

/-!
# The thread of a head

`headThread` is the thread that the ready head of a workspace names. Finishing a launch touches the
head of its own workspace only: it keeps the thread, names the one it binds, or leaves the workspace
without one (`Finishing.others`, `Finishing.thread`, `Finishing.resolved`).
-/

namespace Calcifer

open Checks Lists RegistryM ConversationDocument

/-- The thread that the ready head of a workspace names. -/
def ConversationDocument.headThread (d : ConversationDocument) (cwd : String) : Option String := do
  let head ← d.headOf cwd
  if head.state = .ready then
    let id ← head.conversationId
    let number ← head.generation
    let conversation ← d.findConversation id
    let generation ← conversation.findGeneration number
    pure generation.threadId
  else none

section

variable {schemaV1 : Bool} {d d' : ConversationDocument} {cwd : String} {host : Host}
variable {binding : BindingInput}

/-- The thread of a head depends on the heads and the conversations only. -/
theorem headThread_congr (heads : d'.workspaceHeads = d.workspaceHeads)
    (conversations : d'.conversations = d.conversations) (cwd : String) :
    d'.headThread cwd = d.headThread cwd := by
  simp only [headThread, headOf, findConversation, heads, conversations]

/-- A workspace that waits for a selection names no thread. -/
theorem Ambiguous.headThread (h : Ambiguous d cwd) : d.headThread cwd = none := by
  obtain ⟨head, hf, hs⟩ := h
  simp [ConversationDocument.headThread, hf, hs]

/-- Marking a workspace keeps the threads of the others. -/
theorem headThread_markHeadNeedsSelection (d : ConversationDocument) (cwd other : String) :
    (d.markHeadNeedsSelection cwd).headThread other =
      if other = cwd then none else d.headThread other := by
  split_ifs with h
  · rw [h]
    exact (ambiguous_markHeadNeedsSelection d cwd).headThread
  · simp only [headThread, headOf_markHeadNeedsSelection_of_ne d (Ne.symm h), findConversation,
      markHeadNeedsSelection_conversations]

/-- A binding keeps the threads of the other workspaces. -/
theorem Binds.headThread_of_ne (hd : Contents schemaV1 d) (h : Binds host binding d d')
    (hne : binding.canonicalCwd ≠ cwd) : d'.headThread cwd = d.headThread cwd := by
  have head : d'.headOf cwd = d.headOf cwd := by
    obtain ⟨-, -, -, bound⟩ := h
    cases bound with
    | existing => exact headOf_setReadyHead_of_ne _ hne _ _
    | new => exact headOf_setReadyHead_of_ne _ hne _ _
  unfold headThread
  rw [head]
  cases hf : d.headOf cwd with
  | none => rfl
  | some head =>
    by_cases ready : head.state = .ready
    · have ok := hd.heads head (List.mem_of_find?_eq_some hf)
      obtain ⟨c, hc, g, hfc, hid, hn, -, hlast, -, hcwd⟩ := ok.ready hd.conversations ready
      have hkey : head.canonicalCwd = cwd := by
        have key : isHeadOf cwd head = true := List.find?_some hf
        simp only [isHeadOf, decide_eq_true_eq] at key
        exact key.2
      have apart : ∀ g' ∈ c.generations, g'.canonicalCwd ≠ binding.canonicalCwd := by
        intro g' hg' he
        have same := (hd.conversations c hc).cwd_eq hg' (List.mem_of_getLast? hlast)
        exact hne (by rw [← he, same, hcwd, hkey])
      simp [hid, hn, hfc, h.findConversation_eq hd.ids hfc apart]
    · simp [ready]

/-- The conversation of a binding has its thread under the number that the new head names. -/
theorem Binds.headThread_self (h : Binds host binding d d') (hd' : Contents schemaV1 d') :
    d'.headThread binding.canonicalCwd = some binding.threadId := by
  obtain ⟨-, -, -, bound⟩ := h
  have named : ∀ {c : Conversation} {g : ConversationGeneration}, c ∈ d'.conversations →
      g ∈ c.generations → g.threadId = binding.threadId →
      d'.headOf binding.canonicalCwd = some ⟨.codex, binding.canonicalCwd, .ready,
        some c.conversationId, some g.generation⟩ →
      d'.headThread binding.canonicalCwd = some binding.threadId := by
    intro c g hc hg thread head
    have found : d'.findConversation c.conversationId = some c := find?_of_nodup_map hd'.ids hc
    have numbered : c.findGeneration g.generation = some g := by
      obtain ⟨i, hi⟩ := List.mem_iff_getElem?.1 hg
      rw [(hd'.conversations c hc).findGeneration_eq, (hd'.conversations c hc).number_eq hi, hi]
    simp [headThread, head, found, numbered, thread]
  cases bound with
  | existing c g hc hg active cwd =>
    have thread : g.threadId = binding.threadId := by
      have same := List.find?_some hg
      simp only [bindsSame, decide_eq_true_eq] at same
      exact same.2
    refine named (c := { c with lastSafeLifecycle := binding.lifecycle }) ?_
      (List.mem_of_find?_eq_some hg) thread (headOf_setReadyHead _ _ _ _)
    obtain ⟨l₁, l₂, hl, -, -, hu⟩ := exists_split_of_find? hc
    change _ ∈ updateFirst _ _ d.conversations
    rw [hu]
    simp
  | new boundAt now hnew =>
    exact named (c := firstConversation host.newV4.toString binding boundAt)
      (g := firstGeneration binding boundAt) (List.mem_append_right _ (List.mem_singleton.2 rfl))
      (List.mem_singleton.2 rfl) rfl (headOf_setReadyHead _ _ _ _)

end

/-! ## Finishing a launch -/

section

variable [Sha256]

section

variable {host : Host} {disk : Disk} {pending : PendingLaunch} {resolution : LaunchResolution}

/-- What a call that finishes a launch leaves of the document. -/
inductive Finishing (host : Host) (pending : PendingLaunch) (resolution : LaunchResolution)
    (d : ConversationDocument) : ConversationDocument → Prop
  | refused : Finishing host pending resolution d d
  | published (result : Option HeadBinding) (edited : ConversationDocument)
      (operation_eq : d.finishLaunch host pending.launchId resolution = .ok (result, edited))
      (valid : validateDocument { edited with revision := edited.revision + 1 } = .ok ()) :
      Finishing host pending resolution d { edited with revision := edited.revision + 1 }

/-- A call that finishes a launch publishes the edited document or keeps the files, and keeps them
when it fails otherwise than by an uncertain commit. -/
theorem finishLaunch_finishing (host : Host) (pending : PendingLaunch)
    (resolution : LaunchResolution) (disk : Disk) :
    Finishing host pending resolution disk.document
        (ConversationRegistry.finishLaunch host pending.launchId resolution disk).2.document ∧
      ∀ e, (ConversationRegistry.finishLaunch host pending.launchId resolution disk).1 = .error e →
        e ≠ .commitUncertain →
        (ConversationRegistry.finishLaunch host pending.launchId resolution disk).2 = disk := by
  unfold ConversationRegistry.finishLaunch
  rw [lift_bind_apply]
  cases validateUuid pending.launchId "launch id" with
  | error e => exact ⟨.refused, fun _ _ _ => rfl⟩
  | ok _ =>
    dsimp only
    rcases ht : transact host (fun d => d.finishLaunch host pending.launchId resolution) disk with
      ⟨r, disk'⟩
    have outcome := transact_cases ht
    cases outcome with
    | refused e => exact ⟨.refused, fun _ _ _ => rfl⟩
    | backedUp e original hv => cases hv
    | published result _ p hr =>
      obtain ⟨original, document, edited, published, hload, hprep, hop, hrev, hcheck, rfl⟩ := p
      cases hprep
      obtain ⟨rfl, -⟩ := document_of_load hload
      obtain ⟨room, rfl⟩ := nextRevision_eq hrev
      refine ⟨.published result edited hop (checkSave_iff.1 hcheck).1, ?_⟩
      intro e he hne
      obtain rfl | rfl := hr
      · cases he
      · exact absurd (Except.error.inj he).symm hne

/-- Marking the capture of a launch as failed keeps everything but its phase. -/
theorem markCaptureFailed_document (host : Host) (launchId : String) (disk : Disk) :
    let d' := (ConversationRegistry.markCaptureFailed host launchId disk).2.document
    d'.workspaceHeads = disk.document.workspaceHeads ∧
      d'.conversations = disk.document.conversations ∧
      d'.pendingLaunches.map (·.canonicalCwd) =
        disk.document.pendingLaunches.map (·.canonicalCwd) := by
  have step := document_step host (.markCaptureFailed launchId) disk
  simp only [Operation.step, Operation.run] at step
  generalize (ConversationRegistry.markCaptureFailed host launchId disk).2.document = d' at step
  cases step with
  | same => exact ⟨rfl, rfl, rfl⟩
  | published document edited body change =>
    cases change with
    | captureFailed =>
      refine ⟨body.workspaceHeads, body.conversations, ?_⟩
      rw [← body.pendingLaunches]
      refine map_updateFirst ?_
      exact fun _ => rfl
    | advanced t t' active h => cases h

variable {d d' : ConversationDocument} {schemaV1 : Bool}

omit [Sha256]

/-- The ways a launch is finished, with what each one presupposes. -/
inductive FinishedAs (host : Host) (pending : PendingLaunch) (resolution : LaunchResolution)
    (d : ConversationDocument) : ConversationDocument → Prop
  | marked (open_ : pending.mode.isUntracked = true ∨ resolution ≠ .noThread) :
      FinishedAs host pending resolution d
        ((d.dropPending pending.launchId).markHeadNeedsSelection pending.canonicalCwd)
  | waiting (h : d.needsSelection pending.canonicalCwd = true) :
      FinishedAs host pending resolution d (d.dropPending pending.launchId)
  | left (h : resolution = .noThread) :
      FinishedAs host pending resolution d (d.dropPending pending.launchId)
  | bound (binding : BindingInput) {edited : ConversationDocument} (h : resolution = .bind binding)
      (cwd : binding.canonicalCwd = pending.canonicalCwd)
      (binds : Binds host binding (d.dropPending pending.launchId) edited) :
      FinishedAs host pending resolution d edited

theorem finishedAs_of_eq {result : Option HeadBinding}
    (found : d.pendingLaunches.find? (fun p => p.launchId = pending.launchId) = some pending)
    (h : d.finishLaunch host pending.launchId resolution = .ok (result, d')) :
    FinishedAs host pending resolution d d' := by
  simp only [ConversationDocument.finishLaunch, found, okOr, ok_bind] at h
  change (if pending.mode.isUntracked = true then _ else
    if d.needsSelection pending.canonicalCwd = true then _ else _) = _ at h
  split_ifs at h with untracked waiting
  · cases h
    exact .marked (Or.inl untracked)
  · cases h
    exact .waiting waiting
  · cases resolution with
    | bind binding =>
      dsimp only at h
      split_ifs at h with differs
      · cases h
        exact .marked (Or.inr (by simp))
      · simp only [bind_eq_ok] at h
        obtain ⟨⟨head, bound⟩, hb, h⟩ := h
        cases h
        simp only [not_or, Decidable.not_not] at differs
        exact .bound binding rfl differs.2.1 (bindDocument_cases hb)
    | noThread =>
      cases h
      exact .left rfl
    | ambiguous =>
      cases h
      exact .marked (Or.inr (by simp))

/-- A resolved head names its thread. -/
theorem headThread_of_resolve {cwd : String} {head : HeadBinding}
    (h : d.resolveHeadDocument cwd = .ok head) : d.headThread cwd = some head.threadId := by
  simp only [ConversationDocument.resolveHeadDocument, bind_eq_ok, okOr_eq_ok, rejectIf_eq_ok,
    Decidable.not_not, pure_eq_ok] at h
  obtain ⟨_, -, _, -, head', hf, _, ready, id, hid, number, hn, c, hc, g, hg, rfl⟩ := h
  simp [headThread, hf, ready, hid, hn, hc, hg, Conversation.headBinding]

/-- A workspace with a launch has no head to resolve. -/
theorem resolveHeadDocument_of_launching {cwd : String}
    (h : cwd ∈ d.pendingLaunches.map (·.canonicalCwd)) (head : HeadBinding) :
    d.resolveHeadDocument cwd ≠ .ok head := by
  intro hr
  simp only [ConversationDocument.resolveHeadDocument, bind_eq_ok, rejectIf_eq_ok] at hr
  obtain ⟨_, -, _, idle, -⟩ := hr
  obtain ⟨p, hp, hcwd⟩ := List.mem_map.1 h
  exact idle (List.any_eq_true.2 ⟨p, hp, by simpa using hcwd⟩)

namespace Finishing

/-- Finishing a launch keeps the threads of the other workspaces. -/
theorem others (hd : Contents schemaV1 d) (mem : pending ∈ d.pendingLaunches)
    (h : Finishing host pending resolution d d') {other : String}
    (hne : other ≠ pending.canonicalCwd) : d'.headThread other = d.headThread other := by
  cases h with
  | refused => rfl
  | published result edited hop valid =>
    have as := finishedAs_of_eq (find?_of_nodup_map hd.launchIds mem) hop
    change edited.headThread other = _
    cases as with
    | marked =>
      rw [headThread_markHeadNeedsSelection, if_neg hne]
      rfl
    | waiting => rfl
    | left => rfl
    | bound binding hres cwd binds =>
      have kept := binds.headThread_of_ne (hd.dropPending _) (cwd.trans_ne hne.symm)
      exact kept

/-- The head of the workspace keeps its thread, names the thread that is bound, or names none. -/
theorem thread (hd : Contents schemaV1 d) (mem : pending ∈ d.pendingLaunches)
    (h : Finishing host pending resolution d d') {threadId : String}
    (hthread : d'.headThread pending.canonicalCwd = some threadId) :
    d.headThread pending.canonicalCwd = some threadId ∨
      ∃ binding, resolution = .bind binding ∧ binding.threadId = threadId := by
  cases h with
  | refused => exact Or.inl hthread
  | published result edited hop valid =>
    have as := finishedAs_of_eq (find?_of_nodup_map hd.launchIds mem) hop
    change edited.headThread _ = _ at hthread
    cases as with
    | marked =>
      rw [headThread_markHeadNeedsSelection, if_pos rfl] at hthread
      cases hthread
    | waiting => exact Or.inl hthread
    | left => exact Or.inl hthread
    | bound binding hres cwd binds =>
      refine Or.inr ⟨binding, hres, ?_⟩
      have contents : Contents _ edited := (contents_of_valid valid).congr rfl rfl rfl
      have self := binds.headThread_self contents
      rw [cwd] at self
      exact Option.some.inj (self.symm.trans hthread)

/-- After a launch was finished without `noThread`, its workspace resolves to the thread that was
bound or to none. -/
theorem resolved (hd : Contents schemaV1 d) (mem : pending ∈ d.pendingLaunches)
    (sticky : d.needsSelection pending.canonicalCwd = true → Ambiguous d pending.canonicalCwd)
    (h : Finishing host pending resolution d d') (hres : resolution ≠ .noThread) {head : HeadBinding}
    (hhead : d'.resolveHeadDocument pending.canonicalCwd = .ok head) :
    ∃ binding, resolution = .bind binding ∧ binding.threadId = head.threadId := by
  cases h with
  | refused =>
    have hcwd : pending.canonicalCwd ∈ d.pendingLaunches.map (·.canonicalCwd) :=
      List.mem_map_of_mem mem
    exact absurd hhead (resolveHeadDocument_of_launching hcwd head)
  | published result edited hop valid =>
    have as := finishedAs_of_eq (find?_of_nodup_map hd.launchIds mem) hop
    have named := headThread_of_resolve hhead
    change edited.headThread _ = _ at named
    cases as with
    | marked =>
      rw [headThread_markHeadNeedsSelection, if_pos rfl] at named
      cases named
    | waiting waiting =>
      have none : d.headThread pending.canonicalCwd = none := (sticky waiting).headThread
      rw [show (d.dropPending pending.launchId).headThread _ = _ from none] at named
      cases named
    | left hleft => exact absurd hleft hres
    | bound binding hres cwd binds =>
      refine ⟨binding, hres, ?_⟩
      have contents : Contents _ edited := (contents_of_valid valid).congr rfl rfl rfl
      have self := binds.headThread_self contents
      rw [cwd] at self
      exact Option.some.inj (self.symm.trans named)

/-- A tracked launch without a thread keeps the heads. -/
theorem heads_of_noThread (hd : Contents schemaV1 d) (mem : pending ∈ d.pendingLaunches)
    (tracked : pending.mode.isUntracked = false) (h : Finishing host pending .noThread d d') :
    d'.workspaceHeads = d.workspaceHeads := by
  cases h with
  | refused => rfl
  | published result edited hop valid =>
    have as := finishedAs_of_eq (find?_of_nodup_map hd.launchIds mem) hop
    change edited.workspaceHeads = _
    cases as with
    | marked h =>
      obtain untracked | hne := h
      · rw [tracked] at untracked
        cases untracked
      · exact absurd rfl hne
    | waiting => rfl
    | left => rfl
    | bound binding hres => cases hres

end Finishing

end

end

end Calcifer
