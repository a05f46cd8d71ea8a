import Calcifer.Conversations.Exclusion

/-!
# Ambiguity is sticky

A head that waits for a selection names no conversation to resume. Only an explicit adoption makes it
ready again: whatever else runs, in any order and however stale, the head keeps waiting and cannot be
resolved (`ambiguity_sticky`). Every `Change` is a lemma about one head list; the two places where a
ready head is written outside an adoption have their own guards.
-/

namespace Calcifer

open Checks Lists RegistryM ConversationDocument

/-- The head of a workspace waits for a selection. -/
def Ambiguous (d : ConversationDocument) (cwd : String) : Prop :=
  ∃ head, d.headOf cwd = some head ∧ head.state = .needsSelection

section

variable {d d' : ConversationDocument} {cwd : String}

theorem Ambiguous.of_eq (h : Ambiguous d cwd) (he : d'.workspaceHeads = d.workspaceHeads) :
    Ambiguous d' cwd := by
  unfold Ambiguous headOf at h ⊢
  rwa [he]

/-- Rewriting some head without making it ready keeps every ambiguity. -/
theorem Ambiguous.updateFirst {p : WorkspaceHead → Bool} {f : WorkspaceHead → WorkspaceHead}
    (h : Ambiguous d cwd) (he : d'.workspaceHeads = updateFirst p f d.workspaceHeads)
    (key : ∀ head, isHeadOf cwd (f head) = isHeadOf cwd head)
    (state : ∀ head, head.state = .needsSelection → (f head).state = .needsSelection) :
    Ambiguous d' cwd := by
  obtain ⟨head, hf, hs⟩ := h
  rw [Ambiguous, headOf, he]
  obtain h | h := find?_updateFirst_cases (p := p) key hf
  · exact ⟨head, h, hs⟩
  · exact ⟨f head, h, state head hs⟩

/-- Marking a workspace keeps every ambiguity. -/
theorem Ambiguous.markHeadNeedsSelection (h : Ambiguous d cwd) (marked : String) :
    Ambiguous (d.markHeadNeedsSelection marked) cwd := by
  unfold ConversationDocument.markHeadNeedsSelection
  split_ifs
  · exact h.updateFirst rfl (fun _ => rfl) fun _ _ => rfl
  · obtain ⟨head, hf, hs⟩ := h
    refine ⟨head, ?_, hs⟩
    unfold headOf at hf ⊢
    rw [List.find?_append, hf]
    rfl

/-- A marked workspace is ambiguous. -/
theorem ambiguous_markHeadNeedsSelection (d : ConversationDocument) (cwd : String) :
    Ambiguous (d.markHeadNeedsSelection cwd) cwd := by
  unfold ConversationDocument.markHeadNeedsSelection
  split_ifs with h
  · obtain ⟨head, hf⟩ := Option.isSome_iff_exists.1 h
    refine ⟨{ head with state := .needsSelection }, ?_, rfl⟩
    exact Eq.trans (find?_updateFirst_self fun _ => rfl) (congrArg _ hf)
  · rw [Option.not_isSome_iff_eq_none, headOf] at h
    refine ⟨⟨.codex, cwd, .needsSelection, none, none⟩, ?_, rfl⟩
    simp [headOf, List.find?_append, h, isHeadOf]

/-- Making another head ready does not touch the head of a workspace. -/
theorem headOf_setReadyHead_of_ne (d : ConversationDocument) {other : String} (hne : other ≠ cwd)
    (id : String) (n : ℕ) : (d.setReadyHead other id n).headOf cwd = d.headOf cwd := by
  have hkey : (fun head => decide (decide (¬ isHeadOf other head = true) = true ∧
      isHeadOf cwd head = true)) = isHeadOf cwd := by
    funext head
    by_cases h : head.canonicalCwd = cwd
    · have : ¬ cwd = other := fun h => hne h.symm
      simp [isHeadOf, h, this]
    · simp [isHeadOf, h]
  simp only [headOf, setReadyHead, List.find?_append, List.find?_filter, hkey]
  simp [isHeadOf, hne]

/-- Binding in another workspace keeps the ambiguity. -/
theorem Ambiguous.binds {host : Host} {binding : BindingInput} (h : Ambiguous d cwd)
    (hb : Binds host binding d d') (hne : binding.canonicalCwd ≠ cwd) : Ambiguous d' cwd := by
  obtain ⟨head, hf, hs⟩ := h
  obtain ⟨-, -, -, hb⟩ := hb
  cases hb with
  | existing => exact ⟨head, (headOf_setReadyHead_of_ne _ hne _ _).trans hf, hs⟩
  | new => exact ⟨head, (headOf_setReadyHead_of_ne _ hne _ _).trans hf, hs⟩

theorem Ambiguous.needsSelection (h : Ambiguous d cwd) : d.needsSelection cwd = true := by
  obtain ⟨head, hf, hs⟩ := h
  have hkey : isHeadOf cwd head = true := List.find?_some hf
  simp only [isHeadOf, decide_eq_true_eq] at hkey
  exact List.any_eq_true.2 ⟨head, List.mem_of_find?_eq_some hf, by simp [hkey.2, hs]⟩

/-- An ambiguous workspace has no head to resolve. -/
theorem Ambiguous.resolveHeadDocument (h : Ambiguous d cwd) (head : HeadBinding) :
    d.resolveHeadDocument cwd ≠ .ok head := by
  obtain ⟨head', hf, hs⟩ := h
  intro hr
  simp only [ConversationDocument.resolveHeadDocument, bind_eq_ok, okOr_eq_ok, rejectIf_eq_ok,
    Decidable.not_not] at hr
  obtain ⟨_, -, _, -, head'', hf', _, hready, -⟩ := hr
  obtain rfl : head' = head'' := Option.some.inj (hf.symm.trans hf')
  rw [hs] at hready
  cases hready

/-- Only an adoption in the workspace ends its ambiguity. -/
theorem Ambiguous.change {host : Host} {op : Operation} (h : Ambiguous d cwd)
    (hc : Change host op d d')
    (other : ∀ binding, op = .adopt binding → binding.canonicalCwd ≠ cwd) : Ambiguous d' cwd := by
  cases hc with
  | launched | started | captureFailed | prepared | advanced | attached => exact h.of_eq rfl
  | overlapped _ _ _ | marked _ _ _ => exact h.markHeadNeedsSelection _
  | untracked => exact (h.markHeadNeedsSelection _).of_eq rfl
  | finished pending found hfin =>
    have h₁ : ∀ id, Ambiguous (d.dropPending id) cwd := fun _ => h.of_eq rfl
    cases hfin with
    | marked => exact (h₁ _).markHeadNeedsSelection _
    | left => exact h₁ _
    | bound binding hr hcwd ready hb =>
      -- a launch does not bind a workspace that became ambiguous in the meantime
      refine (h₁ _).binds hb fun he => ?_
      rw [← hcwd, he, (h₁ _).needsSelection] at ready
      cases ready
  | adopted binding idle hb => exact h.binds hb (other binding rfl)
  | refreshed binding current head hb =>
    -- a refresh first resolves the head
    refine h.binds hb fun he => ?_
    rw [he] at head
    exact h.resolveHeadDocument current head
  | committed t target c now hcom => exact h.updateFirst rfl (fun _ => rfl) fun _ hs => hs

variable [Sha256] {disk disk' : Disk}

/-- An adoption of a workspace whose update became visible. -/
def Adopts (cwd : String) (disk : Disk) (host : Host) (op : Operation) : Prop :=
  ∃ binding, op = .adopt binding ∧ binding.canonicalCwd = cwd ∧
    ((op.run host disk).1 = .ok () ∨ (op.run host disk).1 = .error .commitUncertain)

/-- An adoption that fails in any other way leaves the files alone. -/
theorem adopt_visible_or_refused (host : Host) (binding : BindingInput) (disk : Disk) :
    (((Operation.adopt binding).run host disk).1 = .ok () ∨
      ((Operation.adopt binding).run host disk).1 = .error .commitUncertain) ∨
    (Operation.adopt binding).step host disk = disk := by
  simp only [Operation.step, Operation.run, ConversationRegistry.adopt, bind_apply, lift_apply]
  cases validateBindingInput binding with
  | error e => exact Or.inr rfl
  | ok _ =>
    dsimp only
    rcases ht : transact host (fun d => d.adopt host binding) disk with ⟨r, disk'⟩
    have outcome := transact_cases ht
    cases outcome with
    | refused e => exact Or.inr rfl
    | backedUp e original hv => cases hv
    | published result r p hr =>
      obtain rfl | rfl := hr
      · exact Or.inl (Or.inl rfl)
      · exact Or.inl (Or.inr rfl)

theorem Ambiguous.step (h : Ambiguous disk.document cwd) (host : Host) (op : Operation)
    (hop : ¬ Adopts cwd disk host op) : Ambiguous (op.step host disk).document cwd := by
  by_cases hadopt : ∃ binding, op = .adopt binding ∧ binding.canonicalCwd = cwd
  · obtain ⟨binding, rfl, hcwd⟩ := hadopt
    obtain hv | hsame := adopt_visible_or_refused host binding disk
    · exact absurd ⟨binding, rfl, hcwd, hv⟩ hop
    · rwa [hsame]
  · have step := document_step host op disk
    generalize (op.step host disk).document = d' at step
    cases step with
    | same => exact h
    | published document edited body change =>
      have h' : Ambiguous document cwd := h.of_eq body.workspaceHeads
      refine (h'.change change fun binding he hcwd => ?_).of_eq rfl
      exact hadopt ⟨binding, he, hcwd⟩

/-- Once the head of a workspace waits for a selection, it keeps waiting and resolving it keeps
failing, in every run without an adoption of the workspace. -/
theorem ambiguity_sticky (h : Ambiguous disk.document cwd)
    (r : RunOf (fun disk host op => ¬ Adopts cwd disk host op) disk disk') :
    Ambiguous disk'.document cwd ∧ ∀ (host : Host) (path : String),
      host.canonicalDirectory path = some cwd →
      Refused (ConversationRegistry.resolveHead host path) disk' := by
  have h' : Ambiguous disk'.document cwd := by
    induction r with
    | refl => exact h
    | step host op hop _ ih => exact ih.step host op hop
  refine ⟨h', fun host path hpath => .lift fun cwd' hcwd => .read ?_⟩
  obtain rfl : cwd = cwd' := by simpa [canonicalPathString, hpath] using hcwd
  exact h'.resolveHeadDocument

end

attribute [local instance] sampleSha256

/-- A launch that was prepared before its workspace was marked does not bind it when it ends. -/
theorem ambiguity_sticky_untracked :
    let calls : List (Host × Operation) :=
      [(sampleHost 10 1760000000, .prepareUntracked (sampleId 1) "/work" .runUntracked)]
    let later : List (Host × Operation) :=
      [(sampleHost 12 1760000001, .finishLaunch (sampleId 10) (.bind sampleBinding))]
    Ambiguous (runAll calls .empty).document "/work" ∧
      Ambiguous (runAll later (runAll calls .empty)).document "/work" := by
  intro calls later
  have marked : Ambiguous (runAll calls .empty).document "/work" :=
    ⟨⟨.codex, "/work", .needsSelection, none, none⟩, by decide +kernel, rfl⟩
  refine ⟨marked, (ambiguity_sticky marked (.runAll (.refl _) later fun call hcall disk => ?_)).1⟩
  obtain rfl : call = _ := by simpa [later] using hcall
  rintro ⟨binding, hop, -⟩
  cases hop

end Calcifer
