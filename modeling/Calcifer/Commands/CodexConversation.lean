import Calcifer.Conversations.Binding

/-!
# Candidate bindings

How a launch is resolved once its thread is known. `finishCandidateBinding` binds the thread, and
turns the conflicts it takes for permanent into an ambiguous workspace by a second call
(`finishReconciliationFailure`). Each call is a transaction of its own with its own host.

`finish_candidate_binding_iff` says when this leaves no launch behind: always, except when the thread
is an older generation of a lineage of the same profile. That conflict is reported with an error the
caller does not count as permanent.
-/

namespace Calcifer

open Checks Lists RegistryM ConversationDocument

/-- The errors of a command. -/
inductive AppError where
  | conversation (error : ConversationError)
  /-- The errors of other parts of the program, by their code. -/
  | other (code : String)
deriving DecidableEq, Repr

/-- A command that works on the registry. What is on disk is kept when it fails. -/
def CommandM (α : Type) : Type := Disk → Except AppError α × Disk

namespace CommandM

variable {α β : Type}

instance : Monad CommandM where
  pure a := fun disk => (.ok a, disk)
  bind x f := fun disk => match x disk with
    | (.ok a, disk) => f a disk
    | (.error e, disk) => (.error e, disk)

/-- A call of the registry. -/
def call (x : RegistryM α) : CommandM α := fun disk =>
  match x disk with
  | (.ok a, disk) => (.ok a, disk)
  | (.error e, disk) => (.error (.conversation e), disk)

def fail (e : AppError) : CommandM α := fun disk => (.error e, disk)

theorem bind_apply (x : CommandM α) (f : α → CommandM β) (disk : Disk) :
    (x >>= f) disk = match x disk with
      | (.ok a, disk) => f a disk
      | (.error e, disk) => (.error e, disk) := rfl

end CommandM

open CommandM

/-- The failures of a reconciliation that no later attempt can mend. -/
def AppError.terminal : AppError → Bool
  | .conversation .rolloutMissing | .conversation .archived
  | .conversation .sessionSchemaUnsupported | .conversation .codexVersionUnsupported
  | .conversation .profileMismatch | .conversation .cwdMismatch
  | .conversation .threadProtocolInvalid => true
  | _ => false

section

variable [Sha256]

def finishReconciliationFailure (host : Host) (launchId : String) (error : AppError) :
    CommandM Unit := do
  if error.terminal then
    let _ ← call (ConversationRegistry.finishLaunch host launchId .ambiguous)
  else
    call (ConversationRegistry.markCaptureFailed host launchId)
  fail error

/-- Bind the thread of a launch. `host` is what the binding reads from its surroundings, `next` what
the second call does. -/
def finishCandidateBinding (host next : Host) (launchId : String) (binding : BindingInput) :
    CommandM Bool := fun disk =>
  match ConversationRegistry.finishLaunch host launchId (.bind binding) disk with
  | (.ok (some _), disk) => (.ok true, disk)
  | (.ok none, disk) => (.ok false, disk)
  | (.error error, disk) =>
    if error = .profileMismatch ∨ error = .cwdMismatch then
      (do
        finishReconciliationFailure next launchId (.conversation error)
        pure false : CommandM Bool) disk
    else (.error (.conversation error), disk)

/-! ## A launch and the binding of its thread -/

/-- A tracked launch and a well-formed binding for its profile and its workspace. -/
structure Candidate (d : ConversationDocument) (pending : PendingLaunch) (binding : BindingInput) :
    Prop where
  pending_mem : pending ∈ d.pendingLaunches
  tracked : pending.mode.isUntracked = false
  input : validateBindingInput binding = .ok ()
  profile : binding.profileId = pending.profileId
  cwd : binding.canonicalCwd = pending.canonicalCwd

/-- The document that resolves a launch whose thread is no older generation: without the launch, and
with the workspace left ambiguous, marked so, or bound. -/
def ConversationDocument.settlement (d : ConversationDocument) (host : Host)
    (pending : PendingLaunch) (binding : BindingInput) (now : ℤ) : ConversationDocument :=
  let d := d.dropPending pending.launchId
  if d.needsSelection pending.canonicalCwd then d
  else if d.ownedByOther binding ∨ d.ownedElsewhere binding then
    d.markHeadNeedsSelection pending.canonicalCwd
  else d.rebound host binding now

/-- The workspace of a binding is bound to its thread, or ambiguous. -/
def Determined (binding : BindingInput) (r : Except AppError Bool) (d : ConversationDocument) : Prop :=
  (r = .ok true ∧ ∃ head, d.resolveHeadDocument binding.canonicalCwd = .ok head ∧
      head.profileId = binding.profileId ∧ head.threadId = binding.threadId) ∨
    Ambiguous d binding.canonicalCwd

/-- No launch is left, and the workspace is bound to the thread or ambiguous. -/
def Settled (launchId : String) (binding : BindingInput) (r : Except AppError Bool × Disk) : Prop :=
  (∀ p ∈ r.2.document.pendingLaunches, p.launchId ≠ launchId) ∧
    Determined binding r.1 r.2.document

section

variable {d : ConversationDocument} {pending : PendingLaunch} {binding : BindingInput}
variable {schemaV1 : Bool} {host next : Host} {now : ℤ} {disk : Disk}

namespace Candidate

omit [Sha256]

theorem pendingOk (hd : Contents schemaV1 d) (h : Candidate d pending binding) : PendingOk pending :=
  hd.pendings pending h.pending_mem

theorem found (hd : Contents schemaV1 d) (h : Candidate d pending binding) :
    d.pendingLaunches.find? (fun p => p.launchId = pending.launchId) = some pending :=
  find?_of_nodup_map hd.launchIds h.pending_mem

/-- There is one supported version, so the versions of the launch and of the binding agree. -/
theorem version (hd : Contents schemaV1 d) (h : Candidate d pending binding) :
    pending.codexVersion = some binding.codexVersion := by
  have capture := (h.pendingOk hd).capture
  have input := h.input
  simp only [validateCapture, h.tracked, Bool.false_eq_true, if_false, bind_eq_ok, okOr_eq_ok,
    validateCodexVersion, rejectIf_eq_ok, Decidable.not_not] at capture
  simp only [validateBindingInput, check_bind_eq_ok, validateCodexVersion, rejectIf_eq_ok,
    Decidable.not_not] at input
  obtain ⟨version, hversion, rfl⟩ := capture
  rw [hversion, input.2.2.2.1]

/-- A launch keeps the active transition out of its workspace. -/
theorem free (hv : validateDocument d = .ok ()) (h : Candidate d pending binding) :
    (d.dropPending pending.launchId).transitioning binding.canonicalCwd = false := by
  change d.transitioning binding.canonicalCwd = false
  cases ht : d.transitioning binding.canonicalCwd with
  | false => rfl
  | true =>
    have idle := launching_of_transitioning hv ht
    rw [launching, List.any_eq_false] at idle
    exact absurd (by simp [h.cwd]) (idle pending h.pending_mem)

/-- Dropping a launch leaves its workspace without one. -/
theorem launching_dropPending (hd : Contents schemaV1 d) (h : Candidate d pending binding) :
    (d.dropPending pending.launchId).launching binding.canonicalCwd = false := by
  refine List.any_eq_false.2 fun p hp hcwd => ?_
  have hmem : p ∈ d.pendingLaunches := List.mem_of_mem_eraseP hp
  have hne := ne_of_mem_eraseP hd.launchIds hp
  rw [decide_eq_true_eq, h.cwd] at hcwd
  exact hne (congrArg _ (List.inj_on_of_nodup_map hd.launchCwds hmem h.pending_mem hcwd))

/-- Finishing the launch with its thread, or with an ambiguity, drops it first and respects an
ambiguity that came in between. -/
theorem finishLaunch_eq (hd : Contents schemaV1 d) (h : Candidate d pending binding) (host : Host) :
    (d.finishLaunch host pending.launchId (.bind binding) =
      if d.needsSelection pending.canonicalCwd then .ok (none, d.dropPending pending.launchId)
      else do
        let (head, bound) ← (d.dropPending pending.launchId).bindDocument host binding
        pure (some head, bound)) ∧
    d.finishLaunch host pending.launchId .ambiguous =
      if d.needsSelection pending.canonicalCwd then .ok (none, d.dropPending pending.launchId)
      else .ok (none,
        (d.dropPending pending.launchId).markHeadNeedsSelection pending.canonicalCwd) := by
  have match_eq : ¬ (binding.profileId ≠ pending.profileId ∨
      binding.canonicalCwd ≠ pending.canonicalCwd ∨
      pending.codexVersion ≠ some binding.codexVersion) := by
    simp [h.profile, h.cwd, h.version hd]
  unfold ConversationDocument.finishLaunch
  simp only [h.found hd, okOr, ok_bind, h.tracked, Bool.false_eq_true, if_false, if_neg match_eq]
  exact ⟨rfl, rfl⟩

end Candidate

/-! ## Settling a launch -/

omit [Sha256] in
/-- A launch that is still there is not settled. -/
theorem Candidate.not_settled (h : Candidate disk.document pending binding)
    (r : Except AppError Bool) : ¬ Settled pending.launchId binding (r, disk) :=
  fun settled => settled.1 pending h.pending_mem rfl

/-- The first call refuses the binding, and the launch stays. -/
theorem finishCandidateBinding_of_error (hr : Reachable disk)
    (h : Candidate disk.document pending binding) {e : ConversationError} {disk' : Disk}
    (he : transact host (fun d => d.finishLaunch host pending.launchId (.bind binding)) disk =
      (.error e, disk')) (hp : e ≠ .profileMismatch) (hc : e ≠ .cwdMismatch) :
    finishCandidateBinding host next pending.launchId binding disk =
      (.error (.conversation e), disk') := by
  have hid := (h.pendingOk hr.contents).launch
  simp only [finishCandidateBinding, ConversationRegistry.finishLaunch, lift_bind_apply, hid, he, hp,
    hc, or_self, if_false]

/-- The first call resolves the launch. -/
theorem finishCandidateBinding_of_ok (hr : Reachable disk)
    (h : Candidate disk.document pending binding) {head : Option HeadBinding} {disk' : Disk}
    (he : transact host (fun d => d.finishLaunch host pending.launchId (.bind binding)) disk =
      (.ok head, disk')) :
    finishCandidateBinding host next pending.launchId binding disk = (.ok head.isSome, disk') := by
  have hid := (h.pendingOk hr.contents).launch
  simp only [finishCandidateBinding, ConversationRegistry.finishLaunch, lift_bind_apply, hid, he]
  cases head <;> rfl

/-- The second call marks the workspace after a conflict that counts as permanent. -/
theorem finishCandidateBinding_of_conflict (hr : Reachable disk)
    (h : Candidate disk.document pending binding) {e : ConversationError}
    (he : transact host (fun d => d.finishLaunch host pending.launchId (.bind binding)) disk =
      (.error e, disk)) (hconflict : e = .profileMismatch ∨ e = .cwdMismatch) :
    finishCandidateBinding host next pending.launchId binding disk =
      match transact next (fun d => d.finishLaunch next pending.launchId .ambiguous) disk with
      | (.ok _, disk') => (.error (.conversation e), disk')
      | (.error e', disk') => (.error (.conversation e'), disk') := by
  have hid := (h.pendingOk hr.contents).launch
  have terminal : (AppError.conversation e).terminal = true := by
    obtain rfl | rfl := hconflict <;> rfl
  simp only [finishCandidateBinding, ConversationRegistry.finishLaunch, lift_bind_apply, hid, he,
    hconflict, if_true, finishReconciliationFailure, terminal, CommandM.bind_apply, call, fail]
  rcases transact next (fun d => d.finishLaunch next pending.launchId .ambiguous) disk with
    ⟨_ | _, disk'⟩ <;> rfl

omit [Sha256] in
/-- Publishing a resolution of the launch settles it. -/
theorem settled_of_determined {edited : ConversationDocument} {r : Except AppError Bool}
    (hd : Contents schemaV1 d)
    (launches : edited.pendingLaunches = (d.dropPending pending.launchId).pendingLaunches)
    (workspace : Determined binding r edited) :
    Settled pending.launchId binding
      (r, { disk with registry := some { edited with revision := edited.revision + 1 } }) := by
  refine ⟨fun p hp => ?_, workspace⟩
  have hp' : p ∈ edited.pendingLaunches := hp
  rw [launches] at hp'
  exact ne_of_mem_eraseP hd.launchIds hp'

section

variable {edited : ConversationDocument}

/-- A launch that the first call resolves is settled exactly when there is room for it. -/
theorem Candidate.settled_iff_of_ok (hr : Reachable disk)
    (h : Candidate disk.document pending binding) (hf : host.fault = none)
    {head : Option HeadBinding}
    (hop : disk.document.finishLaunch host pending.launchId (.bind binding) = .ok (head, edited))
    (hv : validateDocument edited = .ok ())
    (launches : edited.pendingLaunches =
      (disk.document.dropPending pending.launchId).pendingLaunches)
    (workspace : Determined binding (.ok head.isSome) edited) :
    Settled pending.launchId binding
      (finishCandidateBinding host next pending.launchId binding disk) ↔ Fits edited := by
  by_cases fits : Fits edited
  · rw [finishCandidateBinding_of_ok hr h (transact_of_fits hr hf hop hv fits)]
    exact iff_of_true (settled_of_determined hr.contents launches workspace) fits
  · obtain ⟨reason, he⟩ : ∃ reason, transact host
        (fun d => d.finishLaunch host pending.launchId (.bind binding)) disk =
          (.error (invalid reason), disk) := transact_of_not_fits hr hf hop hv fits
    rw [finishCandidateBinding_of_error hr h he nofun nofun]
    exact iff_of_false (h.not_settled _) fits

/-- A launch whose binding meets a permanent conflict is settled exactly when there is room for the
mark. -/
theorem Candidate.settled_iff_of_conflict (hr : Reachable disk)
    (h : Candidate disk.document pending binding) (hf : host.fault = none)
    (hf' : next.fault = none) {e : ConversationError}
    (hop : disk.document.finishLaunch host pending.launchId (.bind binding) = .error e)
    (hconflict : e = .profileMismatch ∨ e = .cwdMismatch)
    (hop' : disk.document.finishLaunch next pending.launchId .ambiguous = .ok (none, edited))
    (hv : validateDocument edited = .ok ())
    (launches : edited.pendingLaunches =
      (disk.document.dropPending pending.launchId).pendingLaunches)
    (workspace : Ambiguous edited binding.canonicalCwd) :
    Settled pending.launchId binding
      (finishCandidateBinding host next pending.launchId binding disk) ↔ Fits edited := by
  rw [finishCandidateBinding_of_conflict hr h (transact_error hf hr.load_eq hop) hconflict]
  by_cases fits : Fits edited
  · rw [transact_of_fits hr hf' hop' hv fits]
    exact iff_of_true (settled_of_determined hr.contents launches (Or.inr workspace)) fits
  · obtain ⟨reason, he⟩ : ∃ reason, transact next
        (fun d => d.finishLaunch next pending.launchId .ambiguous) disk =
          (.error (invalid reason), disk) := transact_of_not_fits hr hf' hop' hv fits
    rw [he]
    exact iff_of_false (h.not_settled _) fits

end

omit [Sha256] in
/-- The workspace of a launch that was bound resolves to its thread. -/
theorem Candidate.determined_rebound (hv : validateDocument d = .ok ())
    (h : Candidate d pending binding) {bound : ConversationDocument}
    (hb : Binds host binding (d.dropPending pending.launchId) bound)
    (hd' : Contents schemaV1 bound) {c : Conversation} {g : ConversationGeneration}
    (names : Names bound binding c g) : Determined binding (.ok true) bound := by
  have launches : bound.launching binding.canonicalCwd = false := by
    have := h.launching_dropPending (contents_of_valid hv)
    cases hb.bound with
    | existing => exact this
    | new => exact this
  have free : bound.transitioning binding.canonicalCwd = false := by
    rw [transitioning, hb.activeTransition]
    exact hb.free
  have number : g.generation = c.activeGeneration := by
    simpa using List.find?_some names.generation_eq
  refine Or.inl ⟨rfl, c.headBinding g, (resolved_iff hd').2 ⟨c, g, free, launches, names.head_eq,
    names.conversation_eq, names.generation_eq, number, names.cwd, rfl⟩, names.profile, names.thread⟩

/-- A launch whose thread can be bound is settled exactly when there is room for the binding. -/
theorem Candidate.settled_iff_of_bound (hr : Reachable disk)
    (h : Candidate disk.document pending binding) (hf : host.fault = none)
    (hn : disk.document.needsSelection pending.canonicalCwd = false)
    {head : HeadBinding} {bound : ConversationDocument}
    (hb : (disk.document.dropPending pending.launchId).bindDocument host binding = .ok (head, bound))
    (ok : ∀ schemaV1, Contents schemaV1 (disk.document.dropPending pending.launchId) →
      Contents schemaV1 bound ∧ ∃ c g, Names bound binding c g) :
    Settled pending.launchId binding
      (finishCandidateBinding host next pending.launchId binding disk) ↔ Fits bound := by
  have hop : disk.document.finishLaunch host pending.launchId (.bind binding) =
      .ok (some head, bound) := by
    rw [(h.finishLaunch_eq hr.contents host).1, if_neg (by simp [hn]), hb]
    rfl
  have binds := bindDocument_cases hb
  obtain ⟨contents, c, g, names⟩ := ok _ (hr.contents.dropPending _)
  have launches : bound.pendingLaunches =
      (disk.document.dropPending pending.launchId).pendingLaunches := by
    cases binds.bound <;> rfl
  exact h.settled_iff_of_ok hr hf hop
    (validateDocument_binds (validateDocument_dropPending hr.valid _) binds fun s hs => (ok s hs).1)
    launches (h.determined_rebound hr.valid binds contents names)

/-- A launch whose thread belongs to another profile or to another workspace is settled exactly when
there is room for the mark. -/
theorem Candidate.settled_iff_of_foreign (hr : Reachable disk)
    (h : Candidate disk.document pending binding) (hf : host.fault = none)
    (hf' : next.fault = none)
    (hn : disk.document.needsSelection pending.canonicalCwd = false) {e : ConversationError}
    (hb : (disk.document.dropPending pending.launchId).bindDocument host binding = .error e)
    (hconflict : e = .profileMismatch ∨ e = .cwdMismatch) :
    Settled pending.launchId binding
        (finishCandidateBinding host next pending.launchId binding disk) ↔
      Fits ((disk.document.dropPending pending.launchId).markHeadNeedsSelection
        pending.canonicalCwd) := by
  have hop : disk.document.finishLaunch host pending.launchId (.bind binding) = .error e := by
    rw [(h.finishLaunch_eq hr.contents host).1, if_neg (by simp [hn]), hb]
    rfl
  have hop' := (h.finishLaunch_eq hr.contents next).2
  rw [if_neg (by simp [hn])] at hop'
  have free := h.free hr.valid
  rw [h.cwd] at free
  refine h.settled_iff_of_conflict hr hf hf' hop hconflict hop' ?_ (by simp) ?_
  · exact validateDocument_markHeadNeedsSelection (validateDocument_dropPending hr.valid _)
      (h.pendingOk hr.contents).path free
  · rw [h.cwd]
    exact ambiguous_markHeadNeedsSelection _ _

/-- A launch whose thread is an older generation of its own profile stays as it is. -/
theorem Candidate.stuck_of_superseded (hr : Reachable disk)
    (h : Candidate disk.document pending binding) (hf : host.fault = none)
    (hn : disk.document.needsSelection pending.canonicalCwd = false)
    (hb : (disk.document.dropPending pending.launchId).bindDocument host binding =
      .error .ambiguous) :
    finishCandidateBinding host next pending.launchId binding disk =
      (.error (.conversation .ambiguous), disk) := by
  have hop : disk.document.finishLaunch host pending.launchId (.bind binding) =
      .error .ambiguous := by
    rw [(h.finishLaunch_eq hr.contents host).1, if_neg (by simp [hn]), hb]
    rfl
  exact finishCandidateBinding_of_error hr h (transact_error hf hr.load_eq hop) nofun nofun

/-- Finishing a candidate binding settles its launch exactly when the workspace already was ambiguous
or the thread is no older generation of a lineage of its profile, and the registry has room. -/
theorem finish_candidate_binding_iff (hr : Reachable disk)
    (h : Candidate disk.document pending binding) (hf : host.fault = none)
    (hf' : next.fault = none) (hnow : unixTimestamp host = .ok now)
    (fresh : ∀ c ∈ disk.document.conversations, c.conversationId ≠ host.newV4.toString) :
    Settled pending.launchId binding
        (finishCandidateBinding host next pending.launchId binding disk) ↔
      (disk.document.needsSelection pending.canonicalCwd = true ∨
        disk.document.superseded binding = false) ∧
      Fits (disk.document.settlement host pending binding now) := by
  have hd := hr.contents
  have input := h.input
  cases hn : disk.document.needsSelection pending.canonicalCwd with
  | true =>
    -- the launch is dropped under the ambiguity that is already there
    have hop := (h.finishLaunch_eq hd host).1
    rw [if_pos hn] at hop
    have ambiguous : Ambiguous disk.document binding.canonicalCwd := by
      rw [h.cwd]
      exact hr.needsSelection_iff.1 hn
    have settlement_eq : disk.document.settlement host pending binding now =
        disk.document.dropPending pending.launchId := if_pos hn
    rw [h.settled_iff_of_ok hr hf hop (validateDocument_dropPending hr.valid _) rfl
      (Or.inr (ambiguous.of_eq rfl)), settlement_eq]
    simp
  | false =>
    have hd₁ := hd.dropPending pending.launchId
    have free := h.free hr.valid
    have settlement_eq : disk.document.settlement host pending binding now =
        if (disk.document.dropPending pending.launchId).ownedByOther binding ∨
            (disk.document.dropPending pending.launchId).ownedElsewhere binding then
          (disk.document.dropPending pending.launchId).markHeadNeedsSelection pending.canonicalCwd
        else (disk.document.dropPending pending.launchId).rebound host binding now :=
      if_neg (by
        change ¬ disk.document.needsSelection pending.canonicalCwd = true
        simp [hn])
    simp only [Bool.false_eq_true, false_or, settlement_eq]
    change _ ↔ (disk.document.dropPending pending.launchId).superseded binding = false ∧ _
    cases threadOwner (disk.document.dropPending pending.launchId) binding.threadId with
    | none unbound =>
      have hb := bindDocument_of_unbound input free unbound hnow
      rw [h.settled_iff_of_bound hr hf hn hb fun s hs =>
        hs.rebound_of_unbound input unbound fresh (unixTimestamp_nonneg hnow)]
      simp [ownedByOther, ownedElsewhere, superseded, owned_eq_false unbound]
    | some c g hc hg thread =>
      have hb := hd₁.bindDocument_of_owner input free hc hg thread host now
      simp only [ownedByOther, ownedElsewhere, superseded, hd₁.owned_eq hc hg thread]
      by_cases hprofile : g.profileId = binding.profileId
      · by_cases hactive : g.generation = c.activeGeneration
        · by_cases hcwd : g.canonicalCwd = binding.canonicalCwd
          · simp only [hprofile, hactive, hcwd, ne_eq, not_true, if_false] at hb
            rw [h.settled_iff_of_bound hr hf hn hb fun s hs => by
              obtain ⟨ok, c, names⟩ :=
                hs.rebound_of_owner input hc hg thread hprofile hactive hcwd host now
              exact ⟨ok, c, g, names⟩]
            simp [hprofile, hactive, hcwd]
          · simp only [hprofile, hactive, hcwd, ne_eq, not_true, if_false, not_false_eq_true,
              if_true] at hb
            rw [h.settled_iff_of_foreign hr hf hf' hn hb (Or.inr rfl)]
            simp [hprofile, hactive, hcwd]
        · simp only [hprofile, hactive, ne_eq, not_true, if_false, not_false_eq_true,
            if_true] at hb
          rw [h.stuck_of_superseded hr hf hn hb]
          simp [hprofile, hactive, h.not_settled]
      · simp only [hprofile, ne_eq, not_false_eq_true, if_true] at hb
        rw [h.settled_iff_of_foreign hr hf hf' hn hb (Or.inl rfl)]
        simp [hprofile]

end

end

/-! ### A launch after the sample handoff -/

attribute [local instance] sampleSha256

/-- A launch of the old profile in the workspace of the sample. -/
def samplePending : PendingLaunch where
  launchId := sampleId 12
  profileId := sampleId 1
  canonicalCwd := "/work"
  mode := .run
  codexVersion := some "0.144.4"
  adapterVersion := cargoPkgVersion
  preInventory := []
  phase := .prepared
  startedAt := 1760000100

def sampleLaunched : ConversationDocument := { sampleAttached with
  revision := 9
  pendingLaunches := [samplePending] }

/-- The disk after that launch was prepared. -/
def sampleLaunchedDisk : Disk :=
  (Operation.beginLaunch (sampleId 1) "/work" .run "0.144.4" []).step
    (sampleHost 12 1760000100) (sampleDisk 8)

theorem sampleLaunchedDisk_document : sampleLaunchedDisk.document = sampleLaunched := by
  have hload := (sampleDisk_reachable 8).load_eq
  rw [sampleDisk_attached] at hload
  have hprofile : validateUuid (sampleId 1) "profile id" = .ok () := by decide +kernel
  have hid : (sampleUuid 12).toString = sampleId 12 := by decide +kernel
  have hop : sampleAttached.beginLaunch samplePending =
      .ok (false, { sampleLaunched with revision := 8 }) := by decide +kernel
  have ht : transact (sampleHost 12 1760000100) (fun d => d.beginLaunch samplePending)
      (sampleDisk 8) = (.ok false, { sampleDisk 8 with registry := some sampleLaunched }) :=
    transact_ok rfl hload hop rfl (by decide +kernel)
  rw [samplePending, ← hid] at ht
  have hmode : LaunchMode.run.isUntracked = false := rfl
  have hcwd : (sampleHost 12 1760000100).canonicalDirectory "/work" = some "/work" := rfl
  have hversion : validateCodexVersion "0.144.4" = .ok () := rfl
  have hinventory : normalizeInventory [] = .ok [] := rfl
  have hbegin := beginLaunch_ok hprofile hmode hcwd hversion hinventory rfl ht
  rw [sampleLaunchedDisk, step_beginLaunch hbegin]
  rfl

theorem sampleLaunchedDisk_reachable : Reachable sampleLaunchedDisk :=
  (sampleDisk_reachable 8).step _ _

theorem samplePending_candidate {binding : BindingInput}
    (input : validateBindingInput binding = .ok ()) (profile : binding.profileId = sampleId 1)
    (cwd : binding.canonicalCwd = "/work") :
    Candidate sampleLaunchedDisk.document samplePending binding := by
  rw [sampleLaunchedDisk_document]
  exact ⟨List.mem_singleton.2 rfl, rfl, input, profile, cwd⟩

/-- A new thread of the old profile. -/
def sampleNewBinding : BindingInput := { sampleBinding with threadId := sampleId 7 }

theorem finish_candidate_binding_new :
    Settled (sampleId 12) sampleNewBinding
      (finishCandidateBinding (sampleHost 13 1760000101) (sampleHost 14 1760000102) (sampleId 12)
        sampleNewBinding sampleLaunchedDisk) := by
  have candidate : Candidate sampleLaunchedDisk.document samplePending sampleNewBinding :=
    samplePending_candidate (by decide +kernel) rfl rfl
  have fresh : ∀ c ∈ sampleLaunchedDisk.document.conversations,
      c.conversationId ≠ (sampleHost 13 1760000101).newV4.toString := by
    rw [sampleLaunchedDisk_document]
    decide +kernel
  refine (finish_candidate_binding_iff sampleLaunchedDisk_reachable candidate rfl rfl rfl fresh).2 ?_
  rw [sampleLaunchedDisk_document]
  exact ⟨Or.inr (by decide +kernel), by decide, by decide +kernel⟩

/-- When the thread is the old generation of the handed-off lineage, the launch stays for ever: the
call fails and leaves everything as it was. -/
theorem finish_candidate_binding_superseded :
    Reachable sampleLaunchedDisk ∧
    Candidate sampleLaunchedDisk.document samplePending sampleBinding ∧
    finishCandidateBinding (sampleHost 13 1760000101) (sampleHost 14 1760000102)
        samplePending.launchId sampleBinding sampleLaunchedDisk =
      (.error (.conversation .ambiguous), sampleLaunchedDisk) ∧
    ¬ Settled samplePending.launchId sampleBinding
      (finishCandidateBinding (sampleHost 13 1760000101) (sampleHost 14 1760000102)
        samplePending.launchId sampleBinding sampleLaunchedDisk) := by
  have candidate : Candidate sampleLaunchedDisk.document samplePending sampleBinding :=
    samplePending_candidate (by decide +kernel) rfl rfl
  have stuck : finishCandidateBinding (sampleHost 13 1760000101) (sampleHost 14 1760000102)
      samplePending.launchId sampleBinding sampleLaunchedDisk =
        (.error (.conversation .ambiguous), sampleLaunchedDisk) := by
    refine candidate.stuck_of_superseded sampleLaunchedDisk_reachable rfl ?_ ?_ <;>
      rw [sampleLaunchedDisk_document] <;> decide +kernel
  refine ⟨sampleLaunchedDisk_reachable, candidate, stuck, ?_⟩
  rw [stuck]
  exact candidate.not_settled _

end Calcifer
