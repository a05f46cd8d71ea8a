import Calcifer.Conversations.HeadThread
import Calcifer.Commands.InventoryDiff
import Calcifer.Commands.CodexConversation

/-!
# Reconciling a launch with its inventories

When a launch has ended, or when it is found again after a crash, the current inventory of its
provider is compared with the recorded one, and the launch is resolved by the answer: no thread, one
thread, or an ambiguity. Both commands look the launch up, ask the provider, and end with one call
that resolves it (`completeTracked_leaves`, `reconcilePendingLaunch_leaves`).

`inventory_reconciliation` says what the comparison answers, and which of its answers can move the
head of the workspace to a thread.
-/

namespace Calcifer

open Checks Lists RegistryM ConversationDocument CommandM

/-! ## The commands -/

section

variable [Sha256]

/-- The launch of a profile in a workspace. -/
def ConversationRegistry.pendingFor (host : Host) (profileId path : String) :
    RegistryM (Option PendingLaunch) := do
  lift (validateUuid profileId "profile id")
  let canonicalCwd ← lift (canonicalPathString host path)
  read host fun document =>
    match document.pendingLaunches.filter fun pending =>
        pending.profileId = profileId ∧ pending.canonicalCwd = canonicalCwd with
    | [] => pure none
    | [first] => pure (some first)
    | _ :: _ :: _ => .error .ambiguous

/-- What the commands read from their surroundings: the answers of the provider, the canonical name
of a path, and the hosts of the calls of the registry (the reading one and at most two that write). -/
structure CaptureContext where
  profileId : String
  workingDirectory : String
  inventory : Except AppError CodexThreadInventory
  readThread : String → Except AppError CodexThreadRead
  canonicalize : String → Option String
  reading : Host
  finishing : Host
  marking : Host

namespace CaptureContext

omit [Sha256] in
def bindingFromRead (context : CaptureContext) (read : CodexThreadRead) :
    Except AppError BindingInput := do
  let canonicalCwd ← okOr (context.canonicalize context.workingDirectory)
    (.conversation .cwdMismatch)
  rejectIf (canonicalCwd ≠ read.metadata.canonicalCwd) (.conversation .cwdMismatch)
  pure {
    profileId := context.profileId
    threadId := read.metadata.threadId
    canonicalCwd
    codexVersion := read.codexVersion
    lifecycle := mapThreadLifecycle read.lifecycle }

def requireStartedCandidate (context : CaptureContext) (pending : PendingLaunch) :
    CommandM Unit :=
  if pending.phase ≠ .prepared then pure ()
  else do
    let _ ← call (ConversationRegistry.finishLaunch context.finishing pending.launchId .ambiguous)
    fail (.conversation .ambiguous)

/-- The version that a tracked launch was prepared with. -/
def trackedVersion (pending : PendingLaunch) : RegistryM String :=
  lift (okOr pending.codexVersion (invalid "tracked pending launch has no Codex version"))

/-- A launch that ended while its process was there. -/
def completeTracked (context : CaptureContext) (launchId : String) (providerSucceeded : Bool) :
    CommandM Unit := do
  let pending ← call (ConversationRegistry.pendingFor context.reading context.profileId
    context.workingDirectory)
  let pending ← call (lift (okOr pending .notFound))
  if pending.launchId ≠ launchId then fail (.conversation .ambiguous)
  else if pending.mode.isUntracked then fail (.conversation .ambiguous)
  else do
    let pendingCodexVersion ← call (trackedVersion pending)
    match context.inventory with
    | .error error => finishReconciliationFailure context.finishing launchId error
    | .ok inventory =>
      if ¬ inventory.complete then do
        let _ ← call (ConversationRegistry.finishLaunch context.finishing launchId .ambiguous)
        fail (.conversation .ambiguous)
      else if inventory.codexVersion ≠ pendingCodexVersion then
        finishReconciliationFailure context.finishing launchId
          (.conversation .sessionSchemaUnsupported)
      else match inventoryCandidate pending.preInventory (inventoryProjection inventory) with
      | .none => do
        let _ ← call (ConversationRegistry.finishLaunch context.finishing launchId .noThread)
      | .one threadId =>
        match context.readThread threadId with
        | .error error => finishReconciliationFailure context.finishing launchId error
        | .ok read =>
          if read.codexVersion ≠ pendingCodexVersion then
            finishReconciliationFailure context.finishing launchId
              (.conversation .sessionSchemaUnsupported)
          else match context.bindingFromRead read with
          | .error error => finishReconciliationFailure context.finishing launchId error
          | .ok binding => do
            let binding :=
              if ¬ providerSucceeded ∧ binding.lifecycle = .clean then
                { binding with lifecycle := .unknownCrash }
              else binding
            let bound ← finishCandidateBinding context.finishing context.marking launchId binding
            if bound then pure () else fail (.conversation .ambiguous)
      | .ambiguous => do
        let _ ← call (ConversationRegistry.finishLaunch context.finishing launchId .ambiguous)
        fail (.conversation .ambiguous)

/-- A launch that is found again after a crash. -/
def reconcilePendingLaunch (context : CaptureContext) : CommandM Unit := do
  let pending ← call (ConversationRegistry.pendingFor context.reading context.profileId
    context.workingDirectory)
  match pending with
  | none => pure ()
  | some pending =>
    if pending.mode.isUntracked then do
      let _ ← call (ConversationRegistry.finishLaunch context.finishing pending.launchId .ambiguous)
      fail (.conversation .ambiguous)
    else do
      let pendingCodexVersion ← call (trackedVersion pending)
      match context.inventory with
      | .error error => finishReconciliationFailure context.finishing pending.launchId error
      | .ok inventory =>
        if ¬ inventory.complete then do
          let _ ← call
            (ConversationRegistry.finishLaunch context.finishing pending.launchId .ambiguous)
          fail (.conversation .ambiguous)
        else if inventory.codexVersion ≠ pendingCodexVersion then
          finishReconciliationFailure context.finishing pending.launchId
            (.conversation .sessionSchemaUnsupported)
        else match inventoryCandidate pending.preInventory (inventoryProjection inventory) with
        | .none =>
          match pending.phase with
          | .prepared => do
            let _ ← call
              (ConversationRegistry.finishLaunch context.finishing pending.launchId .noThread)
          | .providerStarted | .captureFailed => do
            let _ ← call
              (ConversationRegistry.finishLaunch context.finishing pending.launchId .ambiguous)
            fail (.conversation .ambiguous)
        | .one threadId => do
          context.requireStartedCandidate pending
          match context.readThread threadId with
          | .error error => finishReconciliationFailure context.finishing pending.launchId error
          | .ok read =>
            if read.codexVersion ≠ pendingCodexVersion then
              finishReconciliationFailure context.finishing pending.launchId
                (.conversation .sessionSchemaUnsupported)
            else match context.bindingFromRead read with
            | .error error => finishReconciliationFailure context.finishing pending.launchId error
            | .ok binding =>
              match binding.lifecycle with
              | .interrupted | .clean | .unknownCrash => do
                let lifecycle := if binding.lifecycle = .interrupted then .interrupted
                  else .unknownCrash
                let bound ← finishCandidateBinding context.finishing context.marking
                  pending.launchId { binding with lifecycle }
                if bound then pure () else fail (.conversation .ambiguous)
              | .missing | .archived | .incompatible | .ambiguous =>
                finishReconciliationFailure context.finishing pending.launchId
                  (.conversation .sessionSchemaUnsupported)
        | .ambiguous => do
          let _ ← call
            (ConversationRegistry.finishLaunch context.finishing pending.launchId .ambiguous)
          fail (.conversation .ambiguous)

end CaptureContext

/-! ## What the commands leave -/

section

variable {α β : Type} {disk : Disk}

omit [Sha256] in
/-- What follows a call and does not touch the disk is irrelevant. -/
theorem call_bind_disk {x : RegistryM α} {f : α → CommandM β} (h : ∀ a disk, (f a disk).2 = disk)
    (disk : Disk) : ((call x >>= f) disk).2 = (x disk).2 := by
  simp only [CommandM.bind_apply, call]
  rcases x disk with ⟨_ | a, disk'⟩
  · rfl
  · exact h a disk'

omit [Sha256] in
theorem lift_bind_disk {x : Except ConversationError α} {f : α → RegistryM β}
    (h : ∀ a, (f a disk).2 = disk) : ((lift x >>= f) disk).2 = disk := by
  cases x with
  | error e => rfl
  | ok a => exact h a

/-- Looking a launch up does not touch the disk. -/
theorem pendingFor_disk (host : Host) (profileId path : String) (disk : Disk) :
    (ConversationRegistry.pendingFor host profileId path disk).2 = disk := by
  refine lift_bind_disk fun _ => lift_bind_disk fun _ => lift_bind_disk fun _ =>
    lift_bind_disk fun _ => lift_bind_disk fun _ => ?_
  exact lift_bind_disk (x := load disk) fun _ => rfl

/-- The launch that is found is one of the document's, for that profile and that workspace. -/
theorem pendingFor_some {host : Host} {profileId path : String} {pending : PendingLaunch}
    {disk' : Disk}
    (h : ConversationRegistry.pendingFor host profileId path disk = (.ok (some pending), disk')) :
    pending ∈ disk.document.pendingLaunches ∧ pending.profileId = profileId ∧
      host.canonicalDirectory path = some pending.canonicalCwd := by
  obtain ⟨_, _, hr, _⟩ | ⟨_, -, h⟩ := lift_bind_cases h
  · cases hr
  obtain ⟨_, _, hr, _⟩ | ⟨cwd, hcwd, h⟩ := lift_bind_cases h
  · cases hr
  obtain ⟨_, _, hr, _⟩ | ⟨_, -, h⟩ := lift_bind_cases h
  · cases hr
  obtain ⟨_, _, hr, _⟩ | ⟨_, -, h⟩ := lift_bind_cases h
  · cases hr
  obtain ⟨_, _, hr, _⟩ | ⟨_, -, h⟩ := lift_bind_cases h
  · cases hr
  obtain ⟨_, _, hr, _⟩ | ⟨d, hload, h⟩ := inspect_bind_cases h
  · cases hr
  obtain ⟨rfl, -⟩ := document_of_load hload
  have found : pending ∈ disk.document.pendingLaunches.filter fun pending =>
      pending.profileId = profileId ∧ pending.canonicalCwd = cwd := by
    have hread := congrArg Prod.fst h
    simp only [lift_apply] at hread
    split at hread
    · cases hread
    · rename_i first hfilter
      cases hread
      rw [hfilter]
      exact List.mem_singleton.2 rfl
    · cases hread
  simp only [List.mem_filter, decide_eq_true_eq] at found
  obtain ⟨mem, profile, hpath⟩ := found
  refine ⟨mem, profile, ?_⟩
  rw [hpath]
  simpa [canonicalPathString] using hcwd

end

section

variable {disk : Disk} {context : CaptureContext} {pending : PendingLaunch}

/-- How a command can leave the launch it resolves: as it was, marked, without a thread, or bound to
the thread that the provider reads for the one candidate. -/
inductive Leaves (context : CaptureContext) (pending : PendingLaunch) (vacant started : Prop)
    (disk : Disk) : Disk → Prop
  | kept : Leaves context pending vacant started disk disk
  | captureFailed : Leaves context pending vacant started disk
      (ConversationRegistry.markCaptureFailed context.finishing pending.launchId disk).2
  | ambiguous : Leaves context pending vacant started disk
      (ConversationRegistry.finishLaunch context.finishing pending.launchId .ambiguous disk).2
  | noThread (inventory : CodexThreadInventory) (inventory_eq : context.inventory = .ok inventory)
      (none : inventoryCandidate pending.preInventory (inventoryProjection inventory) = .none)
      (tracked : pending.mode.isUntracked = false) (h : vacant) :
      Leaves context pending vacant started disk
        (ConversationRegistry.finishLaunch context.finishing pending.launchId .noThread disk).2
  | bound (inventory : CodexThreadInventory) (candidate : String) (read : CodexThreadRead)
      (binding : BindingInput) (inventory_eq : context.inventory = .ok inventory)
      (one : inventoryCandidate pending.preInventory (inventoryProjection inventory) =
        .one candidate)
      (read_eq : context.readThread candidate = .ok read)
      (thread : binding.threadId = read.metadata.threadId) (h : started) :
      Leaves context pending vacant started disk
        (finishCandidateBinding context.finishing context.marking pending.launchId binding disk).2

theorem finishReconciliationFailure_disk (host : Host) (launchId : String) (error : AppError)
    (disk : Disk) : (finishReconciliationFailure host launchId error disk).2 =
      if error.terminal then (ConversationRegistry.finishLaunch host launchId .ambiguous disk).2
      else (ConversationRegistry.markCaptureFailed host launchId disk).2 := by
  unfold finishReconciliationFailure
  split_ifs
  · exact call_bind_disk (fun _ _ => rfl) disk
  · exact call_bind_disk (fun _ _ => rfl) disk

theorem leaves_failure {vacant started : Prop} (error : AppError) :
    Leaves context pending vacant started disk
      (finishReconciliationFailure context.finishing pending.launchId error disk).2 := by
  rw [finishReconciliationFailure_disk]
  split_ifs
  · exact .ambiguous
  · exact .captureFailed

theorem leaves_ambiguous {vacant started : Prop} :
    Leaves context pending vacant started disk
      ((do
        let _ ← call
          (ConversationRegistry.finishLaunch context.finishing pending.launchId .ambiguous)
        fail (.conversation .ambiguous) : CommandM Unit) disk).2 := by
  rw [call_bind_disk fun _ _ => rfl]
  exact .ambiguous

omit [Sha256] in
theorem call_bind_of_ok {α β : Type} {x : RegistryM α} {f : α → CommandM β} {a : α}
    {disk disk' : Disk} (h : x disk = (.ok a, disk')) : (call x >>= f) disk = f a disk' := by
  simp only [CommandM.bind_apply, call, h]

/-- A tracked launch has a version, or the command stops. -/
theorem leaves_tracked {vacant started : Prop} {f : String → CommandM Unit}
    (h : ∀ version, pending.codexVersion = some version →
      Leaves context pending vacant started disk (f version disk).2) :
    Leaves context pending vacant started disk
      ((call (CaptureContext.trackedVersion pending) >>= f) disk).2 := by
  cases hv : pending.codexVersion with
  | none =>
    have refused : CaptureContext.trackedVersion pending disk =
        (.error (invalid "tracked pending launch has no Codex version"), disk) := by
      rw [CaptureContext.trackedVersion, hv]
      rfl
    simp only [CommandM.bind_apply, call, refused]
    exact .kept
  | some version =>
    have tracked : CaptureContext.trackedVersion pending disk = (.ok version, disk) := by
      rw [CaptureContext.trackedVersion, hv]
      rfl
    rw [call_bind_of_ok tracked]
    exact h version hv

/-- Binding a candidate ends with the binding, whatever the command answers. -/
theorem finishCandidateBinding_bind_disk {launchId : String} {binding : BindingInput} :
    ((do
      let bound ← finishCandidateBinding context.finishing context.marking launchId binding
      if bound then pure () else fail (.conversation .ambiguous) : CommandM Unit) disk).2 =
      (finishCandidateBinding context.finishing context.marking launchId binding disk).2 := by
  rw [CommandM.bind_apply]
  rcases finishCandidateBinding context.finishing context.marking launchId binding disk with
    ⟨_ | bound, disk'⟩
  · rfl
  · cases bound <;> rfl

/-- A candidate of a launch that never started is not bound. -/
theorem requireStartedCandidate_bind_disk (prepared : pending.phase = .prepared)
    {f : Unit → CommandM Unit} : ((context.requireStartedCandidate pending >>= f) disk).2 =
      (ConversationRegistry.finishLaunch context.finishing pending.launchId .ambiguous disk).2 := by
  rw [CaptureContext.requireStartedCandidate, if_neg (Decidable.not_not.2 prepared)]
  simp only [CommandM.bind_apply, call, fail]
  rcases ConversationRegistry.finishLaunch context.finishing pending.launchId .ambiguous disk with
    ⟨_ | _, disk'⟩ <;> rfl

omit [Sha256] in
theorem bindingFromRead_thread {read : CodexThreadRead} {binding : BindingInput}
    (h : context.bindingFromRead read = .ok binding) :
    binding.threadId = read.metadata.threadId := by
  simp only [CaptureContext.bindingFromRead, bind_eq_ok, pure_eq_ok] at h
  obtain ⟨_, -, _, -, rfl⟩ := h
  rfl

/-- The command for a launch that ended leaves the launch it found in one of these ways. -/
theorem completeTracked_leaves {launchId : String} {providerSucceeded : Bool} {disk₁ : Disk}
    (found : ConversationRegistry.pendingFor context.reading context.profileId
      context.workingDirectory disk = (.ok (some pending), disk₁)) :
    Leaves context pending True True disk
      (context.completeTracked launchId providerSucceeded disk).2 := by
  obtain rfl : disk = disk₁ := by
    have kept := pendingFor_disk context.reading context.profileId context.workingDirectory disk
    rw [found] at kept
    exact kept.symm
  unfold CaptureContext.completeTracked
  rw [call_bind_of_ok found]
  have present : lift (okOr (some pending) ConversationError.notFound) disk = (.ok pending, disk) := rfl
  rw [call_bind_of_ok present]
  split_ifs with other untracked
  · exact .kept
  · exact .kept
  have tracked : pending.mode.isUntracked = false := by simpa using untracked
  obtain rfl : pending.launchId = launchId := Decidable.not_not.1 other
  refine leaves_tracked fun version hversion => ?_
  cases inventory_eq : context.inventory with
  | error error => exact leaves_failure error
  | ok inventory =>
    dsimp only
    by_cases complete : inventory.complete = true
    swap
    · rw [if_pos complete]
      exact leaves_ambiguous
    rw [if_neg (Decidable.not_not.2 complete)]
    by_cases differs : inventory.codexVersion ≠ version
    · rw [if_pos differs]
      exact leaves_failure _
    rw [if_neg differs]
    cases candidate : inventoryCandidate pending.preInventory (inventoryProjection inventory) with
    | none =>
      dsimp only
      rw [call_bind_disk fun _ _ => rfl]
      exact .noThread inventory inventory_eq candidate tracked trivial
    | ambiguous => exact leaves_ambiguous
    | one threadId =>
      dsimp only
      cases read_eq : context.readThread threadId with
      | error error => exact leaves_failure error
      | ok read =>
        dsimp only
        split_ifs with differs'
        · exact leaves_failure _
        cases binding_eq : context.bindingFromRead read with
        | error error => exact leaves_failure error
        | ok binding =>
          have thread := bindingFromRead_thread binding_eq
          dsimp only
          rw [finishCandidateBinding_bind_disk]
          refine .bound inventory threadId read _ inventory_eq candidate read_eq ?_ trivial
          split_ifs <;> exact thread

/-- The command for a launch that is found again binds a thread only to a started launch, and takes
it to have had none only when it was prepared. -/
theorem reconcilePendingLaunch_leaves {disk₁ : Disk}
    (found : ConversationRegistry.pendingFor context.reading context.profileId
      context.workingDirectory disk = (.ok (some pending), disk₁)) :
    Leaves context pending (pending.phase = .prepared) (pending.phase ≠ .prepared) disk
      (context.reconcilePendingLaunch disk).2 := by
  obtain rfl : disk = disk₁ := by
    have kept := pendingFor_disk context.reading context.profileId context.workingDirectory disk
    rw [found] at kept
    exact kept.symm
  unfold CaptureContext.reconcilePendingLaunch
  rw [call_bind_of_ok found]
  dsimp only
  split_ifs with untracked
  · exact leaves_ambiguous
  have tracked : pending.mode.isUntracked = false := by simpa using untracked
  refine leaves_tracked fun version hversion => ?_
  cases inventory_eq : context.inventory with
  | error error => exact leaves_failure error
  | ok inventory =>
    dsimp only
    by_cases complete : inventory.complete = true
    swap
    · rw [if_pos complete]
      exact leaves_ambiguous
    rw [if_neg (Decidable.not_not.2 complete)]
    by_cases differs : inventory.codexVersion ≠ version
    · rw [if_pos differs]
      exact leaves_failure _
    rw [if_neg differs]
    cases candidate : inventoryCandidate pending.preInventory (inventoryProjection inventory) with
    | none =>
      dsimp only
      cases phase : pending.phase with
      | prepared =>
        dsimp only
        rw [call_bind_disk fun _ _ => rfl]
        exact .noThread inventory inventory_eq candidate tracked rfl
      | providerStarted => exact leaves_ambiguous
      | captureFailed => exact leaves_ambiguous
    | ambiguous => exact leaves_ambiguous
    | one threadId =>
      dsimp only
      by_cases started : pending.phase = .prepared
      · rw [requireStartedCandidate_bind_disk started]
        exact .ambiguous
      · have passed : context.requireStartedCandidate pending disk = (.ok (), disk) := by
          rw [CaptureContext.requireStartedCandidate, if_pos started]
          rfl
        rw [CommandM.bind_apply, passed]
        dsimp only
        cases read_eq : context.readThread threadId with
        | error error => exact leaves_failure error
        | ok read =>
          dsimp only
          split_ifs with differs'
          · exact leaves_failure _
          cases binding_eq : context.bindingFromRead read with
          | error error => exact leaves_failure error
          | ok binding =>
            have thread := bindingFromRead_thread binding_eq
            dsimp only
            cases binding.lifecycle with
            | missing | archived | incompatible | ambiguous => exact leaves_failure _
            | clean | interrupted | unknownCrash =>
              dsimp only
              rw [finishCandidateBinding_bind_disk]
              exact .bound inventory threadId read _ inventory_eq candidate read_eq thread started

/-- Binding a candidate leaves what finishing the launch with it leaves, or what marking it leaves. -/
theorem finishCandidateBinding_disk (host next : Host) (pending : PendingLaunch)
    (binding : BindingInput) (disk : Disk) :
    let left := (finishCandidateBinding host next pending.launchId binding disk).2
    left = (ConversationRegistry.finishLaunch host pending.launchId (.bind binding) disk).2 ∨
      left = (ConversationRegistry.finishLaunch next pending.launchId .ambiguous disk).2 := by
  obtain ⟨-, kept⟩ := finishLaunch_finishing host pending (.bind binding) disk
  unfold finishCandidateBinding
  rcases hf : ConversationRegistry.finishLaunch host pending.launchId (.bind binding) disk with
    ⟨e | _ | head, disk'⟩
  · dsimp only
    split_ifs with conflict
    · -- the binding was refused, so the mark is made where it started
      have same : disk' = disk := by
        rw [hf] at kept
        refine kept e rfl ?_
        rintro rfl
        simp at conflict
      have terminal : (AppError.conversation e).terminal = true := by
        obtain rfl | rfl := conflict <;> rfl
      right
      have marked := finishReconciliationFailure_disk next pending.launchId (.conversation e) disk
      rw [if_pos terminal] at marked
      rw [CommandM.bind_apply, ← marked, same]
      rcases finishReconciliationFailure next pending.launchId (.conversation e) disk with
        ⟨_ | _, disk''⟩ <;> rfl
    · exact Or.inl rfl
  · exact Or.inl rfl
  · exact Or.inl rfl

/-- What finishing the launch says about the heads holds of every way to leave it. -/
theorem Leaves.finishing {vacant started : Prop} {disk' : Disk}
    (h : Leaves context pending vacant started disk disk') :
    disk' = disk ∨
    disk' = (ConversationRegistry.markCaptureFailed context.finishing pending.launchId disk).2 ∨
    (∃ host, Finishing host pending .ambiguous disk.document disk'.document) ∨
    (∃ inventory, context.inventory = .ok inventory ∧
      inventoryCandidate pending.preInventory (inventoryProjection inventory) = .none ∧ vacant ∧
      pending.mode.isUntracked = false ∧
      ∃ host, Finishing host pending .noThread disk.document disk'.document) ∨
    ∃ inventory candidate read binding, context.inventory = .ok inventory ∧
      inventoryCandidate pending.preInventory (inventoryProjection inventory) = .one candidate ∧
      context.readThread candidate = .ok read ∧ binding.threadId = read.metadata.threadId ∧ started ∧
      ∃ host, Finishing host pending (.bind binding) disk.document disk'.document := by
  cases h with
  | kept => exact Or.inl rfl
  | captureFailed => exact Or.inr (Or.inl rfl)
  | ambiguous =>
    exact Or.inr (Or.inr (Or.inl ⟨_, (finishLaunch_finishing _ pending .ambiguous disk).1⟩))
  | noThread inventory inventory_eq none tracked h =>
    exact Or.inr (Or.inr (Or.inr (Or.inl ⟨inventory, inventory_eq, none, h, tracked, _,
      (finishLaunch_finishing _ pending .noThread disk).1⟩)))
  | bound inventory candidate read binding inventory_eq one read_eq thread h =>
    obtain left | left := finishCandidateBinding_disk context.finishing context.marking pending
      binding disk <;> rw [left]
    · exact Or.inr (Or.inr (Or.inr (Or.inr ⟨inventory, candidate, read, binding, inventory_eq, one,
        read_eq, thread, h, _, (finishLaunch_finishing _ pending _ disk).1⟩)))
    · exact Or.inr (Or.inr (Or.inl ⟨_, (finishLaunch_finishing _ pending .ambiguous disk).1⟩))

/-- The provider reads a thread for the one candidate of a launch. -/
def CandidateThread (context : CaptureContext) (pending : PendingLaunch) (threadId : String) :
    Prop :=
  ∃ inventory candidate read, context.inventory = .ok inventory ∧
    inventoryCandidate pending.preInventory (inventoryProjection inventory) = .one candidate ∧
    context.readThread candidate = .ok read ∧ read.metadata.threadId = threadId

/-- The provider lists the threads of the baseline. -/
def NoCandidate (context : CaptureContext) (pending : PendingLaunch) : Prop :=
  ∃ inventory, context.inventory = .ok inventory ∧
    inventoryCandidate pending.preInventory (inventoryProjection inventory) = .none

/-- What a command does to the heads. -/
structure HeadsAfter (context : CaptureContext) (pending : PendingLaunch) (vacant started : Prop)
    (d d' : ConversationDocument) : Prop where
  /-- The threads of the other workspaces stay. -/
  others : ∀ other, other ≠ pending.canonicalCwd → d'.headThread other = d.headThread other
  /-- A new thread of the workspace is the one that was read for the candidate. -/
  thread : ∀ threadId, d'.headThread pending.canonicalCwd = some threadId →
    d.headThread pending.canonicalCwd = some threadId ∨
      started ∧ CandidateThread context pending threadId
  /-- A head that can be resolved names that thread, or is the old one after an empty comparison. -/
  resolved : ∀ head, d'.resolveHeadDocument pending.canonicalCwd = .ok head →
    (started ∧ CandidateThread context pending head.threadId) ∨
      (vacant ∧ NoCandidate context pending ∧ d'.workspaceHeads = d.workspaceHeads)

theorem Leaves.heads {vacant started : Prop} {disk' : Disk} (hr : Reachable disk)
    (mem : pending ∈ disk.document.pendingLaunches)
    (h : Leaves context pending vacant started disk disk') :
    HeadsAfter context pending vacant started disk.document disk'.document := by
  have hd := hr.contents
  have hcwd : pending.canonicalCwd ∈ disk.document.pendingLaunches.map (·.canonicalCwd) :=
    List.mem_map_of_mem mem
  obtain rfl | rfl | ⟨host, h⟩ | ⟨inventory, inventory_eq, none, hvacant, tracked, host, h⟩ |
    ⟨inventory, candidate, read, binding, inventory_eq, one, read_eq, thread, hstarted, host, h⟩ :=
    h.finishing
  · exact ⟨fun _ _ => rfl, fun _ hthread => Or.inl hthread,
      fun head hhead => absurd hhead (resolveHeadDocument_of_launching hcwd head)⟩
  · obtain ⟨heads, conversations, launches⟩ :=
      markCaptureFailed_document context.finishing pending.launchId disk
    refine ⟨fun _ _ => headThread_congr heads conversations _, fun _ hthread => Or.inl ?_,
      fun head hhead => absurd hhead (resolveHeadDocument_of_launching ?_ head)⟩
    · rwa [headThread_congr heads conversations] at hthread
    · rwa [launches]
  · refine ⟨fun _ hne => h.others hd mem hne, fun threadId hthread => ?_, fun head hhead => ?_⟩
    · obtain old | ⟨_, bind, -⟩ := h.thread hd mem hthread
      · exact Or.inl old
      · cases bind
    · obtain ⟨_, bind, -⟩ := h.resolved hd mem hr.needsSelection_iff.1 (by simp) hhead
      cases bind
  · have heads := h.heads_of_noThread hd mem tracked
    refine ⟨fun _ hne => h.others hd mem hne, fun threadId hthread => ?_,
      fun head _ => Or.inr ⟨hvacant, ⟨inventory, inventory_eq, none⟩, heads⟩⟩
    obtain old | ⟨_, bind, -⟩ := h.thread hd mem hthread
    · exact Or.inl old
    · cases bind
  · refine ⟨fun _ hne => h.others hd mem hne, fun threadId hthread => ?_, fun head hhead => ?_⟩
    · obtain old | ⟨_, bind, rfl⟩ := h.thread hd mem hthread
      · exact Or.inl old
      · cases bind
        exact Or.inr ⟨hstarted, inventory, candidate, read, inventory_eq, one, read_eq, thread.symm⟩
    · obtain ⟨_, bind, same⟩ := h.resolved hd mem hr.needsSelection_iff.1 (by simp) hhead
      cases bind
      rw [← same]
      exact Or.inl ⟨hstarted, inventory, candidate, read, inventory_eq, one, read_eq, thread.symm⟩

end

/-- The comparison answers by the entries that are missing, new or changed, in whatever order they
are listed. A head moves to a thread only when there is one candidate, of a launch that ended or that
was started, and a launch that is found again keeps the head without a candidate only when it was
prepared. -/
theorem inventory_reconciliation :
    (∀ baseline current : List InventoryThread, (baseline.map (·.threadId)).Nodup →
      (current.map (·.threadId)).Nodup →
      Answers baseline current (inventoryCandidate baseline current) ∧
      ∀ baseline' current' : List InventoryThread, baseline.Perm baseline' →
        current.Perm current' →
        inventoryCandidate baseline' current' = inventoryCandidate baseline current) ∧
    ∀ (context : CaptureContext) (disk : Disk), Reachable disk →
      let found := ConversationRegistry.pendingFor context.reading context.profileId
        context.workingDirectory disk
      (∀ pending, found = (.ok (some pending), disk) →
        (∀ launchId providerSucceeded, HeadsAfter context pending True True disk.document
          (context.completeTracked launchId providerSucceeded disk).2.document) ∧
        HeadsAfter context pending (pending.phase = .prepared) (pending.phase ≠ .prepared)
          disk.document (context.reconcilePendingLaunch disk).2.document) ∧
      ((∀ pending, found ≠ (.ok (some pending), disk)) →
        (∀ launchId providerSucceeded,
          (context.completeTracked launchId providerSucceeded disk).2 = disk) ∧
        (context.reconcilePendingLaunch disk).2 = disk) := by
  refine ⟨fun baseline current distinct distinct' => ?_, fun context disk hr => ⟨?_, ?_⟩⟩
  · have answers := inventoryCandidate_answers distinct distinct'
    refine ⟨answers, fun baseline' current' hb hc => ?_⟩
    refine answers.unique (inventoryCandidate_answers ?_ ?_) hb hc
    · exact (hb.map _).nodup_iff.1 distinct
    · exact (hc.map _).nodup_iff.1 distinct'
  · intro pending found
    have mem := (pendingFor_some found).1
    exact ⟨fun launchId succeeded => (completeTracked_leaves found).heads hr mem,
      (reconcilePendingLaunch_leaves found).heads hr mem⟩
  · intro missing
    have kept := pendingFor_disk context.reading context.profileId context.workingDirectory disk
    rcases hf : ConversationRegistry.pendingFor context.reading context.profileId
      context.workingDirectory disk with ⟨e | _ | pending, disk₁⟩ <;> rw [hf] at kept missing <;>
      obtain rfl : disk₁ = disk := kept
    · constructor
      · intro launchId succeeded
        simp only [CaptureContext.completeTracked, CommandM.bind_apply, call, hf]
      · simp only [CaptureContext.reconcilePendingLaunch, CommandM.bind_apply, call, hf]
    · constructor
      · intro launchId succeeded
        unfold CaptureContext.completeTracked
        rw [call_bind_of_ok hf]
        rfl
      · unfold CaptureContext.reconcilePendingLaunch
        rw [call_bind_of_ok hf]
        rfl
    · exact absurd rfl (missing pending)

end

/-! ### The launch after the sample handoff -/

attribute [local instance] sampleSha256

/-- The provider lists and reads one new thread. -/
def sampleThread : CodexThreadMetadata where
  threadId := sampleId 7
  canonicalCwd := "/work"
  updatedAt := 1760000200
  recencyAt := none
  archived := false
  rolloutFingerprint := ⟨1, 2, 3, 4, 5, 6, 7⟩

def sampleContext : CaptureContext where
  profileId := sampleId 1
  workingDirectory := "/work"
  inventory := .ok ⟨"0.144.4", [sampleThread], true⟩
  readThread _ := .ok ⟨"0.144.4", sampleThread, .clean⟩
  canonicalize := some
  reading := sampleHost 13 1760000101
  finishing := sampleHost 14 1760000102
  marking := sampleHost 15 1760000103

theorem samplePending_found :
    ConversationRegistry.pendingFor sampleContext.reading sampleContext.profileId
      sampleContext.workingDirectory sampleLaunchedDisk =
      (.ok (some samplePending), sampleLaunchedDisk) := by
  have hload := sampleLaunchedDisk_reachable.load_eq
  rw [sampleLaunchedDisk_document] at hload
  have hprofile : validateUuid sampleContext.profileId "profile id" = .ok () := by decide +kernel
  have hcwd : canonicalPathString sampleContext.reading sampleContext.workingDirectory =
    .ok "/work" := rfl
  have hfault : sampleContext.reading.fault = none := rfl
  unfold ConversationRegistry.pendingFor
  rw [lift_bind_apply, hprofile]
  dsimp only
  rw [lift_bind_apply, hcwd]
  dsimp only
  rw [read_ok hfault hload]
  exact Prod.ext (by decide +kernel) rfl

/-- The launch was only prepared, so its new thread is not bound when it is found again. -/
theorem inventory_reconciliation_prepared :
    inventoryCandidate samplePending.preInventory
        (inventoryProjection ⟨"0.144.4", [sampleThread], true⟩) = .one (sampleId 7) ∧
      ∀ head, (sampleContext.reconcilePendingLaunch sampleLaunchedDisk).2.document.resolveHeadDocument
        "/work" ≠ .ok head := by
  have one : inventoryCandidate samplePending.preInventory
      (inventoryProjection ⟨"0.144.4", [sampleThread], true⟩) = .one (sampleId 7) := by
    decide +kernel
  refine ⟨one, fun head hhead => ?_⟩
  obtain ⟨found, -⟩ := inventory_reconciliation.2 sampleContext sampleLaunchedDisk
    sampleLaunchedDisk_reachable
  obtain ⟨-, heads⟩ := found samplePending samplePending_found
  obtain ⟨started, -⟩ | ⟨-, ⟨inventory, inventory_eq, none⟩, -⟩ := heads.resolved head hhead
  · exact started rfl
  · cases inventory_eq
    rw [one] at none
    cases none

end Calcifer
