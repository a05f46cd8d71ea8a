import Calcifer.Conversations.Registry

/-!
# The registry as a transition system

`Operation` is a call of one of the sixteen mutating operations, and a step runs one of them with
any host. `transact_cases` and `transactV2_cases` say once what a transaction can leave on disk:
the old files, only a new backup, or the document its operation returned, validated and with the
next revision. `Reachable` and `RunOf` are the disks and the runs of the system.
-/

namespace Calcifer

open Checks RegistryM

/-- A call of a mutating operation of the registry. -/
inductive Operation where
  | beginLaunch (profileId path : String) (mode : LaunchMode) (codexVersion : String)
      (preInventory : List InventoryThread)
  | markProviderStarted (launchId : String)
  | markCaptureFailed (launchId : String)
  | finishLaunch (launchId : String) (resolution : LaunchResolution)
  | adopt (binding : BindingInput)
  | refreshAdopted (expected : HeadBinding) (binding : BindingInput)
  | markWorkspaceAmbiguous (path : String)
  | prepareUntracked (profileId path : String) (mode : LaunchMode)
  | prepareHandoff (preparation : HandoffPreparation)
  | markSourceStopRequested (transitionId : String)
  | markSourceStopped (transitionId : String)
  | recordForkIntent (transitionId : String) (targetBaselineThreadIds : List String)
  | recordBoundedForkRetry (transitionId : String)
  | observeHandoffTarget (transitionId : String) (target : HandoffTarget)
  | commitHandoff (transitionId : String)
  | finishHandoffAttachment (transitionId : String)

namespace RegistryM

variable {α β : Type}

theorem bind_apply (x : RegistryM α) (f : α → RegistryM β) (disk : Disk) :
    (x >>= f) disk = match x disk with
      | (.ok a, disk) => f a disk
      | (.error e, disk) => (.error e, disk) := rfl

@[simp] theorem pure_apply (a : α) (disk : Disk) : (pure a : RegistryM α) disk = (.ok a, disk) := rfl

@[simp] theorem lift_apply (x : Except ConversationError α) (disk : Disk) :
    lift x disk = (x, disk) := rfl

@[simp] theorem publish_apply (f : Disk → Disk) (disk : Disk) :
    publish f disk = (.ok (), f disk) := rfl

theorem lift_bind_apply (x : Except ConversationError α) (f : α → RegistryM β) (disk : Disk) :
    (lift x >>= f) disk = match x with
      | .ok a => f a disk
      | .error e => (.error e, disk) := by
  cases x <;> rfl

/-- A computation that leaves the disk alone either fails there or passes on its value. -/
theorem lift_bind_cases {x : Except ConversationError α} {f : α → RegistryM β} {disk disk' : Disk}
    {r : Except ConversationError β} (h : (lift x >>= f) disk = (r, disk')) :
    (∃ e, x = .error e ∧ r = .error e ∧ disk' = disk) ∨ ∃ a, x = .ok a ∧ f a disk = (r, disk') := by
  rw [lift_bind_apply] at h
  cases x with
  | error e =>
    cases h
    exact Or.inl ⟨e, rfl, rfl, rfl⟩
  | ok a => exact Or.inr ⟨a, rfl, h⟩

theorem inspect_bind_cases {x : Disk → Except ConversationError α} {f : α → RegistryM β}
    {disk disk' : Disk} {r : Except ConversationError β}
    (h : (inspect x >>= f) disk = (r, disk')) :
    (∃ e, x disk = .error e ∧ r = .error e ∧ disk' = disk) ∨
      ∃ a, x disk = .ok a ∧ f a disk = (r, disk') :=
  lift_bind_cases (x := x disk) h

/-- The first half of a sequence fails, or the second half goes on from where it left the disk. -/
theorem bind_cases {x : RegistryM α} {f : α → RegistryM β} {disk disk' : Disk}
    {r : Except ConversationError β} (h : (x >>= f) disk = (r, disk')) :
    (∃ e, x disk = (.error e, disk') ∧ r = .error e) ∨
      ∃ a disk₁, x disk = (.ok a, disk₁) ∧ f a disk₁ = (r, disk') := by
  rw [bind_apply] at h
  rcases hx : x disk with ⟨_ | a, disk₁⟩ <;> rw [hx] at h
  · cases h
    exact Or.inl ⟨_, rfl, rfl⟩
  · exact Or.inr ⟨a, disk₁, rfl, h⟩

end RegistryM

variable [Sha256]

/-- Run an operation and drop its result. -/
def Operation.run (host : Host) : Operation → RegistryM Unit
  | .beginLaunch profileId path mode codexVersion preInventory => do
    let _ ← ConversationRegistry.beginLaunch host profileId path mode codexVersion preInventory
  | .markProviderStarted launchId => ConversationRegistry.markProviderStarted host launchId
  | .markCaptureFailed launchId => ConversationRegistry.markCaptureFailed host launchId
  | .finishLaunch launchId resolution => do
    let _ ← ConversationRegistry.finishLaunch host launchId resolution
  | .adopt binding => do
    let _ ← ConversationRegistry.adopt host binding
  | .refreshAdopted expected binding => do
    let _ ← ConversationRegistry.refreshAdopted host expected binding
  | .markWorkspaceAmbiguous path => ConversationRegistry.markWorkspaceAmbiguous host path
  | .prepareUntracked profileId path mode => do
    let _ ← ConversationRegistry.prepareUntracked host profileId path mode
  | .prepareHandoff preparation => do
    let _ ← ConversationRegistry.prepareHandoff host preparation
  | .markSourceStopRequested transitionId => do
    let _ ← ConversationRegistry.markSourceStopRequested host transitionId
  | .markSourceStopped transitionId => do
    let _ ← ConversationRegistry.markSourceStopped host transitionId
  | .recordForkIntent transitionId targetBaselineThreadIds => do
    let _ ← ConversationRegistry.recordForkIntent host transitionId targetBaselineThreadIds
  | .recordBoundedForkRetry transitionId => do
    let _ ← ConversationRegistry.recordBoundedForkRetry host transitionId
  | .observeHandoffTarget transitionId target => do
    let _ ← ConversationRegistry.observeHandoffTarget host transitionId target
  | .commitHandoff transitionId => do
    let _ ← ConversationRegistry.commitHandoff host transitionId
  | .finishHandoffAttachment transitionId => do
    let _ ← ConversationRegistry.finishHandoffAttachment host transitionId

/-- What an operation leaves on disk. -/
def Operation.step (host : Host) (op : Operation) (disk : Disk) : Disk := (op.run host disk).2

/-- The step of an adoption that succeeds. -/
theorem step_adopt {host : Host} {binding : BindingInput} {head : HeadBinding} {disk disk' : Disk}
    (h : ConversationRegistry.adopt host binding disk = (.ok head, disk')) :
    (Operation.adopt binding).step host disk = disk' := by
  rw [Operation.step, Operation.run, bind_apply, h]
  rfl

/-- The step of a launch that is prepared. -/
theorem step_beginLaunch {host : Host} {profileId path codexVersion launchId : String}
    {mode : LaunchMode} {preInventory : List InventoryThread} {disk disk' : Disk}
    (h : ConversationRegistry.beginLaunch host profileId path mode codexVersion preInventory disk =
      (.ok launchId, disk')) :
    (Operation.beginLaunch profileId path mode codexVersion preInventory).step host disk = disk' := by
  rw [Operation.step, Operation.run, bind_apply, h]
  rfl

/-- The disks that some sequence of operations reaches from the empty one. -/
inductive Reachable : Disk → Prop
  | empty : Reachable Disk.empty
  | step {disk : Disk} (host : Host) (op : Operation) :
      Reachable disk → Reachable (op.step host disk)

/-- A run from one disk to another whose steps all satisfy `P`. -/
inductive RunOf (P : Disk → Host → Operation → Prop) : Disk → Disk → Prop
  | refl (disk : Disk) : RunOf P disk disk
  | step {disk disk' : Disk} (host : Host) (op : Operation) (h : P disk' host op) :
      RunOf P disk disk' → RunOf P disk (op.step host disk')

/-- A run of operations from one disk to another. -/
def Run : Disk → Disk → Prop := RunOf fun _ _ _ => True

theorem Reachable.run {P : Disk → Host → Operation → Prop} {disk disk' : Disk}
    (h : Reachable disk) (r : RunOf P disk disk') : Reachable disk' := by
  induction r with
  | refl => exact h
  | step host op _ _ ih => exact ih.step host op

/-- What a list of calls leaves on disk. -/
def runAll (calls : List (Host × Operation)) (disk : Disk) : Disk :=
  calls.foldl (fun disk call => call.2.step call.1 disk) disk

theorem runAll_append (calls calls' : List (Host × Operation)) (disk : Disk) :
    runAll (calls ++ calls') disk = runAll calls' (runAll calls disk) :=
  List.foldl_append

theorem Reachable.runAll {disk : Disk} (h : Reachable disk) (calls : List (Host × Operation)) :
    Reachable (runAll calls disk) := by
  induction calls generalizing disk with
  | nil => exact h
  | cons call calls ih => exact ih (h.step call.1 call.2)

theorem RunOf.runAll {P : Disk → Host → Operation → Prop} {disk disk' : Disk}
    (h : RunOf P disk disk') (calls : List (Host × Operation))
    (hP : ∀ call ∈ calls, ∀ disk, P disk call.1 call.2) : RunOf P disk (runAll calls disk') := by
  induction calls generalizing disk' with
  | nil => exact h
  | cons call calls ih =>
    exact ih (h.step call.1 call.2 (hP call (by simp) disk')) fun c hc => hP c (by simp [hc])

/-! ## What a transaction can leave on disk -/

/-- The document a transaction hands to its operation. -/
def prepared (v2 : Bool) (original : ConversationDocument) :
    Except ConversationError ConversationDocument :=
  if v2 then upgrade original else pure original

/-- The backup a transaction leaves. -/
def backupAfter (v2 : Bool) (original : ConversationDocument) (disk : Disk) :
    Option ConversationDocument :=
  if v2 ∧ original.schemaVersion = schemaVersionV1 then some original else disk.backup

/-- An operation went through a transaction: `published` is what it returned, with the next
revision, and is now on disk. -/
structure Publishes {α : Type} (v2 : Bool)
    (operation : ConversationDocument → Except ConversationError (α × ConversationDocument))
    (disk disk' : Disk) (result : α) where
  original : ConversationDocument
  document : ConversationDocument
  edited : ConversationDocument
  published : ConversationDocument
  load_eq : load disk = .ok original
  prepared_eq : prepared v2 original = .ok document
  operation_eq : operation document = .ok (result, edited)
  nextRevision_eq : nextRevision edited = .ok published
  checkSave_eq : checkSave published = .ok ()
  disk_eq : disk' = ⟨some published, backupAfter v2 original disk⟩

/-- What a transaction can end with. -/
inductive Outcome {α : Type} (v2 : Bool)
    (operation : ConversationDocument → Except ConversationError (α × ConversationDocument))
    (disk : Disk) : Except ConversationError α → Disk → Prop
  /-- Nothing was written. -/
  | refused (e : ConversationError) : Outcome v2 operation disk (.error e) disk
  /-- Only the backup of a v1 document was written. -/
  | backedUp (e : ConversationError) (original : ConversationDocument) (hv : v2 = true)
      (hload : load disk = .ok original) (hv1 : serializeV1Document original = .ok original.toVecPretty) :
      Outcome v2 operation disk (.error e) { disk with backup := some original }
  /-- The new document was written. -/
  | published {disk' : Disk} (result : α) (r : Except ConversationError α)
      (h : Publishes v2 operation disk disk' result)
      (hr : r = .ok result ∨ r = .error .commitUncertain) : Outcome v2 operation disk r disk'

section

variable {α : Type} {host : Host} {document original : ConversationDocument} {disk disk' : Disk}
variable {operation : ConversationDocument → Except ConversationError (α × ConversationDocument)}
variable {r : Except ConversationError α}

omit [Sha256] in
/-- Saving a document either writes nothing or writes it, and fails after the write only with an
uncertain commit. -/
theorem save_cases {r : Except ConversationError Unit} (h : save host document disk = (r, disk')) :
    (disk' = disk ∧ ∃ e, r = .error e) ∨
      (checkSave document = .ok () ∧ disk' = { disk with registry := some document } ∧
        (r = .ok () ∨ r = .error .commitUncertain)) := by
  unfold save at h
  obtain ⟨e, -, rfl, rfl⟩ | ⟨u, hcheck, h⟩ := lift_bind_cases h
  · exact Or.inl ⟨rfl, e, rfl⟩
  obtain ⟨e, -, rfl, rfl⟩ | ⟨_, -, h⟩ := lift_bind_cases h
  · exact Or.inl ⟨rfl, e, rfl⟩
  refine Or.inr ⟨hcheck, ?_⟩
  rw [bind_apply, publish_apply] at h
  simp only [faultAt, lift_apply, rejectIf, Prod.mk.injEq] at h
  obtain ⟨rfl, rfl⟩ := h
  split_ifs <;> simp

omit [Sha256] in
theorem serializeV1Document_eq {bytes : List UInt8} (h : serializeV1Document document = .ok bytes) :
    bytes = document.toVecPretty := by
  simp only [serializeV1Document, bind_eq_ok, pure_eq_ok] at h
  obtain ⟨_, -, _, -, rfl⟩ := h
  rfl

/-- Saving the backup of a v1 document fails with the old or the new backup on disk, or leaves
exactly that document as the backup. -/
theorem savePreMigrationBackup_cases {metadata : PreMigrationBackup}
    {r : Except ConversationError Unit}
    (h : savePreMigrationBackup host document metadata disk = (r, disk')) :
    (disk' = disk ∧ ∃ e, r = .error e) ∨
      (serializeV1Document document = .ok document.toVecPretty ∧
        disk' = { disk with backup := some document }) := by
  unfold savePreMigrationBackup at h
  obtain ⟨e, -, rfl, rfl⟩ | ⟨bytes, hbytes, h⟩ := lift_bind_cases h
  · exact Or.inl ⟨rfl, e, rfl⟩
  obtain rfl := serializeV1Document_eq hbytes
  obtain ⟨e, -, rfl, rfl⟩ | ⟨_, -, h⟩ := lift_bind_cases h
  · exact Or.inl ⟨rfl, e, rfl⟩
  obtain ⟨e, -, rfl, rfl⟩ | ⟨same, hm, h⟩ := inspect_bind_cases h
  · exact Or.inl ⟨rfl, e, rfl⟩
  cases same with
  | true =>
    -- the backup on disk already is this document
    have hb : disk.backup = some document := by
      unfold backupMatches at hm
      split at hm
      · cases hm
      · rename_i existing he
        simp only [bind_eq_ok, pure_eq_ok, decide_eq_true_eq] at hm
        obtain ⟨_, -, _, -, rfl, -⟩ := hm
        exact he
    simp only [↓reduceIte, faultAt, lift_apply, Prod.mk.injEq] at h
    exact Or.inr ⟨hbytes, by rw [← h.2, ← hb]⟩
  | false =>
    simp only [Bool.false_eq_true, ↓reduceIte] at h
    obtain ⟨e, -, rfl, rfl⟩ | ⟨_, -, h⟩ := lift_bind_cases h
    · exact Or.inl ⟨rfl, e, rfl⟩
    rw [bind_apply, publish_apply] at h
    simp only [faultAt, lift_apply, Prod.mk.injEq] at h
    exact Or.inr ⟨hbytes, h.2.symm⟩

/-- What is on disk once the backup of a migration is dealt with. -/
theorem saveMigrated_cases {r : Except ConversationError Unit}
    (h : saveMigrated host original document disk = (r, disk')) :
    (disk' = disk ∧ ∃ e, r = .error e) ∨
      ((original.schemaVersion = schemaVersionV1 →
        serializeV1Document original = .ok original.toVecPretty) ∧
        disk' = { disk with backup := backupAfter true original disk }) := by
  unfold saveMigrated at h
  split_ifs at h with hv1
  · obtain ⟨e, -, rfl, rfl⟩ | ⟨metadata, -, h⟩ := lift_bind_cases h
    · exact Or.inl ⟨rfl, e, rfl⟩
    obtain h | ⟨hs, rfl⟩ := savePreMigrationBackup_cases h
    · exact Or.inl h
    · exact Or.inr ⟨fun _ => hs, by simp [backupAfter, hv1]⟩
  · cases h
    exact Or.inr ⟨fun h => absurd h hv1, by simp [backupAfter, hv1]⟩

theorem transact_cases (h : transact host operation disk = (r, disk')) :
    Outcome false operation disk r disk' := by
  unfold transact at h
  obtain ⟨e, -, rfl, rfl⟩ | ⟨_, -, h⟩ := lift_bind_cases h
  · exact .refused e
  obtain ⟨e, -, rfl, rfl⟩ | ⟨_, -, h⟩ := lift_bind_cases h
  · exact .refused e
  obtain ⟨e, -, rfl, rfl⟩ | ⟨original, hload, h⟩ := inspect_bind_cases h
  · exact .refused e
  obtain ⟨e, -, rfl, rfl⟩ | ⟨⟨result, edited⟩, hop, h⟩ := lift_bind_cases h
  · exact .refused e
  obtain ⟨e, -, rfl, rfl⟩ | ⟨published, hrev, h⟩ := lift_bind_cases h
  · exact .refused e
  obtain ⟨e, hs, rfl⟩ | ⟨_, disk₁, hs, h⟩ := bind_cases h
  · obtain ⟨rfl, -⟩ | ⟨hcheck, rfl, hr⟩ := save_cases hs
    · exact .refused e
    · obtain hr | hr := hr
      · cases hr
      · cases hr
        exact .published result _
          ⟨original, original, edited, published, hload, rfl, hop, hrev, hcheck, rfl⟩ (Or.inr rfl)
  · cases h
    obtain ⟨-, e, he⟩ | ⟨hcheck, rfl, -⟩ := save_cases hs
    · cases he
    · exact .published result _
        ⟨original, original, edited, published, hload, rfl, hop, hrev, hcheck, rfl⟩ (Or.inl rfl)

/-- Migrating keeps everything but the schema. -/
theorem migrate_eq {document : ConversationDocument} (h : migrate original = .ok document) :
    serializeV1Document original = .ok original.toVecPretty ∧
      document = { original with
        schemaVersion := schemaVersionV2
        preMigrationBackup := some {
          schemaVersion := schemaVersionV1
          revision := original.revision
          sha256 := sha256Hex original.toVecPretty } } := by
  simp only [migrate, bind_eq_ok, pure_eq_ok] at h
  obtain ⟨bytes, hbytes, rfl⟩ := h
  obtain rfl := serializeV1Document_eq hbytes
  exact ⟨hbytes, rfl⟩

/-- A v2 transaction that fails once the backup is dealt with. -/
theorem outcome_of_backup (e : ConversationError) (hload : load disk = .ok original)
    (hs : original.schemaVersion = schemaVersionV1 →
      serializeV1Document original = .ok original.toVecPretty) :
    Outcome true operation disk (.error e)
      { disk with backup := backupAfter true original disk } := by
  by_cases hv1 : original.schemaVersion = schemaVersionV1
  · simp only [backupAfter, hv1, true_and, if_true]
    exact .backedUp e original rfl hload (hs hv1)
  · simp only [backupAfter, hv1, and_false, if_false]
    exact .refused e

theorem transactV2_cases (h : transactV2 host operation disk = (r, disk')) :
    Outcome true operation disk r disk' := by
  unfold transactV2 at h
  obtain ⟨e, -, rfl, rfl⟩ | ⟨_, -, h⟩ := lift_bind_cases h
  · exact .refused e
  obtain ⟨e, -, rfl, rfl⟩ | ⟨_, -, h⟩ := lift_bind_cases h
  · exact .refused e
  obtain ⟨e, -, rfl, rfl⟩ | ⟨original, hload, h⟩ := inspect_bind_cases h
  · exact .refused e
  obtain ⟨e, -, rfl, rfl⟩ | ⟨document, hup, h⟩ := lift_bind_cases h
  · exact .refused e
  obtain ⟨e, -, rfl, rfl⟩ | ⟨⟨result, edited⟩, hop, h⟩ := lift_bind_cases h
  · exact .refused e
  obtain ⟨e, -, rfl, rfl⟩ | ⟨published, hrev, h⟩ := lift_bind_cases h
  · exact .refused e
  obtain ⟨e, -, rfl, rfl⟩ | ⟨_, -, h⟩ := lift_bind_cases h
  · exact .refused e
  -- from here on the files may change: first the backup, then the registry
  obtain ⟨e, hb, rfl⟩ | ⟨_, disk₁, hb, h⟩ := bind_cases h
  · obtain ⟨rfl, -⟩ | ⟨hs, rfl⟩ := saveMigrated_cases hb
    · exact .refused e
    · exact outcome_of_backup e hload hs
  obtain ⟨-, e, he⟩ | ⟨hs, rfl⟩ := saveMigrated_cases hb
  · cases he
  obtain ⟨e, hw, rfl⟩ | ⟨_, disk₂, hw, h⟩ := bind_cases h
  · obtain ⟨rfl, -⟩ | ⟨hcheck, rfl, hr⟩ := save_cases hw
    · exact outcome_of_backup e hload hs
    · obtain hr | hr := hr
      · cases hr
      · cases hr
        exact .published result _
          ⟨original, document, edited, published, hload, hup, hop, hrev, hcheck, rfl⟩ (Or.inr rfl)
  · cases h
    obtain ⟨-, e, he⟩ | ⟨hcheck, rfl, -⟩ := save_cases hw
    · cases he
    · exact .published result _
        ⟨original, document, edited, published, hload, hup, hop, hrev, hcheck, rfl⟩ (Or.inl rfl)

end

end Calcifer
