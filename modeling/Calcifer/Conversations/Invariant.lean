import Calcifer.Conversations.Changes
import Calcifer.Conversations.WellFormed

/-!
# Reachable registries

Every disk that operations reach can be loaded, and what is loaded is the document on it
(`Reachable.load_eq`). A step on such a disk either keeps the document or replaces it by a changed
one with the next revision (`document_step`), so that a property of documents is an invariant of
the registry as soon as `Change` preserves it.
-/

namespace Calcifer

open Checks Lists RegistryM ConversationDocument

/-! ## What no operation changes -/

/-- Two documents with the same schema, revision and backup metadata. -/
structure SameHeader (d d' : ConversationDocument) : Prop where
  schemaVersion : d'.schemaVersion = d.schemaVersion
  revision : d'.revision = d.revision
  preMigrationBackup : d'.preMigrationBackup = d.preMigrationBackup

section

variable {host : Host} {d d' : ConversationDocument}

theorem SameHeader.refl (d : ConversationDocument) : SameHeader d d := ⟨rfl, rfl, rfl⟩

theorem SameHeader.trans {d'' : ConversationDocument} (h : SameHeader d d') (h' : SameHeader d' d'') :
    SameHeader d d'' :=
  ⟨h'.1.trans h.1, h'.2.trans h.2, h'.3.trans h.3⟩

theorem sameHeader_markHeadNeedsSelection (d : ConversationDocument) (cwd : String) :
    SameHeader d (d.markHeadNeedsSelection cwd) := ⟨by simp, by simp, by simp⟩

theorem Binds.sameHeader {binding : BindingInput} (h : Binds host binding d d') :
    SameHeader d d' := by
  cases h.bound <;> exact ⟨rfl, rfl, rfl⟩

theorem Finished.sameHeader {pending : PendingLaunch} {resolution : LaunchResolution}
    (h : Finished host pending resolution d d') : SameHeader d d' := by
  cases h with
  | marked => exact sameHeader_markHeadNeedsSelection _ _
  | left => exact .refl _
  | bound binding _ _ _ h => exact h.sameHeader

/-- No operation changes the schema, the revision or the backup metadata by itself. -/
theorem Change.sameHeader {op : Operation} (h : Change host op d d') : SameHeader d d' := by
  cases h with
  | finished pending found h => exact ⟨h.sameHeader.1, h.sameHeader.2, h.sameHeader.3⟩
  | adopted binding idle h => exact h.sameHeader
  | refreshed binding current head h => exact h.sameHeader
  | overlapped | marked | untracked => exact ⟨by simp, by simp, by simp⟩
  | launched | started | captureFailed | prepared | advanced | committed | attached =>
    exact ⟨rfl, rfl, rfl⟩

end

theorem nextRevision_eq {d d' : ConversationDocument} (h : nextRevision d = .ok d') :
    d.revision + 1 < 2 ^ 64 ∧ d' = { d with revision := d.revision + 1 } := by
  simp only [nextRevision, bind_eq_ok, rejectIf_eq_ok, Decidable.not_not, pure_eq_ok] at h
  obtain ⟨-, hr, rfl⟩ := h
  exact ⟨hr, rfl⟩

theorem nextRevision_of_room {d : ConversationDocument} (room : d.revision + 1 < 2 ^ 64) :
    nextRevision d = .ok { d with revision := d.revision + 1 } := by
  unfold nextRevision rejectIf
  rw [if_neg (not_not_intro room)]
  rfl

theorem checkSave_iff {d : ConversationDocument} :
    checkSave d = .ok () ↔
      validateDocument d = .ok () ∧ d.toVecPretty.length ≤ maxRegistryBytes := by
  simp only [checkSave, bind_eq_ok, rejectIf_eq_ok, not_lt, gt_iff_lt]
  exact ⟨fun ⟨_, h, hs⟩ => ⟨h, hs⟩, fun ⟨h, hs⟩ => ⟨(), h, hs⟩⟩

theorem serializeV1Document_iff {d : ConversationDocument} :
    serializeV1Document d = .ok d.toVecPretty ↔
      ValidV1 d ∧ d.toVecPretty.length ≤ maxRegistryBytes := by
  simp only [serializeV1Document, bind_eq_ok, rejectIf_eq_ok, not_lt, gt_iff_lt, pure_eq_ok,
    ← validateV1Document_iff]
  exact ⟨fun ⟨_, h, _, hs, _⟩ => ⟨h, hs⟩, fun ⟨h, hs⟩ => ⟨(), h, (), hs, trivial⟩⟩

variable [Sha256]

/-! ## Loading -/

theorem verifyPreMigrationBackup_iff {disk : Disk} {metadata : PreMigrationBackup} :
    verifyPreMigrationBackup disk metadata = .ok () ↔ ∃ backup, disk.backup = some backup ∧
      serializeV1Document backup = .ok backup.toVecPretty ∧
      sha256Hex backup.toVecPretty = metadata.sha256 ∧
      metadata.schemaVersion = backup.schemaVersion ∧ metadata.revision = backup.revision := by
  simp only [verifyPreMigrationBackup, bind_eq_ok, okOr_eq_ok, rejectIf_eq_ok, not_or, not_lt,
    gt_iff_lt, Decidable.not_not, serializeV1Document_iff, ← validateV1Document_iff]
  constructor
  · rintro ⟨backup, hb, _, ⟨hs, hd⟩, _, hv, h1, h2⟩
    exact ⟨backup, hb, ⟨hv, hs⟩, hd, h1, h2⟩
  · rintro ⟨backup, hb, ⟨hv, hs⟩, hd, h1, h2⟩
    exact ⟨backup, hb, (), ⟨hs, hd⟩, (), hv, h1, h2⟩

theorem loadStored_iff {disk : Disk} {d d' : ConversationDocument} :
    loadStored disk d = .ok d' ↔ checkSave d = .ok () ∧
      (∀ metadata, d.preMigrationBackup = some metadata →
        verifyPreMigrationBackup disk metadata = .ok ()) ∧ d' = d := by
  simp only [loadStored, bind_eq_ok, rejectIf_eq_ok, Decidable.not_not, not_lt, gt_iff_lt,
    checkSave_iff]
  have schema : validateDocument d = .ok () →
      d.schemaVersion = schemaVersionV1 ∨ d.schemaVersion = schemaVersionV2 := by
    intro hv
    obtain h | h := validateDocument_iff.1 hv
    · exact Or.inl h.schema
    · exact Or.inr h.schema
  cases d.preMigrationBackup with
  | none =>
    simp only [pure_eq_ok, reduceCtorEq, false_imp_iff, implies_true, true_and]
    constructor
    · rintro ⟨_, hs, _, -, _, hv, rfl⟩
      exact ⟨⟨hv, hs⟩, rfl⟩
    · rintro ⟨⟨hv, hs⟩, rfl⟩
      exact ⟨(), hs, (), schema hv, (), hv, rfl⟩
  | some metadata =>
    simp only [bind_eq_ok, pure_eq_ok, Option.some.injEq, forall_eq']
    constructor
    · rintro ⟨_, hs, _, -, _, hv, _, hb, rfl⟩
      exact ⟨⟨hv, hs⟩, hb, rfl⟩
    · rintro ⟨⟨hv, hs⟩, hb, rfl⟩
      exact ⟨(), hs, (), schema hv, (), hv, (), hb, rfl⟩

omit [Sha256] in
theorem validateDocument_default : validateDocument {} = .ok () := rfl

/-- Loading gives back the document on disk or fails. -/
theorem document_of_load {disk : Disk} {d : ConversationDocument} (h : load disk = .ok d) :
    d = disk.document ∧ validateDocument d = .ok () := by
  unfold load at h
  unfold Disk.document
  cases hr : disk.registry with
  | none =>
    rw [hr] at h
    cases h
    exact ⟨rfl, validateDocument_default⟩
  | some stored =>
    rw [hr] at h
    obtain ⟨hc, -, rfl⟩ := loadStored_iff.1 h
    exact ⟨rfl, (checkSave_iff.1 hc).1⟩

/-! ## Steps -/

/-- A v2 transaction hands over the old document, or the migrated form of a v1 document. -/
theorem prepared_cases {v2 : Bool} {original d : ConversationDocument}
    (h : prepared v2 original = .ok d) :
    (¬ (v2 = true ∧ original.schemaVersion = schemaVersionV1) ∧ d = original) ∨
      (v2 = true ∧ original.schemaVersion = schemaVersionV1 ∧
        serializeV1Document original = .ok original.toVecPretty ∧
        d = { original with
          schemaVersion := schemaVersionV2
          preMigrationBackup := some {
            schemaVersion := schemaVersionV1
            revision := original.revision
            sha256 := sha256Hex original.toVecPretty } }) := by
  unfold prepared upgrade at h
  split_ifs at h with hv hs
  · obtain ⟨hser, rfl⟩ := migrate_eq h
    exact Or.inr ⟨hv, hs, hser, rfl⟩
  · cases h
    exact Or.inl ⟨fun h => hs h.2, rfl⟩
  · cases h
    exact Or.inl ⟨fun h => hv h.1, rfl⟩

/-- What a step does to a disk that loads keeps it loadable. -/
theorem load_step {disk : Disk} (h : load disk = .ok disk.document) (host : Host)
    (op : Operation) : load (op.step host disk) = .ok (op.step host disk).document := by
  have step := step_cases host op disk
  generalize op.step host disk = disk' at step
  cases step with
  | same => exact h
  | backedUp original v2 load_eq serialize_eq =>
    -- the registry is a v1 document, which refers to no backup
    obtain ⟨rfl, -⟩ := document_of_load load_eq
    have hv1 := (serializeV1Document_iff.1 serialize_eq).1
    unfold load Disk.document at *
    cases hr : disk.registry with
    | none => rfl
    | some stored =>
      simp only [hr, Option.getD_some] at h hv1 ⊢
      obtain ⟨hc, -, -⟩ := loadStored_iff.1 h
      refine loadStored_iff.2 ⟨hc, fun metadata hm => ?_, rfl⟩
      rw [hv1.backup] at hm
      cases hm
  | published original document edited published load_eq prepared_eq change nextRevision_eq
      checkSave_eq =>
    obtain ⟨-, rfl⟩ := Calcifer.nextRevision_eq nextRevision_eq
    refine loadStored_iff.2 ⟨checkSave_eq, fun metadata hm => ?_, rfl⟩
    change edited.preMigrationBackup = some metadata at hm
    rw [change.sameHeader.preMigrationBackup] at hm
    obtain ⟨hv, rfl⟩ | ⟨hv, hs, hser, rfl⟩ := prepared_cases prepared_eq
    · -- the document refers to the backup it already referred to
      obtain ⟨rfl, -⟩ := document_of_load load_eq
      have hb : verifyPreMigrationBackup disk metadata = .ok () := by
        unfold load Disk.document at *
        cases hr : disk.registry with
        | none =>
          rw [hr] at hm
          cases hm
        | some stored =>
          simp only [hr, Option.getD_some] at h hm
          exact (loadStored_iff.1 h).2.1 metadata hm
      rw [verifyPreMigrationBackup_iff] at hb ⊢
      rwa [backupAfter, if_neg hv]
    · -- the document refers to the backup written with it
      cases hm
      refine verifyPreMigrationBackup_iff.2 ⟨original, ?_, hser, rfl, hs.symm, rfl⟩
      simp [backupAfter, hv, hs]

/-- Every reachable disk loads, and what is loaded is the document on it. -/
theorem Reachable.load_eq {disk : Disk} (h : Reachable disk) : load disk = .ok disk.document := by
  induction h with
  | empty => rfl
  | step host op _ ih => exact load_step ih host op

theorem Reachable.valid {disk : Disk} (h : Reachable disk) :
    validateDocument disk.document = .ok () :=
  (document_of_load h.load_eq).2

theorem Reachable.contents {disk : Disk} (h : Reachable disk) :
    Contents (disk.document.schemaVersion = schemaVersionV1) disk.document :=
  contents_of_valid h.valid

/-- The document a transaction works on differs from the old one in its header only. -/
structure SameBody (d d' : ConversationDocument) : Prop where
  conversations : d'.conversations = d.conversations
  workspaceHeads : d'.workspaceHeads = d.workspaceHeads
  pendingLaunches : d'.pendingLaunches = d.pendingLaunches
  activeTransition : d'.activeTransition = d.activeTransition

theorem sameBody_of_prepared {v2 : Bool} {original d : ConversationDocument}
    (h : prepared v2 original = .ok d) : SameBody original d := by
  obtain ⟨-, rfl⟩ | ⟨-, -, -, rfl⟩ := prepared_cases h <;> exact ⟨rfl, rfl, rfl, rfl⟩

/-- What a step does to the document. -/
inductive DocumentStep (host : Host) (op : Operation) (d : ConversationDocument) :
    ConversationDocument → Prop
  | same : DocumentStep host op d d
  | published (document edited : ConversationDocument) (body : SameBody d document)
      (change : Change host op document edited) (room : edited.revision + 1 < 2 ^ 64)
      (valid : validateDocument { edited with revision := edited.revision + 1 } = .ok ()) :
      DocumentStep host op d { edited with revision := edited.revision + 1 }

/-- A step from any disk keeps the document or replaces it by a changed one. -/
theorem document_step (host : Host) (op : Operation) (disk : Disk) :
    DocumentStep host op disk.document (op.step host disk).document := by
  have step := step_cases host op disk
  generalize op.step host disk = disk' at step
  cases step with
  | same => exact .same
  | backedUp => exact .same
  | published original document edited published load_eq prepared_eq change nextRevision_eq
      checkSave_eq =>
    obtain ⟨room, rfl⟩ := Calcifer.nextRevision_eq nextRevision_eq
    obtain ⟨rfl, -⟩ := document_of_load load_eq
    exact .published document edited (sameBody_of_prepared prepared_eq) change room
      (checkSave_iff.1 checkSave_eq).1

/-! ## Transactions without faults -/

section

variable {α : Type} {host : Host} {disk : Disk} {d edited published : ConversationDocument} {r : α}
variable {operation : ConversationDocument → Except ConversationError (α × ConversationDocument)}

omit [Sha256] in
theorem verifyPrivateDirectory_ok (hf : host.fault = none) :
    verifyPrivateDirectory host = .ok () := by
  rw [verifyPrivateDirectory, hf]
  rfl

omit [Sha256] in
theorem save_ok (hf : host.fault = none) (hcheck : checkSave published = .ok ()) :
    save host published disk = (.ok (), { disk with registry := some published }) := by
  simp [save, bind_apply, faultAt, rejectIf, hf, hcheck]

theorem read_ok {operation : ConversationDocument → Except ConversationError α}
    (hf : host.fault = none) (hload : load disk = .ok d) :
    read host operation disk = (operation d, disk) := by
  simp [read, bind_apply, verifyPrivateDirectory_ok hf, faultAt, inspect, rejectIf, hf, hload]

/-- A transaction goes through when its operation succeeds and the new document passes. -/
theorem transact_ok (hf : host.fault = none) (hload : load disk = .ok d)
    (hop : operation d = .ok (r, edited)) (hrev : nextRevision edited = .ok published)
    (hcheck : checkSave published = .ok ()) :
    transact host operation disk = (.ok r, { disk with registry := some published }) := by
  simp [transact, bind_apply, verifyPrivateDirectory_ok hf, faultAt, inspect, rejectIf, hf, hload,
    hop, hrev, save_ok hf hcheck]

/-- A v2 transaction goes through once the backup of its document is dealt with. -/
theorem transactV2_ok {document : ConversationDocument} {disk₁ : Disk} (hf : host.fault = none)
    (hload : load disk = .ok d) (hup : upgrade d = .ok document)
    (hop : operation document = .ok (r, edited)) (hrev : nextRevision edited = .ok published)
    (hmig : saveMigrated host d published disk = (.ok (), disk₁))
    (hcheck : checkSave published = .ok ()) :
    transactV2 host operation disk = (.ok r, { disk₁ with registry := some published }) := by
  simp [transactV2, bind_apply, verifyPrivateDirectory_ok hf, faultAt, inspect, rejectIf, hf, hload,
    hup, hop, hrev, hmig, (checkSave_iff.1 hcheck).1, save_ok hf hcheck]

theorem upgrade_of_v2 (h : d.schemaVersion ≠ schemaVersionV1) : upgrade d = .ok d := by
  rw [upgrade, if_neg h]
  rfl

theorem saveMigrated_of_v2 (h : d.schemaVersion ≠ schemaVersionV1) :
    saveMigrated host d published disk = (.ok (), disk) := by
  rw [saveMigrated, if_neg h]
  rfl

/-- A first migration writes the backup. -/
theorem saveMigrated_of_none (hf : host.fault = none) (hv1 : d.schemaVersion = schemaVersionV1)
    (hser : serializeV1Document d = .ok d.toVecPretty) (hb : disk.backup = none)
    (hp : published.preMigrationBackup = some {
      schemaVersion := schemaVersionV1
      revision := d.revision
      sha256 := sha256Hex d.toVecPretty }) :
    saveMigrated host d published disk = (.ok (), { disk with backup := some d }) := by
  have hnone : backupMatches disk d ⟨schemaVersionV1, d.revision, sha256Hex d.toVecPretty⟩ =
      .ok false := by
    rw [backupMatches, hb]
    rfl
  simp [saveMigrated, hv1, hp, okOr, savePreMigrationBackup, bind_apply, hser, rejectIf, faultAt,
    inspect, hnone, hf]

/-- A launch with accepted arguments is prepared once its transaction finds the workspace free. -/
theorem beginLaunch_ok {profileId path codexVersion cwd : String} {mode : LaunchMode}
    {preInventory inventory : List InventoryThread} {startedAt : ℤ} {disk' : Disk}
    (hprofile : validateUuid profileId "profile id" = .ok ()) (hmode : mode.isUntracked = false)
    (hcwd : host.canonicalDirectory path = some cwd)
    (hversion : validateCodexVersion codexVersion = .ok ())
    (hinventory : normalizeInventory preInventory = .ok inventory)
    (hclock : unixTimestamp host = .ok startedAt)
    (ht : transact host (fun document => document.beginLaunch {
        launchId := host.newV4.toString, profileId, canonicalCwd := cwd, mode,
        codexVersion := some codexVersion, adapterVersion := cargoPkgVersion,
        preInventory := inventory, phase := .prepared, startedAt }) disk = (.ok false, disk')) :
    ConversationRegistry.beginLaunch host profileId path mode codexVersion preInventory disk =
      (.ok host.newV4.toString, disk') := by
  have hpath : canonicalPathString host path = .ok cwd := by simp [canonicalPathString, hcwd]
  have hfree : rejectIf (mode.isUntracked = true)
      (invalid "tracked launch preparation requires a capture mode") = .ok () := by simp [hmode]
  simp only [ConversationRegistry.beginLaunch, lift_bind_apply, hprofile, hfree, hpath, hversion,
    hinventory, hclock]
  rw [bind_apply, ht]
  rfl

/-- What an operation refuses is refused without a trace. -/
theorem transact_error {e : ConversationError} (hf : host.fault = none) (hload : load disk = .ok d)
    (hop : operation d = .error e) : transact host operation disk = (.error e, disk) := by
  simp [transact, bind_apply, verifyPrivateDirectory_ok hf, faultAt, inspect, rejectIf, hf, hload, hop]

theorem transactV2_error {document : ConversationDocument} {e : ConversationError}
    (hf : host.fault = none) (hload : load disk = .ok d) (hup : upgrade d = .ok document)
    (hop : operation document = .error e) : transactV2 host operation disk = (.error e, disk) := by
  simp [transactV2, bind_apply, verifyPrivateDirectory_ok hf, faultAt, inspect, rejectIf, hf, hload, hup, hop]

end

end Calcifer
