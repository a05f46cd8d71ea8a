import Calcifer.Conversations.Lineage

/-!
# The migration of the schema

The first v2 transaction publishes two files, the v1 document it found as a backup and then the
migrated document. A step can stop before, between or after the two renames, and a stale backup of an
earlier attempt may be around while v1 documents keep changing.

`migration_consistent` follows a whole run: a v2 document on disk always has exactly the v1 document
before the first v2 publication as its backup, it never goes back to v1, and the backup never changes
again.
-/

namespace Calcifer

open Checks

section

variable [Sha256]

/-- The metadata a migration records about the document it replaces. -/
def migrationBackup (original : ConversationDocument) : PreMigrationBackup where
  schemaVersion := schemaVersionV1
  revision := original.revision
  sha256 := sha256Hex original.toVecPretty

/-- A disk whose document has the first schema. -/
def OnV1 (disk : Disk) : Prop := disk.document.schemaVersion = schemaVersionV1

/-- A disk whose document has the second schema. -/
def OnV2 (disk : Disk) : Prop := disk.document.schemaVersion = schemaVersionV2

variable {disk disk' : Disk}

theorem Reachable.onV1_or_onV2 (h : Reachable disk) : OnV1 disk ∨ OnV2 disk := by
  obtain h | h := validateDocument_iff.1 h.valid
  · exact Or.inl h.schema
  · exact Or.inr h.schema

omit [Sha256] in
theorem OnV2.not_onV1 (h : OnV2 disk) : ¬ OnV1 disk := by
  intro h'
  have : schemaVersionV1 = schemaVersionV2 := h'.symm.trans h
  simp [schemaVersionV1, schemaVersionV2] at this

/-- What both files hold once the document is migrated. -/
structure Migrated (original : ConversationDocument) (disk : Disk) : Prop where
  onV2 : OnV2 disk
  backup : disk.backup = some original
  metadata : disk.document.preMigrationBackup = some (migrationBackup original)

/-- A step on a v2 document keeps the schema, the backup and what is recorded about it. -/
theorem OnV2.step (h : OnV2 disk) (host : Host) (op : Operation) :
    OnV2 (op.step host disk) ∧ (op.step host disk).backup = disk.backup ∧
      (op.step host disk).document.preMigrationBackup = disk.document.preMigrationBackup := by
  have step := step_cases host op disk
  generalize op.step host disk = disk' at step
  cases step with
  | same => exact ⟨h, rfl, rfl⟩
  | backedUp original v2 load_eq serialize_eq =>
    obtain ⟨rfl, -⟩ := document_of_load load_eq
    exact absurd (serializeV1Document_iff.1 serialize_eq).1.schema h.not_onV1
  | published original document edited published load_eq prepared_eq change nextRevision_eq
      checkSave_eq =>
    obtain ⟨rfl, -⟩ := document_of_load load_eq
    obtain ⟨-, rfl⟩ := Calcifer.nextRevision_eq nextRevision_eq
    obtain ⟨hv, rfl⟩ | ⟨hv, hs, -⟩ := prepared_cases prepared_eq
    · exact ⟨change.sameHeader.schemaVersion.trans h, if_neg hv, change.sameHeader.preMigrationBackup⟩
    · exact absurd hs h.not_onV1

/-- A step that leaves a v2 document where a v1 document was has written that document as the
backup. -/
theorem OnV1.step (h : OnV1 disk) (host : Host) (op : Operation)
    (h' : OnV2 (op.step host disk)) : Migrated disk.document (op.step host disk) := by
  have step := step_cases host op disk
  generalize op.step host disk = disk' at step h'
  cases step with
  | same => exact absurd h h'.not_onV1
  | backedUp => exact absurd h h'.not_onV1
  | published original document edited published load_eq prepared_eq change nextRevision_eq
      checkSave_eq =>
    obtain ⟨rfl, -⟩ := document_of_load load_eq
    obtain ⟨-, rfl⟩ := Calcifer.nextRevision_eq nextRevision_eq
    obtain ⟨-, rfl⟩ | ⟨hv, hs, -, rfl⟩ := prepared_cases prepared_eq
    · exact absurd (change.sameHeader.schemaVersion.trans h) h'.not_onV1
    · exact ⟨h', if_pos ⟨hv, hs⟩, change.sameHeader.preMigrationBackup⟩

/-- A run on v2 documents keeps the backup and what is recorded about it. -/
theorem Migrated.run {original : ConversationDocument} (h : Migrated original disk)
    (r : Run disk disk') : Migrated original disk' := by
  induction r with
  | refl => exact h
  | step host op _ _ ih =>
    obtain ⟨onV2, backup, metadata⟩ := ih.onV2.step host op
    exact ⟨onV2, backup.trans ih.backup, metadata.trans ih.metadata⟩

/-- The first v2 publication of a run: all its steps up to `before` work on v1 documents, and
`host` and `op` make the step that migrates. -/
structure FirstPublication (disk : Disk) (before : Disk) (host : Host) (op : Operation) : Prop where
  earlier : RunOf (fun disk _ _ => OnV1 disk) .empty before
  onV1 : OnV1 before
  migrated : Migrated before.document (op.step host before)
  later : Run (op.step host before) disk

/-- A reachable disk is the end of a run on v1 documents, or follows a first v2 publication. -/
theorem Reachable.migration_cases (h : Reachable disk) :
    (OnV1 disk ∧ RunOf (fun disk _ _ => OnV1 disk) .empty disk) ∨
      ∃ before host op, FirstPublication disk before host op := by
  induction h with
  | empty => exact Or.inl ⟨rfl, .refl _⟩
  | @step disk host op hr ih =>
    obtain ⟨h, run⟩ | ⟨before, host', op', first⟩ := ih
    · obtain h' | h' := (hr.step host op).onV1_or_onV2
      · exact Or.inl ⟨h', .step host op h run⟩
      · exact Or.inr ⟨disk, host, op, run, h, h.step host op h', .refl _⟩
    · exact Or.inr ⟨before, host', op', first.earlier, first.onV1, first.migrated,
        .step host op trivial first.later⟩

/-- At every point of every run the registry loads. When it is a v2 document, the backup is exactly
the document before the first v2 publication, with its revision and digest recorded; from then on no
step goes back to v1 or changes the backup. -/
theorem migration_consistent (h : Reachable disk) :
    load disk = .ok disk.document ∧
      (OnV2 disk → ∃ before host op, FirstPublication disk before host op ∧
        Migrated before.document disk ∧ validateV1Document before.document = .ok ()) ∧
      ∀ disk', Run disk disk' → OnV2 disk → OnV2 disk' ∧ disk'.backup = disk.backup := by
  have follows : OnV2 disk → ∃ before host op, FirstPublication disk before host op := by
    intro hv
    obtain ⟨h1, -⟩ | first := h.migration_cases
    · exact absurd h1 hv.not_onV1
    · exact first
  refine ⟨h.load_eq, fun hv => ?_, fun disk' run hv => ?_⟩
  · obtain ⟨before, host, op, first⟩ := follows hv
    refine ⟨before, host, op, first, first.migrated.run first.later, ?_⟩
    have reachable : Reachable before := Reachable.empty.run first.earlier
    obtain hv1 | hv2 := validateDocument_iff.1 reachable.valid
    · exact validateV1Document_iff.2 hv1
    · exact absurd first.onV1 (OnV2.not_onV1 hv2.schema)
  · obtain ⟨before, host, op, first⟩ := follows hv
    have here := first.migrated.run first.later
    have there := here.run run
    exact ⟨there.onV2, there.backup.trans here.backup.symm⟩

end

section

attribute [local instance] sampleSha256

theorem migration_consistent_handoff :
    (sampleDisk 8).backup = some sampleAdopted ∧
      ∃ before host op, FirstPublication (sampleDisk 8) before host op ∧
        Migrated before.document (sampleDisk 8) ∧ before.document = sampleAdopted := by
  have hv : OnV2 (sampleDisk 8) := by
    rw [OnV2, sampleDisk_eq.2.2.2.2]
    rfl
  have hb : (sampleDisk 8).backup = some sampleAdopted := by
    rw [sampleDisk_eq.2.2.2.2]
  obtain ⟨before, host, op, first, migrated, -⟩ :=
    (migration_consistent (sampleDisk_reachable 8)).2.1 hv
  exact ⟨hb, before, host, op, first, migrated, Option.some.inj (migrated.backup.symm.trans hb)⟩

end

end Calcifer
