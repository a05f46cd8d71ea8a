import Calcifer.Library.Json
import Calcifer.Conversations.Handoff

/-!
# The target inventory of a handoff

Before a fork is requested, the threads of the target profile are read page by page and their ids go
into the journal as the baseline of the fork. The pages are taken in the order in which the app
server lists them, and the journal accepts a baseline only in ascending order of ids:
`target_baseline_iff` says exactly when the two agree.
-/

namespace Calcifer

open Checks Json RegistryM

inductive CodexFailoverError where
  | handoff
  | profile
  | protocol
deriving DecidableEq, Repr

def maxThreadPagesPerState : ℕ := 8

/-- An app server that was initialized: its result for the `thread/list` request with a page index
and a cursor, when there is one, and whether it shuts down in time. -/
structure AppServer where
  threadList : ℕ → Option String → Option Json
  shutdown : Bool

def validateCanonicalUuid (value : String) : Except CodexFailoverError Unit := do
  let parsed ← okOr (Uuid.parseStr value) .protocol
  rejectIf (parsed.toString ≠ value) .protocol

/-- The parent of an entry, when it has one, is another thread. -/
def validateParent (id : String) (parent : Option Json) : Except CodexFailoverError Unit :=
  match parent with
  | none | some .null => pure ()
  | some parent => do
    let parent ← okOr parent.asStr .protocol
    validateCanonicalUuid parent
    rejectIf (parent = id) .protocol

def validateInventoryEntry (entry : Json) (expectedCwd : String) :
    Except CodexFailoverError Unit := do
  let entry ← okOr entry.asObject .protocol
  let id ← okOr ((member entry "id").bind asStr) .protocol
  validateCanonicalUuid id
  validateParent id (member entry "parentThreadId")
  rejectIf ((member entry "ephemeral").bind asBool = none ∨
    (member entry "updatedAt").bind asI64 = none ∨
    (member entry "cliVersion").bind asStr ≠ some "0.144.4" ∨
    (member entry "source").bind asStr ≠ some "cli" ∨
    (member entry "cwd").bind asStr ≠ some expectedCwd) .protocol

/-- Check an entry and append it to those that were read before. -/
def addEntry (canonicalCwd : String) (entries : List Json) (entry : Json) :
    Except CodexFailoverError (List Json) := do
  validateInventoryEntry entry canonicalCwd
  let id ← okOr ((entry.get "id").bind asStr) .protocol
  rejectIf (entries.any fun existing => (existing.get "id").bind asStr = some id) .protocol
  pure (entries ++ [entry])

/-- Read the remaining pages. -/
def readPages (server : AppServer) (canonicalCwd : String) :
    (remaining pageIndex : ℕ) → (cursor : Option String) → (seenCursors : List String) →
    (entries : List Json) → Except CodexFailoverError (List Json)
  | 0, _, _, _, entries => pure entries
  | remaining + 1, pageIndex, cursor, seenCursors, entries => do
    let result ← okOr (server.threadList pageIndex cursor) .protocol
    let object ← okOr result.asObject .protocol
    let page ← okOr ((member object "data").bind asArray) .protocol
    let entries ← page.foldlM (addEntry canonicalCwd) entries
    match member object "nextCursor" with
    | none | some .null => pure entries
    | some value =>
      if remaining = 0 then .error .protocol
      else do
        let next ← okOr (value.asStr.filter fun value => value ≠ "") .protocol
        rejectIf (seenCursors.contains next) .protocol
        readPages server canonicalCwd remaining (pageIndex + 1) (some next) (next :: seenCursors)
          entries

/-- Read the threads of a profile in a workspace. `client` is the app server of its home, when one
can be started and initialized. -/
def readHandoffInventory (client : Except CodexFailoverError AppServer) (canonicalCwd : String) :
    Except CodexFailoverError (List Json) := do
  let server ← client
  let entries ← readPages server canonicalCwd maxThreadPagesPerState 0 none [] []
  rejectIf (¬ server.shutdown) .protocol
  pure entries

/-- The baseline the production runtime captures for a target profile. -/
def captureTargetBaseline (targetId : String) (providerLease : Except CodexFailoverError Unit)
    (client : Except CodexFailoverError AppServer) (workingDirectory : String)
    (transition : HandoffTransition) : Except CodexFailoverError (List String) := do
  rejectIf (transition.targetProfileId ≠ targetId) .handoff
  providerLease
  let inventory ← readHandoffInventory client workingDirectory
  pure (inventory.filterMap fun entry => (entry.get "id").bind asStr)

/-! ## What an inventory holds -/

/-- The id of an entry. -/
def entryId (entry : Json) : String := ((entry.get "id").bind asStr).getD ""

/-- An entry with a canonical id. -/
def HasId (entry : Json) : Prop :=
  (entry.get "id").bind asStr = some (entryId entry) ∧ validateUuid (entryId entry) "id" = .ok ()

/-- A checked inventory: canonical ids, each of them once. -/
structure InventoryOk (entries : List Json) : Prop where
  ids : ∀ entry ∈ entries, HasId entry
  distinct : (entries.map entryId).Nodup

section

variable {canonicalCwd : String} {entries entries' : List Json} {entry : Json}

theorem hasId_of_valid (h : validateInventoryEntry entry canonicalCwd = .ok ()) : HasId entry := by
  simp only [validateInventoryEntry, bind_eq_ok, okOr_eq_ok, validateCanonicalUuid, rejectIf_eq_ok,
    Decidable.not_not] at h
  obtain ⟨object, hobject, threadId, hid, _, ⟨u, hu, hstr⟩, -⟩ := h
  have get_eq : (entry.get "id").bind asStr = some threadId := by
    rw [Json.get, hobject]
    exact hid
  refine ⟨?_, ?_⟩
  · rw [entryId, get_eq]
    rfl
  · rw [entryId, get_eq]
    exact validateUuid_iff.2 ⟨u, hu, hstr⟩

theorem InventoryOk.addEntry (h : InventoryOk entries)
    (hadd : addEntry canonicalCwd entries entry = .ok entries') : InventoryOk entries' := by
  simp only [Calcifer.addEntry, bind_eq_ok, okOr_eq_ok, rejectIf_eq_ok, pure_eq_ok] at hadd
  obtain ⟨_, valid, id, hid, _, new, rfl⟩ := hadd
  have hentry := hasId_of_valid valid
  refine ⟨?_, ?_⟩
  · intro e he
    obtain he | he := List.mem_append.1 he
    · exact h.ids e he
    · rw [List.mem_singleton.1 he]
      exact hentry
  · rw [List.map_append, List.nodup_append]
    refine ⟨h.distinct, List.nodup_singleton _, ?_⟩
    intro a ha b hb hab
    obtain ⟨e, he, rfl⟩ := List.mem_map.1 ha
    rw [List.map_singleton, List.mem_singleton] at hb
    refine new (List.any_eq_true.2 ⟨e, he, ?_⟩)
    rw [(h.ids e he).1, hab, hb, ← hid, hentry.1]
    simp

theorem InventoryOk.addEntries (h : InventoryOk entries) {page : List Json}
    (hadd : page.foldlM (Calcifer.addEntry canonicalCwd) entries = .ok entries') :
    InventoryOk entries' := by
  induction page generalizing entries with
  | nil =>
    cases hadd
    exact h
  | cons entry page ih =>
    rw [List.foldlM_cons, bind_eq_ok] at hadd
    obtain ⟨next, hnext, hadd⟩ := hadd
    exact ih (h.addEntry hnext) hadd

theorem InventoryOk.readPages {server : AppServer} {remaining pageIndex : ℕ}
    {cursor : Option String} {seen : List String} (h : InventoryOk entries)
    (hread : readPages server canonicalCwd remaining pageIndex cursor seen entries = .ok entries') :
    InventoryOk entries' := by
  induction remaining generalizing pageIndex cursor seen entries with
  | zero =>
    cases hread
    exact h
  | succ remaining ih =>
    simp only [Calcifer.readPages, bind_eq_ok, okOr_eq_ok] at hread
    obtain ⟨result, -, object, -, page, -, next, hnext, hread⟩ := hread
    have hok := h.addEntries hnext
    split at hread
    · cases hread
      exact hok
    · cases hread
      exact hok
    · split_ifs at hread
      simp only [bind_eq_ok] at hread
      obtain ⟨_, -, _, -, hread⟩ := hread
      exact ih hok hread

/-- What is read is a checked inventory. -/
theorem inventoryOk_of_read {client : Except CodexFailoverError AppServer}
    (h : readHandoffInventory client canonicalCwd = .ok entries) : InventoryOk entries := by
  simp only [readHandoffInventory, bind_eq_ok, pure_eq_ok] at h
  obtain ⟨server, -, read, hread, _, -, rfl⟩ := h
  have start : InventoryOk [] := ⟨nofun, List.nodup_nil⟩
  exact start.readPages hread

/-- The baseline of a checked inventory is the list of its ids. -/
theorem InventoryOk.filterMap_eq (h : InventoryOk entries) :
    (entries.filterMap fun entry => (entry.get "id").bind asStr) = entries.map entryId := by
  rw [← List.filterMap_eq_map]
  exact List.filterMap_congr fun entry he => (h.ids entry he).1

end

/-! ## The baseline in the journal -/

theorem validateThreadBaseline_iff {ids : List String} :
    validateThreadBaseline ids = .ok () ↔
      ids.length ≤ maxInventoryThreads ∧ (∀ id ∈ ids, validateUuid id "id" = .ok ()) ∧
        ids.Pairwise (· < ·) := by
  simp only [validateThreadBaseline, check_bind_eq_ok, rejectIf_eq_ok, not_lt, gt_iff_lt,
    forEach_eq_ok]
  rw [← List.isChain_iff_pairwise, List.isChain_iff_getElem]
  refine and_congr_right fun _ => ⟨fun h => ⟨fun id hid => ?_, fun i hi => ?_⟩, fun ⟨valid, order⟩ => ?_⟩
  · obtain ⟨i, hi⟩ := List.mem_iff_getElem?.1 hid
    exact validateUuid_label (h i id hi).1 _
  · have := (h (i + 1) ids[i + 1] (List.getElem?_eq_getElem hi)).2
    simpa [List.getElem?_eq_getElem (Nat.lt_of_succ_lt hi)] using this
  · intro i id hi
    obtain ⟨hlt, rfl⟩ := List.getElem?_eq_some_iff.1 hi
    refine ⟨validateUuid_label (valid _ (List.getElem_mem hlt)) _, ?_⟩
    rintro ⟨pos, hbad⟩
    obtain ⟨j, rfl⟩ := Nat.exists_eq_succ_of_ne_zero pos.ne'
    have hj : j < ids.length := Nat.lt_of_succ_lt hlt
    simp only [Nat.succ_eq_add_one, Nat.add_sub_cancel, List.getElem?_eq_getElem hj] at hbad
    simp only [Option.any_some, decide_eq_true_eq] at hbad
    exact hbad (order j hlt)

/-- The app server lists the threads of the target in ascending order of their ids. -/
def ListedById (inventory : List Json) : Prop :=
  inventory.Pairwise fun earlier later => entryId earlier < entryId later

/-- The journal of a stopped source once its fork intent is recorded. -/
def forkIntent (t : HandoffTransition) (baseline : List String) (now : ℤ) : HandoffTransition :=
  { t with
    phase := .forkRequested, targetBaselineThreadIds := baseline, forkAttempts := 1
    forkRequestedAt := some now, updatedAt := now }

section

variable {host : Host} {disk : Disk} {t : HandoffTransition} {baseline : List String} {now : ℤ}

/-- A recorded fork intent is well formed when its baseline is. -/
theorem TransitionOk.forkIntent {d : ConversationDocument} {c : Conversation}
    {source : ConversationGeneration} (h : TransitionOk d t c source)
    (hp : t.phase = .sourceStopped) (later : t.updatedAt ≤ now)
    (hb : validateThreadBaseline baseline = .ok ()) :
    TransitionOk d (forkIntent t baseline now) c source := by
  have expected : (Calcifer.forkIntent t baseline now).expectedActive = t.expectedActive := by
    simp [Calcifer.forkIntent, HandoffTransition.expectedActive, hp]
  refine ⟨⟨h.shape.transitionId, h.shape.conversationId, h.shape.sourceProfileId,
    h.shape.targetProfileId, h.shape.trustDomainId, h.shape.path, h.shape.rollout, h.shape.bounded,
    h.shape.different, h.shape.target, h.shape.preparedAt, h.shape.updatedAt.trans later, hb,
    fun _ => ⟨now, rfl, ⟨le_rfl, Nat.le_succ 1⟩, h.shape.updatedAt.trans later, le_rfl⟩, nofun⟩,
    h.conversation_eq, h.source_eq, h.profile, h.cwd, h.trust, h.rollout, ?_, ?_, ?_⟩
  · obtain ⟨required, -⟩ := observation_iff.1 h.observation
    have unobserved : t.observedTarget = none := by
      rw [hp] at required
      simpa [HandoffPhase.observedRequired] using required
    refine observation_iff.2 ⟨?_, fun target ht => ?_⟩
    · rw [Calcifer.forkIntent, unobserved]
      rfl
    · rw [Calcifer.forkIntent, unobserved] at ht
      cases ht
  · obtain ⟨active, -, new⟩ := commitment_iff.1 h.commitment
    exact commitment_iff.2 ⟨active.trans expected.symm, nofun, fun _ => new (by rw [hp]; decide)⟩
  · have workspace := transitionWorkspace_iff.1 h.workspace
    rw [← expected] at workspace
    exact transitionWorkspace_iff.2 workspace

variable [Sha256]

/-- A fork intent is recorded exactly when its baseline is accepted and the registry has room. -/
theorem recordForkIntent_succeeds_iff (hr : Reachable disk)
    (ht : disk.document.activeTransition = some t) (hp : t.phase = .sourceStopped)
    (hf : host.fault = none) (hnow : unixTimestamp host = .ok now) (later : t.updatedAt ≤ now) :
    Succeeds (ConversationRegistry.recordForkIntent host t.transitionId baseline) disk ↔
      validateThreadBaseline baseline = .ok () ∧
        Fits { disk.document with activeTransition := some (forkIntent t baseline now) } := by
  have hv : ValidV2 disk.document := by
    obtain hv | hv := validateDocument_iff.1 hr.valid
    · rw [hv.transition] at ht
      cases ht
    · exact hv
  have hv2 : disk.document.schemaVersion ≠ schemaVersionV1 := by
    rw [hv.schema]
    decide
  obtain ⟨c, source, ok⟩ := hv.transition t ht
  obtain ⟨attempts, requestedAt, ids⟩ := ok.shape.unstarted (by rw [hp]; rfl)
  have exact_eq : disk.document.exactTransition t.transitionId .sourceStopped = .ok t :=
    exactTransition_iff.2 ⟨ht, rfl, hp⟩
  have operation : disk.document.recordForkIntent host t.transitionId baseline =
      .ok (forkIntent t baseline now, { disk.document with
        activeTransition := some (forkIntent t baseline now) }) := by
    simp [ConversationDocument.recordForkIntent, exact_eq, attempts, requestedAt, ids, hnow,
      rejectIf, forkIntent, bind, Except.bind, pure, Except.pure]
  rw [ConversationRegistry.recordForkIntent, succeeds_lift_iff]
  simp only [ok.shape.transitionId, exists_const, true_and, succeeds_lift_iff,
    transactV2_succeeds_iff hr hv2 hf, operation, Except.ok.injEq, Prod.mk.injEq]
  have valid (hb : validateThreadBaseline baseline = .ok ()) :
      ValidV2 { disk.document with activeTransition := some (forkIntent t baseline now) } :=
    { schema := hv.schema
      backup := hv.backup
      contents := hv.contents.congr rfl rfl rfl
      transition := fun t' h => by
        cases h
        exact ⟨c, source, (ok.forkIntent hp later hb).congr rfl rfl rfl⟩ }
  constructor
  · rintro ⟨⟨⟩, hb, _, _, published, ⟨rfl, rfl⟩, hpub⟩
    exact ⟨hb, (valid hb).publish_iff.1 ⟨published, hpub⟩⟩
  · rintro ⟨hb, hfits⟩
    obtain ⟨published, hpub⟩ := (valid hb).publish_iff.2 hfits
    exact ⟨(), hb, _, _, published, ⟨rfl, rfl⟩, hpub⟩

/-- The baseline that is captured for a target is accepted by the journal, and the handoff goes on,
exactly when the app server lists the threads of the target by ascending ids. -/
theorem target_baseline_iff (t : HandoffTransition) {cwd : String}
    {client : Except CodexFailoverError AppServer} {inventory : List Json}
    (read : readHandoffInventory client cwd = .ok inventory)
    (few : inventory.length ≤ maxInventoryThreads) :
    ∃ baseline, captureTargetBaseline t.targetProfileId (.ok ()) client cwd t = .ok baseline ∧
      (validateThreadBaseline baseline = .ok () ↔ ListedById inventory) ∧
      ∀ (disk : Disk) (host : Host) (now : ℤ), Reachable disk →
        disk.document.activeTransition = some t → t.phase = .sourceStopped →
        host.fault = none → unixTimestamp host = .ok now → t.updatedAt ≤ now →
        (Succeeds (ConversationRegistry.recordForkIntent host t.transitionId baseline) disk ↔
          ListedById inventory ∧
          Fits { disk.document with activeTransition := some (forkIntent t baseline now) }) := by
  have ok := inventoryOk_of_read read
  refine ⟨inventory.map entryId, ?_, ?_⟩
  · simp [captureTargetBaseline, read, ok.filterMap_eq, rejectIf, bind, Except.bind, pure,
      Except.pure]
  have accepted : validateThreadBaseline (inventory.map entryId) = .ok () ↔ ListedById inventory := by
    rw [validateThreadBaseline_iff, List.length_map, List.pairwise_map]
    refine ⟨fun h => h.2.2, fun h => ⟨few, fun id hid => ?_, h⟩⟩
    obtain ⟨entry, he, rfl⟩ := List.mem_map.1 hid
    exact (ok.ids entry he).2
  refine ⟨accepted, fun disk host now hr ht hp hf hnow later => ?_⟩
  rw [recordForkIntent_succeeds_iff hr ht hp hf hnow later, accepted]

end

/-! ### A target with two threads -/

section

attribute [local instance] sampleSha256

def sampleEntry (id : String) (updatedAt : ℤ) : Json :=
  .obj [("id", .str id), ("parentThreadId", .null), ("ephemeral", .bool false),
    ("updatedAt", .int updatedAt), ("cliVersion", .str "0.144.4"), ("source", .str "cli"),
    ("cwd", .str "/work")]

/-- An app server that lists its threads on one page. -/
def sampleServer (entries : List Json) : AppServer where
  threadList _ _ := some (.obj [("data", .arr entries), ("nextCursor", .null)])
  shutdown := true

/-- The transition of the sample with its source stopped. -/
def sampleStoppedTransition : HandoffTransition := { sampleTransition with
  phase := .sourceStopped, updatedAt := 1760000003 }

theorem sampleDisk_stopped : (sampleDisk 4).document = sampleStopped := by
  rw [sampleDisk_eq.2.2.1]
  rfl

/-- Threads that were updated in the order of their ids. -/
def sampleAscending : List Json :=
  [sampleEntry (sampleId 6) 10, sampleEntry (sampleId 7) 20]

/-- The same threads, updated in the other order. -/
def sampleDescending : List Json :=
  [sampleEntry (sampleId 7) 10, sampleEntry (sampleId 6) 20]

theorem target_baseline_ascending :
    ∃ baseline, captureTargetBaseline (sampleId 2) (.ok ()) (.ok (sampleServer sampleAscending))
        "/work" sampleStoppedTransition = .ok baseline ∧
      Succeeds (ConversationRegistry.recordForkIntent (sampleHost 12 1760000004)
        sampleStoppedTransition.transitionId baseline) (sampleDisk 4) := by
  have active : (sampleDisk 4).document.activeTransition = some sampleStoppedTransition := by
    rw [sampleDisk_stopped]
    rfl
  have read : readHandoffInventory (.ok (sampleServer sampleAscending)) "/work" =
      .ok sampleAscending := rfl
  have working : (sampleHost 12 1760000004).fault = none := rfl
  have clock : unixTimestamp (sampleHost 12 1760000004) = .ok 1760000004 := rfl
  obtain ⟨baseline, captured, -, recorded⟩ :=
    target_baseline_iff sampleStoppedTransition read (by decide)
  refine ⟨baseline, captured, ?_⟩
  rw [recorded _ _ _ (sampleDisk_reachable 4) active rfl working clock (by decide)]
  obtain rfl : [sampleId 6, sampleId 7] = baseline := Except.ok.inj captured
  rw [sampleDisk_stopped]
  exact ⟨by unfold ListedById; decide +kernel, by decide +kernel, by decide +kernel⟩

/-- Two threads that are not listed in the order of their ids stop a handoff for good. -/
theorem target_baseline_descending :
    readHandoffInventory (.ok (sampleServer sampleDescending)) "/work" = .ok sampleDescending ∧
    Reachable (sampleDisk 4) ∧
    (sampleDisk 4).document.activeTransition = some sampleStoppedTransition ∧
    captureTargetBaseline (sampleId 2) (.ok ()) (.ok (sampleServer sampleDescending)) "/work"
      sampleStoppedTransition = .ok [sampleId 7, sampleId 6] ∧
    validateThreadBaseline [sampleId 7, sampleId 6] =
      .error (invalid "target baseline thread ids are not canonical and unique") ∧
    ∀ host, ConversationRegistry.recordForkIntent host sampleStoppedTransition.transitionId
        [sampleId 7, sampleId 6] (sampleDisk 4) =
      (.error (invalid "target baseline thread ids are not canonical and unique"), sampleDisk 4) := by
  have refused : validateThreadBaseline [sampleId 7, sampleId 6] =
      .error (invalid "target baseline thread ids are not canonical and unique") := by
    decide +kernel
  have hid : validateUuid sampleStoppedTransition.transitionId "transition id" = .ok () := by
    decide +kernel
  refine ⟨rfl, sampleDisk_reachable 4, ?_, rfl, refused, fun host => ?_⟩
  · rw [sampleDisk_stopped]
    rfl
  · rw [ConversationRegistry.recordForkIntent, lift_bind_apply, hid]
    dsimp only
    rw [lift_bind_apply, refused]

end

end Calcifer
