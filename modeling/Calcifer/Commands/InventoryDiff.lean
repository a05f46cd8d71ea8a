import Calcifer.Conversations.Operations

/-!
# Comparing two inventories

A launch records the threads of its provider before it starts. `inventoryCandidate` compares that
baseline with a later inventory: it answers with the one entry that is new or has changed, and calls
everything else ambiguous. `inventoryCandidate_answers` says so for inventories with distinct ids, and
`Answers.unique` that their order does not matter.
-/

namespace Calcifer

open Lists

/-! ## The provider's threads -/

structure CodexRolloutFingerprint where
  device : ℕ
  inode : ℕ
  length : ℕ
  modifiedSeconds : ℤ
  modifiedNanoseconds : ℤ
  changedSeconds : ℤ
  changedNanoseconds : ℤ
deriving DecidableEq, Repr

/-- What the provider tells about one of its threads. -/
structure CodexThreadMetadata where
  threadId : String
  canonicalCwd : String
  updatedAt : ℤ
  recencyAt : Option ℤ
  archived : Bool
  rolloutFingerprint : CodexRolloutFingerprint
deriving DecidableEq, Repr

structure CodexThreadInventory where
  codexVersion : String
  threads : List CodexThreadMetadata
  complete : Bool
deriving DecidableEq, Repr

inductive CodexThreadLifecycle where
  | clean
  | interrupted
  | unknownCrash
deriving DecidableEq, Repr

structure CodexThreadRead where
  codexVersion : String
  metadata : CodexThreadMetadata
  lifecycle : CodexThreadLifecycle
deriving DecidableEq, Repr

def mapThreadLifecycle : CodexThreadLifecycle → ConversationLifecycle
  | .clean => .clean
  | .interrupted => .interrupted
  | .unknownCrash => .unknownCrash

def inventoryProjection (inventory : CodexThreadInventory) : List InventoryThread :=
  inventory.threads.map fun thread => {
    threadId := thread.threadId
    updatedAt := thread.updatedAt
    recencyAt := thread.recencyAt
    archived := thread.archived
    rolloutDevice := thread.rolloutFingerprint.device
    rolloutInode := thread.rolloutFingerprint.inode
    rolloutLength := thread.rolloutFingerprint.length
    rolloutModifiedSeconds := thread.rolloutFingerprint.modifiedSeconds
    rolloutModifiedNanoseconds := thread.rolloutFingerprint.modifiedNanoseconds
    rolloutChangedSeconds := thread.rolloutFingerprint.changedSeconds
    rolloutChangedNanoseconds := thread.rolloutFingerprint.changedNanoseconds }

/-! ## Comparing two inventories -/

inductive InventoryCandidate where
  | none
  | one (threadId : String)
  | ambiguous
deriving DecidableEq, Repr

/-- The entry of the baseline under a thread id. A later entry with the same id replaces an earlier
one. -/
def baselineEntry (baseline : List InventoryThread) (threadId : String) : Option InventoryThread :=
  baseline.reverse.find? fun thread => thread.threadId = threadId

/-- Whether a current entry is new or differs from its baseline entry. -/
def isCandidate (baseline : List InventoryThread) (thread : InventoryThread) : Bool :=
  (baselineEntry baseline thread.threadId).all fun entry => entry ≠ thread

def inventoryCandidate (baseline current : List InventoryThread) : InventoryCandidate :=
  if baseline.any fun thread => ¬ current.any fun other => other.threadId = thread.threadId then
    .ambiguous
  else match current.filter (isCandidate baseline) with
    | [] => .none
    | [thread] => .one thread.threadId
    | _ :: _ :: _ => .ambiguous

/-- Some baseline id is absent from the current inventory. -/
def Missing (baseline current : List InventoryThread) : Prop :=
  ∃ thread ∈ baseline, ∀ other ∈ current, other.threadId ≠ thread.threadId

/-- A current entry is new, or differs in some field from its baseline entry. -/
def NewOrChanged (baseline current : List InventoryThread) (thread : InventoryThread) : Prop :=
  thread ∈ current ∧
    ((∀ entry ∈ baseline, entry.threadId ≠ thread.threadId) ∨
      ∃ entry ∈ baseline, entry.threadId = thread.threadId ∧ entry ≠ thread)

section

variable {baseline current baseline' current' : List InventoryThread}

/-- An entry of a baseline with distinct ids is found under its id. -/
theorem baselineEntry_of_mem (distinct : (baseline.map (·.threadId)).Nodup) {entry : InventoryThread}
    (h : entry ∈ baseline) : baselineEntry baseline entry.threadId = some entry := by
  have reversed : (baseline.reverse.map (·.threadId)).Nodup := by
    rw [List.map_reverse, List.nodup_reverse]
    exact distinct
  exact find?_of_nodup_map reversed (List.mem_reverse.2 h)

theorem mem_of_baselineEntry {threadId : String} {entry : InventoryThread}
    (h : baselineEntry baseline threadId = some entry) :
    entry ∈ baseline ∧ entry.threadId = threadId := by
  refine ⟨List.mem_reverse.1 (List.mem_of_find?_eq_some h), ?_⟩
  simpa using List.find?_some h

/-- With distinct ids, the candidates are the entries that the baseline does not have. -/
theorem isCandidate_iff (distinct : (baseline.map (·.threadId)).Nodup) {thread : InventoryThread} :
    isCandidate baseline thread = true ↔ thread ∉ baseline := by
  unfold isCandidate
  cases he : baselineEntry baseline thread.threadId with
  | none =>
    refine iff_of_true rfl fun hmem => ?_
    rw [baselineEntry_of_mem distinct hmem] at he
    cases he
  | some entry =>
    obtain ⟨hmem, hid⟩ := mem_of_baselineEntry he
    rw [Option.all_some, decide_eq_true_eq]
    constructor
    · intro hne hthread
      have found := baselineEntry_of_mem distinct hthread
      rw [he] at found
      exact hne (Option.some.inj found)
    · rintro hthread rfl
      exact hthread hmem

theorem newOrChanged_iff (distinct : (baseline.map (·.threadId)).Nodup) {thread : InventoryThread} :
    NewOrChanged baseline current thread ↔ thread ∈ current ∧ thread ∉ baseline := by
  refine and_congr_right fun _ => ?_
  constructor
  · rintro (absent | ⟨entry, hentry, hid, hne⟩) hthread
    · exact absent thread hthread rfl
    · exact hne (List.inj_on_of_nodup_map distinct hentry hthread hid)
  · intro hthread
    by_cases known : ∃ entry ∈ baseline, entry.threadId = thread.threadId
    · obtain ⟨entry, hentry, hid⟩ := known
      refine Or.inr ⟨entry, hentry, hid, ?_⟩
      rintro rfl
      exact hthread hentry
    · refine Or.inl fun entry hentry hid => known ⟨entry, hentry, hid⟩

theorem mem_candidates (current : List InventoryThread) (distinct : (baseline.map (·.threadId)).Nodup)
    (thread : InventoryThread) :
    thread ∈ current.filter (isCandidate baseline) ↔ NewOrChanged baseline current thread := by
  rw [List.mem_filter, isCandidate_iff distinct, newOrChanged_iff distinct]

theorem missing_iff : baseline.any (fun thread =>
      ¬ current.any fun other => other.threadId = thread.threadId) = true ↔
    Missing baseline current := by
  simp [Missing]

theorem inventoryCandidate_of_missing (h : Missing baseline current) :
    inventoryCandidate baseline current = .ambiguous := by
  unfold inventoryCandidate
  rw [if_pos (missing_iff.2 h)]

theorem inventoryCandidate_of_not_missing (h : ¬ Missing baseline current) :
    inventoryCandidate baseline current =
      match current.filter (isCandidate baseline) with
      | [] => .none
      | [thread] => .one thread.threadId
      | _ :: _ :: _ => .ambiguous := by
  unfold inventoryCandidate
  rw [if_neg fun he => h (missing_iff.1 he)]

/-- The answers to a comparison, by the entries that are new or changed. -/
structure Answers (baseline current : List InventoryThread) (answer : InventoryCandidate) : Prop where
  ambiguous_iff : answer = .ambiguous ↔ Missing baseline current ∨
    ∃ first second, first ≠ second ∧ NewOrChanged baseline current first ∧
      NewOrChanged baseline current second
  one_iff : ∀ threadId, answer = .one threadId ↔ ¬ Missing baseline current ∧
    ∃ thread, thread.threadId = threadId ∧
      ∀ other, NewOrChanged baseline current other ↔ other = thread
  none_iff : answer = .none ↔ ∀ thread, thread ∈ baseline ↔ thread ∈ current

theorem answers_of_not_missing (distinct : (baseline.map (·.threadId)).Nodup)
    (distinct' : (current.map (·.threadId)).Nodup) (h : ¬ Missing baseline current) :
    Answers baseline current (inventoryCandidate baseline current) := by
  have equal_iff : (∀ thread, thread ∈ baseline ↔ thread ∈ current) ↔
      ∀ thread, ¬ NewOrChanged baseline current thread := by
    constructor
    · intro same thread hthread
      obtain ⟨hcurrent, hbaseline⟩ := (newOrChanged_iff distinct).1 hthread
      exact hbaseline ((same thread).2 hcurrent)
    · intro none
      have sub : ∀ thread ∈ current, thread ∈ baseline := fun thread hthread => by
        by_contra hne
        exact none thread ((newOrChanged_iff distinct).2 ⟨hthread, hne⟩)
      refine fun thread => ⟨fun hthread => ?_, sub thread⟩
      -- the current entry under the same id is a baseline entry, hence the same one
      by_contra absent
      refine h ⟨thread, hthread, fun other hother hid => absent ?_⟩
      rwa [← List.inj_on_of_nodup_map distinct (sub other hother) hthread hid]
  have unrepeated : (current.filter (isCandidate baseline)).Nodup := distinct'.of_map.filter _
  rw [inventoryCandidate_of_not_missing h]
  have mem := fun thread : InventoryThread => mem_candidates current distinct thread
  generalize current.filter (isCandidate baseline) = candidates at mem unrepeated
  rcases candidates with _ | ⟨thread, _ | ⟨second, rest⟩⟩
  · have none : ∀ thread, ¬ NewOrChanged baseline current thread := by simpa using mem
    refine ⟨?_, ?_, ?_⟩
    · simp [h, none]
    · intro threadId
      refine iff_of_false (by simp) ?_
      rintro ⟨-, thread, -, only⟩
      exact none thread ((only thread).2 rfl)
    · exact iff_of_true rfl (equal_iff.2 none)
  · have only : ∀ other, NewOrChanged baseline current other ↔ other = thread := by
      simpa [eq_comm, iff_comm] using mem
    refine ⟨?_, ?_, ?_⟩
    · refine iff_of_false (by simp) ?_
      rintro (missing | ⟨first, second, hne, hfirst, hsecond⟩)
      · exact h missing
      · exact hne (((only first).1 hfirst).trans ((only second).1 hsecond).symm)
    · intro threadId
      constructor
      · intro he
        exact ⟨h, thread, InventoryCandidate.one.inj he, only⟩
      · rintro ⟨-, thread', hid, only'⟩
        obtain rfl := (only thread').1 ((only' thread').2 rfl)
        exact congrArg InventoryCandidate.one hid
    · refine iff_of_false (by simp) fun same => ?_
      exact equal_iff.1 same thread ((only thread).2 rfl)
  · have hfirst : NewOrChanged baseline current thread := (mem thread).1 (by simp)
    have hsecond : NewOrChanged baseline current second := (mem second).1 (by simp)
    have hne : thread ≠ second := by
      rintro rfl
      simp at unrepeated
    refine ⟨?_, ?_, ?_⟩
    · exact iff_of_true rfl (Or.inr ⟨thread, second, hne, hfirst, hsecond⟩)
    · intro threadId
      refine iff_of_false (by simp) ?_
      rintro ⟨-, other, -, only⟩
      exact hne (((only thread).1 hfirst).trans ((only second).1 hsecond).symm)
    · refine iff_of_false (by simp) fun same => ?_
      exact equal_iff.1 same thread hfirst

theorem answers_of_missing (h : Missing baseline current) :
    Answers baseline current (inventoryCandidate baseline current) := by
  rw [inventoryCandidate_of_missing h]
  refine ⟨iff_of_true rfl (Or.inl h), fun threadId => iff_of_false (by simp) fun only => only.1 h,
    iff_of_false (by simp) fun same => ?_⟩
  obtain ⟨thread, hthread, absent⟩ := h
  exact absent thread ((same thread).1 hthread) rfl

theorem inventoryCandidate_answers (distinct : (baseline.map (·.threadId)).Nodup)
    (distinct' : (current.map (·.threadId)).Nodup) :
    Answers baseline current (inventoryCandidate baseline current) := by
  by_cases h : Missing baseline current
  · exact answers_of_missing h
  · exact answers_of_not_missing distinct distinct' h

/-- The order of the inventories does not matter. -/
theorem Answers.unique {answer answer' : InventoryCandidate} (h : Answers baseline current answer)
    (h' : Answers baseline' current' answer') (hb : baseline.Perm baseline')
    (hc : current.Perm current') : answer' = answer := by
  have missing : Missing baseline' current' ↔ Missing baseline current := by
    simp only [Missing, hb.mem_iff, hc.mem_iff]
  have changed : ∀ thread, NewOrChanged baseline' current' thread ↔
      NewOrChanged baseline current thread := by
    intro thread
    simp only [NewOrChanged, hb.mem_iff, hc.mem_iff]
  cases answer with
  | none =>
    rw [h'.none_iff]
    intro thread
    rw [← hb.mem_iff, ← hc.mem_iff]
    exact h.none_iff.1 rfl thread
  | one threadId =>
    rw [h'.one_iff, missing]
    simp only [changed]
    exact (h.one_iff threadId).1 rfl
  | ambiguous =>
    rw [h'.ambiguous_iff, missing]
    simp only [changed]
    exact h.ambiguous_iff.1 rfl

end

end Calcifer
