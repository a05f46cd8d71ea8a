import Calcifer.Codex.HandoffTransaction
import Calcifer.Library.Folds
import Calcifer.Conversations.Lineage
import Calcifer.Conversations.Handoff

/-!
# What an inventory means for a requested fork

`reconcileForkCandidates` sorts the inventory and looks every thread up in the baseline by a binary
search. Since the baseline is strictly sorted, which was checked before, what it decides is a matter
of the set of threads outside the baseline alone.
-/

namespace Calcifer

open Checks Lists

/-! ## Thread ids -/

/-- The canonical text of a UUID. -/
def IsThreadId (threadId : String) : Prop := ∃ uuid : Uuid, uuid.toString = threadId

theorem validateThreadId_eq_ok {threadId : String} :
    validateThreadId threadId = .ok () ↔ IsThreadId threadId := by
  rw [validateThreadId, bind_eq_ok]
  simp only [okOr_eq_ok, rejectIf_eq_ok, not_not]
  constructor
  · rintro ⟨uuid, -, rfl⟩
    exact ⟨uuid, rfl⟩
  · rintro ⟨uuid, rfl⟩
    exact ⟨uuid, Uuid.parseStr_toString uuid, rfl⟩

theorem validateThreadId_cases (threadId : String) :
    validateThreadId threadId = .ok () ∨ validateThreadId threadId = .error .invalidInventory := by
  unfold validateThreadId
  cases Uuid.parseStr threadId with
  | none => exact Or.inr rfl
  | some parsed =>
    rw [okOr, ok_bind, rejectIf]
    split_ifs
    · exact Or.inr rfl
    · exact Or.inl rfl

/-- A loop that checks ids and compares each with the one before it. -/
theorem forEach_sorted_eq_ok {ε : Type} {e : ε} {check : String → Except ε Unit} {P : String → Prop}
    (hcheck : ∀ id, check id = .ok () ↔ P id) {ids : List String} :
    (forEach ids fun index id => do
      check id
      rejectIf (0 < index ∧ (ids[index - 1]?).any fun previous => ¬previous < id) e) = .ok () ↔
      (∀ id ∈ ids, P id) ∧ ids.Pairwise (· < ·) := by
  rw [forEach_eq_ok, ← List.isChain_iff_pairwise, isChain_iff_previous]
  simp only [check_bind_eq_ok, rejectIf_eq_ok, hcheck]
  refine ⟨fun h => ⟨?_, fun i a ha => (h i a ha).2⟩, ?_⟩
  · intro id hmem
    obtain ⟨i, hi⟩ := List.mem_iff_getElem?.1 hmem
    exact (h i id hi).1
  · rintro ⟨ids, chain⟩ i a ha
    exact ⟨ids a (List.mem_of_getElem? ha), chain i a ha⟩

/-- A baseline is canonical when it is strictly sorted. -/
theorem validateSortedThreadIds_eq_ok {threadIds : List String} :
    validateSortedThreadIds threadIds = .ok () ↔ threadIds.length ≤ maxReconciliationThreads ∧
      (∀ threadId ∈ threadIds, IsThreadId threadId) ∧ threadIds.Pairwise (· < ·) := by
  rw [validateSortedThreadIds, check_bind_eq_ok, rejectIf_eq_ok, not_lt]
  exact and_congr_right fun _ =>
    forEach_sorted_eq_ok fun _ => mapError_eq_ok.trans validateThreadId_eq_ok

theorem validateThreadBaseline_eq_ok {threadIds : List String} :
    validateThreadBaseline threadIds = .ok () ↔ threadIds.length ≤ maxReconciliationThreads ∧
      (∀ threadId ∈ threadIds, IsThreadId threadId) ∧ threadIds.Pairwise (· < ·) := by
  rw [validateThreadBaseline, check_bind_eq_ok, rejectIf_eq_ok, not_lt]
  refine and_congr_right fun _ => forEach_sorted_eq_ok fun threadId => validateUuid_iff.trans ?_
  constructor
  · rintro ⟨uuid, -, h⟩
    exact ⟨uuid, h⟩
  · rintro ⟨uuid, rfl⟩
    exact ⟨uuid, Uuid.parseStr_toString uuid, rfl⟩

/-! ## Inventories -/

variable {T : Type} {transition : HandoffTransition} {inventory inventory' : List (ForkCandidate T)}

/-- A handoff whose fork was requested once or twice, for a known reason, after a canonical baseline
was recorded. -/
structure HandoffTransition.Reconcilable (transition : HandoffTransition) : Prop where
  reason : transition.reason ≠ .unknownLegacy
  phase : transition.phase = .forkRequested
  attempts : transition.forkAttempts = 1 ∨ transition.forkAttempts = 2
  requested : transition.forkRequestedAt ≠ none
  baseline : validateSortedThreadIds transition.targetBaselineThreadIds = .ok ()

/-- Distinct canonical thread ids. -/
structure Canonical (inventory : List (ForkCandidate T)) : Prop where
  ids : ∀ candidate ∈ inventory, IsThreadId candidate.threadId
  distinct : (inventory.map (·.threadId)).Nodup

/-- The candidate is outside the baseline. -/
def ForkCandidate.New (candidate : ForkCandidate T) (transition : HandoffTransition) : Prop :=
  candidate.threadId ∉ transition.targetBaselineThreadIds

/-- The inventory in the order in which it is checked. -/
def sortedInventory (inventory : List (ForkCandidate T)) : List (ForkCandidate T) :=
  inventory.insertionSort fun left right => left.threadId ≤ right.threadId

def checkInventory (inventory : List (ForkCandidate T)) : Except HandoffTransactionError Unit :=
  forEach (sortedInventory inventory) fun index candidate => do
    validateThreadId candidate.threadId
    rejectIf (0 < index ∧ ((sortedInventory inventory)[index - 1]?).any fun previous =>
      previous.threadId = candidate.threadId) .invalidInventory

/-- What the new candidates come to after so many attempts. -/
def reconcileNew (forkAttempts : ℕ) : List (ForkCandidate T) → ForkReconciliation T
  | [] => if forkAttempts = 1 then .retryOnce else .explicit .retryExhausted
  | [first] =>
    match first.projection with
    | .matching target => .adopt target
    | .mismatch => .explicit .mismatchedCandidate
  | _ => .explicit .multipleCandidates

theorem perm_sortedInventory : (sortedInventory inventory).Perm inventory :=
  List.perm_insertionSort _ _

theorem ids_sortedInventory : ((sortedInventory inventory).map (·.threadId)).Pairwise (· ≤ ·) := by
  rw [sortedInventory, List.map_insertionSort (fun left right => left.threadId ≤ right.threadId)
    (· ≤ ·) (·.threadId) inventory (fun _ _ _ _ => Iff.rfl)]
  exact List.pairwise_insertionSort _ _

/-- In a sorted list it is enough to compare neighbours. -/
theorem nodup_iff_isChain {ids : List String} (sorted : ids.Pairwise (· ≤ ·)) :
    ids.Nodup ↔ ids.IsChain (· ≠ ·) := by
  refine ⟨fun h => h.isChain, fun h => ?_⟩
  have chain : ids.IsChain (· < ·) := by
    rw [List.isChain_iff_getElem] at h ⊢
    intro i hi
    exact lt_of_le_of_ne (List.pairwise_iff_getElem.1 sorted i (i + 1) _ hi (Nat.lt_succ_self i)) (h i hi)
  exact (List.isChain_iff_pairwise.1 chain).imp ne_of_lt

theorem checkInventory_eq_ok : checkInventory inventory = .ok () ↔ Canonical inventory := by
  have hchain : (sortedInventory inventory).IsChain (fun a b => a.threadId ≠ b.threadId) ↔
      (inventory.map (·.threadId)).Nodup := by
    rw [← (perm_sortedInventory.map (·.threadId)).nodup_iff, nodup_iff_isChain ids_sortedInventory,
      List.isChain_map]
  rw [checkInventory, forEach_eq_ok]
  simp only [check_bind_eq_ok, rejectIf_eq_ok, validateThreadId_eq_ok]
  constructor
  · intro h
    refine ⟨fun candidate hmem => ?_, hchain.1 (isChain_iff_previous.2 fun i a ha => ?_)⟩
    · obtain ⟨i, hi⟩ := List.mem_iff_getElem?.1 (perm_sortedInventory.mem_iff.2 hmem)
      exact (h i candidate hi).1
    · simpa only [ne_eq, not_not] using (h i a ha).2
  · intro h i a ha
    refine ⟨h.ids a (perm_sortedInventory.mem_iff.1 (List.mem_of_getElem? ha)), ?_⟩
    simpa only [ne_eq, not_not] using isChain_iff_previous.1 (hchain.2 h.distinct) i a ha

theorem checkInventory_eq_error (h : ¬Canonical inventory) :
    checkInventory inventory = .error .invalidInventory := by
  refine forEach_eq_error (fun index candidate => ?_) (fun passed => h (checkInventory_eq_ok.1 passed))
  obtain valid | valid := validateThreadId_cases candidate.threadId
  · rw [valid, ok_bind, rejectIf]
    split_ifs
    · exact Or.inr rfl
    · exact Or.inl rfl
  · rw [valid]
    exact Or.inr rfl

/-- The candidates of an inventory that are outside the baseline, in order. -/
def newCandidates (transition : HandoffTransition) (inventory : List (ForkCandidate T)) :
    List (ForkCandidate T) :=
  (sortedInventory inventory).filter fun candidate =>
    decide (candidate.threadId ∉ transition.targetBaselineThreadIds)

/-- The binary search finds what is in the baseline. -/
theorem reconcileForkCandidates_eq (h : transition.Reconcilable)
    (few : inventory.length ≤ maxReconciliationThreads) :
    reconcileForkCandidates transition inventory = (do
      checkInventory inventory
      return reconcileNew transition.forkAttempts (newCandidates transition inventory)) := by
  obtain ⟨-, -, sorted⟩ := validateSortedThreadIds_eq_ok.1 h.baseline
  have hsearch : (sortedInventory inventory).filter (fun candidate =>
      decide ¬binarySearch transition.targetBaselineThreadIds candidate.threadId = true) =
        newCandidates transition inventory := by
    refine List.filter_congr fun candidate _ => ?_
    simp only [binarySearch_iff sorted]
  have hreason : rejectIf (transition.reason = .unknownLegacy)
      HandoffTransactionError.unknownReason = .ok () := rejectIf_eq_ok.2 h.reason
  have hguard : rejectIf (transition.phase ≠ .forkRequested ∨
      ¬(transition.forkAttempts = 1 ∨ transition.forkAttempts = 2) ∨
      transition.forkRequestedAt = none ∨ inventory.length > maxReconciliationThreads)
      HandoffTransactionError.invalidTransition = .ok () := by
    rw [rejectIf_eq_ok]
    rintro (hphase | hattempts | hrequested | hmany)
    · exact hphase h.phase
    · exact hattempts h.attempts
    · exact h.requested hrequested
    · omega
  rw [reconcileForkCandidates, hreason, ok_bind, hguard, ok_bind, h.baseline, ok_bind]
  change (checkInventory inventory >>= _) = _
  refine congrArg (checkInventory inventory >>= ·) (funext fun _ => ?_)
  rw [sortedInventory] at hsearch
  rw [hsearch]
  generalize newCandidates transition inventory = new
  rcases new with _ | ⟨⟨_, target | _⟩, _ | ⟨second, rest⟩⟩
  · show ite _ _ _ = Except.ok (ite _ _ _)
    split_ifs
    · rfl
    · rfl
  all_goals rfl

/-- An inventory with an id twice, or one that is not canonical. -/
theorem reconcileForkCandidates_invalid (h : transition.Reconcilable)
    (few : inventory.length ≤ maxReconciliationThreads) (invalid : ¬Canonical inventory) :
    reconcileForkCandidates transition inventory = .error .invalidInventory := by
  rw [reconcileForkCandidates_eq h few, checkInventory_eq_error invalid]
  rfl

theorem reconcileForkCandidates_canonical (h : transition.Reconcilable)
    (few : inventory.length ≤ maxReconciliationThreads) (canonical : Canonical inventory) :
    reconcileForkCandidates transition inventory =
      .ok (reconcileNew transition.forkAttempts (newCandidates transition inventory)) := by
  rw [reconcileForkCandidates_eq h few, checkInventory_eq_ok.2 canonical]
  rfl

/-! ## Order does not matter -/

theorem Canonical.perm (h : Canonical inventory) (perm : inventory.Perm inventory') :
    Canonical inventory' :=
  ⟨fun candidate hmem => h.ids candidate (perm.mem_iff.2 hmem), (perm.map _).nodup_iff.1 h.distinct⟩

/-- Entries of a canonical inventory are told apart by their ids. -/
theorem Canonical.eq_of_threadId (h : Canonical inventory) {a b : ForkCandidate T}
    (ha : a ∈ inventory) (hb : b ∈ inventory) (same : a.threadId = b.threadId) : a = b :=
  List.inj_on_of_nodup_map h.distinct ha hb same

theorem sortedInventory_perm (h : Canonical inventory) (perm : inventory.Perm inventory') :
    sortedInventory inventory = sortedInventory inventory' := by
  have sorted : ∀ inventory : List (ForkCandidate T),
      (sortedInventory inventory).Pairwise (fun a b => a.threadId ≤ b.threadId) :=
    fun inventory => List.pairwise_map.1 ids_sortedInventory
  refine List.Perm.eq_of_pairwise ?_ (sorted inventory) (sorted inventory')
    (perm_sortedInventory.trans (perm.trans perm_sortedInventory.symm))
  intro a b ha hb hab hba
  exact h.eq_of_threadId (perm_sortedInventory.mem_iff.1 ha)
    (perm.mem_iff.2 (perm_sortedInventory.mem_iff.1 hb)) (le_antisymm hab hba)

theorem reconcileForkCandidates_perm (h : transition.Reconcilable)
    (few : inventory.length ≤ maxReconciliationThreads) (perm : inventory.Perm inventory') :
    reconcileForkCandidates transition inventory = reconcileForkCandidates transition inventory' := by
  have few' : inventory'.length ≤ maxReconciliationThreads := perm.length_eq ▸ few
  by_cases canonical : Canonical inventory
  · rw [reconcileForkCandidates_canonical h few canonical,
      reconcileForkCandidates_canonical h few' (canonical.perm perm), newCandidates, newCandidates,
      sortedInventory_perm canonical perm]
  · rw [reconcileForkCandidates_invalid h few canonical,
      reconcileForkCandidates_invalid h few' fun h => canonical (h.perm perm.symm)]

/-! ## Decisions -/

theorem mem_newCandidates {candidate : ForkCandidate T} :
    candidate ∈ newCandidates transition inventory ↔ candidate ∈ inventory ∧ candidate.New transition := by
  rw [newCandidates, List.mem_filter, perm_sortedInventory.mem_iff, decide_eq_true_iff,
    ForkCandidate.New]

/-- The candidate is the only one outside the baseline. -/
structure OnlyNew (transition : HandoffTransition) (inventory : List (ForkCandidate T))
    (candidate : ForkCandidate T) : Prop where
  mem : candidate ∈ inventory
  new : candidate.New transition
  only : ∀ other ∈ inventory, other.New transition → other = candidate

theorem newCandidates_eq_nil_iff :
    newCandidates transition inventory = [] ↔ ∀ candidate ∈ inventory, ¬candidate.New transition := by
  rw [List.eq_nil_iff_forall_not_mem]
  simp only [mem_newCandidates, not_and]

theorem Canonical.nodup_newCandidates (h : Canonical inventory) (transition : HandoffTransition) :
    (newCandidates transition inventory).Nodup :=
  ((perm_sortedInventory.nodup_iff.2 (List.Nodup.of_map _ h.distinct))).filter _

theorem newCandidates_eq_singleton_iff (h : Canonical inventory) {candidate : ForkCandidate T} :
    newCandidates transition inventory = [candidate] ↔ OnlyNew transition inventory candidate := by
  constructor
  · intro hnew
    have mem := mem_newCandidates.1 (hnew ▸ List.mem_singleton_self candidate)
    refine ⟨mem.1, mem.2, fun other hmem new => ?_⟩
    have hother := mem_newCandidates.2 ⟨hmem, new⟩
    rwa [hnew, List.mem_singleton] at hother
  · rintro ⟨mem, new, only⟩
    have hmem := mem_newCandidates.2 ⟨mem, new⟩
    have nodup := h.nodup_newCandidates transition
    have all : ∀ other ∈ newCandidates transition inventory, other = candidate := fun other hother =>
      only other (mem_newCandidates.1 hother).1 (mem_newCandidates.1 hother).2
    generalize newCandidates transition inventory = new at hmem nodup all
    rcases new with _ | ⟨a, _ | ⟨b, rest⟩⟩
    · cases hmem
    · rw [all a List.mem_cons_self]
    · have same := (all a (by simp)).trans (all b (by simp)).symm
      simp [same] at nodup

/-- A decision about an inventory is the one that the set of its new candidates calls for. -/
structure Decides (transition : HandoffTransition) (inventory : List (ForkCandidate T))
    (decision : Except HandoffTransactionError (ForkReconciliation T)) : Prop where
  adopt : ∀ target, decision = .ok (.adopt target) ↔
    ∃ candidate, OnlyNew transition inventory candidate ∧ candidate.projection = .matching target
  retryOnce : decision = .ok .retryOnce ↔
    (∀ candidate ∈ inventory, ¬candidate.New transition) ∧ transition.forkAttempts = 1
  retryExhausted : decision = .ok (.explicit .retryExhausted) ↔
    (∀ candidate ∈ inventory, ¬candidate.New transition) ∧ transition.forkAttempts = 2
  multipleCandidates : decision = .ok (.explicit .multipleCandidates) ↔
    ∃ a ∈ inventory, ∃ b ∈ inventory, a.New transition ∧ b.New transition ∧ a.threadId ≠ b.threadId
  mismatchedCandidate : decision = .ok (.explicit .mismatchedCandidate) ↔
    ∃ candidate, OnlyNew transition inventory candidate ∧ candidate.projection = .mismatch

theorem Canonical.two_new (h : Canonical inventory) :
    2 ≤ (newCandidates transition inventory).length ↔ ∃ a ∈ inventory, ∃ b ∈ inventory,
      a.New transition ∧ b.New transition ∧ a.threadId ≠ b.threadId := by
  constructor
  · intro hlen
    have nodup := h.nodup_newCandidates transition
    have mem : ∀ candidate ∈ newCandidates transition inventory, _ := fun _ => mem_newCandidates.1
    generalize newCandidates transition inventory = new at hlen nodup mem
    rcases new with _ | ⟨a, _ | ⟨b, rest⟩⟩
    · cases hlen
    · exact absurd hlen (by simp)
    · obtain ⟨ha, newA⟩ := mem a (by simp)
      obtain ⟨hb, newB⟩ := mem b (by simp)
      refine ⟨a, ha, b, hb, newA, newB, fun same => ?_⟩
      simp [h.eq_of_threadId ha hb same] at nodup
  · rintro ⟨a, ha, b, hb, newA, newB, hne⟩
    have memA := mem_newCandidates.2 ⟨ha, newA⟩
    have memB := mem_newCandidates.2 ⟨hb, newB⟩
    generalize newCandidates transition inventory = new at memA memB
    rcases new with _ | ⟨c, _ | ⟨d, rest⟩⟩
    · cases memA
    · rw [List.mem_singleton] at memA memB
      exact absurd (by rw [memA, memB]) hne
    · simp

/-- What the new candidates come to, by their number and the projection of a single one. -/
theorem reconcileNew_iff {forkAttempts : ℕ} (attempts : forkAttempts = 1 ∨ forkAttempts = 2)
    (new : List (ForkCandidate T)) :
    (∀ target, reconcileNew forkAttempts new = .adopt target ↔
      ∃ candidate, new = [candidate] ∧ candidate.projection = .matching target) ∧
    (reconcileNew forkAttempts new = .retryOnce ↔ new = [] ∧ forkAttempts = 1) ∧
    (reconcileNew forkAttempts new = .explicit .retryExhausted ↔ new = [] ∧ forkAttempts = 2) ∧
    (reconcileNew forkAttempts new = .explicit .multipleCandidates ↔ 2 ≤ new.length) ∧
    (reconcileNew forkAttempts new = .explicit .mismatchedCandidate ↔
      ∃ candidate, new = [candidate] ∧ candidate.projection = .mismatch) := by
  rcases new with _ | ⟨⟨threadId, target | _⟩, _ | ⟨second, rest⟩⟩
  · obtain rfl | rfl := attempts
    · simp [reconcileNew]
    · simp [reconcileNew]
  all_goals simp [reconcileNew]

theorem Canonical.decides (h : Canonical inventory)
    (attempts : transition.forkAttempts = 1 ∨ transition.forkAttempts = 2) :
    Decides transition inventory
      (.ok (reconcileNew transition.forkAttempts (newCandidates transition inventory))) := by
  obtain ⟨adopt, retryOnce, retryExhausted, multiple, mismatched⟩ :=
    reconcileNew_iff attempts (newCandidates transition inventory)
  simp only [newCandidates_eq_singleton_iff h, newCandidates_eq_nil_iff, h.two_new] at *
  refine ⟨fun target => ?_, ?_, ?_, ?_, ?_⟩
  all_goals rw [Except.ok.injEq]
  · exact adopt target
  · exact retryOnce
  · exact retryExhausted
  · exact multiple
  · exact mismatched

/-- A stored handoff whose fork was requested is reconcilable unless its reason is unknown. -/
theorem ShapeOk.reconcilable (h : ShapeOk transition) (phase : transition.phase = .forkRequested)
    (reason : transition.reason ≠ .unknownLegacy) : transition.Reconcilable := by
  obtain ⟨requestedAt, hrequested, attempts, -⟩ := h.started (by rw [phase]; rfl)
  refine ⟨reason, phase, by omega, by simp [hrequested], ?_⟩
  exact validateSortedThreadIds_eq_ok.2 (validateThreadBaseline_eq_ok.1 h.baseline)

/-- What a reconciliation decides depends on the set of new candidates alone. -/
theorem reconcileForkCandidates_decides (h : transition.Reconcilable)
    (few : inventory.length ≤ maxReconciliationThreads) :
    (∀ inventory', inventory.Perm inventory' →
      reconcileForkCandidates transition inventory' = reconcileForkCandidates transition inventory) ∧
    (¬Canonical inventory → reconcileForkCandidates transition inventory = .error .invalidInventory) ∧
    (Canonical inventory →
      Decides transition inventory (reconcileForkCandidates transition inventory)) := by
  refine ⟨fun inventory' perm => (reconcileForkCandidates_perm h few perm).symm,
    reconcileForkCandidates_invalid h few, fun canonical => ?_⟩
  rw [reconcileForkCandidates_canonical h few canonical]
  exact canonical.decides h.attempts

/-- The sample with its fork requested. -/
def sampleForkRequested : HandoffTransition := { sampleTransition with
  phase := .forkRequested
  targetBaselineThreadIds := [sampleId 6]
  forkAttempts := 1
  forkRequestedAt := some 1760000004 }

/-- One thread of the inventory is new, and matches. -/
theorem reconcileForkCandidates_sample : reconcileForkCandidates sampleForkRequested
    [⟨sampleId 6, .mismatch⟩, ⟨sampleId 4, .matching sampleTarget⟩] = .ok (.adopt sampleTarget) := by
  have reconcilable : sampleForkRequested.Reconcilable :=
    ⟨by decide, rfl, Or.inl rfl, by decide, by decide +kernel⟩
  have canonical : Canonical [⟨sampleId 6, .mismatch⟩, ⟨sampleId 4, .matching sampleTarget⟩] :=
    checkInventory_eq_ok.1 (by decide +kernel)
  refine (((reconcileForkCandidates_decides reconcilable (by decide)).2.2 canonical).adopt _).2
    ⟨⟨sampleId 4, .matching sampleTarget⟩, ⟨by simp, ?_, ?_⟩, rfl⟩
  · show sampleId 4 ∉ [sampleId 6]
    decide
  · intro other hother new
    simp only [List.mem_cons, List.not_mem_nil, or_false] at hother
    obtain rfl | rfl := hother
    · exact absurd (List.mem_singleton_self (sampleId 6)) new
    · rfl

/-- The sample as an old journal has it, without a reason. -/
def sampleLegacy : HandoffTransition := { sampleForkRequested with reason := .unknownLegacy }

/-- A requested fork whose reason is unknown, or whose time is not recorded, is not retried. -/
theorem reconcileForkCandidates_refused :
    (sampleLegacy.phase = .forkRequested ∧ sampleLegacy.forkAttempts = 1 ∧
      validateSortedThreadIds sampleLegacy.targetBaselineThreadIds = .ok () ∧
      reconcileForkCandidates sampleLegacy ([] : List (ForkCandidate HandoffTarget)) =
        .error .unknownReason) ∧
    reconcileForkCandidates { sampleForkRequested with forkRequestedAt := none }
      ([] : List (ForkCandidate HandoffTarget)) = .error .invalidTransition := by
  decide +kernel

end Calcifer
