import Calcifer.Conversations.Invariant

/-!
# Lineages

The lineage law of the registry. In every reachable document the generations of a conversation are
numbered in order up to the active one, threads are never shared, and a ready head names the tail
of a lineage of its own workspace. Along every run lineages only grow: a generation keeps its place
and its contents, except that a handoff may record its trust domain and its rollout once.

The first half is read off the validator, the second one is a law about two states that no
validator sees, and is proved for each `Change`.
-/

namespace Calcifer

open Checks Lists ConversationDocument

/-! ## Reading a well-formed lineage -/

namespace ConversationOk

variable {schemaV1 : Bool} {c : Conversation}

theorem length_pos (h : ConversationOk schemaV1 c) : 0 < c.generations.length :=
  List.length_pos_iff.2 h.nonempty

/-- The number of a generation is its index. -/
theorem number_eq (h : ConversationOk schemaV1 c) {i : ℕ} {g : ConversationGeneration}
    (hg : c.generations[i]? = some g) : g.generation = i :=
  (h.generations i g hg).number

theorem map_generation (h : ConversationOk schemaV1 c) :
    c.generations.map (·.generation) = List.range c.generations.length := by
  refine List.ext_getElem? fun i => ?_
  rw [List.getElem?_map]
  cases hg : c.generations[i]? with
  | none =>
    have hi := List.getElem?_eq_none_iff.1 hg
    rw [List.getElem?_eq_none (by simpa using hi)]
    rfl
  | some g =>
    have hi := (List.getElem?_eq_some_iff.1 hg).1
    rw [List.getElem?_range hi, ← h.number_eq hg]
    rfl

theorem activeGeneration_eq (h : ConversationOk schemaV1 c) :
    c.activeGeneration + 1 = c.generations.length := by
  have ht := h.tail
  rw [List.getLast?_eq_getElem?] at ht
  obtain ⟨g, hg, hn⟩ := Option.map_eq_some_iff.1 ht
  have := h.number_eq hg
  have := h.length_pos
  omega

/-- Looking a generation up by its number is looking it up by its index. -/
theorem findGeneration_eq (h : ConversationOk schemaV1 c) (n : ℕ) :
    c.findGeneration n = c.generations[n]? := by
  unfold Conversation.findGeneration
  cases hf : c.generations.find? fun g => g.generation = n with
  | none =>
    rw [List.find?_eq_none] at hf
    cases hg : c.generations[n]? with
    | none => rfl
    | some g => exact absurd (by simpa using h.number_eq hg) (hf g (List.mem_of_getElem? hg))
  | some g =>
    obtain ⟨i, hi⟩ := List.mem_iff_getElem?.1 (List.mem_of_find?_eq_some hf)
    have hn : g.generation = n := by simpa using List.find?_some hf
    rw [← hn, h.number_eq hi, hi]

/-- The active generation is the last one. -/
theorem getLast?_eq (h : ConversationOk schemaV1 c) :
    c.generations.getLast? = c.findGeneration c.activeGeneration := by
  have ha := h.activeGeneration_eq
  rw [h.findGeneration_eq, List.getLast?_eq_getElem?]
  congr 1
  omega

theorem cwd_eq (h : ConversationOk schemaV1 c) {g g' : ConversationGeneration}
    (hg : g ∈ c.generations) (hg' : g' ∈ c.generations) : g.canonicalCwd = g'.canonicalCwd := by
  obtain ⟨i, hi⟩ := List.mem_iff_getElem?.1 hg
  obtain ⟨j, hj⟩ := List.mem_iff_getElem?.1 hg'
  have h1 := (h.generations i g hi).cwd
  rw [(h.generations j g' hj).cwd] at h1
  exact (Option.some.inj h1).symm

/-- A recorded trust domain is the one of the lineage. -/
theorem trustDomain_eq (h : ConversationOk schemaV1 c) {g : ConversationGeneration}
    (hg : g ∈ c.generations) {trustDomainId : String} (ht : g.trustDomainId = some trustDomainId) :
    c.lineageTrustDomain = some trustDomainId := by
  obtain ⟨i, hi⟩ := List.mem_iff_getElem?.1 hg
  obtain ⟨hn, -⟩ | ⟨t, _, ht', -, -, -, -, hl⟩ :=
    validateHandoffMetadata_iff.1 (h.generations i g hi).metadata
  · rw [hn] at ht
    cases ht
  · rw [hl, ← ht, ht']

end ConversationOk

/-- The tail that a ready head names. -/
theorem HeadOk.ready {schemaV1 : Bool} {d : ConversationDocument} {head : WorkspaceHead}
    (hc : ∀ c ∈ d.conversations, ConversationOk schemaV1 c) (h : HeadOk d head)
    (hs : head.state = .ready) :
    ∃ c ∈ d.conversations, ∃ g, d.findConversation c.conversationId = some c ∧
      head.conversationId = some c.conversationId ∧ head.generation = some c.activeGeneration ∧
      head.provider = c.provider ∧ c.generations.getLast? = some g ∧
      g.generation = c.activeGeneration ∧ g.canonicalCwd = head.canonicalCwd := by
  obtain ⟨id, c, g, hid, -, hn, hfc, hfg, hp, hcwd, hact⟩ := (validateHeadState_iff hs).1 h.state
  have hmem := List.mem_of_find?_eq_some hfc
  obtain rfl : c.conversationId = id := by simpa using List.find?_some hfc
  refine ⟨c, hmem, g, hfc, hid, hact ▸ hn, hp.symm, ?_, hact, hcwd⟩
  rw [(hc c hmem).getLast?_eq, ← hact]
  exact hfg

/-! ## The lineages of one document -/

/-- What holds of the lineages of every document. -/
structure LineageOk (d : ConversationDocument) : Prop where
  numbered : ∀ c ∈ d.conversations,
    c.generations.map (·.generation) = List.range c.generations.length ∧
      c.activeGeneration + 1 = c.generations.length
  threads : d.threadIds.Nodup
  ready : ∀ head ∈ d.workspaceHeads, head.state = .ready → ∃ c ∈ d.conversations, ∃ g,
    head.conversationId = some c.conversationId ∧ head.generation = some c.activeGeneration ∧
      c.generations.getLast? = some g ∧ g.generation = c.activeGeneration ∧
      g.canonicalCwd = head.canonicalCwd
  cwd : ∀ c ∈ d.conversations, ∀ g ∈ c.generations, ∀ g' ∈ c.generations,
    g.canonicalCwd = g'.canonicalCwd
  trust : ∀ c ∈ d.conversations, ∀ g ∈ c.generations, ∀ g' ∈ c.generations, ∀ t t',
    g.trustDomainId = some t → g'.trustDomainId = some t' → t = t'

theorem Contents.lineageOk {schemaV1 : Bool} {d : ConversationDocument}
    (h : Contents schemaV1 d) : LineageOk d where
  numbered c hc := ⟨(h.conversations c hc).map_generation, (h.conversations c hc).activeGeneration_eq⟩
  threads := h.threads
  ready head hh hs := by
    obtain ⟨c, hc, g, -, hid, hn, -, hlast, hact, hcwd⟩ := (h.heads head hh).ready h.conversations hs
    exact ⟨c, hc, g, hid, hn, hlast, hact, hcwd⟩
  cwd c hc _ hg _ hg' := (h.conversations c hc).cwd_eq hg hg'
  trust c hc _ hg _ hg' _ _ ht ht' := by
    have := (h.conversations c hc).trustDomain_eq hg ht
    rw [(h.conversations c hc).trustDomain_eq hg' ht'] at this
    exact (Option.some.inj this).symm

/-! ## Growth along runs -/

/-- `g'` is `g`, or `g` with its handoff metadata recorded for the first time. -/
def Recorded (g g' : ConversationGeneration) : Prop :=
  g' = g ∨ (g.trustDomainId = none ∧ g.rollout = none ∧ ∃ trustDomainId rollout,
    g' = { g with trustDomainId := some trustDomainId, rollout := some rollout })

/-- `c'` continues the lineage of `c`: every generation stays in its place, changed at most as `R`
allows. -/
structure Continues (R : ConversationGeneration → ConversationGeneration → Prop)
    (c c' : Conversation) : Prop where
  conversationId : c'.conversationId = c.conversationId
  provider : c'.provider = c.provider
  generations : Grows R c.generations c'.generations

/-- Every conversation of `d` stays in its place in `d'` and is continued there. -/
def Extends (R : ConversationGeneration → ConversationGeneration → Prop)
    (d d' : ConversationDocument) : Prop :=
  Grows (Continues R) d.conversations d'.conversations

section

variable {R : ConversationGeneration → ConversationGeneration → Prop}
variable {d d' : ConversationDocument}

theorem Recorded.refl (g : ConversationGeneration) : Recorded g g := Or.inl rfl

/-- Metadata is recorded at most once. -/
theorem Recorded.trans {g g' g'' : ConversationGeneration} (h : Recorded g g')
    (h' : Recorded g' g'') : Recorded g g'' := by
  obtain rfl | ⟨ht, hr, t, r, rfl⟩ := h
  · exact h'
  · obtain rfl | ⟨ht', -, -⟩ := h'
    · exact Or.inr ⟨ht, hr, t, r, rfl⟩
    · cases ht'

theorem Continues.refl (refl : ∀ g, R g g) (c : Conversation) : Continues R c c :=
  ⟨rfl, rfl, .refl refl _⟩

theorem Continues.trans (trans : ∀ g g' g'', R g g' → R g' g'' → R g g'') {c c' c'' : Conversation}
    (h : Continues R c c') (h' : Continues R c' c'') : Continues R c c'' :=
  ⟨h'.conversationId.trans h.conversationId, h'.provider.trans h.provider,
    h.generations.trans trans h'.generations⟩

theorem Extends.refl (refl : ∀ g, R g g) (d : ConversationDocument) : Extends R d d :=
  Grows.refl (Continues.refl refl) _

theorem Extends.trans (trans : ∀ g g' g'', R g g' → R g' g'' → R g g'')
    {d'' : ConversationDocument} (h : Extends R d d') (h' : Extends R d' d'') : Extends R d d'' :=
  Grows.trans (fun _ _ _ => Continues.trans trans) h h'

theorem Extends.of_eq (refl : ∀ g, R g g) (h : d'.conversations = d.conversations) :
    Extends R d d' := by
  unfold Extends
  rw [h]
  exact Grows.refl (Continues.refl refl) _

/-- Recording the metadata of a source keeps everything else about it. -/
theorem recorded_of_recordSourceMetadata {preparation : HandoffPreparation}
    {source recorded : ConversationGeneration}
    (h : recordSourceMetadata preparation source = .ok recorded) : Recorded source recorded := by
  unfold recordSourceMetadata at h
  split at h
  · rename_i ht hr
    cases h
    exact Or.inr ⟨ht, hr, _, _, rfl⟩
  · split_ifs at h
    cases h
    exact Or.inl rfl
  · cases h

variable {host : Host}

theorem Binds.extends (refl : ∀ g, R g g) {binding : BindingInput} (h : Binds host binding d d') :
    Extends R d d' := by
  obtain ⟨-, -, -, h⟩ := h
  cases h with
  | existing c g =>
    exact Grows.updateFirst (Continues.refl refl) fun c _ => ⟨rfl, rfl, .refl refl _⟩
  | new => exact Grows.append (Continues.refl refl) _ _

/-- Only a preparation records metadata, and every other operation keeps every generation. -/
theorem Change.extends (refl : ∀ g, R g g) {op : Operation} (h : Change host op d d')
    (hr : ∀ preparation, op = .prepareHandoff preparation → ∀ source recorded,
      recordSourceMetadata preparation source = .ok recorded → R source recorded) :
    Extends R d d' := by
  cases h with
  | launched | overlapped | started | captureFailed | marked | untracked | advanced | attached =>
    exact .of_eq refl (by simp)
  | finished pending found h =>
    cases h with
    | marked => exact .of_eq refl (by simp [dropPending])
    | left => exact .of_eq refl rfl
    | bound binding _ _ _ h => exact (h.extends refl : Extends R (d.dropPending _) d')
  | adopted binding idle h => exact h.extends refl
  | refreshed binding current head h => exact h.extends refl
  | prepared c source recorded now h =>
    refine Grows.updateFirst (Continues.refl refl) fun c' hc' => ⟨rfl, rfl, ?_⟩
    have hid := List.find?_some h.conversation_eq
    rw [decide_eq_true_eq] at hid
    rw [hid] at hc'
    obtain rfl : c = c' := Option.some.inj (h.conversation_eq.symm.trans hc')
    refine Grows.updateFirst refl fun g hg => ?_
    obtain rfl : source = g := Option.some.inj (h.source_eq.symm.trans hg)
    exact hr _ rfl _ _ h.recorded_eq
  | committed t target c now h =>
    exact Grows.updateFirst (Continues.refl refl) fun c' _ => ⟨rfl, rfl, .append refl _ _⟩

variable [Sha256] {disk disk' : Disk}

theorem extends_step (refl : ∀ g, R g g) (op : Operation)
    (hr : ∀ preparation, op = .prepareHandoff preparation → ∀ source recorded,
      recordSourceMetadata preparation source = .ok recorded → R source recorded) :
    Extends R disk.document (op.step host disk).document := by
  have step := document_step host op disk
  generalize (op.step host disk).document = d' at step
  cases step with
  | same => exact .refl refl _
  | published document edited body change =>
    have h := change.extends refl hr
    unfold Extends at h ⊢
    rwa [body.conversations] at h

theorem extends_run (h : Run disk disk') : Extends Recorded disk.document disk'.document := by
  induction h with
  | refl => exact .refl Recorded.refl _
  | step host op _ _ ih =>
    refine Extends.trans (R := Recorded) (fun _ _ _ => Recorded.trans) ih
      (extends_step Recorded.refl op ?_)
    exact fun _ _ _ _ => recorded_of_recordSourceMetadata

/-- Lineages are well formed in every reachable document and append-only along every run: a
generation only ever changes when a preparation records its trust domain and its rollout. -/
theorem lineage_append_only (h : Reachable disk) :
    LineageOk disk.document ∧
    (∀ disk', Run disk disk' → Extends Recorded disk.document disk'.document) ∧
    ∀ host op, (∀ preparation, op ≠ .prepareHandoff preparation) →
      Extends Eq disk.document (Operation.step host op disk).document := by
  refine ⟨h.contents.lineageOk, fun disk' => extends_run, fun host op hop => ?_⟩
  exact extends_step (fun _ => rfl) op fun preparation he => absurd he (hop preparation)

end

/-! ### A sample handoff -/

/-- A version 4 UUID made of one digit. -/
def sampleUuid (n : Fin 16) : Uuid where
  nibbles := List.replicate 12 n ++ 4 :: List.replicate 3 n ++ 8 :: List.replicate 15 n
  length_nibbles := by simp

/-- Its text. -/
def sampleId : ℕ → String
  | 1 => "11111111-1111-4111-8111-111111111111"
  | 2 => "22222222-2222-4222-8222-222222222222"
  | 3 => "33333333-3333-4333-8333-333333333333"
  | 4 => "44444444-4444-4444-8444-444444444444"
  | 5 => "55555555-5555-4555-8555-555555555555"
  | 6 => "66666666-6666-4666-8666-666666666666"
  | 7 => "77777777-7777-4777-8777-777777777777"
  | 8 => "88888888-8888-4888-8888-888888888888"
  | 9 => "99999999-9999-4999-8999-999999999999"
  | 10 => "aaaaaaaa-aaaa-4aaa-8aaa-aaaaaaaaaaaa"
  | 11 => "bbbbbbbb-bbbb-4bbb-8bbb-bbbbbbbbbbbb"
  | 12 => "cccccccc-cccc-4ccc-8ccc-cccccccccccc"
  | 13 => "dddddddd-dddd-4ddd-8ddd-dddddddddddd"
  | 14 => "eeeeeeee-eeee-4eee-8eee-eeeeeeeeeeee"
  | _ => "ffffffff-ffff-4fff-8fff-ffffffffffff"

def sampleHost (n : Fin 16) (clock : ℕ) : Host where
  canonicalDirectory := some
  clock := some clock
  newV4 := sampleUuid n
  fault := none

def sampleRollout (inode length : ℕ) : GenerationRollout where
  locator := { root := .sessions, relativePath := "2026/07/rollout.jsonl" }
  fingerprint := {
    device := 1, inode, length, mode := 0o100600, owner := 501, linkCount := 1
    modifiedSeconds := 1760000000, modifiedNanoseconds := 0
    changedSeconds := 1760000000, changedNanoseconds := 0
    sha256 := "e3b0c44298fc1c149afbf4c8996fb92427ae41e4649b934ca495991b7852b855" }

def sampleHead : HeadBinding where
  conversationId := sampleId 10
  generation := 0
  profileId := sampleId 1
  threadId := sampleId 3
  canonicalCwd := "/work"
  codexVersion := "0.144.4"
  lifecycle := .clean

def sampleBinding : BindingInput where
  profileId := sampleId 1
  threadId := sampleId 3
  canonicalCwd := "/work"
  codexVersion := "0.144.4"
  lifecycle := .clean

def samplePreparation : HandoffPreparation where
  expectedSource := sampleHead
  targetProfileId := sampleId 2
  trustDomainId := sampleId 5
  reason := .explicitRecovery
  sourceRollout := sampleRollout 1 100

def sampleTarget : HandoffTarget where
  threadId := sampleId 4
  canonicalCwd := "/work"
  codexVersion := "0.144.4"
  rollout := sampleRollout 2 200

/-- A whole handoff: a thread is adopted, handed to another profile and attached there. -/
def sampleCalls : List (Host × Operation) :=
  [(sampleHost 10 1760000000, .adopt sampleBinding),
    (sampleHost 11 1760000001, .prepareHandoff samplePreparation),
    (sampleHost 12 1760000002, .markSourceStopRequested (sampleId 11)),
    (sampleHost 12 1760000003, .markSourceStopped (sampleId 11)),
    (sampleHost 12 1760000004, .recordForkIntent (sampleId 11) [sampleId 6]),
    (sampleHost 12 1760000005, .observeHandoffTarget (sampleId 11) sampleTarget),
    (sampleHost 12 1760000006, .commitHandoff (sampleId 11)),
    (sampleHost 12 1760000007, .finishHandoffAttachment (sampleId 11))]

/-- SHA-256 as far as the sample needs it: the digest of the v1 document the sample migrates. -/
@[reducible] def sampleSha256 : Sha256 where
  digest _ := [184, 124, 123, 76, 24, 201, 22, 175, 15, 26, 68, 223, 100, 136, 246, 181,
    235, 2, 154, 207, 240, 200, 21, 17, 254, 84, 252, 147, 109, 51, 121, 238]
  length_digest _ := rfl

attribute [local instance] sampleSha256

/-- The disk after the first `n` calls of the sample. -/
def sampleDisk (n : ℕ) : Disk := runAll (sampleCalls.take n) .empty

theorem sampleDisk_reachable (n : ℕ) : Reachable (sampleDisk n) :=
  Reachable.empty.runAll _

/-- A run through some of the calls of the sample. -/
theorem sampleDisk_runOf {P : Disk → Host → Operation → Prop} (m n : ℕ)
    (h : ∀ call ∈ (sampleCalls.drop m).take n, ∀ disk, P disk call.1 call.2) :
    RunOf P (sampleDisk m) (sampleDisk (m + n)) := by
  rw [sampleDisk, sampleDisk, List.take_add, runAll_append]
  exact RunOf.runAll (.refl _) _ h

def sampleConversation : Conversation where
  conversationId := sampleId 10
  provider := .codex
  generations := [firstGeneration sampleBinding 1760000000]
  activeGeneration := 0
  lastSafeLifecycle := .clean

/-- After the adoption. -/
def sampleAdopted : ConversationDocument where
  revision := 1
  conversations := [sampleConversation]
  workspaceHeads := [{
    provider := .codex, canonicalCwd := "/work", state := .ready
    conversationId := some (sampleId 10), generation := some 0 }]

/-- The journal as it was prepared. -/
def sampleTransition : HandoffTransition :=
  preparedTransition (sampleId 11) sampleConversation (firstGeneration sampleBinding 1760000000)
    samplePreparation 1760000001

/-- After the preparation, which migrates the document. -/
def samplePrepared : ConversationDocument where
  schemaVersion := 2
  revision := 2
  conversations := [{ sampleConversation with
    generations := [{ firstGeneration sampleBinding 1760000000 with
      trustDomainId := some (sampleId 5), rollout := some (sampleRollout 1 100) }] }]
  workspaceHeads := sampleAdopted.workspaceHeads
  preMigrationBackup := some {
    schemaVersion := 1, revision := 1
    sha256 := "b87c7b4c18c916af0f1a44df6488f6b5eb029acff0c81511fe54fc936d3379ee" }
  activeTransition := some sampleTransition

/-- After the source is stopped. -/
def sampleStopped : ConversationDocument := { samplePrepared with
  revision := 4
  activeTransition := some { sampleTransition with
    phase := .sourceStopped, updatedAt := 1760000003 } }

def sampleObservedTarget : ObservedHandoffTarget where
  threadId := sampleId 4
  canonicalCwd := "/work"
  codexVersion := "0.144.4"
  adapterVersion := cargoPkgVersion
  rollout := sampleRollout 2 200
  observedAt := 1760000005

/-- After the observation of the fork. -/
def sampleObserved : ConversationDocument := { samplePrepared with
  revision := 6
  activeTransition := some { sampleTransition with
    phase := .forkObserved
    targetBaselineThreadIds := [sampleId 6]
    forkAttempts := 1
    forkRequestedAt := some 1760000004
    observedTarget := some sampleObservedTarget
    updatedAt := 1760000005 } }

/-- After the attachment. -/
def sampleAttached : ConversationDocument where
  schemaVersion := 2
  revision := 8
  conversations := samplePrepared.conversations.map
    (commitGeneration sampleTransition sampleObservedTarget)
  workspaceHeads := [{
    provider := .codex, canonicalCwd := "/work", state := .ready
    conversationId := some (sampleId 10), generation := some 1 }]
  preMigrationBackup := samplePrepared.preMigrationBackup

/-- The documents the sample goes through. -/
theorem sampleDisk_eq :
    sampleDisk 1 = ⟨some sampleAdopted, none⟩ ∧
    sampleDisk 2 = ⟨some samplePrepared, some sampleAdopted⟩ ∧
    sampleDisk 4 = ⟨some sampleStopped, some sampleAdopted⟩ ∧
    sampleDisk 6 = ⟨some sampleObserved, some sampleAdopted⟩ ∧
    sampleDisk 8 = ⟨some sampleAttached, some sampleAdopted⟩ := by
  decide +kernel

theorem lineage_append_only_handoff :
    Extends Recorded (sampleDisk 1).document (sampleDisk 8).document ∧
      LineageOk (sampleDisk 8).document ∧ (sampleDisk 8).document = sampleAttached := by
  refine ⟨?_, (lineage_append_only (sampleDisk_reachable 8)).1, ?_⟩
  · exact (lineage_append_only (sampleDisk_reachable 1)).2.1 _ (sampleDisk_runOf 1 7 fun _ _ _ => trivial)
  · rw [sampleDisk_eq.2.2.2.2]
    rfl

end Calcifer
