import Calcifer.Conversations.Exclusion

/-!
# When a handoff goes through

The exact conditions under which the two decisive operations of a handoff succeed. Both results go
through `transactV2_succeeds_iff`: a transaction succeeds exactly when its operation does and the
new document is accepted, and `ValidV2.prepared` and `ValidV2.committed` show that nothing but the
size of the registry can stand in the way of a document the operations produce.

* `prepare_handoff_iff`: a generation that came from a handoff can be handed off again exactly when
  its rollout still is the one that was recorded when it was committed.
* `commit_handoff_iff`: an observed handoff can be committed exactly when its lineage has room and
  no other conversation has taken its target thread.
-/

namespace Calcifer

open Checks Lists RegistryM ConversationDocument

/-! ## Transactions that succeed -/

/-- A call that succeeds. -/
def Succeeds {α : Type} (x : RegistryM α) (disk : Disk) : Prop := ∃ a disk', x disk = (.ok a, disk')

/-- The registry has room for a document: its next revision is a 64-bit number, and the file stays
below the size limit. -/
def Fits (d : ConversationDocument) : Prop :=
  d.revision + 1 < 2 ^ 64 ∧
    ({ d with revision := d.revision + 1 } : ConversationDocument).toVecPretty.length ≤
      maxRegistryBytes

section

variable {d d' : ConversationDocument}

/-- Well-formed contents do not depend on the header or on the transition. -/
theorem Contents.congr {schemaV1 : Bool} (h : Contents schemaV1 d)
    (hc : d'.conversations = d.conversations) (hh : d'.workspaceHeads = d.workspaceHeads)
    (hp : d'.pendingLaunches = d.pendingLaunches) : Contents schemaV1 d' := by
  obtain ⟨_, _, conversations, heads, pendings, _, _⟩ := d
  obtain ⟨_, _, _, _, _, _, _⟩ := d'
  simp only at hc hh hp
  subst hc hh hp
  exact ⟨h.conversations, h.ids, h.threads,
    fun head hhead => ⟨(h.heads head hhead).path, (h.heads head hhead).state⟩, h.headKeys,
    h.pendings, h.launchIds, h.launchCwds⟩

theorem TransitionOk.congr {t : HandoffTransition} {c : Conversation}
    {source : ConversationGeneration} (h : TransitionOk d t c source)
    (hc : d'.conversations = d.conversations) (hh : d'.workspaceHeads = d.workspaceHeads)
    (hp : d'.pendingLaunches = d.pendingLaunches) : TransitionOk d' t c source := by
  obtain ⟨_, _, conversations, heads, pendings, _, _⟩ := d
  obtain ⟨_, _, _, _, _, _, _⟩ := d'
  simp only at hc hh hp
  subst hc hh hp
  exact ⟨h.shape, h.conversation_eq, h.source_eq, h.profile, h.cwd, h.trust, h.rollout,
    h.observation, h.commitment, h.workspace⟩

/-- The next revision of a well-formed document is well formed. -/
theorem ValidV2.next (h : ValidV2 d) : ValidV2 { d with revision := d.revision + 1 } where
  schema := h.schema
  backup := by
    obtain ⟨b, hb, hs, hr, hx⟩ := h.backup
    exact ⟨b, hb, hs, Nat.le_succ_of_le hr, hx⟩
  contents := h.contents.congr rfl rfl rfl
  transition t ht := by
    obtain ⟨c, source, ok⟩ := h.transition t ht
    exact ⟨c, source, ok.congr rfl rfl rfl⟩

/-- A well-formed document can be published exactly when it fits. -/
theorem ValidV2.publish_iff (h : ValidV2 d) :
    (∃ published, nextRevision d = .ok published ∧ checkSave published = .ok ()) ↔ Fits d := by
  constructor
  · rintro ⟨published, hrev, hcheck⟩
    obtain ⟨room, rfl⟩ := nextRevision_eq hrev
    exact ⟨room, (checkSave_iff.1 hcheck).2⟩
  · rintro ⟨room, size⟩
    refine ⟨{ d with revision := d.revision + 1 }, nextRevision_of_room room,
      checkSave_iff.2 ⟨?_, size⟩⟩
    exact validateDocument_iff.2 (Or.inr h.next)

variable [Sha256] {α β : Type} {host : Host} {disk : Disk}

theorem Reachable.validV2 (hr : Reachable disk)
    (h : disk.document.schemaVersion ≠ schemaVersionV1) : ValidV2 disk.document := by
  obtain hv | hv := validateDocument_iff.1 hr.valid
  · exact absurd hv.schema h
  · exact hv

omit [Sha256] in
theorem succeeds_lift_iff {x : Except ConversationError α} {f : α → RegistryM β} :
    Succeeds (lift x >>= f) disk ↔ ∃ a, x = .ok a ∧ Succeeds (f a) disk := by
  cases x with
  | error e =>
    constructor
    · rintro ⟨a, disk', h⟩
      cases h
    · rintro ⟨a, h, -⟩
      cases h
  | ok a => exact ⟨fun h => ⟨a, rfl, h⟩, fun ⟨_, h, hf⟩ => by cases h; exact hf⟩

/-- A v2 transaction on a v2 document succeeds exactly when its operation does and the result can be
published. -/
theorem transactV2_succeeds_iff (hr : Reachable disk)
    (hv2 : disk.document.schemaVersion ≠ schemaVersionV1) (hf : host.fault = none)
    {operation : ConversationDocument → Except ConversationError (α × ConversationDocument)} :
    Succeeds (transactV2 host operation) disk ↔
      ∃ a edited published, operation disk.document = .ok (a, edited) ∧
        nextRevision edited = .ok published ∧ checkSave published = .ok () := by
  constructor
  · rintro ⟨a, disk', h⟩
    have outcome := transactV2_cases h
    cases outcome with
    | published result r p _ =>
      obtain ⟨original, document, edited, published, hload, hprep, hop, hrev, hcheck, -⟩ := p
      obtain ⟨rfl, -⟩ := document_of_load hload
      obtain ⟨-, rfl⟩ | ⟨-, hv1, -⟩ := prepared_cases hprep
      · exact ⟨result, edited, published, hop, hrev, hcheck⟩
      · exact absurd hv1 hv2
  · rintro ⟨a, edited, published, hop, hrev, hcheck⟩
    exact ⟨a, _, transactV2_ok hf hr.load_eq (upgrade_of_v2 hv2) hop hrev
      (saveMigrated_of_v2 hv2) hcheck⟩

end

/-! ## Resolved heads -/

/-- What a resolved head stands for. -/
structure Resolved (d : ConversationDocument) (cwd : String) (head : HeadBinding)
    (c : Conversation) (g : ConversationGeneration) : Prop where
  transitioning : d.transitioning cwd = false
  launching : d.launching cwd = false
  head_eq : d.headOf cwd = some ⟨.codex, cwd, .ready, some c.conversationId, some c.activeGeneration⟩
  conversation_eq : d.findConversation c.conversationId = some c
  generation_eq : c.findGeneration c.activeGeneration = some g
  number : g.generation = c.activeGeneration
  cwd_eq : g.canonicalCwd = cwd
  binding : head = c.headBinding g

theorem resolved_iff {schemaV1 : Bool} {d : ConversationDocument} (h : Contents schemaV1 d)
    {cwd : String} {head : HeadBinding} :
    d.resolveHeadDocument cwd = .ok head ↔ ∃ c g, Resolved d cwd head c g := by
  simp only [resolveHeadDocument, bind_eq_ok, okOr_eq_ok, rejectIf_eq_ok, Decidable.not_not,
    pure_eq_ok]
  constructor
  · rintro ⟨_, ht, _, hl, head', hf, _, hs, id, hid, n, hn, c, hc, g, hg, rfl⟩
    obtain ⟨c', hmem, g', hc', hid', hn', hp', hlast, hact, hcwd⟩ :=
      (h.heads head' (List.mem_of_find?_eq_some hf)).ready h.conversations hs
    obtain rfl : c'.conversationId = id := Option.some.inj (hid'.symm.trans hid)
    obtain rfl : c' = c := Option.some.inj (hc'.symm.trans hc)
    obtain rfl : c'.activeGeneration = n := Option.some.inj (hn'.symm.trans hn)
    rw [(h.conversations c' hmem).getLast?_eq] at hlast
    obtain rfl : g' = g := Option.some.inj (hlast.symm.trans hg)
    have hkey : isHeadOf cwd head' = true := List.find?_some hf
    simp only [isHeadOf, decide_eq_true_eq] at hkey
    refine ⟨c', g', by simpa using ht, by simpa using hl, ?_, hc, hg, hact, hcwd.trans hkey.2, rfl⟩
    rw [hf]
    obtain ⟨provider, cwd', state, id, n⟩ := head'
    simp only at hkey hs hid hn
    simp [hkey, hs, hid, hn]
  · rintro ⟨c, g, ht, hl, hf, hc, hg, hnum, hcwd, rfl⟩
    exact ⟨(), by simp [ht], (), by simp [hl], _, hf, (), rfl, _, rfl, _, rfl, c, hc, g, hg, rfl⟩

/-! ## Preparing a handoff -/

theorem validateUuid_iff {value label : String} :
    validateUuid value label = .ok () ↔ ∃ u : Uuid, Uuid.parseStr value = some u ∧ u.toString = value := by
  simp [validateUuid, bind_eq_ok, Decidable.not_not]

/-- The label of a check only shows in its error. -/
theorem validateUuid_label {value label : String} (h : validateUuid value label = .ok ())
    (label' : String) : validateUuid value label' = .ok () :=
  validateUuid_iff.2 (validateUuid_iff.1 h)

theorem validateUuid_toString (u : Uuid) (label : String) :
    validateUuid u.toString label = .ok () :=
  validateUuid_iff.2 ⟨u, Uuid.parseStr_toString u, rfl⟩

theorem unixTimestamp_nonneg {host : Host} {now : ℤ} (h : unixTimestamp host = .ok now) :
    0 ≤ now := by
  simp only [unixTimestamp, bind_eq_ok, okOr_eq_ok, pure_eq_ok] at h
  obtain ⟨seconds, -, _, -, rfl⟩ := h
  exact Int.natCast_nonneg seconds

/-- A request to hand a generation that came from a handoff to another profile: it names the
resolved head, the trust domain of the lineage, an explicit reason and some well-formed rollout. -/
structure NextHop (d : ConversationDocument) (cwd : String) (preparation : HandoffPreparation)
    (c : Conversation) (g : ConversationGeneration) : Prop where
  idle : d.activeTransition = none
  resolved : Resolved d cwd preparation.expectedSource c g
  handedOff : 1 ≤ g.generation
  target : validateUuid preparation.targetProfileId "target profile id" = .ok ()
  different : g.profileId ≠ preparation.targetProfileId
  trust : c.lineageTrustDomain = some preparation.trustDomainId
  reason : preparation.reason ≠ .unknownLegacy
  rollout : validateRollout preparation.sourceRollout = .ok ()

section

variable {d : ConversationDocument} {cwd : String} {preparation : HandoffPreparation}
variable {c : Conversation} {g : ConversationGeneration} {host : Host} {now : ℤ}

/-- The conversation and the generation of a resolved head are well formed. -/
theorem Resolved.ok {schemaV1 : Bool} {head : HeadBinding} (h : Contents schemaV1 d)
    (hres : Resolved d cwd head c g) :
    ConversationOk schemaV1 c ∧ GenerationOk schemaV1 c c.activeGeneration g := by
  have hc := h.conversations c (List.mem_of_find?_eq_some hres.conversation_eq)
  refine ⟨hc, hc.generations _ g ?_⟩
  rw [← hc.findGeneration_eq]
  exact hres.generation_eq

/-- A generation after the first exists only in the second schema and carries the metadata of a
handoff. -/
theorem NextHop.metadata (hv : validateDocument d = .ok ()) (hop : NextHop d cwd preparation c g) :
    ValidV2 d ∧ g.trustDomainId = some preparation.trustDomainId ∧ ∃ rollout, g.rollout = some rollout := by
  have hlen : ∀ {schemaV1}, ConversationOk schemaV1 c → 1 < c.generations.length := by
    intro schemaV1 hc
    have := hc.activeGeneration_eq
    have := hop.handedOff
    have := hop.resolved.number
    omega
  obtain hv1 | hv2 := validateDocument_iff.1 hv
  · obtain ⟨hc, -⟩ := hop.resolved.ok hv1.contents
    have := (hc.single rfl).1
    have := hlen hc
    omega
  · obtain ⟨hc, hg⟩ := hop.resolved.ok hv2.contents
    obtain ⟨htrust, hroll⟩ := hg.complete rfl (hlen hc)
    obtain ⟨t, ht⟩ := Option.ne_none_iff_exists'.1 htrust
    have hlineage := hc.trustDomain_eq (List.mem_of_find?_eq_some hop.resolved.generation_eq) ht
    rw [hop.trust] at hlineage
    exact ⟨hv2, ht.trans hlineage.symm, Option.ne_none_iff_exists'.1 hroll⟩

theorem NextHop.checkPreparation {schemaV1 : Bool} (h : Contents schemaV1 d)
    (hop : NextHop d cwd preparation c g) (ht : g.trustDomainId = some preparation.trustDomainId) :
    ConversationRegistry.checkPreparation preparation = .ok () := by
  obtain ⟨hc, hg⟩ := hop.resolved.ok h
  have hb := hop.resolved.binding
  have trust : validateUuid preparation.trustDomainId "trust domain id" = .ok () := by
    obtain ⟨hn, -⟩ | ⟨t, _, ht', -, -, hu, -, -⟩ := validateHandoffMetadata_iff.1 hg.metadata
    · rw [hn] at ht
      cases ht
    · obtain rfl : t = preparation.trustDomainId := Option.some.inj (ht'.symm.trans ht)
      exact hu
  simp only [ConversationRegistry.checkPreparation, hb, Conversation.headBinding, bind_eq_ok,
    rejectIf_eq_ok]
  exact ⟨(), hc.id, (), validateUuid_label hg.profile _, (), validateUuid_label hg.thread _, (),
    hg.path, (), hg.version, (), hop.target, (), trust, (), hop.rollout, (), hop.reason, hop.different⟩

/-- The journal of a new handoff agrees with the lineage it was prepared for. -/
theorem NextHop.transitionOk (h : Contents false d) (hop : NextHop d cwd preparation c g)
    (ht : g.trustDomainId = some preparation.trustDomainId)
    (hr : g.rollout = some preparation.sourceRollout) (id : Uuid) (hnow : 0 ≤ now) :
    TransitionOk d (preparedTransition id.toString c g preparation now) c g := by
  obtain ⟨hc, hg⟩ := hop.resolved.ok h
  have hcheck := hop.checkPreparation h ht
  simp only [ConversationRegistry.checkPreparation, check_bind_eq_ok] at hcheck
  obtain ⟨-, -, -, -, -, -, trust, -, -, -⟩ := hcheck
  have hnum := hop.resolved.number
  have hactive := hc.activeGeneration_eq
  have hbound := hc.bounded
  have hlt : g.generation + 1 < 2 ^ 32 := by
    have : maxLineageGenerations = 256 := rfl
    omega
  refine ⟨⟨validateUuid_toString id _, hc.id, validateUuid_label hg.profile _, hop.target, trust,
    hg.path, hop.rollout, hlt, hop.different, rfl, hnow, le_rfl, rfl, fun h => ?_,
    fun _ => ⟨rfl, rfl, rfl⟩⟩, hop.resolved.conversation_eq, ?_, rfl, rfl, ht, hr, rfl,
    commitment_iff.2 ⟨hnum.symm, by simp [preparedTransition], fun _ g' hg' he => ?_⟩, transitionWorkspace_iff.2 ?_⟩
  · cases h
  · rw [preparedTransition, hnum]
    exact hop.resolved.generation_eq
  · obtain ⟨j, hj⟩ := List.mem_iff_getElem?.1 hg'
    have := hc.number_eq hj
    have := (List.getElem?_eq_some_iff.1 hj).1
    simp only [preparedTransition] at he
    omega
  · have hhead := hop.resolved.head_eq
    have hfree := hop.resolved.launching
    rw [← hop.resolved.cwd_eq] at hhead hfree
    rw [hc.provider]
    exact ⟨⟨_, hhead, rfl, rfl, congrArg some hnum.symm⟩, hfree⟩

theorem NextHop.validV2 (hv : ValidV2 d) (hop : NextHop d cwd preparation c g)
    (ht : g.trustDomainId = some preparation.trustDomainId)
    (hr : g.rollout = some preparation.sourceRollout) (id : Uuid) (hnow : 0 ≤ now) :
    ValidV2 { d with
      activeTransition := some (preparedTransition id.toString c g preparation now) } where
  schema := hv.schema
  backup := hv.backup
  contents := hv.contents.congr rfl rfl rfl
  transition t h := by
    cases h
    exact ⟨c, g, (hop.transitionOk hv.contents ht hr id hnow).congr rfl rfl rfl⟩

/-- Recording the metadata a generation already has keeps the document. -/
theorem setGeneration_self {id : String} {n : ℕ} (hc : d.findConversation id = some c)
    (hg : c.findGeneration n = some g) : d.setGeneration id n g = d := by
  have hconv : (d.setGeneration id n g).conversations = d.conversations := by
    refine updateFirst_eq_self fun c' hc' => ?_
    obtain rfl : c = c' := Option.some.inj (hc.symm.trans hc')
    have hgens : updateFirst (fun g' => g'.generation = n) (fun _ => g) c.generations =
        c.generations := by
      refine updateFirst_eq_self fun g' hg' => ?_
      exact Option.some.inj (hg.symm.trans hg')
    simp only [hgens]
  unfold setGeneration at hconv ⊢
  simp only at hconv
  rw [hconv]

/-- The operation itself succeeds exactly when the rollout is the recorded one. -/
theorem NextHop.prepareHandoff_iff {schemaV1 : Bool} (h : Contents schemaV1 d)
    (hop : NextHop d cwd preparation c g) (ht : g.trustDomainId = some preparation.trustDomainId)
    (hnow : unixTimestamp host = .ok now) {t : HandoffTransition} {d' : ConversationDocument} :
    d.prepareHandoff host preparation = .ok (t, d') ↔
      g.rollout = some preparation.sourceRollout ∧
      t = preparedTransition host.newV4.toString c g preparation now ∧
      d' = { d with activeTransition := some t } := by
  obtain ⟨hc, hg⟩ := hop.resolved.ok h
  have hhead : d.resolveHeadDocument preparation.expectedSource.canonicalCwd =
      .ok preparation.expectedSource := by
    have hcwd : preparation.expectedSource.canonicalCwd = cwd := by
      rw [hop.resolved.binding, Conversation.headBinding, hop.resolved.cwd_eq]
    rw [hcwd]
    exact (resolved_iff h).2 ⟨c, g, hop.resolved⟩
  constructor
  · intro hp
    obtain ⟨c', source, recorded, now', hprep, -, rfl, rfl⟩ := prepareHandoff_cases hp
    obtain rfl : c = c' := by
      have := hprep.conversation_eq
      rw [hop.resolved.binding] at this
      exact Option.some.inj (hop.resolved.conversation_eq.symm.trans this)
    obtain rfl : g = source := Option.some.inj (hop.resolved.generation_eq.symm.trans hprep.source_eq)
    obtain rfl : now = now' := Except.ok.inj (hnow.symm.trans hprep.now_eq)
    have hrec := hprep.recorded_eq
    unfold recordSourceMetadata at hrec
    rw [ht] at hrec
    cases hroll : g.rollout with
    | none =>
      rw [hroll] at hrec
      cases hrec
    | some rollout =>
      simp only [hroll, true_and] at hrec
      split_ifs at hrec with he
      cases hrec
      refine ⟨by rw [he], rfl, ?_⟩
      rw [setGeneration_self hop.resolved.conversation_eq hop.resolved.generation_eq]
  · rintro ⟨hroll, rfl, rfl⟩
    have hid : d.findConversation preparation.expectedSource.conversationId = some c := by
      rw [hop.resolved.binding]
      exact hop.resolved.conversation_eq
    have hnum := hop.resolved.number
    have hlt : g.generation + 1 < 2 ^ 32 := by
      have := hc.activeGeneration_eq
      have := hc.bounded
      have : maxLineageGenerations = 256 := rfl
      omega
    have hfree : d.launching preparation.expectedSource.canonicalCwd = false := by
      rw [hop.resolved.binding, Conversation.headBinding, hop.resolved.cwd_eq]
      exact hop.resolved.launching
    have hrec : recordSourceMetadata preparation g = .ok g := by
      simp [recordSourceMetadata, ht, hroll, pure, Except.pure]
    have hb := hop.resolved.binding
    simp only [ConversationDocument.prepareHandoff, bind_eq_ok, rejectIf_eq_ok, okOr_eq_ok,
      pure_eq_ok, Decidable.not_not]
    refine ⟨(), hop.idle, (), by simp [hfree], _, hhead, (), rfl, c, hid, (), ?_, g,
      hop.resolved.generation_eq, (), ?_, g, hrec, (), hlt, now, hnow, ?_⟩
    · rw [hb]
      exact hnum.symm
    · rw [hb]
      simp [Conversation.headBinding]
    · rw [setGeneration_self hop.resolved.conversation_eq hop.resolved.generation_eq]

variable [Sha256] {disk : Disk}

/-- A generation that came from a handoff can be handed off again exactly when its rollout is the
one that was recorded with it, and the registry has room for the journal. -/
theorem prepare_handoff_iff (hr : Reachable disk) (hop : NextHop disk.document cwd preparation c g)
    (hf : host.fault = none) (hnow : unixTimestamp host = .ok now) :
    Succeeds (ConversationRegistry.prepareHandoff host preparation) disk ↔
      g.rollout = some preparation.sourceRollout ∧
      Fits { disk.document with
        activeTransition := some (preparedTransition host.newV4.toString c g preparation now) } := by
  obtain ⟨hv, ht, -⟩ := hop.metadata hr.valid
  have hv2 : disk.document.schemaVersion ≠ schemaVersionV1 := by
    rw [hv.schema]
    decide
  have hcheck := hop.checkPreparation hv.contents ht
  rw [ConversationRegistry.prepareHandoff, succeeds_lift_iff]
  simp only [hcheck, exists_const, true_and,
    transactV2_succeeds_iff hr hv2 hf, hop.prepareHandoff_iff hv.contents ht hnow]
  constructor
  · rintro ⟨t, edited, published, ⟨hroll, rfl, rfl⟩, hpub⟩
    have valid := hop.validV2 hv ht hroll host.newV4 (unixTimestamp_nonneg hnow)
    exact ⟨hroll, valid.publish_iff.1 ⟨published, hpub⟩⟩
  · rintro ⟨hroll, hfits⟩
    have valid := hop.validV2 hv ht hroll host.newV4 (unixTimestamp_nonneg hnow)
    obtain ⟨published, hpub⟩ := valid.publish_iff.2 hfits
    exact ⟨_, _, published, ⟨hroll, rfl, rfl⟩, hpub⟩

end

/-! ### The next hop of the sample -/

/-- A later state of a recorded rollout: the same file, which has only been appended to. -/
structure Grown (recorded current : RolloutFingerprint) : Prop where
  device : current.device = recorded.device
  inode : current.inode = recorded.inode
  length : recorded.length ≤ current.length
  modified : recorded.modifiedSeconds ≤ current.modifiedSeconds
  changed : recorded.changedSeconds ≤ current.changedSeconds

/-- The rollout of the second generation after the attached session has written to it. -/
def sampleGrownRollout : GenerationRollout where
  locator := (sampleRollout 2 200).locator
  fingerprint := { (sampleRollout 2 200).fingerprint with
    length := 300
    modifiedSeconds := 1760000100
    changedSeconds := 1760000100
    sha256 := "ba7816bf8f01cfea414140de5dae2223b00361a396177a9cb410ff61f20015ad" }

def sampleSecondConversation : Conversation :=
  commitGeneration sampleTransition sampleObservedTarget { sampleConversation with
    generations := [{ firstGeneration sampleBinding 1760000000 with
      trustDomainId := some (sampleId 5), rollout := some (sampleRollout 1 100) }] }

def sampleSecondGeneration : ConversationGeneration :=
  targetGeneration sampleTransition sampleObservedTarget

/-- The request to hand the second generation back to the first profile. -/
def sampleNextHop (rollout : GenerationRollout) : HandoffPreparation where
  expectedSource := sampleSecondConversation.headBinding sampleSecondGeneration
  targetProfileId := sampleId 1
  trustDomainId := sampleId 5
  reason := .confirmedUsageExhaustion
  sourceRollout := rollout

attribute [local instance] sampleSha256

theorem sampleDisk_attached : (sampleDisk 8).document = sampleAttached := by
  rw [sampleDisk_eq.2.2.2.2]
  rfl

theorem sampleNextHop_ok {rollout : GenerationRollout} (h : validateRollout rollout = .ok ()) :
    NextHop (sampleDisk 8).document "/work" (sampleNextHop rollout) sampleSecondConversation
      sampleSecondGeneration := by
  have target : validateUuid (sampleId 1) "target profile id" = .ok () := by decide +kernel
  have different : sampleId 2 ≠ sampleId 1 := by decide +kernel
  rw [sampleDisk_attached]
  exact ⟨rfl, ⟨rfl, rfl, rfl, by decide +kernel, rfl, rfl, rfl, rfl⟩, by decide, target, different,
    rfl, HandoffReason.noConfusion, h⟩

theorem prepare_handoff_recorded :
    Succeeds (ConversationRegistry.prepareHandoff (sampleHost 13 1760000200)
      (sampleNextHop (sampleRollout 2 200))) (sampleDisk 8) := by
  refine (prepare_handoff_iff (sampleDisk_reachable 8) (sampleNextHop_ok (by decide +kernel)) rfl
    rfl).2 ⟨rfl, ?_⟩
  rw [sampleDisk_attached]
  exact ⟨by decide, by decide +kernel⟩

/-- Once the attached session has written to its rollout, the next handoff is refused. -/
theorem prepare_handoff_grown :
    Reachable (sampleDisk 8) ∧
    NextHop (sampleDisk 8).document "/work" (sampleNextHop sampleGrownRollout)
      sampleSecondConversation sampleSecondGeneration ∧
    sampleSecondGeneration.rollout.map (·.locator) = some sampleGrownRollout.locator ∧
    (∀ recorded, sampleSecondGeneration.rollout = some recorded →
      Grown recorded.fingerprint sampleGrownRollout.fingerprint) ∧
    ConversationRegistry.prepareHandoff (sampleHost 13 1760000200)
        (sampleNextHop sampleGrownRollout) (sampleDisk 8) =
      (.error (invalid "handoff source metadata conflicts with its lineage"), sampleDisk 8) := by
  refine ⟨sampleDisk_reachable 8, sampleNextHop_ok (by decide +kernel), rfl, ?_, ?_⟩
  · intro recorded h
    cases h
    exact ⟨rfl, rfl, by decide, by decide, by decide⟩
  · have hcheck : ConversationRegistry.checkPreparation (sampleNextHop sampleGrownRollout) = .ok () := by
      decide +kernel
    have hload := (sampleDisk_reachable 8).load_eq
    rw [sampleDisk_attached] at hload
    rw [ConversationRegistry.prepareHandoff, lift_bind_apply, hcheck]
    exact transactV2_error rfl hload rfl (by decide +kernel)

end Calcifer
