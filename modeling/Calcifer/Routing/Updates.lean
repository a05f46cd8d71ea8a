import Calcifer.Routing.Storage

/-!
# Updates of the routing definitions by many clients

Each client reads a snapshot, validates the members of a mutation on it and commits the mutation
against the revision of the snapshot, and between any two of these steps others take theirs. A revision
names one document of the store, so that a commit which is not refused changes the document that its
client has validated (`History.snapshot_eq`).
-/

namespace Calcifer.Routing

open Checks

/-- A mutation with valid members, between its validation and its commit. -/
structure Validated (Proof : Type) where
  source : MembershipSource Proof
  snapshot : Definitions
  mutation : DefinitionMutation
  proofs : Option (List Proof)
  valid : validateSnapshot source snapshot mutation = .ok proofs

/-- How far a client has come in `mutateSnapshot`. -/
inductive Client (Proof : Type) where
  | idle
  | holding (snapshot : Definitions)
  | validated (request : Validated Proof)

/-- A call of `mutateSnapshot` that has returned, with the stored definitions that it found and left. -/
structure Attempt (Proof : Type) where
  source : MembershipSource Proof
  snapshot : Definitions
  mutation : DefinitionMutation
  before : Definitions
  result : Except RoutingError MutationOutcome
  after : Definitions

/-- The stored definitions, the clients and the calls that have returned, the latest first. -/
structure World (ι Proof : Type) where
  stored : Definitions
  clients : ι → Client Proof := fun _ => .idle
  log : List (Attempt Proof) := []

inductive Event (ι Proof : Type) where
  | read (client : ι) (fault : Option StorageFault)
  | validate (client : ι) (source : MembershipSource Proof) (mutation : DefinitionMutation)
  | commit (client : ι) (fault : Option StorageFault)

variable {ι Proof : Type} [DecidableEq ι]

namespace World

/-- A client reads the stored definitions. -/
def read (world : World ι Proof) (client : ι) (fault : Option StorageFault) : World ι Proof :=
  match world.clients client, Store.load fault world.stored with
  | .idle, .ok snapshot =>
    { world with clients := Function.update world.clients client (.holding snapshot) }
  | _, _ => world

/-- A client validates the members of a mutation on its snapshot. -/
def validate (world : World ι Proof) (client : ι) (source : MembershipSource Proof)
    (mutation : DefinitionMutation) : World ι Proof :=
  match world.clients client with
  | .holding snapshot =>
    match valid : validateSnapshot source snapshot mutation with
    | .ok proofs =>
      let request := { source, snapshot, mutation, proofs, valid }
      { world with clients := Function.update world.clients client (.validated request) }
    | .error error =>
      { world with
        clients := Function.update world.clients client .idle
        log := { source, snapshot, mutation, before := world.stored, result := .error error
                 after := world.stored } :: world.log }
  | _ => world

/-- A client commits what it has validated. -/
def commit (world : World ι Proof) (client : ι) (fault : Option StorageFault) : World ι Proof :=
  match world.clients client with
  | .validated request =>
    let (result, stored) :=
      Store.commit fault world.stored request.snapshot.revision request.mutation
    { stored
      clients := Function.update world.clients client .idle
      log := { request with before := world.stored, result, after := stored } :: world.log }
  | _ => world

def step (world : World ι Proof) : Event ι Proof → World ι Proof
  | .read client fault => world.read client fault
  | .validate client source mutation => world.validate client source mutation
  | .commit client fault => world.commit client fault

def run (world : World ι Proof) (events : List (Event ι Proof)) : World ι Proof :=
  events.foldl step world

section

variable {world : World ι Proof} {client : ι} {source : MembershipSource Proof}
  {fault : Option StorageFault} {mutation : DefinitionMutation} {snapshot : Definitions}

/-- When no other client takes a step in between, this is `mutateSnapshot`. -/
theorem commit_validate (h : world.clients client = .holding snapshot) :
    (world.validate client source mutation).commit client fault =
      let (result, stored) := mutateSnapshot source fault world.stored snapshot mutation
      { stored
        clients := Function.update world.clients client .idle
        log := { source, snapshot, mutation, before := world.stored, result, after := stored } ::
          world.log } := by
  unfold World.validate mutateSnapshot
  simp only [h]
  split
  · rename_i proofs hproofs
    simp only [hproofs, World.commit, Function.update_self, Function.update_idem]
  · rename_i error hrefused
    simp only [hrefused, World.commit, Function.update_self]
    rfl

end

end World

/-! ## History -/

/-- The call has changed the stored definitions. -/
def Attempt.Published (attempt : Attempt Proof) : Prop := attempt.after ≠ attempt.before

instance : DecidablePred (@Attempt.Published Proof) :=
  fun attempt => inferInstanceAs (Decidable (attempt.after ≠ attempt.before))

/-- The call has reported a change. -/
def Attempt.succeeded (attempt : Attempt Proof) : Bool :=
  match attempt.result with
  | .ok outcome => outcome.changed
  | .error _ => false

/-- What `apply` was asked for. -/
def Attempt.request (attempt : Attempt Proof) : ℕ × DefinitionMutation :=
  (attempt.snapshot.revision, attempt.mutation)

/-- The documents that were stored at some time. -/
def versions (start : Definitions) (log : List (Attempt Proof)) : List Definitions :=
  log.map (·.after) ++ [start]

/-- Calls that found the document which the one before them left, each with a snapshot of its past. -/
inductive History (start : Definitions) : List (Attempt Proof) → Definitions → Prop
  | start : History start [] start
  | attempt {attempt : Attempt Proof} {log : List (Attempt Proof)}
    (past : History start log attempt.before) (hsnapshot : attempt.snapshot ∈ versions start log)
    {fault : Option StorageFault}
    (ends : Ends attempt.source fault attempt.before attempt.snapshot attempt.mutation attempt.result
      attempt.after) : History start (attempt :: log) attempt.after

section History

variable {start stored : Definitions} {log : List (Attempt Proof)} {attempt : Attempt Proof}

theorem History.stored_mem (h : History start log stored) : stored ∈ versions start log := by
  cases h with
  | start => simp [versions]
  | attempt => simp [versions]

theorem mem_versions_cons {document : Definitions} :
    document ∈ versions start (attempt :: log) ↔
      document = attempt.after ∨ document ∈ versions start log := by
  rw [versions, List.map_cons, List.cons_append, List.mem_cons, versions]

/-- A revision is later than all before it, and it names one document. -/
theorem History.revision (h : History start log stored) {document : Definitions}
    (hmem : document ∈ versions start log) :
    document.revision ≤ stored.revision ∧ (document.revision = stored.revision → document = stored) := by
  induction h with
  | start =>
    obtain rfl := List.mem_singleton.1 hmem
    exact ⟨le_rfl, fun _ => rfl⟩
  | @attempt attempt log past hsnapshot fault ends ih =>
    obtain rfl | hmem := mem_versions_cons.1 hmem
    · exact ⟨le_rfl, fun _ => rfl⟩
    · obtain ⟨hle, heq⟩ := ih hmem
      by_cases hne : attempt.after = attempt.before
      · rw [hne]
        exact ⟨hle, heq⟩
      · obtain ⟨proofs, outcome, -, hchanged, happly, -⟩ := ends.of_ne hne
        obtain ⟨-, -, ⟨hsame, -⟩ | ⟨-, -, hnext, -⟩⟩ := Definitions.apply_eq_ok happly
        · exact absurd hsame (by simp [hchanged])
        · exact ⟨by omega, fun h => by omega⟩

/-- The call has applied its mutation to the snapshot whose members it has validated. -/
structure Attempt.Commits (attempt : Attempt Proof) (proofs : Option (List Proof))
    (outcome : MutationOutcome) : Prop where
  before : attempt.before = attempt.snapshot
  validated : validateSnapshot attempt.source attempt.snapshot attempt.mutation = .ok proofs
  applied : attempt.snapshot.apply attempt.snapshot.revision attempt.mutation =
    .ok (outcome, attempt.after)
  changed : outcome.changed = true
  result : attempt.result = .ok outcome ∨ attempt.result = .error .commitUncertain

/-- The snapshot of a call that changes the stored definitions is the document that it finds. -/
theorem History.snapshot_eq {outcome : MutationOutcome} (past : History start log attempt.before)
    (hsnapshot : attempt.snapshot ∈ versions start log)
    (happly : attempt.before.apply attempt.snapshot.revision attempt.mutation =
      .ok (outcome, stored)) : attempt.before = attempt.snapshot := by
  obtain ⟨hrevision, -⟩ := Definitions.apply_eq_ok happly
  exact ((past.revision hsnapshot).2 hrevision.symm).symm

theorem History.commits {fault : Option StorageFault} (past : History start log attempt.before)
    (hsnapshot : attempt.snapshot ∈ versions start log)
    (ends : Ends attempt.source fault attempt.before attempt.snapshot attempt.mutation
      attempt.result attempt.after) (hpublished : attempt.Published) :
    ∃ proofs outcome, attempt.Commits proofs outcome := by
  obtain ⟨proofs, outcome, hproofs, hchanged, happly, hresult⟩ := ends.of_ne hpublished
  have hbefore := past.snapshot_eq hsnapshot happly
  rw [hbefore] at happly
  exact ⟨proofs, outcome, hbefore, hproofs, happly, hchanged, hresult⟩

theorem Attempt.Commits.revision {proofs : Option (List Proof)} {outcome : MutationOutcome}
    (h : attempt.Commits proofs outcome) : attempt.after.revision = attempt.snapshot.revision + 1 := by
  obtain ⟨-, -, ⟨hsame, -⟩ | ⟨-, -, hnext, -⟩⟩ := Definitions.apply_eq_ok h.applied
  · exact absurd hsame (by simp [h.changed])
  · exact hnext

end History

/-! ## Runs -/

/-- The call has left the stored definitions as they were: their revision is not the one of its snapshot,
or it has failed before they were read. -/
structure Attempt.Refused (attempt : Attempt Proof) : Prop where
  kept : attempt.after = attempt.before
  result : attempt.result = .error (.definition .revisionConflict) ∨
    ∃ error, attempt.result = .error error ∧
      (validateSnapshot attempt.source attempt.snapshot attempt.mutation = .error error ∨
        ∃ fault, Store.load fault attempt.before = .error error)

/-- What a call may report, and what it did when it has changed the stored definitions. -/
structure Attempt.Sound (attempt : Attempt Proof) : Prop where
  changed : ∀ outcome, attempt.result = .ok outcome → outcome.changed = true → attempt.Published
  commits : attempt.Published → ∃ proofs outcome, attempt.Commits proofs outcome
  members : attempt.Published → ∀ target, membershipTarget attempt.mutation = some target →
    ∃ validation proofs, attempt.after.membersOf target = .ok validation ∧
      validateSnapshot attempt.source attempt.snapshot attempt.mutation = .ok (some proofs) ∧
      Verified attempt.source validation proofs
  others : ¬attempt.Published → (∃ error, attempt.result = .error error) ∨
    ∃ outcome, attempt.result = .ok outcome ∧ outcome.changed = false ∧
      attempt.snapshot.apply attempt.snapshot.revision attempt.mutation = .ok (outcome, attempt.before)

/-- The calls of a run took effect one after the other: each revision was the base of one change at most,
and the stored definitions are the first ones after these changes. -/
structure Serial (start : Definitions) (log : List (Attempt Proof)) (stored : Definitions) : Prop where
  sound : ∀ attempt ∈ log, attempt.Sound
  conflicts : log.Pairwise fun later earlier => earlier.Published →
    later.snapshot.revision = earlier.snapshot.revision → later.Refused
  ordered : (log.filter (Attempt.Published ·)).Pairwise fun later earlier =>
    earlier.snapshot.revision < later.snapshot.revision
  stored : stored = start.run ((log.filter (Attempt.Published ·)).reverse.map (·.request))

section Serial

variable {start stored : Definitions} {log : List (Attempt Proof)} {attempt : Attempt Proof}

theorem History.sound_attempt {fault : Option StorageFault} (past : History start log attempt.before)
    (hsnapshot : attempt.snapshot ∈ versions start log)
    (ends : Ends attempt.source fault attempt.before attempt.snapshot attempt.mutation
      attempt.result attempt.after) : attempt.Sound where
  changed := by
    intro outcome hresult hchanged
    rw [hresult] at ends
    obtain ⟨-, -, ⟨hsame, -⟩ | ⟨-, -, hnext, -⟩⟩ := Definitions.apply_eq_ok ends.of_ok
    · exact absurd hsame (by simp [hchanged])
    · intro hkept
      rw [hkept] at hnext
      omega
  commits := past.commits hsnapshot ends
  members := by
    intro hpublished target htarget
    obtain ⟨proofs, outcome, h⟩ := past.commits hsnapshot ends hpublished
    obtain ⟨validation, verified, hmembers, hproofs, hverified⟩ :=
      validateSnapshot_verified h.validated htarget h.applied
    exact ⟨validation, verified, hmembers, hproofs ▸ h.validated, hverified⟩
  others := by
    intro hkept
    cases hresult : attempt.result with
    | error error => exact .inl ⟨error, rfl⟩
    | ok outcome =>
      rw [hresult, not_not.1 hkept] at ends
      have happly := ends.of_ok
      obtain ⟨-, -, ⟨hsame, -⟩ | ⟨-, -, hnext, -⟩⟩ := Definitions.apply_eq_ok happly
      · have hbefore := past.snapshot_eq hsnapshot happly
        rw [hbefore] at happly ⊢
        exact .inr ⟨outcome, rfl, hsame, happly⟩
      · omega

theorem History.sound (h : History start log stored) : ∀ attempt ∈ log, attempt.Sound := by
  induction h with
  | start => simp
  | attempt past hsnapshot ends ih =>
    exact List.forall_mem_cons.2 ⟨past.sound_attempt hsnapshot ends, ih⟩

/-- A change that was made before is older than the stored definitions. -/
theorem History.published_lt (h : History start log stored) (hmem : attempt ∈ log)
    (hpublished : attempt.Published) : attempt.snapshot.revision < stored.revision := by
  have hafter : attempt.after ∈ versions start log :=
    List.mem_append_left _ (List.mem_map.2 ⟨attempt, hmem, rfl⟩)
  have hle := (h.revision hafter).1
  obtain ⟨proofs, outcome, hcommits⟩ := (h.sound attempt hmem).commits hpublished
  have hnext := hcommits.revision
  omega

theorem History.serial (h : History start log stored) : Serial start log stored := by
  induction h with
  | start => exact ⟨by simp, .nil, .nil, rfl⟩
  | @attempt attempt log past hsnapshot fault ends ih =>
    refine ⟨(past.attempt hsnapshot ends).sound, .cons ?_ ih.conflicts, ?_, ?_⟩
    · intro earlier hearlier hpublished hsame
      have hlt := past.published_lt hearlier hpublished
      obtain ⟨hkept, hresult⟩ := ends.of_revision_ne (by omega)
      exact ⟨hkept, hresult.imp_right fun ⟨error, hr, h⟩ => ⟨error, hr, h.imp_right fun h => ⟨fault, h⟩⟩⟩
    · by_cases hpublished : attempt.Published
      · rw [List.filter_cons_of_pos (by simpa using hpublished)]
        refine .cons (fun earlier hearlier => ?_) ih.ordered
        simp only [List.mem_filter, decide_eq_true_eq] at hearlier
        obtain ⟨proofs, outcome, h⟩ := past.commits hsnapshot ends hpublished
        rw [← h.before]
        exact past.published_lt hearlier.1 hearlier.2
      · rw [List.filter_cons_of_neg (by simpa using hpublished)]
        exact ih.ordered
    · by_cases hpublished : attempt.Published
      · obtain ⟨proofs, outcome, h⟩ := past.commits hsnapshot ends hpublished
        rw [List.filter_cons_of_pos (by simpa using hpublished), List.reverse_cons, List.map_append,
          Definitions.run_append, ← ih.stored, h.before]
        show attempt.after = attempt.snapshot.step attempt.request
        rw [Definitions.step, Attempt.request, h.applied]
      · rw [List.filter_cons_of_neg (by simpa using hpublished), not_not.1 hpublished]
        exact ih.stored

end Serial

/-- The snapshot that a client works with. -/
def Client.snapshot : Client Proof → Option Definitions
  | .idle => none
  | .holding snapshot => some snapshot
  | .validated request => some request.snapshot

namespace World

/-- The calls have a history, and every client works with a document of it. -/
structure Inv (start : Definitions) (world : World ι Proof) : Prop where
  history : History start world.log world.stored
  held : ∀ client, ∀ snapshot ∈ (world.clients client).snapshot, snapshot ∈ versions start world.log

variable {start : Definitions} {world : World ι Proof}

theorem mem_snapshot_update {clients : ι → Client Proof} {client other : ι} {state : Client Proof}
    {snapshot : Definitions} (h : snapshot ∈ (Function.update clients client state other).snapshot) :
    snapshot ∈ state.snapshot ∨ snapshot ∈ (clients other).snapshot := by
  by_cases heq : other = client
  · subst heq
    rw [Function.update_self] at h
    exact .inl h
  · rw [Function.update_of_ne heq] at h
    exact .inr h

/-- A call that returns makes its client idle and adds to the history. -/
theorem Inv.settle (inv : Inv start world) {client : ι} {source : MembershipSource Proof}
    {fault : Option StorageFault} {snapshot next : Definitions} {mutation : DefinitionMutation}
    {result : Except RoutingError MutationOutcome}
    (hsnapshot : snapshot ∈ (world.clients client).snapshot)
    (ends : Ends source fault world.stored snapshot mutation result next) :
    Inv start {
      stored := next
      clients := Function.update world.clients client .idle
      log := { source, snapshot, mutation, before := world.stored, result, after := next } ::
        world.log } where
  history := .attempt inv.history (inv.held client _ hsnapshot) ends
  held := by
    intro other document h
    obtain h | h := mem_snapshot_update h
    · cases h
    · exact mem_versions_cons.2 (.inr (inv.held other document h))

/-- A client goes on with a document of the history. -/
theorem Inv.advance (inv : Inv start world) {client : ι} {state : Client Proof}
    (hstate : ∀ snapshot ∈ state.snapshot, snapshot ∈ versions start world.log) :
    Inv start { world with clients := Function.update world.clients client state } where
  history := inv.history
  held := by
    intro other snapshot h
    obtain h | h := mem_snapshot_update h
    · exact hstate snapshot h
    · exact inv.held other snapshot h

theorem Inv.read (inv : Inv start world) (client : ι) (fault : Option StorageFault) :
    Inv start (world.read client fault) := by
  unfold World.read
  split
  · rename_i snapshot hidle hload
    rw [Store.load_eq_ok hload]
    refine inv.advance fun document h => ?_
    cases h
    exact inv.history.stored_mem
  · exact inv

theorem Inv.validate (inv : Inv start world) (client : ι) (source : MembershipSource Proof)
    (mutation : DefinitionMutation) : Inv start (world.validate client source mutation) := by
  unfold World.validate
  split
  · rename_i snapshot hclient
    have hheld : snapshot ∈ (world.clients client).snapshot := by
      rw [hclient]
      rfl
    split
    · refine inv.advance fun document h => ?_
      cases h
      exact inv.held client _ hheld
    · rename_i error hrefused
      exact inv.settle hheld (@Ends.refused _ _ none _ _ _ _ hrefused)
  · exact inv

theorem Inv.commit (inv : Inv start world) (client : ι) (fault : Option StorageFault) :
    Inv start (world.commit client fault) := by
  unfold World.commit
  split
  · rename_i request hclient
    have hheld : request.snapshot ∈ (world.clients client).snapshot := by
      rw [hclient]
      rfl
    exact inv.settle hheld (Store.commit_ends request.valid rfl)
  · exact inv

theorem Inv.step (inv : Inv start world) (event : Event ι Proof) : Inv start (world.step event) := by
  cases event with
  | read client fault => exact inv.read client fault
  | validate client source mutation => exact inv.validate client source mutation
  | commit client fault => exact inv.commit client fault

theorem Inv.run (inv : Inv start world) (events : List (Event ι Proof)) :
    Inv start (world.run events) := by
  induction events generalizing world with
  | nil => exact inv
  | cons event events ih => exact ih (inv.step event)

end World

/-- Any number of clients run `mutateSnapshot` on one store, in any order of their steps. A commit whose
directory is not synchronized has changed the stored definitions all the same. -/
theorem mutateSnapshot_serial (start : Definitions) (events : List (Event ι Proof)) :
    Serial start (World.run { stored := start } events).log
      (World.run { stored := start } events).stored := by
  have inv : World.Inv start ({ stored := start } : World ι Proof) :=
    ⟨.start, fun client snapshot h => by cases h⟩
  exact (inv.run events).history.serial

/-- One client, whose commit is not synchronized. -/
def sampleUncertain : List (Event Unit ℕ) :=
  let source : MembershipSource ℕ := {
    resolve := fun id => .ok { id, aliasName := "work", provider := .codex, createdAt := 0 }
    verify := fun _ => .ok 1
    sameProviderIdentity := (· == ·) }
  let mutation : DefinitionMutation := .createDomain "01900000-0000-7000-8000-000000000201" "accounts"
    .codex ["01900000-0000-7000-8000-000000000211"]
  [.read () none, .validate () source mutation, .commit () (some .afterRename)]

/-- The stored definitions are not the first ones after the mutations that have succeeded. -/
theorem mutateSnapshot_uncertain :
    let world := World.run { stored := {} } sampleUncertain
    world.stored ≠
      Definitions.run {} ((world.log.filter Attempt.succeeded).reverse.map (·.request)) := by
  decide +kernel

end Calcifer.Routing
