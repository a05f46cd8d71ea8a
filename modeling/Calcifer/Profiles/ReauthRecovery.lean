import Calcifer.Profiles.Reauth

/-!
# Reauthentication never loses a credential

`Stage` says what can be found of a transaction under the home of its profile: the old credential
with nothing exchanged yet, the moment between the two renames, or the new credential. Every call of
a commit and of a recovery keeps it, whatever fails, and a recovery that succeeds has removed
everything but the credential.
-/

namespace Calcifer.Profiles

open Checks Text Files

namespace PendingReauth

/-! ## The places of a transaction -/

section Places

variable {pending : PendingReauth}

theorem temporaryName_ne (credential transactionId : String) :
    credentialTemporaryName credential transactionId ≠ credential := by
  intro h
  have hlen := congrArg (fun s : String => s.toList.length) h
  simp [credentialTemporaryName] at hlen
  omega

theorem backupName_ne (credential transactionId : String) :
    credentialBackupName credential transactionId ≠ credential := by
  intro h
  have hlen := congrArg (fun s : String => s.toList.length) h
  simp [credentialBackupName] at hlen
  omega

theorem backupName_ne_temporaryName (credential transactionId : String) :
    credentialBackupName credential transactionId ≠
      credentialTemporaryName credential transactionId := by
  intro h
  have hlist := congrArg String.toList h
  simp [credentialTemporaryName, credentialBackupName] at hlist

/-- A path that is none of the places of the transaction. -/
def Apart (pending : PendingReauth) (path : Path) : Prop :=
  path ≠ pending.currentAuth ∧ path ≠ pending.temporary ∧ path ≠ pending.backup ∧
    path ≠ journalPath pending.profile

/-- What is beside the profile is none of its places. -/
theorem apart_of_dotted (hid : validateProfileId pending.profile.id = .ok ()) {name : String}
    {path : Path} (h : providerRoot pending.profile.provider ++ ["." ++ name] <+: path) :
    pending.Apart path := by
  have hne := ne_dotted_of_validateProfileId hid name
  refine ⟨?_, ?_, ?_, ?_⟩ <;> rintro rfl <;>
    simp [providerRoot, currentAuth, PendingReauth.temporary, PendingReauth.backup, journalPath,
      Profile.home, Profile.directory] at h <;> exact hne h.symm

end Places

variable [Sha256]

variable (pending : PendingReauth) (oldBytes newBytes : List UInt8)

/-- What is found of a transaction: the three places of a credential and the journal, and whether
the old credential was renamed to the backup and the new one to its name. -/
structure At (current temporary backup : Option (List UInt8)) (journaled : Bool)
    (exchanged published : Prop) (w : ProfileWorld) : Prop where
  current : w.at' pending.currentAuth = current.map fun raw => .file (.bytes raw) true
  temporary : w.at' pending.temporary = temporary.map fun raw => .file (.bytes raw) true
  backup : w.at' pending.backup = backup.map fun raw => .file (.bytes raw) true
  journal : w.at' (journalPath pending.profile) =
    if journaled then some (.file (.journal (pending.journal oldBytes newBytes) true) true) else none
  exchanged : (pending.currentAuth, pending.backup) ∈ w.renames ↔ exchanged
  published : (pending.temporary, pending.currentAuth) ∈ w.renames ↔ published

/-- The stages of a transaction, before and after the exchange began. -/
inductive Stage : Bool → ProfileWorld → Prop
  | before {w : ProfileWorld} (temporary journaled : Bool) (h : temporary → journaled)
      (hw : pending.At oldBytes newBytes (some oldBytes) (if temporary then some newBytes else none)
        none journaled False False w) : Stage false w
  | between {w : ProfileWorld}
      (hw : pending.At oldBytes newBytes none (some newBytes) (some oldBytes) true True False w) :
      Stage true w
  | after {w : ProfileWorld} (backup journaled : Bool) (h : backup → journaled)
      (hw : pending.At oldBytes newBytes (some newBytes) none
        (if backup then some oldBytes else none) journaled True True w) : Stage true w

variable {pending oldBytes newBytes}
variable {current temporary backup : Option (List UInt8)} {journaled : Bool}
  {exchanged published : Prop} {w : ProfileWorld}

theorem At.set {path : Path} {node : Option Node}
    (h : pending.At oldBytes newBytes current temporary backup journaled exchanged published w)
    (ne : pending.Apart path) :
    pending.At oldBytes newBytes current temporary backup journaled exchanged published
      (w.set path node) := by
  obtain ⟨h1, h2, h3, h4⟩ := ne
  exact ⟨by simp [h1.symm, h.current], by simp [h2.symm, h.temporary], by simp [h3.symm, h.backup],
    by simp [h4.symm, h.journal], h.exchanged, h.published⟩

theorem Stage.set {path : Path} {node : Option Node} {began : Bool}
    (h : pending.Stage oldBytes newBytes began w) (ne : pending.Apart path) :
    pending.Stage oldBytes newBytes began (w.set path node) := by
  cases h with
  | before temporary journaled h hw => exact .before temporary journaled h (hw.set ne)
  | between hw => exact .between (hw.set ne)
  | after backup journaled h hw => exact .after backup journaled h (hw.set ne)

/-- The journal is published from the staging tree. -/
theorem At.publishJournal (hid : validateProfileId pending.profile.id = .ok ()) {name file : String}
    (h : pending.At oldBytes newBytes current temporary backup false exchanged published w)
    (hfile : w.at' (providerRoot pending.profile.provider ++ ["." ++ name, file]) =
      some (.file (.journal (pending.journal oldBytes newBytes) true) true)) :
    pending.At oldBytes newBytes current temporary backup true exchanged published
      (w.move (providerRoot pending.profile.provider ++ ["." ++ name, file])
        (journalPath pending.profile)) := by
  have hne := (ne_dotted_of_validateProfileId hid name).symm
  have hlit : reauthJournalFile ≠ "home" := by decide
  refine ⟨?_, ?_, ?_, ?_, ?_, ?_⟩
  · rw [← h.current]
    simp [providerRoot, currentAuth, journalPath, Profile.home, Profile.directory, hne, hlit]
  · rw [← h.temporary]
    simp [providerRoot, PendingReauth.temporary, journalPath, Profile.home, Profile.directory, hne,
      hlit]
  · rw [← h.backup]
    simp [providerRoot, PendingReauth.backup, journalPath, Profile.home, Profile.directory, hne,
      hlit]
  · simp [journalPath, Profile.directory, ← hfile]
  · rw [← h.exchanged]
    simp [journalPath, PendingReauth.backup, Profile.home, Profile.directory]
  · rw [← h.published]
    simp [journalPath, currentAuth, Profile.home, Profile.directory]

/-- The new credential is moved from the staging tree to its temporary name. -/
theorem At.stageCredential (hid : validateProfileId pending.profile.id = .ok ())
    {name file : String}
    (h : pending.At oldBytes newBytes current none backup journaled exchanged published w)
    (hfile : w.at' (providerRoot pending.profile.provider ++ ["." ++ name, file]) =
      some (.file (.bytes newBytes) true)) :
    pending.At oldBytes newBytes current (some newBytes) backup journaled exchanged published
      (w.move (providerRoot pending.profile.provider ++ ["." ++ name, file]) pending.temporary) := by
  have hne := (ne_dotted_of_validateProfileId hid name).symm
  have hlit : "home" ≠ reauthJournalFile := by decide
  have htemp := temporaryName_ne pending.credential pending.transactionId
  have hback := (backupName_ne_temporaryName pending.credential pending.transactionId).symm
  refine ⟨?_, ?_, ?_, ?_, ?_, ?_⟩
  · rw [← h.current]
    simp [providerRoot, currentAuth, PendingReauth.temporary, Profile.home, hne, htemp]
  · simp [PendingReauth.temporary, Profile.home, ← hfile]
  · rw [← h.backup]
    simp [providerRoot, PendingReauth.temporary, PendingReauth.backup, Profile.home, hne, hback]
  · rw [← h.journal]
    simp [providerRoot, PendingReauth.temporary, journalPath, Profile.home, Profile.directory, hne,
      hlit]
  · rw [← h.exchanged]
    simp [PendingReauth.temporary, PendingReauth.backup, Profile.home, hback.symm]
  · rw [← h.published]
    simp [PendingReauth.temporary, currentAuth, Profile.home, htemp.symm]

/-- The old credential becomes the backup. -/
theorem At.exchange
    (h : pending.At oldBytes newBytes current temporary none journaled False published w) :
    pending.At oldBytes newBytes none temporary current journaled True published
      (w.move pending.currentAuth pending.backup) := by
  have hlit : "home" ≠ reauthJournalFile := by decide
  have htemp := temporaryName_ne pending.credential pending.transactionId
  have hback := backupName_ne pending.credential pending.transactionId
  have hne := backupName_ne_temporaryName pending.credential pending.transactionId
  refine ⟨?_, ?_, ?_, ?_, ?_, ?_⟩
  · simp [currentAuth, PendingReauth.backup, Profile.home, hback]
  · rw [← h.temporary]
    simp [currentAuth, PendingReauth.temporary, PendingReauth.backup, Profile.home, hne, htemp.symm]
  · rw [← h.current]
    simp [currentAuth, PendingReauth.backup, Profile.home]
  · rw [← h.journal]
    simp [currentAuth, PendingReauth.backup, journalPath, Profile.home, Profile.directory, hlit]
  · simp
  · rw [← h.published]
    simp [currentAuth, PendingReauth.temporary, PendingReauth.backup, Profile.home, htemp]

/-- The new credential takes its name. -/
theorem At.publishCredential
    (h : pending.At oldBytes newBytes none temporary backup journaled exchanged False w) :
    pending.At oldBytes newBytes temporary none backup journaled exchanged True
      (w.move pending.temporary pending.currentAuth) := by
  have hlit : "home" ≠ reauthJournalFile := by decide
  have htemp := temporaryName_ne pending.credential pending.transactionId
  have hback := backupName_ne pending.credential pending.transactionId
  have hne := backupName_ne_temporaryName pending.credential pending.transactionId
  refine ⟨?_, ?_, ?_, ?_, ?_, ?_⟩
  · rw [← h.temporary]
    simp [currentAuth, PendingReauth.temporary, Profile.home]
  · simp [currentAuth, PendingReauth.temporary, Profile.home, htemp.symm]
  · rw [← h.backup]
    simp [currentAuth, PendingReauth.temporary, PendingReauth.backup, Profile.home, hne.symm,
      hback.symm]
  · rw [← h.journal]
    simp [currentAuth, PendingReauth.temporary, journalPath, Profile.home, Profile.directory, hlit]
  · rw [← h.exchanged]
    simp [currentAuth, PendingReauth.temporary, PendingReauth.backup, Profile.home, htemp.symm]
  · simp

theorem At.dropTemporary
    (h : pending.At oldBytes newBytes current temporary backup journaled exchanged published w) :
    pending.At oldBytes newBytes current none backup journaled exchanged published
      (w.set pending.temporary none) := by
  have hlit : reauthJournalFile ≠ "home" := by decide
  have htemp := (temporaryName_ne pending.credential pending.transactionId).symm
  have hne := backupName_ne_temporaryName pending.credential pending.transactionId
  refine ⟨?_, by simp, ?_, ?_, h.exchanged, h.published⟩
  · simp [← h.current, currentAuth, PendingReauth.temporary, htemp]
  · simp [← h.backup, PendingReauth.backup, PendingReauth.temporary, hne]
  · rw [← h.journal]
    simp [journalPath, PendingReauth.temporary, Profile.home, Profile.directory]

theorem At.dropBackup
    (h : pending.At oldBytes newBytes current temporary backup journaled exchanged published w) :
    pending.At oldBytes newBytes current temporary none journaled exchanged published
      (w.set pending.backup none) := by
  have hback := (backupName_ne pending.credential pending.transactionId).symm
  have hne := (backupName_ne_temporaryName pending.credential pending.transactionId).symm
  refine ⟨?_, ?_, by simp, ?_, h.exchanged, h.published⟩
  · simp [← h.current, currentAuth, PendingReauth.backup, hback]
  · simp [← h.temporary, PendingReauth.backup, PendingReauth.temporary, hne]
  · rw [← h.journal]
    simp [journalPath, PendingReauth.backup, Profile.home, Profile.directory]

theorem At.dropJournal
    (h : pending.At oldBytes newBytes current temporary backup journaled exchanged published w) :
    pending.At oldBytes newBytes current temporary backup false exchanged published
      (w.set (journalPath pending.profile) none) := by
  refine ⟨?_, ?_, ?_, by simp, h.exchanged, h.published⟩
  · rw [← h.current]
    simp [currentAuth, journalPath, Profile.home, Profile.directory]
  · rw [← h.temporary]
    simp [PendingReauth.temporary, journalPath, Profile.home, Profile.directory]
  · rw [← h.backup]
    simp [PendingReauth.backup, journalPath, Profile.home, Profile.directory]

/-! ## Recovery -/

/-- Everything of the transaction but the credential is gone. -/
def Recovered (pending : PendingReauth) (oldBytes newBytes : List UInt8) (began : Bool)
    (w : ProfileWorld) : Prop :=
  w.at' pending.staging = none ∧
    pending.At oldBytes newBytes (some (if began then newBytes else oldBytes)) none none false began
      began w

omit [Sha256] in
theorem dotted_reauth (rest : String) : ".reauth-" ++ rest = "." ++ ("reauth-" ++ rest) := by
  rw [← String.append_assoc]
  rfl

/-- The places of a transaction are not in any staging tree. -/
theorem At.frame (hid : validateProfileId pending.profile.id = .ok ()) {name : String} {path : Path}
    (h : pending.At oldBytes newBytes current temporary backup journaled exchanged published w)
    (hp : providerRoot pending.profile.provider ++ [".reauth-" ++ name] <+: path) :
    pending.At oldBytes newBytes current temporary backup journaled exchanged published
      (w.set path none) := by
  rw [dotted_reauth] at hp
  exact h.set (apart_of_dotted hid hp)

/-- The staging tree of the transaction is among the orphans that are removed. -/
theorem safely_cleanupOrphans (hid : validateProfileId pending.profile.id = .ok ())
    (h : pending.At oldBytes newBytes current temporary backup journaled exchanged published w)
    (names : List String) :
    Safely True alone
      (pending.At oldBytes newBytes current temporary backup journaled exchanged published)
      (cleanupOrphans pending.profile names)
      (fun _ w' =>
        pending.At oldBytes newBytes current temporary backup journaled exchanged published w' ∧
        (pending.stagingName ∈ names ∨ w.at' pending.staging = none → w'.at' pending.staging = none))
      (fun _ => pending.At oldBytes newBytes current temporary backup journaled exchanged published)
      w := by
  induction names generalizing w with
  | nil => exact Safely.pure ⟨h, by simp⟩
  | cons name names ih =>
    rw [cleanupOrphans]
    cases hstrip : stripPrefix (".reauth-" ++ (pending.profile.id ++ "-")) name with
    | none =>
      -- the entry is not a staging tree of this profile
      refine Safely.mono (ih h) (fun _ w' hw => ⟨hw.1, ?_⟩) fun _ _ h => h
      have hne : pending.stagingName ≠ name := by
        rintro rfl
        have hsome : stripPrefix (".reauth-" ++ (pending.profile.id ++ "-")) pending.stagingName =
            some pending.transactionId := by
          rw [stripPrefix_eq_some]
          simp [stagingName, reauthStagingName, String.append_assoc]
        rw [hsome] at hstrip
        cases hstrip
      simpa [hne] using hw.2
    | some transactionId =>
      rw [stripPrefix_eq_some, String.append_assoc, String.append_assoc] at hstrip
      subst hstrip
      refine Safely.bind ((ReadOnly.check _).safely h (fun _ => ?_) fun _ => h)
      -- the removal keeps the places, and a staging tree that is gone stays so
      have hremove := @safely_safeRemoveReauthStaging (fun w' =>
          pending.At oldBytes newBytes current temporary backup journaled exchanged published w' ∧
          (w.at' pending.staging = none → w'.at' pending.staging = none)) w pending.profile.provider
        (".reauth-" ++ (pending.profile.id ++ ("-" ++ transactionId))) pending.profile.id
        transactionId (fun w' p hw hp => ⟨hw.1.frame hid hp, fun hg => by
          rw [set_at, hw.2 hg, ite_self]⟩) ⟨h, id⟩
      refine Safely.bind (Safely.mono (hremove.weaken fun _ hw => hw.1) ?_ fun _ _ hw => hw.1)
      rintro _ w' ⟨⟨hat, hkeep⟩, hgone⟩
      refine Safely.mono (ih hat) (fun _ w'' hw => ⟨hw.1, fun hor => hw.2 ?_⟩) fun _ _ h => h
      rcases hor with hmem | hnone
      · rcases List.mem_cons.1 hmem with heq | hmem
        · exact .inr (by rw [staging, heq]; exact hgone)
        · exact .inl hmem
      · exact .inr (hkeep hnone)

theorem safely_cleanupOrphanReauthStaging (hid : validateProfileId pending.profile.id = .ok ())
    (h : pending.At oldBytes newBytes current temporary backup journaled exchanged published w) :
    Safely True alone
      (pending.At oldBytes newBytes current temporary backup journaled exchanged published)
      (cleanupOrphanReauthStaging pending.profile)
      (fun _ w' =>
        pending.At oldBytes newBytes current temporary backup journaled exchanged published w' ∧
          w'.at' pending.staging = none)
      (fun _ => pending.At oldBytes newBytes current temporary backup journaled exchanged published)
      w := by
  refine Safely.bind ((readOnly_verifyPrivateDirectory _).safely h (fun _ => ?_) fun _ => h)
  refine Safely.bind (Safely.list h (fun names hnames => ?_) fun _ => h)
  refine Safely.bind (Safely.mono (safely_cleanupOrphans hid h names) ?_ fun _ _ h => h)
  rintro _ w' ⟨hat, hgone⟩
  refine Safely.sync hat ⟨hat, hgone ?_⟩ fun _ => hat
  -- the listing is complete
  by_cases hmem : pending.stagingName ∈ names
  · exact .inl hmem
  · exact .inr (Option.not_isSome_iff_eq_none.1 fun hsome => hmem ((hnames.2 _).2 hsome))

/-- The last steps of a recovery, when only the staging tree and the journal are left. -/
theorem safely_closing (hid : validateProfileId pending.profile.id = .ok ()) {raw : List UInt8}
    {I : ProfileWorld → Prop}
    (h : pending.At oldBytes newBytes (some raw) none none true exchanged published w)
    (stage : ∀ journaled w,
      pending.At oldBytes newBytes (some raw) none none journaled exchanged published w →
        I w) :
    Safely True alone (I) (do
        removeReauthStagingIfPresent pending.profile.provider pending.stagingName pending.profile.id
          pending.transactionId
        attempt .sync .io
        removeExactPrivateFile (journalPath pending.profile) none
        attempt .sync .io)
      (fun _ w' => pending.At oldBytes newBytes (some raw) none none false exchanged published w' ∧
        w'.at' pending.staging = none) (fun _ => I) w := by
  have hremove := @safely_removeReauthStagingIfPresent
    (pending.At oldBytes newBytes (some raw) none none true exchanged published) w
    pending.profile.provider pending.stagingName pending.profile.id pending.transactionId
    (fun w' p hw hp => hw.frame hid hp) h
  refine Safely.bind (Safely.mono (hremove.weaken (stage true)) ?_ fun _ w' hw => stage true w' hw)
  rintro _ w' ⟨hat, hgone⟩
  have hst := stage true w' hat
  refine Safely.bind (Safely.sync hst ?_ fun _ => hst)
  have hjournal := hat.journal
  refine Safely.bind (safely_removeExactPrivateFile hst ?_ ?_ fun _ _ => hst)
  · intro hnone
    simp [hnone] at hjournal
  · intro _
    have hdrop := stage false _ hat.dropJournal
    refine ⟨hdrop, Safely.sync hdrop ⟨hat.dropJournal, ?_⟩ fun _ => hdrop⟩
    have hne : pending.staging ≠ journalPath pending.profile := by
      simp [staging, providerRoot, journalPath, Profile.directory]
    rw [set_at, if_neg hne]
    exact hgone

/-- The digest of a credential that is there. -/
theorem digests_bytes {path : Path} {raw : List UInt8} {digest : String}
    (hat : w.at' path = some (.file (.bytes raw) true)) (h : Digests w path digest) :
    digest = authDigest raw := by
  obtain ⟨content, hc, -, rfl⟩ := h
  rw [Holds, hat] at hc
  cases hc
  rfl

/-- A check on the digest of a credential that is there. -/
theorem safely_checkDigest {α : Type} {Q : α → ProfileWorld → Prop} {I : ProfileWorld → Prop}
    {E : ProfileError → ProfileWorld → Prop} {path : Path} {raw : List UInt8} {expected : String}
    {e : ProfileError} {rest : ProfileAttempt α} (hI : I w) (hE : ∀ e, E e w)
    (hat : w.at' path = some (.file (.bytes raw) true))
    (ok : authDigest raw = expected → Safely True alone I rest Q E w) :
    Safely True alone I (do
      let digest ← readPrivateDigest path
      check (rejectIf (digest ≠ expected) e)
      rest) Q E w := by
  refine Safely.bind (safely_readPrivateDigest hI ?_ fun _ => hE)
  intro digest hd
  rw [digests_bytes hat hd]
  refine Safely.bind (Safely.check ?_)
  by_cases heq : authDigest raw = expected
  · rw [rejectIf, if_neg (not_not.2 heq)]
    exact ok heq
  · rw [rejectIf, if_pos heq]
    exact hE e

/-- A temporary credential is removed, or is not there. -/
theorem safely_removeTemporary {α : Type} {Q : α → ProfileWorld → Prop} {raw : List UInt8}
    {rest : ProfileAttempt α} {temporary : Bool} {expected : Option String}
    {I : ProfileWorld → Prop}
    (h : pending.At oldBytes newBytes (some raw) (if temporary then some newBytes else none) none true
      exchanged published w)
    (stage : ∀ (temporary : Bool) w, pending.At oldBytes newBytes (some raw)
      (if temporary then some newBytes else none) none true exchanged published w →
        I w)
    (ok : ∀ w, pending.At oldBytes newBytes (some raw) none none true exchanged published w →
      Safely True alone I rest Q
        (fun _ => I) w) :
    Safely True alone I
      (removeExactPrivateFile pending.temporary expected >>= fun _ => rest) Q
      (fun _ => I) w := by
  have hst := stage temporary w h
  refine Safely.bind (safely_removeExactPrivateFile hst ?_ ?_ fun _ _ => hst)
  · intro hnone
    have htemp := h.temporary
    cases temporary with
    | true => simp [hnone] at htemp
    | false => exact ok w h
  · intro _
    have hdrop := h.dropTemporary
    exact ⟨stage false _ hdrop, ok _ hdrop⟩

/-- Before the exchange a recovery goes back. -/
theorem safely_rollback (hid : validateProfileId pending.profile.id = .ok ()) {temporary : Bool}
    (h : pending.At oldBytes newBytes (some oldBytes) (if temporary then some newBytes else none) none
      true False False w) :
    Safely True alone (pending.Stage oldBytes newBytes false)
      (rollbackUnpublishedReauth pending.profile (pending.journal oldBytes newBytes))
      (fun _ => pending.Recovered oldBytes newBytes false) (fun _ => pending.Stage oldBytes newBytes false) w := by
  have stage : ∀ (temporary : Bool) w, pending.At oldBytes newBytes (some oldBytes)
      (if temporary then some newBytes else none) none true False False w →
        pending.Stage oldBytes newBytes false w := fun temporary w hw => .before temporary true (by simp) hw
  refine safely_checkDigest (stage _ w h) (fun _ => stage _ w h) h.current fun _ => ?_
  refine safely_removeTemporary h stage fun w hw => ?_
  refine Safely.mono (safely_closing hid hw fun journaled w hw => .before false journaled (by simp) hw)
    (fun _ w' hw' => ?_) fun _ _ h => h
  exact ⟨hw'.2, by simpa using hw'.1⟩

/-- When the two credentials have one digest, a recovery before the exchange has nothing to undo. -/
theorem safely_finish_before (hid : validateProfileId pending.profile.id = .ok ()) {temporary : Bool}
    (h : pending.At oldBytes newBytes (some oldBytes) (if temporary then some newBytes else none) none
      true False False w) :
    Safely True alone (pending.Stage oldBytes newBytes false)
      (finishCommittedReauth pending.profile (pending.journal oldBytes newBytes))
      (fun _ => pending.Recovered oldBytes newBytes false) (fun _ => pending.Stage oldBytes newBytes false) w := by
  have stage : ∀ (temporary : Bool) w, pending.At oldBytes newBytes (some oldBytes)
      (if temporary then some newBytes else none) none true False False w →
        pending.Stage oldBytes newBytes false w := fun temporary w hw => .before temporary true (by simp) hw
  have hst := stage _ w h
  refine safely_checkDigest hst (fun _ => hst) h.current fun _ => ?_
  refine Safely.bind (safely_removeExactPrivateFile hst (fun _ => ?_) ?_ fun _ _ => hst)
  · refine safely_removeTemporary h stage fun w hw => ?_
    have hst := stage false w hw
    refine Safely.bind (Safely.sync hst ?_ fun _ => hst)
    refine Safely.mono (safely_closing hid hw fun journaled w hw => .before false journaled (by simp) hw)
      (fun _ w' hw' => ?_) fun _ _ h => h
    exact ⟨hw'.2, by simpa using hw'.1⟩
  · rintro ⟨content, hc, -⟩
    have hback := h.backup
    have hsome : w.at' pending.backup = some (.file content true) := hc
    simp [hsome] at hback

/-- After the new credential took its name, what is left is removed. -/
theorem safely_finish_after (hid : validateProfileId pending.profile.id = .ok ()) {backup : Bool}
    (h : pending.At oldBytes newBytes (some newBytes) none (if backup then some oldBytes else none) true
      True True w) :
    Safely True alone (pending.Stage oldBytes newBytes true)
      (finishCommittedReauth pending.profile (pending.journal oldBytes newBytes))
      (fun _ w => pending.At oldBytes newBytes (some newBytes) none none false True True w ∧
        w.at' pending.staging = none) (fun _ => pending.Stage oldBytes newBytes true) w := by
  have stage : ∀ (backup : Bool) w, pending.At oldBytes newBytes (some newBytes) none
      (if backup then some oldBytes else none) true True True w →
        pending.Stage oldBytes newBytes true w := fun backup w hw => .after backup true (by simp) hw
  have hst := stage _ w h
  have rest : ∀ w, pending.At oldBytes newBytes (some newBytes) none none true True True w →
      Safely True alone (pending.Stage oldBytes newBytes true) (do
        removeExactPrivateFile pending.temporary (some (authDigest newBytes))
        attempt .sync .io
        removeReauthStagingIfPresent pending.profile.provider pending.stagingName pending.profile.id
          pending.transactionId
        attempt .sync .io
        removeExactPrivateFile (journalPath pending.profile) none
        attempt .sync .io)
      (fun _ w => pending.At oldBytes newBytes (some newBytes) none none false True True w ∧
        w.at' pending.staging = none) (fun _ => pending.Stage oldBytes newBytes true) w := by
    intro w hw
    have hst := stage false w hw
    refine Safely.bind (safely_removeExactPrivateFile hst (fun _ => ?_) ?_ fun _ _ => hst)
    · refine Safely.bind (Safely.sync hst ?_ fun _ => hst)
      exact safely_closing hid hw fun journaled w hw => .after false journaled (by simp) hw
    · rintro ⟨content, hc, -⟩
      have htemp := hw.temporary
      have hsome : w.at' pending.temporary = some (.file content true) := hc
      simp [hsome] at htemp
  refine safely_checkDigest hst (fun _ => hst) h.current fun _ => ?_
  refine Safely.bind (safely_removeExactPrivateFile hst (fun hnone => ?_) ?_ fun _ _ => hst)
  · have hback := h.backup
    have hnone' : w.at' pending.backup = none := hnone
    cases backup with
    | true => simp [hnone'] at hback
    | false => exact rest w h
  · intro _
    exact ⟨stage false _ h.dropBackup, rest _ h.dropBackup⟩

/-- The digest of what is at a place. -/
theorem safely_optionalDigest {α : Type} {Q : α → ProfileWorld → Prop} {I : ProfileWorld → Prop}
    {E : ProfileError → ProfileWorld → Prop} {path : Path} {raw : Option (List UInt8)}
    {rest : Option String → ProfileAttempt α} (hI : I w) (hE : ∀ e, E e w)
    (hat : w.at' path = raw.map fun raw => .file (.bytes raw) true)
    (ok : Safely True alone I (rest (raw.map authDigest)) Q E w) :
    Safely True alone I (optionalPrivateDigest path >>= rest) Q E w := by
  refine Safely.bind (safely_optionalPrivateDigest hI ?_ ?_ fun _ => hE)
  · intro hnone
    cases raw with
    | none => exact ok
    | some raw => simp [hnone] at hat
  · intro digest hd
    cases raw with
    | none =>
      obtain ⟨content, hc, -⟩ := hd
      rw [Holds, hat] at hc
      cases hc
    | some raw =>
      rw [digests_bytes hat hd]
      exact ok

/-- Before the exchange a recovery ends with the old credential. -/
theorem safely_recoverJournaled_before (hid : validateProfileId pending.profile.id = .ok ())
    {temporary : Bool}
    (h : pending.At oldBytes newBytes (some oldBytes) (if temporary then some newBytes else none) none
      true False False w) :
    Safely True alone (pending.Stage oldBytes newBytes false)
      (recoverJournaledReauth pending.profile (pending.journal oldBytes newBytes))
      (fun _ => pending.Recovered oldBytes newBytes false) (fun _ => pending.Stage oldBytes newBytes false) w := by
  have hst : pending.Stage oldBytes newBytes false w := .before temporary true (by simp) h
  refine safely_optionalDigest hst (fun _ => hst) h.current ?_
  refine safely_optionalDigest hst (fun _ => hst) h.temporary ?_
  refine safely_optionalDigest hst (fun _ => hst) h.backup ?_
  refine Safely.bind ((ReadOnly.check _).safely hst (fun _ => ?_) fun _ => hst)
  generalize Option.map authDigest (if temporary = true then some newBytes else none) = digest
  split
  · exact safely_finish_before hid h
  split
  · exact safely_rollback hid h
  split
  · exact safely_rollback hid h
  split
  · rename_i hnone
    simp at hnone
  · exact Safely.throw hst

/-- Between the two renames a recovery makes the second one. -/
theorem safely_recoverJournaled_between (hid : validateProfileId pending.profile.id = .ok ())
    (h : pending.At oldBytes newBytes none (some newBytes) (some oldBytes) true True False w) :
    Safely True alone (pending.Stage oldBytes newBytes true)
      (recoverJournaledReauth pending.profile (pending.journal oldBytes newBytes))
      (fun _ => pending.Recovered oldBytes newBytes true) (fun _ => pending.Stage oldBytes newBytes true) w := by
  have hst : pending.Stage oldBytes newBytes true w := .between h
  refine safely_optionalDigest hst (fun _ => hst) h.current ?_
  refine safely_optionalDigest hst (fun _ => hst) h.temporary ?_
  refine safely_optionalDigest hst (fun _ => hst) h.backup ?_
  refine Safely.bind ((ReadOnly.check _).safely hst (fun _ => ?_) fun _ => hst)
  have hpub : pending.At oldBytes newBytes (some newBytes) none (if true then some oldBytes else none)
      true True True (w.move pending.temporary pending.currentAuth) := h.publishCredential
  have hst' : pending.Stage oldBytes newBytes true (w.move pending.temporary pending.currentAuth) :=
    .after true true (by simp) hpub
  split
  · rename_i hcur
    cases hcur
  split
  · rename_i hcur
    cases hcur.1
  split
  · rename_i hcur
    cases hcur.1
  split
  · refine Safely.bind (Safely.rename hst (fun _ => ⟨hst', ?_⟩) fun _ => hst)
    refine safely_checkDigest hst' (fun _ => hst') hpub.current fun _ => ?_
    refine Safely.bind (Safely.sync hst' ?_ fun _ => hst')
    refine Safely.mono (safely_finish_after hid hpub) (fun _ w hw => ?_) fun _ _ h => h
    exact ⟨hw.2, by simpa using hw.1⟩
  · exact Safely.throw hst

/-- After the second rename a recovery removes what is left. -/
theorem safely_recoverJournaled_after (hid : validateProfileId pending.profile.id = .ok ())
    {backup : Bool}
    (h : pending.At oldBytes newBytes (some newBytes) none (if backup then some oldBytes else none) true
      True True w) :
    Safely True alone (pending.Stage oldBytes newBytes true)
      (recoverJournaledReauth pending.profile (pending.journal oldBytes newBytes))
      (fun _ => pending.Recovered oldBytes newBytes true) (fun _ => pending.Stage oldBytes newBytes true) w := by
  have hst : pending.Stage oldBytes newBytes true w := .after backup true (by simp) h
  refine safely_optionalDigest hst (fun _ => hst) h.current ?_
  refine safely_optionalDigest hst (fun _ => hst) h.temporary ?_
  refine safely_optionalDigest hst (fun _ => hst) h.backup ?_
  refine Safely.bind ((ReadOnly.check _).safely hst (fun _ => ?_) fun _ => hst)
  split
  · refine Safely.mono (safely_finish_after hid h) (fun _ w hw => ?_) fun _ _ h => h
    exact ⟨hw.2, by simpa using hw.1⟩
  · rename_i hne
    exact absurd rfl hne

omit [Sha256] in
theorem safely_readReauthJournal {α : Type} {Q : α → ProfileWorld → Prop}
    {I : ProfileWorld → Prop} {E : ProfileError → ProfileWorld → Prop} {path : Path}
    {journal : ReauthJournal} {rest : ReauthJournal → ProfileAttempt α} (hI : I w) (hE : ∀ e, E e w)
    (hat : w.at' path = some (.file (.journal journal true) true))
    (ok : Safely True alone I (rest journal) Q E w) :
    Safely True alone I (readReauthJournal path >>= rest) Q E w := by
  refine Safely.bind (Safely.bind ?_)
  refine safely_mapErr (safely_readPrivate hI (fun content hc => ?_) fun _ _ => hE _)
  rw [Holds, hat] at hc
  cases hc
  refine Safely.bind ((ReadOnly.check _).safely hI (fun _ => ?_) hE)
  refine Safely.bind ((ReadOnly.check _).safely hI (fun _ => ?_) hE)
  exact Safely.pure ok

/-- A recovery cleans up orphans when there is no journal and follows the journal when there is
one. -/
theorem safely_recover_of [ProviderFiles] (oldBytes newBytes : List UInt8)
    {I : ProfileWorld → Prop} {Q : Unit → ProfileWorld → Prop} (hI : I w)
    (orphans : w.at' (journalPath pending.profile) = none →
      Safely True alone I (cleanupOrphanReauthStaging pending.profile) Q (fun _ => I) w)
    (journaled : (w.at' (journalPath pending.profile)).isSome →
      w.at' (journalPath pending.profile) =
        some (.file (.journal (pending.journal oldBytes newBytes) true) true) ∧
      Safely True alone I (recoverJournaledReauth pending.profile (pending.journal oldBytes newBytes))
        Q (fun _ => I) w) :
    Safely True alone I (recoverReauthUnderLease pending.profile) Q (fun _ => I) w := by
  refine Safely.bind (Safely.stat hI ?_ fun _ => hI)
  cases hjournal : w.at' (journalPath pending.profile) with
  | none => exact orphans hjournal
  | some node =>
    obtain ⟨hat, hrecover⟩ := journaled (by simp [hjournal])
    refine safely_readReauthJournal hI (fun _ => hI) hat ?_
    refine Safely.bind ((ReadOnly.check _).safely hI (fun _ => ?_) fun _ => hI)
    refine Safely.bind ((readOnly_mapErr (readOnly_verifyPrivateDirectory _) _).safely hI
      (fun _ => ?_) fun _ => hI)
    have hpaths := Safely.bind (f := fun _ => recoverJournaledReauth pending.profile
      (pending.journal oldBytes newBytes))
      ((ReadOnly.check (validateJournalPaths (pending.journal oldBytes newBytes))).safely hI
        (fun _ => hrecover) fun _ => hI)
    cases pending.profile.provider with
    | claude => exact hpaths
    | codex =>
      exact Safely.bind ((readOnly_mapErr (readOnly_verifyManagedCodexConfig _) _).safely hI
        (fun _ => hpaths) fun _ => hI)

/-- A recovery stays on its side of the exchange and ends with everything but the credential gone. -/
theorem safely_recover [ProviderFiles] (hid : validateProfileId pending.profile.id = .ok ())
    {began : Bool} (hst : pending.Stage oldBytes newBytes began w) :
    Safely True alone (pending.Stage oldBytes newBytes began)
      (recoverReauthUnderLease pending.profile) (fun _ => pending.Recovered oldBytes newBytes began)
      (fun _ => pending.Stage oldBytes newBytes began) w := by
  refine safely_recover_of oldBytes newBytes hst ?_ ?_
  · -- only the staging tree can be left
    intro hnone
    cases hst with
    | before temporary journaled himp hw =>
      have hj := hw.journal
      match temporary, journaled, himp with
      | true, true, _ | false, true, _ => simp [hnone] at hj
      | true, false, himp => simp at himp
      | false, false, himp =>
        refine Safely.mono ((safely_cleanupOrphanReauthStaging hid hw).weaken fun w hw => ?_)
          (fun _ w hw => ⟨hw.2, by simpa using hw.1⟩) fun _ w hw => ?_
        · exact .before false false himp hw
        · exact .before false false himp hw
    | between hw => simp [hw.journal] at hnone
    | after backup journaled himp hw =>
      have hj := hw.journal
      match backup, journaled, himp with
      | true, true, _ | false, true, _ => simp [hnone] at hj
      | true, false, himp => simp at himp
      | false, false, himp =>
        refine Safely.mono ((safely_cleanupOrphanReauthStaging hid hw).weaken fun w hw => ?_)
          (fun _ w hw => ⟨hw.2, by simpa using hw.1⟩) fun _ w hw => ?_
        · exact .after false false himp hw
        · exact .after false false himp hw
  · intro hsome
    cases hst with
    | before temporary journaled _ hw =>
      cases journaled with
      | true => exact ⟨hw.journal, safely_recoverJournaled_before hid hw⟩
      | false => simp [hw.journal] at hsome
    | between hw => exact ⟨hw.journal, safely_recoverJournaled_between hid hw⟩
    | after backup journaled _ hw =>
      cases journaled with
      | true => exact ⟨hw.journal, safely_recoverJournaled_after hid hw⟩
      | false => simp [hw.journal] at hsome

/-! ## The commit -/

omit [Sha256] in
theorem staging_append (file : String) : pending.staging ++ [file] =
    providerRoot pending.profile.provider ++
      ["." ++ ("reauth-" ++ (pending.profile.id ++ ("-" ++ pending.transactionId))), file] := by
  simp [staging, stagingName, reauthStagingName, dotted_reauth]

omit [Sha256] in
theorem apart_staging (hid : validateProfileId pending.profile.id = .ok ()) (file : String) :
    pending.Apart (pending.staging ++ [file]) := by
  have hprefix : providerRoot pending.profile.provider ++
      ["." ++ ("reauth-" ++ (pending.profile.id ++ ("-" ++ pending.transactionId)))] <+:
        pending.staging ++ [file] := by
    rw [staging_append]
    simp
  exact apart_of_dotted hid hprefix

theorem Stage.frame (hid : validateProfileId pending.profile.id = .ok ()) {path : Path}
    {began : Bool} (h : pending.Stage oldBytes newBytes began w) (hp : pending.staging <+: path) :
    pending.Stage oldBytes newBytes began (w.set path none) := by
  rw [staging, stagingName, reauthStagingName, dotted_reauth] at hp
  exact h.set (apart_of_dotted hid hp)

/-- Some stage of the transaction. -/
def Staged (pending : PendingReauth) (oldBytes newBytes : List UInt8) (w : ProfileWorld) : Prop :=
  ∃ began, pending.Stage oldBytes newBytes began w

/-- The journal is published, or nothing of it is visible to a recovery. -/
theorem safely_publishReauthJournal (hid : validateProfileId pending.profile.id = .ok ())
    (h : pending.At oldBytes newBytes (some oldBytes) none none false False False w) :
    Safely True alone (pending.Staged oldBytes newBytes)
      (publishReauthJournal pending.profile pending.staging (pending.journal oldBytes newBytes))
      (fun _ => pending.At oldBytes newBytes (some oldBytes) none none true False False)
      (fun _ => pending.Staged oldBytes newBytes) w := by
  have stage : ∀ {w}, pending.At oldBytes newBytes (some oldBytes) none none false False False w →
      pending.Staged oldBytes newBytes w := fun hw => ⟨false, .before false false id hw⟩
  refine Safely.bind ((ReadOnly.check _).safely (stage h) (fun _ => ?_) fun _ => stage h)
  refine Safely.bind (safely_ensurePathAbsent (stage h) (fun _ => ?_) fun _ _ => stage h)
  refine Safely.bind (safely_ensurePathAbsent (stage h) (fun _ => ?_) fun _ _ => stage h)
  have hwrite := @safely_writeReauthPrivateFile
    (pending.At oldBytes newBytes (some oldBytes) none none false False False) w
    (pending.staging ++ ["." ++ (reauthJournalFile ++ ("." ++ (pending.transactionId ++ ".tmp")))])
    (.journal (pending.journal oldBytes newBytes) true)
    (fun w node hw => hw.set (apart_staging hid _)) h
  refine Safely.bind (Safely.mono (hwrite.weaken fun _ => stage) ?_ fun _ _ => stage)
  rintro _ w ⟨hat, hfile⟩
  have hpub := At.publishJournal hid hat (by rw [← staging_append]; exact hfile)
  have hst : pending.Staged oldBytes newBytes _ := ⟨false, .before false true (by simp) hpub⟩
  rw [← staging_append] at hpub hst
  refine Safely.bind (Safely.onError (Safely.rename (stage hat) (fun _ => ⟨hst, ?_⟩) fun _ => ?_))
  · refine Safely.bind (Safely.sync hst ?_ fun _ => hst)
    exact Safely.sync hst hpub fun _ => hst
  · refine Safely.remove (stage hat) (fun _ _ => ?_) fun _ => stage hat
    exact ⟨stage (hat.set (apart_staging hid _)), stage (hat.set (apart_staging hid _))⟩

/-- A commit begins with the old credential in place, the new one staged and no trace of the
transaction. -/
structure Begun (pending : PendingReauth) (oldBytes newBytes : List UInt8) (w : ProfileWorld) :
    Prop where
  places : pending.At oldBytes newBytes (some oldBytes) none none false False False w
  staged : w.at' (pending.home ++ [pending.credential]) = some (.file (.bytes newBytes) true)

theorem safely_prepareCommit [ProviderFiles] (hid : validateProfileId pending.profile.id = .ok ())
    (h : pending.Begun oldBytes newBytes w) :
    Safely True alone (pending.Staged oldBytes newBytes) pending.prepareCommit
      (fun r w => r = (pending.journal oldBytes newBytes, newBytes) ∧
        pending.At oldBytes newBytes (some oldBytes) none none true False False w)
      (fun _ => pending.Staged oldBytes newBytes) w := by
  have hst : pending.Staged oldBytes newBytes w := ⟨false, .before false false id h.places⟩
  refine Safely.bind ((readOnly_profileHome _).safely hst (fun _ => ?_) fun _ => hst)
  refine Safely.bind (safely_readPrivateBounded hst (fun content hc _ => ?_) fun _ _ => hst)
  rw [Holds, h.places.current] at hc
  cases hc
  refine Safely.bind (safely_readPrivateBounded hst (fun content hc _ => ?_) fun _ _ => hst)
  rw [Holds, h.staged] at hc
  cases hc
  refine Safely.bind (safely_ensurePathAbsent hst (fun _ => ?_) fun _ _ => hst)
  refine Safely.bind (safely_ensurePathAbsent hst (fun _ => ?_) fun _ _ => hst)
  refine Safely.bind (safely_ensurePathAbsent hst (fun _ => ?_) fun _ _ => hst)
  refine Safely.bind (Safely.mono (safely_publishReauthJournal hid h.places) ?_ fun _ _ h => h)
  exact fun _ w hw => Safely.pure ⟨rfl, hw⟩

theorem safely_exchangeCredentials (hid : validateProfileId pending.profile.id = .ok ())
    (h : pending.At oldBytes newBytes (some oldBytes) none none true False False w) :
    Safely True alone (pending.Staged oldBytes newBytes)
      (pending.exchangeCredentials (pending.journal oldBytes newBytes) newBytes)
      (fun _ w => pending.At oldBytes newBytes (some newBytes) none none false True True w ∧
        w.at' pending.staging = none) (fun _ => pending.Staged oldBytes newBytes) w := by
  have journaled : ∀ {w}, pending.At oldBytes newBytes (some oldBytes) none none true False False w →
      pending.Staged oldBytes newBytes w := fun hw => ⟨false, .before false true (by simp) hw⟩
  have hwrite := @safely_writeReauthPrivateFile
    (pending.At oldBytes newBytes (some oldBytes) none none true False False) w
    pending.stagingTemporary (.bytes newBytes) (fun w node hw => hw.set (apart_staging hid _)) h
  refine Safely.bind (Safely.mono (hwrite.weaken fun _ => journaled) ?_ fun _ _ => journaled)
  rintro _ w ⟨hat, hfile⟩
  -- the new credential gets its temporary name
  have hready := At.stageCredential hid hat (by rw [← staging_append]; exact hfile)
  rw [← staging_append] at hready
  have hst : pending.Staged oldBytes newBytes _ := ⟨false, .before true true id hready⟩
  refine Safely.bind (Safely.rename (journaled hat) (fun _ => ⟨hst, ?_⟩) fun _ => journaled hat)
  refine Safely.bind (Safely.sync hst ?_ fun _ => hst)
  refine safely_checkDigest hst (fun _ => hst) hready.temporary fun _ => ?_
  refine safely_checkDigest hst (fun _ => hst) hready.current fun _ => ?_
  -- the two renames
  have hbetween := hready.exchange
  have hst' : pending.Staged oldBytes newBytes _ := ⟨true, .between hbetween⟩
  refine Safely.bind (Safely.rename hst (fun _ => ⟨hst', ?_⟩) fun _ => hst)
  have hafter : pending.At oldBytes newBytes (some newBytes) none
      (if true then some oldBytes else none) true True True _ := hbetween.publishCredential
  have hst'' : pending.Staged oldBytes newBytes _ := ⟨true, .after true true id hafter⟩
  refine Safely.bind (Safely.rename hst' (fun _ => ⟨hst'', ?_⟩) fun _ => hst')
  refine safely_checkDigest hst'' (fun _ => hst'') hafter.current fun _ => ?_
  refine Safely.bind (Safely.sync hst'' ?_ fun _ => hst'')
  refine safely_mapErr (Safely.mono ((safely_finish_after hid hafter).weaken ?_) (fun _ _ h => h) ?_)
  · exact fun w hw => ⟨true, hw⟩
  · exact fun _ w hw => ⟨true, hw⟩

theorem safely_commit [ProviderFiles] (hid : validateProfileId pending.profile.id = .ok ())
    (h : pending.Begun oldBytes newBytes w) :
    Safely True alone (pending.Staged oldBytes newBytes) pending.commitCredential
      (fun _ w => pending.At oldBytes newBytes (some newBytes) none none false True True w ∧
        w.at' pending.staging = none) (fun _ => pending.Staged oldBytes newBytes) w := by
  refine Safely.bind (Safely.onError (Safely.mono (safely_prepareCommit hid h) ?_ ?_))
  · rintro _ w ⟨rfl, hat⟩
    refine Safely.bind (Safely.mono (safely_exchangeCredentials hid hat) ?_ fun _ _ h => h)
    exact fun _ w hw => Safely.pure hw
  · intro e w hst
    refine Safely.mono (safely_safeRemoveReauthStaging ?_ hst) (fun _ _ hw => hw.1) fun _ _ hw => hw
    exact fun w p hw hp => hw.imp fun _ hw => hw.frame hid hp

/-! ## Runs -/

theorem Stage.exit {began : Bool} (h : pending.Stage oldBytes newBytes began w) :
    pending.Stage oldBytes newBytes began ((surroundings True alone).Exit w) := by
  cases h with
  | before temporary journaled h hw =>
    exact .before temporary journaled h ⟨hw.1, hw.2, hw.3, hw.4, hw.5, hw.6⟩
  | between hw => exact .between ⟨hw.1, hw.2, hw.3, hw.4, hw.5, hw.6⟩
  | after backup journaled h hw =>
    exact .after backup journaled h ⟨hw.1, hw.2, hw.3, hw.4, hw.5, hw.6⟩

/-- Whether the exchange began can be read off the renames. -/
theorem Stage.began_iff {began : Bool} (h : pending.Stage oldBytes newBytes began w) :
    (pending.currentAuth, pending.backup) ∈ w.renames ↔ began := by
  cases h with
  | before temporary journaled _ hw => simp [hw.exchanged]
  | between hw => simp [hw.exchanged]
  | after backup journaled _ hw => simp [hw.exchanged]

/-- In every stage one of the credentials is somewhere. -/
theorem Stage.present {began : Bool} (h : pending.Stage oldBytes newBytes began w) :
    ∃ path ∈ [pending.currentAuth, pending.backup, pending.temporary],
      ∃ raw ∈ [oldBytes, newBytes], Holds w path (.bytes raw) := by
  cases h with
  | before temporary journaled _ hw =>
    exact ⟨pending.currentAuth, by simp, oldBytes, by simp, hw.current⟩
  | between hw => exact ⟨pending.backup, by simp, oldBytes, by simp, hw.backup⟩
  | after backup journaled _ hw =>
    exact ⟨pending.currentAuth, by simp, newBytes, by simp, hw.current⟩

/-- A new credential that has taken its name is the credential. -/
theorem Stage.credential_new {began : Bool} (h : pending.Stage oldBytes newBytes began w)
    (hpub : (pending.temporary, pending.currentAuth) ∈ w.renames) :
    Holds w pending.currentAuth (.bytes newBytes) := by
  cases h with
  | before temporary journaled _ hw => exact absurd (hw.published.1 hpub) id
  | between hw => exact absurd (hw.published.1 hpub) id
  | after backup journaled _ hw => exact hw.current

/-- The new credential is visible only once it has taken its name, unless it is the old one. -/
theorem Stage.visible {began : Bool} (h : pending.Stage oldBytes newBytes began w)
    (hne : oldBytes ≠ newBytes) (hnew : Holds w pending.currentAuth (.bytes newBytes)) :
    (pending.temporary, pending.currentAuth) ∈ w.renames := by
  cases h with
  | before temporary journaled _ hw =>
    rw [Holds, hw.current] at hnew
    simp [hne] at hnew
  | between hw =>
    rw [Holds, hw.current] at hnew
    cases hnew
  | after backup journaled _ hw => exact hw.published.2 trivial

end PendingReauth

open PendingReauth in
/-- A commit stops anywhere, and any number of recoveries stop anywhere after it. At every moment
one of the two credentials is under the home of the profile. A recovery that succeeds leaves the old
one if the commit had not yet renamed it to the backup and the new one if it had, and nothing else of
the transaction. The new one is visible only once it was renamed to the name of the credential, and
from then on it is the credential. -/
theorem reauth_keeps_credentials [Sha256] [ProviderFiles] (pending : PendingReauth)
    (oldBytes newBytes : List UInt8) (hid : validateProfileId pending.profile.id = .ok ())
    {w₀ w₁ w : ProfileWorld} (begun : pending.Begun oldBytes newBytes w₀)
    (commit : Program.Stops (surroundings True alone) w₀ pending.commitCredential.run w₁)
    {running : Option (FileProgram Node ProfileLock (Except ProfileError Unit))}
    (recoveries : Program.Reach (surroundings True alone)
      (· = (recoverReauthUnderLease pending.profile).run) w₁ w running) :
    (∃ path ∈ [pending.currentAuth, pending.backup, pending.temporary],
      ∃ raw ∈ [oldBytes, newBytes], Holds w path (.bytes raw)) ∧
    (running = some (.done (.ok ())) →
      Holds w pending.currentAuth (.bytes
        (if (pending.currentAuth, pending.backup) ∈ w₁.renames then newBytes else oldBytes)) ∧
      w.at' (journalPath pending.profile) = none ∧ w.at' pending.backup = none ∧
      w.at' pending.temporary = none ∧ w.at' pending.staging = none) ∧
    (oldBytes ≠ newBytes → Holds w pending.currentAuth (.bytes newBytes) →
      (pending.temporary, pending.currentAuth) ∈ w.renames) ∧
    ((pending.temporary, pending.currentAuth) ∈ w.renames →
      Holds w pending.currentAuth (.bytes newBytes)) := by
  have hstaged : pending.Staged oldBytes newBytes w₁ :=
    commit.invariant ⟨false, .before false false id begun.places⟩ (safely_commit hid begun)
  obtain ⟨began, hst₁⟩ := hstaged
  have stable : (surroundings True alone).Stable (pending.Stage oldBytes newBytes began) :=
    fun _ _ _ henv => absurd henv id
  have safe : ∀ p, p = (recoverReauthUnderLease pending.profile).run → ∀ w,
      pending.Stage oldBytes newBytes began w →
      Program.Safe (surroundings True alone) (pending.Stage oldBytes newBytes began) p
        (Ends (fun _ => pending.Recovered oldBytes newBytes began)
          (fun _ => pending.Stage oldBytes newBytes began)) w := by
    rintro _ rfl w hst
    exact safely_recover hid hst
  have hst := (recoveries.safe hst₁ stable (fun _ => Stage.exit) safe).1
  refine ⟨hst.present, ?_, hst.visible, hst.credential_new⟩
  rintro rfl
  obtain ⟨hgone, hat⟩ := recoveries.result hst₁ stable (fun _ => Stage.exit) safe
    fun _ _ _ henv => absurd henv id
  refine ⟨?_, hat.journal, hat.backup, hat.temporary, hgone⟩
  simpa [Holds, hst₁.began_iff] using hat.current

section Sample

def samplePending : PendingReauth where
  profile :=
    { id := "00000000-0000-4000-8000-000000000001", aliasName := "work", provider := .codex
      createdAt := 0 }
  transactionId := "00000000-0000-4000-8000-000000000002"

/-- A staged login of one profile. -/
def sampleStaged : ProfileWorld where
  at' path := ([
    ([], .directory true), (["profiles"], .directory true),
    (["profiles", "codex"], .directory true),
    (samplePending.profile.directory, .directory true),
    (samplePending.profile.directory ++ [ownerMarker],
      .file (.bytes (bytes samplePending.profile.id)) true),
    (samplePending.profile.home, .directory true),
    (samplePending.profile.home ++ ["config.toml"], .file (.bytes []) true),
    (samplePending.currentAuth, .file (.bytes [1]) true),
    (samplePending.staging, .directory true),
    (samplePending.staging ++ [ownerMarker], .file (.bytes (bytes samplePending.profile.id)) true),
    (samplePending.home, .directory true),
    (samplePending.home ++ ["config.toml"], .file (.bytes []) true),
    (samplePending.home ++ ["auth.json"], .file (.bytes [2]) true)] : List (Path × Node)).lookup path
  renames := []
  locks _ := false

/-- SHA-256 as far as the sample needs it: the digests of the two credentials. -/
@[reducible] def credentialSha256 : Sha256 where
  digest raw :=
    if raw = [1] then
      [75, 245, 18, 47, 52, 69, 84, 197, 59, 222, 46, 187, 140, 210, 183, 227,
        209, 96, 10, 214, 49, 195, 133, 165, 215, 204, 226, 60, 119, 133, 69, 154]
    else
      [219, 193, 180, 201, 0, 255, 228, 141, 87, 91, 93, 165, 198, 56, 4, 1,
        37, 246, 93, 176, 254, 62, 36, 73, 75, 118, 234, 152, 100, 87, 217, 134]
  length_digest raw := by
    split <;> rfl

@[reducible] def sampleProviderFiles : ProviderFiles where
  managedCodexConfig _ := true
  linuxCredentials _ := true

attribute [local instance] credentialSha256 sampleProviderFiles

theorem begun_sampleStaged : samplePending.Begun [1] [2] sampleStaged where
  places := ⟨by decide +kernel, by decide +kernel, by decide +kernel, by decide +kernel,
    by simp [sampleStaged], by simp [sampleStaged]⟩
  staged := by decide +kernel

/-- A commit that stops at once, and a recovery that has looked for a journal. -/
theorem reauth_keeps_credentials_looking :
    ∃ path ∈ [samplePending.currentAuth, samplePending.backup, samplePending.temporary],
      ∃ raw ∈ [[1], [2]], Holds sampleStaged path (.bytes raw) :=
  have stat : (surroundings True alone).Exec sampleStaged (.stat (journalPath samplePending.profile))
      (some (sampleStaged.at' (journalPath samplePending.profile))) sampleStaged := .ok (.stat _)
  (reauth_keeps_credentials samplePending [1] [2] (by decide +kernel) begun_sampleStaged (.here _ _)
    (.exec _ stat (.enter _ rfl .start))).1

end Sample

end Calcifer.Profiles
