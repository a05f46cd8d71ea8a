import Calcifer.Library.Files
import Calcifer.Profiles.Document

/-!
# Private files

The nodes of the managed tree, the checks on them and the removal of a tree entry by entry. A node
is private when the user owns it, nobody else has access to it and, for a file, it has one link.
-/

namespace Calcifer.Profiles

open Checks Text Files

def maxReauthAuthBytes : ℕ := 1024 * 1024
def maxReauthTreeEntries : ℕ := 10000
def maxRemovalTreeDepth : ℕ := 128

structure ReauthJournal where
  schemaVersion : ℕ
  provider : Provider
  credentialName : String
  profileId : String
  transactionId : String
  stagingName : String
  temporaryName : String
  backupName : String
  oldAuthDigest : String
  newAuthDigest : String
deriving DecidableEq, Repr

def ReauthJournal.toVec (journal : ReauthJournal) : List UInt8 :=
  Json.compact (.obj [("schema_version", .int journal.schemaVersion),
    ("provider", journal.provider.toJson), ("credential_name", .str journal.credentialName),
    ("profile_id", .str journal.profileId), ("transaction_id", .str journal.transactionId),
    ("staging_name", .str journal.stagingName), ("temporary_name", .str journal.temporaryName),
    ("backup_name", .str journal.backupName), ("old_auth_digest", .str journal.oldAuthDigest),
    ("new_auth_digest", .str journal.newAuthDigest)])

/-- What a file holds: plain bytes, a journal, with whether its text spells out the provider and the
credential name, or the registry. -/
inductive Content where
  | bytes (raw : List UInt8)
  | journal (journal : ReauthJournal) (explicitProviderFields : Bool)
  | registry (document : RegistryDocument)
deriving DecidableEq

/-- The bytes of a file. -/
def Content.raw : Content → List UInt8
  | .bytes raw => raw
  | .journal j _ => j.toVec
  | .registry d => d.toJson.pretty 0

/-- What is at a path of the managed tree. -/
inductive Node where
  | directory (isPrivate : Bool)
  | file (content : Content) (isPrivate : Bool)
  | other
deriving DecidableEq

/-- The locks of the managed tree. A profile lease is both locks of a profile. -/
inductive ProfileLock where
  | lease (id : String)
deriving DecidableEq

abbrev ProfileWorld : Type := FileWorld Node ProfileLock

abbrev ProfileAttempt : Type → Type := Attempt Node ProfileLock ProfileError

/-! ## Checks -/

def verifyPrivateDirectory (path : Path) : ProfileAttempt Unit := do
  match ← attempt (.read path) .io with
  | .directory true => pure ()
  | _ => throw (.unsafeState "managed directory type, owner, or mode is unsafe")

/-- Verify a private file with a single link. -/
def verifyPrivateSingleLinkRegularFile (path : Path) : ProfileAttempt Unit := do
  match ← attempt (.read path) .io with
  | .file _ true => pure ()
  | _ => throw (.unsafeState "managed file type, owner, link count, or mode is unsafe")

/-- The content of a private file. -/
def readPrivate (path : Path) : ProfileAttempt Content := do
  verifyPrivateSingleLinkRegularFile path
  match ← attempt (.read path) .io with
  | .file content _ => pure content
  | _ => throw .io

def readPrivateBounded (path : Path) (maximum : ℕ) : ProfileAttempt (List UInt8) := do
  let content ← readPrivate path
  check (rejectIf (content.raw.length > maximum)
    (.unsafeState "managed credential exceeds the supported size limit"))
  pure content.raw

def ensurePathAbsent (path : Path) : ProfileAttempt Unit := do
  match ← attempt (.stat path) .io with
  | none => pure ()
  | some _ => throw .reauthRecoveryRequired

/-- Replace the error of an attempt. -/
def mapErr {α : Type} (x : ProfileAttempt α) (f : ProfileError → ProfileError) : ProfileAttempt α :=
  ExceptT.mk (x.run >>= fun r => .done (r.mapError f))

section Digests

variable [Sha256]

def authDigest (raw : List UInt8) : String := sha256Hex raw

def readPrivateDigest (path : Path) : ProfileAttempt String := do
  pure (authDigest (← readPrivateBounded path maxReauthAuthBytes))

def optionalPrivateDigest (path : Path) : ProfileAttempt (Option String) := do
  match ← attempt (.stat path) .io with
  | none => pure none
  | some _ => some <$> readPrivateDigest path

/-- Remove a private file, if it is there, when it has the expected digest. -/
def removeExactPrivateFile (path : Path) (expectedDigest : Option String) : ProfileAttempt Unit := do
  match ← attempt (.stat path) .io with
  | none => pure ()
  | some _ =>
    mapErr (verifyPrivateSingleLinkRegularFile path) fun _ => .reauthRecoveryRequired
    match expectedDigest with
    | none => pure ()
    | some expected =>
      let digest ← readPrivateDigest path
      check (rejectIf (digest ≠ expected) .reauthRecoveryRequired)
    attempt (.remove path) .io

end Digests

/-! ## Rules for the checks -/

section Rules

variable {faults : Prop} {I : ProfileWorld → Prop} {E : ProfileError → ProfileWorld → Prop}
  {w : ProfileWorld} {path : Path}

/-- A private file with a given content is at a path. -/
def Holds (w : ProfileWorld) (path : Path) (content : Content) : Prop :=
  w.at' path = some (.file content true)

theorem safely_verifyPrivateDirectory {Q : Unit → ProfileWorld → Prop} (hI : I w)
    (ok : w.at' path = some (.directory true) → Q () w)
    (failed : faults ∨ w.at' path ≠ some (.directory true) → ∀ e, E e w) :
    Safely faults alone I (verifyPrivateDirectory path) Q E w := by
  refine Safely.bind (Safely.read hI ?_ ?_)
  · intro node hnode
    match node, hnode with
    | .directory true, hnode => exact Safely.pure (ok hnode)
    | .directory false, hnode => exact Safely.throw (failed (.inr (by simp [hnode])) _)
    | .file _ _, hnode => exact Safely.throw (failed (.inr (by simp [hnode])) _)
    | .other, hnode => exact Safely.throw (failed (.inr (by simp [hnode])) _)
  · rintro (hf | hn)
    · exact failed (.inl hf) _
    · exact failed (.inr (by simp [hn])) _

theorem safely_verifyPrivateSingleLinkRegularFile {Q : Unit → ProfileWorld → Prop} (hI : I w)
    (ok : (∃ content, Holds w path content) → Q () w)
    (failed : faults ∨ (∀ content, ¬ Holds w path content) → ∀ e, E e w) :
    Safely faults alone I (verifyPrivateSingleLinkRegularFile path) Q E w := by
  refine Safely.bind (Safely.read hI ?_ ?_)
  · intro node hnode
    match node, hnode with
    | .file _ true, hnode => exact Safely.pure (ok ⟨_, hnode⟩)
    | .file _ false, hnode => exact Safely.throw (failed (.inr fun c => by simp [Holds, hnode]) _)
    | .directory _, hnode => exact Safely.throw (failed (.inr fun c => by simp [Holds, hnode]) _)
    | .other, hnode => exact Safely.throw (failed (.inr fun c => by simp [Holds, hnode]) _)
  · rintro (hf | hn)
    · exact failed (.inl hf) _
    · exact failed (.inr fun content => by simp [Holds, hn]) _

theorem safely_readPrivate {Q : Content → ProfileWorld → Prop} (hI : I w)
    (ok : ∀ content, Holds w path content → Q content w)
    (failed : faults ∨ (∀ content, ¬ Holds w path content) → ∀ e, E e w) :
    Safely faults alone I (readPrivate path) Q E w := by
  refine Safely.bind (safely_verifyPrivateSingleLinkRegularFile hI ?_ failed)
  rintro ⟨content, hc⟩
  refine Safely.bind (Safely.read hI ?_ ?_)
  · intro node hnode
    rw [hc, Option.some.injEq] at hnode
    subst hnode
    exact Safely.pure (ok content hc)
  · rintro (hf | hn)
    · exact failed (.inl hf) _
    · rw [hc] at hn
      cases hn

theorem safely_readPrivateBounded {Q : List UInt8 → ProfileWorld → Prop} {maximum : ℕ} (hI : I w)
    (ok : ∀ content, Holds w path content → content.raw.length ≤ maximum → Q content.raw w)
    (failed : faults ∨ (∀ content, Holds w path content → maximum < content.raw.length) →
      ∀ e, E e w) :
    Safely faults alone I (readPrivateBounded path maximum) Q E w := by
  refine Safely.bind (safely_readPrivate hI ?_ ?_)
  · intro content hc
    by_cases hlen : content.raw.length > maximum
    · refine Safely.bind (Safely.check ?_)
      rw [rejectIf, if_pos hlen]
      refine failed (.inr fun c h => ?_) _
      rw [Holds, hc] at h
      cases h
      exact hlen
    · refine Safely.bind (Safely.check ?_)
      rw [rejectIf, if_neg hlen]
      exact Safely.pure (ok content hc (by omega))
  · rintro (hf | hn)
    · exact failed (.inl hf)
    · exact failed (.inr fun c h => absurd h (hn c))

theorem safely_ensurePathAbsent {Q : Unit → ProfileWorld → Prop} (hI : I w)
    (ok : w.at' path = none → Q () w) (failed : faults ∨ (w.at' path).isSome → ∀ e, E e w) :
    Safely faults alone I (ensurePathAbsent path) Q E w := by
  refine Safely.bind (Safely.stat hI ?_ fun hf => failed (.inl hf) _)
  cases hnode : w.at' path with
  | none => exact Safely.pure (ok hnode)
  | some node => exact Safely.throw (failed (.inr (by simp [hnode])) _)

theorem safely_mapErr {α : Type} {x : ProfileAttempt α} {f : ProfileError → ProfileError}
    {Q : α → ProfileWorld → Prop} (h : Safely faults alone I x Q (fun e w => E (f e) w) w) :
    Safely faults alone I (mapErr x f) Q E w := by
  refine Program.Safe.bind (Program.Safe.mono h fun r w hr => ?_)
  cases r with
  | ok a => exact hr
  | error e => exact hr

theorem readOnly_verifyPrivateDirectory (path : Path) : ReadOnly (verifyPrivateDirectory path) :=
  fun _ _ _ hI => safely_verifyPrivateDirectory hI (fun _ => rfl) fun _ _ => rfl

theorem readOnly_verifyPrivateSingleLinkRegularFile (path : Path) :
    ReadOnly (verifyPrivateSingleLinkRegularFile path) :=
  fun _ _ _ hI => safely_verifyPrivateSingleLinkRegularFile hI (fun _ => rfl) fun _ _ => rfl

theorem readOnly_readPrivate (path : Path) : ReadOnly (readPrivate path) :=
  fun _ _ _ hI => safely_readPrivate hI (fun _ _ => rfl) fun _ _ => rfl

theorem readOnly_mapErr {α : Type} {x : ProfileAttempt α} (h : ReadOnly x)
    (f : ProfileError → ProfileError) : ReadOnly (mapErr x f) :=
  fun faults I w hI => safely_mapErr (h faults I w hI)

variable [Sha256]

/-- A private file of a credential's size and its digest. -/
def Digests (w : ProfileWorld) (path : Path) (digest : String) : Prop :=
  ∃ content, Holds w path content ∧ content.raw.length ≤ maxReauthAuthBytes ∧
    digest = authDigest content.raw

theorem safely_readPrivateDigest {Q : String → ProfileWorld → Prop} (hI : I w)
    (ok : ∀ digest, Digests w path digest → Q digest w)
    (failed : faults ∨ (∀ digest, ¬ Digests w path digest) → ∀ e, E e w) :
    Safely faults alone I (readPrivateDigest path) Q E w := by
  refine Safely.bind (safely_readPrivateBounded hI ?_ ?_)
  · intro content hc hlen
    exact Safely.pure (ok _ ⟨content, hc, hlen, rfl⟩)
  · rintro (hf | hn)
    · exact failed (.inl hf)
    · refine failed (.inr ?_)
      rintro digest ⟨content, hc, hlen, -⟩
      exact absurd hlen (by have := hn content hc; omega)

theorem safely_optionalPrivateDigest {Q : Option String → ProfileWorld → Prop} (hI : I w)
    (absent : w.at' path = none → Q none w)
    (present : ∀ digest, Digests w path digest → Q (some digest) w)
    (failed : faults ∨ ((w.at' path).isSome ∧ ∀ digest, ¬ Digests w path digest) → ∀ e, E e w) :
    Safely faults alone I (optionalPrivateDigest path) Q E w := by
  refine Safely.bind (Safely.stat hI ?_ fun hf => failed (.inl hf) _)
  cases hnode : w.at' path with
  | none => exact Safely.pure (absent hnode)
  | some node =>
    refine Safely.bind (safely_readPrivateDigest hI ?_ ?_)
    · exact fun digest hd => Safely.pure (present digest hd)
    · rintro (hf | hn)
      · exact failed (.inl hf)
      · exact failed (.inr ⟨by simp [hnode], hn⟩)

/-- A file is there as expected: private, and with the digest if one is given. -/
def Exact (w : ProfileWorld) (path : Path) : Option String → Prop
  | none => ∃ content, Holds w path content
  | some digest => Digests w path digest

theorem safely_removeExactPrivateFile {Q : Unit → ProfileWorld → Prop} {expected : Option String}
    (hI : I w) (absent : w.at' path = none → Q () w)
    (removed : Exact w path expected → I (w.set path none) ∧ Q () (w.set path none))
    (failed : faults ∨ ((w.at' path).isSome ∧ ¬ Exact w path expected) ∨
      (∃ name, (w.at' (path ++ [name])).isSome) → ∀ e, E e w) :
    Safely faults alone I (removeExactPrivateFile path expected) Q E w := by
  refine Safely.bind (Safely.stat hI ?_ fun hf => failed (.inl hf) _)
  cases hnode : w.at' path with
  | none => exact Safely.pure (absent hnode)
  | some node =>
    have hsome : (w.at' path).isSome := by simp [hnode]
    have hremove : Exact w path expected →
        Safely faults alone I (attempt (.remove path) ProfileError.io) Q E w := by
      intro hexact
      refine Safely.remove hI (fun _ _ => removed hexact) ?_
      rintro (hf | hn | hn)
      · exact failed (.inl hf) _
      · simp [hn] at hsome
      · exact failed (.inr (.inr hn)) _
    refine Safely.bind (safely_mapErr (safely_verifyPrivateSingleLinkRegularFile hI ?_ ?_))
    · intro hfile
      cases expected with
      | none => exact hremove hfile
      | some digest =>
        refine Safely.bind (safely_readPrivateDigest hI ?_ ?_)
        · intro digest' hd
          by_cases heq : digest' ≠ digest
          · refine Safely.bind (Safely.check ?_)
            rw [rejectIf, if_pos heq]
            refine failed (.inr (.inl ⟨hsome, ?_⟩)) _
            rintro ⟨content, hc, -, rfl⟩
            obtain ⟨content', hc', -, rfl⟩ := hd
            rw [Holds, hc] at hc'
            cases hc'
            exact heq rfl
          · refine Safely.bind (Safely.check ?_)
            rw [rejectIf, if_neg heq]
            rw [not_not] at heq
            subst heq
            exact hremove hd
        · rintro (hf | hn)
          · exact failed (.inl hf)
          · exact failed (.inr (.inl ⟨hsome, hn digest⟩))
    · rintro (hf | hn)
      · exact fun e => failed (.inl hf) _
      · refine fun e => failed (.inr (.inl ⟨hsome, ?_⟩)) _
        cases expected with
        | none => exact fun ⟨content, hc⟩ => hn content hc
        | some digest => exact fun ⟨content, hc, _⟩ => hn content hc

end Rules

/-! ## Removing a tree -/

def treeTooLarge : ProfileError := .unsafeState "managed profile tree is too large"
def treeTooDeep : ProfileError := .unsafeState "managed profile tree is too deep"

/-- Look up the entries of a directory before any of them is removed. -/
def statEntries (deepest : Bool) (directory : Path) : List String → ProfileAttempt (List (String × Node))
  | [] => pure []
  | name :: names => do
    let node ← attempt (.read (directory ++ [name])) .io
    match node with
    | .directory _ => check (rejectIf deepest treeTooDeep)
    | _ => pure ()
    let rest ← statEntries deepest directory names
    pure ((name, node) :: rest)

/-- Remove the entries of a directory one at a time, with what is below each of them first. The
remaining budget of entries is handed on. -/
def removeEntries (recurse : Path → ℕ → ProfileAttempt ℕ) (directory : Path) :
    List (String × Node) → ℕ → ProfileAttempt ℕ
  | [], budget => pure budget
  | (name, node) :: entries, budget => do
    let path := directory ++ [name]
    let current ← attempt (.read path) .io
    match node, current with
    | .directory _, .directory _ =>
      let budget ← recurse path budget
      match ← attempt (.read path) .io with
      | .directory _ => attempt (.remove path) .io
      | _ => throw (.unsafeState "managed profile tree changed during cleanup")
      removeEntries recurse directory entries budget
    | .file _ _, .file _ _ | .other, .other =>
      attempt (.remove path) .io
      removeEntries recurse directory entries budget
    | _, _ => throw (.unsafeState "managed profile tree changed during cleanup")

/-- Remove what is in a directory, at most `depth` levels down. -/
def removeOwnedDirectoryEntries : ℕ → Path → ℕ → ProfileAttempt ℕ
  | depth, directory, budget => do
    let names ← attempt (.list directory) .io
    check (rejectIf (names.length > budget) treeTooLarge)
    let entries ← statEntries (depth = 0) directory names
    match depth with
    | 0 => removeEntries (fun _ _ => throw treeTooDeep) directory entries (budget - names.length)
    | depth + 1 =>
      removeEntries (removeOwnedDirectoryEntries depth) directory entries (budget - names.length)

/-- Remove a directory and what is in it. -/
def removeOwnedDirectory (directory : Path) (maxEntries maxDepth : ℕ) : ProfileAttempt Unit := do
  let _ ← removeOwnedDirectoryEntries maxDepth directory maxEntries
  match ← attempt (.read directory) .io with
  | .directory _ => attempt (.remove directory) .io
  | _ => throw (.unsafeState "managed profile tree was replaced during cleanup")

/-! ## What removing a tree keeps -/

section Keeps

variable {I : ProfileWorld → Prop} {w : ProfileWorld} {directory : Path}

/-- Under every fault, the attempt keeps `I`. -/
def Keeps {α : Type} (I : ProfileWorld → Prop) (x : ProfileAttempt α) (w : ProfileWorld) : Prop :=
  Safely True alone I x (fun _ => I) (fun _ => I) w

theorem keeps_statEntries {deepest : Bool} (hI : I w) (names : List String) :
    Keeps I (statEntries deepest directory names) w := by
  induction names with
  | nil => exact Safely.pure hI
  | cons name names ih =>
    refine Safely.bind (Safely.read hI ?_ fun _ => hI)
    intro node _
    have hrest : Safely True alone I (statEntries deepest directory names >>= fun rest =>
        pure ((name, node) :: rest)) (fun _ => I) (fun _ => I) w :=
      Safely.bind (Safely.mono ih (fun _ _ h => Safely.pure h) fun _ _ h => h)
    cases node with
    | directory =>
      refine Safely.bind (Safely.check ?_)
      cases deepest with
      | true => exact hI
      | false => exact hrest
    | file => exact hrest
    | other => exact hrest

/-- Entries are removed below the directory only. -/
theorem keeps_removeEntries {recurse : Path → ℕ → ProfileAttempt ℕ}
    (frame : ∀ w p, I w → directory <+: p → I (w.set p none))
    (hrec : ∀ name budget w, I w → Keeps I (recurse (directory ++ [name]) budget) w)
    (entries : List (String × Node)) (budget : ℕ) (hI : I w) :
    Keeps I (removeEntries recurse directory entries budget) w := by
  induction entries generalizing budget w with
  | nil => exact Safely.pure hI
  | cons entry entries ih =>
    obtain ⟨name, node⟩ := entry
    have hremove : ∀ budget w, I w → Safely True alone I
        (attempt (.remove (directory ++ [name])) ProfileError.io >>= fun _ =>
          removeEntries recurse directory entries budget) (fun _ => I) (fun _ => I) w := by
      intro budget w hI
      refine Safely.bind (Safely.remove hI (fun _ _ => ?_) fun _ => hI)
      have hset := frame w _ hI (List.prefix_append directory [name])
      exact ⟨hset, ih budget hset⟩
    refine Safely.bind (Safely.read hI ?_ fun _ => hI)
    intro current _
    match node, current with
    | .directory _, .directory _ =>
      refine Safely.bind (Safely.mono (hrec name budget w hI) ?_ fun _ _ h => h)
      intro budget w hI
      refine Safely.bind (Safely.read hI ?_ fun _ => hI)
      intro node _
      cases node with
      | directory => exact hremove budget w hI
      | file => exact Safely.throw hI
      | other => exact Safely.throw hI
    | .file _ _, .file _ _ => exact hremove budget w hI
    | .other, .other => exact hremove budget w hI
    | .directory _, .file _ _ => exact Safely.throw hI
    | .directory _, .other => exact Safely.throw hI
    | .file _ _, .directory _ => exact Safely.throw hI
    | .file _ _, .other => exact Safely.throw hI
    | .other, .directory _ => exact Safely.throw hI
    | .other, .file _ _ => exact Safely.throw hI

theorem keeps_listing {deepest : Bool} {rest : List (String × Node) → ℕ → ProfileAttempt ℕ}
    (budget : ℕ) (hrest : ∀ entries budget w, I w → Keeps I (rest entries budget) w) (hI : I w) :
    Keeps I (do
      let names ← attempt (.list directory) ProfileError.io
      check (rejectIf (names.length > budget) treeTooLarge)
      let entries ← statEntries deepest directory names
      rest entries (budget - names.length)) w := by
  refine Safely.bind (Safely.list hI (fun names _ => ?_) fun _ => hI)
  refine Safely.bind (Safely.check ?_)
  by_cases h : names.length > budget
  · rw [rejectIf, if_pos h]
    exact hI
  · rw [rejectIf, if_neg h]
    refine Safely.bind (Safely.mono (keeps_statEntries hI names) ?_ fun _ _ h => h)
    exact fun entries w hI => hrest entries _ w hI

theorem keeps_removeOwnedDirectoryEntries (depth budget : ℕ)
    (frame : ∀ w p, I w → directory <+: p → I (w.set p none)) (hI : I w) :
    Keeps I (removeOwnedDirectoryEntries depth directory budget) w := by
  induction depth generalizing directory budget w with
  | zero =>
    refine keeps_listing budget (fun entries budget w hI => ?_) hI
    refine keeps_removeEntries frame ?_ entries budget hI
    exact fun _ _ _ hI => Safely.throw hI
  | succ depth ih =>
    refine keeps_listing budget (fun entries budget w hI => ?_) hI
    refine keeps_removeEntries frame (fun name budget w hI => ?_) entries budget hI
    exact ih budget (fun w p hI hp => frame w p hI ((List.prefix_append _ _).trans hp)) hI

/-- A directory that is removed is gone. -/
theorem safely_removeOwnedDirectory {maxEntries maxDepth : ℕ}
    (frame : ∀ w p, I w → directory <+: p → I (w.set p none)) (hI : I w) :
    Safely True alone I (removeOwnedDirectory directory maxEntries maxDepth)
      (fun _ w => I w ∧ w.at' directory = none) (fun _ => I) w := by
  refine Safely.bind (Safely.mono (keeps_removeOwnedDirectoryEntries _ _ frame hI) ?_ fun _ _ h => h)
  intro _ w hI
  refine Safely.bind (Safely.read hI ?_ fun _ => hI)
  intro node _
  cases node with
  | directory =>
    refine Safely.remove hI (fun _ _ => ?_) fun _ => hI
    have hset := frame w _ hI (List.prefix_refl directory)
    exact ⟨hset, hset, by simp⟩
  | file => exact Safely.throw hI
  | other => exact Safely.throw hI

end Keeps

end Calcifer.Profiles
