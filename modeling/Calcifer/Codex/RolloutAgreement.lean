import Calcifer.Codex.RolloutHandoff
import Calcifer.Library.Logs

/-!
# Rollouts that the journal accepts

A rollout that `validateTargetRollout` accepted has a locator of at most 128 components and 16 KiB with
any names, and the times and the inode that the file system reports. The journal takes 8 components
and 512 bytes of a small alphabet, and no inode zero or time before the epoch.
-/

namespace Calcifer

open Checks Json Program RolloutIo

abbrev RolloutLog := List ((op : RolloutCall) × RolloutReply op)

variable {α β : Type} {log : RolloutLog} {error : CodexRolloutHandoffError}

/-! ## Runs that succeed -/

theorem trace_ask_ok {op : RolloutCall} {f : RolloutReply op → RolloutIo β} {b : β} :
    Trace (ask op >>= f).run log (.ok b) ↔
      ∃ reply rest, log = ⟨op, reply⟩ :: rest ∧ Trace (f reply).run rest (.ok b) := by
  have hask : ∀ (before : RolloutLog) (a : RolloutReply op),
      Trace (ask op).run before (Except.ok a) ↔ before = [⟨op, a⟩] := by
    intro before a
    show Trace (perform op >>= fun reply => pure (Except.ok reply)) before (Except.ok a) ↔ _
    rw [trace_bind]
    constructor
    · rintro ⟨first, last, reply, rfl, hp, hr⟩
      obtain rfl := trace_perform.1 hp
      obtain ⟨rfl, hreply⟩ := trace_pure.1 hr
      rw [Except.ok.inj hreply, List.append_nil]
    · rintro rfl
      exact ⟨_, [], a, rfl, trace_perform.2 rfl, trace_pure.2 ⟨rfl, rfl⟩⟩
  rw [trace_bind_ok]
  constructor
  · rintro ⟨before, after, a, rfl, hc, hf⟩
    rw [hask] at hc
    exact ⟨a, after, by rw [hc, List.singleton_append], hf⟩
  · rintro ⟨reply, rest, rfl, hf⟩
    exact ⟨[⟨op, reply⟩], rest, reply, rfl, (hask _ _).2 rfl, hf⟩

theorem trace_lift_ok {x : Except CodexRolloutHandoffError α} {f : α → RolloutIo β} {b : β} :
    Trace (lift x >>= f).run log (.ok b) ↔ ∃ a, x = .ok a ∧ Trace (f a).run log (.ok b) := by
  rw [trace_bind_ok]
  constructor
  · rintro ⟨before, after, a, rfl, hx, hf⟩
    obtain ⟨rfl, ha⟩ := trace_pure.1 hx
    exact ⟨a, ha.symm, hf⟩
  · rintro ⟨a, hx, hf⟩
    exact ⟨[], log, a, rfl, trace_pure.2 ⟨rfl, hx.symm⟩, hf⟩

theorem trace_found_ok {reply : Option α} {f : α → RolloutIo β} {b : β} :
    Trace (found error reply >>= f).run log (.ok b) ↔
      ∃ a, reply = some a ∧ Trace (f a).run log (.ok b) := by
  show Trace (lift (okOr reply error) >>= f).run log (.ok b) ↔ _
  rw [trace_lift_ok]
  simp only [okOr_eq_ok]

theorem trace_reject_ok {bad : Prop} [Decidable bad] {f : Unit → RolloutIo β} {b : β} :
    Trace (reject bad error >>= f).run log (.ok b) ↔ ¬bad ∧ Trace (f ()).run log (.ok b) := by
  show Trace (lift (rejectIf bad error) >>= f).run log (.ok b) ↔ _
  rw [trace_lift_ok]
  simp only [rejectIf_eq_ok, exists_and_left]
  refine and_congr_right fun _ => ⟨?_, fun h => ⟨(), h⟩⟩
  rintro ⟨_, h⟩
  exact h

/-! ## What a fingerprint holds -/

/-- What the file system reported last about an open file. -/
def lastMetadata (log : RolloutLog) : Option Metadata :=
  log.reverse.findSome? fun entry => match entry with
    | ⟨.metadata _, reply⟩ => reply
    | _ => none

theorem lastMetadata_append {before after : RolloutLog} {metadata : Metadata}
    (h : lastMetadata after = some metadata) : lastMetadata (before ++ after) = some metadata := by
  rw [lastMetadata, List.reverse_append, List.findSome?_append]
  rw [lastMetadata] at h
  rw [h]
  rfl

theorem lastMetadata_cons {entry : (op : RolloutCall) × RolloutReply op} {metadata : Metadata}
    (h : lastMetadata log = some metadata) : lastMetadata (entry :: log) = some metadata := by
  have appended : lastMetadata ([entry] ++ log) = some metadata := lastMetadata_append h
  exact appended

/-- The fingerprint of a file with this metadata and digest. -/
def Metadata.fingerprint (metadata : Metadata) (digest : Vector (Fin 256) 32) :
    CodexHandoffFingerprint where
  device := metadata.dev
  inode := metadata.ino
  length := metadata.len
  mode := metadata.mode
  uid := metadata.uid
  gid := metadata.gid
  links := metadata.nlink
  modifiedSeconds := metadata.mtime
  modifiedNanoseconds := metadata.mtimeNsec
  changedSeconds := metadata.ctime
  changedNanoseconds := metadata.ctimeNsec
  digest := digest

theorem validateFileMetadataForUid_ok {metadata : Metadata} {uid : ℕ}
    (h : validateFileMetadataForUid metadata uid error = .ok ()) :
    metadata.nlink = 1 ∧ metadata.len ≤ maxRolloutBytes := by
  rw [validateFileMetadataForUid, rejectIf_eq_ok] at h
  simp only [not_or, not_not, not_lt] at h
  obtain ⟨-, -, -, -, links, -, length⟩ := h
  exact ⟨links, by omega⟩

theorem fileMetadataIdentity_fingerprint {before after : Metadata} {digest : Vector (Fin 256) 32}
    (h : fileMetadataIdentity before = fileMetadataIdentity after) :
    before.fingerprint digest = after.fingerprint digest := by
  show (fileMetadataIdentity before).fingerprint digest = _
  rw [h]
  rfl

/-- A fingerprint is that of the metadata that was reported last. -/
theorem fingerprintFile_ok [Sha256] {file : Descriptor}
    {fingerprint : CodexHandoffFingerprint}
    (run : Trace (fingerprintFile file error).run log (.ok fingerprint)) :
    ∃ metadata content, lastMetadata log = some metadata ∧ metadata.nlink = 1 ∧
      metadata.len ≤ maxRolloutBytes ∧ fingerprint = metadata.fingerprint (finalDigest content) := by
  unfold fingerprintFile at run
  obtain ⟨_, _, rfl, run₁⟩ := trace_ask_ok.1 run
  obtain ⟨before, -, run₂⟩ := trace_found_ok.1 run₁
  obtain ⟨_, rest₂, _, rfl, -, run₃⟩ := trace_bind_ok.1 run₂
  obtain ⟨_, rest₃, rfl, run₄⟩ := trace_ask_ok.1 run₃
  obtain ⟨_, -, run₅⟩ := trace_found_ok.1 run₄
  obtain ⟨contentLog, rest₅, content, rfl, -, run₆⟩ := trace_bind_ok.1 run₅
  obtain ⟨reply, rest₆, rfl, run₇⟩ := trace_ask_ok.1 run₆
  obtain ⟨after, rfl, run₈⟩ := trace_found_ok.1 run₇
  obtain ⟨euidLog, rest₈, _, rfl, valid, run₉⟩ := trace_bind_ok.1 run₈
  unfold validateFileMetadata at valid
  obtain ⟨euid, euidRest, rfl, checked⟩ := trace_ask_ok.1 valid
  obtain ⟨rfl, hvalid⟩ := trace_pure.1 checked
  obtain ⟨same, run₁₀⟩ := trace_reject_ok.1 run₉
  obtain ⟨_, rest₁₀, rfl, run₁₁⟩ := trace_ask_ok.1 run₁₀
  obtain ⟨_, -, run₁₂⟩ := trace_found_ok.1 run₁₁
  obtain ⟨rfl, rfl⟩ := trace_pure_ok.1 run₁₂
  rw [not_or, not_not, not_not] at same
  obtain ⟨identity, complete⟩ := same
  obtain ⟨links, length⟩ := validateFileMetadataForUid_ok hvalid.symm
  have last : lastMetadata [⟨.metadata file, some after⟩, ⟨.effectiveUid, euid⟩,
      ⟨.seekStart file, some ()⟩] = some after := rfl
  refine ⟨after, content, ?_, links, length, ?_⟩
  · exact lastMetadata_cons (lastMetadata_append (lastMetadata_cons (lastMetadata_append last)))
  · rw [← fileMetadataIdentity_fingerprint identity, complete]
    rfl

/-! ## What a locator holds -/

theorem countComponents_ok {components : List UnixPath.Component} {count total : ℕ}
    (h : countComponents error count components = .ok total) :
    (∀ component ∈ components, ∃ name, component = .normal name) ∧
      total = count + components.length := by
  induction components generalizing count with
  | nil => exact ⟨fun _ mem => absurd mem List.not_mem_nil, (Except.ok.inj h).symm⟩
  | cons component rest ih =>
    cases component with
    | normal name =>
      obtain ⟨-, h⟩ := check_bind_eq_ok.1 h
      obtain ⟨-, h⟩ := check_bind_eq_ok.1 h
      obtain ⟨names, counted⟩ := ih h
      refine ⟨?_, by rw [counted, List.length_cons]; omega⟩
      intro component mem
      obtain rfl | mem := List.mem_cons.1 mem
      · exact ⟨name, rfl⟩
      · exact names component mem
    | rootDir => cases h
    | curDir => cases h
    | parentDir => cases h

/-- An accepted locator consists of names, of which there is one at least. -/
theorem validateLocator_ok {relative : OsPath} {locator : CodexRolloutLocator}
    (h : validateLocator relative error = .ok locator) :
    locator.relativePath = relative ∧ OsPath.components relative ≠ [] ∧
      ∀ component ∈ OsPath.components relative, ∃ name, component = .normal name := by
  rw [validateLocator] at h
  obtain ⟨-, h⟩ := check_bind_eq_ok.1 h
  obtain ⟨count, counted, h⟩ := bind_eq_ok.1 h
  obtain ⟨some, h⟩ := check_bind_eq_ok.1 h
  obtain ⟨names, total⟩ := countComponents_ok counted
  refine ⟨by rw [← pure_eq_ok.1 h], ?_, names⟩
  intro empty
  rw [empty, List.length_nil] at total
  exact rejectIf_eq_ok.1 some total

/-- A target that was accepted lies below the rollouts of the home, and its fingerprint is that of the
metadata that was reported last. -/
theorem validateTargetRollout_ok [Sha256] {fromSlice : List UInt8 → Option Json}
    {managedHome path expectedCwd : OsPath}
    {targetThreadId sourceThreadId expectedVersion : String} {locator : CodexRolloutLocator}
    {fingerprint : CodexHandoffFingerprint}
    (run : Trace (validateTargetRollout fromSlice managedHome path targetThreadId sourceThreadId
      expectedCwd expectedVersion).run log (.ok (locator, fingerprint))) :
    (∃ relative, OsPath.stripPrefix path (OsPath.join managedHome activeRolloutRoot) = some relative ∧
      validateLocator relative .unsafeTarget = .ok locator) ∧
    ∃ metadata content, lastMetadata log = some metadata ∧ metadata.nlink = 1 ∧
      metadata.len ≤ maxRolloutBytes ∧ fingerprint = metadata.fingerprint (finalDigest content) := by
  unfold validateTargetRollout at run
  obtain ⟨_, rest₁, rfl, run₁⟩ := trace_ask_ok.1 run
  obtain ⟨canonicalHome, -, run₂⟩ := trace_found_ok.1 run₁
  obtain ⟨sameHome, run₃⟩ := trace_reject_ok.1 run₂
  obtain ⟨_, rest₂, home, rfl, -, run₄⟩ := trace_bind_ok.1 run₃
  obtain ⟨_, rest₃, sessions, rfl, -, run₅⟩ := trace_bind_ok.1 run₄
  obtain ⟨_, rest₄, rfl, run₆⟩ := trace_ask_ok.1 run₅
  obtain ⟨canonicalPath, -, run₇⟩ := trace_found_ok.1 run₆
  obtain ⟨-, run₈⟩ := trace_reject_ok.1 run₇
  obtain ⟨relative, below, run₉⟩ := trace_found_ok.1 run₈
  obtain ⟨located, valid, run₁₀⟩ := trace_lift_ok.1 run₉
  obtain ⟨_, rest₅, file, rfl, -, run₁₁⟩ := trace_bind_ok.1 run₁₀
  obtain ⟨_, rest₆, _, rfl, -, run₁₂⟩ := trace_bind_ok.1 run₁₁
  obtain ⟨_, rest₇, first, rfl, -, run₁₃⟩ := trace_bind_ok.1 run₁₂
  obtain ⟨_, rest₈, reopened, rfl, -, run₁₄⟩ := trace_bind_ok.1 run₁₃
  obtain ⟨againLog, rest₉, again, rfl, fingerprinted, run₁₅⟩ := trace_bind_ok.1 run₁₄
  obtain ⟨unchanged, run₁₆⟩ := trace_reject_ok.1 run₁₅
  obtain ⟨rfl, result⟩ := trace_pure_ok.1 run₁₆
  obtain ⟨rfl, rfl⟩ := Prod.mk.inj result
  have plain : activeRolloutRoot ≠ [] ∧ activeRolloutRoot ≠ [46] ∧ activeRolloutRoot ≠ [46, 46] := by
    decide
  have single : 47 ∉ activeRolloutRoot := by decide
  have root : OsPath.components (OsPath.join canonicalHome activeRolloutRoot) =
      OsPath.components (OsPath.join managedHome activeRolloutRoot) := by
    rw [OsPath.components_join plain single, OsPath.components_join plain single,
      not_not.1 sameHome]
  refine ⟨⟨relative, ?_, valid⟩, ?_⟩
  · rw [← OsPath.stripPrefix_congr root, below]
  · obtain ⟨metadata, content, last, links, length, printed⟩ := fingerprintFile_ok fingerprinted
    refine ⟨metadata, content, ?_, links, length, ?_⟩
    · rw [List.append_nil]
      exact lastMetadata_cons (lastMetadata_append (lastMetadata_append (lastMetadata_cons
        (lastMetadata_append (lastMetadata_append (lastMetadata_append (lastMetadata_append last)))))))
    · rw [← printed, ← not_not.1 unchanged]

/-! ## What the journal takes -/

/-- The journal takes a locator of few short pieces of its alphabet. -/
structure JournaledLocator (relative : OsPath) : Prop where
  bytes : relative.length ≤ maxRolloutRelativeBytes
  depth : (relative.splitOn 47).length ≤ maxRolloutComponents
  names : ∀ piece ∈ relative.splitOn 47, piece ≠ [] ∧ piece ≠ [46] ∧ piece.all isRolloutByte

/-- The journal takes an inode and times after the epoch. -/
structure JournaledMetadata (metadata : Metadata) : Prop where
  inode : metadata.ino ≠ 0
  modifiedSeconds : 0 ≤ metadata.mtime
  changedSeconds : 0 ≤ metadata.ctime
  modifiedNanoseconds : 0 ≤ metadata.mtimeNsec ∧ metadata.mtimeNsec < 1000000000
  changedNanoseconds : 0 ≤ metadata.ctimeNsec ∧ metadata.ctimeNsec < 1000000000

theorem isLowerHex_hexByte (n : Fin 16) : isLowerHex (Uuid.hexByte n) = true := by
  revert n
  decide

/-- The digest is written in lowercase hexadecimal digits. -/
theorem isSha256Hex_sha256 (fingerprint : CodexHandoffFingerprint) :
    isSha256Hex fingerprint.sha256 = true := by
  have digits : ∀ byte : Fin 256, (hexByte byte).flatMap String.utf8EncodeChar =
      [Uuid.hexByte ⟨byte / 16, by omega⟩, Uuid.hexByte ⟨byte % 16, by omega⟩] := by
    intro byte
    rw [hexByte, List.flatMap_cons, List.flatMap_cons, Uuid.utf8EncodeChar_hexDigit,
      Uuid.utf8EncodeChar_hexDigit]
    rfl
  have written : Text.bytes fingerprint.sha256 = fingerprint.digest.toList.flatMap fun byte : Fin 256 =>
      [Uuid.hexByte ⟨byte / 16, by omega⟩, Uuid.hexByte ⟨byte % 16, by omega⟩] := by
    rw [CodexHandoffFingerprint.sha256, Text.bytes_ofList, List.flatMap_assoc]
    simp only [digits]
  rw [isSha256Hex, written, Bool.and_eq_true, beq_iff_eq, List.all_eq_true]
  constructor
  · rw [List.length_flatMap]
    simp
  · intro byte mem
    obtain ⟨b, -, mem⟩ := List.mem_flatMap.1 mem
    simp only [List.mem_cons, List.not_mem_nil, or_false] at mem
    obtain rfl | rfl := mem
    · exact isLowerHex_hexByte _
    · exact isLowerHex_hexByte _

/-- Where all components are names, they are the pieces that are names. -/
theorem components_of_names {path : OsPath}
    (names : ∀ component ∈ OsPath.components path, ∃ name, component = .normal name) :
    OsPath.isAbsolute path = false ∧ (path.splitOn 47).head? ≠ some [46] ∧
      OsPath.components path = (path.splitOn 47).filterMap UnixPath.component := by
  obtain ⟨first, rest, pieces⟩ := OsPath.splitOn_eq_cons path
  have split := OsPath.components_cons pieces
  have relative : ¬OsPath.isAbsolute path = true := by
    intro absolute
    rw [OsPath.leading, if_pos absolute] at split
    obtain ⟨name, h⟩ := names .rootDir (split ▸ List.mem_cons_self)
    cases h
  have visible : first ≠ [46] := by
    intro dot
    rw [OsPath.leading, if_neg relative, if_pos dot] at split
    obtain ⟨name, h⟩ := names .curDir (split ▸ List.mem_cons_self)
    cases h
  refine ⟨Bool.eq_false_iff.2 relative, ?_, ?_⟩
  · rw [pieces, List.head?_cons]
    exact fun h => visible (Option.some.inj h)
  · rw [split, pieces, OsPath.leading, if_neg relative, if_neg visible, List.filterMap_cons]
    cases UnixPath.component first with
    | none => rfl
    | some component => rfl

/-- The pieces are the components when none of them is empty or a dot. -/
theorem length_components {path : OsPath}
    (names : ∀ component ∈ OsPath.components path, ∃ name, component = .normal name) :
    (OsPath.components path).length = (path.splitOn 47).length ↔
      ∀ piece ∈ path.splitOn 47, piece ≠ [] ∧ piece ≠ [46] := by
  rw [(components_of_names names).2.2, List.filterMap_length_eq_length]
  refine forall₂_congr fun piece _ => ?_
  rw [UnixPath.component, ← not_or]
  split_ifs with blank parent <;> simp [blank]

/-- The check of a locator by the journal, on one that the adapter accepted. -/
theorem journaledLocator_iff {relativePath : String} {relative : OsPath}
    (text : Text.bytes relativePath = relative) (nonempty : OsPath.components relative ≠ [])
    (names : ∀ component ∈ OsPath.components relative, ∃ name, component = .normal name) :
    ¬(relativePath.isEmpty ∨
      (Text.bytes relativePath).length > maxRolloutRelativeBytes ∨
      UnixPath.isAbsolute relativePath ∨
      (UnixPath.components relativePath).length > maxRolloutComponents ∨
      (UnixPath.pieces relativePath).length ≠ (UnixPath.components relativePath).length ∨
      ((UnixPath.pieces relativePath).any fun component =>
        component.isEmpty || !component.all isRolloutByte) ∨
      (UnixPath.components relativePath).any fun component => match component with
        | .normal _ => false
        | _ => true) ↔ JournaledLocator relative := by
  have whole : UnixPath.components relativePath = OsPath.components relative := by
    rw [← OsPath.components_bytes, text]
  have parts : UnixPath.pieces relativePath = relative.splitOn 47 := by
    rw [UnixPath.pieces, text]
  have notEmpty : ¬relativePath.isEmpty := by
    intro empty
    rw [String.isEmpty_iff] at empty
    rw [← text, empty] at nonempty
    exact nonempty rfl
  have notAbsolute : ¬UnixPath.isAbsolute relativePath := by
    have h := (components_of_names names).1
    rw [← text] at h
    exact Bool.eq_false_iff.1 h
  have allNames : ¬(OsPath.components relative).any fun component => match component with
      | .normal _ => false
      | _ => true := by
    rw [List.any_eq_true]
    rintro ⟨component, mem, other⟩
    obtain ⟨name, rfl⟩ := names component mem
    cases other
  rw [whole, parts, text]
  constructor
  · intro h
    simp only [not_or, not_lt, not_not] at h
    obtain ⟨-, bytes, -, depth, lengths, plain, -⟩ := h
    have visible := (length_components names).1 lengths.symm
    refine ⟨bytes, by omega, fun piece mem => ⟨(visible piece mem).1, (visible piece mem).2, ?_⟩⟩
    by_contra bad
    refine plain (List.any_eq_true.2 ⟨piece, mem, ?_⟩)
    rw [Bool.eq_false_iff.2 bad, Bool.not_false, Bool.or_true]
  · intro h bad
    have lengths := (length_components names).2 fun piece mem =>
      ⟨(h.names piece mem).1, (h.names piece mem).2.1⟩
    have bytes := h.bytes
    have depth := h.depth
    obtain empty | long | absolute | deep | blank | odd | other := bad
    · exact notEmpty empty
    · omega
    · exact notAbsolute absolute
    · omega
    · exact blank lengths.symm
    · obtain ⟨piece, mem, odd⟩ := List.any_eq_true.1 odd
      obtain ⟨filled, -, good⟩ := h.names piece mem
      rw [good, Bool.not_true, Bool.or_false, List.isEmpty_iff] at odd
      exact filled odd
    · exact allNames other

/-- What a fingerprint becomes in the journal. -/
def CodexHandoffFingerprint.journal (fingerprint : CodexHandoffFingerprint) : RolloutFingerprint where
  device := fingerprint.device
  inode := fingerprint.inode
  length := fingerprint.length
  mode := fingerprint.mode
  owner := fingerprint.uid
  linkCount := fingerprint.links
  modifiedSeconds := fingerprint.modifiedSeconds
  modifiedNanoseconds := fingerprint.modifiedNanoseconds
  changedSeconds := fingerprint.changedSeconds
  changedNanoseconds := fingerprint.changedNanoseconds
  sha256 := fingerprint.sha256

theorem projectJournalRollout_ok {locator : CodexRolloutLocator} {fingerprint : CodexHandoffFingerprint}
    {rollout : GenerationRollout} (h : projectJournalRollout locator fingerprint = .ok rollout) :
    Text.bytes rollout.locator.relativePath = locator.relativePath ∧
      rollout.fingerprint = fingerprint.journal := by
  obtain ⟨relativePath, text, h⟩ := bind_eq_ok.1 h
  obtain rfl := pure_eq_ok.1 h
  exact ⟨OsPath.toStr_eq_some (okOr_eq_ok.1 text), rfl⟩

/-- The validator of the journal, on a rollout that the adapter accepted. -/
theorem validateRollout_iff {locator : CodexRolloutLocator} {relative : OsPath} {metadata : Metadata}
    {digest : Vector (Fin 256) 32} {rollout : GenerationRollout}
    (located : validateLocator relative error = .ok locator)
    (links : metadata.nlink = 1) (length : metadata.len ≤ maxRolloutBytes)
    (projected : projectJournalRollout locator (metadata.fingerprint digest) = .ok rollout) :
    validateRollout rollout = .ok () ↔ JournaledLocator relative ∧ JournaledMetadata metadata := by
  obtain ⟨rfl, nonempty, names⟩ := validateLocator_ok located
  obtain ⟨text, printed⟩ := projectJournalRollout_ok projected
  rw [validateRollout, check_bind_eq_ok, rejectIf_eq_ok, rejectIf_eq_ok, printed]
  refine and_congr (journaledLocator_iff text nonempty names) ?_
  have hex : isSha256Hex (metadata.fingerprint digest).sha256 = true := isSha256Hex_sha256 _
  show ¬(metadata.ino = 0 ∨ metadata.len > maxRolloutBytes ∨ metadata.nlink ≠ 1 ∨
    metadata.mtime < 0 ∨ metadata.ctime < 0 ∨ _ ∨ _ ∨
    ¬isSha256Hex (metadata.fingerprint digest).sha256 = true) ↔ _
  constructor
  · intro h
    simp only [not_or, not_not, not_lt] at h
    obtain ⟨inode, -, -, modified, changed, modifiedNs, changedNs, -⟩ := h
    exact ⟨inode, modified, changed, modifiedNs, changedNs⟩
  · intro h bad
    obtain inode | long | linked | modified | changed | modifiedNs | changedNs | odd := bad
    · exact h.inode inode
    · omega
    · exact linked links
    · exact absurd h.modifiedSeconds (not_le.2 modified)
    · exact absurd h.changedSeconds (not_le.2 changed)
    · exact modifiedNs h.modifiedNanoseconds
    · exact changedNs h.changedNanoseconds
    · exact odd hex

/-! ## The target of a fork -/

/-- A target that the journal does not take leaves the registry as it is. -/
theorem observeHandoffTarget_rejected [Sha256] {target : HandoffTarget}
    (rejected : validateRollout target.rollout ≠ .ok ()) (host : Host) (transitionId : String)
    (disk : Disk) : ∃ e,
      ConversationRegistry.observeHandoffTarget host transitionId target disk = (.error e, disk) := by
  have failing : ∃ e, ConversationRegistry.checkTarget target = .error e := by
    cases checked : ConversationRegistry.checkTarget target with
    | error e => exact ⟨e, rfl⟩
    | ok _ =>
      obtain ⟨-, checked⟩ := check_bind_eq_ok.1 checked
      obtain ⟨-, checked⟩ := check_bind_eq_ok.1 checked
      obtain ⟨-, checked⟩ := check_bind_eq_ok.1 checked
      exact absurd checked rejected
  obtain ⟨e, failing⟩ := failing
  rw [ConversationRegistry.observeHandoffTarget]
  cases identified : validateUuid transitionId "transition id" with
  | error e' => exact ⟨e', rfl⟩
  | ok _ =>
    rw [failing]
    exact ⟨e, rfl⟩

/-- A rollout that the adapter accepted passes the validator of the journal exactly when its locator
fits the journal and the file system reports an inode and times that fit it. -/
theorem fork_target_journaled [Sha256] {fromSlice : List UInt8 → Option Json}
    {managedHome path expectedCwd : OsPath}
    {targetThreadId sourceThreadId expectedVersion : String} {rollout : ValidatedForkRollout}
    {source : VerifiedSourceRollout} {target : HandoffTarget}
    (accepted : Trace (validateTargetRollout fromSlice managedHome path targetThreadId
      sourceThreadId expectedCwd expectedVersion).run log (.ok (rollout.locator, rollout.fingerprint)))
    (adopted : rollout.intoHandoffTarget source = .ok target) :
    (validateRollout target.rollout = .ok () ↔
      (∃ relative, OsPath.stripPrefix path (OsPath.join managedHome activeRolloutRoot) = some relative ∧
        JournaledLocator relative) ∧
      ∃ metadata, lastMetadata log = some metadata ∧ JournaledMetadata metadata) ∧
    (validateRollout target.rollout ≠ .ok () → ∀ host transitionId disk, ∃ e,
      ConversationRegistry.observeHandoffTarget host transitionId target disk = (.error e, disk)) := by
  obtain ⟨⟨relative, below, located⟩, metadata, content, last, links, length, printed⟩ :=
    validateTargetRollout_ok accepted
  obtain ⟨-, adopted₁⟩ := check_bind_eq_ok.1 adopted
  obtain ⟨canonicalCwd, -, adopted₂⟩ := bind_eq_ok.1 adopted₁
  obtain ⟨journaled, projected, adopted₃⟩ := bind_eq_ok.1 adopted₂
  obtain rfl := pure_eq_ok.1 adopted₃
  refine ⟨?_, fun rejected => observeHandoffTarget_rejected rejected⟩
  rw [printed] at projected
  rw [validateRollout_iff located links length projected]
  constructor
  · rintro ⟨locator, times⟩
    exact ⟨⟨relative, below, locator⟩, metadata, last, times⟩
  · rintro ⟨⟨relative', below', locator⟩, metadata', last', times⟩
    rw [below, Option.some.injEq] at below'
    rw [last, Option.some.injEq] at last'
    exact ⟨below' ▸ locator, last' ▸ times⟩

/-! ## A sample -/

/-- The first record of the rollout of a fork. -/
def sampleSessionMeta : Json := .obj [("type", .str "session_meta"), ("payload", .obj [
  ("id", .str "00000000-0000-4000-8000-00000000000b"),
  ("session_id", .str "00000000-0000-4000-8000-00000000000b"),
  ("parent_thread_id", .str "00000000-0000-4000-8000-00000000000a"),
  ("cwd", .str "/work"),
  ("cli_version", .str "0.144.4"),
  ("source", .str "cli")])]

def sampleRolloutContent : List UInt8 := compact sampleSessionMeta ++ [10]

/-- SHA-256 as far as the sample needs it: the digest of the content of the rollout. -/
@[reducible] def sampleRolloutSha256 : Sha256 where
  digest _ := [70, 167, 208, 204, 81, 3, 175, 66, 193, 92, 14, 24, 64, 184, 194, 196,
    109, 162, 238, 11, 254, 122, 143, 16, 225, 237, 243, 206, 31, 224, 67, 63]
  length_digest _ := rfl

attribute [local instance] sampleRolloutSha256

def sampleFromSlice (text : List UInt8) : Option Json :=
  if text = compact sampleSessionMeta then some sampleSessionMeta else none

def sampleRolloutDirectory : Metadata where
  fileType := .directory
  dev := 1
  ino := 20
  len := 4096
  mode := 0o700
  uid := 501
  gid := 20
  nlink := 2
  mtime := 1760000000
  mtimeNsec := 0
  ctime := 1760000000
  ctimeNsec := 0

def sampleRolloutFile : Metadata := { sampleRolloutDirectory with
  fileType := .file
  ino := 21
  len := 243
  mode := 0o600
  nlink := 1 }

/-- A file system with one rollout, of which `rest` is still to be read. -/
def sampleFileSystem (rest : List UInt8) : (op : RolloutCall) → RolloutReply op × List UInt8
  | .canonicalize path => (some path, rest)
  | .symlinkMetadata _ => (some sampleRolloutDirectory, rest)
  | .openDirectory _ => (some 3, rest)
  | .openDirectoryAt _ _ => (some 3, rest)
  | .openFileAt _ _ => (some 4, rest)
  | .tryClone file => (some file, rest)
  | .metadata file => (some (if file = 4 then sampleRolloutFile else sampleRolloutDirectory), rest)
  | .seekStart _ => (some (), sampleRolloutContent)
  | .read _ size => (some (rest.take size), rest.drop size)
  | .effectiveUid => (501, rest)

/-- The validation of the rollout of this name. -/
def sampleValidation (name : String) : RolloutIo (CodexRolloutLocator × CodexHandoffFingerprint) :=
  validateTargetRollout sampleFromSlice (Text.bytes "/home") (Text.bytes ("/home/sessions/" ++ name))
    "00000000-0000-4000-8000-00000000000b" "00000000-0000-4000-8000-00000000000a"
    (Text.bytes "/work") "0.144.4"

def sampleForkRollout (name : String) : ValidatedForkRollout where
  profileId := "00000000-0000-4000-8000-000000000002"
  threadId := "00000000-0000-4000-8000-00000000000b"
  canonicalCwd := Text.bytes "/work"
  locator := { relativePath := Text.bytes name }
  fingerprint := sampleRolloutFile.fingerprint (finalDigest sampleRolloutContent)

def sampleSourceRollout : VerifiedSourceRollout where
  profileId := "00000000-0000-4000-8000-000000000001"
  threadId := "00000000-0000-4000-8000-00000000000a"
  codexVersion := "0.144.4"
  canonicalCwd := Text.bytes "/work"
  locator := { relativePath := Text.bytes "source.jsonl" }
  fingerprint := { sampleRolloutFile with ino := 22 }.fingerprint (finalDigest sampleRolloutContent)

def sampleForkTarget (name : String) : HandoffTarget where
  threadId := "00000000-0000-4000-8000-00000000000b"
  canonicalCwd := "/work"
  codexVersion := "0.144.4"
  rollout := {
    locator := {
      root := .sessions
      relativePath := name }
    fingerprint := (sampleForkRollout name).fingerprint.journal }

/-- A name of few plain characters passes both validators. -/
theorem fork_target_journaled_plain :
    validateRollout (sampleForkTarget "rollout-1.jsonl").rollout = .ok () := by
  have result : ((sampleValidation "rollout-1.jsonl").run.record sampleFileSystem []).2 =
      .ok ((sampleForkRollout "rollout-1.jsonl").locator,
        (sampleForkRollout "rollout-1.jsonl").fingerprint) := by
    decide +kernel
  have accepted := trace_record sampleFileSystem (sampleValidation "rollout-1.jsonl").run []
  rw [result] at accepted
  have adopted : (sampleForkRollout "rollout-1.jsonl").intoHandoffTarget sampleSourceRollout =
      .ok (sampleForkTarget "rollout-1.jsonl") := by
    decide +kernel
  refine (fork_target_journaled accepted adopted).1.2 ⟨?_, ?_⟩
  · refine ⟨Text.bytes "rollout-1.jsonl", by decide +kernel, by decide, by decide, ?_⟩
    decide
  · exact ⟨sampleRolloutFile, by decide +kernel, by decide, by decide, by decide, by decide, by decide⟩

/-- A name with a blank passes the validator of the adapter only. -/
theorem fork_target_unjournaled :
    ¬∀ (fromSlice : List UInt8 → Option Json) (managedHome path expectedCwd : OsPath)
      (targetThreadId sourceThreadId expectedVersion : String) (log : RolloutLog)
      (rollout : ValidatedForkRollout) (source : VerifiedSourceRollout) (target : HandoffTarget),
      Trace (validateTargetRollout fromSlice managedHome path targetThreadId sourceThreadId expectedCwd
        expectedVersion).run log (.ok (rollout.locator, rollout.fingerprint)) →
      rollout.intoHandoffTarget source = .ok target →
      validateRollout target.rollout = .ok () := by
  intro agree
  have result : ((sampleValidation "rollout 1.jsonl").run.record sampleFileSystem []).2 =
      .ok ((sampleForkRollout "rollout 1.jsonl").locator,
        (sampleForkRollout "rollout 1.jsonl").fingerprint) := by
    decide +kernel
  have accepted := trace_record sampleFileSystem (sampleValidation "rollout 1.jsonl").run []
  rw [result] at accepted
  have adopted : (sampleForkRollout "rollout 1.jsonl").intoHandoffTarget sampleSourceRollout =
      .ok (sampleForkTarget "rollout 1.jsonl") := by
    decide +kernel
  have passed := agree _ _ _ _ _ _ _ _ _ _ _ accepted adopted
  have rejected : validateRollout (sampleForkTarget "rollout 1.jsonl").rollout ≠ .ok () := by
    decide +kernel
  exact rejected passed

end Calcifer
