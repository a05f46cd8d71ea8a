import Calcifer.Conversations.Registry

/-!
# Managed profiles

The profiles of the registry, the names of their files under the data root and the checks on them.
-/

namespace Calcifer

open Checks Text

def registrySchemaVersion : ℕ := 1
def ownerMarker : String := ".calcifer-profile"

inductive ProfileError where
  | alreadyExists (reference : String)
  | busy (reference : String)
  | claude
  | duplicateProviderIdentity (requested existing : String)
  | identity
  | invalidAlias
  | invalidRegistry (reason : String)
  | io
  | notFound (reference : String)
  | registrationRecoveryRequired
  | reauthCommitUncertain
  | reauthRecoveryRequired
  | removalCommitUncertain
  | removalRecoveryRequired
  | registryCommitUncertain
  | unsafeState (reason : String)
deriving DecidableEq, Repr

def Provider.asStr : Provider → String
  | .claude => "claude"
  | .codex => "codex"

structure Profile where
  id : String
  aliasName : String
  provider : Provider
  createdAt : ℤ
deriving DecidableEq, Repr

def Profile.reference (profile : Profile) : String := s!"{profile.provider.asStr}@{profile.aliasName}"

structure RegistryDocument where
  schemaVersion : ℕ := registrySchemaVersion
  profiles : List Profile := []
deriving DecidableEq, Repr

def validateProfileId (id : String) : Except ProfileError Unit := do
  let parsed ← okOr (Uuid.parseStr id) (.invalidRegistry "profile id is not a UUID")
  rejectIf (parsed.toString ≠ id) (.invalidRegistry "profile id is not canonical")

/-- An ASCII letter or digit. -/
def isAsciiAlphanumeric (b : UInt8) : Bool :=
  (48 ≤ b ∧ b ≤ 57) ∨ (65 ≤ b ∧ b ≤ 90) ∨ (97 ≤ b ∧ b ≤ 122)

def validateAlias (aliasName : String) : Except ProfileError Unit :=
  let value := bytes aliasName
  let startsValid := value.head?.any isAsciiAlphanumeric
  let allValid := value.all fun b => isAsciiAlphanumeric b ∨ b = 46 ∨ b = 95 ∨ b = 45
  rejectIf (value.isEmpty ∨ value.length > 64 ∨ ¬ startsValid ∨ ¬ allValid) .invalidAlias

def RegistryDocument.validate (document : RegistryDocument) : Except ProfileError Unit := do
  rejectIf (document.schemaVersion ≠ registrySchemaVersion)
    (.invalidRegistry s!"unsupported registry schema {document.schemaVersion}")
  forEach document.profiles fun index profile => do
    validateProfileId profile.id
    match validateAlias profile.aliasName with
    | .ok () => pure ()
    | .error _ => throw (.invalidRegistry s!"profile {index} has an invalid alias")
    rejectIf ((document.profiles.take index).any fun previous => previous.id = profile.id ∨
        (previous.provider = profile.provider ∧ previous.aliasName = profile.aliasName))
      (.invalidRegistry "registry contains a duplicate profile")

def Profile.toJson (profile : Profile) : Json :=
  .obj [("id", .str profile.id), ("alias", .str profile.aliasName),
    ("provider", profile.provider.toJson), ("created_at", .int profile.createdAt)]

def RegistryDocument.toJson (document : RegistryDocument) : Json :=
  .obj [("schema_version", .int document.schemaVersion),
    ("profiles", .arr (document.profiles.map Profile.toJson))]

/-! ## Where profiles are -/

def providerRoot (provider : Provider) : List String := ["profiles", provider.asStr]

def Profile.directory (profile : Profile) : List String :=
  ["profiles", profile.provider.asStr, profile.id]

def Profile.home (profile : Profile) : List String :=
  ["profiles", profile.provider.asStr, profile.id, "home"]

/-- A valid profile id is the text of a UUID. -/
theorem validateProfileId_iff {id : String} :
    validateProfileId id = .ok () ↔ ∃ u : Uuid, u.toString = id := by
  rw [validateProfileId, bind_eq_ok]
  simp only [okOr_eq_ok, rejectIf_eq_ok, not_not]
  constructor
  · rintro ⟨u, -, hu⟩
    exact ⟨u, hu⟩
  · rintro ⟨u, rfl⟩
    exact ⟨u, Uuid.parseStr_toString u, rfl⟩

/-- A profile id begins with a digit, and the names of everything else beside it with a dot. -/
theorem ne_dotted_of_validateProfileId {id : String} (h : validateProfileId id = .ok ())
    (name : String) : id ≠ "." ++ name := by
  obtain ⟨u, rfl⟩ := validateProfileId_iff.1 h
  obtain ⟨nibbles, hlen⟩ := u
  intro heq
  match nibbles, hlen with
  | n :: rest, _ =>
    have hhead := congrArg (fun s : String => s.toList.head?) heq
    have hdigit : ∀ n : Fin 16, Uuid.hexDigit n ≠ '.' := by decide
    simp [Uuid.toString, Uuid.hyphenate, hdigit] at hhead

end Calcifer
