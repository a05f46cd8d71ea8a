import Calcifer.Library.Checks
import Calcifer.Library.Json

/-!
# Effective thread settings

What is read of the settings in a result of the app server: `parseThreadSettings` projects a result
to `EffectiveThreadSettings`, `forkParams` turns a projection into the parameters of a fork, and the
settings of the forked thread are accepted when they project to the same value.

The projection leaves three fields of a `workspaceWrite` sandbox out. `fork_authority_iff` says
exactly when an accepted fork has no more authority than its source.
-/

namespace Calcifer

open Checks Json

/-- Where the transport of a readiness relay failed. -/
inductive ReadinessTransportOrigin where
  | clientConfigure
  | clientClone
  | clientEof
  | clientRead
  | clientWrite
  | upstreamClone
  | upstreamEof
  | upstreamRead
  | upstreamWrite
  | observationDelivery
  | observationChannelDisconnected
  | lifecycleDisconnected
  | workerFinished
  | healthClientPoll
  | healthClientPeek
  | healthClientEof
  | healthUpstreamPoll
  | healthUpstreamPeek
  | healthUpstreamEof
deriving DecidableEq, Repr

inductive ReadinessProxyError where
  | invalidArgument
  | bind
  | accept
  | connect
  | handshakeTooLarge
  | invalidHandshake
  | frameTooLarge
  | invalidFrame
  | invalidMessage
  | unexpectedSequence
  | targetMismatch
  | timeout
  | transport (origin : ReadinessTransportOrigin)
  | worker
  | cleanup
deriving DecidableEq, Repr

inductive EffectiveApprovalPolicy where
  | untrusted
  | onRequest
  | never
  | granular (sandboxApproval rules skillApproval requestPermissions mcpElicitations : Bool)
deriving DecidableEq, Repr

inductive EffectiveApprovalsReviewer where
  | user
  | autoReview
deriving DecidableEq, Repr

inductive EffectiveSandboxType where
  | dangerFullAccess
  | readOnly
  | externalSandbox
  | workspaceWrite
deriving DecidableEq, Repr

inductive EffectiveNetworkAccess where
  | unspecified
  | restricted
  | enabled
deriving DecidableEq, Repr

structure EffectiveThreadSettings where
  cwd : String
  model : String
  modelProvider : String
  approvalPolicy : EffectiveApprovalPolicy
  approvalsReviewer : EffectiveApprovalsReviewer
  sandboxType : EffectiveSandboxType
  sandboxNetworkAccess : EffectiveNetworkAccess
deriving DecidableEq, Repr

def maxCwdBytes : ℕ := 16 * 1024
def maxModelBytes : ℕ := 512
def maxModelProviderBytes : ℕ := 256
def maxPolicyBytes : ℕ := 128
def maxReviewerBytes : ℕ := 128
def maxSandboxTypeBytes : ℕ := 128
def maxWritableRoots : ℕ := 64

/-! ## Parsing -/

/-- A control character: the codes below 32, and 127 to 159. -/
def isControl (c : Char) : Bool := c.toNat < 32 ∨ (127 ≤ c.toNat ∧ c.toNat < 160)

def validBoundedText (value : String) (maxBytes : ℕ) : Bool :=
  value ≠ "" ∧ (Text.bytes value).length ≤ maxBytes ∧ ¬ value.toList.any isControl

def boundedText (value : Option Json) (maxBytes : ℕ) : Option String :=
  (value.bind asStr).filter fun value => validBoundedText value maxBytes

def validAbsoluteCwd (value : String) : Bool :=
  validBoundedText value maxCwdBytes ∧ UnixPath.isAbsolute value ∧
    (UnixPath.components value).all fun component =>
      component ≠ .curDir ∧ component ≠ .parentDir

def containsKey (object : List (String × Json)) (name : String) : Bool := (member object name).isSome

def hasExactKeys (object : List (String × Json)) (expected : List String) : Bool :=
  object.length = expected.length ∧ expected.all fun key => containsKey object key

def boolNetworkAccess (value : Option Json) :
    Except ReadinessProxyError EffectiveNetworkAccess :=
  match value.bind asBool with
  | some false => pure .restricted
  | some true => pure .enabled
  | none => .error .invalidMessage

def parseGranular (granular : List (String × Json)) :
    Except ReadinessProxyError EffectiveApprovalPolicy := do
  let allowed := ["sandbox_approval", "rules", "skill_approval", "request_permissions",
    "mcp_elicitations"]
  let required := ["sandbox_approval", "rules", "mcp_elicitations"]
  rejectIf (granular.length > allowed.length ∨
    (granular.any fun entry => ¬ allowed.contains entry.1) ∨
    required.any fun key => ¬ containsKey granular key) .invalidMessage
  let requiredBool (name : String) : Except ReadinessProxyError Bool :=
    okOr ((member granular name).bind asBool) .invalidMessage
  let optionalBool (name : String) : Except ReadinessProxyError Bool :=
    match member granular name with
    | none => pure false
    | some value => okOr value.asBool .invalidMessage
  return .granular (← requiredBool "sandbox_approval") (← requiredBool "rules")
    (← optionalBool "skill_approval") (← optionalBool "request_permissions")
    (← requiredBool "mcp_elicitations")

def parseApprovalPolicy (value : Json) : Except ReadinessProxyError EffectiveApprovalPolicy :=
  match value.asStr with
  | some policy => do
    rejectIf (¬ validBoundedText policy maxPolicyBytes) .invalidMessage
    match policy with
    | "untrusted" => pure .untrusted
    | "on-request" => pure .onRequest
    | "never" => pure .never
    | _ => .error .invalidMessage
  | none => do
    let outer ← okOr (value.asObject.filter fun outer => hasExactKeys outer ["granular"])
      .invalidMessage
    let granular ← okOr ((member outer "granular").bind asObject) .invalidMessage
    parseGranular granular

/-- The checks on the fields of a `workspaceWrite` sandbox, whose values are not kept. -/
def checkWorkspaceWrite (sandbox : List (String × Json)) : Except ReadinessProxyError Unit := do
  let writableRoots ← okOr (((member sandbox "writableRoots").bind asArray).filter fun roots =>
    roots.length ≤ maxWritableRoots) .invalidMessage
  rejectIf ((writableRoots.any fun root => ¬ root.asStr.any validAbsoluteCwd) ∨
    (member sandbox "excludeTmpdirEnvVar").bind asBool = none ∨
    (member sandbox "excludeSlashTmp").bind asBool = none) .invalidMessage

def parseSandboxSettings (sandbox : List (String × Json)) :
    Except ReadinessProxyError (EffectiveSandboxType × EffectiveNetworkAccess) := do
  let sandboxType ← okOr (boundedText (member sandbox "type") maxSandboxTypeBytes) .invalidMessage
  if sandboxType = "dangerFullAccess" ∧ hasExactKeys sandbox ["type"] then
    pure (.dangerFullAccess, .unspecified)
  else if sandboxType = "readOnly" ∧ hasExactKeys sandbox ["type", "networkAccess"] then do
    let networkAccess ← boolNetworkAccess (member sandbox "networkAccess")
    pure (.readOnly, networkAccess)
  else if sandboxType = "externalSandbox" ∧ hasExactKeys sandbox ["type", "networkAccess"] then
    match boundedText (member sandbox "networkAccess") maxPolicyBytes with
    | some "restricted" => pure (.externalSandbox, .restricted)
    | some "enabled" => pure (.externalSandbox, .enabled)
    | _ => .error .invalidMessage
  else if sandboxType = "workspaceWrite" ∧ hasExactKeys sandbox ["type", "writableRoots",
      "networkAccess", "excludeTmpdirEnvVar", "excludeSlashTmp"] then do
    checkWorkspaceWrite sandbox
    let networkAccess ← boolNetworkAccess (member sandbox "networkAccess")
    pure (.workspaceWrite, networkAccess)
  else .error .invalidMessage

def parseApprovalsReviewer (value : Option Json) :
    Except ReadinessProxyError EffectiveApprovalsReviewer :=
  match boundedText value maxReviewerBytes with
  | some "user" => pure .user
  | some "auto_review" => pure .autoReview
  | some "guardian_subagent" => pure .autoReview
  | _ => .error .invalidMessage

def settingNames : List String :=
  ["cwd", "model", "modelProvider", "approvalPolicy", "approvalsReviewer", "sandbox"]

def parseThreadSettings (result : Json) :
    Except ReadinessProxyError (Option EffectiveThreadSettings) :=
  match result.asObject with
  | none => pure none
  | some object =>
    if settingNames.all fun name => ¬ containsKey object name then pure none
    else do
      rejectIf (settingNames.any fun name => ¬ containsKey object name) .invalidMessage
      let sandbox ← okOr ((member object "sandbox").bind asObject) .invalidMessage
      let cwd ← okOr ((boundedText (member object "cwd") maxCwdBytes).filter validAbsoluteCwd)
        .invalidMessage
      let policy ← okOr (member object "approvalPolicy") .invalidMessage
      let approvalPolicy ← parseApprovalPolicy policy
      let approvalsReviewer ← parseApprovalsReviewer (member object "approvalsReviewer")
      let (sandboxType, sandboxNetworkAccess) ← parseSandboxSettings sandbox
      let model ← okOr (boundedText (member object "model") maxModelBytes) .invalidMessage
      let modelProvider ← okOr (boundedText (member object "modelProvider") maxModelProviderBytes)
        .invalidMessage
      pure (some { cwd, model, modelProvider, approvalPolicy, approvalsReviewer, sandboxType
                   sandboxNetworkAccess })

/-! ## Forking -/

def EffectiveApprovalPolicy.forkParam : EffectiveApprovalPolicy → Json
  | .untrusted => .str "untrusted"
  | .onRequest => .str "on-request"
  | .never => .str "never"
  | .granular sandboxApproval rules skillApproval requestPermissions mcpElicitations =>
    .obj [("granular", .obj [("sandbox_approval", .bool sandboxApproval), ("rules", .bool rules),
      ("skill_approval", .bool skillApproval), ("request_permissions", .bool requestPermissions),
      ("mcp_elicitations", .bool mcpElicitations)])]

def EffectiveSandboxType.forkParam : EffectiveSandboxType → String
  | .dangerFullAccess => "danger-full-access"
  | .readOnly => "read-only"
  | .externalSandbox => "external-sandbox"
  | .workspaceWrite => "workspace-write"

/-- The parameters of a fork. Only an absolute path that is UTF-8 can be sent. -/
def EffectiveThreadSettings.forkParams (settings : EffectiveThreadSettings)
    (sourcePath : List UInt8) : Option Json :=
  if settings.approvalsReviewer ≠ .user ∨ sourcePath.head? ≠ some 47 then none
  else (String.fromUTF8? ⟨sourcePath.toArray⟩).map fun path =>
    .obj [("threadId", .str ""), ("path", .str path), ("cwd", .str settings.cwd),
      ("model", .str settings.model), ("modelProvider", .str settings.modelProvider),
      ("approvalPolicy", settings.approvalPolicy.forkParam),
      ("sandbox", .str settings.sandboxType.forkParam), ("ephemeral", .bool false)]

/-- What `fork_handoff_rollout` asks of the settings in the response to a fork. -/
def acceptsForkSettings (sourceSettings : EffectiveThreadSettings) (result : Json) : Bool :=
  match parseThreadSettings result with
  | .ok (some returnedSettings) => returnedSettings = sourceSettings
  | _ => false

/-! ## Authority -/

/-- A field of the sandbox of a result. -/
def sandboxField (result : Json) (name : String) : Option Json :=
  (result.get "sandbox").bind fun sandbox => sandbox.get name

/-- The roots a sandbox may write to. -/
def writableRoots (result : Json) : List String :=
  (((sandboxField result "writableRoots").bind asArray).getD []).filterMap asStr

/-- Whether a sandbox excludes a temporary directory. -/
def excludes (result : Json) (name : String) : Bool :=
  ((sandboxField result name).bind asBool).getD false

/-- The fork `f` has no authority that the source `s` does not have. -/
structure NoBroader (s f : Json) : Prop where
  approvalPolicy : (f.get "approvalPolicy").map parseApprovalPolicy =
    (s.get "approvalPolicy").map parseApprovalPolicy
  approvalsReviewer : f.get "approvalsReviewer" = s.get "approvalsReviewer"
  sandboxType : sandboxField f "type" = sandboxField s "type"
  networkAccess : sandboxField f "networkAccess" = sandboxField s "networkAccess"
  writableRoots : ∀ root ∈ writableRoots f, root ∈ writableRoots s
  excludeTmpdirEnvVar : excludes s "excludeTmpdirEnvVar" → excludes f "excludeTmpdirEnvVar"
  excludeSlashTmp : excludes s "excludeSlashTmp" → excludes f "excludeSlashTmp"

/-- The fields of a `workspaceWrite` sandbox that the projection leaves out are not wider in `f`. -/
def UnprojectedCovered (s f : Json) : Prop :=
  sandboxField s "type" = some (.str "workspaceWrite") →
    (∀ root ∈ writableRoots f, root ∈ writableRoots s) ∧
    (excludes s "excludeTmpdirEnvVar" → excludes f "excludeTmpdirEnvVar") ∧
    (excludes s "excludeSlashTmp" → excludes f "excludeSlashTmp")

/-! ## What the projection determines -/

/-- The wire name of a sandbox type. -/
def EffectiveSandboxType.wire : EffectiveSandboxType → String
  | .dangerFullAccess => "dangerFullAccess"
  | .readOnly => "readOnly"
  | .externalSandbox => "externalSandbox"
  | .workspaceWrite => "workspaceWrite"

/-- The wire value of a network access, which depends on the sandbox type. -/
def EffectiveNetworkAccess.wire : EffectiveSandboxType → EffectiveNetworkAccess → Option Json
  | .externalSandbox, .restricted => some (.str "restricted")
  | .externalSandbox, .enabled => some (.str "enabled")
  | _, .unspecified => none
  | _, .restricted => some (.bool false)
  | _, .enabled => some (.bool true)

theorem boundedText_eq_some {value : Option Json} {maxBytes : ℕ} {text : String}
    (h : boundedText value maxBytes = some text) : value = some (.str text) := by
  obtain ⟨h, -⟩ := Option.filter_eq_some_iff.1 h
  obtain ⟨json, rfl, h⟩ := Option.bind_eq_some_iff.1 h
  cases json <;> cases h
  rfl

theorem boolNetworkAccess_wire {value : Option Json} {networkAccess : EffectiveNetworkAccess}
    (h : boolNetworkAccess value = .ok networkAccess) {sandboxType : EffectiveSandboxType}
    (ht : sandboxType ≠ .externalSandbox) : value = networkAccess.wire sandboxType := by
  unfold boolNetworkAccess at h
  have bool : ∀ b, value.bind asBool = some b → value = some (.bool b) := by
    intro b hb
    obtain ⟨json, rfl, hb⟩ := Option.bind_eq_some_iff.1 hb
    cases json <;> cases hb
    rfl
  split at h
  · cases h
    cases sandboxType <;> first | exact bool _ ‹_› | exact absurd rfl ht
  · cases h
    cases sandboxType <;> first | exact bool _ ‹_› | exact absurd rfl ht
  · cases h

/-- An object with exactly the expected keys has no other member. -/
theorem member_eq_none_of_exactKeys {object : List (String × Json)} {expected : List String}
    (h : hasExactKeys object expected) (nodup : expected.Nodup) {name : String}
    (hn : name ∉ expected) : member object name = none := by
  simp only [hasExactKeys, Bool.decide_and, Bool.and_eq_true,
    decide_eq_true_eq, List.all_eq_true] at h
  obtain ⟨length, contains⟩ := h
  have subset : expected ⊆ object.map Prod.fst := by
    intro key hk
    have := contains key hk
    simp only [containsKey, member, Option.isSome_map, List.find?_isSome, decide_eq_true_eq] at this
    obtain ⟨entry, he, rfl⟩ := this
    exact List.mem_map.2 ⟨entry, he, rfl⟩
  have perm : List.Perm expected (object.map Prod.fst) :=
    (List.subperm_of_subset nodup subset).perm_of_length_le (by simp [length])
  simp only [member, Option.map_eq_none_iff, List.find?_eq_none, decide_eq_true_eq]
  intro entry he hname
  exact hn (perm.mem_iff.2 (List.mem_map.2 ⟨entry, he, hname⟩))

/-- The fields of a sandbox that its projection determines. -/
structure SandboxFields (sandbox : List (String × Json)) (sandboxType : EffectiveSandboxType)
    (networkAccess : EffectiveNetworkAccess) : Prop where
  type_eq : member sandbox "type" = some (.str sandboxType.wire)
  networkAccess_eq : member sandbox "networkAccess" = networkAccess.wire sandboxType
  others : sandboxType ≠ .workspaceWrite →
    ∀ name ∈ ["writableRoots", "excludeTmpdirEnvVar", "excludeSlashTmp"], member sandbox name = none

theorem sandboxFields_of_parse {sandbox : List (String × Json)} {sandboxType : EffectiveSandboxType}
    {networkAccess : EffectiveNetworkAccess}
    (h : parseSandboxSettings sandbox = .ok (sandboxType, networkAccess)) :
    SandboxFields sandbox sandboxType networkAccess := by
  have none_of {expected : List String} (keys : hasExactKeys sandbox expected)
      (nodup : expected.Nodup)
      (other : ∀ name ∈ ["writableRoots", "excludeTmpdirEnvVar", "excludeSlashTmp"],
        name ∉ expected) :
      ∀ name ∈ ["writableRoots", "excludeTmpdirEnvVar", "excludeSlashTmp"],
        member sandbox name = none :=
    fun name hn => member_eq_none_of_exactKeys keys nodup (other name hn)
  simp only [parseSandboxSettings, bind_eq_ok, okOr_eq_ok] at h
  obtain ⟨text, htext, h⟩ := h
  have type_eq := boundedText_eq_some htext
  split_ifs at h with danger readOnly external workspace
  · obtain ⟨rfl, keys⟩ := danger
    cases h
    exact ⟨type_eq, member_eq_none_of_exactKeys keys (by decide) (by decide),
      fun _ => none_of keys (by decide) (by decide)⟩
  · obtain ⟨rfl, keys⟩ := readOnly
    simp only [bind_eq_ok, pure_eq_ok, Prod.mk.injEq] at h
    obtain ⟨_, network, rfl, rfl⟩ := h
    exact ⟨type_eq, boolNetworkAccess_wire network (by decide),
      fun _ => none_of keys (by decide) (by decide)⟩
  · obtain ⟨rfl, keys⟩ := external
    split at h
    · cases h
      exact ⟨type_eq, boundedText_eq_some ‹_›, fun _ => none_of keys (by decide) (by decide)⟩
    · cases h
      exact ⟨type_eq, boundedText_eq_some ‹_›, fun _ => none_of keys (by decide) (by decide)⟩
    · cases h
  · obtain ⟨rfl, keys⟩ := workspace
    simp only [bind_eq_ok, pure_eq_ok, Prod.mk.injEq] at h
    obtain ⟨-, -, _, network, rfl, rfl⟩ := h
    exact ⟨type_eq, boolNetworkAccess_wire network (by decide), fun h => absurd rfl h⟩

/-- The fields of a result that its projection determines. -/
structure ResultFields (result : Json) (settings : EffectiveThreadSettings) : Prop where
  approvalPolicy : ∃ policy, result.get "approvalPolicy" = some policy ∧
    parseApprovalPolicy policy = .ok settings.approvalPolicy
  approvalsReviewer :
    parseApprovalsReviewer (result.get "approvalsReviewer") = .ok settings.approvalsReviewer
  sandbox : ∃ sandbox, (∀ name, sandboxField result name = member sandbox name) ∧
    SandboxFields sandbox settings.sandboxType settings.sandboxNetworkAccess

theorem resultFields_of_parse {result : Json} {settings : EffectiveThreadSettings}
    (h : parseThreadSettings result = .ok (some settings)) : ResultFields result settings := by
  unfold parseThreadSettings at h
  split at h
  · cases h
  rename_i object hobject
  have get_eq : ∀ name, result.get name = member object name := by
    intro name
    rw [Json.get, hobject]
    rfl
  split_ifs at h
  · cases h
  simp only [bind_eq_ok, okOr_eq_ok, pure_eq_ok, Option.some.injEq] at h
  obtain ⟨-, -, sandbox, hsandbox, cwd, -, policy, hpolicy, approvalPolicy, hap, reviewer, hr,
    ⟨sandboxType, networkAccess⟩, hs, model, -, provider, -, rfl⟩ := h
  refine ⟨⟨policy, get_eq _ ▸ hpolicy, hap⟩, get_eq _ ▸ hr, sandbox, fun name => ?_,
    sandboxFields_of_parse hs⟩
  obtain ⟨json, hj, hsb⟩ := Option.bind_eq_some_iff.1 hsandbox
  rw [sandboxField, get_eq, hj, Option.bind_some, Json.get, hsb, Option.bind_some]

/-- A reviewer that lets a fork happen is named by one text only. -/
theorem reviewer_user {value : Option Json} (h : parseApprovalsReviewer value = .ok .user) :
    value = some (.str "user") := by
  unfold parseApprovalsReviewer at h
  split at h
  · exact boundedText_eq_some ‹_›
  · cases h
  · cases h
  · cases h

/-- A fork whose settings are accepted has no more authority than its source exactly when the fields
the projection leaves out are not wider. -/
theorem fork_authority_iff {s f : Json} {settings : EffectiveThreadSettings}
    {sourcePath : List UInt8} (source : parseThreadSettings s = .ok (some settings))
    (params : (settings.forkParams sourcePath).isSome) (accepted : acceptsForkSettings settings f) :
    NoBroader s f ↔ UnprojectedCovered s f := by
  have fork : parseThreadSettings f = .ok (some settings) := by
    unfold acceptsForkSettings at accepted
    split at accepted
    · rename_i returned h
      rw [h, of_decide_eq_true accepted]
    · cases accepted
  have user : settings.approvalsReviewer = .user := by
    by_contra hr
    simp [EffectiveThreadSettings.forkParams, hr] at params
  have sf := resultFields_of_parse source
  have ff := resultFields_of_parse fork
  obtain ⟨sandbox, sget, sbox⟩ := sf.sandbox
  obtain ⟨sandbox', fget, fbox⟩ := ff.sandbox
  constructor
  · intro h _
    exact ⟨h.writableRoots, h.excludeTmpdirEnvVar, h.excludeSlashTmp⟩
  · intro h
    -- outside workspaceWrite there is nothing to cover
    have covered : (∀ root ∈ writableRoots f, root ∈ writableRoots s) ∧
        (excludes s "excludeTmpdirEnvVar" → excludes f "excludeTmpdirEnvVar") ∧
        (excludes s "excludeSlashTmp" → excludes f "excludeSlashTmp") := by
      by_cases ht : settings.sandboxType = .workspaceWrite
      · exact h (by rw [sget, sbox.type_eq, ht]; rfl)
      · have snone := sbox.others ht
        have fnone := fbox.others ht
        refine ⟨?_, ?_, ?_⟩
        · simp [writableRoots, fget, fnone "writableRoots"]
        · simp [excludes, sget, snone "excludeTmpdirEnvVar"]
        · simp [excludes, sget, snone "excludeSlashTmp"]
    obtain ⟨roots, tmpdir, slash⟩ := covered
    obtain ⟨policy, hp, parsed⟩ := sf.approvalPolicy
    obtain ⟨policy', hp', parsed'⟩ := ff.approvalPolicy
    refine ⟨?_, ?_, ?_, ?_, roots, tmpdir, slash⟩
    · rw [hp, hp', Option.map_some, Option.map_some, parsed, parsed']
    · have sr := sf.approvalsReviewer
      have fr := ff.approvalsReviewer
      rw [user] at sr fr
      rw [reviewer_user sr, reviewer_user fr]
    · rw [sget, fget, sbox.type_eq, fbox.type_eq]
    · rw [sget, fget, sbox.networkAccess_eq, fbox.networkAccess_eq]

/-- The result of a thread in a `workspaceWrite` sandbox. -/
def sampleResult (roots : List String) (excludeSlashTmp : Bool) : Json :=
  .obj [("cwd", .str "/work"), ("model", .str "gpt-5"), ("modelProvider", .str "openai"),
    ("approvalPolicy", .str "on-request"), ("approvalsReviewer", .str "user"),
    ("sandbox", .obj [("type", .str "workspaceWrite"), ("writableRoots", .arr (roots.map .str)),
      ("networkAccess", .bool false), ("excludeTmpdirEnvVar", .bool true),
      ("excludeSlashTmp", .bool excludeSlashTmp)])]

def sampleSettings : EffectiveThreadSettings where
  cwd := "/work"
  model := "gpt-5"
  modelProvider := "openai"
  approvalPolicy := .onRequest
  approvalsReviewer := .user
  sandboxType := .workspaceWrite
  sandboxNetworkAccess := .restricted

theorem sampleResult_parses (excludeSlashTmp : Bool) :
    parseThreadSettings (sampleResult ["/work"] excludeSlashTmp) = .ok (some sampleSettings) ∧
    acceptsForkSettings sampleSettings (sampleResult ["/work"] excludeSlashTmp) ∧
    (sampleSettings.forkParams (Text.bytes "/home/a/rollout.jsonl")).isSome := by
  cases excludeSlashTmp <;> decide +kernel

theorem fork_authority_same :
    NoBroader (sampleResult ["/work"] false) (sampleResult ["/work"] true) :=
  (fork_authority_iff (sampleResult_parses false).1 (sampleResult_parses false).2.2
    (sampleResult_parses true).2.1).2 fun _ => by decide +kernel

/-- A fork that may also write to the home directory and to `/tmp` is accepted. -/
theorem fork_authority_wider :
    parseThreadSettings (sampleResult ["/work"] true) = .ok (some sampleSettings) ∧
    (sampleSettings.forkParams (Text.bytes "/home/a/rollout.jsonl")).isSome ∧
    acceptsForkSettings sampleSettings (sampleResult ["/work", "/home/a"] false) ∧
    ¬ NoBroader (sampleResult ["/work"] true) (sampleResult ["/work", "/home/a"] false) := by
  refine ⟨(sampleResult_parses true).1, (sampleResult_parses true).2.2, by decide +kernel, fun h => ?_⟩
  have := h.writableRoots "/home/a" (by decide +kernel)
  revert this
  decide +kernel

end Calcifer
