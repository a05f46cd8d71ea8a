import Calcifer.Library.Serde
import Calcifer.Codex.ThreadSettings

/-!
# Usage snapshots

What is read of the answers of the app server to `initialize` and to `account/rateLimits/read`:
`validateInitializeResult` admits the answer of a supported version for the selected home,
`parseRateLimitsResult` reads a `CodexUsage`, `validateUsageResult` bounds the texts and times in
it beforehand, and `classifyRpcError` sorts the errors.
-/

namespace Calcifer

open Checks Json Serde

/-! ## Usage -/

structure RateLimitWindow where
  usedPercent : ℕ
  remainingPercent : ℕ
  windowDurationMins : Option ℕ
  resetsAt : Option ℤ
deriving DecidableEq, Repr

structure CreditsSnapshot where
  hasCredits : Bool
  unlimited : Bool
  balance : Option String
deriving DecidableEq, Repr

structure SpendControlLimitSnapshot where
  limit : String
  used : String
  remainingPercent : ℕ
  resetsAt : ℤ
deriving DecidableEq, Repr

/-- A rate-limit bucket. -/
structure RateLimitSnapshot where
  limitId : Option String
  limitName : Option String
  planType : Option String
  rateLimitReachedType : Option String
  primary : Option RateLimitWindow
  secondary : Option RateLimitWindow
  credits : Option CreditsSnapshot
  individualLimit : Option SpendControlLimitSnapshot
deriving DecidableEq, Repr

structure ResetCreditDetail where
  grantedAt : ℤ
  expiresAt : Option ℤ
  resetType : String
  status : String
deriving DecidableEq, Repr

structure ResetCredits where
  availableCount : ℕ
  details : Option (List ResetCreditDetail)
deriving DecidableEq, Repr

/-- The usage snapshot of an account. -/
structure CodexUsage where
  rateLimits : Option RateLimitSnapshot
  rateLimitsByLimitId : List (String × RateLimitSnapshot)
  resetCredits : Option ResetCredits
deriving DecidableEq, Repr

inductive CodexUsageError where
  | unsupported
  | protocol
  | authentication
  | timeout
  | transport
  | provider
  | spawn
deriving DecidableEq, Repr

def wireRateLimitWindow (value : Json) : Option RateLimitWindow := do
  let wire ← fields 3 value
  let usedPercent ← wire.required (unsigned 32) 0 "usedPercent"
  let windowDurationMins ← wire.optional (unsigned 64) 1 "windowDurationMins"
  let resetsAt ← wire.optional asI64 2 "resetsAt"
  return { usedPercent, remainingPercent := 100 - min usedPercent 100, windowDurationMins, resetsAt }

def wireCreditsSnapshot (value : Json) : Option CreditsSnapshot := do
  let wire ← fields 3 value
  return {
    hasCredits := ← wire.required asBool 0 "hasCredits"
    unlimited := ← wire.required asBool 1 "unlimited"
    balance := ← wire.optional asStr 2 "balance" }

def wireSpendControlLimitSnapshot (value : Json) : Option SpendControlLimitSnapshot := do
  let wire ← fields 4 value
  return {
    limit := ← wire.required asStr 0 "limit"
    used := ← wire.required asStr 1 "used"
    remainingPercent := ← wire.required (unsigned 32) 2 "remainingPercent"
    resetsAt := ← wire.required asI64 3 "resetsAt" }

def wireRateLimitSnapshot (value : Json) : Option RateLimitSnapshot := do
  let wire ← fields 8 value
  return {
    limitId := ← wire.optional asStr 0 "limitId"
    limitName := ← wire.optional asStr 1 "limitName"
    planType := ← wire.optional asStr 2 "planType"
    rateLimitReachedType := ← wire.optional asStr 3 "rateLimitReachedType"
    primary := ← wire.optional wireRateLimitWindow 4 "primary"
    secondary := ← wire.optional wireRateLimitWindow 5 "secondary"
    credits := ← wire.optional wireCreditsSnapshot 6 "credits"
    individualLimit := ← wire.optional wireSpendControlLimitSnapshot 7 "individualLimit" }

def wireResetCreditDetail (value : Json) : Option ResetCreditDetail := do
  let wire ← fields 4 value
  return {
    grantedAt := ← wire.required asI64 0 "grantedAt"
    expiresAt := ← wire.optional asI64 1 "expiresAt"
    resetType := ← wire.required asStr 2 "resetType"
    status := ← wire.required asStr 3 "status" }

def wireResetCredits (value : Json) : Option ResetCredits := do
  let wire ← fields 2 value
  return {
    availableCount := ← wire.required (unsigned 64) 0 "availableCount"
    details := ← wire.optional (list wireResetCreditDetail) 1 "credits" }

def wireRateLimitsResult (value : Json) : Option CodexUsage := do
  let wire ← fields 3 value
  let rateLimits ← wire.required wireRateLimitSnapshot 0 "rateLimits"
  let byLimitId ← wire.optional (table wireRateLimitSnapshot) 1 "rateLimitsByLimitId"
  let resetCredits ← wire.optional wireResetCredits 2 "rateLimitResetCredits"
  return { rateLimits := some rateLimits, rateLimitsByLimitId := byLimitId.getD [], resetCredits }

def parseRateLimitsResult (result : Json) : Except CodexUsageError CodexUsage :=
  okOr (wireRateLimitsResult result) .protocol

/-! ## Errors -/

/-- Whether a text has a piece. -/
def hasPiece (text piece : String) : Bool := piece.toList <:+: text.toList

def classifyRpcError (error : Json) : CodexUsageError :=
  match (error.get "code").bind asI64, (error.get "message").bind asStr with
  | some code, some message =>
    let message := message.toLower
    if code = -32601 ∨ ["method not found", "not supported", "unsupported", "unimplemented"].any
        fun needle => hasPiece message needle then
      .unsupported
    else if ["auth", "credential", "login required", "not logged in", "unauthorized"].any
        fun needle => hasPiece message needle then
      .authentication
    else .provider
  | _, _ => .protocol

/-! ## The initialize result -/

def appServerClientName : String := "calcifer"

def supportedCodexStatusVersions : List String := ["0.144.4"]

/-- What stands before and after the first occurrence of a character. -/
def splitOnce (c : Char) (text : List Char) : Option (List Char × List Char) :=
  if c ∈ text then some (text.takeWhile (· ≠ c), (text.dropWhile (· ≠ c)).tail) else none

def validSemverIdentifiers (value : List Char) (rejectNumericLeadingZero : Bool) : Bool :=
  value ≠ [] ∧ (value.splitOn '.').all fun identifier =>
    identifier ≠ [] ∧ (identifier.all fun c => c.isAlphanum ∨ c = '-') ∧
      ¬(rejectNumericLeadingZero ∧ 1 < identifier.length ∧ identifier.head? = some '0' ∧
        identifier.all Char.isDigit)

/-- A number without a leading zero that fits 32 bits. -/
def parseVersionComponent (component : List Char) : Option ℕ :=
  if component = [] ∨ 10 < component.length ∨ ¬component.all Char.isDigit ∨
      (1 < component.length ∧ component.head? = some '0') then
    none
  else (some (component.foldl (fun n c => 10 * n + (c.toNat - '0'.toNat)) 0)).filter (· < 2 ^ 32)

def normalizeCodexVersion (version : String) : Option String := do
  let text := version.toList
  if text = [] ∨ 64 < text.length ∨ ¬text.all (fun c => c.toNat < 128) then failure
  let withoutBuild ← match splitOnce '+' text with
    | some (withoutBuild, build) =>
      if '+' ∈ build ∨ ¬validSemverIdentifiers build false then none else some withoutBuild
    | none => some text
  let core ← match splitOnce '-' withoutBuild with
    | some (core, prerelease) => if validSemverIdentifiers prerelease true then some core else none
    | none => some withoutBuild
  match core.splitOn '.' with
  | [major, minor, patch] =>
    let major ← parseVersionComponent major
    let minor ← parseVersionComponent minor
    let patch ← parseVersionComponent patch
    if (toString major ++ "." ++ toString minor ++ "." ++ toString patch).toList = core then
      return version
    failure
  | _ => none

def isAsciiWhitespace (c : Char) : Bool := c ∈ [' ', '\t', '\n', '\x0c', '\r']

def parseCodexVersion (userAgent : String) : Option String := do
  let token := ((userAgent.toList.dropWhile isAsciiWhitespace).takeWhile fun c =>
    ¬isAsciiWhitespace c)
  if token = [] then failure
  let version ← Text.stripPrefix appServerClientName (String.ofList token)
  normalizeCodexVersion (← Text.stripPrefix "/" version)

structure WireInitializeResult where
  userAgent : String
  codexHome : String
  platformFamily : String
  platformOs : String
deriving DecidableEq, Repr

def wireInitializeResult (value : Json) : Option WireInitializeResult := do
  let wire ← fields 4 value
  return {
    userAgent := ← wire.required asStr 0 "userAgent"
    codexHome := ← wire.required asStr 1 "codexHome"
    platformFamily := ← wire.required asStr 2 "platformFamily"
    platformOs := ← wire.required asStr 3 "platformOs" }

/-- Admit the answer to `initialize`, where `canonicalize` resolves a path. Of an error only the kind is
kept. -/
def validateInitializeResult (canonicalize : String → Option String) (result : Json)
    (selectedCodexHome : String) : Except CodexUsageError String := do
  let wire ← okOr (wireInitializeResult result) .protocol
  rejectIf (wire.platformFamily = "" ∨ wire.platformOs = "") .protocol
  rejectIf (¬UnixPath.isAbsolute wire.codexHome) .unsupported
  let reportedHome ← okOr (canonicalize wire.codexHome) .unsupported
  let selectedHome ← okOr (canonicalize selectedCodexHome) .unsupported
  rejectIf (reportedHome ≠ selectedHome) .unsupported
  let codexVersion ← okOr (parseCodexVersion wire.userAgent) .unsupported
  rejectIf (codexVersion ∉ supportedCodexStatusVersions) .unsupported
  return codexVersion

example : parseCodexVersion " calcifer/0.144.4 (linux)" = some "0.144.4" := by decide +kernel

end Calcifer
