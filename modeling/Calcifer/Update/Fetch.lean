import Calcifer.Library.Logs
import Calcifer.Update.Manifest

/-!
# Fetching

`fetch` follows a bounded number of redirects to an allowed host and returns the body of an answer with
status 200. What the transport answers is left open.
-/

namespace Calcifer.Update

open Checks Program

def apiAccept : String := "application/vnd.github+json"
def assetAccept : String := "application/octet-stream"
def maxRedirects : ℕ := 3
def maxRedirectLocationBytes : ℕ := 4096

structure HttpRequest where
  url : String
  accept : String
deriving DecidableEq, Repr

def HttpRequest.api (url : String) : HttpRequest := { url, accept := apiAccept }

def HttpRequest.asset (url : String) : HttpRequest := { url, accept := assetAccept }

structure HttpHeaders where
  contentEncoding : Option String := none
  location : Option String := none
  rateLimitRemaining : Option String := none
deriving DecidableEq, Repr

structure HttpResponse where
  status : ℕ
  headers : HttpHeaders
  body : List UInt8
deriving DecidableEq, Repr

inductive TransportFailure where
  | network
  | responseTooLarge
deriving DecidableEq, Repr

/-- A call of the transport. -/
structure TransportGet where
  request : HttpRequest
  maxBodyBytes : ℕ
deriving DecidableEq, Repr

abbrev TransportReply (_ : TransportGet) : Type := Except TransportFailure HttpResponse

/-- A check over the transport. -/
abbrev UpdateM : Type → Type := ExceptT UpdateError (Program TransportGet TransportReply)

abbrev TransportLog : Type := List ((call : TransportGet) × TransportReply call)

/-- A step that does not use the transport. -/
def liftPure {α : Type} (x : Except UpdateError α) : UpdateM α := ExceptT.mk (pure x)

def TransportFailure.toError : TransportFailure → UpdateError
  | .network => .network
  | .responseTooLarge => .responseTooLarge

def transportGet (request : HttpRequest) (maxBodyBytes : ℕ) : UpdateM HttpResponse :=
  ExceptT.mk do
    let reply : Except TransportFailure HttpResponse ← perform { request, maxBodyBytes }
    return reply.mapError TransportFailure.toError

variable {Version : Type} (crates : Crates Version)

def allowedHosts : List String :=
  ["api.github.com", "github.com", "release-assets.githubusercontent.com",
    "objects.githubusercontent.com"]

def validateHttpsUrl (value : String) : Except UpdateError Unit := do
  rejectIf (maxRedirectLocationBytes < (Text.bytes value).length ∨ ¬isAscii (Text.bytes value))
    .redirectRejected
  let uri ← okOr (crates.parseUri value) .redirectRejected
  rejectIf (uri.scheme ≠ some "https" ∨ uri.path = "" ∨ ¬uri.authority.any (· ∈ allowedHosts))
    .redirectRejected

def eqIgnoreAsciiCase (left right : String) : Bool :=
  left.toList.map Char.toLower = right.toList.map Char.toLower

/-- What an answer comes to: a body, or the place it redirects to. -/
def readResponse (maxBodyBytes : ℕ) (response : HttpResponse) :
    Except UpdateError (List UInt8 ⊕ Option String) := do
  rejectIf (maxBodyBytes < response.body.length) .responseTooLarge
  rejectIf (response.headers.contentEncoding.any fun encoding => ¬eqIgnoreAsciiCase encoding "identity")
    .schema
  if response.status ∈ [301, 302, 303, 307, 308] then
    return .inr response.headers.location
  else do
    rejectIf (response.status = 429 ∨
      (response.status = 403 ∧ response.headers.rateLimitRemaining = some "0")) .rateLimited
    rejectIf (response.status ≠ 200) .network
    return .inl response.body

/-- Follow so many redirects. -/
def follow (maxBodyBytes : ℕ) : ℕ → HttpRequest → UpdateM (List UInt8)
  | redirects, current => do
    let response ← transportGet current maxBodyBytes
    match ← liftPure (readResponse maxBodyBytes response) with
    | .inl body => return body
    | .inr location =>
      match redirects with
      | 0 => throw .redirectRejected
      | redirects + 1 => do
        let location ← liftPure (okOr location .redirectRejected)
        liftPure (validateHttpsUrl crates location)
        follow maxBodyBytes redirects { current with url := location }

def fetch (request : HttpRequest) (maxBodyBytes : ℕ) : UpdateM (List UInt8) := do
  liftPure (validateHttpsUrl crates request.url)
  follow crates maxBodyBytes maxRedirects request

/-! ## Runs that succeed -/

variable {crates} {α β : Type} {log : TransportLog}

/-- A log that begins with a request and ends with an answer of status 200 that has this body. -/
structure Fetched (request : HttpRequest) (maxBodyBytes : ℕ) (log : TransportLog)
    (body : List UInt8) : Prop where
  first : log.head?.map Sigma.fst = some { request, maxBodyBytes }
  last : ∃ (call : TransportGet) (response : HttpResponse),
    log.getLast? = some ⟨call, (.ok response : Except TransportFailure HttpResponse)⟩ ∧
      response.status = 200 ∧ response.body = body
  bounded : body.length ≤ maxBodyBytes

end Calcifer.Update
