import Calcifer.Update.Fetch

/-!
# Where a fetch goes

Every URL that `fetch` asks for was checked just before, be it its own or the one of an answer, and only
so many are asked for. A chain of redirects that never ends is rejected.
-/

namespace Calcifer.Update

open Checks Program

variable {Version : Type} {crates : Crates Version} {maxBodyBytes redirects : ℕ} {log : TransportLog}
  {request : HttpRequest}

/-- A URL of one of the allowed hosts, over HTTPS. -/
def AllowedUrl (crates : Crates Version) (url : String) : Prop :=
  ∃ uri, crates.parseUri url = some uri ∧ uri.scheme = some "https" ∧
    ∃ host ∈ allowedHosts, uri.authority = some host

theorem allowedUrl_of_validateHttpsUrl {url : String} (h : validateHttpsUrl crates url = .ok ()) :
    AllowedUrl crates url := by
  obtain ⟨-, h⟩ := check_bind_eq_ok.1 h
  obtain ⟨uri, huri, h⟩ := bind_eq_ok.1 h
  simp only [rejectIf_eq_ok, not_or, Decidable.not_not, Option.any_eq_true, decide_eq_true_eq] at h
  obtain ⟨scheme, -, host, hhost, allowed⟩ := h
  exact ⟨uri, okOr_eq_ok.1 huri, scheme, host, allowed, hhost⟩

theorem validateHttpsUrl_eq_error {url : String} {e : UpdateError}
    (h : validateHttpsUrl crates url = .error e) : e = .redirectRejected := by
  obtain h | ⟨_, -, h⟩ := bind_eq_error.1 h
  · exact (rejectIf_eq_error.1 h).2.symm
  obtain h | ⟨uri, -, h⟩ := bind_eq_error.1 h
  · exact (okOr_eq_error.1 h).2.symm
  · exact (rejectIf_eq_error.1 h).2.symm

/-! ## Answers -/

def HttpResponse.isRedirect (response : HttpResponse) : Bool :=
  response.status ∈ [301, 302, 303, 307, 308]

/-- A body that is not too long, in the identity encoding. -/
def HttpResponse.Fits (response : HttpResponse) (maxBodyBytes : ℕ) : Prop :=
  response.body.length ≤ maxBodyBytes ∧
    ∀ encoding ∈ response.headers.contentEncoding, eqIgnoreAsciiCase encoding "identity" = true

theorem readResponse_eq_ok {response : HttpResponse} {answer : List UInt8 ⊕ Option String}
    (h : readResponse maxBodyBytes response = .ok answer) : response.Fits maxBodyBytes ∧
      (response.isRedirect = true ∧ answer = .inr response.headers.location ∨
        response.status = 200 ∧ answer = .inl response.body) := by
  obtain ⟨hlength, h⟩ := check_bind_eq_ok.1 h
  obtain ⟨hencoding, h⟩ := check_bind_eq_ok.1 h
  have fits : response.Fits maxBodyBytes := by
    refine ⟨by simpa using hlength, fun encoding hmem => ?_⟩
    by_contra foreign
    apply rejectIf_eq_ok.1 hencoding
    rw [Option.mem_def.1 hmem]
    simpa using foreign
  split_ifs at h with hredirect
  · exact ⟨fits, Or.inl ⟨decide_eq_true hredirect, (pure_eq_ok.1 h).symm⟩⟩
  · obtain ⟨-, h⟩ := check_bind_eq_ok.1 h
    obtain ⟨hstatus, h⟩ := check_bind_eq_ok.1 h
    exact ⟨fits, Or.inr ⟨by simpa using hstatus, (pure_eq_ok.1 h).symm⟩⟩

/-- A redirect that fits is read as one. -/
theorem readResponse_redirect {response : HttpResponse} (fits : response.Fits maxBodyBytes)
    (redirect : response.isRedirect = true) :
    readResponse maxBodyBytes response = .ok (.inr response.headers.location) := by
  have hlength : ¬maxBodyBytes < response.body.length := by
    have := fits.1
    omega
  have hencoding : ¬(response.headers.contentEncoding.any fun encoding =>
      ¬eqIgnoreAsciiCase encoding "identity") = true := by
    rw [Option.any_eq_true]
    rintro ⟨encoding, hmem, foreign⟩
    rw [fits.2 encoding hmem] at foreign
    exact absurd foreign (by decide)
  rw [readResponse, rejectIf, rejectIf, if_neg hlength, if_neg hencoding]
  show (if response.status ∈ [301, 302, 303, 307, 308] then _ else _) = _
  rw [if_pos (of_decide_eq_true redirect)]
  rfl

/-! ## One request -/

/-- The entry of a request and its answer. -/
def answered (request : HttpRequest) (maxBodyBytes : ℕ) (reply : Except TransportFailure HttpResponse) :
    (call : TransportGet) × TransportReply call :=
  ⟨{ request, maxBodyBytes }, reply⟩

/-- What follows an answer. -/
inductive Step (crates : Crates Version) (maxBodyBytes redirects : ℕ) (request : HttpRequest)
    (reply : Except TransportFailure HttpResponse) : TransportLog → Except UpdateError (List UInt8) → Prop
  | failed (failure : TransportFailure) (h : reply = .error failure) :
      Step crates maxBodyBytes redirects request reply [] (.error failure.toError)
  | refused (response : HttpResponse) (e : UpdateError) (h : reply = .ok response)
      (read : readResponse maxBodyBytes response = .error e) :
      Step crates maxBodyBytes redirects request reply [] (.error e)
  | body (response : HttpResponse) (h : reply = .ok response) (status : response.status = 200)
      (fits : response.Fits maxBodyBytes) :
      Step crates maxBodyBytes redirects request reply [] (.ok response.body)
  | rejected (response : HttpResponse) (h : reply = .ok response) (redirect : response.isRedirect = true)
      (stop : redirects = 0 ∨ ∀ url ∈ response.headers.location,
        validateHttpsUrl crates url ≠ .ok ()) :
      Step crates maxBodyBytes redirects request reply [] (.error .redirectRejected)
  | followed (response : HttpResponse) (url : String) (redirects' : ℕ) {rest : TransportLog}
      {r : Except UpdateError (List UInt8)} (h : reply = .ok response)
      (redirect : response.isRedirect = true) (location : response.headers.location = some url)
      (allowed : validateHttpsUrl crates url = .ok ()) (left : redirects = redirects' + 1)
      (run : Trace (follow crates maxBodyBytes redirects' { request with url }).run rest r) :
      Step crates maxBodyBytes redirects request reply rest r

variable {r : Except UpdateError (List UInt8)}

/-- A step without the transport fails, or the rest goes on with its result. -/
theorem trace_liftPure_cases {α β : Type} {x : Except UpdateError α} {f : α → UpdateM β}
    {b : Except UpdateError β} (run : Trace (liftPure x >>= f).run log b) :
    (∃ e, x = .error e ∧ b = .error e ∧ log = []) ∨ ∃ a, x = .ok a ∧ Trace (f a).run log b := by
  cases x with
  | error e =>
    obtain ⟨rfl, rfl⟩ := trace_pure.1 run
    exact Or.inl ⟨e, rfl, rfl, rfl⟩
  | ok a => exact Or.inr ⟨a, rfl, run⟩

/-- A run of `follow` makes one request, and goes on as its answer says. -/
theorem follow_trace (run : Trace (follow crates maxBodyBytes redirects request).run log r) :
    ∃ reply rest, log = answered request maxBodyBytes reply :: rest ∧
      Step crates maxBodyBytes redirects request reply rest r := by
  unfold follow at run
  cases run with
  | call reply run =>
    refine ⟨reply, _, rfl, ?_⟩
    cases hreply : reply with
    | error failure =>
      rw [hreply] at run
      obtain ⟨rfl, rfl⟩ := trace_pure.1 run
      exact .failed failure rfl
    | ok response =>
      rw [hreply] at run
      obtain ⟨e, hread, rfl, rfl⟩ | ⟨answer, hanswer, run₁⟩ := trace_liftPure_cases run
      · exact .refused response e rfl hread
      obtain ⟨fits, ⟨redirect, rfl⟩ | ⟨status, rfl⟩⟩ := readResponse_eq_ok hanswer
      · cases redirects with
        | zero =>
          obtain ⟨rfl, rfl⟩ := trace_pure.1 run₁
          exact .rejected response rfl redirect (Or.inl rfl)
        | succ redirects =>
          obtain ⟨e, hurl, rfl, rfl⟩ | ⟨url, hurl, run₂⟩ := trace_liftPure_cases run₁
          · obtain ⟨missing, rfl⟩ := okOr_eq_error.1 hurl
            refine .rejected response rfl redirect (Or.inr fun url hmem => ?_)
            rw [missing] at hmem
            exact absurd hmem (by simp)
          rw [okOr_eq_ok] at hurl
          obtain ⟨e, hinvalid, rfl, rfl⟩ | ⟨_, allowed, run₃⟩ := trace_liftPure_cases run₂
          · obtain rfl := validateHttpsUrl_eq_error hinvalid
            refine .rejected response rfl redirect (Or.inr fun other hmem valid => ?_)
            obtain rfl := Option.some.inj (hurl.symm.trans hmem)
            rw [hinvalid] at valid
            exact absurd valid (by simp)
          · exact .followed response url redirects rfl redirect hurl allowed rfl run₃
      · obtain ⟨rfl, rfl⟩ := trace_pure.1 run₁
        exact .body response rfl status fits

/-! ## All of them -/

/-- What holds of the requests of a fetch with so many redirects. -/
structure Guarded (crates : Crates Version) (maxBodyBytes redirects : ℕ) (log : TransportLog)
    (r : Except UpdateError (List UInt8)) : Prop where
  few : log.length ≤ redirects + 1
  allowed : ∀ entry ∈ log, entry.1.maxBodyBytes = maxBodyBytes ∧
    AllowedUrl crates entry.1.request.url
  body : ∀ body, r = .ok body → ∃ (call : TransportGet) (response : HttpResponse),
    log.getLast? = some ⟨call, (.ok response : Except TransportFailure HttpResponse)⟩ ∧
      response.status = 200 ∧ response.Fits maxBodyBytes ∧ response.body = body
  chain : (∀ entry ∈ log, ∃ response : HttpResponse,
    (entry.2 : Except TransportFailure HttpResponse) = .ok response ∧
      response.Fits maxBodyBytes ∧ response.isRedirect = true) → r = .error .redirectRejected

/-- A single request that goes no further. -/
theorem Guarded.single {reply : Except TransportFailure HttpResponse}
    (valid : validateHttpsUrl crates request.url = .ok ())
    (body : ∀ body, r = .ok body → ∃ response, reply = .ok response ∧ response.status = 200 ∧
      response.Fits maxBodyBytes ∧ response.body = body)
    (chain : ∀ response, reply = .ok response → response.Fits maxBodyBytes →
      response.isRedirect = true → r = .error .redirectRejected) :
    Guarded crates maxBodyBytes redirects [answered request maxBodyBytes reply] r where
  few := by simp
  allowed := by
    intro entry hentry
    obtain rfl := List.mem_singleton.1 hentry
    exact ⟨rfl, allowedUrl_of_validateHttpsUrl valid⟩
  body := by
    intro bytes hr
    obtain ⟨response, rfl, rest⟩ := body bytes hr
    exact ⟨_, response, rfl, rest⟩
  chain := by
    intro h
    obtain ⟨response, hreply, fits, redirect⟩ := h _ List.mem_cons_self
    exact chain response hreply fits redirect

/-- One more request before others. -/
theorem Guarded.cons {response : HttpResponse} {log : TransportLog}
    (valid : validateHttpsUrl crates request.url = .ok ())
    (rest : Guarded crates maxBodyBytes redirects log r) :
    Guarded crates maxBodyBytes (redirects + 1)
      (answered request maxBodyBytes (.ok response) :: log) r where
  few := Nat.succ_le_succ rest.few
  allowed := List.forall_mem_cons.2 ⟨⟨rfl, allowedUrl_of_validateHttpsUrl valid⟩, rest.allowed⟩
  body := by
    intro bytes hr
    obtain ⟨call, final, hlast, h⟩ := rest.body bytes hr
    refine ⟨call, final, ?_, h⟩
    rw [List.getLast?_cons, hlast]
    rfl
  chain := fun h => rest.chain fun entry hentry => h entry (List.mem_cons_of_mem _ hentry)

theorem Step.guarded {reply : Except TransportFailure HttpResponse} {rest : TransportLog}
    (valid : validateHttpsUrl crates request.url = .ok ())
    (step : Step crates maxBodyBytes redirects request reply rest r)
    (further : ∀ redirects' request', redirects = redirects' + 1 →
      validateHttpsUrl crates request'.url = .ok () →
      Trace (follow crates maxBodyBytes redirects' request').run rest r →
        Guarded crates maxBodyBytes redirects' rest r) :
    Guarded crates maxBodyBytes redirects (answered request maxBodyBytes reply :: rest) r := by
  cases step with
  | failed failure h =>
    apply Guarded.single valid
    · intro body hr
      exact absurd hr (by simp)
    · intro response hreply
      rw [h] at hreply
      exact absurd hreply (by simp)
  | refused response e h read =>
    apply Guarded.single valid
    · intro body hr
      exact absurd hr (by simp)
    · intro other hreply fits redirect
      obtain rfl := Except.ok.inj (h.symm.trans hreply)
      rw [readResponse_redirect fits redirect] at read
      exact absurd read (by simp)
  | body response h status fits =>
    apply Guarded.single valid
    · intro body hr
      exact ⟨response, h, status, fits, Except.ok.inj hr⟩
    · intro other hreply _ redirect
      obtain rfl := Except.ok.inj (h.symm.trans hreply)
      rw [HttpResponse.isRedirect, status] at redirect
      exact absurd redirect (by decide)
  | rejected response h redirect stop =>
    apply Guarded.single valid
    · intro body hr
      exact absurd hr (by simp)
    · exact fun _ _ _ _ => rfl
  | followed response url redirects' h redirect location allowed left run =>
    subst h left
    exact Guarded.cons valid (further redirects' { request with url } rfl allowed run)

/-- The requests of a run of `follow`. -/
theorem follow_guarded (valid : validateHttpsUrl crates request.url = .ok ())
    (run : Trace (follow crates maxBodyBytes redirects request).run log r) :
    Guarded crates maxBodyBytes redirects log r := by
  induction redirects generalizing request log with
  | zero =>
    obtain ⟨reply, rest, rfl, step⟩ := follow_trace run
    exact step.guarded valid fun redirects' _ h => absurd h (by omega)
  | succ redirects ih =>
    obtain ⟨reply, rest, rfl, step⟩ := follow_trace run
    refine step.guarded valid fun redirects' request' h valid' run' => ?_
    obtain rfl := Nat.succ.inj h
    exact ih valid' run'

/-- Whatever the transport answers, a fetch makes at most four requests, each of an allowed host over
HTTPS and without user information or a port, returns only the body of an answer with status 200 that
is not too long and in the identity encoding, and rejects a chain that only redirects. -/
theorem fetch_guarded (run : Trace (fetch crates request maxBodyBytes).run log r) :
    log.length ≤ 4 ∧
    (∀ entry ∈ log, AllowedUrl crates entry.1.request.url) ∧
    (∀ host ∈ allowedHosts, '@' ∉ host.toList ∧ ':' ∉ host.toList) ∧
    (∀ body, r = .ok body → ∃ (call : TransportGet) (response : HttpResponse),
      log.getLast? = some ⟨call, (.ok response : Except TransportFailure HttpResponse)⟩ ∧
        response.status = 200 ∧ response.Fits maxBodyBytes ∧ response.body = body) ∧
    ((∀ entry ∈ log, ∃ response : HttpResponse,
      (entry.2 : Except TransportFailure HttpResponse) = .ok response ∧
        response.Fits maxBodyBytes ∧ response.isRedirect = true) → r = .error .redirectRejected) := by
  obtain ⟨e, invalid, rfl, rfl⟩ | ⟨_, valid, run'⟩ := trace_liftPure_cases run
  · obtain rfl := validateHttpsUrl_eq_error invalid
    refine ⟨by decide, by simp, by decide, fun body hr => ?_, fun _ => rfl⟩
    exact absurd hr (by simp)
  · have guarded := follow_guarded valid run'
    exact ⟨guarded.few, fun entry hentry => (guarded.allowed entry hentry).2, by decide, guarded.body,
      guarded.chain⟩

/-- Crates of which only URIs matter: an authority, and the path after it. -/
def uriCrates : Crates Unit where
  parse _ := none
  display _ := ""
  preIsEmpty _ := true
  buildIsEmpty _ := true
  sha256 _ := []
  fromSlice _ := none
  parseUri value := (Text.stripPrefix "https://" value).map fun rest =>
    { scheme := some "https"
      authority := some (String.ofList (rest.toList.takeWhile (· ≠ '/')))
      path := String.ofList (rest.toList.dropWhile (· ≠ '/')) }

def endlessResponse : HttpResponse where
  status := 302
  headers := { location := some "https://github.com/again" }
  body := []

/-- A fetch that is redirected without end. -/
def endlessFetch : TransportLog × Except UpdateError (List UInt8) :=
  (fetch uriCrates (.asset "https://api.github.com/asset") 100).run.record
    (fun (_ : Unit) _ => (.ok endlessResponse, ())) ()

theorem fetch_guarded_endless : endlessFetch.1.length = 4 ∧ endlessFetch.2 = .error .redirectRejected := by
  have answers : ∀ entry ∈ endlessFetch.1,
      (entry.2 : Except TransportFailure HttpResponse) = .ok endlessResponse := by decide +kernel
  refine ⟨by decide +kernel, (fetch_guarded (trace_record _ _ _)).2.2.2.2 fun entry hentry => ?_⟩
  exact ⟨endlessResponse, answers entry hentry, ⟨by decide, by simp [endlessResponse]⟩, by decide⟩

end Calcifer.Update
