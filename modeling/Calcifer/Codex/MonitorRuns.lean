import Calcifer.Codex.Monitor

/-!
# Runs of the usage monitor

A history is the list of the calls of a monitor with what they came to, newest first. `freshRead` is the
last usage read of a history unless the usage was invalidated after it, and `freshUsage` the last usage
that was published unless it is outdated.

`Transition` says what a call can do, `Healthy` where a monitor that has not failed stands after its
history, and `monitorRuns_law` is the law that a history satisfies.
-/

namespace Calcifer

open Checks Json Serde MonitorProtocol

/-! ## Histories -/

/-- A call and what it came to. -/
inductive MonitorEntry where
  | received (bytes : List UInt8) (result : Except MonitorError (List MonitorAction))
  | refreshed (result : Except MonitorError (List MonitorAction))
  | shown (usage : Option CodexUsage)

namespace MonitorEntry

def actions : MonitorEntry → List MonitorAction
  | .received _ (.ok actions) | .refreshed (.ok actions) => actions
  | _ => []

def failed : MonitorEntry → Bool
  | .received _ (.error _) | .refreshed (.error _) => true
  | _ => false

def readId : MonitorAction → Option ℕ
  | .outbound (.readUsage requestId) => some requestId
  | _ => none

/-- The ids of the usage reads that a call emits. -/
def reads (e : MonitorEntry) : List ℕ := e.actions.filterMap readId

def usageLimit : MonitorAction → Option (String × String)
  | .usageLimitExceeded threadId turnId => some (threadId, turnId)
  | _ => none

/-- The threads and turns that a call reports as over the limit. -/
def usageLimits (e : MonitorEntry) : List (String × String) := e.actions.filterMap usageLimit

end MonitorEntry

section

variable (fromSlice : List UInt8 → Option Json)

/-- The members of a message. -/
def messageOf (bytes : List UInt8) : Option (List (String × Json)) :=
  (decodeUnique fromSlice bytes).bind asObject

/-- Whether a message is a notification with this method. -/
def notifies (object : List (String × Json)) (name : String) : Bool :=
  (member object "method").bind asStr = some name ∧ member object "id" = none

/-- The id of the request that a message answers. -/
def responseId (bytes : List UInt8) : Option ℕ := do
  let object ← messageOf fromSlice bytes
  if containsKey object "method" then none else (member object "id").bind (unsigned 64)

/-- The message answers a request with a result that is this usage. -/
def AnswersWith (bytes : List UInt8) (id : ℕ) (usage : CodexUsage) : Prop :=
  responseId fromSlice bytes = some id ∧ ∃ object result, messageOf fromSlice bytes = some object ∧
    member object "result" = some result ∧ member object "error" = none ∧
    parseRateLimitsResult result = .ok usage

/-- The turn of the thread that a message reports as failed at the usage limit. -/
def reportedTurn (targetThreadId : String) (bytes : List UInt8) : Option String := do
  let object ← messageOf fromSlice bytes
  let event ← (member object "params").bind wireTurnCompletedParams
  if notifies object "turn/completed" ∧ event.threadId = targetThreadId ∧ event.status = .failed ∧
      event.codexErrorInfo = some .usageLimitExceeded then
    some event.turnId
  else none

/-- An accepted call after which the usage has to be read again. -/
def invalidates : MonitorEntry → Bool
  | .received bytes (.ok _) =>
    (messageOf fromSlice bytes).any fun object => notifies object "account/rateLimits/updated"
  | .refreshed (.ok _) => true
  | _ => false

/-- The id of the request that an accepted message answers. -/
def answerId : MonitorEntry → Option ℕ
  | .received bytes (.ok _) => responseId fromSlice bytes
  | _ => none

/-- The reads of a history, newest first. -/
def readIds (past : List MonitorEntry) : List ℕ := past.flatMap MonitorEntry.reads

/-- The requests that were answered, newest first. -/
def answeredIds (past : List MonitorEntry) : List ℕ := past.filterMap (answerId fromSlice)

/-- The last read, unless the usage was invalidated after it. -/
def freshRead : List MonitorEntry → Option ℕ
  | [] => none
  | e :: past =>
    match e.reads.getLast? with
    | some id => some id
    | none => if invalidates fromSlice e then none else freshRead past

/-- The last usage that was published, unless it was invalidated or is read again. -/
def freshUsage : List MonitorEntry → Option CodexUsage
  | [] => none
  | e :: past =>
    match e.actions with
    | [.publishUsage usage] => some usage
    | _ => if invalidates fromSlice e ∨ e.reads ≠ [] then none else freshUsage past

/-- A call, with any surroundings. -/
inductive MonitorProtocol.Step : MonitorProtocol → MonitorEntry → MonitorProtocol → Prop
  | receive (p : MonitorProtocol) (revalidates : Bool) (canonicalize : String → Option String)
      (bytes : List UInt8) :
      Step p (.received bytes (p.receive fromSlice revalidates canonicalize bytes).1)
        (p.receive fromSlice revalidates canonicalize bytes).2
  | requestRefresh (p : MonitorProtocol) (revalidates : Bool) :
      Step p (.refreshed (p.requestRefresh revalidates).1) (p.requestRefresh revalidates).2
  | readLatestUsage (p : MonitorProtocol) (revalidates : Bool) :
      Step p (.shown (p.readLatestUsage revalidates).1) (p.readLatestUsage revalidates).2

/-- The histories of a monitor that was started for a session. -/
inductive MonitorRuns (session : MonitorSessionCapability) : List MonitorEntry → MonitorProtocol → Prop
  | start {p : MonitorProtocol} {command : MonitorCommand}
      (h : startPinned true session = .ok (p, command)) : MonitorRuns session [] p
  | call {past : List MonitorEntry} {p p' : MonitorProtocol} {e : MonitorEntry}
      (runs : MonitorRuns session past p) (step : Step fromSlice p e p') :
      MonitorRuns session (e :: past) p'

/-! ## What a call can do -/

/-- The calls that a monitor accepts, those that fail and those that only look. -/
inductive Transition (p : MonitorProtocol) : MonitorEntry → MonitorProtocol → Prop
  | fails {e : MonitorEntry} {p' : MonitorProtocol} {error : MonitorError} (failed : e.failed)
      (state : p'.state = .failed error) : Transition p e p'
  | initialized {bytes : List UInt8} {id : ℕ} (state : p.state = .awaitInitialize id)
      (answers : responseId fromSlice bytes = some id) (room : p.nextRequestId + 1 < 2 ^ 64) :
      Transition p
        (.received bytes (.ok [.outbound .initialized, .outbound (.readUsage p.nextRequestId)]))
        { p with
          state := .observing (some p.nextRequestId) false, nextRequestId := p.nextRequestId + 1 }
  | published {bytes : List UInt8} {id : ℕ} {usage : CodexUsage}
      (state : p.state = .observing (some id) false) (answers : AnswersWith fromSlice bytes id usage) :
      Transition p (.received bytes (.ok [.publishUsage usage]))
        { p with state := .observing none false, latestUsage := some usage }
  | followed {bytes : List UInt8} {id : ℕ} {usage : CodexUsage}
      (state : p.state = .observing (some id) true) (answers : AnswersWith fromSlice bytes id usage) :
      Transition p (.received bytes (.ok [.outbound (.readUsage p.nextRequestId)]))
        { p with
          state := .observing (some p.nextRequestId) false, nextRequestId := p.nextRequestId + 1 }
  | coalesced {e : MonitorEntry} {id : ℕ} {dirty : Bool} (state : p.state = .observing (some id) dirty)
      (invalidating : invalidates fromSlice e) (quiet : e.actions = [])
      (silent : answerId fromSlice e = none) :
      Transition p e { p with state := .observing (some id) true }
  | requested {e : MonitorEntry} {dirty : Bool} (state : p.state = .observing none dirty)
      (invalidating : invalidates fromSlice e)
      (reads : e.actions = [.outbound (.readUsage p.nextRequestId)])
      (silent : answerId fromSlice e = none) :
      Transition p e { p with
        state := .observing (some p.nextRequestId) false, nextRequestId := p.nextRequestId + 1 }
  | reported {bytes : List UInt8} {turnId : String} {inFlight : Option ℕ} {dirty : Bool}
      (state : p.state = .observing inFlight dirty)
      (reported : reportedTurn fromSlice p.session.targetThreadId bytes = some turnId)
      (keeps : invalidates fromSlice
        (.received bytes (.ok [.usageLimitExceeded p.session.targetThreadId turnId])) = false)
      (silent : responseId fromSlice bytes = none) :
      Transition p (.received bytes (.ok [.usageLimitExceeded p.session.targetThreadId turnId])) p
  | ignored {bytes : List UInt8} (sound : ∀ error, p.state ≠ .failed error)
      (silent : responseId fromSlice bytes = none)
      (unreported : reportedTurn fromSlice p.session.targetThreadId bytes = none)
      (keeps : invalidates fromSlice (.received bytes (.ok [])) = false) :
      Transition p (.received bytes (.ok [])) p
  | shown {usage : Option CodexUsage} {homeIdentityFailed : Bool}
      (latest : usage = none ∨ p.state = .observing none false ∧ usage = p.latestUsage) :
      Transition p (.shown usage) { p with homeIdentityFailed }

variable {fromSlice : List UInt8 → Option Json} {p p' : MonitorProtocol} {e : MonitorEntry}
  {actions : List MonitorAction} {object : List (String × Json)} {bytes : List UInt8}

theorem MonitorProtocol.issueUsageRead_eq_ok (h : p.issueUsageRead = .ok (actions, p')) :
    p.nextRequestId + 1 < 2 ^ 64 ∧ actions = [.outbound (.readUsage p.nextRequestId)] ∧
      p' = { p with
        state := .observing (some p.nextRequestId) false, nextRequestId := p.nextRequestId + 1 } := by
  obtain ⟨⟨requestId, p₁⟩, taken, h⟩ := bind_eq_ok.1 h
  unfold takeRequestId at taken
  split at taken <;> rename_i room
  · cases taken
    cases h
    exact ⟨room, rfl, rfl⟩
  · cases taken

/-- A refresh is taken up at once, or behind the read that is in flight. -/
theorem MonitorProtocol.refresh_transition (invalidating : invalidates fromSlice e)
    (actions_eq : e.actions = actions) (silent : answerId fromSlice e = none)
    (h : p.refresh = .ok (actions, p')) : Transition fromSlice p e p' := by
  unfold refresh at h
  split at h
  · cases h
  · rename_i id dirty state
    cases h
    exact .coalesced state invalidating actions_eq silent
  · rename_i dirty state
    obtain ⟨-, rfl, rfl⟩ := issueUsageRead_eq_ok h
    exact .requested state invalidating actions_eq silent
  · cases h

theorem responseId_method {method : Json} (message : messageOf fromSlice bytes = some object)
    (named : member object "method" = some method) : responseId fromSlice bytes = none := by
  simp [responseId, message, containsKey, named]

theorem reportedTurn_response (target : String) (message : messageOf fromSlice bytes = some object)
    (unnamed : notifies object "turn/completed" = false) :
    reportedTurn fromSlice target bytes = none := by
  simp [reportedTurn, message, unnamed]

theorem MonitorProtocol.handleTurnCompleted_transition (sound : ∀ error, p.state ≠ .failed error)
    (message : messageOf fromSlice bytes = some object) (named : notifies object "turn/completed")
    (h : p.handleTurnCompleted (member object "params") = .ok actions) :
    Transition fromSlice p (.received bytes (.ok actions)) p := by
  have silent : responseId fromSlice bytes = none := by
    simp only [notifies, Bool.decide_and, Bool.and_eq_true, decide_eq_true_eq] at named
    obtain ⟨method, named, -⟩ := Option.bind_eq_some_iff.1 named.1
    exact responseId_method message named
  have keeps (actions : List MonitorAction) :
      invalidates fromSlice (.received bytes (.ok actions)) = false := by
    simp only [notifies, Bool.decide_and, Bool.and_eq_true, decide_eq_true_eq] at named
    simp [invalidates, message, notifies, named.1]
  obtain ⟨admitted, h⟩ := check_bind_eq_ok.1 h
  obtain ⟨params, given, h⟩ := bind_eq_ok.1 h
  obtain ⟨-, h⟩ := check_bind_eq_ok.1 h
  obtain ⟨event, read, h⟩ := bind_eq_ok.1 h
  obtain ⟨-, h⟩ := check_bind_eq_ok.1 h
  rw [okOr_eq_ok] at given read
  have turn : reportedTurn fromSlice p.session.targetThreadId bytes =
      if event.threadId = p.session.targetThreadId ∧ event.status = .failed ∧
        event.codexErrorInfo = some .usageLimitExceeded then some event.turnId else none := by
    simp [reportedTurn, message, given, named, read]
  split at h
  · rename_i foreign
    cases h
    exact .ignored sound silent (by rw [turn, if_neg fun target => foreign target.1]) (keeps _)
  · rename_i target
    rw [not_not] at target
    split at h
    · rename_i limit
      cases h
      rw [target]
      unfold admits at admitted
      split at admitted
      · rename_i inFlight dirty state
        exact .reported state (by rw [turn, if_pos ⟨target, limit⟩]) (keeps _) silent
      · cases admitted
      · cases admitted
    · rename_i unlimited
      cases h
      exact .ignored sound silent (by rw [turn, if_neg fun limit => unlimited limit.2]) (keeps _)

theorem MonitorProtocol.handleProviderMessage_transition {method : Json}
    (sound : ∀ error, p.state ≠ .failed error) (message : messageOf fromSlice bytes = some object)
    (named : member object "method" = some method)
    (h : p.handleProviderMessage object method = .ok (actions, p')) :
    Transition fromSlice p (.received bytes (.ok actions)) p' := by
  have silent := responseId_method message named
  obtain ⟨name, text, h⟩ := bind_eq_ok.1 h
  obtain ⟨-, h⟩ := check_bind_eq_ok.1 h
  rw [okOr_eq_ok, Option.filter_eq_some_iff] at text
  have notifies_iff (other : String) :
      notifies object other = decide (name = other ∧ member object "id" = none) := by
    simp [notifies, named, text.1]
  split at h
  · rename_i id request
    obtain ⟨-, h⟩ := check_bind_eq_ok.1 h
    cases h
    have unnamed (other : String) : notifies object other = false := by simp [notifies_iff, request]
    exact .ignored sound silent (reportedTurn_response _ message (unnamed _))
      (by simp [invalidates, message, unnamed])
  · rename_i notification
    split at h
    · rename_i updated
      have invalidating : invalidates fromSlice (.received bytes (.ok actions)) := by
        simp [invalidates, message, notifies_iff, updated, notification]
      obtain ⟨-, h⟩ := check_bind_eq_ok.1 h
      obtain ⟨params, -, h⟩ := bind_eq_ok.1 h
      obtain ⟨-, h⟩ := check_bind_eq_ok.1 h
      exact refresh_transition invalidating rfl silent h
    · rename_i updated
      split at h
      · rename_i completed
        obtain ⟨reported, turn, h⟩ := bind_eq_ok.1 h
        cases h
        exact handleTurnCompleted_transition sound message
          (by simp [notifies_iff, completed, notification]) turn
      · rename_i completed
        cases h
        exact .ignored sound silent (reportedTurn_response _ message (by simp [notifies_iff, completed]))
          (by simp [invalidates, message, notifies_iff, updated])

theorem MonitorProtocol.handleResponse_transition {canonicalize : String → Option String}
    (message : messageOf fromSlice bytes = some object) (unnamed : member object "method" = none)
    (h : p.handleResponse canonicalize object = .ok (actions, p')) :
    Transition fromSlice p (.received bytes (.ok actions)) p' := by
  obtain ⟨id, numbered, h⟩ := bind_eq_ok.1 h
  obtain ⟨body, given, h⟩ := bind_eq_ok.1 h
  obtain ⟨expected, awaited, h⟩ := bind_eq_ok.1 h
  obtain ⟨same, h⟩ := check_bind_eq_ok.1 h
  rw [okOr_eq_ok] at numbered
  rw [rejectIf_eq_ok, not_not] at same
  rw [← same] at awaited
  have answers : responseId fromSlice bytes = some id := by
    simp [responseId, message, containsKey, unnamed, numbered]
  cases body with
  | inr error =>
    obtain ⟨-, h⟩ := check_bind_eq_ok.1 h
    cases h
  | inl result =>
    have plain : member object "result" = some result ∧ member object "error" = none := by
      unfold responseBody at given
      split at given <;> cases given
      exact ⟨‹_›, ‹_›⟩
    simp only [handleResult] at h
    split at h
    · rename_i requestId state
      simp only [expectedId, state] at awaited
      cases awaited
      obtain ⟨_, -, h⟩ := bind_eq_ok.1 h
      obtain ⟨⟨next, p₁⟩, taken, h⟩ := bind_eq_ok.1 h
      unfold takeRequestId at taken
      split at taken <;> rename_i room
      · cases taken
        cases h
        exact .initialized state answers room
      · cases taken
    · rename_i inFlight dirty state
      cases inFlight with
      | none => simp [expectedId, state] at awaited
      | some requestId =>
        simp only [expectedId, state] at awaited
        cases awaited
        obtain ⟨-, h⟩ := check_bind_eq_ok.1 h
        obtain ⟨usage, parsed, h⟩ := bind_eq_ok.1 h
        have answers : AnswersWith fromSlice bytes id usage := by
          refine ⟨answers, object, result, message, plain.1, plain.2, ?_⟩
          cases parse : parseRateLimitsResult result with
          | error error =>
            rw [parse] at parsed
            cases parsed
          | ok value =>
            rw [parse] at parsed
            cases parsed
            rfl
        cases dirty with
        | true =>
          obtain ⟨-, rfl, rfl⟩ := issueUsageRead_eq_ok h
          exact .followed state answers
        | false =>
          cases h
          exact .published state answers
    · cases h

theorem MonitorProtocol.receiveInner_transition {canonicalize : String → Option String}
    (sound : ∀ error, p.state ≠ .failed error)
    (h : receiveInner fromSlice p canonicalize bytes = .ok (actions, p')) :
    Transition fromSlice p (.received bytes (.ok actions)) p' := by
  obtain ⟨-, h⟩ := check_bind_eq_ok.1 h
  obtain ⟨value, decoded, h⟩ := bind_eq_ok.1 h
  obtain ⟨object, members, h⟩ := bind_eq_ok.1 h
  rw [okOr_eq_ok] at decoded members
  have message : messageOf fromSlice bytes = some object := by simp [messageOf, decoded, members]
  cases named : member object "method" with
  | some method =>
    simp only [named] at h
    exact handleProviderMessage_transition sound message named h
  | none =>
    simp only [named] at h
    exact handleResponse_transition message named h

/-- A look at the home changes nothing but what is known of it. -/
theorem MonitorProtocol.homeIdentityIsLive_cases (p : MonitorProtocol) (revalidates : Bool) :
    p.homeIdentityIsLive revalidates = (true, p) ∨
      ∃ homeIdentityFailed,
        p.homeIdentityIsLive revalidates = (false, { p with homeIdentityFailed }) := by
  unfold homeIdentityIsLive
  split_ifs
  · exact .inr ⟨p.homeIdentityFailed, rfl⟩
  · exact .inl rfl
  · exact .inr ⟨true, rfl⟩

/-- A call fails for good, or its body went through. -/
theorem MonitorProtocol.guarded_cases (p : MonitorProtocol) (revalidates : Bool)
    (body : MonitorProtocol → Except MonitorError (List MonitorAction × MonitorProtocol)) :
    (∃ error, (p.guarded revalidates body).1 = .error error ∧
      ∃ error, (p.guarded revalidates body).2.state = .failed error) ∨
    ∃ actions p', p.guarded revalidates body = (.ok actions, p') ∧ body p = .ok (actions, p') ∧
      ∀ error, p.state ≠ .failed error := by
  unfold guarded
  split
  · rename_i error state
    exact .inl ⟨error, rfl, error, state⟩
  · rename_i sound
    obtain live | ⟨_, live⟩ := p.homeIdentityIsLive_cases revalidates
    · rw [live]
      dsimp only
      cases ran : body p with
      | error error => exact .inl ⟨error, rfl, error, rfl⟩
      | ok value => exact .inr ⟨value.1, value.2, rfl, rfl, sound⟩
    · rw [live]
      exact .inl ⟨_, rfl, _, rfl⟩

/-- Every call is a transition. -/
theorem step_transition (step : Step fromSlice p e p') : Transition fromSlice p e p' := by
  cases step with
  | receive revalidates canonicalize bytes =>
    obtain ⟨error, result, failure, state⟩ | ⟨actions, p', result, ran, sound⟩ :=
      guarded_cases p revalidates fun p => receiveInner fromSlice p canonicalize bytes
    · exact .fails (by simp [receive, result, MonitorEntry.failed]) state
    · rw [receive, result]
      exact receiveInner_transition sound ran
  | requestRefresh revalidates =>
    obtain ⟨error, result, failure, state⟩ | ⟨actions, p', result, ran, -⟩ :=
      guarded_cases p revalidates refresh
    · exact .fails (by simp [requestRefresh, result, MonitorEntry.failed]) state
    · rw [requestRefresh, result]
      exact refresh_transition rfl rfl rfl ran
  | readLatestUsage revalidates =>
    unfold readLatestUsage
    obtain live | ⟨_, live⟩ := p.homeIdentityIsLive_cases revalidates
    · rw [live]
      dsimp only
      split
      · rename_i state
        exact .shown (.inr ⟨state, rfl⟩)
      · exact .shown (.inl rfl)
    · rw [live]
      exact .shown (.inl rfl)

/-! ## The law of a history -/

/-- The thread and the turn that an accepted message reports as over the limit. -/
def reports (fromSlice : List UInt8 → Option Json) (targetThreadId : String) :
    MonitorEntry → List (String × String)
  | .received bytes (.ok _) =>
    (reportedTurn fromSlice targetThreadId bytes).toList.map fun turnId => (targetThreadId, turnId)
  | _ => []

/-- What a call comes to, after a history. -/
structure EntryLaw (fromSlice : List UInt8 → Option Json) (targetThreadId : String)
    (past : List MonitorEntry) (e : MonitorEntry) : Prop where
  published : ∀ usage, .publishUsage usage ∈ e.actions →
    ∃ bytes id, e = .received bytes (.ok [.publishUsage usage]) ∧
      AnswersWith fromSlice bytes id usage ∧ freshRead fromSlice past = some id
  shown : ∀ usage, e = .shown (some usage) → freshUsage fromSlice past = some usage
  followed : ∀ id, answerId fromSlice e = some id → id ≠ 0 → freshRead fromSlice past ≠ some id →
    e.actions = [.outbound (.readUsage (id + 1))]
  invalidated : invalidates fromSlice e → e.actions =
    if answeredIds fromSlice past = readIds past ++ [0] then
      [.outbound (.readUsage ((readIds past).length + 1))]
    else []
  reported : e.usageLimits = reports fromSlice targetThreadId e
  final : (∃ earlier ∈ past, earlier.failed) → e.actions = [] ∧ ∀ usage, e ≠ .shown (some usage)

/-- The law of a history: the reads are numbered from one, each request is answered before the next one
is made, and every call does what its past asks for. -/
structure MonitorLaw (fromSlice : List UInt8 → Option Json) (targetThreadId : String)
    (history : List MonitorEntry) : Prop where
  numbered : (readIds history).reverse = List.range' 1 (readIds history).length
  outstanding : ∃ waiting, waiting.length ≤ 1 ∧
    readIds history ++ [0] = waiting ++ answeredIds fromSlice history
  calls : ∀ later e past, history = later ++ e :: past → EntryLaw fromSlice targetThreadId past e

/-- Where a monitor that has not failed stands after its history. -/
structure Healthy (fromSlice : List UInt8 → Option Json) (session : MonitorSessionCapability)
    (past : List MonitorEntry) (p : MonitorProtocol) : Prop where
  session_eq : p.session = session
  sound : ∀ e ∈ past, e.failed = false
  requests : readIds past ++ [0] = (List.range p.nextRequestId).reverse
  position : match p.state with
    | .awaitInitialize id => id = 0 ∧ p.nextRequestId = 1 ∧ answeredIds fromSlice past = []
    | .observing (some id) dirty => 1 ≤ id ∧ p.nextRequestId = id + 1 ∧
      answeredIds fromSlice past = (List.range id).reverse ∧
      freshRead fromSlice past = if dirty then none else some id
    | .observing none dirty => dirty = false ∧ 1 ≤ p.nextRequestId ∧
      answeredIds fromSlice past = (List.range p.nextRequestId).reverse ∧
      freshUsage fromSlice past = p.latestUsage
    | .failed _ => False

variable {session : MonitorSessionCapability} {past : List MonitorEntry}

theorem reports_of_invalidates (target : String) (h : invalidates fromSlice e) :
    reports fromSlice target e = [] := by
  cases e with
  | received bytes result =>
    cases result with
    | error error => rfl
    | ok actions =>
      simp only [invalidates, Option.any_eq_true] at h
      obtain ⟨object, message, updated⟩ := h
      have unnamed : notifies object "turn/completed" = false := by
        simp only [notifies, Bool.decide_and, Bool.and_eq_true, decide_eq_true_eq] at updated
        simp [notifies, updated.1]
      simp [reports, reportedTurn_response target message unnamed]
  | refreshed result | shown usage => rfl

theorem reportedTurn_of_responseId (target : String) {id : ℕ}
    (answers : responseId fromSlice bytes = some id) : reportedTurn fromSlice target bytes = none := by
  obtain ⟨object, message, answers⟩ := Option.bind_eq_some_iff.1 answers
  refine reportedTurn_response target message ?_
  cases named : member object "method" with
  | none => simp [notifies, named]
  | some method => simp [containsKey, named] at answers

theorem invalidates_of_responseId {id : ℕ} (answers : responseId fromSlice bytes = some id) :
    invalidates fromSlice (.received bytes (.ok actions)) = false := by
  obtain ⟨object, message, answers⟩ := Option.bind_eq_some_iff.1 answers
  cases named : member object "method" with
  | none => simp [invalidates, message, notifies, named]
  | some method => simp [containsKey, named] at answers

/-- A call that fails does nothing. -/
theorem MonitorEntry.failed_quiet (h : e.failed) : e.actions = [] ∧ answerId fromSlice e = none ∧
    invalidates fromSlice e = false ∧ (∀ target, reports fromSlice target e = []) ∧
    ∀ usage, e ≠ .shown usage := by
  cases e with
  | received bytes result =>
    cases result with
    | error error => simp [actions, answerId, invalidates, reports]
    | ok actions => cases h
  | refreshed result =>
    cases result with
    | error error => simp [actions, answerId, invalidates, reports]
    | ok actions => cases h
  | shown usage => cases h

theorem MonitorEntry.not_failed_of_invalidates (h : invalidates fromSlice e) : e.failed = false := by
  cases failed : e.failed with
  | false => rfl
  | true => simp [(failed_quiet failed).2.2.1] at h

/-- The law of a call that has no actions, invalidates nothing and shows nothing. -/
theorem EntryLaw.quiet {target : String} (actions : e.actions = [])
    (silent : ∀ id, answerId fromSlice e = some id → id = 0)
    (keeps : invalidates fromSlice e = false) (unreported : reports fromSlice target e = [])
    (hidden : ∀ usage, e ≠ .shown (some usage)) : EntryLaw fromSlice target past e where
  published usage h := by simp [actions] at h
  shown usage h := absurd h (hidden usage)
  followed id h nonzero := absurd (silent id h) nonzero
  invalidated h := by simp [keeps] at h
  reported := by simp [MonitorEntry.usageLimits, actions, unreported]
  final _ := ⟨actions, hidden⟩

theorem length_readIds (healthy : Healthy fromSlice session past p) :
    (readIds past).length + 1 = p.nextRequestId := by
  have := congrArg List.length healthy.requests
  simpa using this

theorem Transition.law (healthy : Healthy fromSlice session past p)
    (h : Transition fromSlice p e p') : EntryLaw fromSlice session.targetThreadId past e := by
  have sound : ¬∃ earlier ∈ past, earlier.failed := by
    rintro ⟨earlier, mem, failed⟩
    rw [healthy.sound earlier mem] at failed
    cases failed
  have position := healthy.position
  cases h with
  | fails failed state =>
    obtain ⟨actions, silent, keeps, unreported, hidden⟩ := MonitorEntry.failed_quiet failed
    exact .quiet actions (by simp [silent]) keeps (unreported _) fun usage => hidden (some usage)
  | ignored sound' silent unreported keeps =>
    rw [healthy.session_eq] at unreported
    exact .quiet rfl (by simp [answerId, silent]) keeps (by simp [reports, unreported]) (by simp)
  | initialized state answers room =>
    rw [state] at position
    exact {
      published := by simp [MonitorEntry.actions]
      shown := by simp
      followed := by
        intro id answered nonzero
        simp only [answerId, answers, Option.some.injEq] at answered
        exact absurd (answered ▸ position.1) nonzero
      invalidated := by simp [invalidates_of_responseId answers]
      reported := by simp [reports, reportedTurn_of_responseId _ answers, MonitorEntry.usageLimits,
        MonitorEntry.actions, MonitorEntry.usageLimit]
      final := fun failed => absurd failed sound }
  | @published bytes id usage state answers =>
    rw [state] at position
    obtain ⟨positive, next, answered, fresh⟩ := position
    exact {
      published := by
        simp only [MonitorEntry.actions, List.mem_singleton, MonitorAction.publishUsage.injEq]
        rintro _ rfl
        exact ⟨bytes, id, rfl, answers, fresh⟩
      shown := by simp
      followed := by
        intro other answered _ stale
        simp only [answerId, answers.1, Option.some.injEq] at answered
        exact absurd (answered ▸ fresh) stale
      invalidated := by simp [invalidates_of_responseId answers.1]
      reported := by simp [reports, reportedTurn_of_responseId _ answers.1, MonitorEntry.usageLimits,
        MonitorEntry.actions, MonitorEntry.usageLimit]
      final := fun failed => absurd failed sound }
  | @followed bytes id usage state answers =>
    rw [state] at position
    obtain ⟨positive, next, answered, fresh⟩ := position
    exact {
      published := by simp [MonitorEntry.actions]
      shown := by simp
      followed := by
        intro other answered _ _
        simp only [answerId, answers.1, Option.some.injEq] at answered
        rw [← answered, ← next]
        rfl
      invalidated := by simp [invalidates_of_responseId answers.1]
      reported := by simp [reports, reportedTurn_of_responseId _ answers.1, MonitorEntry.usageLimits,
        MonitorEntry.actions, MonitorEntry.usageLimit]
      final := fun failed => absurd failed sound }
  | @coalesced _ id dirty state invalidating quiet silent =>
    rw [state] at position
    obtain ⟨positive, next, answered, fresh⟩ := position
    have waiting : answeredIds fromSlice past ≠ readIds past ++ [0] := by
      rw [answered, healthy.requests, next]
      intro same
      simpa using congrArg List.length same
    exact {
      published := by simp [quiet]
      shown := by
        rintro usage rfl
        cases invalidating
      followed := by simp [silent]
      invalidated := by simp [quiet, waiting]
      reported := by simp [reports_of_invalidates _ invalidating, MonitorEntry.usageLimits, quiet]
      final := fun failed => absurd failed sound }
  | requested state invalidating reads silent =>
    rw [state] at position
    obtain ⟨-, positive, answered, fresh⟩ := position
    exact {
      published := by simp [reads]
      shown := by
        rintro usage rfl
        cases invalidating
      followed := by simp [silent]
      invalidated := by
        intro _
        rw [if_pos (answered.trans healthy.requests.symm), length_readIds healthy, reads]
      reported := by simp [reports_of_invalidates _ invalidating, MonitorEntry.usageLimits, reads,
        MonitorEntry.usageLimit]
      final := fun failed => absurd failed sound }
  | reported state reported keeps silent =>
    rw [healthy.session_eq] at reported keeps
    exact {
      published := by simp [MonitorEntry.actions]
      shown := by simp
      followed := by simp [answerId, silent]
      invalidated := by simp [healthy.session_eq, keeps]
      reported := by simp [reports, reported, MonitorEntry.usageLimits, MonitorEntry.actions,
        MonitorEntry.usageLimit, healthy.session_eq]
      final := fun failed => absurd failed sound }
  | shown latest =>
    exact {
      published := by simp [MonitorEntry.actions]
      shown := by
        intro usage same
        cases same
        obtain absent | ⟨state, same⟩ := latest
        · cases absent
        · rw [state] at position
          rw [position.2.2.2, same]
      followed := by simp [answerId]
      invalidated := by simp [invalidates]
      reported := by simp [reports, MonitorEntry.usageLimits, MonitorEntry.actions]
      final := fun failed => absurd failed sound }

theorem readIds_cons (e : MonitorEntry) (past : List MonitorEntry) :
    readIds (e :: past) = e.reads ++ readIds past := rfl

/-- A call without reads, answers, invalidations and publications leaves the monitor where it is. -/
theorem Healthy.idle (healthy : Healthy fromSlice session past p) (succeeded : e.failed = false)
    (reads : e.reads = []) (silent : answerId fromSlice e = none)
    (keeps : invalidates fromSlice e = false) (unpublished : ∀ usage, e.actions ≠ [.publishUsage usage]) :
    Healthy fromSlice session (e :: past) p := by
  have answered : answeredIds fromSlice (e :: past) = answeredIds fromSlice past := by
    simp [answeredIds, silent]
  have fresh : freshRead fromSlice (e :: past) = freshRead fromSlice past := by
    simp [freshRead, reads, keeps]
  have usage : freshUsage fromSlice (e :: past) = freshUsage fromSlice past := by
    rw [freshUsage]
    split
    · rename_i usage published
      exact absurd published (unpublished usage)
    · simp [keeps, reads]
  refine ⟨healthy.session_eq, ?_, ?_, ?_⟩
  · intro earlier mem
    cases mem with
    | head => exact succeeded
    | tail _ mem => exact healthy.sound earlier mem
  · rw [readIds_cons, reads]
    exact healthy.requests
  · rw [answered, fresh, usage]
    exact healthy.position

theorem Transition.healthy (healthy : Healthy fromSlice session past p)
    (h : Transition fromSlice p e p') :
    ((∃ error, p'.state = .failed error) ∧ e.reads = [] ∧ answerId fromSlice e = none) ∨
      Healthy fromSlice session (e :: past) p' := by
  have position := healthy.position
  have sound (succeeded : e.failed = false) : ∀ earlier ∈ e :: past, earlier.failed = false := by
    intro earlier mem
    cases mem with
    | head => exact succeeded
    | tail _ mem => exact healthy.sound earlier mem
  cases h with
  | fails failed state =>
    obtain ⟨actions, silent, -⟩ := @MonitorEntry.failed_quiet fromSlice e failed
    exact .inl ⟨⟨_, state⟩, by simp [MonitorEntry.reads, actions], silent⟩
  | @initialized bytes id state answers room =>
    rw [state] at position
    obtain ⟨rfl, next, answered⟩ := position
    refine .inr ⟨healthy.session_eq, sound rfl, ?_, ?_⟩
    · rw [readIds_cons, List.append_assoc, healthy.requests, List.range_succ, List.reverse_append]
      rfl
    · refine ⟨by omega, rfl, ?_, rfl⟩
      simp [answeredIds, answerId, answers, next] at answered ⊢
      exact answered
  | @published bytes id usage state answers =>
    rw [state] at position
    obtain ⟨positive, next, answered, fresh⟩ := position
    refine .inr ⟨healthy.session_eq, sound rfl, healthy.requests, rfl, ?_, ?_, rfl⟩
    · show 1 ≤ p.nextRequestId
      omega
    · simp only [answeredIds, List.filterMap_cons, answerId, answers.1, next, List.range_succ,
        List.reverse_append] at answered ⊢
      rw [answered]
      rfl
  | @followed bytes id usage state answers =>
    rw [state] at position
    obtain ⟨positive, next, answered, fresh⟩ := position
    refine .inr ⟨healthy.session_eq, sound rfl, ?_, ?_, rfl, ?_, rfl⟩
    · rw [readIds_cons, List.append_assoc, healthy.requests, List.range_succ, List.reverse_append]
      rfl
    · show 1 ≤ p.nextRequestId
      omega
    · simp only [answeredIds, List.filterMap_cons, answerId, answers.1, next, List.range_succ,
        List.reverse_append] at answered ⊢
      rw [answered]
      rfl
  | @coalesced _ id dirty state invalidating quiet silent =>
    rw [state] at position
    obtain ⟨positive, next, answered, fresh⟩ := position
    refine .inr ⟨healthy.session_eq, sound ?_, ?_, positive, next, ?_, ?_⟩
    · exact MonitorEntry.not_failed_of_invalidates invalidating
    · simpa [readIds_cons, MonitorEntry.reads, quiet] using healthy.requests
    · simpa [answeredIds, silent] using answered
    · simp [freshRead, MonitorEntry.reads, quiet, invalidating]
  | @requested _ dirty state invalidating reads silent =>
    rw [state] at position
    obtain ⟨-, positive, answered, fresh⟩ := position
    refine .inr ⟨healthy.session_eq, sound ?_, ?_, positive, rfl, ?_, ?_⟩
    · exact MonitorEntry.not_failed_of_invalidates invalidating
    · rw [readIds_cons, List.append_assoc, healthy.requests, List.range_succ, List.reverse_append,
        MonitorEntry.reads, reads]
      rfl
    · simpa [answeredIds, silent] using answered
    · simp [freshRead, MonitorEntry.reads, reads, MonitorEntry.readId]
  | reported state reported keeps silent =>
    exact .inr (healthy.idle rfl rfl silent keeps (by simp [MonitorEntry.actions]))
  | ignored sound' silent unreported keeps =>
    exact .inr (healthy.idle rfl rfl silent keeps (by simp [MonitorEntry.actions]))
  | @shown usage homeIdentityFailed latest =>
    have idle := healthy.idle (e := .shown usage) rfl rfl rfl rfl (by simp [MonitorEntry.actions])
    exact .inr ⟨idle.session_eq, idle.sound, idle.requests, idle.position⟩

/-- A monitor that has failed does nothing more. -/
theorem Transition.failed {target : String} {error : MonitorError} (state : p.state = .failed error)
    (h : Transition fromSlice p e p') : EntryLaw fromSlice target past e ∧
      (∃ error, p'.state = .failed error) ∧ e.reads = [] ∧ answerId fromSlice e = none := by
  cases h with
  | fails failed state' =>
    obtain ⟨actions, silent, keeps, unreported, hidden⟩ := MonitorEntry.failed_quiet failed
    exact ⟨.quiet actions (by simp [silent]) keeps (unreported _) fun usage => hidden (some usage),
      ⟨_, state'⟩, by simp [MonitorEntry.reads, actions], silent⟩
  | ignored sound silent unreported keeps => exact absurd state (sound error)
  | @shown usage _ latest =>
    obtain rfl | ⟨state', -⟩ := latest
    · exact ⟨.quiet rfl (by simp [answerId]) rfl rfl (by simp), ⟨_, state⟩, rfl, rfl⟩
    · rw [state] at state'
      cases state'
  | initialized state' | published state' | followed state' | coalesced state' | requested state'
  | reported state' =>
    rw [state] at state'
    cases state'

/-- The law of the counts, where a monitor that has not failed stands. -/
theorem Healthy.outstanding (healthy : Healthy fromSlice session past p) :
    ∃ waiting, waiting.length ≤ 1 ∧ readIds past ++ [0] = waiting ++ answeredIds fromSlice past := by
  have position := healthy.position
  rw [healthy.requests]
  split at position
  · obtain ⟨-, next, answered⟩ := position
    exact ⟨[0], le_rfl, by rw [next, answered]; rfl⟩
  · rename_i id dirty state
    obtain ⟨-, next, answered, -⟩ := position
    exact ⟨[id], le_rfl, by rw [next, answered, List.range_succ, List.reverse_append]; rfl⟩
  · obtain ⟨-, -, answered, -⟩ := position
    exact ⟨[], by simp, by rw [answered]; rfl⟩
  · exact position.elim

theorem Healthy.numbered (healthy : Healthy fromSlice session past p) :
    (readIds past).reverse = List.range' 1 (readIds past).length := by
  have requests := congrArg List.reverse healthy.requests
  rw [List.reverse_append, List.reverse_reverse, ← length_readIds healthy, List.range_eq_range',
    List.range'_succ] at requests
  exact List.tail_eq_of_cons_eq requests

theorem Healthy.start {command : MonitorCommand} (h : startPinned true session = .ok (p, command)) :
    Healthy fromSlice session [] p := by
  cases h
  exact ⟨rfl, by simp, rfl, rfl, rfl, rfl⟩

/-- The usage monitor never shows stale usage and never loses an invalidation. -/
theorem monitorRuns_law (runs : MonitorRuns fromSlice session past p) :
    MonitorLaw fromSlice session.targetThreadId past := by
  suffices invariant : MonitorLaw fromSlice session.targetThreadId past ∧
      ((∃ error, p.state = .failed error) ∨ Healthy fromSlice session past p) from invariant.1
  induction runs with
  | start h =>
    have healthy : Healthy fromSlice session [] _ := .start h
    exact ⟨⟨healthy.numbered, healthy.outstanding, by simp⟩, .inr healthy⟩
  | @call past p p' e runs step ih =>
    obtain ⟨law, state⟩ := ih
    have calls (entry : EntryLaw fromSlice session.targetThreadId past e) : ∀ later e' past',
        e :: past = later ++ e' :: past' → EntryLaw fromSlice session.targetThreadId past' e' := by
      intro later e' past' split
      cases later with
      | nil =>
        cases split
        exact entry
      | cons _ later =>
        cases split
        exact law.calls later e' past' rfl
    have counts (reads : e.reads = []) (silent : answerId fromSlice e = none) :
        readIds (e :: past) = readIds past ∧
          answeredIds fromSlice (e :: past) = answeredIds fromSlice past :=
      ⟨by rw [readIds_cons, reads, List.nil_append], by simp [answeredIds, silent]⟩
    have transition := step_transition step
    obtain ⟨error, failed⟩ | healthy := state
    · obtain ⟨entry, failed', reads, silent⟩ := transition.failed failed
      obtain ⟨same, answered⟩ := counts reads silent
      exact ⟨⟨same ▸ law.numbered, by rw [same, answered]; exact law.outstanding, calls entry⟩,
        .inl failed'⟩
    · have entry := transition.law healthy
      obtain ⟨failed, reads, silent⟩ | healthy' := transition.healthy healthy
      · obtain ⟨same, answered⟩ := counts reads silent
        exact ⟨⟨same ▸ law.numbered, by rw [same, answered]; exact law.outstanding, calls entry⟩,
          .inl failed⟩
      · exact ⟨⟨healthy'.numbered, healthy'.outstanding, calls entry⟩,
          .inr healthy'⟩

/-- Four messages: the answer to `initialize`, a notification, and the answers to two usage reads. -/
def sampleMessages : List UInt8 → Option Json
  | [0] => some (.obj [("id", .int 0), ("result", .obj [("userAgent", .str "calcifer/0.144.4"),
      ("codexHome", .str "/home"), ("platformFamily", .str "unix"), ("platformOs", .str "linux")])])
  | [1] => some (.obj [("method", .str "account/rateLimits/updated"),
      ("params", .obj [("rateLimits", .obj [])])])
  | [2] => some (.obj [("id", .int 1), ("result", .obj [("rateLimits", .obj [])])])
  | [3] => some (.obj [("id", .int 2), ("result", .obj [("rateLimits", .obj [])])])
  | _ => none

def sampleUsage : CodexUsage where
  rateLimits := some ⟨none, none, none, none, none, none, none, none⟩
  rateLimitsByLimitId := []
  resetCredits := none

theorem monitorRuns_law_coalesced : MonitorLaw sampleMessages "thread" [
    .shown (some sampleUsage),
    .received [3] (.ok [.publishUsage sampleUsage]),
    .received [2] (.ok [.outbound (.readUsage 2)]),
    .received [1] (.ok []),
    .received [0] (.ok [.outbound .initialized, .outbound (.readUsage 1)])] := by
  let session : MonitorSessionCapability := ⟨"/home", "thread"⟩
  let observing (inFlight : Option ℕ) (dirty : Bool) (next : ℕ) (usage : Option CodexUsage) :
      MonitorProtocol := ⟨.observing inFlight dirty, session, false, next, usage⟩
  have step {p : MonitorProtocol} (bytes : List UInt8) (actions : List MonitorAction)
      (p' : MonitorProtocol) (h : p.receive sampleMessages true some bytes = (.ok actions, p')) :
      Step sampleMessages p (.received bytes (.ok actions)) p' := by
    have received := @Step.receive sampleMessages p true some bytes
    rwa [h] at received
  have started : MonitorRuns sampleMessages session [] ⟨.awaitInitialize 0, session, false, 1, none⟩ :=
    .start rfl
  have opened := started.call (step [0] [.outbound .initialized, .outbound (.readUsage 1)]
    (observing (some 1) false 2 none) (by decide +kernel))
  have updated := opened.call (step [1] [] (observing (some 1) true 2 none) (by decide +kernel))
  have followed := updated.call (step [2] [.outbound (.readUsage 2)]
    (observing (some 2) false 3 none) (by decide +kernel))
  have published := followed.call (step [3] [.publishUsage sampleUsage]
    (observing none false 3 (some sampleUsage)) (by decide +kernel))
  exact monitorRuns_law (published.call (.readLatestUsage _ true))

end

end Calcifer
