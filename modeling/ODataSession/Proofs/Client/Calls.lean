import Mathlib.Data.List.Forall2
import ODataSession.Proofs.Client.Following
import ODataSession.Rehearsal.ScriptedBackend
import ODataSession.Session.MemoryStore

/-!
# Calls

Which requests an action sends, in which order and how many at most, whatever is answered
(`Site.perform_calls`). A request is an acquisition of the session, the request itself, a renewal
and a replay, in this order, and each of the last three needs the one before it: the renewal a
rejection, the replay a login that was accepted. The calls of a login are bounded by the policy of
the client because the number of an attempt is bounded by it (`Attempting.length_calls_le`), and
that no login is sent where there is a session is seen from the first event of a login, the question
to the store.
-/

namespace ODataSession

/-- A request that went out, and what came of it. -/
structure Call where
  purpose : Purpose
  request : Http.Request
  outcome : Except Http.Failure Http.Response

/-- The call that an event is, if it is one. -/
@[simp]
def Event.call? : Event → Option Call
  | .sent purpose request outcome => some ⟨purpose, request, outcome⟩
  | .got .. | .checked .. | .put .. | .forgot .. | .paused .. | .noted .. => none

/-- The calls among events, in their order. -/
def calls (events : List Event) : List Call :=
  events.filterMap Event.call?

/-- Nothing happens, and nothing is called. -/
@[simp]
theorem calls_nil : calls [] = [] := rfl

/-- The calls of an event come first. -/
@[simp]
theorem calls_cons (e : Event) (events : List Event) :
    calls (e :: events) = e.call?.toList ++ calls events := by
  unfold calls
  rw [List.filterMap_cons]
  cases e.call? <;> rfl

/-- The calls of events come before those of later ones. -/
@[simp]
theorem calls_append (events events' : List Event) :
    calls (events ++ events') = calls events ++ calls events' :=
  List.filterMap_append

/-! ## What is called -/

/-- The number of attempts that a login has: as many as the policy says, and at least one. -/
def LoginRetry.maxAttempts (r : LoginRetry) : Nat :=
  max r.attempts.toNat 1

/-- A login of a client. -/
def Call.IsLogin (call : Call) (c : Client) : Prop :=
  call.purpose = .login ∧ ∃ url, c.base.endpoint Client.loginPath = .ok url ∧
    call.request = c.complete (c.loginRequest url)

/-- A login that the server accepts, with a cookie in its answer. -/
def Call.IsAccepted (call : Call) : Prop :=
  ∃ response credential, call.outcome = .ok response ∧ response.status.isSuccess = true ∧
    Credential.ofSetCookie? response.setCookie = some credential

/-- A call whose answer is a rejection of the session. -/
def Call.IsRejected (call : Call) : Prop :=
  ∃ response, call.outcome = .ok response ∧ (response.status = 401 ∨ response.status = 403)

/-- Whether a call is rejected can be seen from its outcome. -/
instance (call : Call) : Decidable call.IsRejected :=
  match h : call.outcome with
  | .ok response =>
    decidable_of_iff (response.status = 401 ∨ response.status = 403)
      ⟨fun hstatus => ⟨response, h, hstatus⟩, fun ⟨_, houtcome, hstatus⟩ =>
        Except.ok.inj (h.symm.trans houtcome) ▸ hstatus⟩
  | .error _ => .isFalse fun ⟨_, houtcome, _⟩ => by
    rw [h] at houtcome
    cases houtcome

/-- A call that carries a request out. -/
structure Call.Carries (call : Call) (c : Client) (r : PendingRequest) : Prop where
  purpose_eq : call.purpose = .business
  method_eq : call.request.method = r.method
  url_eq : c.requestUrl r.endpoint r.query = .ok call.request.url
  body_eq : call.request.body = r.body

/-- The calls of a new session: logins, and no more of them than the policy allows. -/
structure Client.Logins (c : Client) (logins : List Call) : Prop where
  length_le : logins.length ≤ c.config.loginRetry.maxAttempts
  isLogin : ∀ call ∈ logins, call.IsLogin c

section
variable {β σ : Type} [Http.Backend β] [SessionStore σ]

/-- Whether the store has a live token for a client. -/
def Site.HasLiveToken (s : Site β σ) : Prop :=
  ∃ token, (SessionStore.get s.store s.client.key.text).1 = .ok (some token)

/-- The calls of a login: none where the store has a live token. -/
structure Site.LoginCalls (s : Site β σ) (logins : List Call) : Prop where
  bounded : s.client.Logins logins
  stored : s.HasLiveToken → logins = []

/-- The calls of acquiring a session: none where one is held either. -/
structure Site.AcquisitionCalls (s : Site β σ) (logins : List Call) : Prop
    extends Site.LoginCalls s logins where
  held : s.client.credential.isSome = true → logins = []

/-- The calls of a request: `first` acquires the session, `business` is the request itself,
`renewal` renews the session and `replay` is the request once more. -/
structure Site.RequestCalls (s : Site β σ) (r : PendingRequest)
    (result : Except ClientError Http.Response) (first : List Call) (business : Option Call)
    (renewal : List Call) (replay : Option Call) : Prop where
  acquiring : s.AcquisitionCalls first
  renewing : s.client.Logins renewal
  carries : ∀ call, call ∈ business ∨ call ∈ replay → call.Carries s.client r
  opened : business.isSome = true → ∀ call ∈ first.getLast?, call.IsAccepted
  rejected : renewal ≠ [] ∨ replay.isSome = true → ∃ call ∈ business, call.IsRejected
  renewed : replay.isSome = true → ∃ call ∈ renewal.getLast?, call.IsAccepted
  answered : ∀ response, result = .ok response →
    ∃ call ∈ replay.or business, call.outcome = .ok response

/-- The calls of an adjusted request, sent by the client as it is in the end: `first` acquires the
session, and there is no renewal. -/
structure Site.AdjustedCalls (s : Site β σ) (method : Http.Method) (endpoint : String)
    (adjustments : List Adjustment) (result : Except ClientError Http.Response) (last : Client)
    (first : List Call) (business : Option Call) : Prop where
  acquiring : s.AcquisitionCalls first
  carries : ∀ call ∈ business, call.purpose = .business ∧ ∃ request,
    last.adjusted method endpoint adjustments s.client.queued = .ok request ∧
      call.request = last.complete request
  opened : business.isSome = true → ∀ call ∈ first.getLast?, call.IsAccepted
  answered : ∀ response, result = .ok response → ∃ call ∈ business, call.outcome = .ok response

/-- The entry of a pool that can be sent, if it can be. -/
def Client.sendable? (c : Client) : Except EncodeError PendingRequest → Option PendingRequest
  | .ok r =>
    match c.requestUrl r.endpoint r.query with
    | .ok url => if Http.isSendable url then some r else none
    | .error _ => none
  | .error _ => none

/-- The calls of a pool: `first` acquires the session, and where there is one, each entry that can
be sent is sent once, in the order of the entries. -/
structure Site.PoolCalls (s : Site β σ) (p : Pool)
    (result : Except ClientError (PoolResults (Except ClientError Http.Response)))
    (first business : List Call) : Prop where
  acquiring : s.AcquisitionCalls first
  opened : business ≠ [] → ∀ call ∈ first.getLast?, call.IsAccepted
  unacquired : ∀ e, result = .error e → business = []
  carries : ∀ results, result = .ok results →
    List.Forall₂ (fun call r => Call.Carries call s.client r) business
      (p.entries.filterMap fun entry => s.client.sendable? entry.2)

/-- The call of a logout, if there is one. -/
structure Client.LogoutCall (c : Client) (call? : Option Call) : Prop where
  purpose_eq : ∀ call ∈ call?, call.purpose = .logout
  method_eq : ∀ call ∈ call?, call.request.method = .post
  url_eq : ∀ call ∈ call?, c.base.endpoint Client.logoutPath = .ok call.request.url

/-- The calls that an action may make at a site, with a result and the client that it leaves. -/
def Action.MayCall (s : Site β σ) (last : Client) :
    Action → Except ClientError Outcome → List Call → Prop
  | .login, _, l => s.LoginCalls l
  | .logout, _, l => ∃ call?, l = call?.toList ∧ s.client.LogoutCall call?
  | .withHeaders _, _, l | .request (.error _), _, l => l = []
  | .request (.ok r), result, l => ∃ answer first business renewal replay,
    result = answer.map .response ∧
      l = first ++ business.toList ++ renewal ++ replay.toList ∧
      s.RequestCalls r answer first business renewal replay ∧
      l.countP (·.purpose = .business) ≤ 2 ∧
      l.countP (·.purpose = .login) ≤ 2 * s.client.config.loginRetry.maxAttempts
  | .sendWith method endpoint adjustments, result, l => ∃ answer first business,
    result = answer.map .response ∧ l = first ++ business.toList ∧
      s.AdjustedCalls method endpoint adjustments answer last first business
  | .pool declarations, result, l => ∃ answers first business,
    result = answers.map .responses ∧ l = first ++ business ∧
      s.PoolCalls (.ofDeclarations declarations) answers first business

end

/-! ## Calls of logins -/

section
variable {c c' : Client} {events : List Event}

/-- A request that can be written is one call, any other one is none. -/
theorem Sending.calls_eq {purpose : Purpose} {request : Http.Request}
    {outcome : Except Http.Failure Http.Response} (h : Sending c purpose request events outcome) :
    calls events =
      if Http.isSendable request.url then [⟨purpose, c.complete request, outcome⟩] else [] := by
  cases h with
  | unsendable h => rw [h]; rfl
  | sent h => rw [h]; rfl

/-- A request that is answered has been a call. -/
theorem Sending.calls_of_ok {purpose : Purpose} {request : Http.Request}
    {response : Http.Response} (h : Sending c purpose request events (.ok response)) :
    calls events = [⟨purpose, c.complete request, .ok response⟩] := by
  cases h with
  | sent => rfl

/-- A request can be called in one way only. -/
theorem Sending.eq_of_mem_calls {purpose : Purpose} {request : Http.Request}
    {outcome : Except Http.Failure Http.Response} (h : Sending c purpose request events outcome)
    {call : Call} (hcall : call ∈ calls events) :
    call = ⟨purpose, c.complete request, outcome⟩ := by
  rw [h.calls_eq] at hcall
  split at hcall
  · exact List.mem_singleton.1 hcall
  · cases hcall

/-- A request is one call at most. -/
theorem Sending.length_calls_le {purpose : Purpose} {request : Http.Request}
    {outcome : Except Http.Failure Http.Response} (h : Sending c purpose request events outcome) :
    (calls events).length ≤ 1 := by
  rw [h.calls_eq]
  split <;> simp

/-- The calls of a login and the attempts before it are together as many as the policy allows. -/
theorem Attempting.length_calls_le {request : Http.Request} {attempt : UInt32}
    {result : Except Http.Failure (Http.Response × UInt32)}
    (h : Attempting c request attempt events result)
    (hle : attempt ≤ c.config.loginRetry.limit) :
    (calls events).length + attempt.toNat ≤ c.config.loginRetry.limit.toNat + 1 := by
  induction h with
  | answered h =>
    have := h.length_calls_le
    have := UInt32.le_iff_toNat_le.1 hle
    omega
  | abandoned h =>
    have := h.length_calls_le
    have := UInt32.le_iff_toNat_le.1 hle
    simp only [calls_append, calls_cons, Event.call?, Option.toList, calls_nil, List.append_nil]
    omega
  | repeated h again _ ih =>
    -- the number of the next attempt does not wrap round, since this one is below the limit
    have hone := h.length_calls_le
    have hlt := Client.lt_limit_of_retryDelay? again
    have hnext := Client.toNat_add_one_of_lt hlt
    have hrest := ih (UInt32.le_iff_toNat_le.2 (by
      have := UInt32.lt_iff_toNat_lt.1 hlt
      omega))
    simp only [calls_append, calls_cons, Event.call?, Option.toList, List.nil_append,
      List.length_append]
    omega

/-- Every call of a login is the login. -/
theorem Attempting.eq_of_mem_calls {request : Http.Request} {attempt : UInt32}
    {result : Except Http.Failure (Http.Response × UInt32)}
    (h : Attempting c request attempt events result) {call : Call} (hcall : call ∈ calls events) :
    call.purpose = .login ∧ call.request = c.complete request := by
  have hone : ∀ {events outcome}, Sending c .login request events outcome →
      call ∈ calls events → call.purpose = .login ∧ call.request = c.complete request := by
    intro events outcome hsend hmem
    rw [hsend.eq_of_mem_calls hmem]
    exact ⟨rfl, rfl⟩
  induction h with
  | answered h => exact hone h hcall
  | abandoned h =>
    refine hone h ?_
    simpa using hcall
  | repeated h _ _ ih =>
    simp only [calls_append, calls_cons, Event.call?, Option.toList, List.nil_append,
      List.mem_append] at hcall
    rcases hcall with hcall | hcall
    · exact hone h hcall
    · exact ih hcall

/-- The answer to a login is the answer to its last call. -/
theorem Attempting.getLast?_calls {request : Http.Request} {attempt : UInt32}
    {result : Except Http.Failure (Http.Response × UInt32)} {answer : Http.Response × UInt32}
    (h : Attempting c request attempt events result) (hresult : result = .ok answer) :
    (calls events).getLast? = some ⟨.login, c.complete request, .ok answer.1⟩ := by
  induction h with
  | answered h =>
    cases hresult
    rw [h.calls_of_ok]
    rfl
  | abandoned => cases hresult
  | repeated _ _ _ ih =>
    simp only [calls_append, calls_cons, Event.call?, Option.toList, List.nil_append,
      List.getLast?_append, ih hresult, Option.some_or]

/-- The attempts at a login are logins, and no more than the policy allows. -/
theorem Attempting.logins {url : Url} {result : Except Http.Failure (Http.Response × UInt32)}
    (h : Attempting c (c.loginRequest url) 1 events result)
    (hurl : c.base.endpoint Client.loginPath = .ok url) : c.Logins (calls events) := by
  have hlimit := c.config.loginRetry.toNat_limit
  refine ⟨?_, fun call hcall => ?_⟩
  · have := h.length_calls_le (UInt32.le_iff_toNat_le.2 (by
      simp only [UInt32.reduceToNat]
      omega))
    simp only [UInt32.reduceToNat] at this
    simp only [LoginRetry.maxAttempts]
    omega
  · obtain ⟨hpurpose, hrequest⟩ := h.eq_of_mem_calls hcall
    exact ⟨hpurpose, url, hurl, hrequest⟩

/-- No calls are the calls of no login. -/
theorem Client.Logins.nil (c : Client) : c.Logins [] :=
  ⟨Nat.zero_le _, fun _ h => nomatch h⟩

/-- Opening a session makes its login and nothing else. -/
theorem Opening.logins {result : Except ClientError Unit} (h : Opening c events result c') :
    c.Logins (calls events) := by
  cases h with
  | noEndpoint => exact .nil c
  | unreached hurl h => exact h.logins hurl
  | rejected hurl h | cookieless hurl h | unstored hurl h | opened hurl h =>
    simpa [Client.stores] using h.logins hurl

/-- A login makes its login and nothing else. -/
theorem LoggingIn.logins {result : Except ClientError Unit} (h : LoggingIn c events result c') :
    c.Logins (calls events) := by
  cases h with
  | unanswered | reused => exact .nil c
  | opening hopen => exact hopen.logins

/-- An acquisition makes logins and nothing else. -/
theorem Acquiring.logins {result : Except ClientError Unit} (h : Acquiring c events result c') :
    c.Logins (calls events) := by
  cases h with
  | held => exact .nil c
  | loggingIn _ hlogin => exact hlogin.logins

/-- A session that is opened has been granted in the answer to the last call. -/
theorem Opening.getLast?_accepted (h : Opening c events (.ok ()) c') :
    ∃ call ∈ (calls events).getLast?, call.IsAccepted := by
  cases h with
  | @opened _ events response _ credential _ h hstatus hcookie =>
    have hlast := h.getLast?_calls rfl
    exact ⟨_, by simpa [Client.stores] using hlast, response, credential, rfl, hstatus, hcookie⟩

/-- A login that succeeds by a call has been granted in the answer to its last call. -/
theorem LoggingIn.getLast?_accepted (h : LoggingIn c events (.ok ()) c') :
    ∀ call ∈ (calls events).getLast?, call.IsAccepted := by
  intro call hcall
  cases h with
  | reused => cases hcall
  | opening hopen =>
    obtain ⟨call', hcall', haccepted⟩ := hopen.getLast?_accepted
    obtain rfl := Option.mem_unique hcall hcall'
    exact haccepted

/-- A session that is acquired by a call has been granted in the answer to the last call. -/
theorem Acquiring.getLast?_accepted (h : Acquiring c events (.ok ()) c') :
    ∀ call ∈ (calls events).getLast?, call.IsAccepted := by
  cases h with
  | held => exact fun _ hcall => nomatch hcall
  | loggingIn _ hlogin => exact hlogin.getLast?_accepted

variable {β σ : Type} [Http.Backend β] [SessionStore σ] {s : Site β σ} {b : β} {m : σ}

/-- A login calls nobody where the store has a live token. -/
theorem LoggingIn.loginCalls {result : Except ClientError Unit}
    (h : LoggingIn s.client events result c') (hhappens : Happens s.backend s.store events b m) :
    s.LoginCalls (calls events) := by
  refine ⟨h.logins, fun ⟨token, hlive⟩ => ?_⟩
  cases h with
  | unanswered | reused => rfl
  | opening =>
    have hnone : Except.ok none = _ := hhappens.isTrue_head
    rw [hlive] at hnone
    cases hnone

/-- An acquisition calls nobody where a session is held or stored. -/
theorem Acquiring.acquisitionCalls {result : Except ClientError Unit}
    (h : Acquiring s.client events result c') (hhappens : Happens s.backend s.store events b m) :
    s.AcquisitionCalls (calls events) := by
  cases h with
  | held => exact ⟨⟨.nil s.client, fun _ => rfl⟩, fun _ => rfl⟩
  | loggingIn hnone hlogin =>
    refine ⟨hlogin.loginCalls hhappens, fun hheld => ?_⟩
    rw [hnone] at hheld
    cases hheld

end

/-! ## Calls of requests -/

section
variable {c c' : Client} {r : PendingRequest} {events : List Event}

/-- A prepared request is the pending one with headers. -/
theorem Client.prepare_eq_ok {headers : List Http.Header} {request : Http.Request}
    (h : c.prepare r headers = .ok request) :
    c.requestUrl r.endpoint r.query = .ok request.url ∧ request.method = r.method ∧
      request.headers = headers ++ Client.cookieHeaders c.credential ∧ request.body = r.body := by
  unfold Client.prepare at h
  cases hurl : c.requestUrl r.endpoint r.query with
  | error e =>
    rw [hurl] at h
    cases h
  | ok url =>
    rw [hurl] at h
    cases h
    exact ⟨rfl, rfl, rfl, rfl⟩

/-- The call of a request: there is one if the request can be sent, and its answer is the result. -/
structure Client.RequestCall (c : Client) (r : PendingRequest)
    (result : Except ClientError Http.Response) (call? : Option Call) : Prop where
  sendable : call?.isSome = (c.sendable? (.ok r)).isSome
  carries : ∀ call ∈ call?, call.Carries c r
  answered : ∀ response, result = .ok response → ∃ call ∈ call?, call.outcome = .ok response

/-- A request that is sent once is one call, if it can be sent. -/
theorem Dispatching.requestCall {headers : List Http.Header}
    {result : Except ClientError Http.Response} (h : Dispatching c r headers events result) :
    ∃ call?, calls events = call?.toList ∧ c.RequestCall r result call? := by
  cases h with
  | noUrl hprepare =>
    refine ⟨none, rfl, ?_, fun _ hcall => ?_, fun _ hresult => ?_⟩
    · cases hurl : c.requestUrl r.endpoint r.query with
      | error e => simp only [Client.sendable?, hurl, Option.isSome_none]
      | ok url =>
        rw [Client.prepare, hurl] at hprepare
        cases hprepare
    · cases hcall
    · cases hresult
  | @sending request _ outcome hprepare hsend =>
    obtain ⟨hurl, hmethod, -, hbody⟩ := Client.prepare_eq_ok hprepare
    have hcalls := hsend.calls_eq
    cases hsendable : Http.isSendable request.url with
    | false =>
      rw [hsendable] at hcalls
      refine ⟨none, hcalls, ?_, fun _ hcall => ?_, fun response hresult => ?_⟩
      · simp only [Client.sendable?, hurl, hsendable, Bool.false_eq_true, reduceIte,
          Option.isSome_none]
      · cases hcall
      · cases hsend with
        | unsendable => cases hresult
        | sent hsent =>
          rw [hsendable] at hsent
          cases hsent
    | true =>
      rw [hsendable] at hcalls
      refine ⟨some ⟨.business, c.complete request, outcome⟩, hcalls, ?_, ?_, ?_⟩
      · simp only [Client.sendable?, hurl, hsendable, reduceIte, Option.isSome_some]
      · rintro _ ⟨⟩
        exact ⟨rfl, hmethod, hurl, hbody⟩
      · intro response hresult
        cases outcome with
        | error failure => cases hresult
        | ok answer =>
          cases hresult
          exact ⟨_, rfl, rfl⟩

/-- What carries a request out for a client carries it out for the client as it was before. -/
theorem Call.Carries.of_remains {call : Call} (h : call.Carries c' r) (hc : c.Remains c') :
    call.Carries c r := by
  refine ⟨h.purpose_eq, h.method_eq, ?_, h.body_eq⟩
  have hurl := h.url_eq
  rw [Client.requestUrl, hc.base] at hurl
  exact hurl

/-- Which requests can be sent does not change with the client. -/
theorem Client.Remains.sendable?_eq (hc : c.Remains c') (r : Except EncodeError PendingRequest) :
    c'.sendable? r = c.sendable? r := by
  unfold Client.sendable? Client.requestUrl
  rw [hc.base]

/-- A login of a client is one of the client as it was before. -/
theorem Call.IsLogin.of_remains {call : Call} (h : call.IsLogin c') (hc : c.Remains c') :
    call.IsLogin c := by
  obtain ⟨hpurpose, url, hurl, hrequest⟩ := h
  refine ⟨hpurpose, url, hc.base ▸ hurl, ?_⟩
  rw [hrequest, Client.complete, Client.complete, Client.loginRequest, Client.loginRequest,
    hc.standing, hc.config]

/-- The logins of a client are those of the client as it was before. -/
theorem Client.Logins.of_remains {logins : List Call} (h : c'.Logins logins)
    (hc : c.Remains c') : c.Logins logins :=
  ⟨hc.config ▸ h.length_le, fun call hcall => (h.isLogin call hcall).of_remains hc⟩

/-- A notice is no call. -/
@[simp]
theorem Client.calls_complaint (result : Except ClientError Http.Response) :
    calls (c.complaint result) = [] := by
  rcases c.complaint_eq result with h | ⟨notice, h⟩
  · rw [h]
    rfl
  · rw [h]
    rfl

/-- The calls of a renewal. -/
structure Client.RenewalCalls (c : Client) (r : PendingRequest)
    (result : Except ClientError Http.Response) (renewal : List Call) (replay : Option Call) :
    Prop where
  renewing : c.Logins renewal
  carries : ∀ call ∈ replay, call.Carries c r
  renewed : replay.isSome = true → ∃ call ∈ renewal.getLast?, call.IsAccepted
  answered : ∀ response, result = .ok response → ∃ call ∈ replay, call.outcome = .ok response

/-- A session that is given up calls nobody. -/
theorem Evicting.calls_eq {result : Except ClientError Unit} (h : Evicting c events result c') :
    calls events = [] := by
  cases h <;> rfl

/-- A renewal calls for a session, and if it gets one it calls the request again. -/
theorem Renewing.renewalCalls {result : Except ClientError Http.Response}
    (h : Renewing c r events result c') :
    ∃ renewal replay, calls events = renewal ++ replay.toList ∧
      c.RenewalCalls r result renewal replay := by
  cases h with
  | unevicted hevict =>
    refine ⟨[], none, hevict.calls_eq, .nil c, fun _ h => ?_, fun h => ?_, fun _ h => ?_⟩
    all_goals cases h
  | @unopened events events' _ _ _ hevict hopen =>
    refine ⟨calls events', none, ?_, hopen.logins.of_remains hevict.remains, fun _ h => ?_,
      fun h => ?_, fun _ h => ?_⟩
    · simp [hevict.calls_eq]
    all_goals cases h
  | @replayed events events' events'' _ _ _ hevict hopen hreplay =>
    obtain ⟨replay, hcalls, hcall⟩ := hreplay.requestCall
    have hremains := hevict.remains.trans hopen.remains
    refine ⟨calls events', replay, ?_, hopen.logins.of_remains hevict.remains, ?_, ?_, ?_⟩
    · simp [hevict.calls_eq, hcalls]
    · exact fun call h => (hcall.carries call h).of_remains hremains
    · exact fun _ => hopen.getLast?_accepted
    · exact hcall.answered

/-- The answer to a request that rejects its session is a rejection. -/
theorem Client.RequestCall.isRejected {response : Http.Response} {call? : Option Call}
    (h : c.RequestCall r (.ok response) call?) (hstatus : response.status.isSessionExpired = true) :
    ∃ call ∈ call?, call.IsRejected := by
  obtain ⟨call, hcall, houtcome⟩ := h.answered response rfl
  refine ⟨call, hcall, response, houtcome, ?_⟩
  simpa [Http.Status.isSessionExpired] using hstatus

/-- The calls of a request under a session that has been acquired. -/
structure Client.DeliveryCalls (c : Client) (r : PendingRequest)
    (result : Except ClientError Http.Response) (business : Option Call) (renewal : List Call)
    (replay : Option Call) : Prop where
  renewing : c.Logins renewal
  carries : ∀ call, call ∈ business ∨ call ∈ replay → call.Carries c r
  rejected : renewal ≠ [] ∨ replay.isSome = true → ∃ call ∈ business, call.IsRejected
  renewed : replay.isSome = true → ∃ call ∈ renewal.getLast?, call.IsAccepted
  answered : ∀ response, result = .ok response →
    ∃ call ∈ replay.or business, call.outcome = .ok response

/-- The call of a request that is not rejected is the only one. -/
theorem Client.RequestCall.deliveryCalls {result : Except ClientError Http.Response}
    {business : Option Call} (h : c.RequestCall r result business) :
    c.DeliveryCalls r result business [] none where
  renewing := .nil c
  carries call hcall := by
    rcases hcall with hcall | hcall
    · exact h.carries call hcall
    · cases hcall
  rejected hany := by
    rcases hany with hany | hany
    · exact absurd rfl hany
    · cases hany
  renewed hany := by cases hany
  answered := h.answered

/-- A request is called, and after a rejection it is called again under another session. -/
theorem Delivering.deliveryCalls {headers : List Http.Header}
    {result : Except ClientError Http.Response} (h : Delivering c r headers events result c') :
    ∃ business renewal replay, calls events = business.toList ++ renewal ++ replay.toList ∧
      c.DeliveryCalls r result business renewal replay := by
  cases h with
  | undelivered hsend | answered hsend =>
    obtain ⟨business, hcalls, hcall⟩ := hsend.requestCall
    exact ⟨business, [], none, by simp [hcalls], hcall.deliveryCalls⟩
  | renewed hsend hstatus hrenew =>
    obtain ⟨business, hcalls, hcall⟩ := hsend.requestCall
    obtain ⟨renewal, replay, hcalls', hrenewal⟩ := hrenew.renewalCalls
    refine ⟨business, renewal, replay, by simp [hcalls, hcalls'], hrenewal.renewing,
      fun call h => ?_, fun _ => hcall.isRejected hstatus, hrenewal.renewed,
      fun response hresult => ?_⟩
    · rcases h with h | h
      · exact hcall.carries call h
      · exact hrenewal.carries call h
    · obtain ⟨call, hmem, houtcome⟩ := hrenewal.answered response hresult
      exact ⟨call, by rw [Option.mem_def.1 hmem]; rfl, houtcome⟩

/-- The calls of a login are no business. -/
theorem Client.Logins.countP_business {logins : List Call} (h : c.Logins logins) :
    logins.countP (·.purpose = .business) = 0 := by
  refine List.countP_eq_zero.2 fun call hcall => ?_
  rw [(h.isLogin call hcall).1]
  decide

/-- The calls of a login are no more logins than the policy allows. -/
theorem Client.Logins.countP_login_le {logins : List Call} (h : c.Logins logins) :
    logins.countP (·.purpose = .login) ≤ c.config.loginRetry.maxAttempts :=
  Nat.le_trans List.countP_le_length h.length_le

/-- At most one call is counted. -/
theorem countP_toList_le (call? : Option Call) (p : Call → Bool) : call?.toList.countP p ≤ 1 := by
  cases call? with
  | none => exact Nat.zero_le _
  | some call => exact List.countP_le_length

/-- A call that carries a request out is no login. -/
theorem Call.Carries.countP_login {call? : Option Call} (h : ∀ call ∈ call?, call.Carries c r) :
    call?.toList.countP (·.purpose = .login) = 0 := by
  refine List.countP_eq_zero.2 fun call hcall => ?_
  rw [(h call (Option.mem_toList.1 hcall)).purpose_eq]
  decide

section
variable {β σ : Type} [SessionStore σ] {s : Site β σ}

/-- A request is sent at most twice. -/
theorem Site.RequestCalls.countP_business_le {result : Except ClientError Http.Response}
    {first renewal : List Call} {business replay : Option Call}
    (h : s.RequestCalls r result first business renewal replay) :
    (first ++ business.toList ++ renewal ++ replay.toList).countP (·.purpose = .business) ≤ 2 := by
  have hbusiness := countP_toList_le business (·.purpose = .business)
  have hreplay := countP_toList_le replay (·.purpose = .business)
  rw [List.countP_append, List.countP_append, List.countP_append,
    h.acquiring.bounded.countP_business, h.renewing.countP_business]
  omega

/-- A request makes at most twice as many logins as the policy allows. -/
theorem Site.RequestCalls.countP_login_le {result : Except ClientError Http.Response}
    {first renewal : List Call} {business replay : Option Call}
    (h : s.RequestCalls r result first business renewal replay) :
    (first ++ business.toList ++ renewal ++ replay.toList).countP (·.purpose = .login) ≤
      2 * s.client.config.loginRetry.maxAttempts := by
  have hfirst := h.acquiring.bounded.countP_login_le
  have hrenewal := h.renewing.countP_login_le
  rw [List.countP_append, List.countP_append, List.countP_append,
    Call.Carries.countP_login fun call hcall => h.carries call (.inl hcall),
    Call.Carries.countP_login fun call hcall => h.carries call (.inr hcall)]
  omega

end

section
variable {β σ : Type} [Http.Backend β] [SessionStore σ] {s : Site β σ} {b : β} {m : σ}

/-- A session is acquired by the same calls if headers are queued. -/
theorem Acquiring.acquisitionCalls_of_unqueued {result : Except ClientError Unit}
    (h : Acquiring s.client.unqueued events result c')
    (hhappens : Happens s.backend s.store events b m) : s.AcquisitionCalls (calls events) := by
  have hcalls := h.acquisitionCalls (s := { s with client := s.client.unqueued }) hhappens
  exact ⟨⟨hcalls.bounded.of_remains (.unqueued s.client), hcalls.stored⟩, hcalls.held⟩

/-- A request acquires a session, is sent, and after a rejection it is sent again under another
session. -/
theorem Requesting.requestCalls {result : Except ClientError Http.Response}
    (h : Requesting s.client r events result c')
    (hhappens : Happens s.backend s.store events b m) :
    ∃ first business renewal replay,
      calls events = first ++ business.toList ++ renewal ++ replay.toList ∧
        s.RequestCalls r result first business renewal replay := by
  cases h with
  | unacquired hacquire =>
    have hfirst := hacquire.acquisitionCalls_of_unqueued hhappens
    refine ⟨calls events, none, [], none, by simp, hfirst, .nil s.client, fun _ h => ?_,
      fun h => ?_, fun h => ?_, fun h => ?_, fun _ h => ?_⟩
    · rcases h with h | h <;> cases h
    · cases h
    · rcases h with h | h
      · exact absurd rfl h
      · cases h
    · cases h
    · cases h
  | @acquired events events' _ _ _ hacquire hdeliver =>
    obtain ⟨_, _, hhappens', -⟩ := hhappens.of_append
    obtain ⟨business, renewal, replay, hcalls, hdelivery⟩ := hdeliver.deliveryCalls
    have hremains := (Client.Remains.unqueued s.client).trans hacquire.remains
    refine ⟨calls events, business, renewal, replay, by simp [hcalls],
      hacquire.acquisitionCalls_of_unqueued hhappens', hdelivery.renewing.of_remains hremains,
      fun call h => (hdelivery.carries call h).of_remains hremains,
      fun _ => hacquire.getLast?_accepted, hdelivery.rejected, hdelivery.renewed,
      hdelivery.answered⟩

/-- An adjusted request acquires a session and is sent. -/
theorem SendingWith.adjustedCalls {method : Http.Method} {endpoint : String}
    {adjustments : List Adjustment} {result : Except ClientError Http.Response}
    (h : SendingWith s.client method endpoint adjustments events result c')
    (hhappens : Happens s.backend s.store events b m) :
    ∃ first business, calls events = first ++ business.toList ∧
      s.AdjustedCalls method endpoint adjustments result c' first business := by
  cases h with
  | unacquired hacquire =>
    refine ⟨calls events, none, by simp, hacquire.acquisitionCalls_of_unqueued hhappens,
      fun _ h => ?_, fun h => ?_, fun _ h => ?_⟩ <;> cases h
  | unbuilt hacquire =>
    refine ⟨calls events, none, by simp, hacquire.acquisitionCalls_of_unqueued hhappens,
      fun _ h => ?_, fun h => ?_, fun _ h => ?_⟩ <;> cases h
  | @sending events events' request outcome _ hacquire hbuild hsend =>
    obtain ⟨_, _, hhappens', -⟩ := hhappens.of_append
    have hfirst := hacquire.acquisitionCalls_of_unqueued hhappens'
    cases hsend with
    | unsendable =>
      refine ⟨calls events, none, by simp, hfirst, fun _ h => ?_, fun h => ?_, fun _ h => ?_⟩ <;>
        cases h
    | sent =>
      refine ⟨calls events, some ⟨.business, c'.complete request, outcome⟩, by simp, hfirst, ?_,
        fun _ => hacquire.getLast?_accepted, fun response hresult => ?_⟩
      · rintro _ ⟨⟩
        exact ⟨rfl, request, hbuild, rfl⟩
      · cases outcome with
        | error failure => cases hresult
        | ok answer =>
          cases hresult
          exact ⟨_, rfl, rfl⟩

end

/-! ## Calls of logouts -/

/-- Finding a credential calls nobody. -/
theorem FindingCredential.calls_eq {result : Except StoreError (Option Credential)}
    (h : FindingCredential c events result) : calls events = [] := by
  cases h <;> rfl

/-- Where nothing is called, nothing is called wrongly. -/
theorem Client.LogoutCall.none (c : Client) : c.LogoutCall none := by
  refine ⟨fun _ h => ?_, fun _ h => ?_, fun _ h => ?_⟩ <;> cases h

/-- The request that closes a session is one call at most. -/
theorem Sending.logoutCall {url : Url} {credential : Option Credential}
    {outcome : Except Http.Failure Http.Response}
    (h : Sending c .logout (Client.logoutRequest url credential) events outcome)
    (hurl : c.base.endpoint Client.logoutPath = .ok url) :
    ∃ call?, calls events = call?.toList ∧ c.LogoutCall call? := by
  cases h with
  | unsendable => exact ⟨none, rfl, .none c⟩
  | sent =>
    refine ⟨some ⟨.logout, c.complete (Client.logoutRequest url credential), outcome⟩, rfl,
      ?_, ?_, ?_⟩ <;> rintro _ ⟨⟩
    · rfl
    · rfl
    · exact hurl

/-- A logout is one call at most. -/
theorem LoggingOut.logoutCall {result : Except ClientError Unit}
    (h : LoggingOut c events result c') :
    ∃ call?, calls events = call?.toList ∧ c.LogoutCall call? := by
  cases h with
  | unchecked | nothing => exact ⟨none, rfl, .none c⟩
  | unfound hfind | noEndpoint hfind => exact ⟨none, by simp [hfind.calls_eq], .none c⟩
  | unforgotten hfind hurl hsend | closed hfind hurl hsend =>
    obtain ⟨call?, hcalls, hcall⟩ := hsend.logoutCall hurl
    exact ⟨call?, by simp [hfind.calls_eq, hcalls], hcall⟩

/-! ## Calls of pools -/

/-- What can be sent of an entry is its request. -/
theorem Client.eq_of_sendable? {r' : PendingRequest} (h : c.sendable? (.ok r) = some r') :
    r' = r := by
  simp only [Client.sendable?] at h
  split at h
  · split at h
    · exact (Option.some.inj h).symm
    · cases h
  · cases h

/-- A call for the entries of a pool is the call for one of them. -/
theorem DispatchingAll.exists_dispatching
    {entries : List (PoolKey × Except EncodeError PendingRequest)}
    {results : List (PoolKey × Except ClientError Http.Response)}
    (h : DispatchingAll c entries events results) {call : Call} (hcall : call ∈ calls events) :
    ∃ (r : PendingRequest) (events' : List Event) (result : Except ClientError Http.Response),
      Dispatching c r [] events' result ∧ call ∈ calls events' := by
  induction h with
  | nil => cases hcall
  | cons h _ ih =>
    rw [calls_append, List.mem_append] at hcall
    rcases hcall with hcall | hcall
    · cases h with
      | unencoded => cases hcall
      | dispatching hsend => exact ⟨_, _, _, hsend, hcall⟩
    · exact ih hcall

/-- The entry of a pool is called if it can be sent. -/
theorem DispatchingDeclared.calls_forall₂ {entry : Except EncodeError PendingRequest}
    {result : Except ClientError Http.Response} (h : DispatchingDeclared c entry events result) :
    List.Forall₂ (fun call r => Call.Carries call c r) (calls events)
      (c.sendable? entry).toList := by
  cases h with
  | unencoded => exact .nil
  | dispatching h =>
    obtain ⟨call?, hcalls, hcall⟩ := h.requestCall
    rw [hcalls]
    have hsendable := hcall.sendable
    cases hr : c.sendable? (.ok _) with
    | none =>
      rw [hr] at hsendable
      rw [Option.isSome_eq_false_iff.1 hsendable |> Option.isNone_iff_eq_none.1]
      exact .nil
    | some r' =>
      rw [hr] at hsendable
      obtain ⟨call, rfl⟩ := Option.isSome_iff_exists.1 hsendable
      rw [Client.eq_of_sendable? hr]
      exact .cons (hcall.carries call rfl) .nil

/-- The entries of a pool that can be sent are called in their order. -/
theorem DispatchingAll.calls_forall₂
    {entries : List (PoolKey × Except EncodeError PendingRequest)}
    {results : List (PoolKey × Except ClientError Http.Response)}
    (h : DispatchingAll c entries events results) :
    List.Forall₂ (fun call r => Call.Carries call c r) (calls events)
      (entries.filterMap fun entry => c.sendable? entry.2) := by
  induction h with
  | nil => exact .nil
  | @cons key r entries _ _ _ _ h _ ih =>
    have hentries : ((key, r) :: entries).filterMap (fun entry => c.sendable? entry.2) =
        (c.sendable? r).toList ++ entries.filterMap fun entry => c.sendable? entry.2 := by
      rw [List.filterMap_cons]
      cases c.sendable? r <;> rfl
    rw [calls_append, hentries]
    exact List.rel_append h.calls_forall₂ ih

section
variable {β σ : Type} [Http.Backend β] [SessionStore σ] {s : Site β σ} {b : β} {m : σ}

/-- A pool acquires a session, and each entry that can be sent is sent. -/
theorem Pooling.poolCalls {p : Pool}
    {result : Except ClientError (PoolResults (Except ClientError Http.Response))}
    (h : Pooling s.client p events result c') (hhappens : Happens s.backend s.store events b m) :
    ∃ first business, calls events = first ++ business ∧ s.PoolCalls p result first business := by
  cases h with
  | unacquired hacquire =>
    refine ⟨calls events, [], by simp, hacquire.acquisitionCalls hhappens, fun h => absurd rfl h,
      fun _ _ => rfl, fun _ h => ?_⟩
    cases h
  | @dispatched events events' _ _ hacquire hall =>
    obtain ⟨_, _, hhappens', -⟩ := hhappens.of_append
    have hremains := hacquire.remains
    refine ⟨calls events, calls events', by simp, hacquire.acquisitionCalls hhappens',
      fun _ => hacquire.getLast?_accepted, fun _ h => ?_, fun _ _ => ?_⟩
    · cases h
    · have hcalls := hall.calls_forall₂.imp fun _ _ h => Call.Carries.of_remains h hremains
      simpa only [hremains.sendable?_eq] using hcalls

/-! ## Calls of actions -/

/-- Every action makes the calls that it may make, whatever the backend and the store answer. -/
theorem Site.perform_calls (s : Site β σ) (a : Action) :
    ∃ events, (s.perform a).2.trace = s.trace ++ events ∧
      a.MayCall s (s.perform a).2.client (s.perform a).1 (calls events) := by
  obtain ⟨events, hcourse, hpass⟩ := s.perform_following a
  refine ⟨events, hpass.trace_eq, ?_⟩
  have hhappens := hpass.happens
  clear hpass
  generalize (s.perform a).1 = result, (s.perform a).2.client = last at hcourse ⊢
  cases hcourse with
  | login hlogin => exact hlogin.loginCalls hhappens
  | logout hlogout => exact hlogout.logoutCall
  | misqueued | queued | unencoded => rfl
  | request hsend =>
    obtain ⟨first, business, renewal, replay, hcalls, hrequest⟩ :=
      hsend.requestCalls hhappens
    exact ⟨_, first, business, renewal, replay, rfl, hcalls, hrequest,
      hcalls ▸ hrequest.countP_business_le, hcalls ▸ hrequest.countP_login_le⟩
  | sendWith hsend =>
    obtain ⟨first, business, hcalls, hadjusted⟩ := hsend.adjustedCalls hhappens
    exact ⟨_, first, business, rfl, hcalls, hadjusted⟩
  | pool hsend =>
    obtain ⟨first, business, hcalls, hpool⟩ := hsend.poolCalls hhappens
    exact ⟨_, first, business, rfl, hcalls, hpool⟩

end

end

/-! ## A login in spite of a credential -/

/-- The settings of an identity whose login is tried once. -/
def Config.sample : Config :=
  { Config.ofIdentity "https://sl.example/b1s/v1/" "DB" "manager" "secret" with
    loginRetry := .single }

/-- The site of a client that is built with settings and nothing else. -/
def Config.site? {β σ : Type} (config : Config) (backend : β) (store : σ) : Option (Site β σ) :=
  match (ClientSetup.ofConfig config).build (Generator.ofSeed 0) with
  | .ok (client, _) => some ⟨client, backend, store, []⟩
  | .error _ => none

/-- The site of a client that has been logged in with a stored token, once the token has expired. -/
def Site.outlived {β : Type} [Http.Backend β] (s : Site β MemoryStore) (token : String) :
    Site β MemoryStore :=
  let s' := (Site.perform { s with store := s.store.put s.client.key.text token 60 } .login).2
  { s' with store := s'.store.put s.client.key.text token 0 }

/-- A login calls the server although a credential is held, if the token in the store has expired
since. -/
theorem login_calls_although_held :
    ∃ s : Site ScriptedBackend MemoryStore, Config.sample.site? ⟨[], 0, false⟩ .empty = some s ∧
      (s.outlived "B1SESSION=a").client.credential.isSome = true ∧
      (calls (s.outlived "B1SESSION=a").trace).length = 0 ∧
      (calls ((s.outlived "B1SESSION=a").perform .login).2.trace).length = 1 := by
  have h : (Config.sample.site? (⟨[], 0, false⟩ : ScriptedBackend) MemoryStore.empty).any (fun s =>
      (s.outlived "B1SESSION=a").client.credential.isSome = true ∧
      (calls (s.outlived "B1SESSION=a").trace).length = 0 ∧
      (calls ((s.outlived "B1SESSION=a").perform .login).2.trace).length = 1) = true := by
    decide +kernel
  obtain ⟨s, hs, hcalls⟩ := (Option.any_eq_true _ _).1 h
  exact ⟨s, hs, of_decide_eq_true hcalls⟩

end ODataSession
