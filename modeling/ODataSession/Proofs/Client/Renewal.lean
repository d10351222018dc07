import ODataSession.Proofs.Client.Tokens
import ODataSession.Proofs.Url.Endpoint

/-!
# Renewals

What a renewal leaves behind, on a server with a scheme of HTTP and a store that does not fail
(`Site.perform_renewal`). When the first call of a request is rejected, the token is dropped from
the store before anything else is done. Then either a login is accepted, and the client, the store
and the replay have the token of its answer, or none is, and neither the client nor the store has a
token. The client is followed along the course of the renewal, and the store along its events: only
a deposit and the dropping of a token change what is kept.
-/

namespace ODataSession

/-! ## What stays in the store -/

section
variable {σ : Type} [SessionStore σ]

/-- The store after events. -/
def storeAfterAll (m : σ) (events : List Event) : σ :=
  events.foldl (fun m e => e.storeAfter m) m

/-- The store after events and others is the store after the others. -/
theorem storeAfterAll_append (m : σ) (events events' : List Event) :
    storeAfterAll m (events ++ events') = storeAfterAll (storeAfterAll m events) events' :=
  List.foldl_append

/-- Events leave the store that they leave one after the other. -/
theorem Happens.store_eq {β : Type} [Http.Backend β] {b b' : β} {m m' : σ} {events : List Event}
    (h : Happens b m events b' m') : m' = storeAfterAll m events := by
  induction h with
  | nil => rfl
  | cons _ _ ih => exact ih

section
variable {c c' : Client} {r : PendingRequest} {events : List Event} (m : σ)

/-- Sending leaves the store as it is. -/
theorem Sending.storeAfterAll_eq {purpose : Purpose} {request : Http.Request}
    {outcome : Except Http.Failure Http.Response} (h : Sending c purpose request events outcome) :
    storeAfterAll m events = m := by
  cases h <;> rfl

/-- The attempts at a login leave the store as it is. -/
theorem Attempting.storeAfterAll_eq {request : Http.Request} {attempt : UInt32}
    {result : Except Http.Failure (Http.Response × UInt32)}
    (h : Attempting c request attempt events result) : storeAfterAll m events = m := by
  induction h with
  | answered h => exact h.storeAfterAll_eq m
  | abandoned h =>
    rw [storeAfterAll_append, h.storeAfterAll_eq]
    rfl
  | repeated h _ _ ih =>
    rw [storeAfterAll_append, h.storeAfterAll_eq]
    exact ih

/-- A request that is sent once leaves the store as it is. -/
theorem Dispatching.storeAfterAll_eq {headers : List Http.Header}
    {result : Except ClientError Http.Response} (h : Dispatching c r headers events result) :
    storeAfterAll m events = m := by
  cases h with
  | noUrl => rfl
  | sending _ hsend => exact hsend.storeAfterAll_eq m

/-- A notice leaves the store as it is. -/
theorem Client.storeAfterAll_complaint (result : Except ClientError Http.Response) :
    storeAfterAll m (c.complaint result) = m := by
  rcases c.complaint_eq result with h | ⟨notice, h⟩
  · rw [h]
    rfl
  · rw [h]
    rfl

end

end

/-! ## Servers of HTTP -/

/-- A client whose server has a scheme of HTTP. -/
structure Client.IsOnHttp (c : Client) : Prop where
  base_eq : Url.ofServer c.config.server = .ok c.base
  scheme_eq : c.base.scheme = "http".toList ∨ c.base.scheme = "https".toList

/-- On a server of HTTP there is an endpoint that opens sessions. -/
theorem Client.IsOnHttp.exists_endpoint {c : Client} (h : c.IsOnHttp) :
    ∃ url, c.base.endpoint Client.loginPath = .ok url :=
  Url.exists_endpoint h.base_eq h.scheme_eq (.inl rfl)

/-- A client stays on its server. -/
theorem Client.IsOnHttp.of_remains {c c' : Client} (h : c.IsOnHttp) (hc : c.Remains c') :
    c'.IsOnHttp := by
  refine ⟨?_, ?_⟩
  · rw [hc.config, hc.base]
    exact h.base_eq
  · rw [hc.base]
    exact h.scheme_eq

/-- A client is built on the server of its settings. -/
theorem ClientSetup.Builds.isOnHttp {setup : ClientSetup} {client : Client}
    (h : setup.Builds client)
    (hscheme : client.base.scheme = "http".toList ∨ client.base.scheme = "https".toList) :
    client.IsOnHttp :=
  ⟨h.config_eq ▸ h.base_eq, hscheme⟩

/-- A client is on its server whatever it does. -/
theorem Site.perform_isOnHttp {β σ : Type} [Http.Backend β] [SessionStore σ] {s : Site β σ}
    (hs : s.client.IsOnHttp) (a : Action) : (s.perform a).2.client.IsOnHttp :=
  hs.of_remains (s.perform_remains a)

/-! ## Logins that are granted or refused -/

section
variable {c c' : Client} {r : PendingRequest} {events : List Event}

/-- What came of a request is what came of its call. -/
theorem Sending.outcome_of_mem_calls {purpose : Purpose} {request : Http.Request}
    {outcome : Except Http.Failure Http.Response} (h : Sending c purpose request events outcome)
    {call : Call} (hcall : call ∈ calls events) : call.outcome = outcome := by
  rw [h.eq_of_mem_calls hcall]

/-- Every call of a login fails but the one that is answered. -/
theorem Attempting.outcome_of_mem_calls {request : Http.Request} {attempt : UInt32}
    {result : Except Http.Failure (Http.Response × UInt32)}
    (h : Attempting c request attempt events result) {call : Call} (hcall : call ∈ calls events) :
    (∃ failure, call.outcome = .error failure) ∨
      ∃ answer, result = .ok answer ∧ call.outcome = .ok answer.1 := by
  induction h with
  | answered h => exact .inr ⟨_, rfl, h.outcome_of_mem_calls hcall⟩
  | abandoned h =>
    refine .inl ⟨_, h.outcome_of_mem_calls ?_⟩
    simpa using hcall
  | repeated h _ _ ih =>
    simp only [calls_append, calls_cons, Event.call?, Option.toList, List.nil_append,
      List.mem_append] at hcall
    rcases hcall with hcall | hcall
    · exact .inl ⟨_, h.outcome_of_mem_calls hcall⟩
    · exact ih hcall

/-- A login whose answer is not accepted has no call that is accepted. -/
theorem Attempting.not_isAccepted {request : Http.Request} {attempt : UInt32}
    {result : Except Http.Failure (Http.Response × UInt32)}
    (h : Attempting c request attempt events result)
    (hresult : ∀ answer, result = .ok answer → answer.1.status.isSuccess = true →
      Credential.ofSetCookie? answer.1.setCookie = none) :
    ∀ call ∈ calls events, ¬ call.IsAccepted := by
  rintro call hcall ⟨response, credential, houtcome, hsuccess, hcookie⟩
  rcases h.outcome_of_mem_calls hcall with ⟨failure, herror⟩ | ⟨answer, hanswer, hok⟩
  · rw [houtcome] at herror
    cases herror
  · obtain rfl := Except.ok.inj (houtcome.symm.trans hok)
    rw [hresult answer hanswer hsuccess] at hcookie
    cases hcookie

/-- A login that the server accepts, with a cookie in its answer that gives a credential. -/
def Call.Grants (call : Call) (credential : Credential) : Prop :=
  ∃ response, call.outcome = .ok response ∧ response.status.isSuccess = true ∧
    Credential.ofSetCookie? response.setCookie = some credential

/-- Whether a call grants a credential can be seen from its outcome. -/
instance (call : Call) (credential : Credential) : Decidable (call.Grants credential) :=
  match h : call.outcome with
  | .ok response =>
    decidable_of_iff (response.status.isSuccess = true ∧
        Credential.ofSetCookie? response.setCookie = some credential)
      ⟨fun hgrants => ⟨response, h, hgrants⟩, fun ⟨_, houtcome, hgrants⟩ =>
        Except.ok.inj (h.symm.trans houtcome) ▸ hgrants⟩
  | .error _ => .isFalse fun ⟨_, houtcome, _⟩ => by
    rw [h] at houtcome
    cases houtcome

/-- The deposit of a credential in a store that takes it. -/
def Client.deposit (c : Client) (credential : Credential) : Deposit :=
  ⟨c.key.text, credential.cookie, c.config.cacheTtl.toNat, .ok ()⟩

/-- A session that is opened: the last call grants a credential, which is deposited and taken. -/
structure Client.Opened (c : Client) (events : List Event) (c' : Client) (credential : Credential) :
    Prop where
  granted : ∃ login ∈ (calls events).getLast?, login.Grants credential
  adopted : c' = c.adopt credential
  deposits_eq : deposits events = [c.deposit credential]
  store_eq : ∀ {σ : Type} [SessionStore σ] (m : σ), storeAfterAll m events =
    (SessionStore.put m c.key.text credential.cookie (.ofSeconds c.config.cacheTtl.toNat)).2

/-- Opening a session that succeeds takes the credential of the answer, and so does the store. -/
theorem Opening.exists_opened (h : Opening c events (.ok ()) c') :
    ∃ credential, c.Opened events c' credential := by
  cases h with
  | @opened _ events response _ credential _ h hstatus hcookie =>
    have hlast := h.getLast?_calls rfl
    refine ⟨credential, ⟨_, by simpa [Client.stores] using hlast, response, rfl, hstatus, hcookie⟩,
      rfl, ?_, fun m => ?_⟩
    · simp [h.deposits_eq, Client.stores, Client.deposit]
    · rw [storeAfterAll_append, h.storeAfterAll_eq]
      rfl

/-- A session that is not opened: no call is accepted, nothing is deposited, and a client that had
no credential has none. -/
structure Client.Unopened (c : Client) (events : List Event) (c' : Client) : Prop where
  not_isAccepted : ∀ call ∈ calls events, ¬ call.IsAccepted
  state_eq : c'.state = .failed
  credential_eq : c.credential = none → c'.credential = none
  deposits_eq : deposits events = []
  store_eq : ∀ {σ : Type} [SessionStore σ] (m : σ), storeAfterAll m events = m

/-- On a server of HTTP a session is not opened only because no login is accepted, if the store
takes what it is given. -/
theorem Opening.unopened {e : ClientError} (h : Opening c events (.error e) c') (hc : c.IsOnHttp)
    (hput : ∀ key token lifetime e, .put key token lifetime (.error e) ∉ events) :
    c.Unopened events c' := by
  cases h with
  | noEndpoint hurl =>
    obtain ⟨url, hurl'⟩ := hc.exists_endpoint
    rw [hurl] at hurl'
    cases hurl'
  | unreached _ h =>
    refine ⟨h.not_isAccepted fun _ hresult => ?_, rfl, fun hnone => hnone, h.deposits_eq,
      fun m => h.storeAfterAll_eq m⟩
    cases hresult
  | rejected _ h hstatus =>
    refine ⟨?_, rfl, fun _ => rfl, by simp [h.deposits_eq], fun m => ?_⟩
    · have hcalls := h.not_isAccepted fun answer hresult hsuccess => by
        cases hresult
        rw [hstatus] at hsuccess
        cases hsuccess
      simpa using hcalls
    · rw [storeAfterAll_append, h.storeAfterAll_eq]
      rfl
  | cookieless _ h _ hcookie =>
    refine ⟨?_, rfl, fun _ => rfl, by simp [h.deposits_eq], fun m => ?_⟩
    · have hcalls := h.not_isAccepted fun answer hresult _ => by
        cases hresult
        exact hcookie
      simpa using hcalls
    · rw [storeAfterAll_append, h.storeAfterAll_eq]
      rfl
  | unstored => exact absurd (List.mem_append_right _ List.mem_cons_self) (hput _ _ _ _)

/-! ## Replays -/

/-- Standing headers do not add to the cookies of a request that has one. -/
theorem Client.cookies_withMissing (credential : Credential) (standing : List Http.Header) :
    (Http.Headers.withMissing [.cookie credential.cookie] standing).filter (·.name = "cookie") =
      [.cookie credential.cookie] := by
  have hnone : (standing.filter fun d => [Http.Header.cookie credential.cookie].all fun h =>
      h.name ≠ d.name).filter (·.name = "cookie") = [] := by
    refine List.filter_eq_nil_iff.2 fun header hmem => ?_
    have hname := (List.mem_filter.1 hmem).2
    simp only [List.all_cons, List.all_nil, Bool.and_true, decide_eq_true_eq] at hname ⊢
    exact fun h => hname h.symm
  rw [Http.Headers.withMissing, List.filter_append, hnone]
  rfl

/-- A request that has been answered can be sent. -/
theorem Dispatching.isSome_sendable? {headers : List Http.Header} {response : Http.Response}
    (h : Dispatching c r headers events (.ok response)) : (c.sendable? (.ok r)).isSome = true := by
  obtain ⟨call?, -, hcall⟩ := h.requestCall
  obtain ⟨call, rfl, -⟩ := hcall.answered response rfl
  exact hcall.sendable.symm

/-- What came of a request that is sent once is the result. -/
theorem Dispatching.result_of_mem_calls {headers : List Http.Header}
    {result : Except ClientError Http.Response} (h : Dispatching c r headers events result)
    {call : Call} (hcall : call ∈ calls events) :
    result = call.outcome.mapError .transport := by
  cases h with
  | noUrl => cases hcall
  | sending _ hsend => rw [hsend.outcome_of_mem_calls hcall]

/-- A replay: one call, which carries the request and a credential, and whose answer is the
result. -/
structure Client.Replayed (c : Client) (r : PendingRequest) (events : List Event)
    (result : Except ClientError Http.Response) (credential : Credential) (replay : Call) :
    Prop where
  calls_eq : calls events = [replay]
  carries : replay.Carries c r
  cookies_eq : replay.request.headers.filter (·.name = "cookie") = [.cookie credential.cookie]
  result_eq : result = replay.outcome.mapError .transport

/-- A request that can be sent is replayed with the credential of the client. -/
theorem Dispatching.exists_replayed {result : Except ClientError Http.Response}
    (h : Dispatching c r [] events result) (hsendable : (c.sendable? (.ok r)).isSome = true)
    {credential : Credential} (hcredential : c.credential = some credential)
    (hfit : credential.IsFit) : ∃ replay, c.Replayed r events result credential replay := by
  obtain ⟨call?, hcalls, hcall⟩ := h.requestCall
  obtain ⟨replay, rfl⟩ := Option.isSome_iff_exists.1 (hcall.sendable.trans hsendable)
  have hmem : replay ∈ calls events := hcalls ▸ List.mem_cons_self
  refine ⟨replay, hcalls, hcall.carries replay rfl, ?_, h.result_of_mem_calls hmem⟩
  cases h with
  | noUrl => cases hmem
  | @sending request _ _ hprepare hsend =>
    obtain ⟨-, -, hheaders, -⟩ := Client.prepare_eq_ok hprepare
    rw [hsend.calls_eq] at hmem
    split at hmem
    · obtain rfl := List.mem_singleton.1 hmem
      rw [Client.complete, hheaders, hcredential, Client.cookieHeaders_eq hfit]
      exact Client.cookies_withMissing credential c.standing
    · cases hmem

end

/-! ## Renewals on a store that does not fail -/

section
variable {β σ : Type} [Http.Backend β] [ReliableStore σ] {b b' : β} {m m' : σ} {c c' : Client}
  {r : PendingRequest} {events : List Event} {result : Except ClientError Http.Response}

/-- A renewal that succeeds: the last login grants a credential, and the client, the store and the
replay have it in the end. -/
structure Client.Renewed (c : Client) (r : PendingRequest) (events : List Event)
    (result : Except ClientError Http.Response) (c' : Client) (m : σ) (renewal : List Call)
    (credential : Credential) (replay : Call) : Prop where
  calls_eq : calls events = renewal ++ [replay]
  logins : c.Logins renewal
  granted : ∃ login ∈ renewal.getLast?, login.Grants credential
  state_eq : c'.state = .authenticated
  credential_eq : c'.credential = some credential
  deposits_eq : deposits events = [c.deposit credential]
  kept_eq : ReliableStore.kept m c.key.text = some credential.cookie
  carries : replay.Carries c r
  cookies_eq : replay.request.headers.filter (·.name = "cookie") = [.cookie credential.cookie]
  result_eq : result = replay.outcome.mapError .transport

/-- A renewal that fails: no login is accepted, nothing else is called, and neither the client nor
the store has a token in the end. -/
structure Client.Unrenewed (c : Client) (events : List Event)
    (result : Except ClientError Http.Response) (c' : Client) (m : σ) : Prop where
  logins : c.Logins (calls events)
  not_isAccepted : ∀ call ∈ calls events, ¬ call.IsAccepted
  failed : ∃ e, result = .error e
  state_eq : c'.state = .failed
  credential_eq : c'.credential = none
  deposits_eq : deposits events = []
  kept_eq : ReliableStore.kept m c.key.text = none

/-- A client deposits what it did as it was before. -/
theorem Client.Remains.deposit_eq (hc : c.Remains c') (credential : Credential) :
    c'.deposit credential = c.deposit credential := by
  unfold Client.deposit
  rw [hc.key, hc.config]

/-- A renewal that succeeds is one of the client as it was before. -/
theorem Client.Renewed.of_remains {last : Client} {renewal : List Call} {credential : Credential}
    {replay : Call} (h : c'.Renewed r events result last m renewal credential replay)
    (hc : c.Remains c') : c.Renewed r events result last m renewal credential replay :=
  { h with
    logins := h.logins.of_remains hc
    deposits_eq := hc.deposit_eq credential ▸ h.deposits_eq
    kept_eq := hc.key ▸ h.kept_eq
    carries := h.carries.of_remains hc }

/-- A renewal that fails is one of the client as it was before. -/
theorem Client.Unrenewed.of_remains {last : Client} (h : c'.Unrenewed events result last m)
    (hc : c.Remains c') : c.Unrenewed events result last m :=
  { h with
    logins := h.logins.of_remains hc
    kept_eq := hc.key ▸ h.kept_eq }

/-- A store that does not fail takes what it is given. -/
theorem Happens.not_put_error (h : Happens b m events b' m') (key token : String) (lifetime : Nat)
    (e : StoreError) : .put key token lifetime (.error e) ∉ events := by
  intro hmem
  obtain ⟨_, m, htrue⟩ := h.exists_isTrue hmem
  have herror : Except.error e = _ := htrue
  rw [ReliableStore.put_ok] at herror
  cases herror

/-- A store that does not fail has dropped what it was told to. -/
theorem Happens.not_forgot_error (h : Happens b m events b' m') (key : String) (e : StoreError) :
    .forgot key (.error e) ∉ events := by
  intro hmem
  obtain ⟨_, m, htrue⟩ := h.exists_isTrue hmem
  have herror : Except.error e = _ := htrue
  rw [ReliableStore.forget_ok] at herror
  cases herror

/-- A store that does not fail drops what it is told to. -/
theorem Evicting.eq_of_happens {result : Except ClientError Unit} (h : Evicting c events result c')
    (hhappens : Happens b m events b' m') :
    result = .ok () ∧ events = [.forgot c.key.text (.ok ())] ∧
      c' = c.withoutCredential .retrying := by
  cases h with
  | stuck =>
    have herror : Except.error _ = _ := hhappens.isTrue_head
    rw [ReliableStore.forget_ok] at herror
    cases herror
  | evicted => exact ⟨rfl, rfl, rfl⟩

/-- A store has nothing under a key that it has been told to drop. -/
theorem ReliableStore.kept_forget_self (m : σ) (key : String) :
    ReliableStore.kept (SessionStore.forget m key).2 key = none := by
  rw [ReliableStore.kept_forget, if_pos rfl]

/-- A renewal fails where no session is opened. -/
theorem Opening.unrenewed {e : ClientError}
    (h : Opening (c.withoutCredential .retrying) events (.error e) c') (hc : c.IsOnHttp)
    (hput : ∀ key token lifetime e, .put key token lifetime (.error e) ∉ events) :
    c.Unrenewed events (.error e) c'
      (storeAfterAll (SessionStore.forget m c.key.text).2 events) := by
  have hevicted := Client.Remains.withoutCredential c .retrying
  have hunopened := h.unopened (hc.of_remains hevicted) hput
  refine ⟨h.logins.of_remains hevicted, hunopened.not_isAccepted, ⟨e, rfl⟩, hunopened.state_eq,
    hunopened.credential_eq rfl, hunopened.deposits_eq, ?_⟩
  rw [hunopened.store_eq]
  exact ReliableStore.kept_forget_self m c.key.text

/-- A renewal succeeds where a session is opened. -/
theorem Opening.exists_renewed {events' : List Event}
    (h : Opening (c.withoutCredential .retrying) events (.ok ()) c')
    (hreplay : Dispatching c' r [] events' result)
    (hsendable : (c.sendable? (.ok r)).isSome = true) :
    ∃ renewal credential replay, c.Renewed r (events ++ (events' ++ c'.complaint result)) result c'
      (storeAfterAll m (events ++ (events' ++ c'.complaint result))) renewal credential replay := by
  have hevicted := Client.Remains.withoutCredential c .retrying
  have hremains := hevicted.trans h.remains
  obtain ⟨credential, hopened⟩ := h.exists_opened
  have hcredential : c'.credential = some credential := by
    rw [hopened.adopted]
    rfl
  have hfit : credential.IsFit := by
    obtain ⟨_, -, _, -, -, hcookie⟩ := hopened.granted
    exact Credential.isFit_of_ofSetCookie? hcookie
  obtain ⟨replay, hreplayed⟩ := hreplay.exists_replayed
    (hremains.sendable?_eq _ ▸ hsendable) hcredential hfit
  refine ⟨calls events, credential, replay, ?_, h.logins.of_remains hevicted, hopened.granted, ?_,
    hcredential, ?_, ?_, hreplayed.carries.of_remains hremains, hreplayed.cookies_eq,
    hreplayed.result_eq⟩
  · simp [hreplayed.calls_eq]
  · rw [hopened.adopted]
    rfl
  · simp [hopened.deposits_eq, hreplay.deposits_eq, Client.deposits_complaint]
    rfl
  · rw [storeAfterAll_append, storeAfterAll_append, hopened.store_eq, hreplay.storeAfterAll_eq,
      Client.storeAfterAll_complaint, ReliableStore.kept_put]
    exact if_pos rfl

/-- A renewal drops the token from the store first. Then it either succeeds or fails. -/
theorem Renewing.renewed_or_unrenewed (h : Renewing c r events result c') (hc : c.IsOnHttp)
    (hsendable : (c.sendable? (.ok r)).isSome = true) (hhappens : Happens b m events b' m') :
    ∃ rest, events = .forgot c.key.text (.ok ()) :: rest ∧
      ((∃ renewal credential replay, c.Renewed r rest result c' m' renewal credential replay) ∨
        c.Unrenewed rest result c' m') := by
  have hput := hhappens.not_put_error
  have hstore := hhappens.store_eq
  cases h with
  | unevicted hevict =>
    obtain ⟨hresult, -⟩ := hevict.eq_of_happens hhappens
    cases hresult
  | unopened hevict hopen =>
    obtain ⟨_, _, hfirst, -⟩ := hhappens.of_append
    obtain ⟨-, rfl, rfl⟩ := hevict.eq_of_happens hfirst
    refine ⟨_, rfl, .inr (hstore ▸ hopen.unrenewed hc ?_)⟩
    exact fun key token lifetime e hmem => hput key token lifetime e (List.mem_cons_of_mem _ hmem)
  | replayed hevict hopen hreplay =>
    obtain ⟨_, _, hfirst, -⟩ := hhappens.of_append
    obtain ⟨-, rfl, rfl⟩ := hevict.eq_of_happens hfirst
    exact ⟨_, rfl, .inl (hstore ▸ hopen.exists_renewed hreplay hsendable)⟩

/-! ## Requests that are rejected -/

/-- Events have one first request. -/
theorem eq_of_append_sent_eq {before before' after after' : List Event}
    {request request' : Http.Request} {outcome outcome' : Except Http.Failure Http.Response}
    (h : before ++ .sent .business request outcome :: after =
      before' ++ .sent .business request' outcome' :: after')
    (hbefore : ∀ call ∈ calls before, call.purpose ≠ .business)
    (hbefore' : ∀ call ∈ calls before', call.purpose ≠ .business) :
    before = before' ∧ outcome = outcome' ∧ after = after' := by
  have hnot : ∀ {front events : List Event} {q : Http.Request} {o},
      (∀ call ∈ calls (front ++ .sent .business q o :: events), call.purpose ≠ .business) → False :=
    fun hcalls => hcalls _ (by
      rw [calls_append, calls_cons]
      exact List.mem_append_right _ List.mem_cons_self) rfl
  -- one of the fronts starts with the other, and what it has more would begin with a request
  rcases List.append_eq_append_iff.1 h with
    ⟨_ | ⟨e, rest⟩, rfl, hrest⟩ | ⟨_ | ⟨e, rest⟩, rfl, hrest⟩
  · cases hrest
    exact ⟨(List.append_nil _).symm, rfl, rfl⟩
  · cases hrest
    exact (hnot hbefore').elim
  · cases hrest
    exact ⟨List.append_nil _, rfl, rfl⟩
  · cases hrest
    exact (hnot hbefore).elim

/-- A request that is sent once and answered is one event. -/
theorem Dispatching.exists_eq_sent {headers : List Http.Header} {response : Http.Response}
    (h : Dispatching c r headers events (.ok response)) :
    ∃ request, events = [.sent .business request (.ok response)] := by
  generalize hresult : (Except.ok response : Except ClientError Http.Response) = result at h
  cases h with
  | noUrl => cases hresult
  | @sending _ _ outcome _ hsend =>
    cases hsend with
    | unsendable => cases hresult
    | sent =>
      cases outcome with
      | error failure => cases hresult
      | ok answer =>
        cases hresult
        exact ⟨_, rfl⟩

/-- After the rejection of a request the client renews its session. -/
theorem Requesting.exists_renewing (h : Requesting c r events result c')
    {before after : List Event} {request : Http.Request} {response : Http.Response}
    (hevents : events = before ++ .sent .business request (.ok response) :: after)
    (hbefore : ∀ call ∈ calls before, call.purpose ≠ .business)
    (hrejected : response.status.isSessionExpired = true) :
    ∃ c₁ rest, c.Remains c₁ ∧ (c₁.sendable? (.ok r)).isSome = true ∧
      after = .noted (.sessionRejected c.slot response.status r.method r.endpoint) :: rest ∧
      Renewing c₁ r rest result c' := by
  have hmem : ⟨.business, request, .ok response⟩ ∈ calls events := by
    rw [hevents, calls_append, calls_cons]
    exact List.mem_append_right _ List.mem_cons_self
  cases h with
  | unacquired hacquire =>
    have hpurpose := (hacquire.logins.isLogin _ hmem).1
    cases hpurpose
  | @acquired first events _ c₁ _ hacquire hdeliver =>
    have hlogins : ∀ call ∈ calls first, call.purpose = .login :=
      fun call hcall => (hacquire.logins.isLogin call hcall).1
    have hremains := (Client.Remains.unqueued c).trans hacquire.remains
    replace hmem : ⟨.business, request, .ok response⟩ ∈ calls events := by
      rw [calls_append, List.mem_append] at hmem
      rcases hmem with hmem | hmem
      · have hpurpose := hlogins _ hmem
        cases hpurpose
      · exact hmem
    -- the rejected call is that of the delivery, which leaves the renewal as the only way out
    cases hdeliver with
    | undelivered hsend =>
      have hresult := hsend.result_of_mem_calls hmem
      cases hresult
    | answered hsend hstatus =>
      have hresult := hsend.result_of_mem_calls hmem
      cases hresult
      rw [hrejected] at hstatus
      cases hstatus
    | renewed hsend _ hrenew =>
      obtain ⟨request', rfl⟩ := hsend.exists_eq_sent
      obtain ⟨-, houtcome, hafter⟩ := eq_of_append_sent_eq hevents
        (fun call hcall => by rw [hlogins call hcall]; decide) hbefore
      cases houtcome
      exact ⟨c₁, _, hremains, hsend.isSome_sendable?, hremains.slot ▸ hafter.symm, hrenew⟩

/-- After the first rejection of a request, on a server of HTTP and with a store that does not fail,
the token is dropped from the store before anything else is done. Then either a login is accepted,
and the client, the store and the replay have the credential of its answer, or none is, there is no
replay, and neither the client nor the store has a token. -/
theorem Site.perform_renewal (s : Site β σ) (hs : s.client.IsOnHttp) (r : PendingRequest)
    {before after : List Event} {request : Http.Request} {response : Http.Response}
    (htrace : (s.perform (.request (.ok r))).2.trace =
      s.trace ++ (before ++ .sent .business request (.ok response) :: after))
    (hbefore : ∀ call ∈ calls before, call.purpose ≠ .business)
    (hrejected : response.status = 401 ∨ response.status = 403) :
    let s' := (s.perform (.request (.ok r))).2
    ∃ answer dropping rest, (s.perform (.request (.ok r))).1 = answer.map .response ∧
      after = dropping ++ rest ∧
      dropping = [.noted (.sessionRejected s.client.slot response.status r.method r.endpoint),
        .forgot s.client.key.text (.ok ())] ∧
      ReliableStore.kept (storeAfterAll s.store
        (before ++ .sent .business request (.ok response) :: dropping)) s.client.key.text = none ∧
      ((∃ renewal credential replay,
        s.client.Renewed r rest answer s'.client s'.store renewal credential replay) ∨
        s.client.Unrenewed rest answer s'.client s'.store) := by
  obtain ⟨events, hcourse, hpass⟩ := s.perform_following (.request (.ok r))
  have hevents : events = before ++ .sent .business request (.ok response) :: after :=
    List.append_cancel_left (hpass.trace_eq.symm.trans htrace)
  have hexpired : response.status.isSessionExpired = true := by
    simpa [Http.Status.isSessionExpired] using hrejected
  have hhappens := hpass.happens
  clear hpass htrace
  generalize (s.perform (.request (.ok r))).1 = result, (s.perform (.request (.ok r))).2 = s'
    at hcourse hhappens ⊢
  cases hcourse with
  | @request _ _ answer _ h =>
    obtain ⟨c₁, rest, hremains, hsendable, rfl, hrenew⟩ :=
      h.exists_renewing hevents hbefore hexpired
    rw [hevents, List.append_cons, List.append_cons] at hhappens
    obtain ⟨_, _, -, hrest⟩ := hhappens.of_append
    obtain ⟨rest, rfl, hrenewed⟩ :=
      hrenew.renewed_or_unrenewed (hs.of_remains hremains) hsendable hrest
    refine ⟨answer, _, rest, rfl, ?_, rfl, ?_, ?_⟩
    · rw [hremains.key]
      rfl
    · rw [storeAfterAll_append]
      exact ReliableStore.kept_forget_self _ _
    · rcases hrenewed with ⟨renewal, credential, replay, hrenewed⟩ | hunrenewed
      · exact .inl ⟨renewal, credential, replay, hrenewed.of_remains hremains⟩
      · exact .inr (hunrenewed.of_remains hremains)

end

/-! ## A renewal that succeeds -/

/-- A call is an event between the events of the calls before it and those of the calls after
it. -/
theorem exists_eq_append_sent {events : List Event} {before after : List Call} {call : Call}
    (h : calls events = before ++ call :: after) :
    ∃ front rest, events = front ++ .sent call.purpose call.request call.outcome :: rest ∧
      calls front = before ∧ calls rest = after := by
  obtain ⟨front, events', rfl, hfront, hcalls⟩ := List.filterMap_eq_append_iff.1 h
  obtain ⟨skipped, e, rest, rfl, hskipped, he, hrest⟩ := List.filterMap_eq_cons_iff.1 hcalls
  refine ⟨front ++ skipped, rest, ?_, ?_, hrest⟩
  · cases e with
    | sent =>
      cases he
      rw [List.append_assoc]
    | got | checked | put | forgot | paused | noted => cases he
  · rw [calls_append, calls, hfront, calls, List.filterMap_eq_nil_iff.2 hskipped, List.append_nil]

/-- The client of a site is built from the settings, and nothing has happened there. -/
theorem Config.builds_of_site? {β σ : Type} {config : Config} {backend : β} {store : σ}
    {s : Site β σ} (h : config.site? backend store = some s) :
    (ClientSetup.ofConfig config).Builds s.client ∧ s.trace = [] := by
  unfold Config.site? at h
  split at h
  · next hbuild =>
    cases h
    exact ⟨ClientSetup.builds hbuild, rfl⟩
  · cases h

/-- The session of the first request for items is renewed, and the request is replayed. -/
theorem Site.perform_renewal_forgetful :
    ∃ (s : Site ScriptedBackend MemoryStore) (before rest : List Event) (request : Http.Request)
      (response : Http.Response) (answer : Except ClientError Http.Response) (renewal : List Call)
      (credential : Credential) (replay : Call),
      Config.plainSample.site? .forgetful .empty = some s ∧ s.client.IsOnHttp ∧
      (s.perform (.request (.ok (.get "Items")))).2.trace =
        s.trace ++ (before ++ .sent .business request (.ok response) ::
          .noted (.sessionRejected s.client.slot response.status .get "Items") ::
          .forgot s.client.key.text (.ok ()) :: rest) ∧
      (∀ call ∈ calls before, call.purpose ≠ .business) ∧ response.status = 401 ∧
      s.client.Renewed (.get "Items") rest answer
        (s.perform (.request (.ok (.get "Items")))).2.client
        (s.perform (.request (.ok (.get "Items")))).2.store renewal credential replay := by
  have h : (Config.plainSample.site? ScriptedBackend.forgetful MemoryStore.empty).any (fun s =>
      s.client.base.scheme = "http".toList ∧
      (s.perform (.request (.ok (.get "Items")))).2.client.state = .authenticated ∧
      (calls (s.perform (.request (.ok (.get "Items")))).2.trace).map (fun call =>
        (call.purpose, call.outcome.toOption.map (·.status))) =
        [(.login, some 200), (.business, some 401), (.login, some 200), (.business, some 200)]) =
      true := by
    decide +kernel
  obtain ⟨s, hsite, hs⟩ := (Option.any_eq_true _ _).1 h
  obtain ⟨hscheme, hstate, hcalls⟩ := of_decide_eq_true hs
  obtain ⟨hbuilds, htrace⟩ := Config.builds_of_site? hsite
  have hhttp := hbuilds.isOnHttp (.inl hscheme)
  obtain ⟨login, _, hcalls, hlogin, htail⟩ := List.map_eq_cons_iff.1 hcalls
  obtain ⟨⟨purpose, request, outcome⟩, later, rfl, hbusiness, -⟩ := List.map_eq_cons_iff.1 htail
  obtain ⟨rfl, houtcome⟩ := Prod.mk.inj hbusiness
  cases outcome with
  | error failure => cases houtcome
  | ok response =>
    have hstatus : response.status = 401 := Option.some.inj houtcome
    have hsplit : calls _ = [login] ++ ⟨.business, request, .ok response⟩ :: later := hcalls
    obtain ⟨before, after, hevents, hfront, -⟩ := exists_eq_append_sent hsplit
    have hbefore : ∀ call ∈ calls before, call.purpose ≠ .business := by
      rw [hfront]
      intro call hcall
      obtain rfl := List.mem_singleton.1 hcall
      obtain ⟨hpurpose, -⟩ := Prod.mk.inj hlogin
      rw [hpurpose]
      decide
    have htrace' : (s.perform (.request (.ok (.get "Items")))).2.trace =
        s.trace ++ (before ++ .sent .business request (.ok response) :: after) := by
      rw [htrace]
      exact hevents
    obtain ⟨answer, _, rest, -, rfl, rfl, -, hrenewed⟩ :=
      s.perform_renewal hhttp (.get "Items") htrace' hbefore (.inl hstatus)
    rcases hrenewed with ⟨renewal, credential, replay, hrenewed⟩ | hunrenewed
    · exact ⟨s, before, rest, request, response, answer, renewal, credential, replay, hsite, hhttp,
        htrace', hbefore, hstatus, hrenewed⟩
    · have hfailed := hunrenewed.state_eq
      rw [hstate] at hfailed
      cases hfailed

end ODataSession
