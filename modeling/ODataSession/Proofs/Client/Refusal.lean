import ODataSession.Proofs.Client.StoreFailure

/-!
# Logins that are refused

What is left by an operation whose error is the refusal of a login (`Scenario.ends_refused`). The
login that is refused is the last thing that is sent, and the client has failed and has no
credential. That the store has no live token for it either has one of two reasons: a session is
opened because the store has just been asked for a token in vain, or because a rejected one has just
been dropped from it. A refused login itself deposits nothing. So an operation that deposits
something and ends like this has opened a session before, for a request that was rejected then
(`Client.TakesBack`).
-/

namespace ODataSession

/-! ## Refusals -/

/-- Why the answer to a login opens no session. -/
inductive Http.Response.Refuses (response : Http.Response) : LoginRefusal → Prop
  | rejected {body : String} (hstatus : response.status.isSuccess = false)
      (hbody : response.text = .ok body) : response.Refuses (.rejected body)
  | unreadable {failure : Http.Failure} (hstatus : response.status.isSuccess = false)
      (hbody : response.text = .error failure) : response.Refuses (.unreadable failure)
  | noCookie (hstatus : response.status.isSuccess = true)
      (hcookie : Credential.ofSetCookie? response.setCookie = none) : response.Refuses .noCookie

/-- A bad status is a refusal, for the reason that the body gives. -/
theorem Http.Response.refuses_refusalOf {response : Http.Response}
    (h : response.status.isSuccess = false) :
    response.Refuses (Operation.refusalOf response) := by
  unfold Operation.refusalOf
  split
  · next body hbody => exact .rejected h hbody
  · next failure hbody => exact .unreadable h hbody

/-- Events that end with the refusal of a login, the client that they leave and the store. -/
structure Client.Refused {σ : Type} [SessionStore σ] (c : Client) (slot : UInt64)
    (status : Http.Status) (refusal : LoginRefusal) (events : List Event) (c' : Client) (m : σ) :
    Prop where
  slot_eq : slot = c.slot
  /-- Nothing is sent behind the login that is refused. -/
  answered : ∃ login ∈ (calls events).getLast?, login.IsLogin c ∧
    ∃ response, login.outcome = .ok response ∧ response.status = status ∧
      response.Refuses refusal
  state_eq : c'.state = .failed
  credential_eq : c'.credential = none
  vacant : (SessionStore.get m c.key.text).1 = .ok none

/-- A client opens a session for a request that is rejected then: the token that it has deposited
before the request is dropped behind the rejection, and nothing is deposited any more. -/
structure Client.TakesBack (c : Client) (events before after : List Event)
    (credential : Credential) : Prop where
  credential_eq : c.credential = none
  events_eq : ∃ request response notice, (response.status = 401 ∨ response.status = 403) ∧
    events = before ++ .sent .business request (.ok response) :: .noted notice ::
      .forgot c.key.text (.ok ()) :: after
  granted : ∃ login ∈ (calls before).getLast?, login.Grants credential
  deposits_before : deposits before = [c.deposit credential]
  deposits_after : deposits after = []

section
variable {σ : Type} [SessionStore σ] {c c' last : Client} {slot : UInt64} {status : Http.Status}
  {refusal : LoginRefusal} {events : List Event} {m : σ}

/-- What comes before a refused login does not matter. -/
theorem Client.Refused.append_left (h : c.Refused slot status refusal events last m)
    (front : List Event) : c.Refused slot status refusal (front ++ events) last m := by
  obtain ⟨login, hlast, hlogin⟩ := h.answered
  refine { h with answered := ⟨login, ?_, hlogin⟩ }
  rw [calls_append, List.getLast?_append, hlast]
  rfl

/-- A login that is refused is one of the client as it was before. -/
theorem Client.Refused.of_remains (h : c'.Refused slot status refusal events last m)
    (hc : c.Remains c') : c.Refused slot status refusal events last m := by
  obtain ⟨login, hlast, hlogin, hresponse⟩ := h.answered
  exact
    { h with
      slot_eq := h.slot_eq.trans hc.slot
      answered := ⟨login, hlast, hlogin.of_remains hc, hresponse⟩
      vacant := hc.key ▸ h.vacant }

/-- The attempts at a login end with its refusal if its answer refuses it. -/
theorem Attempting.refused {url : Url} {response : Http.Response} {attempt : UInt32}
    (h : Attempting c (c.loginRequest url) 1 events (.ok (response, attempt)))
    (hurl : c.base.endpoint Client.loginPath = .ok url) (hrefuses : response.Refuses refusal)
    (hvacant : (SessionStore.get m c.key.text).1 = .ok none) (notice : Notice) :
    c.Refused c.slot response.status refusal (events ++ [.noted notice])
      (c.withoutCredential .failed) (storeAfterAll m (events ++ [.noted notice])) := by
  have hlast := h.getLast?_calls rfl
  refine ⟨rfl, ⟨_, by simpa using hlast, ⟨rfl, url, hurl, rfl⟩, response, rfl, rfl, hrefuses⟩, rfl,
    rfl, ?_⟩
  rw [storeAfterAll_append, h.storeAfterAll_eq]
  exact hvacant

/-- Opening a session that fails in its login leaves a store that has no live token without one, and
deposits nothing. -/
theorem Opening.refused {β : Type} [Http.Backend β] {b b' : β} {m' : σ}
    (h : Opening c events (.error (.authentication slot status refusal)) last)
    (hhappens : Happens b m events b' m')
    (hvacant : (SessionStore.get m c.key.text).1 = .ok none) :
    c.Refused slot status refusal events last m' ∧ deposits events = [] := by
  rw [hhappens.store_eq]
  cases h with
  | rejected hurl hattempt hstatus =>
    refine ⟨hattempt.refused hurl (Http.Response.refuses_refusalOf hstatus) hvacant _, ?_⟩
    simp [hattempt.deposits_eq]
  | cookieless hurl hattempt hstatus hcookie =>
    refine ⟨hattempt.refused hurl (.noCookie hstatus hcookie) hvacant _, ?_⟩
    simp [hattempt.deposits_eq]

end

/-! ## Errors that are no refusals -/

section
variable {α γ ε ε' : Type} {e : ε'}

/-- What is translated is no error that is not the translation of one. -/
theorem mapError_ne_error {f : ε → ε'} (h : ∀ cause, f cause ≠ e) (x : Except ε α) :
    x.mapError f ≠ .error e := by
  cases x with
  | error cause => exact fun heq => h cause (Except.error.inj heq)
  | ok => exact fun heq => nomatch heq

/-- What is done in turn ends with no error that no part of it ends with. -/
theorem bind_ne_error {x : Except ε' α} {f : α → Except ε' γ} (hx : x ≠ .error e)
    (hf : ∀ a, f a ≠ .error e) : x >>= f ≠ .error e := by
  cases x with
  | error => exact fun heq => hx (congrArg Except.error (Except.error.inj heq))
  | ok a => exact hf a

end

section
variable {c c' : Client} {slot : UInt64} {status : Http.Status} {refusal : LoginRefusal}

/-- No client is refused a login while it is built. -/
theorem ClientSetup.build_ne_refusal (setup : ClientSetup) (fresh : Generator) :
    setup.build fresh ≠ .error (.authentication slot status refusal) := by
  refine bind_ne_error (mapError_ne_error ?_ _) fun _ => bind_ne_error (mapError_ne_error ?_ _)
    fun _ => bind_ne_error (mapError_ne_error ?_ _) fun _ => ?_
  all_goals nofun

/-- A failure of the transport is no refusal. -/
theorem mapError_transport_ne_refusal {α : Type} (outcome : Except Http.Failure α) :
    outcome.mapError ClientError.transport ≠ .error (.authentication slot status refusal) :=
  mapError_ne_error (by nofun) outcome

/-- A request that is sent once is not refused as a login. -/
theorem Dispatching.ne_refusal {r : PendingRequest} {headers : List Http.Header}
    {events : List Event} {result : Except ClientError Http.Response}
    (h : Dispatching c r headers events result) :
    result ≠ .error (.authentication slot status refusal) := by
  cases h with
  | noUrl => exact nofun
  | sending => exact mapError_transport_ne_refusal _

/-- A draft is not refused as a login. -/
theorem Client.adjusted_ne_refusal (c : Client) (method : Http.Method) (endpoint : String)
    (adjustments : List Adjustment) (headers : List Http.Header) :
    c.adjusted method endpoint adjustments headers ≠
      .error (.authentication slot status refusal) :=
  bind_ne_error (mapError_ne_error (by nofun) _) fun _ => mapError_transport_ne_refusal _

/-- A logout is not refused as a login. -/
theorem LoggingOut.ne_refusal {events : List Event} {result : Except ClientError Unit}
    (h : LoggingOut c events result c') :
    result ≠ .error (.authentication slot status refusal) := by
  cases h with
  | unchecked | nothing | unfound | noEndpoint | unforgotten => exact fun h => nomatch h
  | closed => exact mapError_transport_ne_refusal _

end

/-! ## Operations that end with a refusal -/

section
variable {β σ : Type} [Http.Backend β] {b b' : β} {m m' : σ} {c c' : Client} {slot : UInt64}
  {status : Http.Status} {refusal : LoginRefusal} {r : PendingRequest} {events : List Event}

/-- A store has no token under a key that it has been told to drop. -/
theorem ReliableStore.get_forget_self [ReliableStore σ] (m : σ) (key : String) :
    (SessionStore.get (SessionStore.forget m key).2 key).1 = .ok none := by
  obtain ⟨_ | token, hget, hkept⟩ := ReliableStore.get_ok (SessionStore.forget m key).2 key
  · exact hget
  · cases (hkept token rfl).symm.trans (ReliableStore.kept_forget_self m key)

/-- A renewal that ends with a refusal has dropped the rejected token first. -/
theorem Renewing.refused [ReliableStore σ]
    (h : Renewing c r events (.error (.authentication slot status refusal)) c')
    (hhappens : Happens b m events b' m') :
    ∃ rest, events = .forgot c.key.text (.ok ()) :: rest ∧
      c.Refused slot status refusal events c' m' ∧ deposits rest = [] := by
  cases h with
  | unevicted hevict =>
    obtain ⟨hresult, -⟩ := hevict.eq_of_happens hhappens
    cases hresult
  | unopened hevict hopen =>
    obtain ⟨_, _, hfirst, hrest⟩ := hhappens.of_append
    obtain ⟨-, rfl, rfl⟩ := hevict.eq_of_happens hfirst
    obtain rfl := hfirst.store_eq
    obtain ⟨hrefused, hdeposits⟩ := hopen.refused hrest (ReliableStore.get_forget_self m c.key.text)
    exact ⟨_, rfl, (hrefused.of_remains hevict.remains).append_left [_], hdeposits⟩
  | replayed _ _ hreplay => exact absurd rfl hreplay.ne_refusal

/-- A request that is delivered ends with a refusal only behind its rejection. -/
theorem Delivering.refused [ReliableStore σ] {headers : List Http.Header}
    (h : Delivering c r headers events (.error (.authentication slot status refusal)) c')
    (hhappens : Happens b m events b' m') :
    ∃ request response notice rest, events = .sent .business request (.ok response) ::
        .noted notice :: .forgot c.key.text (.ok ()) :: rest ∧
      (response.status = 401 ∨ response.status = 403) ∧
      c.Refused slot status refusal events c' m' ∧ deposits rest = [] := by
  cases h with
  | undelivered hsend => exact absurd rfl hsend.ne_refusal
  | @renewed _ _ response _ _ hsend hstatus hrenew =>
    obtain ⟨request, rfl⟩ := hsend.exists_eq_sent
    rw [List.singleton_append, ← List.singleton_append, List.append_cons] at hhappens
    obtain ⟨_, _, -, hrest⟩ := hhappens.of_append
    obtain ⟨rest, rfl, hrefused, hdeposits⟩ := hrenew.refused hrest
    refine ⟨request, response, _, rest, rfl, ?_, hrefused.append_left [_, _], hdeposits⟩
    simpa [Http.Status.isSessionExpired] using hstatus

/-- A session that is acquired has not been deposited or is one that has been opened. -/
theorem Acquiring.deposits_eq (h : Acquiring c events (.ok ()) c') :
    deposits events = [] ∨ c.credential = none ∧ ∃ credential,
      deposits events = [c.deposit credential] ∧
        ∃ login ∈ (calls events).getLast?, login.Grants credential := by
  cases h with
  | held => exact .inl rfl
  | loggingIn hnone hlogin =>
    cases hlogin with
    | reused => exact .inl rfl
    | opening hopen =>
      obtain ⟨credential, hopened⟩ := hopen.exists_opened
      exact .inr ⟨hnone, credential, hopened.deposits_eq, hopened.granted⟩

variable [EntryStore σ]

/-- A login that is refused has found no live token in the store. -/
theorem LoggingIn.refused
    (h : LoggingIn c events (.error (.authentication slot status refusal)) c')
    (hhappens : Happens b m events b' m') :
    c.Refused slot status refusal events c' m' ∧ deposits events = [] := by
  cases h with
  | opening hopen =>
    have hnone : Except.ok none = _ := hhappens.isTrue_head
    cases hhappens with
    | cons _ hrest =>
      cases hrest with
      | cons _ hrest =>
        obtain ⟨hrefused, hdeposits⟩ :=
          hopen.refused hrest (EntryStore.get_get m c.key.text hnone.symm)
        exact ⟨hrefused.append_left [_, _], hdeposits⟩

/-- A session that is to be acquired is refused where its login is. -/
theorem Acquiring.refused
    (h : Acquiring c events (.error (.authentication slot status refusal)) c')
    (hhappens : Happens b m events b' m') :
    c.Refused slot status refusal events c' m' ∧ deposits events = [] := by
  cases h with
  | loggingIn _ hlogin => exact hlogin.refused hhappens

/-- A request ends with a refusal where its session is acquired or renewed. -/
theorem Requesting.refused
    (h : Requesting c r events (.error (.authentication slot status refusal)) c')
    (hhappens : Happens b m events b' m') :
    c.Refused slot status refusal events c' m' ∧ (deposits events = [] ∨
      ∃ before after credential, c.TakesBack events before after credential) := by
  cases h with
  | unacquired hacquire =>
    obtain ⟨hrefused, hdeposits⟩ := hacquire.refused hhappens
    exact ⟨hrefused.of_remains (.unqueued c), .inl hdeposits⟩
  | acquired hacquire hdeliver =>
    have hremains := (Client.Remains.unqueued c).trans hacquire.remains
    obtain ⟨_, _, -, hrest⟩ := hhappens.of_append
    obtain ⟨request, response, notice, after, rfl, hrejected, hrefused, hafter⟩ :=
      hdeliver.refused hrest
    refine ⟨(hrefused.of_remains hremains).append_left _, ?_⟩
    rcases hacquire.deposits_eq with hnone | ⟨hnone, credential, hbefore, hgranted⟩
    · refine .inl ?_
      simp [hnone, hafter]
    · refine .inr ⟨_, after, credential, hnone, ⟨request, response, notice, hrejected, ?_⟩,
        hgranted, hbefore, hafter⟩
      rw [hremains.key]

/-- An action ends with a refusal where a session is acquired or renewed for it. -/
theorem Performing.refused {a : Action}
    (h : Performing c a events (.error (.authentication slot status refusal)) c')
    (hhappens : Happens b m events b' m') :
    c.Refused slot status refusal events c' m' ∧ (deposits events = [] ∨ a.renews = true ∧
      ∃ before after credential, c.TakesBack events before after credential) := by
  generalize hresult : (Except.error (.authentication slot status refusal) :
    Except ClientError Outcome) = result at h
  cases h with
  | login h =>
    rw [eq_error_of_map hresult] at h
    exact (h.refused hhappens).imp_right .inl
  | logout h => exact absurd (eq_error_of_map hresult) h.ne_refusal
  | misqueued | queued | unencoded => cases hresult
  | request h =>
    rw [eq_error_of_map hresult] at h
    exact (h.refused hhappens).imp_right (Or.imp_right fun h => ⟨rfl, h⟩)
  | sendWith h =>
    have hsent := eq_error_of_map hresult
    cases h with
    | unacquired hacquire =>
      cases hsent
      obtain ⟨hrefused, hdeposits⟩ := hacquire.refused hhappens
      exact ⟨hrefused.of_remains (.unqueued c), .inl hdeposits⟩
    | unbuilt _ hbuild =>
      cases hsent
      exact absurd hbuild (Client.adjusted_ne_refusal _ _ _ _ _)
    | sending => exact absurd hsent (mapError_transport_ne_refusal _)
  | pool h =>
    rw [eq_error_of_map hresult] at h
    cases h with
    | unacquired hacquire => exact (hacquire.refused hhappens).imp_right .inl

end

/-- An action that ends with the refusal of a login, and what it leaves at its site. It deposits
nothing unless it is a request, for which a session has been opened before. -/
structure Site.EndsRefused {β σ : Type} [Http.Backend β] [SessionStore σ] (s : Site β σ)
    (a : Action) (slot : UInt64) (status : Http.Status) (refusal : LoginRefusal)
    (events : List Event) : Prop where
  trace_eq : (s.perform a).2.trace = s.trace ++ events
  refused : s.client.Refused slot status refusal events (s.perform a).2.client
    (s.perform a).2.store
  deposits_eq : deposits events = [] ∨ a.renews = true ∧
    ∃ before after credential, s.client.TakesBack events before after credential

namespace Scenario

/-- Building a client that is to be logged in ends with the error of the login, and then the client
is not there. -/
theorem build_of_error {β σ : Type} [Http.Backend β] [SessionStore σ] {x : Scenario β σ}
    {name : String} {setup : ClientSetup} {own : Option σ} {fresh : Generator} {client : Client}
    {notices : List Notice} {e : ClientError} (hbuild : setup.build fresh = .ok (client, notices))
    (h : (x.build name setup own fresh true).1.result = .error e) :
    let login := x.act name ⟨client, own⟩ .login
    login.1.result = .error e ∧ x.build name setup own fresh true =
      (⟨.error e, notices.map .noted ++ login.1.trace, own.isNone⟩, login.2.dismiss name) := by
  simp only [build, hbuild, reduceIte] at h ⊢
  split at h
  · cases h
  · next hlogin =>
    cases h
    rw [hlogin]
    exact ⟨rfl, rfl⟩

section
variable {β σ : Type} [Http.Backend β] [EntryStore σ] {slot : UInt64} {status : Http.Status}
  {refusal : LoginRefusal}

/-- With a store that does not fail, an operation whose error is the refusal of a login ends with
this login, leaves a client without a credential and a store without a live token for it, and
deposits nothing but what it takes back. To connect is to be built and to log in. -/
theorem ends_refused :
    (∀ (s : Site β σ) (a : Action),
      (s.perform a).1 = .error (.authentication slot status refusal) →
      ∃ events, s.EndsRefused a slot status refusal events) ∧
    ∀ (x : Scenario β σ) (name : String) (setup : ClientSetup) (own : Option σ) (fresh : Generator),
      (x.build name setup own fresh true).1.result =
        .error (.authentication slot status refusal) →
      ∃ client notices events, setup.build fresh = .ok (client, notices) ∧
        (x.site ⟨client, own⟩).EndsRefused .login slot status refusal events ∧
        (x.build name setup own fresh true).1.trace = notices.map .noted ++ events ∧
        deposits events = [] ∧
        (x.build name setup own fresh true).2 =
          (x.act name ⟨client, own⟩ .login).2.dismiss name := by
  have hperform : ∀ (s : Site β σ) (a : Action),
      (s.perform a).1 = .error (.authentication slot status refusal) →
      ∃ events, s.EndsRefused a slot status refusal events := by
    intro s a h
    obtain ⟨events, hcourse, hpass⟩ := s.perform_following a
    rw [h] at hcourse
    obtain ⟨hrefused, hdeposits⟩ := hcourse.refused hpass.happens
    exact ⟨events, hpass.trace_eq, hrefused, hdeposits⟩
  refine ⟨hperform, fun x name setup own fresh h => ?_⟩
  cases hbuild : setup.build fresh with
  | error e =>
    simp only [build, hbuild] at h
    cases h
    exact absurd hbuild (setup.build_ne_refusal fresh)
  | ok built =>
    obtain ⟨client, notices⟩ := built
    obtain ⟨hlogin, heq⟩ := build_of_error hbuild h
    obtain ⟨events, hended⟩ := hperform (x.site ⟨client, own⟩) .login hlogin
    refine ⟨client, notices, events, rfl, hended, ?_, ?_, ?_⟩
    · rw [heq]
      exact congrArg _ hended.trace_eq
    · refine hended.deposits_eq.resolve_right ?_
      rintro ⟨hrenews, -⟩
      cases hrenews
    · rw [heq]

end

end Scenario

/-- A backend that grants some cookies, one for each login, and refuses all other logins; requests
for items are rejected. -/
def ScriptedBackend.withdrawing (cookies : List String) : ScriptedBackend where
  rules := (cookies.map fun cookie =>
      ⟨none, some "/b1s/v1/Login", none, some 1, .response 200 [cookie] (some [])⟩) ++
    [⟨none, some "/b1s/v1/Login", none, none, .response 401 [] (some [])⟩,
      ⟨none, some "/b1s/v1/Items", none, none, .response 401 [] (some [])⟩]
  refusals := 0
  linked := true

/-- A request whose session is not renewed ends with the refusal of the second login, and a client
that is to be logged in is refused at once. -/
theorem Scenario.ends_refused_withdrawing :
    (∃ (s : Site ScriptedBackend MemoryStore) (events : List Event),
      Config.plainSample.site? (.withdrawing ["B1SESSION=a"]) .empty = some s ∧
      (s.perform (.request (.ok (.get "Items")))).1 =
        .error (.authentication 0 401 (.rejected "")) ∧
      s.EndsRefused (.request (.ok (.get "Items"))) 0 401 (.rejected "") events) ∧
    ∃ (x : Scenario ScriptedBackend MemoryStore) (setup : ClientSetup) (client : Client)
      (notices : List Notice) (events : List Event),
      x = ⟨.withdrawing [], .empty, []⟩ ∧ setup = .ofConfig .plainSample ∧
      (x.build "a" setup none (.ofSeed 0) true).1.result =
        .error (.authentication 0 401 (.rejected "")) ∧
      setup.build (Generator.ofSeed 0) = .ok (client, notices) ∧
      (x.site ⟨client, none⟩).EndsRefused .login 0 401 (.rejected "") events ∧
      deposits events = [] := by
  have hperform : (Config.plainSample.site? (ScriptedBackend.withdrawing ["B1SESSION=a"])
      MemoryStore.empty).any (fun s =>
      .error (.authentication 0 401 (.rejected "")) =
        (s.perform (.request (.ok (.get "Items")))).1.map fun _ => ()) = true := by
    decide +kernel
  let x : Scenario ScriptedBackend MemoryStore := ⟨.withdrawing [], .empty, []⟩
  have hconnect : .error (.authentication 0 401 (.rejected "")) =
      (x.build "a" (.ofConfig .plainSample) none (.ofSeed 0) true).1.result.map fun _ => () := by
    decide +kernel
  obtain ⟨s, hsite, hs⟩ := (Option.any_eq_true _ _).1 hperform
  have hresult := eq_error_of_map (of_decide_eq_true hs)
  obtain ⟨events, hended⟩ := Scenario.ends_refused.1 s _ hresult
  have hconnected := eq_error_of_map hconnect
  obtain ⟨client, notices, events', hbuild, hended', -, hdeposits, -⟩ :=
    Scenario.ends_refused.2 x _ _ _ _ hconnected
  exact ⟨⟨s, events, hsite, hresult, hended⟩, x, _, client, notices, events', rfl, rfl, hconnected,
    hbuild, hended', hdeposits⟩

/-- A request that ends with a refusal has put a token into the store before. -/
theorem Site.perform_deposits_although_refused :
    ∃ s : Site ScriptedBackend MemoryStore,
      Config.plainSample.site? (.withdrawing ["B1SESSION=a"]) .empty = some s ∧ s.trace = [] ∧
      (s.perform (.request (.ok (.get "Items")))).1 =
        .error (.authentication 0 401 (.rejected "")) ∧
      (deposits (s.perform (.request (.ok (.get "Items")))).2.trace).map (·.token) =
        ["B1SESSION=a"] := by
  have h : (Config.plainSample.site? (ScriptedBackend.withdrawing ["B1SESSION=a"])
      MemoryStore.empty).any (fun s =>
      .error (.authentication 0 401 (.rejected "")) =
        (s.perform (.request (.ok (.get "Items")))).1.map (fun _ => ()) ∧
      (deposits (s.perform (.request (.ok (.get "Items")))).2.trace).map (·.token) =
        ["B1SESSION=a"]) = true := by
    decide +kernel
  obtain ⟨s, hsite, hs⟩ := (Option.any_eq_true _ _).1 h
  obtain ⟨hresult, hdeposits⟩ := of_decide_eq_true hs
  exact ⟨s, hsite, (Config.builds_of_site? hsite).2, eq_error_of_map hresult, hdeposits⟩

end ODataSession
