import ODataSession.Proofs.Client.Renewal

/-!
# Replays

What a request and its replay have in common, and in what they differ (`Site.perform_replay`). Both
are made of the same pending request, so that they agree in everything but the headers. The headers
are those that were given for the occasion, the cookie of the credential that the client holds at
that moment, and the standing headers whose names are not taken (`Client.headersUnder`): the request
has the queued headers, and its replay has none of them.
-/

namespace ODataSession

/-! ## Headers under a credential -/

/-- The headers of a request under a credential: some before the cookie, the cookie if it is fit for
a header, some behind it, and the standing headers of the client whose names are not taken. -/
def Client.headersUnder (c : Client) (credential : Option Credential)
    (before after : List Http.Header) : List Http.Header :=
  Http.Headers.withMissing (before ++ Client.cookieHeaders credential ++ after) c.standing

section
variable {c c' : Client} {r : PendingRequest} {events : List Event} {call : Call}

/-- A client gives the same headers to a request whatever it does in between. -/
theorem Client.Remains.headersUnder_eq (h : c.Remains c') (credential : Option Credential)
    (before after : List Http.Header) :
    c'.headersUnder credential before after = c.headersUnder credential before after := by
  unfold Client.headersUnder
  rw [h.standing]

/-- A client completes requests in the same way whatever it does in between. -/
theorem Client.Remains.complete_eq (h : c.Remains c') (request : Http.Request) :
    c'.complete request = c.complete request := by
  unfold Client.complete
  rw [h.standing]

/-- With no other headers, a cookie that fits is the only one, and the standing headers stand
behind it. -/
theorem Client.headersUnder_of_isFit (c : Client) {credential : Credential}
    (hfit : credential.IsFit) : c.headersUnder (some credential) [] [] =
      .cookie credential.cookie :: c.standing.filter (·.name ≠ "cookie") := by
  have hname : ∀ d : Http.Header,
      [Http.Header.cookie credential.cookie].all (fun h => h.name ≠ d.name) =
        decide (d.name ≠ "cookie") := by
    intro d
    simp only [List.all_cons, List.all_nil, Bool.and_true]
    exact decide_eq_decide.2 ne_comm
  simp only [Client.headersUnder, Client.cookieHeaders_eq hfit, List.nil_append, List.append_nil,
    Http.Headers.withMissing, hname]
  rfl

/-- What is sent has the headers of its request, and standing ones. -/
theorem Sending.headers_eq {purpose : Purpose} {request : Http.Request}
    {outcome : Except Http.Failure Http.Response} (h : Sending c purpose request events outcome)
    (hcall : call ∈ calls events) :
    call.request.headers = Http.Headers.withMissing request.headers c.standing := by
  rw [h.eq_of_mem_calls hcall]
  rfl

/-- What is sent of a prepared request has its headers under the credential of the client. -/
theorem Dispatching.headers_eq {headers : List Http.Header}
    {result : Except ClientError Http.Response} (h : Dispatching c r headers events result)
    (hcall : call ∈ calls events) :
    call.request.headers = c.headersUnder c.credential headers [] := by
  cases h with
  | noUrl => cases hcall
  | sending hprepare hsend =>
    obtain ⟨-, -, hheaders, -⟩ := Client.prepare_eq_ok hprepare
    rw [hsend.headers_eq hcall, hheaders, Client.headersUnder, List.append_nil]

/-! ## Requests that are sent twice -/

/-- A request that is sent once is one call at most, which carries it out. -/
theorem Dispatching.carries {headers : List Http.Header}
    {result : Except ClientError Http.Response} (h : Dispatching c r headers events result)
    (hcall : call ∈ calls events) : calls events = [call] ∧ call.Carries c r := by
  obtain ⟨call?, hcalls, hrequest⟩ := h.requestCall
  rw [hcalls] at hcall ⊢
  obtain rfl := Option.mem_toList.1 hcall
  exact ⟨rfl, hrequest.carries call rfl⟩

/-- A replay behind a renewal: the last login of the renewal grants a credential, which the client
holds in the end, and the replay carries the request with this credential and nothing else of its
own. -/
structure Client.RenewalCalled (c : Client) (r : PendingRequest) (l renewal : List Call)
    (replay : Call) (credential : Credential) (last : Client) : Prop where
  calls_eq : l = renewal ++ [replay]
  logins : c.Logins renewal
  granted : ∃ login ∈ renewal.getLast?, login.Grants credential
  credential_eq : last.credential = some credential
  carries : replay.Carries c r
  headers_eq : replay.request.headers =
    .cookie credential.cookie :: c.standing.filter (·.name ≠ "cookie")

/-- A renewal with a call other than a login replays the request. -/
theorem Renewing.exists_renewalCalled {result : Except ClientError Http.Response}
    (h : Renewing c r events result c') (hcall : call ∈ calls events)
    (hpurpose : call.purpose = .business) :
    ∃ renewal credential, c.RenewalCalled r (calls events) renewal call credential c' := by
  have hlogin : ∀ {c₁ events result c₂}, Opening c₁ events result c₂ → call ∉ calls events := by
    intro c₁ events result c₂ hopen hmem
    rw [(hopen.logins.isLogin call hmem).1] at hpurpose
    cases hpurpose
  cases h with
  | unevicted hevict =>
    rw [hevict.calls_eq] at hcall
    cases hcall
  | unopened hevict hopen =>
    rw [calls_append, hevict.calls_eq] at hcall
    exact absurd hcall (hlogin hopen)
  | @replayed events₀ events₁ events₂ _ c₁ _ hevict hopen hreplay =>
    have hcalls : calls (events₀ ++ (events₁ ++ (events₂ ++ c'.complaint result))) =
        calls events₁ ++ calls events₂ := by
      simp [hevict.calls_eq]
    have hmem : call ∈ calls events₂ := by
      rw [hcalls, List.mem_append] at hcall
      exact hcall.resolve_left (hlogin hopen)
    obtain ⟨honly, hcarries⟩ := hreplay.carries hmem
    obtain ⟨credential, hopened⟩ := hopen.exists_opened
    have hcredential : c'.credential = some credential := by
      rw [hopened.adopted]
      rfl
    obtain ⟨login, hlast, response, houtcome, hsuccess, hcookie⟩ := hopened.granted
    have hremains := hevict.remains.trans hopen.remains
    refine ⟨calls events₁, credential, ?_, hopen.logins.of_remains hevict.remains,
      ⟨login, hlast, response, houtcome, hsuccess, hcookie⟩, hcredential,
      hcarries.of_remains hremains, ?_⟩
    · rw [hcalls, honly]
    · rw [hreplay.headers_eq hmem, hcredential,
        Client.headersUnder_of_isFit c' (Credential.isFit_of_ofSetCookie? hcookie),
        hremains.standing]

/-- A request that is delivered by two calls is sent, and after a renewal it is replayed. -/
theorem Delivering.exists_renewalCalled {headers : List Http.Header}
    {result : Except ClientError Http.Response} (h : Delivering c r headers events result c')
    {first replay : Call}
    (hcalls : (calls events).filter (·.purpose = .business) = [first, replay]) :
    first.Carries c r ∧ first.request.headers = c.headersUnder c.credential headers [] ∧
      ∃ l renewal credential, calls events = first :: l ∧
        c.RenewalCalled r l renewal replay credential c' := by
  have honce : ∀ {events result}, Dispatching c r headers events result →
      (calls events).filter (·.purpose = .business) ≠ [first, replay] := by
    intro events result hsend htwo
    obtain ⟨call?, hcalls, -⟩ := hsend.requestCall
    have hlength := congrArg List.length htwo
    rw [hcalls] at hlength
    have := List.length_filter_le (fun call : Call => call.purpose = .business) call?.toList
    cases call? <;> simp_all
  cases h with
  | undelivered hsend | answered hsend => exact absurd hcalls (honce hsend)
  | @renewed events₀ events' response _ _ hsend _ hrenew =>
    obtain ⟨request, rfl⟩ := hsend.exists_eq_sent
    have hfirst := hsend.carries (List.mem_singleton_self _)
    have hheaders := hsend.headers_eq (List.mem_singleton_self _)
    simp only [List.cons_append, List.nil_append, calls_cons, Event.call?, Option.toList]
      at hcalls hheaders ⊢
    rw [List.filter_cons_of_pos (by simp)] at hcalls
    obtain ⟨rfl, hrest⟩ := List.cons.inj hcalls
    obtain ⟨hreplay, hpurpose⟩ :=
      List.mem_filter.1 (hrest ▸ List.mem_singleton_self replay)
    obtain ⟨renewal, credential, hrenewal⟩ :=
      hrenew.exists_renewalCalled hreplay (of_decide_eq_true hpurpose)
    exact ⟨hfirst.2, hheaders, _, renewal, credential, rfl, hrenewal⟩

end

section
variable {β σ : Type} [Http.Backend β] [SessionStore σ]

/-- A request and its replay: `acquiring` opens the session of the credential `held`, if none was
held before, `first` has the queued headers under this credential, `renewal` opens the session of
the credential `renewed`, and `replay` is `first` with no headers but the cookie of that credential
and the standing ones. -/
structure Site.Replay (s : Site β σ) (last : Client) (acquiring : List Call) (first : Call)
    (renewal : List Call) (replay : Call) (held renewed : Credential) : Prop where
  acquiring : s.client.Logins acquiring
  held_eq : s.acquired.client.credential = some held
  first_headers : first.request.headers = s.client.headersUnder (some held) s.client.queued []
  renewing : s.client.Logins renewal
  granted : ∃ login ∈ renewal.getLast?, login.Grants renewed
  renewed_eq : last.credential = some renewed
  replay_eq : replay.request = { first.request with
    headers := .cookie renewed.cookie :: s.client.standing.filter (·.name ≠ "cookie") }

/-- A request that is sent twice is a request and its replay. -/
theorem Site.perform_replay (s : Site β σ) (r : Except EncodeError PendingRequest)
    {events : List Event} {first replay : Call}
    (htrace : (s.perform (.request r)).2.trace = s.trace ++ events)
    (hcalls : (calls events).filter (·.purpose = .business) = [first, replay]) :
    ∃ acquiring renewal held renewed,
      calls events = acquiring ++ first :: (renewal ++ [replay]) ∧
        s.Replay (s.perform (.request r)).2.client acquiring first renewal replay held renewed := by
  have hperform : (s.perform (.request r)).2 = ((Operation.request r).run s).2 := by
    simp only [perform, Action.perform, Operation.run_map]
  rw [hperform] at htrace ⊢
  simp only [Operation.request, Operation.run_bind, Operation.run_require] at htrace ⊢
  cases r with
  | error e =>
    obtain rfl : events = [] := by simpa using htrace
    cases hcalls
  | ok r =>
    obtain ⟨front, result, hacquire, hpass, hrun⟩ := Operation.run_sendPending r s
    have hlogins := hacquire.logins.of_remains (.unqueued s.client)
    have hfront : (calls front).filter (·.purpose = .business) = [] := by
      refine List.filter_eq_nil_iff.2 fun call hmem => ?_
      rw [(hlogins.isLogin call hmem).1]
      decide
    simp only [mapError_ok, hrun] at htrace ⊢
    cases result with
    | error e =>
      obtain rfl := List.append_cancel_left (hpass.trace_eq.symm.trans htrace)
      rw [hfront] at hcalls
      cases hcalls
    | ok =>
      obtain ⟨rest, answer, s', hrun', hdeliver, hpass'⟩ :=
        Operation.deliver_following r s.client.queued s.acquired
      simp only [hrun'] at htrace ⊢
      obtain rfl := List.append_cancel_left ((hpass.trans hpass').trace_eq.symm.trans htrace)
      rw [calls_append, List.filter_append, hfront, List.nil_append] at hcalls
      obtain ⟨hfirst, hheaders, l, renewal, renewed, hrest, hrenewal⟩ :=
        hdeliver.exists_renewalCalled hcalls
      obtain ⟨held, hheld⟩ := Option.isSome_iff_exists.1 hacquire.isSome_credential
      have hremains := (Client.Remains.unqueued s.client).trans hacquire.remains
      refine ⟨calls front, renewal, held, renewed, ?_, hlogins, hheld, ?_,
        hrenewal.logins.of_remains hremains, hrenewal.granted, hrenewal.credential_eq, ?_⟩
      · rw [calls_append, hrest, hrenewal.calls_eq]
      · rw [hheaders, hheld, hremains.headersUnder_eq]
      · have hurl := Except.ok.inj (hrenewal.carries.url_eq.symm.trans hfirst.url_eq)
        have hmethod := hrenewal.carries.method_eq.trans hfirst.method_eq.symm
        have hbody := hrenewal.carries.body_eq.trans hfirst.body_eq.symm
        have hreplay := hrenewal.headers_eq
        rw [hremains.standing] at hreplay
        obtain ⟨_, ⟨method, url, headers, body⟩, _⟩ := replay
        simp_all

end

/-- A request with a header of its own, and one in the place of a standing header, is replayed
without them. -/
theorem Site.perform_replay_forgetful :
    ∃ (s s' : Site ScriptedBackend MemoryStore) (acquiring renewal : List Call)
      (first replay : Call) (held renewed : Credential),
      Config.plainSample.site? .forgetful .empty = some s ∧
      s' = (s.perform (.withHeaders [("X-Once", "1"), ("Accept", "text/plain")])).2 ∧
      s'.client.queued = [⟨"x-once", "1"⟩, .accept "text/plain"] ∧
      calls (s'.perform (.request (.ok (.get "Items")))).2.trace =
        acquiring ++ first :: (renewal ++ [replay]) ∧
      s'.Replay (s'.perform (.request (.ok (.get "Items")))).2.client acquiring first renewal replay
        held renewed := by
  have h : (Config.plainSample.site? ScriptedBackend.forgetful MemoryStore.empty).any (fun s =>
      let s' := (s.perform (.withHeaders [("X-Once", "1"), ("Accept", "text/plain")])).2
      s'.client.queued = [⟨"x-once", "1"⟩, .accept "text/plain"] ∧ s'.trace.isEmpty = true ∧
      ((calls (s'.perform (.request (.ok (.get "Items")))).2.trace).filter
        (·.purpose = .business)).length = 2) = true := by
    decide +kernel
  obtain ⟨s, hsite, hs⟩ := (Option.any_eq_true _ _).1 h
  obtain ⟨hqueued, htrace, hlength⟩ := of_decide_eq_true hs
  obtain ⟨first, replay, hcalls⟩ := List.length_eq_two.1 hlength
  obtain ⟨acquiring, renewal, held, renewed, heq, hreplay⟩ :=
    Site.perform_replay _ (.ok (.get "Items"))
      (by rw [List.isEmpty_iff.1 htrace, List.nil_append]) hcalls
  exact ⟨s, _, acquiring, renewal, first, replay, held, renewed, hsite, rfl, hqueued, heq, hreplay⟩

end ODataSession
