import ODataSession.Proofs.Client.Performance
import ODataSession.Proofs.Client.Replay

/-!
# Rejected credentials

A client whose request has been rejected gives its credential up, and so does the store. From then
on it goes under credentials that were granted later: all that it sends, or hands to a caller as a
draft, carries the cookie of a login that was accepted behind the rejection, its own or that of
another client on the store (`Scenario.performances_not_resent`). The invariant is that the
credential of the client and everything in the store under its key is from such a login
(`Client.Backed`). It holds once the token has been dropped, because then there is nothing of either
kind, and it is preserved because a credential is taken from the store or from a login, and a store
is given tokens of logins only.

The rejection of a replay is not of this kind: the client keeps the credential of the replay and
uses it once more, as `Scenario.resent_after_replay` shows.
-/

namespace ODataSession

/-! ## Credentials that are granted -/

/-- Some calls have a login among them that grants a credential. -/
def Granted (l : List Call) (credential : Credential) : Prop :=
  ∃ login ∈ l, login.purpose = .login ∧ login.Grants credential

section
variable {c c' : Client} {l l' : List Call} {credential : Credential} {events : List Event}

/-- What some calls grant is granted by more of them. -/
theorem Granted.mono (h : Granted l credential) (hsubset : l ⊆ l') : Granted l' credential := by
  obtain ⟨login, hmem, hgrants⟩ := h
  exact ⟨login, hsubset hmem, hgrants⟩

/-- What is granted stays so. -/
theorem Granted.append_right (h : Granted l credential) (l' : List Call) :
    Granted (l ++ l') credential :=
  h.mono (List.subset_append_left l l')

/-- What is granted was so before or has been granted later. -/
theorem Granted.append_left (l : List Call) (h : Granted l' credential) :
    Granted (l ++ l') credential :=
  h.mono (List.subset_append_right l l')

/-- A session that is opened deposits what its login has granted. -/
theorem Opening.deposits_granted {result : Except ClientError Unit}
    (h : Opening c events result c') : ∀ d ∈ deposits events, Granted (calls events) ⟨d.token⟩ := by
  cases h with
  | noEndpoint => exact fun _ hd => nomatch hd
  | unreached _ h | rejected _ h | cookieless _ h => simp [h.deposits_eq]
  | unstored _ h hstatus hcookie | opened _ h hstatus hcookie =>
    intro d hd
    simp only [deposits_append, h.deposits_eq, Client.stores, deposits_cons, Event.deposit?,
      Option.toList, deposits_nil, List.nil_append, List.append_nil, List.mem_singleton] at hd
    subst hd
    have hlast := List.mem_of_getLast? (h.getLast?_calls rfl)
    rw [calls_append]
    exact ⟨_, List.mem_append_left _ hlast, rfl, _, rfl, hstatus, hcookie⟩

/-- A client deposits what a login has granted. -/
theorem Client.composes_deposits_granted (c : Client) :
    c.Composes fun events => ∀ d ∈ deposits events, Granted (calls events) ⟨d.token⟩ :=
  c.composes_deposits (fun l d => Granted l ⟨d.token⟩)
    (fun front _ _ _ h => (h.append_left front).append_right _)
    fun _ hopen => hopen.deposits_granted

end

/-! ## Tokens that are kept -/

section
variable {β σ : Type} [Http.Backend β] [SessionStore σ] [HonestStore σ] {b b' : β} {m m' : σ}
  {events : List Event} {key token : String}

/-- After an event a store keeps what it kept before, or what the event deposits. -/
theorem HonestStore.of_keeps_storeAfter {e : Event}
    (h : HonestStore.Keeps (e.storeAfter m) key token) :
    HonestStore.Keeps m key token ∨ ∃ d ∈ e.deposit?, d.token = token := by
  cases e with
  | sent | paused | noted => exact .inl h
  | got => exact .inl (of_keeps_get h)
  | checked => exact .inl (of_keeps_has h)
  | put => exact (of_keeps_put h).imp_right fun htoken => ⟨_, rfl, htoken.symm⟩
  | forgot => exact .inl (of_keeps_forget h)

/-- After events a store keeps what it kept before, or what they deposit. -/
theorem Happens.of_keeps (hhappens : Happens b m events b' m')
    (h : HonestStore.Keeps m' key token) :
    HonestStore.Keeps m key token ∨ ∃ d ∈ deposits events, d.token = token := by
  induction hhappens with
  | nil => exact .inl h
  | cons _ _ ih =>
    rw [deposits_cons]
    rcases ih h with hkeeps | ⟨d, hd, htoken⟩
    · rcases HonestStore.of_keeps_storeAfter hkeeps with hkeeps | ⟨d, hd, htoken⟩
      · exact .inl hkeeps
      · exact .inr ⟨d, List.mem_append_left _ (Option.mem_toList.2 hd), htoken⟩
    · exact .inr ⟨d, List.mem_append_right _ hd, htoken⟩

/-- A store hands out what it kept before the events, or what they deposit. -/
theorem Happens.keeps_of_got (hhappens : Happens b m events b' m')
    (h : .got key (.ok (some token)) ∈ events) :
    HonestStore.Keeps m key token ∨ ∃ d ∈ deposits events, d.token = token := by
  obtain ⟨front, rest, rfl⟩ := List.append_of_mem h
  obtain ⟨_, m₁, hfront, hrest⟩ := hhappens.of_append
  rw [deposits_append]
  rcases hfront.of_keeps (HonestStore.keeps_of_get hrest.isTrue_head.symm) with
    hkeeps | ⟨d, hd, htoken⟩
  · exact .inl hkeeps
  · exact .inr ⟨d, List.mem_append_left _ hd, htoken⟩

end

/-! ## Clients that are backed by logins -/

section
variable {σ : Type} [SessionStore σ] [HonestStore σ]

/-- The credential of a client, and all that the store keeps under its key, is granted by some
calls. -/
structure Client.Backed (c : Client) (m : σ) (since : List Call) : Prop where
  held : ∀ credential ∈ c.credential, Granted since credential
  kept : ∀ token, HonestStore.Keeps m c.key.text token → Granted since ⟨token⟩

end

section
variable {β σ : Type} [Http.Backend β] [SessionStore σ] [HonestStore σ] {b b' : β} {m m' : σ}
  {c c' : Client} {r : PendingRequest} {events : List Event} {since : List Call}

/-- What a store keeps under a key is still granted after events that deposit nothing else. -/
theorem Happens.kept_granted (hhappens : Happens b m events b' m') {key : String}
    (hput : ∀ d ∈ deposits events, Granted (calls events) ⟨d.token⟩)
    (hkept : ∀ token, HonestStore.Keeps m key token → Granted since ⟨token⟩) (token : String)
    (h : HonestStore.Keeps m' key token) : Granted (since ++ calls events) ⟨token⟩ := by
  rcases hhappens.of_keeps h with hkeeps | ⟨d, hd, rfl⟩
  · exact (hkept token hkeeps).append_right _
  · exact (hput d hd).append_left since

/-- What a store hands out to a client that is backed is granted. -/
theorem Client.Backed.got_granted (h : c.Backed m since) (hhappens : Happens b m events b' m')
    (hput : ∀ d ∈ deposits events, Granted (calls events) ⟨d.token⟩)
    (hkey : ∀ e ∈ events, e.IsOnKey c.key.text) (key token : String)
    (hgot : .got key (.ok (some token)) ∈ events) : Granted (since ++ calls events) ⟨token⟩ := by
  obtain rfl : key = c.key.text := hkey _ hgot
  rcases hhappens.keeps_of_got hgot with hkeeps | ⟨d, hd, rfl⟩
  · exact (h.kept token hkeeps).append_right _
  · exact (hput d hd).append_left since

/-- An acquisition leaves a client backed. -/
theorem Acquiring.backed {result : Except ClientError Unit} (h : Acquiring c events result c')
    (hhappens : Happens b m events b' m') (hc : c.Backed m since) :
    c'.Backed m' (since ++ calls events) := by
  have hput := c.composes_deposits_granted.acquiring h
  refine ⟨h.holds (fun credential hheld => (hc.held credential hheld).append_right _)
    (hc.got_granted hhappens hput (c.composes_isOnKey.acquiring h))
    fun d hd => (hput d hd).append_left since, ?_⟩
  rw [h.remains.key]
  exact hhappens.kept_granted hput hc.kept

/-- Every action leaves a client backed. -/
theorem Performing.backed {a : Action} {result : Except ClientError Outcome}
    (h : Performing c a events result c') (hhappens : Happens b m events b' m')
    (hc : c.Backed m since) : c'.Backed m' (since ++ calls events) := by
  have hput := c.composes_deposits_granted.performing h
  refine ⟨h.holds (fun credential hheld => (hc.held credential hheld).append_right _)
    (hc.got_granted hhappens hput h.isOnKey) fun d hd => (hput d hd).append_left since, ?_⟩
  rw [h.remains.key]
  exact hhappens.kept_granted hput hc.kept

/-- A renewal tells the store to drop the token before anything else. -/
theorem Renewing.exists_eq_forgot {result : Except ClientError Http.Response}
    (h : Renewing c r events result c') :
    ∃ outcome rest, events = .forgot c.key.text outcome :: rest := by
  cases h with
  | unevicted hevict | unopened hevict | replayed hevict =>
    cases hevict
    exact ⟨_, _, rfl⟩

/-- A renewal leaves a client backed by the renewal alone, if the store drops the token. -/
theorem Renewing.backed {result : Except ClientError Http.Response}
    (h : Renewing c r events result c') (hhappens : Happens b m events b' m')
    (hforgot : ∀ key e, .forgot key (.error e) ∉ events) : c'.Backed m' (calls events) := by
  have hput := c.composes_deposits_granted.renewing h
  refine ⟨h.holds hput, ?_⟩
  rw [h.remains.key]
  obtain ⟨outcome, rest, rfl⟩ := h.exists_eq_forgot
  cases outcome with
  | error e => exact absurd List.mem_cons_self (hforgot _ e)
  | ok =>
    cases hhappens with
    | cons now next =>
      have hnone : ∀ token,
          HonestStore.Keeps (SessionStore.forget m c.key.text).2 c.key.text token →
            Granted [] ⟨token⟩ :=
        fun _ hkeeps => absurd hkeeps (HonestStore.not_keeps_forget (Eq.symm now))
      exact next.kept_granted hput hnone

end

/-! ## What is sent under granted credentials -/

/-- A call of a client that carries an action out is made under a credential, or under none: its
headers are those given for the occasion, the cookie of the credential, and standing ones, unless a
caller has made something else of its draft. -/
inductive Client.Sends (c : Client) (call : Call) : Action → Option Credential → Prop
  | login {a : Action} (hpurpose : call.purpose = .login)
      (h : call.request.headers = c.headersUnder none [.contentType jsonType] []) :
    Sends c call a none
  | logout {credential : Option Credential}
      (h : call.request.headers = c.headersUnder credential [] []) :
    Sends c call .logout credential
  | request {r : Except EncodeError PendingRequest} {credential : Option Credential}
      (h : call.request.headers = c.headersUnder credential c.queued []) :
    Sends c call (.request r) credential
  | replay {r : Except EncodeError PendingRequest} {credential : Option Credential}
      (h : call.request.headers = c.headersUnder credential [] []) :
    Sends c call (.request r) credential
  | sendWith {method : Http.Method} {endpoint : String} {adjustments : List Adjustment}
      {credential : Option Credential} {request : Http.Request}
      (hmake : Adjustment.Make adjustments (c.queued ++ Client.cookieHeaders credential) request)
      (h : call.request = c.complete request) :
    Sends c call (.sendWith method endpoint adjustments) credential
  | pool {declarations : List Declaration} {credential : Option Credential}
      (h : call.request.headers = c.headersUnder credential [] []) :
    Sends c call (.pool declarations) credential

/-- Every one of the calls `l` is made under no credential, or under one that has been granted by
then, in the calls `since` or before it in `l`. -/
def Client.SendsGranted (c : Client) (a : Action) (since l : List Call) : Prop :=
  ∀ front call back, l = front ++ call :: back →
    ∃ credential, c.Sends call a credential ∧
      ∀ granted ∈ credential, Granted (since ++ front) granted

section
variable {c c' : Client} {a : Action} {r : PendingRequest} {since l l' : List Call}
  {events : List Event}

/-- Calls under credentials that were granted before all of them. -/
theorem Client.sendsGranted_of_forall {credential : Option Credential}
    (hgranted : ∀ granted ∈ credential, Granted since granted)
    (h : ∀ call ∈ l, c.Sends call a credential) : c.SendsGranted a since l := by
  rintro front call back rfl
  exact ⟨credential, h call (List.mem_append_right _ List.mem_cons_self),
    fun granted hmem => (hgranted granted hmem).append_right front⟩

/-- Calls before which others have been made. -/
theorem Client.SendsGranted.append (h : c.SendsGranted a since l)
    (h' : c.SendsGranted a (since ++ l) l') : c.SendsGranted a since (l ++ l') := by
  intro front call back hsplit
  rcases append_eq_append_cons hsplit with ⟨mid, hfront, -⟩ | ⟨mid, rfl, hback⟩
  · exact h front call mid hfront
  · obtain ⟨credential, hsends, hgranted⟩ := h' mid call back hback
    refine ⟨credential, hsends, ?_⟩
    rw [← List.append_assoc]
    exact hgranted

/-- Where nothing is sent, nothing is sent under anything else. -/
theorem Client.SendsGranted.nil (c : Client) (a : Action) (since : List Call) :
    c.SendsGranted a since [] :=
  fun _ _ _ h => absurd h.symm (List.append_ne_nil_of_right_ne_nil _ (List.cons_ne_nil _ _))

/-- Logins are sent under no credential. -/
theorem Client.Logins.sendsGranted (h : c.Logins l) (a : Action) (since : List Call) :
    c.SendsGranted a since l := by
  have hnone : ∀ granted ∈ (none : Option Credential), Granted since granted :=
    fun _ hmem => nomatch hmem
  refine Client.sendsGranted_of_forall hnone fun call hcall => ?_
  obtain ⟨hpurpose, url, -, hrequest⟩ := h.isLogin call hcall
  refine .login hpurpose ?_
  rw [hrequest]
  rfl

/-- What is sent of a declared request has its headers under the credential of the client. -/
theorem DispatchingAll.headers_eq {entries : List (PoolKey × Except EncodeError PendingRequest)}
    {results : List (PoolKey × Except ClientError Http.Response)}
    (h : DispatchingAll c entries events results) :
    ∀ call ∈ calls events, call.request.headers = c.headersUnder c.credential [] [] := by
  intro call hcall
  obtain ⟨_, _, _, hsend, hmem⟩ := h.exists_dispatching hcall
  exact hsend.headers_eq hmem

/-- A renewal sends its replay under the credential that its login grants. -/
theorem Renewing.sendsGranted {c₁ : Client} {result : Except ClientError Http.Response}
    (h : Renewing c₁ r events result c') (hc : c.Remains c₁) (since : List Call) :
    c.SendsGranted (.request (.ok r)) since (calls events) := by
  cases h with
  | unevicted hevict =>
    rw [hevict.calls_eq]
    exact .nil c _ since
  | unopened hevict hopen =>
    rw [calls_append, hevict.calls_eq, List.nil_append]
    exact (hopen.logins.of_remains (hc.trans hevict.remains)).sendsGranted _ since
  | @replayed _ events' _ _ c₂ _ hevict hopen hreplay =>
    have hc₂ := hc.trans hevict.remains
    have hgranted : ∀ granted ∈ c'.credential, Granted (calls events') granted := by
      refine hopen.holds (fun _ hmem => ?_) hopen.deposits_granted
      rw [hevict.credential_eq] at hmem
      cases hmem
    rw [calls_append, hevict.calls_eq, List.nil_append, calls_append, calls_append,
      Client.calls_complaint, List.append_nil]
    refine ((hopen.logins.of_remains hc₂).sendsGranted _ since).append ?_
    refine Client.sendsGranted_of_forall
      (fun granted hmem => (hgranted granted hmem).append_left since) fun call hcall => .replay ?_
    rw [hreplay.headers_eq hcall, (hc₂.trans hopen.remains).headersUnder_eq]

/-- A request that is delivered is sent under the credential of the client, and its replay under
that of the renewed session. -/
theorem Delivering.sendsGranted {c₁ : Client} {result : Except ClientError Http.Response}
    (h : Delivering c₁ r c.queued events result c') (hc : c.Remains c₁)
    (hheld : ∀ credential ∈ c₁.credential, Granted since credential) :
    c.SendsGranted (.request (.ok r)) since (calls events) := by
  have honce : ∀ {events result}, Dispatching c₁ r c.queued events result →
      c.SendsGranted (.request (.ok r)) since (calls events) := by
    intro events result hsend
    refine Client.sendsGranted_of_forall hheld fun call hcall => .request ?_
    rw [hsend.headers_eq hcall, hc.headersUnder_eq]
  cases h with
  | undelivered hsend | answered hsend => exact honce hsend
  | renewed hsend _ hrenew =>
    rw [calls_append]
    exact (honce hsend).append (hrenew.sendsGranted hc _)

end

section
variable {β σ : Type} [Http.Backend β] [SessionStore σ] [HonestStore σ] {b b' : β} {m m' : σ}
  {c c' : Client} {events : List Event} {since : List Call}

/-- A client that is backed finds a granted credential to close its session with. -/
theorem FindingCredential.granted {present : Except StoreError Bool}
    {result : Except StoreError (Option Credential)} {credential : Option Credential}
    {rest : List Event} (h : FindingCredential c events result) (hresult : result = .ok credential)
    (hhappens : Happens b m (.checked c.key.text present :: (events ++ rest)) b' m')
    (hc : c.Backed m since) : ∀ granted ∈ credential, Granted since granted := by
  cases h with
  | held h =>
    cases hresult
    rintro _ ⟨⟩
    exact hc.held _ h
  | @stored outcome h =>
    cases hhappens with
    | cons _ next =>
      cases outcome with
      | error e => cases hresult
      | ok token? =>
        cases hresult
        intro granted hmem
        obtain ⟨token, rfl, rfl⟩ := Option.map_eq_some_iff.1 hmem
        have hkeeps := HonestStore.keeps_of_get next.isTrue_head.symm
        exact hc.kept token (HonestStore.of_keeps_has hkeeps)

/-- A logout of a client that is backed is sent under a granted credential. -/
theorem LoggingOut.sendsGranted {result : Except ClientError Unit}
    (h : LoggingOut c events result c') (hhappens : Happens b m events b' m')
    (hc : c.Backed m since) : c.SendsGranted .logout since (calls events) := by
  have hsent : ∀ {url events outcome} {credential : Option Credential},
      (∀ granted ∈ credential, Granted since granted) →
      Sending c .logout (Client.logoutRequest url credential) events outcome →
      c.SendsGranted .logout since (calls events) := by
    intro url events outcome credential hgranted hsend
    refine Client.sendsGranted_of_forall hgranted fun call hcall => .logout ?_
    rw [hsend.headers_eq hcall, Client.headersUnder, List.append_nil]
    rfl
  cases h with
  | unchecked | nothing => exact .nil c _ since
  | unfound hfind | noEndpoint hfind =>
    rw [calls_cons, hfind.calls_eq]
    exact .nil c _ since
  | unforgotten hfind _ hsend | closed hfind _ hsend =>
    rw [List.append_assoc] at hhappens
    have hsends := hsent (hfind.granted rfl hhappens hc) hsend
    simpa [hfind.calls_eq] using hsends

/-- Whatever a client that is backed sends is sent under granted credentials. -/
theorem Performing.sendsGranted {a : Action} {result : Except ClientError Outcome}
    (h : Performing c a events result c') (hhappens : Happens b m events b' m')
    (hc : c.Backed m since) : c.SendsGranted a since (calls events) := by
  have hunqueued := Client.Remains.unqueued c
  have hacquired : ∀ {c₁ events result c₂}, c.Remains c₁ → Acquiring c₁ events result c₂ →
      c.SendsGranted a since (calls events) :=
    fun hc₁ hacquire => (hacquire.logins.of_remains hc₁).sendsGranted a since
  cases h with
  | login h => exact h.logins.sendsGranted _ since
  | logout h => exact h.sendsGranted hhappens hc
  | misqueued | queued | unencoded => exact .nil c _ since
  | request h =>
    cases h with
    | unacquired hacquire => exact hacquired hunqueued hacquire
    | acquired hacquire hdeliver =>
      obtain ⟨_, _, hfirst, -⟩ := hhappens.of_append
      have hbacked := hacquire.backed hfirst ⟨hc.held, hc.kept⟩
      rw [calls_append]
      exact (hacquired hunqueued hacquire).append
        (hdeliver.sendsGranted (hunqueued.trans hacquire.remains) hbacked.held)
  | sendWith h =>
    cases h with
    | unacquired hacquire | unbuilt hacquire => exact hacquired hunqueued hacquire
    | sending hacquire hbuild hsend =>
      obtain ⟨_, _, hfirst, -⟩ := hhappens.of_append
      have hbacked := hacquire.backed hfirst ⟨hc.held, hc.kept⟩
      have hmake := Client.make_of_adjusted hbuild
      rw [calls_append]
      refine (hacquired hunqueued hacquire).append
        (Client.sendsGranted_of_forall hbacked.held fun call hcall => .sendWith hmake ?_)
      rw [hsend.eq_of_mem_calls hcall, (hunqueued.trans hacquire.remains).complete_eq]
  | pool h =>
    cases h with
    | unacquired hacquire => exact hacquired (.refl c) hacquire
    | dispatched hacquire hall =>
      obtain ⟨_, _, hfirst, -⟩ := hhappens.of_append
      have hbacked := hacquire.backed hfirst hc
      rw [calls_append]
      refine (hacquired (.refl c) hacquire).append
        (Client.sendsGranted_of_forall hbacked.held fun call hcall => .pool ?_)
      rw [hall.headers_eq call hcall, hacquire.remains.headersUnder_eq]

end

/-! ## Rejections -/

section
variable {β σ : Type} [Http.Backend β] [SessionStore σ]

/-- A performance in which a request is rejected when it is first sent, and the store drops the
token of its session when it is told to; `behind` are the calls behind the one that was rejected. -/
structure Performance.Rejected (q : Performance β σ) (behind : List Call) : Prop where
  renews : q.action.renews = true
  rejected : ∃ before first, q.calls = before ++ first :: behind ∧
    (∀ call ∈ before, call.purpose ≠ .business) ∧ first.purpose = .business ∧ first.IsRejected
  dropped : ∀ key e, .forgot key (.error e) ∉ q.after.trace

variable {q : Performance β σ} {behind : List Call}

/-- Behind a rejection there is a renewal. -/
theorem Performance.Rejected.exists_renewing (h : q.Rejected behind) :
    ∃ c r b m rest result, q.action = .request (.ok r) ∧ q.client.Remains c ∧
      ODataSession.calls rest = behind ∧ (∀ e ∈ rest, e ∈ q.after.trace) ∧
      Happens b m rest q.after.backend q.after.store ∧
      Renewing c r rest result q.after.client := by
  obtain ⟨r, haction⟩ := Action.eq_request_of_renews h.renews
  obtain ⟨before, first, hcalls, hbefore, hpurpose, response, houtcome, hstatus⟩ := h.rejected
  obtain ⟨front, after, htrace, rfl, rfl⟩ := exists_eq_append_sent hcalls
  have hperforming := q.performing
  generalize q.result = result at hperforming
  rw [hpurpose, houtcome] at htrace
  rw [haction] at hperforming
  cases hperforming with
  | request hrequest =>
    obtain ⟨c, rest, hc, -, rfl, hrenew⟩ := hrequest.exists_renewing htrace hbefore
      (by simpa [Http.Status.isSessionExpired] using hstatus)
    have hhappens := q.happens
    rw [htrace, List.append_cons, List.append_cons] at hhappens
    obtain ⟨b, m, -, hrest⟩ := hhappens.of_append
    refine ⟨c, r, b, m, rest, _, haction, hc, rfl, fun e hmem => ?_, hrest, hrenew⟩
    rw [htrace, List.append_cons, List.append_cons]
    exact List.mem_append_right _ hmem

/-- Behind a rejection, requests are sent under granted credentials. -/
theorem Performance.Rejected.sendsGranted (h : q.Rejected behind) :
    q.client.SendsGranted q.action [] behind := by
  obtain ⟨c, r, _, _, rest, _, haction, hc, rfl, -, -, hrenew⟩ := h.exists_renewing
  rw [haction]
  exact hrenew.sendsGranted hc []

/-- After a rejection the client is backed by the logins behind it. -/
theorem Performance.Rejected.backed [HonestStore σ] (h : q.Rejected behind) :
    q.after.client.Backed q.after.store behind := by
  obtain ⟨c, r, _, _, rest, _, -, -, rfl, hsubset, hhappens, hrenew⟩ := h.exists_renewing
  exact hrenew.backed hhappens fun key e hmem => h.dropped key e (hsubset _ hmem)

end

/-! ## Clients that share a store -/

namespace Scenario

section
variable {β σ : Type} [SessionStore σ] [HonestStore σ]

/-- The client of a name is backed by some calls, as long as it is on a key, and so is what the
shared store keeps under this key. -/
structure Backed (x : Scenario β σ) (name key : String) (since : List Call) : Prop where
  held : ∀ p, x.participant? name = some p → p.client.key.text = key →
    ∀ credential ∈ p.client.credential, Granted since credential
  kept : ∀ token, HonestStore.Keeps x.shared key token → Granted since ⟨token⟩

variable {x : Scenario β σ} {name key : String} {since : List Call}

/-- A client that is there is backed. -/
theorem Backed.participant (h : x.Backed name key since) {p : Participant σ}
    (hp : x.participant? name = some p) (hkey : p.client.key.text = key) :
    p.client.Backed x.shared since :=
  ⟨h.held p hp hkey, hkey ▸ h.kept⟩

/-- Taking a client out leaves the others backed. -/
theorem Backed.dismiss (h : x.Backed name key since) (name' : String) :
    (x.dismiss name').Backed name key since := by
  refine ⟨fun p hp => ?_, h.kept⟩
  rw [participant?_dismiss] at hp
  split at hp
  · cases hp
  · exact h.held p hp

/-- A client that is entered without a credential is backed. -/
theorem Backed.enrol (h : x.Backed name key since) (name' : String) {client : Client}
    (hclient : client.credential = none) :
    (x.enrol name' ⟨client, none⟩).Backed name key since := by
  refine ⟨fun p hp hkey credential hmem => ?_, h.kept⟩
  rw [participant?_enrol_eq] at hp
  split at hp
  · cases hp
    rw [hclient] at hmem
    cases hmem
  · exact h.held p hp hkey credential hmem

end

section
variable {β σ : Type} [Http.Backend β] [SessionStore σ] [HonestStore σ] {x : Scenario β σ}
  {name key : String} {since : List Call}

/-- A client that is backed when it has acted. -/
theorem backed_act (hx : x.IsShared) {p : Participant σ} (hp : x.participant? name = some p)
    (a : Action) (h : (x.performance name p a).after.client.Backed
      (x.performance name p a).after.store since) :
    (x.act name p a).2.Backed name (x.performance name p a).key since := by
  have hkey : (x.performance name p a).after.client.key.text = (x.performance name p a).key :=
    congrArg SessionKey.text (x.performance name p a).remains.key
  constructor
  · intro p' hp' _ credential hmem
    rw [participant?_act hx hp, if_pos rfl] at hp'
    cases hp'
    exact h.held credential hmem
  · rw [act_of_own (hx.own_eq hp), ← hkey]
    exact h.kept

/-- A client that was backed is backed by the calls of an action as well, whoever acts. -/
theorem Backed.act (h : x.Backed name key since) (hx : x.IsShared) {name' : String}
    {p : Participant σ} (hp : x.participant? name' = some p) (a : Action) :
    (x.act name' p a).2.Backed name key (since ++ (x.performance name' p a).calls) := by
  obtain ⟨client, own⟩ := p
  obtain rfl : own = none := hx.own_eq hp
  have hperforming := (x.performance name' ⟨client, none⟩ a).performing
  have hhappens := (x.performance name' ⟨client, none⟩ a).happens
  by_cases hself : name' = name ∧ client.key.text = key
  · obtain ⟨rfl, rfl⟩ := hself
    exact backed_act hx hp a (hperforming.backed hhappens (h.participant hp rfl))
  · refine ⟨fun p' hp' hkey credential hmem => ?_, ?_⟩
    · rw [participant?_act hx hp] at hp'
      split at hp'
      · next hname =>
        cases hp'
        have hkey' := congrArg SessionKey.text hperforming.remains.key
        exact absurd ⟨hname.symm, hkey'.symm.trans hkey⟩ hself
      · exact (h.held p' hp' hkey credential hmem).append_right _
    · exact hhappens.kept_granted (client.composes_deposits_granted.performing hperforming) h.kept

/-- The invariant of a run: behind every rejection, the client that saw it is backed by what has
been called since, and all that it has sent since was sent under granted credentials. -/
structure NotResent (past : List (Performance β σ)) (x : Scenario β σ) : Prop where
  shared : x.IsShared
  rejection : ∀ earlier q later, past = earlier ++ q :: later → ∀ behind, q.Rejected behind →
    x.Backed q.name q.key (behind ++ later.flatMap Performance.calls) ∧
    ∀ mid q' back, later = mid ++ q' :: back → q'.name = q.name → q'.key = q.key →
      q'.client.SendsGranted q'.action (behind ++ mid.flatMap Performance.calls) q'.calls

/-- A client that acts preserves the invariant. -/
theorem NotResent.act {past : List (Performance β σ)} (h : NotResent past x) {p : Participant σ}
    (hp : x.participant? name = some p) (a : Action) :
    NotResent (past ++ [x.performance name p a]) (x.act name p a).2 := by
  refine ⟨h.shared.act hp a, fun earlier q later hpast behind hrejected => ?_⟩
  rcases append_singleton_eq_append_cons hpast with ⟨-, rfl, rfl⟩ | ⟨later', rfl, hpast'⟩
  · -- the request is rejected in this very performance
    refine ⟨?_, fun _ _ _ hnil => ?_⟩
    · rw [List.flatMap_nil, List.append_nil]
      exact backed_act h.shared hp a hrejected.backed
    · cases List.append_ne_nil_of_right_ne_nil _ (List.cons_ne_nil _ _) hnil.symm
  · obtain ⟨hbacked, hsends⟩ := h.rejection earlier q later' hpast' behind hrejected
    refine ⟨?_, fun mid q' back hlater hname hkey => ?_⟩
    · rw [List.flatMap_append, List.flatMap_singleton, ← List.append_assoc]
      exact hbacked.act h.shared hp a
    · rcases append_singleton_eq_append_cons hlater with ⟨rfl, rfl, -⟩ | ⟨back', -, hlater'⟩
      · obtain ⟨client, own⟩ := p
        obtain rfl : own = none := h.shared.own_eq hp
        have hperforming := (x.performance name ⟨client, none⟩ a).performing
        have hhappens := (x.performance name ⟨client, none⟩ a).happens
        have hparticipant : x.participant? q.name = some ⟨client, none⟩ := hname ▸ hp
        exact hperforming.sendsGranted hhappens (hbacked.participant hparticipant hkey)
      · exact hsends mid q' back' hlater' hname hkey

/-- Taking a client out preserves the invariant. -/
theorem NotResent.dismiss {past : List (Performance β σ)} (h : NotResent past x) (name : String) :
    NotResent past (x.dismiss name) := by
  refine ⟨h.shared.dismiss name, fun earlier q later hpast behind hrejected => ?_⟩
  obtain ⟨hbacked, hsends⟩ := h.rejection earlier q later hpast behind hrejected
  exact ⟨hbacked.dismiss name, hsends⟩

/-- A client that is entered without a credential preserves the invariant. -/
theorem NotResent.enrol {past : List (Performance β σ)} (h : NotResent past x) (name : String)
    {client : Client} (hclient : client.credential = none) :
    NotResent past (x.enrol name ⟨client, none⟩) := by
  refine ⟨h.shared.enrol name client, fun earlier q later hpast behind hrejected => ?_⟩
  obtain ⟨hbacked, hsends⟩ := h.rejection earlier q later hpast behind hrejected
  exact ⟨hbacked.enrol name hclient, hsends⟩

/-- Of clients that share a store, once a request of one of them has been rejected and the store has
dropped the token of its session, this client sends no call under a credential unless a login behind
the rejection has granted it: neither in the renewal and the replay, nor in any later action,
whoever else has acted and whatever has failed in between. -/
theorem performances_not_resent (hx : x.IsShared) {commands : List Command}
    {earlier later : List (Performance β σ)} {q : Performance β σ}
    (h : x.performances commands = earlier ++ q :: later) {behind : List Call}
    (hq : q.Rejected behind) :
    q.client.SendsGranted q.action [] behind ∧
      ∀ mid q' back, later = mid ++ q' :: back → q'.name = q.name → q'.key = q.key →
        q'.client.SendsGranted q'.action (behind ++ mid.flatMap Performance.calls) q'.calls := by
  have hstart : NotResent [] x := by
    refine ⟨hx, fun earlier q later hnil => ?_⟩
    cases List.append_ne_nil_of_right_ne_nil _ (List.cons_ne_nil _ _) hnil.symm
  have hrun : NotResent ([] ++ x.performances commands) (x.run commands) :=
    performances_induction (fun _ _ _ _ a hp h => h.act hp a) (fun _ _ name h => h.dismiss name)
      (fun _ _ name _ _ _ _ hbuild h => h.enrol name (ClientSetup.builds hbuild).credential_eq)
      commands hstart
  exact ⟨hq.sendsGranted, (hrun.rejection earlier q later h behind hq).2⟩

end

/-- A client whose first request is rejected renews its session, and closes the renewed one. -/
theorem performances_not_resent_granting :
    ∃ (q q' : Performance ScriptedBackend MemoryStore) (login first : Call) (behind : List Call),
      performances ⟨.granting ["B1SESSION=a"] "B1SESSION=b" 401, .empty, []⟩
        [.buildOn "a" 0, .act "a" (.request (.ok (.get "Items"))), .act "a" .logout] =
          [] ++ q :: [q'] ∧
      q.calls = [login] ++ first :: behind ∧ .cookie "B1SESSION=a" ∈ first.request.headers ∧
      q.Rejected behind ∧ q.client.SendsGranted q.action [] behind ∧
      q'.name = q.name ∧ q'.key = q.key ∧ q'.calls.length = 1 ∧
      q'.client.SendsGranted q'.action behind q'.calls := by
  let x : Scenario ScriptedBackend MemoryStore :=
    ⟨.granting ["B1SESSION=a"] "B1SESSION=b" 401, .empty, []⟩
  let commands : List Command :=
    [.buildOn "a" 0, .act "a" (.request (.ok (.get "Items"))), .act "a" .logout]
  have h : (x.performances commands).length = 2 ∧
      ∀ q ∈ (x.performances commands).take 1, ∀ q' ∈ (x.performances commands).drop 1,
        (q.calls.map Call.purpose = [.login, .business, .login, .business] ∧
          (∀ call ∈ (q.calls.drop 1).take 1,
            .cookie "B1SESSION=a" ∈ call.request.headers ∧ call.IsRejected)) ∧
        q.action.renews = true ∧ q'.name = q.name ∧ q'.key = q.key ∧ q'.calls.length = 1 := by
    decide +kernel
  obtain ⟨hlength, hall⟩ := h
  obtain ⟨q, q', hl⟩ := List.length_eq_two.1 hlength
  obtain ⟨⟨hpurposes, hfirst⟩, hrenews, hname, hkey, hone⟩ :=
    hall q (hl ▸ List.mem_singleton_self q) q' (hl ▸ List.mem_singleton_self q')
  obtain ⟨login, _, hcalls, hlogin, htail⟩ := List.map_eq_cons_iff.1 hpurposes
  obtain ⟨first, behind, rfl, hbusiness, -⟩ := List.map_eq_cons_iff.1 htail
  rw [hcalls] at hfirst
  obtain ⟨hcookie, hrejected⟩ := hfirst first (List.mem_singleton_self first)
  have hbefore : ∀ call ∈ [login], call.purpose ≠ .business := by
    refine List.forall_mem_singleton.2 ?_
    rw [hlogin]
    decide
  have hq : q.Rejected behind :=
    ⟨hrenews, ⟨[login], first, hcalls, hbefore, hbusiness, hrejected⟩, q.happens.not_forgot_error⟩
  have hx : x.IsShared := fun _ hmem => nomatch hmem
  obtain ⟨hrenewal, hlater⟩ :=
    performances_not_resent hx (hl.trans (List.nil_append _).symm) hq
  have hlogout := hlater [] q' [] rfl hname hkey
  rw [List.flatMap_nil, List.append_nil] at hlogout
  exact ⟨q, q', login, first, behind, hl, hcalls, hcookie, hq, hrenewal, hname, hkey, hone, hlogout⟩

/-- A client whose replay is rejected, too, sends its next request under the credential of the
replay: no login has granted this credential in between. -/
theorem resent_after_replay :
    ∃ (q q' : Performance ScriptedBackend MemoryStore) (renewal back : List Call)
      (replay resent : Call),
      performances ⟨.granting ["B1SESSION=a", "B1SESSION=b"] "B1SESSION=c" 401, .empty, []⟩
        [.buildOn "a" 0, .act "a" (.request (.ok (.get "Items"))),
          .act "a" (.request (.ok (.get "Items")))] = [q, q'] ∧
      q'.name = q.name ∧ q'.key = q.key ∧ (∀ key e, .forgot key (.error e) ∉ q.after.trace) ∧
      q.calls = renewal ++ [replay] ∧ replay.purpose = .business ∧ replay.IsRejected ∧
      .cookie "B1SESSION=b" ∈ replay.request.headers ∧
      q'.calls = resent :: back ∧ .cookie "B1SESSION=b" ∈ resent.request.headers := by
  let x : Scenario ScriptedBackend MemoryStore :=
    ⟨.granting ["B1SESSION=a", "B1SESSION=b"] "B1SESSION=c" 401, .empty, []⟩
  let commands : List Command := [.buildOn "a" 0, .act "a" (.request (.ok (.get "Items"))),
    .act "a" (.request (.ok (.get "Items")))]
  have h : (x.performances commands).length = 2 ∧
      ∀ q ∈ (x.performances commands).take 1, ∀ q' ∈ (x.performances commands).drop 1,
        q'.name = q.name ∧ q'.key = q.key ∧ (q.calls.drop 3).length = 1 ∧ q'.calls.isEmpty = false ∧
        (∀ call ∈ q.calls.drop 3, call.purpose = .business ∧ call.IsRejected ∧
          .cookie "B1SESSION=b" ∈ call.request.headers) ∧
        ∀ call ∈ q'.calls.take 1, .cookie "B1SESSION=b" ∈ call.request.headers := by
    decide +kernel
  obtain ⟨hlength, hall⟩ := h
  obtain ⟨q, q', hl⟩ := List.length_eq_two.1 hlength
  obtain ⟨hname, hkey, hlast, hsome, hreplay, hresent⟩ :=
    hall q (hl ▸ List.mem_singleton_self q) q' (hl ▸ List.mem_singleton_self q')
  obtain ⟨replay, hlast⟩ := List.length_eq_one_iff.1 hlast
  obtain ⟨hpurpose, hrejected, hcookie⟩ := hreplay replay (hlast ▸ List.mem_singleton_self replay)
  obtain ⟨resent, back, hback⟩ := List.exists_cons_of_ne_nil (List.isEmpty_eq_false_iff.1 hsome)
  have hcookie' := hresent resent (by
    rw [hback]
    exact List.mem_singleton_self resent)
  have hcalls : q.calls = q.calls.take 3 ++ [replay] := by
    rw [← hlast, List.take_append_drop]
  exact ⟨q, q', _, back, replay, resent, hl, hname, hkey, q.happens.not_forgot_error, hcalls,
    hpurpose, hrejected, hcookie, hback, hcookie'⟩

end Scenario

end ODataSession
