import ODataSession.Proofs.Client.Adjusting
import ODataSession.Proofs.Client.Command
import ODataSession.Proofs.Client.Events
import ODataSession.Proofs.Session.Credential
import ODataSession.Proofs.Session.Store

/-!
# Tokens of clients

Where the tokens of clients come from and what becomes of them. A client takes a token from the
store or from the answer to a login, and a store is given tokens from answers to logins only; what
comes from such an answer fits into a header. So, of clients on a store that was empty, everything
that is held or kept fits into a header (`Scenario.run_allFit`), and whatever such a client sends
besides logins carries the token that it uses at that moment (`Scenario.run_carriesTokens`), but for
two cases: what a caller makes of a draft may have lost the token of the draft, and the token that a
logout asks for may have expired since the store has said that it is there.
-/

namespace ODataSession

/-! ## Deposits -/

/-- A token that was given to a store, and what the store said. -/
structure Deposit where
  key : String
  token : String
  lifetime : Nat
  outcome : Except StoreError Unit

/-- The deposit that an event is, if it is one. -/
@[simp]
def Event.deposit? : Event → Option Deposit
  | .put key token lifetime outcome => some ⟨key, token, lifetime, outcome⟩
  | .sent .. | .got .. | .checked .. | .forgot .. | .paused .. | .noted .. => none

/-- The deposits among events, in their order. -/
def deposits (events : List Event) : List Deposit :=
  events.filterMap Event.deposit?

/-- Nothing happens, and nothing is deposited. -/
@[simp]
theorem deposits_nil : deposits [] = [] := rfl

/-- The deposit of an event comes first. -/
@[simp]
theorem deposits_cons (e : Event) (events : List Event) :
    deposits (e :: events) = e.deposit?.toList ++ deposits events := by
  unfold deposits
  rw [List.filterMap_cons]
  cases e.deposit? <;> rfl

/-- The deposits of events come before those of later ones. -/
@[simp]
theorem deposits_append (events events' : List Event) :
    deposits (events ++ events') = deposits events ++ deposits events' :=
  List.filterMap_append

/-- What holds of all deposits holds of that of the first event and of the later ones. -/
theorem forall_mem_deposits_cons {P : Deposit → Prop} {e : Event} {events : List Event} :
    (∀ d ∈ deposits (e :: events), P d) ↔ (∀ d ∈ e.deposit?, P d) ∧ ∀ d ∈ deposits events, P d := by
  rw [deposits_cons, List.forall_mem_append]
  simp only [Option.mem_toList, Option.mem_def]

/-- What is deposited fits into a header. -/
def Deposit.IsFit (d : Deposit) : Prop :=
  (Credential.mk d.token).IsFit

section
variable {c c' : Client} {r : PendingRequest} {events : List Event}

/-- Sending deposits nothing. -/
@[simp]
theorem Sending.deposits_eq {purpose : Purpose} {request : Http.Request}
    {outcome : Except Http.Failure Http.Response} (h : Sending c purpose request events outcome) :
    deposits events = [] := by
  cases h <;> rfl

/-- The attempts at a login deposit nothing. -/
theorem Attempting.deposits_eq {request : Http.Request} {attempt : UInt32}
    {result : Except Http.Failure (Http.Response × UInt32)}
    (h : Attempting c request attempt events result) : deposits events = [] := by
  induction h with
  | answered h => exact h.deposits_eq
  | abandoned h => simp [h.deposits_eq]
  | repeated h _ _ ih => simp [h.deposits_eq, ih]

/-- A session that is opened deposits the cookie of the answer, once. -/
theorem Opening.deposits_fit {result : Except ClientError Unit} (h : Opening c events result c') :
    ∀ d ∈ deposits events, d.IsFit := by
  cases h with
  | noEndpoint => exact fun _ h => nomatch h
  | unreached _ h | rejected _ h | cookieless _ h => simp [h.deposits_eq]
  | unstored _ h _ hcookie | opened _ h _ hcookie =>
    intro d hd
    simp [h.deposits_eq, Client.stores] at hd
    subst hd
    exact Credential.isFit_of_ofSetCookie? hcookie

/-- A request that is sent once deposits nothing. -/
theorem Dispatching.deposits_eq {headers : List Http.Header}
    {result : Except ClientError Http.Response} (h : Dispatching c r headers events result) :
    deposits events = [] := by
  cases h with
  | noUrl => rfl
  | sending _ hsend => exact hsend.deposits_eq

/-- A notice deposits nothing. -/
theorem Client.deposits_complaint (c : Client) (result : Except ClientError Http.Response) :
    deposits (c.complaint result) = [] := by
  rcases c.complaint_eq result with h | ⟨notice, h⟩
  · rw [h]
    rfl
  · rw [h]
    rfl

/-- What is deposited is as the calls around it make it if that is so where a session is opened,
and if no other calls can undo it. -/
theorem Client.composes_deposits (c : Client) (Q : List Call → Deposit → Prop)
    (hmono : ∀ (front l back : List Call) (d : Deposit), Q l d → Q (front ++ l ++ back) d)
    (hopening : ∀ {c₁ c₂ : Client} {events : List Event} {result : Except ClientError Unit},
      c.Remains c₁ → Opening c₁ events result c₂ → ∀ d ∈ deposits events, Q (calls events) d) :
    c.Composes fun events => ∀ d ∈ deposits events, Q (calls events) d where
  nil := fun _ hd => nomatch hd
  append {events events'} h h' := by
    intro d hd
    rw [deposits_append, List.mem_append] at hd
    rw [calls_append]
    rcases hd with hd | hd
    · exact hmono [] (calls events) (calls events') d (h d hd)
    · rw [← List.append_nil (calls events ++ calls events')]
      exact hmono (calls events) (calls events') [] d (h' d hd)
  noted := fun _ _ hd => nomatch hd
  sent := fun _ _ _ _ hd => nomatch hd
  got := fun _ _ hd => nomatch hd
  checked := fun _ _ hd => nomatch hd
  forgot := fun _ _ hd => nomatch hd
  opening := fun hremains hopen => hopening hremains hopen

/-- Whatever a client deposits fits into a header. -/
theorem Client.composes_deposits_fit (c : Client) :
    c.Composes fun events => ∀ d ∈ deposits events, d.IsFit :=
  c.composes_deposits (fun _ d => d.IsFit) (fun _ _ _ _ hd => hd)
    fun _ hopen => hopen.deposits_fit

/-- An acquisition deposits what fits. -/
theorem Acquiring.deposits_fit {result : Except ClientError Unit}
    (h : Acquiring c events result c') : ∀ d ∈ deposits events, d.IsFit :=
  c.composes_deposits_fit.acquiring h

/-- Whatever an action deposits fits into a header. -/
theorem Performing.deposits_fit {a : Action} {result : Except ClientError Outcome}
    (h : Performing c a events result c') : ∀ d ∈ deposits events, d.IsFit :=
  c.composes_deposits_fit.performing h

end

/-! ## Stores whose tokens fit -/

section
variable {β σ : Type} [Http.Backend β] [ReliableStore σ] {b b' : β} {m m' : σ}

/-- All that a store keeps fits into a header. -/
def ReliableStore.AllFit (m : σ) : Prop :=
  ∀ key token, ReliableStore.kept m key = some token → (Credential.mk token).IsFit

/-- What a question leaves in a store fits. -/
theorem ReliableStore.AllFit.of_kept (h : ReliableStore.AllFit m)
    (hkept : ∀ key, ReliableStore.kept m' key = ReliableStore.kept m key ∨
      ReliableStore.kept m' key = none) : ReliableStore.AllFit m' := by
  intro key token htoken
  rcases hkept key with hkey | hkey
  · exact h key token (hkey ▸ htoken)
  · rw [hkey] at htoken
    cases htoken

/-- After an event a store keeps what fits if the event deposits nothing else. -/
theorem ReliableStore.AllFit.storeAfter (h : ReliableStore.AllFit m) {e : Event}
    (he : ∀ d ∈ e.deposit?, d.IsFit) : ReliableStore.AllFit (e.storeAfter m) := by
  cases e with
  | sent | paused | noted => exact h
  | got key => exact h.of_kept (ReliableStore.kept_get m key)
  | checked key => exact h.of_kept (ReliableStore.kept_has m key)
  | put key token lifetime outcome =>
    intro key' token' htoken
    rw [Event.storeAfter, ReliableStore.kept_put] at htoken
    split at htoken
    · obtain rfl := Option.some.inj htoken
      exact he _ rfl
    · exact h key' token' htoken
  | forgot key =>
    refine h.of_kept fun key' => ?_
    rw [Event.storeAfter, ReliableStore.kept_forget]
    split
    · exact .inr rfl
    · exact .inl rfl

/-- After events a store keeps what fits if they deposit nothing else, and what it has handed out
in between fits too. -/
theorem Happens.allFit {events : List Event} (hhappens : Happens b m events b' m')
    (h : ReliableStore.AllFit m) (hdeposits : ∀ d ∈ deposits events, d.IsFit) :
    ReliableStore.AllFit m' ∧
      ∀ key token, .got key (.ok (some token)) ∈ events → (Credential.mk token).IsFit := by
  induction hhappens with
  | nil => exact ⟨h, fun _ _ hmem => nomatch hmem⟩
  | @cons b _ m _ e events now _ ih =>
    obtain ⟨hfirst, hrest⟩ := forall_mem_deposits_cons.1 hdeposits
    obtain ⟨hfit, hgot⟩ := ih (h.storeAfter hfirst) hrest
    refine ⟨hfit, fun key token hmem => ?_⟩
    rcases List.mem_cons.1 hmem with rfl | hmem
    · obtain ⟨token?, hget, hkept⟩ := ReliableStore.get_ok m key
      obtain rfl := Except.ok.inj ((now : _ = _).trans hget)
      exact h key token (hkept token rfl)
    · exact hgot key token hmem

end

/-! ## Credentials that a client takes -/

section
variable {c c' : Client} {r : PendingRequest} {events : List Event} {P : Credential → Prop}

/-- A session that is opened leaves the credential that was held, or one that was deposited. -/
theorem Opening.holds {result : Except ClientError Unit} (h : Opening c events result c')
    (hheld : ∀ credential ∈ c.credential, P credential)
    (hput : ∀ d ∈ deposits events, P ⟨d.token⟩) : ∀ credential ∈ c'.credential, P credential := by
  cases h with
  | noEndpoint | unreached | unstored => exact hheld
  | rejected | cookieless => exact fun _ h => nomatch h
  | @opened _ _ _ _ credential =>
    rintro _ ⟨⟩
    exact hput ⟨c.key.text, credential.cookie, c.config.cacheTtl.toNat, .ok ()⟩
      (by simp [Client.stores])

/-- A login leaves the credential that was held, one that the store has handed out, or one that was
deposited. -/
theorem LoggingIn.holds {result : Except ClientError Unit} (h : LoggingIn c events result c')
    (hheld : ∀ credential ∈ c.credential, P credential)
    (hgot : ∀ key token, .got key (.ok (some token)) ∈ events → P ⟨token⟩)
    (hput : ∀ d ∈ deposits events, P ⟨d.token⟩) : ∀ credential ∈ c'.credential, P credential := by
  cases h with
  | unanswered => exact hheld
  | reused =>
    rintro _ ⟨⟩
    exact hgot _ _ List.mem_cons_self
  | opening hopen => exact hopen.holds hheld hput

/-- So does an acquisition. -/
theorem Acquiring.holds {result : Except ClientError Unit} (h : Acquiring c events result c')
    (hheld : ∀ credential ∈ c.credential, P credential)
    (hgot : ∀ key token, .got key (.ok (some token)) ∈ events → P ⟨token⟩)
    (hput : ∀ d ∈ deposits events, P ⟨d.token⟩) : ∀ credential ∈ c'.credential, P credential := by
  cases h with
  | held => exact hheld
  | loggingIn _ hlogin => exact hlogin.holds hheld hgot hput

/-- A session that is given up leaves no credential. -/
theorem Evicting.credential_eq {result : Except ClientError Unit}
    (h : Evicting c events result c') : c'.credential = none := by
  cases h <;> rfl

/-- A renewal leaves a credential that was deposited, or none. -/
theorem Renewing.holds {result : Except ClientError Http.Response}
    (h : Renewing c r events result c') (hput : ∀ d ∈ deposits events, P ⟨d.token⟩) :
    ∀ credential ∈ c'.credential, P credential := by
  have hevict : ∀ {events result c₁}, Evicting c events result c₁ →
      ∀ credential ∈ c₁.credential, P credential := by
    intro events result c₁ h credential hmem
    rw [h.credential_eq] at hmem
    cases hmem
  cases h with
  | unevicted h => exact hevict h
  | unopened h hopen =>
    refine hopen.holds (hevict h) fun d hd => hput d ?_
    rw [deposits_append]
    exact List.mem_append_right _ hd
  | replayed h hopen =>
    refine hopen.holds (hevict h) fun d hd => hput d ?_
    rw [deposits_append, deposits_append]
    exact List.mem_append_right _ (List.mem_append_left _ hd)

/-- A delivery leaves the credential that was held, or one that was deposited. -/
theorem Delivering.holds {headers : List Http.Header} {result : Except ClientError Http.Response}
    (h : Delivering c r headers events result c')
    (hheld : ∀ credential ∈ c.credential, P credential)
    (hput : ∀ d ∈ deposits events, P ⟨d.token⟩) : ∀ credential ∈ c'.credential, P credential := by
  cases h with
  | undelivered | answered => exact hheld
  | renewed _ _ hrenew =>
    refine hrenew.holds fun d hd => hput d ?_
    rw [deposits_append]
    exact List.mem_append_right _ hd

/-- An action leaves the credential that was held, one that the store has handed out, or one that
was deposited. -/
theorem Performing.holds {a : Action} {result : Except ClientError Outcome}
    (h : Performing c a events result c') (hheld : ∀ credential ∈ c.credential, P credential)
    (hgot : ∀ key token, .got key (.ok (some token)) ∈ events → P ⟨token⟩)
    (hput : ∀ d ∈ deposits events, P ⟨d.token⟩) : ∀ credential ∈ c'.credential, P credential := by
  have hacquired : ∀ {c₁ events₁ events₂ result c₂}, Acquiring c₁ events₁ result c₂ →
      c₁.credential = c.credential → events = events₁ ++ events₂ →
      ∀ credential ∈ c₂.credential, P credential := by
    rintro c₁ events₁ events₂ result c₂ hacquire hsame rfl
    refine hacquire.holds (hsame ▸ hheld)
      (fun key token hmem => hgot key token (List.mem_append_left _ hmem)) fun d hd => hput d ?_
    rw [deposits_append]
    exact List.mem_append_left _ hd
  cases h with
  | login h => exact h.holds hheld hgot hput
  | logout h =>
    cases h with
    | unchecked | nothing | unfound | noEndpoint | unforgotten => exact hheld
    | closed => exact fun _ h => nomatch h
  | misqueued | unencoded => exact hheld
  | queued h =>
    obtain ⟨_, rfl⟩ := Client.exists_of_withHeaders h
    exact hheld
  | request h =>
    cases h with
    | unacquired hacquire => exact hacquired hacquire rfl (List.append_nil _).symm
    | acquired hacquire hdeliver =>
      refine hdeliver.holds (hacquired hacquire rfl rfl) fun d hd => hput d ?_
      rw [deposits_append]
      exact List.mem_append_right _ hd
  | sendWith h =>
    cases h with
    | unacquired hacquire | unbuilt hacquire =>
      exact hacquired hacquire rfl (List.append_nil _).symm
    | sending hacquire => exact hacquired hacquire rfl rfl
  | pool h =>
    cases h with
    | unacquired hacquire => exact hacquired hacquire rfl (List.append_nil _).symm
    | dispatched hacquire => exact hacquired hacquire rfl rfl

end

/-! ## Clients whose credential fits -/

/-- The credential of a client fits into a header, if it has one. -/
def Client.IsFit (c : Client) : Prop :=
  ∀ credential ∈ c.credential, credential.IsFit

/-- What the store has handed out fits into a header. -/
def HandsOutFit (events : List Event) : Prop :=
  ∀ key token, .got key (.ok (some token)) ∈ events → (Credential.mk token).IsFit

section
variable {c c' : Client} {r : PendingRequest} {events : List Event}

/-- After an acquisition the credential fits. -/
theorem Acquiring.isFit {result : Except ClientError Unit} (h : Acquiring c events result c')
    (hc : c.IsFit) (hevents : HandsOutFit events) : c'.IsFit :=
  h.holds hc hevents h.deposits_fit

/-- After a renewal the credential fits. -/
theorem Renewing.isFit {result : Except ClientError Http.Response}
    (h : Renewing c r events result c') : c'.IsFit :=
  h.holds (c.composes_deposits_fit.renewing h)

/-- After every action the credential fits. -/
theorem Performing.isFit {a : Action} {result : Except ClientError Outcome}
    (h : Performing c a events result c') (hc : c.IsFit) (hevents : HandsOutFit events) :
    c'.IsFit :=
  h.holds hc hevents h.deposits_fit

/-- After an acquisition that has not failed there is a credential. -/
theorem Acquiring.isSome_credential (h : Acquiring c events (.ok ()) c') :
    c'.credential.isSome = true := by
  cases h with
  | held h => exact h
  | loggingIn _ hlogin =>
    cases hlogin with
    | reused => rfl
    | opening hopen =>
      cases hopen with
      | opened => rfl

end

/-! ## Calls that carry a token -/

/-- A call has the token of a credential in a header of its own. -/
def Call.CarriesToken (call : Call) (credential : Option Credential) : Prop :=
  ∃ c ∈ credential, Http.Header.cookie c.cookie ∈ call.request.headers

/-- A call is what a caller made of a draft that had the token of a client in a header of its own,
with the standing headers of the client. -/
def Call.IsMadeUnder (call : Call) (adjustments : List Adjustment) (c : Client) : Prop :=
  ∃ credential ∈ c.credential, ∃ headers request, .cookie credential.cookie ∈ headers ∧
    Adjustment.Make adjustments headers request ∧ call.request = c.complete request

/-- What a caller makes of a draft carries the token of the draft if the caller leaves it there. -/
theorem Call.IsMadeUnder.carriesToken {call : Call} {adjustments : List Adjustment} {c : Client}
    (h : call.IsMadeUnder adjustments c)
    (hkeeps : ∀ adjustment ∈ adjustments, ∀ credential ∈ c.credential,
      adjustment.Keeps (.cookie credential.cookie)) : call.CarriesToken c.credential := by
  obtain ⟨credential, hheld, headers, request, hmem, hmake, hcall⟩ := h
  refine ⟨credential, hheld, hcall ▸ List.mem_append_left _ ?_⟩
  exact hmake.mem hmem fun adjustment hadjustment => hkeeps adjustment hadjustment credential hheld

section
variable {c c' : Client} {r : PendingRequest} {events : List Event}

/-- A credential that fits is written into one header. -/
theorem Client.cookieHeaders_eq {credential : Credential} (h : credential.IsFit) :
    Client.cookieHeaders (some credential) = [.cookie credential.cookie] := by
  simp only [Client.cookieHeaders, Option.bind_some, Credential.IsFit.eq_1 _ ▸ h]
  rfl

/-- A credential that fits is written into a header. -/
theorem Client.mem_cookieHeaders {credential : Credential} (h : credential.IsFit) :
    Http.Header.cookie credential.cookie ∈ Client.cookieHeaders (some credential) := by
  rw [Client.cookieHeaders_eq h]
  exact List.mem_singleton_self _

/-- What is sent of a request with a token carries the token. -/
theorem Sending.carriesToken {purpose : Purpose} {request : Http.Request}
    {outcome : Except Http.Failure Http.Response} {credential : Credential}
    (h : Sending c purpose request events outcome)
    (hmem : Http.Header.cookie credential.cookie ∈ request.headers) :
    ∀ call ∈ calls events, call.CarriesToken (some credential) := by
  intro call hcall
  rw [h.eq_of_mem_calls hcall]
  exact ⟨credential, rfl, List.mem_append_left _ hmem⟩

/-- What is sent of what a caller made of a draft with the token is made of it. -/
theorem Sending.isMadeUnder {purpose : Purpose} {request : Http.Request}
    {outcome : Except Http.Failure Http.Response} {credential : Credential}
    {adjustments : List Adjustment} {headers : List Http.Header}
    (h : Sending c purpose request events outcome) (hheld : c.credential = some credential)
    (hmem : .cookie credential.cookie ∈ headers)
    (hmake : Adjustment.Make adjustments headers request) :
    ∀ call ∈ calls events, call.IsMadeUnder adjustments c := by
  intro call hcall
  rw [h.eq_of_mem_calls hcall]
  exact ⟨credential, hheld, headers, request, hmem, hmake, rfl⟩

/-- What is sent of a prepared request carries the token of the client. -/
theorem Dispatching.carriesToken {headers : List Http.Header}
    {result : Except ClientError Http.Response} (h : Dispatching c r headers events result)
    (hsome : c.credential.isSome = true) (hc : c.IsFit) :
    ∀ call ∈ calls events, call.CarriesToken c.credential := by
  obtain ⟨credential, hcredential⟩ := Option.isSome_iff_exists.1 hsome
  cases h with
  | noUrl => exact fun _ hcall => nomatch hcall
  | sending hprepare hsend =>
    obtain ⟨-, -, hheaders, -⟩ := Client.prepare_eq_ok hprepare
    rw [hcredential] at hheaders ⊢
    refine hsend.carriesToken (hheaders ▸ List.mem_append_right _ ?_)
    exact Client.mem_cookieHeaders (hc credential hcredential)

/-- The entries of a pool carry the token of the client. -/
theorem DispatchingAll.carriesToken
    {entries : List (PoolKey × Except EncodeError PendingRequest)}
    {results : List (PoolKey × Except ClientError Http.Response)}
    (h : DispatchingAll c entries events results) (hsome : c.credential.isSome = true)
    (hc : c.IsFit) : ∀ call ∈ calls events, call.CarriesToken c.credential := by
  intro call hcall
  obtain ⟨_, _, _, hsend, hmem⟩ := h.exists_dispatching hcall
  exact hsend.carriesToken hsome hc call hmem

/-- A replay carries the token of the renewed session, and a renewal is nothing but logins. -/
theorem Renewing.carriesToken {result : Except ClientError Http.Response}
    (h : Renewing c r events result c') :
    ∃ (renewal : List Call) (replay : Option Call), calls events = renewal ++ replay.toList ∧
      (∀ call ∈ renewal, call.purpose = .login) ∧
      ∀ call ∈ replay, call.CarriesToken c'.credential := by
  have hfit := h.isFit
  cases h with
  | unevicted hevict => exact ⟨[], none, hevict.calls_eq, by simp, by simp⟩
  | unopened hevict hopen =>
    refine ⟨_, none, ?_, fun call h => (hopen.logins.isLogin call h).1, fun _ h => nomatch h⟩
    simp [hevict.calls_eq]
  | replayed hevict hopen hreplay =>
    obtain ⟨replay, hcalls, -⟩ := hreplay.requestCall
    have hsome : c'.credential.isSome = true := by
      cases hopen with
      | opened => rfl
    refine ⟨_, replay, ?_, fun call h => (hopen.logins.isLogin call h).1, fun call h => ?_⟩
    · simp [hevict.calls_eq, hcalls]
    · refine hreplay.carriesToken hsome hfit call ?_
      rw [hcalls]
      exact Option.mem_toList.2 h

/-- A request that is delivered carries the token of the client, and a replay that of the renewed
session. -/
theorem Delivering.carriesToken {headers : List Http.Header}
    {result : Except ClientError Http.Response} (h : Delivering c r headers events result c')
    (hsome : c.credential.isSome = true) (hc : c.IsFit) :
    ∃ (business : Option Call) (renewal : List Call) (replay : Option Call),
      calls events = business.toList ++ renewal ++ replay.toList ∧
      (∀ call ∈ business, call.CarriesToken c.credential) ∧
      (∀ call ∈ renewal, call.purpose = .login) ∧
      ∀ call ∈ replay, call.CarriesToken c'.credential := by
  have hbusiness : ∀ {events result}, Dispatching c r headers events result →
      ∃ business : Option Call, calls events = business.toList ∧
        ∀ call ∈ business, call.CarriesToken c.credential := by
    intro events result hsend
    obtain ⟨business, hcalls, -⟩ := hsend.requestCall
    refine ⟨business, hcalls, fun call h => hsend.carriesToken hsome hc call ?_⟩
    rw [hcalls]
    exact Option.mem_toList.2 h
  cases h with
  | undelivered hsend | answered hsend =>
    obtain ⟨business, hcalls, hcarries⟩ := hbusiness hsend
    exact ⟨business, [], none, by simp [hcalls], hcarries, by simp, by simp⟩
  | renewed hsend _ hrenew =>
    obtain ⟨business, hcalls, hcarries⟩ := hbusiness hsend
    obtain ⟨renewal, replay, hcalls', hlogin, hreplay⟩ := hrenew.carriesToken
    exact ⟨business, renewal, replay, by simp [hcalls, hcalls'], hcarries, hlogin, hreplay⟩

end

/-! ## The session that a logout closes -/

section
variable {β σ : Type} [SessionStore σ] {s : Site β σ}

/-- What the store hands out to a client when it has been asked whether there is a token. -/
def Site.handedOut (s : Site β σ) : Except StoreError (Option String) :=
  (SessionStore.get (SessionStore.has s.store s.client.key.text).2 s.client.key.text).1

/-- The credential that a logout finds: that of the client, or else the one that the store hands
out. -/
def Site.found (s : Site β σ) : Option Credential :=
  s.client.credential <|> s.handedOut.toOption.join.map Credential.mk

/-- A client has no credential, and the store has a token for it when it is asked whether there is
one, and none when it is asked for it. -/
def Site.Misses (s : Site β σ) : Prop :=
  s.client.credential = none ∧
    (SessionStore.has s.store s.client.key.text).1 = .ok true ∧ s.handedOut = .ok none

/-- A logout uses the credential that it finds. -/
theorem FindingCredential.eq_found [Http.Backend β] {b : β} {m : σ} {events events' : List Event}
    {present : Except StoreError Bool} {result : Except StoreError (Option Credential)}
    {credential : Option Credential} (h : FindingCredential s.client events result)
    (hresult : result = .ok credential)
    (hhappens : Happens s.backend s.store
      (.checked s.client.key.text present :: (events ++ events')) b m) :
    credential = s.found := by
  cases h with
  | held h =>
    cases hresult
    rw [Site.found, h]
    rfl
  | @stored outcome h =>
    cases hhappens with
    | cons _ next =>
      have hget : outcome = s.handedOut := next.isTrue_head
      cases outcome with
      | error e => cases hresult
      | ok token? =>
        cases hresult
        rw [Site.found, h, ← hget]
        rfl

end

section
variable {β σ : Type} [ReliableStore σ] {s : Site β σ}

/-- The credential of the session that a logout closes: that of the client, or else the token
that is stored under its key. -/
def Site.closing (s : Site β σ) : Option Credential :=
  s.client.credential <|> (ReliableStore.kept s.store s.client.key.text).map Credential.mk

/-- The session that a logout closes has a token that fits. -/
theorem Site.isFit_of_closing (hc : s.client.IsFit) (hm : ReliableStore.AllFit s.store)
    {credential : Credential} (h : s.closing = some credential) : credential.IsFit := by
  unfold closing at h
  cases hheld : s.client.credential with
  | some held =>
    rw [hheld] at h
    cases h
    exact hc credential hheld
  | none =>
    rw [hheld] at h
    cases hkept : ReliableStore.kept s.store s.client.key.text with
    | none =>
      rw [hkept] at h
      cases h
    | some token =>
      rw [hkept] at h
      cases h
      exact hm _ token hkept

/-- Where the store says that it has a token, the credential that a logout finds is that of the
session it closes, or the store has lost its token since. -/
theorem Site.found_eq (hhas : (SessionStore.has s.store s.client.key.text).1 = .ok true) :
    (∃ credential, s.found = some credential ∧ s.closing = some credential) ∨ s.Misses := by
  unfold found closing Misses
  cases hheld : s.client.credential with
  | some held => exact .inl ⟨held, rfl, rfl⟩
  | none =>
    obtain ⟨token?, hget, hkept⟩ := ReliableStore.get_ok
      (SessionStore.has s.store s.client.key.text).2 s.client.key.text
    rw [handedOut, hget]
    cases token? with
    | none => exact .inr ⟨rfl, hhas, rfl⟩
    | some token =>
      refine .inl ⟨⟨token⟩, rfl, ?_⟩
      rcases ReliableStore.kept_has s.store s.client.key.text s.client.key.text with h | h
      · rw [← h, hkept token rfl]
        rfl
      · cases h.symm.trans (hkept token rfl)

end

/-- A store whose tokens do not expire between two questions does not lose one. -/
theorem Site.not_misses {β σ : Type} [SteadyStore σ] (s : Site β σ) : ¬ s.Misses := by
  rintro ⟨-, hhas, hget⟩
  obtain ⟨token, htoken⟩ := SteadyStore.get_has s.store s.client.key.text hhas
  cases hget.symm.trans htoken

/-- A store in memory loses a token just if the token expires between the two questions. -/
theorem Site.misses_iff {β : Type} (s : Site β ClockedStore) :
    s.Misses ↔ s.client.credential = none ∧
      ∃ entry, s.store.memory.find? s.client.key.text = some entry ∧
        s.store.clock.read.1 < entry.expiresAt ∧
        ¬ s.store.clock.read.2.read.1 < entry.expiresAt := by
  have hhas : (SessionStore.has s.store s.client.key.text).1 =
      .ok (s.store.memory.getAt s.store.clock.read.1 s.client.key.text).1.isSome := rfl
  have hget : s.handedOut =
      .ok ((s.store.memory.getAt s.store.clock.read.1 s.client.key.text).2.getAt
        s.store.clock.read.2.read.1 s.client.key.text).1 := rfl
  rw [Misses, hhas, hget, MemoryStore.getAt_fst, MemoryStore.getAt_fst, MemoryStore.find?_getAt,
    if_pos rfl]
  cases s.store.memory.find? s.client.key.text with
  | none => simp
  | some entry =>
    cases hlive : entry.isLiveAt s.store.clock.read.1 <;>
      simp_all [StoredToken.isLiveAt, Option.filter]

/-! ## Actions that carry tokens -/

section
variable {β σ : Type} [Http.Backend β] [ReliableStore σ] {s : Site β σ} {b : β} {m : σ}
  {c' : Client} {events : List Event}

/-- The calls of an action carry the token that the client uses when it makes them: a request that
of the session that was acquired for it, its replay that of the renewed session, which the client
has in the end, and a logout that of the session it closes, if this is not lost. What a caller makes
of a draft is made of one that carries the token, and carries it if the caller keeps it there. All
other calls are logins. -/
def Action.CarriesTokens (s : Site β σ) (last : Client) : Action → List Call → Prop
  | .request (.ok _), l => ∃ (first : List Call) (business : Option Call) (renewal : List Call)
      (replay : Option Call), l = first ++ business.toList ++ renewal ++ replay.toList ∧
      (∀ call ∈ first ++ renewal, call.purpose = .login) ∧
      (∀ call ∈ business, call.CarriesToken s.acquired.client.credential) ∧
      ∀ call ∈ replay, call.CarriesToken last.credential
  | .sendWith _ _ adjustments, l => ∀ call ∈ l, call.purpose = .login ∨
      call.IsMadeUnder adjustments last ∧
        ((∀ adjustment ∈ adjustments, ∀ credential ∈ last.credential,
          adjustment.Keeps (.cookie credential.cookie)) → call.CarriesToken last.credential)
  | .logout, l => ∀ call ∈ l, call.CarriesToken s.closing ∨ s.Misses
  | _, l => ∀ call ∈ l, call.purpose = .login ∨ call.CarriesToken last.credential

/-- A logout carries the token of the session that it closes, if the store has not lost it. -/
theorem LoggingOut.carriesToken {result : Except ClientError Unit}
    (h : LoggingOut s.client events result c') (hhappens : Happens s.backend s.store events b m)
    (hc : s.client.IsFit) (hm : ReliableStore.AllFit s.store) :
    ∀ call ∈ calls events, call.CarriesToken s.closing ∨ s.Misses := by
  cases h with
  | unchecked | nothing => exact fun _ hcall => nomatch hcall
  | unfound hfind | noEndpoint hfind => simp [hfind.calls_eq]
  | unforgotten hfind _ hsend | closed hfind _ hsend =>
    rw [List.append_assoc] at hhappens
    obtain rfl := hfind.eq_found rfl hhappens
    rcases s.found_eq hhappens.isTrue_head.symm with ⟨credential, hfound, hclosing⟩ | hmisses
    · have hmem := Client.mem_cookieHeaders (s.isFit_of_closing hc hm hclosing)
      rw [hfound] at hsend
      have hcarries := hsend.carriesToken hmem
      simpa [hfind.calls_eq, hclosing] using fun call hcall => Or.inl (hcarries call hcall)
    · exact fun _ _ => .inr hmisses

/-- A request carries the token of the session that is acquired for it, and a replay that of the
renewed session. -/
theorem Site.perform_request_carriesTokens (hc : s.client.IsFit)
    (hm : ReliableStore.AllFit s.store) (r : PendingRequest) :
    ∃ events, (s.perform (.request (.ok r))).2.trace = s.trace ++ events ∧
      Action.CarriesTokens s (s.perform (.request (.ok r))).2.client (.request (.ok r))
        (calls events) := by
  have hperform : (s.perform (.request (.ok r))).2 = ((Operation.sendPending r).run s).2 := by
    simp only [perform, Action.perform, Operation.request, Operation.run_map, Operation.run_bind,
      Operation.run_require, mapError_ok]
  obtain ⟨events, result, hacquire, hpass, hrun⟩ := Operation.run_sendPending r s
  have hlogins : ∀ call ∈ calls events, call.purpose = .login :=
    fun call h => (hacquire.logins.isLogin call h).1
  rw [hperform, hrun]
  cases result with
  | error e =>
    exact ⟨events, hpass.trace_eq, calls events, none, [], none, by simp, by simpa, by simp,
      by simp⟩
  | ok =>
    have hgot := (hpass.happens.allFit hm hacquire.deposits_fit).2
    have hfit := hacquire.isFit (c := s.client.unqueued) hc hgot
    obtain ⟨events', result, s', hrun', hdeliver, hpass'⟩ :=
      Operation.deliver_following r s.client.queued s.acquired
    obtain ⟨business, renewal, replay, hcalls, hbusiness, hrenewal, hreplay⟩ :=
      hdeliver.carriesToken hacquire.isSome_credential hfit
    simp only [hrun']
    refine ⟨events ++ events', (hpass.trans hpass').trace_eq, calls events, business, renewal,
      replay, by simp [hcalls], ?_, hbusiness, hreplay⟩
    intro call hcall
    rcases List.mem_append.1 hcall with hcall | hcall
    · exact hlogins call hcall
    · exact hrenewal call hcall

/-- Whatever an action other than a request calls carries the token of the client, unless it is a
login. -/
theorem Performing.carriesTokens {a : Action} {result : Except ClientError Outcome}
    (h : Performing s.client a events result c') (hhappens : Happens s.backend s.store events b m)
    (hc : s.client.IsFit) (hm : ReliableStore.AllFit s.store)
    (ha : ∀ r, a ≠ .request (.ok r)) : a.CarriesTokens s c' (calls events) := by
  have hfit := h.isFit hc (hhappens.allFit hm h.deposits_fit).2
  have hacquired : ∀ {c events result}, Acquiring c events result c' →
      ∀ call ∈ calls events, call.purpose = .login ∨ call.CarriesToken c'.credential :=
    fun hacquire call hcall => .inl (hacquire.logins.isLogin call hcall).1
  cases h with
  | login h => exact fun call hcall => .inl (h.logins.isLogin call hcall).1
  | logout h => exact h.carriesToken hhappens hc hm
  | misqueued | queued | unencoded => exact fun _ hcall => nomatch hcall
  | request => exact absurd rfl (ha _)
  | sendWith h =>
    cases h with
    | unacquired hacquire | unbuilt hacquire =>
      exact fun call hcall => .inl (hacquire.logins.isLogin call hcall).1
    | sending hacquire hbuild hsend =>
      obtain ⟨credential, hcredential⟩ := Option.isSome_iff_exists.1 hacquire.isSome_credential
      have hmem := Client.mem_cookieHeaders (hfit credential hcredential)
      have hmake := Client.make_of_adjusted hbuild
      rw [hcredential] at hmake
      intro call hcall
      rw [calls_append, List.mem_append] at hcall
      rcases hcall with hcall | hcall
      · exact .inl (hacquire.logins.isLogin call hcall).1
      · have hmade := hsend.isMadeUnder hcredential (List.mem_append_right _ hmem) hmake call hcall
        exact .inr ⟨hmade, hmade.carriesToken⟩
  | pool h =>
    cases h with
    | unacquired hacquire => exact hacquired hacquire
    | dispatched hacquire hall =>
      intro call hcall
      rw [calls_append, List.mem_append] at hcall
      rcases hcall with hcall | hcall
      · exact hacquired hacquire call hcall
      · refine .inr (hall.carriesToken hacquire.isSome_credential hfit call ?_)
        simpa using hcall

/-- Whatever a client sends carries the token that the client uses at that moment, if what the
client holds and the store keeps fits into a header. -/
theorem Site.perform_carriesTokens (hc : s.client.IsFit) (hm : ReliableStore.AllFit s.store)
    (a : Action) :
    ∃ events, (s.perform a).2.trace = s.trace ++ events ∧
      a.CarriesTokens s (s.perform a).2.client (calls events) := by
  by_cases ha : ∃ r, a = .request (.ok r)
  · obtain ⟨r, rfl⟩ := ha
    exact s.perform_request_carriesTokens hc hm r
  · obtain ⟨events, hcourse, hpass⟩ := s.perform_following a
    exact ⟨events, hpass.trace_eq,
      hcourse.carriesTokens hpass.happens hc hm fun r h => ha ⟨r, h⟩⟩

/-- Every action leaves a client and a store whose tokens fit into a header if they were so. -/
theorem Site.perform_isFit (hc : s.client.IsFit) (hm : ReliableStore.AllFit s.store) (a : Action) :
    (s.perform a).2.client.IsFit ∧ ReliableStore.AllFit (s.perform a).2.store := by
  obtain ⟨events, hcourse, hpass⟩ := s.perform_following a
  obtain ⟨hstore, hgot⟩ := hpass.happens.allFit hm hcourse.deposits_fit
  exact ⟨hcourse.isFit hc hgot, hstore⟩

end

/-! ## Runs -/

namespace Scenario

section
variable {β σ : Type} [ReliableStore σ]

/-- All clients use the shared store, and what they hold and it keeps fits into a header. -/
structure AllFit (x : Scenario β σ) : Prop where
  shared : ReliableStore.AllFit x.shared
  participants : ∀ entry ∈ x.participants, entry.2.own = none ∧ entry.2.client.IsFit

variable {x : Scenario β σ} {p : Participant σ} {name : String}

/-- Taking a client out leaves the others as they are. -/
theorem AllFit.dismiss (h : x.AllFit) (name : String) : (x.dismiss name).AllFit :=
  ⟨h.shared, fun entry hmem => h.participants entry (List.mem_filter.1 hmem).1⟩

/-- A client that is entered with a credential that fits changes nothing for the others. -/
theorem AllFit.enrol (h : x.AllFit) (name : String) {client : Client} (hc : client.IsFit) :
    (x.enrol name ⟨client, none⟩).AllFit := by
  refine ⟨h.shared, fun entry hmem => ?_⟩
  rcases List.mem_cons.1 hmem with rfl | hmem
  · exact ⟨rfl, hc⟩
  · exact (h.dismiss name).participants entry hmem

/-- The site of a client is that of its tokens and those of the shared store. -/
theorem AllFit.participant (h : x.AllFit) (hp : x.participant? name = some p) :
    p.own = none ∧ p.client.IsFit := by
  obtain ⟨l₁, l₂, hlist, -⟩ := List.lookup_eq_some_iff.1 hp
  exact h.participants (name, p) (hlist ▸ List.mem_append_right _ List.mem_cons_self)

variable [Http.Backend β]

/-- What fits still fits after a client has acted. -/
theorem AllFit.act (h : x.AllFit) (hp : x.participant? name = some p) (a : Action) :
    (x.act name p a).2.AllFit := by
  obtain ⟨client, own⟩ := p
  obtain ⟨rfl, hc⟩ := h.participant hp
  obtain ⟨hc', hm'⟩ := (x.site ⟨client, none⟩).perform_isFit hc h.shared a
  have hentered := h.enrol name hc'
  exact ⟨hm', hentered.participants⟩

/-- In every run from a store in which everything fits, everything that is held or kept fits into a
header. -/
theorem run_allFit (b : β) {m : σ} (hm : ReliableStore.AllFit m) (commands : List Command) :
    (run ⟨b, m, []⟩ commands).AllFit := by
  have hstart : AllFit ⟨b, m, []⟩ := ⟨hm, fun _ h => nomatch h⟩
  refine run_induction (fun x name p a hp h => h.act hp a) (fun x name h => h.dismiss name) ?_
    commands hstart
  intro x name setup fresh client notices hbuild h
  refine h.enrol name fun credential hcredential => ?_
  rw [(ClientSetup.builds hbuild).credential_eq] at hcredential
  cases hcredential

end

/-- Notices are no calls. -/
theorem calls_map_noted (notices : List Notice) : calls (notices.map Event.noted) = [] := by
  induction notices with
  | nil => rfl
  | cons notice notices ih => exact ih

/-- Building a client calls nobody but to log in. -/
theorem purpose_of_mem_build {β σ : Type} [Http.Backend β] [SessionStore σ] (x : Scenario β σ)
    (name : String) (setup : ClientSetup) (fresh : Generator) (connect : Bool) :
    ∀ call ∈ calls (x.build name setup none fresh connect).1.trace, call.purpose = .login := by
  have hlogin : ∀ p : Participant σ,
      ∀ call ∈ calls (x.act name p .login).1.trace, call.purpose = .login := by
    intro p call hcall
    obtain ⟨events, hcourse, hpass⟩ := (x.site p).perform_following .login
    have hevents : (x.act name p .login).1.trace = events :=
      hpass.trace_eq.trans (List.nil_append events)
    rw [hevents] at hcall
    generalize ((x.site p).perform .login).1 = result at hcourse
    cases hcourse with
    | login hlogin => exact (hlogin.logins.isLogin call hcall).1
  intro call hcall
  unfold build at hcall
  cases hbuild : setup.build fresh with
  | error e =>
    rw [hbuild] at hcall
    cases hcall
  | ok built =>
    obtain ⟨client, notices⟩ := built
    rw [hbuild] at hcall
    cases connect with
    | false =>
      change call ∈ calls (notices.map Event.noted) at hcall
      rw [calls_map_noted] at hcall
      cases hcall
    | true =>
      simp only [reduceIte] at hcall
      split at hcall
      all_goals
        rw [calls_append, calls_map_noted, List.nil_append] at hcall
        exact hlogin _ call hcall

/-- Of clients that are built on one store in memory, which was empty, everything that a client
holds or the store keeps is accepted as the value of a header; and whatever a client sends besides
logins carries the token that it uses at that moment, or is made of a draft that carries it, or is a
logout whose token is lost. The store loses it just if the token expires between the two readings of
its clock. -/
theorem run_carriesTokens {β : Type} [Http.Backend β] (b : β) (clock : Clock)
    (commands : List Command) :
    let x := run ⟨b, ClockedStore.empty clock, []⟩ commands
    (∀ key entry, x.shared.memory.find? key = some entry →
      (Credential.mk entry.token).headerValue? = some entry.token) ∧
    (∀ name p, x.participant? name = some p →
      (∀ credential ∈ p.client.credential, credential.headerValue? = some credential.cookie) ∧
      (∀ a : Action, a.CarriesTokens (x.site p) ((x.site p).perform a).2.client
        (calls (x.act name p a).1.trace)) ∧
      ((x.site p).Misses ↔ p.client.credential = none ∧
        ∃ entry, x.shared.memory.find? p.client.key.text = some entry ∧
          x.shared.clock.read.1 < entry.expiresAt ∧
          ¬ x.shared.clock.read.2.read.1 < entry.expiresAt)) ∧
    ∀ name setup fresh connect, ∀ call ∈ calls (x.build name setup none fresh connect).1.trace,
      call.purpose = .login := by
  intro x
  have hempty : ReliableStore.AllFit (ClockedStore.empty clock) := fun _ _ h => nomatch h
  have hfit : x.AllFit := run_allFit b hempty commands
  refine ⟨fun key entry hfind => ?_, fun name p hp => ?_, x.purpose_of_mem_build⟩
  · exact hfit.shared key entry.token (congrArg (Option.map StoredToken.token) hfind)
  · obtain ⟨client, own⟩ := p
    obtain ⟨rfl, hc⟩ := hfit.participant hp
    refine ⟨hc, fun a => ?_, (x.site ⟨client, none⟩).misses_iff⟩
    obtain ⟨events, htrace, hcarries⟩ :=
      (x.site ⟨client, none⟩).perform_carriesTokens hc hfit.shared a
    have hevents : (x.act name ⟨client, none⟩ a).1.trace = events :=
      htrace.trans (List.nil_append events)
    rw [hevents]
    exact hcarries

end Scenario

/-- The settings of an identity on a server without TLS. -/
def Config.plainSample : Config :=
  { Config.sample with server := "http://sl.example/b1s/v1/" }

/-- A backend that rejects the session of the first request for items. -/
def ScriptedBackend.forgetful : ScriptedBackend where
  rules := [
    ⟨none, some "/b1s/v1/Login", none, none,
      .response 200 ["B1SESSION=a; path=/b1s/v1; HttpOnly"] (some [])⟩,
    ⟨none, some "/b1s/v1/Items", none, some 1, .response 401 [] (some [])⟩,
    ⟨none, some "/b1s/v1/Items", none, none, .response 200 [] (some [])⟩]
  refusals := 0
  linked := true

/-- A client that is built and logged in sends its request and a replay of it, both with its
token. -/
theorem Scenario.run_carriesTokens_forgetful :
    ∃ (x : Scenario ScriptedBackend ClockedStore) (p : Participant ClockedStore),
      x = Scenario.run ⟨.forgetful, .empty (.still .origin), []⟩
        [.build "c" (.ofConfig .plainSample) (.ofSeed 0) true] ∧
      x.participant? "c" = some p ∧
      (calls (x.act "c" p (.request (.ok (.get "Items")))).1.trace).length = 3 ∧
      Action.CarriesTokens (x.site p)
        ((x.site p).perform (.request (.ok (.get "Items")))).2.client
        (.request (.ok (.get "Items")))
        (calls (x.act "c" p (.request (.ok (.get "Items")))).1.trace) := by
  let commands : List Command := [.build "c" (.ofConfig .plainSample) (.ofSeed 0) true]
  let x : Scenario ScriptedBackend ClockedStore :=
    Scenario.run ⟨.forgetful, .empty (.still .origin), []⟩ commands
  have h : (x.participant? "c").any (fun p =>
      (calls (x.act "c" p (.request (.ok (.get "Items")))).1.trace).length = 3) = true := by
    decide +kernel
  obtain ⟨p, hp, hcalls⟩ := (Option.any_eq_true _ _).1 h
  have hcarries := Scenario.run_carriesTokens ScriptedBackend.forgetful (.still .origin) commands
  exact ⟨x, p, rfl, hp, of_decide_eq_true hcalls, (hcarries.2.1 "c" p hp).2.1 _⟩

/-- A clock that shows its start twice, and then the last moment before and the first moment after a
token of that time has expired. -/
def Clock.passing : Clock where
  now := .origin
  upcoming := [.origin, .origin, ⟨1799 * nanosecondsPerSecond, by decide⟩,
    ⟨1800 * nanosecondsPerSecond, by decide⟩]
  ascending := by decide

/-- What is sent for an action, and the cookies on it. -/
def StepReport.cookies (r : StepReport Outcome) : List (Purpose × List Http.Header) :=
  (calls r.trace).map fun call =>
    (call.purpose, call.request.headers.filter (·.name = "cookie"))

/-- Two clients are built on one slot, and the first one logs in. The second one logs out with no
cookie where the token expires just then. The first one sends a request with no cookie where the
caller takes it away, and with two of them where the caller adds another one. -/
theorem Scenario.sent_without_cookie :
    ∃ (x : Scenario ScriptedBackend ClockedStore) (p q : Participant ClockedStore),
      x = Scenario.run ⟨.forgetful, .empty .passing, []⟩
        [.build "a" (.ofConfig .plainSample) (.ofSeed 0) true,
          .build "b" (.ofConfig .plainSample) (.ofSeed 0) false] ∧
      x.participant? "a" = some p ∧ x.participant? "b" = some q ∧
      (∃ entry, x.shared.memory.find? q.client.key.text = some entry ∧
        entry.token = "B1SESSION=a") ∧
      (x.act "b" q .logout).1.cookies = [(.logout, [])] ∧
      p.client.credential = some ⟨"B1SESSION=a"⟩ ∧
      (x.act "a" p (.sendWith .get "Items"
        [.custom fun draft => .ok { draft with headers := [] }])).1.cookies =
        [(.business, [])] ∧
      (x.act "a" p (.sendWith .get "Items" [.header "Cookie" "B1SESSION=mine"])).1.cookies =
        [(.business, [.cookie "B1SESSION=a", .cookie "B1SESSION=mine"])] := by
  let x : Scenario ScriptedBackend ClockedStore :=
    Scenario.run ⟨.forgetful, .empty .passing, []⟩
      [.build "a" (.ofConfig .plainSample) (.ofSeed 0) true,
        .build "b" (.ofConfig .plainSample) (.ofSeed 0) false]
  have h : (x.participant? "a").any (fun p => (x.participant? "b").any fun q =>
      (x.shared.memory.token? q.client.key.text) = some "B1SESSION=a" ∧
      (x.act "b" q .logout).1.cookies = [(.logout, [])] ∧
      p.client.credential = some ⟨"B1SESSION=a"⟩ ∧
      (x.act "a" p (.sendWith .get "Items"
        [.custom fun draft => .ok { draft with headers := [] }])).1.cookies =
        [(.business, [])] ∧
      (x.act "a" p (.sendWith .get "Items" [.header "Cookie" "B1SESSION=mine"])).1.cookies =
        [(.business, [.cookie "B1SESSION=a", .cookie "B1SESSION=mine"])]) = true := by
    decide +kernel
  obtain ⟨p, hp, h⟩ := (Option.any_eq_true _ _).1 h
  obtain ⟨q, hq, h⟩ := (Option.any_eq_true _ _).1 h
  obtain ⟨htoken, hsent⟩ := of_decide_eq_true h
  exact ⟨x, p, q, rfl, hp, hq, Option.map_eq_some_iff.1 htoken, hsent⟩

end ODataSession
