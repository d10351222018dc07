import ODataSession.Proofs.Client.Course

/-!
# Runs follow courses

Every run of an operation goes one of the ways that `ODataSession.Proofs.Client.Course` lists, and
the events it lets pass have the outcomes that the backend and the store give
(`Site.perform_following`). The proofs open a run from the left, and each case of a run ends in one
constructor. The login is an induction on its fuel: attempts that are made and fuel that is left
are together as many as the policy allows, so that the fuel is used up only at an attempt behind
which the policy grants no pause.
-/

namespace ODataSession

/-- The policy allows as many attempts as it says, and at least one. -/
theorem LoginRetry.toNat_limit (r : LoginRetry) : r.limit.toNat = max r.attempts.toNat 1 := by
  change (if r.attempts ≤ 1 then 1 else r.attempts).toNat = _
  split
  · next h => exact (Nat.max_eq_right (UInt32.le_iff_toNat_le.1 h)).symm
  · next h =>
    have := UInt32.lt_iff_toNat_lt.1 (UInt32.not_le.1 h)
    exact (Nat.max_eq_left (Nat.le_of_lt this)).symm

/-- The site of a client that has acquired a session for a request, or has failed to. -/
def Site.acquired {β σ : Type} [Http.Backend β] [SessionStore σ] (s : Site β σ) : Site β σ :=
  (Operation.ensureSession.run { s with client := s.client.unqueued }).2

namespace Operation

section
variable {β σ : Type}

/-- A refusal changes the client and fails. -/
theorem run_refuse (response : Http.Response) (refusal : LoginRefusal) (s : Site β σ) :
    (refuse response refusal : Operation β σ Unit).run s =
      (.error (.authentication s.client.slot response.status refusal),
        { s with client := s.client.withoutCredential .failed }) :=
  rfl

/-- The queued headers are taken away from the client. -/
theorem run_takeHeaders (s : Site β σ) :
    (takeHeaders : Operation β σ _).run s =
      (.ok s.client.queued, { s with client := s.client.unqueued }) :=
  rfl

end

section
variable {β σ α : Type} [Http.Backend β] [SessionStore σ]

/-- An operation whose every run is one of some courses. -/
def Follows (op : Operation β σ α) (P : Course α) : Prop :=
  ∀ s : Site β σ, ∃ events result s', op.run s = (result, s') ∧
    P s.client events result s'.client ∧ s.Passes events s'

/-- A request goes out or cannot be written, and never fails. -/
theorem send_following (purpose : Purpose) (request : Http.Request) (s : Site β σ) :
    ∃ events outcome s', (send purpose request : Operation β σ _).run s = (.ok outcome, s') ∧
      s'.client = s.client ∧ Sending s.client purpose request events outcome ∧
      s.Passes events s' := by
  rw [run_send]
  cases h : Http.isSendable request.url with
  | false => exact ⟨[], _, s, rfl, rfl, .unsendable h, .refl s⟩
  | true => exact ⟨_, _, _, rfl, rfl, .sent h, (Site.Passes.refl s).after rfl⟩

/-! ## Sessions -/

/-- A login that is given up lets one notice pass and leaves a client that has failed. -/
theorem run_abandonLogin (attempt : UInt32) (failure : Http.Failure) (s : Site β σ) :
    (abandonLogin attempt failure : Operation β σ α).run s =
      (.error (.transport failure),
        { s.after (.noted (s.client.abandonment attempt failure)) with
          client := s.client.failed }) :=
  rfl

/-- A login from some attempt on follows its courses. -/
theorem sendLogin_following (request : Http.Request) (attempt : UInt32) (s : Site β σ) :
    ∃ events result s', (sendLogin s.client request attempt : Operation β σ _).run s =
        (result.mapError .transport, s') ∧
      s'.client = (match result with | .ok _ => s.client | .error _ => s.client.failed) ∧
      Attempting s.client request attempt events result ∧ s.Passes events s' := by
  obtain ⟨c, hc⟩ : ∃ c, s.client = c := ⟨_, rfl⟩
  -- By induction on the attempts that the policy leaves, along the recursion of `sendLogin`.
  induction attempt using sendLogin.induct c generalizing s with
  | case1 attempt ih =>
    obtain ⟨events, outcome, s₁, hrun, hclient, hsend, hpass⟩ :=
      send_following .login request s
    rw [sendLogin, run_bind, hrun]
    cases outcome with
    | ok response =>
      exact ⟨events, .ok (response, attempt), s₁, rfl, hclient, .answered hsend, hpass⟩
    | error failure =>
      dsimp only
      split
      · next delay hdelay =>
        let s₂ := (s₁.after (.noted (.attemptFailed s.client.slot attempt failure delay))).after
          (.paused delay)
        have hclient₂ : s₂.client = s.client := hclient
        obtain ⟨events', result, s', hrun', hclient', hcourse, hpass'⟩ :=
          ih failure delay (hc ▸ hdelay) s₂ (hclient₂.trans hc)
        rw [hclient₂] at hrun' hclient' hcourse
        refine ⟨_, result, s', ?_, hclient', .repeated hsend hdelay hcourse, ?_⟩
        · simp only [run_bind, run_note, run_pause]
          exact hrun'
        · simpa using ((hpass.noted _).paused delay).trans hpass'
      · next hdelay =>
        refine ⟨_, .error failure, _, ?_, ?_, .abandoned hsend hdelay,
          (hpass.noted _).updated s₁.client.failed⟩
        · rw [← hclient]
          exact run_abandonLogin attempt failure s₁
        · exact congrArg Client.failed hclient

/-- What is made of the answer to a login. -/
def concludeLogin (c : Client) (response : Http.Response) (attempt : UInt32) :
    Operation β σ Unit := do
  if response.status.isSuccess then
    match Credential.ofSetCookie? response.setCookie with
    | none =>
      note (.cookieMissing c.slot)
      refuse response .noCookie
    | some credential =>
      match ← keep c.key.text credential.cookie c.config.cacheTtl.toNat with
      | .error e =>
        note (.cachingFailed c.slot (.store e))
        update Client.failed
        throw (.store e)
      | .ok () =>
        note (.established c.slot attempt)
        update (·.adopt credential)
  else
    note (.loginRejected c.slot response.status)
    refuse response (refusalOf response)

/-- A session is opened by sending the login and concluding from the answer. -/
theorem openSession_eq :
    (openSession : Operation β σ Unit) = (do
      let c ← client
      let url ← require .invalidUrl (c.base.endpoint Client.loginPath)
      let answer ← sendLogin c (c.loginRequest url) 1
      concludeLogin c answer.1 answer.2) :=
  rfl

/-- An answer to a login leads to one of the courses of `Opening` that have an answer. -/
theorem concludeLogin_following {s s₁ : Site β σ} {url : Url} {events : List Event}
    {response : Http.Response} {attempt : UInt32} (hclient : s₁.client = s.client)
    (hurl : s.client.base.endpoint Client.loginPath = .ok url)
    (hlogin : Attempting s.client (s.client.loginRequest url) 1 events (.ok (response, attempt)))
    (hpass : s.Passes events s₁) :
    ∃ events' result s', (concludeLogin s.client response attempt : Operation β σ _).run s₁ =
        (result, s') ∧
      Opening s.client events' result s'.client ∧ s.Passes events' s' := by
  unfold concludeLogin
  cases hstatus : response.status.isSuccess with
  | false =>
    refine ⟨_, _, _, ?_, .rejected hurl hlogin hstatus,
      (hpass.noted _).updated (s.client.withoutCredential .failed)⟩
    simp only [Bool.false_eq_true, reduceIte, run_bind, run_note, run_refuse, Site.client_after,
      hclient]
  | true =>
    cases hcookie : Credential.ofSetCookie? response.setCookie with
    | none =>
      refine ⟨_, _, _, ?_, .cookieless hurl hlogin hstatus hcookie,
        (hpass.noted _).updated (s.client.withoutCredential .failed)⟩
      simp only [reduceIte, run_bind, run_note, run_refuse, Site.client_after, hclient]
    | some credential =>
      simp only [reduceIte, run_bind, run_keep]
      cases hput : (SessionStore.put s₁.store s.client.key.text credential.cookie
          (.ofSeconds s.client.config.cacheTtl.toNat)).1 with
      | error e =>
        refine ⟨_, _, _, ?_, .unstored hurl hlogin hstatus hcookie,
          (hpass.after_noted (Event.isTrue_put hput) _).updated s.client.failed⟩
        simp only [run_bind, run_note, run_update, run_throw, Site.client_after, hclient]
      | ok =>
        refine ⟨_, _, _, ?_, .opened hurl hlogin hstatus hcookie,
          (hpass.after_noted (Event.isTrue_put hput) _).updated (s.client.adopt credential)⟩
        simp only [run_bind, run_note, run_update, Site.client_after, hclient]

/-- A new session is opened in one of the courses of `Opening`. -/
theorem openSession_following : (openSession : Operation β σ Unit).Follows Opening := by
  intro s
  rw [openSession_eq]
  cases hurl : s.client.base.endpoint Client.loginPath with
  | error e =>
    refine ⟨[], .error (.invalidUrl e), s, ?_, .noEndpoint hurl, .refl s⟩
    simp only [run_bind, run_client, run_require, hurl, mapError_error]
  | ok url =>
    obtain ⟨events, result, s₁, hrun, hclient, hlogin, hpass⟩ :=
      sendLogin_following (s.client.loginRequest url) 1 s
    simp only [run_bind, run_client, run_require, hurl, mapError_ok, hrun]
    cases result with
    | error failure => exact ⟨events, _, s₁, rfl, hclient ▸ .unreached hurl hlogin, hpass⟩
    | ok answer => exact concludeLogin_following hclient hurl hlogin hpass

/-- A session is taken from the store or opened in one of the courses of `LoggingIn`. -/
theorem login_following : (login : Operation β σ Unit).Follows LoggingIn := by
  intro s
  simp only [login, run_bind, run_client, run_lookUp, run_require]
  cases hget : (SessionStore.get s.store s.client.key.text).1 with
  | error e => exact ⟨_, _, _, rfl, .unanswered, (Site.Passes.refl s).after (Event.isTrue_got hget)⟩
  | ok token? =>
    have hpass := (Site.Passes.refl s).after (Event.isTrue_got hget)
    cases token? with
    | some token =>
      refine ⟨_, _, _, ?_, .reused,
        (hpass.noted (.reused s.client.slot)).updated (s.client.adopt ⟨token⟩)⟩
      simp only [mapError_ok, run_bind, run_note, run_update, Site.client_after]
    | none =>
      have hpass₁ := hpass.noted (.loggingIn s.client.slot)
      obtain ⟨events, result, s', hrun, hopen, hpass'⟩ := openSession_following
        ((s.after (.got s.client.key.text (.ok none))).after (.noted (.loggingIn s.client.slot)))
      refine ⟨_, result, s', ?_, .opening hopen, hpass₁.trans hpass'⟩
      simp only [mapError_ok, run_bind, run_note, hrun]

/-- A session is held or acquired in one of the courses of `Acquiring`. -/
theorem ensureSession_following : (ensureSession : Operation β σ Unit).Follows Acquiring := by
  intro s
  simp only [ensureSession, run_bind, run_client]
  cases h : s.client.credential with
  | some credential => exact ⟨[], _, s, rfl, .held (by rw [h]; rfl), .refl s⟩
  | none =>
    obtain ⟨events, result, s', hrun, hlogin, hpass⟩ := login_following s
    exact ⟨events, result, s', hrun, .loggingIn h hlogin, hpass⟩

/-! ## Closing sessions -/

/-- The credential of the session to be closed is held or looked up, and the client stays. -/
theorem credentialToClose_following (s : Site β σ) :
    ∃ events result s', (credentialToClose : Operation β σ _).run s =
        (result.mapError .store, s') ∧
      s'.client = s.client ∧ FindingCredential s.client events result ∧ s.Passes events s' := by
  simp only [credentialToClose, run_bind, run_client]
  cases h : s.client.credential with
  | some credential => exact ⟨[], .ok (some credential), s, rfl, rfl, .held h, .refl s⟩
  | none =>
    refine ⟨_, _, s.after (.got s.client.key.text (SessionStore.get s.store s.client.key.text).1),
      ?_, rfl, .stored h, (Site.Passes.refl s).after rfl⟩
    simp only [run_bind, run_lookUp, run_require]
    cases (SessionStore.get s.store s.client.key.text).1 <;> rfl

/-- What is made of the answer to a logout. -/
def concludeLogout (c : Client) (outcome : Except Http.Failure Http.Response) :
    Operation β σ Unit := do
  require .store (← forget c.key.text)
  update fun c => c.withoutCredential .unauthenticated
  match outcome with
  | .ok response => note (.closed c.slot response.status)
  | .error failure =>
    note (.closingFailed c.slot failure)
    throw (.transport failure)

/-- Whatever is answered to a logout, the session is dropped. -/
theorem concludeLogout_following {s s₁ : Site β σ} {url : Url} {events events' : List Event}
    {credential : Option Credential} {outcome : Except Http.Failure Http.Response}
    (hclient : s₁.client = s.client) (hfind : FindingCredential s.client events (.ok credential))
    (hurl : s.client.base.endpoint Client.logoutPath = .ok url)
    (hsend : Sending s.client .logout (Client.logoutRequest url credential) events' outcome)
    (hpass : s.Passes (.checked s.client.key.text (.ok true) :: (events ++ events')) s₁) :
    ∃ events'' result s', (concludeLogout s.client outcome : Operation β σ _).run s₁ =
        (result, s') ∧
      LoggingOut s.client events'' result s'.client ∧ s.Passes events'' s' := by
  simp only [concludeLogout, run_bind, run_forget, run_require]
  cases hforget : (SessionStore.forget s₁.store s.client.key.text).1 with
  | error e =>
    refine ⟨_, _, _, rfl, ?_, hpass.after (Event.isTrue_forgot hforget)⟩
    rw [Site.client_after, hclient]
    exact .unforgotten hfind hurl hsend
  | ok =>
    have hpass' := (hpass.after_noted (Event.isTrue_forgot hforget)
      (s.client.farewell outcome)).updated (s.client.withoutCredential .unauthenticated)
    refine ⟨_, _, _, ?_, .closed hfind hurl hsend, hpass'⟩
    cases outcome with
    | ok response =>
      simp only [run_update, run_note, mapError_ok, Site.client_after, hclient]
      rfl
    | error failure =>
      simp only [run_update, run_bind, run_note, run_throw, mapError_ok, Site.client_after,
        hclient]
      rfl

/-- A session is closed by finding its credential, sending the logout and concluding from the
answer. -/
theorem logout_eq :
    (logout : Operation β σ Unit) = (do
      let c ← client
      if ← require .store (← check c.key.text) then
        let credential ← credentialToClose
        let url ← require .invalidUrl (c.base.endpoint Client.logoutPath)
        let outcome ← send .logout (Client.logoutRequest url credential)
        concludeLogout c outcome
      else note (.nothingToClose c.slot)) :=
  rfl

/-- A session is closed in one of the courses of `LoggingOut`. -/
theorem logout_following : (logout : Operation β σ Unit).Follows LoggingOut := by
  intro s
  simp only [logout_eq, run_bind, run_client, run_check, run_require]
  cases hhas : (SessionStore.has s.store s.client.key.text).1 with
  | error e =>
    exact ⟨_, _, _, rfl, .unchecked, (Site.Passes.refl s).after (Event.isTrue_checked hhas)⟩
  | ok present =>
    cases present with
    | false =>
      exact ⟨_, _, _, rfl, .nothing,
        (Site.Passes.refl s).after_noted (Event.isTrue_checked hhas) _⟩
    | true =>
      let s₁ := s.after (.checked s.client.key.text (.ok true))
      have hpass : s.Passes _ s₁ := (Site.Passes.refl s).after (Event.isTrue_checked hhas)
      obtain ⟨events, found, s₂, hrun, hclient, hfind, hpass'⟩ := credentialToClose_following s₁
      replace hclient : s₂.client = s.client := hclient
      have hpass₂ := hpass.trans hpass'
      simp only [mapError_ok, reduceIte, run_bind]
      rw [show (s.after (.checked s.client.key.text (.ok true))) = s₁ from rfl, hrun]
      cases found with
      | error e =>
        refine ⟨_, _, s₂, rfl, ?_, hpass₂⟩
        rw [hclient]
        exact .unfound hfind
      | ok credential =>
        cases hurl : s.client.base.endpoint Client.logoutPath with
        | error e =>
          refine ⟨_, _, s₂, rfl, ?_, hpass₂⟩
          rw [hclient]
          exact .noEndpoint hfind hurl
        | ok url =>
          obtain ⟨events', outcome, s₃, hrun', hclient', hsend, hpass₃⟩ :=
            send_following .logout (Client.logoutRequest url credential) s₂
          rw [hclient] at hclient' hsend
          obtain ⟨events'', result, s', hrun'', hcourse⟩ :=
            concludeLogout_following hclient' hfind hurl hsend (hpass₂.trans hpass₃)
          refine ⟨events'', result, s', ?_, hcourse⟩
          simp only [run_require, mapError_ok, hrun']
          exact hrun''

/-! ## Requests -/

/-- A prepared request goes out or cannot be written. -/
theorem dispatch_following (r : PendingRequest) (headers : List Http.Header) (s : Site β σ) :
    ∃ events result s', (dispatch r headers : Operation β σ _).run s = (result, s') ∧
      s'.client = s.client ∧ Dispatching s.client r headers events result ∧ s.Passes events s' := by
  simp only [dispatch, run_bind, run_client, run_require]
  cases hprepare : s.client.prepare r headers with
  | error e => exact ⟨[], _, s, rfl, rfl, .noUrl hprepare, .refl s⟩
  | ok request =>
    obtain ⟨events, outcome, s', hrun, hclient, hsend, hpass⟩ :=
      send_following .business request s
    refine ⟨events, _, s', ?_, hclient, .sending hprepare hsend, hpass⟩
    simp only [mapError_ok, hrun]

/-- A rejected session is given up in one of the courses of `Evicting`. -/
theorem evictSession_following : (evictSession : Operation β σ Unit).Follows Evicting := by
  intro s
  let s₁ : Site β σ := { s with client := s.client.withoutCredential .retrying }
  have hpass : s.Passes [] s₁ := (Site.Passes.refl s).updated _
  simp only [evictSession, run_bind, run_update, run_client, run_forget]
  rw [show (SessionStore.forget s.store (s.client.withoutCredential .retrying).key.text) =
    SessionStore.forget s.store s₁.client.key.text from rfl]
  cases hforget : (SessionStore.forget s.store s₁.client.key.text).1 with
  | error e =>
    exact ⟨_, _, _, rfl, .stuck,
      (hpass.after_noted (Event.isTrue_forgot hforget) _).updated s₁.client.failed⟩
  | ok => exact ⟨_, _, _, rfl, .evicted, hpass.after (Event.isTrue_forgot hforget)⟩

/-- What is made of the answer to a replay. -/
def concludeReplay (response : Http.Response) : Operation β σ Http.Response := do
  if response.status.isSessionExpired then
    note (.stillRejected (← client).slot response.status)
  return response

/-- A session is renewed by giving up the rejected one, opening another one and sending the request
again. -/
theorem renewAndReplay_eq (r : PendingRequest) :
    (renewAndReplay r : Operation β σ _) = (do
      evictSession
      openSession
      let response ← dispatch r []
      concludeReplay response) :=
  rfl

/-- The answer to a replay stands, and is noted if it rejects the session again. -/
theorem concludeReplay_following (response : Http.Response) (s : Site β σ) :
    ∃ s', (concludeReplay response : Operation β σ _).run s = (.ok response, s') ∧
      s'.client = s.client ∧ s.Passes (s.client.complaint (.ok response)) s' := by
  cases hstatus : response.status.isSessionExpired with
  | true =>
    refine ⟨s.after (.noted (.stillRejected s.client.slot response.status)), ?_, rfl, ?_⟩
    · simp only [concludeReplay, hstatus, reduceIte, run_bind, run_client, run_note, run_pure]
    · simp only [Client.complaint, hstatus, reduceIte]
      exact (Site.Passes.refl s).noted _
  | false =>
    refine ⟨s, ?_, rfl, ?_⟩
    · simp only [concludeReplay, hstatus, Bool.false_eq_true, reduceIte, run_pure]
    · simp only [Client.complaint, hstatus, Bool.false_eq_true, reduceIte]
      exact .refl s

/-- A session is renewed and a request replayed in one of the courses of `Renewing`. -/
theorem renewAndReplay_following (r : PendingRequest) :
    (renewAndReplay r : Operation β σ _).Follows (Renewing · r) := by
  intro s
  obtain ⟨events, evicted, s₁, hrun, hevict, hpass⟩ := evictSession_following s
  simp only [renewAndReplay_eq, run_bind, hrun]
  cases evicted with
  | error e => exact ⟨events, _, s₁, rfl, .unevicted hevict, hpass⟩
  | ok =>
    obtain ⟨events', opened, s₂, hrun', hopen, hpass'⟩ := openSession_following s₁
    have hpass₂ := hpass.trans hpass'
    simp only [hrun']
    cases opened with
    | error e => exact ⟨_, _, s₂, rfl, .unopened hevict hopen, hpass₂⟩
    | ok =>
      obtain ⟨events'', result, s₃, hrun'', hclient, hsend, hpass''⟩ := dispatch_following r [] s₂
      have hreplay := Renewing.replayed hevict hopen hsend
      have hpass₃ := hpass₂.trans hpass''
      simp only [hrun'']
      cases result with
      | error e =>
        refine ⟨_, _, s₃, rfl, hclient ▸ hreplay, ?_⟩
        simpa [Client.complaint] using hpass₃
      | ok response =>
        obtain ⟨s', hrun₄, hclient', hpass₄⟩ := concludeReplay_following response s₃
        refine ⟨events ++ (events' ++ (events'' ++ s₂.client.complaint (.ok response))), _, s',
          hrun₄, ?_, ?_⟩
        · rw [hclient', hclient]
          exact hreplay
        · simpa [hclient] using hpass₃.trans hpass₄

/-- What is made of a request once there is a session. -/
def deliver (r : PendingRequest) (headers : List Http.Header) : Operation β σ Http.Response := do
  let response ← dispatch r headers
  if response.status.isSessionExpired then
    note (.sessionRejected (← client).slot response.status r.method r.endpoint)
    renewAndReplay r
  else return response

/-- A request is sent by taking the queued headers, acquiring a session and delivering it. -/
theorem sendPending_eq (r : PendingRequest) :
    (sendPending r : Operation β σ _) = (do
      let headers ← takeHeaders
      ensureSession
      deliver r headers) :=
  rfl

/-- A request is delivered, with a renewal at most, in one of the courses of `Delivering`. -/
theorem deliver_following (r : PendingRequest) (headers : List Http.Header) :
    (deliver r headers : Operation β σ _).Follows (Delivering · r headers) := by
  intro s
  obtain ⟨events, result, s₁, hrun, hclient, hsend, hpass⟩ := dispatch_following r headers s
  simp only [deliver, run_bind, hrun]
  cases result with
  | error e =>
    refine ⟨events, _, s₁, rfl, ?_, hpass⟩
    rw [hclient]
    exact .undelivered hsend
  | ok response =>
    cases hstatus : response.status.isSessionExpired with
    | false =>
      refine ⟨events, .ok response, s₁, ?_, ?_, hpass⟩
      · simp only [hstatus, Bool.false_eq_true, reduceIte, run_pure]
      · rw [hclient]
        exact .answered hsend hstatus
    | true =>
      let s₂ := s₁.after
        (.noted (.sessionRejected s.client.slot response.status r.method r.endpoint))
      have hpass₂ : s.Passes _ s₂ := hpass.noted _
      obtain ⟨events', result, s', hrun', hrenew, hpass'⟩ := renewAndReplay_following r s₂
      replace hrenew : Renewing s.client r events' result s'.client := hclient ▸ hrenew
      refine ⟨_, result, s', ?_, .renewed hsend hstatus hrenew, ?_⟩
      · simp only [hstatus, reduceIte, run_bind, run_client, run_note, hclient]
        exact hrun'
      · simpa using hpass₂.trans hpass'

/-- A request is delivered under the session that is acquired for it, if there is one. -/
theorem run_sendPending (r : PendingRequest) (s : Site β σ) :
    ∃ events result, Acquiring s.client.unqueued events result s.acquired.client ∧
      s.Passes events s.acquired ∧ (sendPending r : Operation β σ _).run s =
        match result with
        | .ok () => (deliver r s.client.queued).run s.acquired
        | .error e => (.error e, s.acquired) := by
  obtain ⟨events, result, s₁, hrun, hacquire, hpass⟩ :=
    ensureSession_following { s with client := s.client.unqueued }
  have hacquired : s.acquired = s₁ := congrArg Prod.snd hrun
  refine ⟨events, result, hacquired ▸ hacquire,
    hacquired ▸ ((Site.Passes.refl s).updated _).trans hpass, ?_⟩
  simp only [sendPending_eq, run_bind, run_takeHeaders, hrun, hacquired]
  cases result <;> rfl

/-- A request is sent in one of the courses of `Requesting`. -/
theorem sendPending_following (r : PendingRequest) :
    (sendPending r : Operation β σ _).Follows (Requesting · r) := by
  intro s
  obtain ⟨events, acquired, hacquire, hpass, hrun⟩ := run_sendPending r s
  cases acquired with
  | error e => exact ⟨events, _, s.acquired, hrun, .unacquired hacquire, hpass⟩
  | ok =>
    obtain ⟨events', result, s', hrun', hdeliver, hpass'⟩ :=
      deliver_following r s.client.queued s.acquired
    exact ⟨_, result, s', hrun.trans hrun', .acquired hacquire hdeliver, hpass.trans hpass'⟩

end

/-! ## Requests that are adjusted -/

section
variable {β σ : Type} [Http.Backend β]

/-- What is made of the draft that a client prepares for its caller. -/
def sendAdjusted (method : Http.Method) (endpoint : String) (adjustments : List Adjustment)
    (headers : List Http.Header) : Operation β σ Http.Response := do
  let draft ← require .invalidUrl ((← client).prepare (.plain method endpoint) headers)
  let request ← require .transport (adjustments.foldlM Adjustment.apply draft)
  require .transport (← send .business request)

/-- The draft is sent as the caller has adjusted it, if it could be. -/
theorem run_sendAdjusted (method : Http.Method) (endpoint : String)
    (adjustments : List Adjustment) (headers : List Http.Header) (s : Site β σ) :
    (sendAdjusted method endpoint adjustments headers : Operation β σ _).run s =
      match s.client.adjusted method endpoint adjustments headers with
      | .ok request => (do require .transport (← send .business request) : Operation β σ _).run s
      | .error e => (.error e, s) := by
  simp only [sendAdjusted, Client.adjusted, run_bind, run_client, run_require]
  cases s.client.prepare (.plain method endpoint) headers with
  | error e => rfl
  | ok draft =>
    simp only [mapError_ok, bind, Except.bind]
    cases adjustments.foldlM Adjustment.apply draft <;> rfl

end

section
variable {β σ : Type} [Http.Backend β] [SessionStore σ]

/-- An adjusted request is sent once there is a session. -/
theorem sendWith_eq (method : Http.Method) (endpoint : String) (adjustments : List Adjustment) :
    (sendWith method endpoint adjustments : Operation β σ _) = (do
      let headers ← takeHeaders
      ensureSession
      sendAdjusted method endpoint adjustments headers) :=
  rfl

/-- An adjusted request is sent in one of the courses of `SendingWith`. -/
theorem sendWith_following (method : Http.Method) (endpoint : String)
    (adjustments : List Adjustment) :
    (sendWith method endpoint adjustments : Operation β σ _).Follows
      (SendingWith · method endpoint adjustments) := by
  intro s
  let s₀ : Site β σ := { s with client := s.client.unqueued }
  obtain ⟨events, acquired, s₁, hrun, hacquire, hpass⟩ := ensureSession_following s₀
  replace hpass : s.Passes events s₁ := ((Site.Passes.refl s).updated _).trans hpass
  simp only [sendWith_eq, run_bind, run_takeHeaders]
  rw [show ({ s with client := s.client.unqueued } : Site β σ) = s₀ from rfl, hrun]
  cases acquired with
  | error e => exact ⟨events, _, s₁, rfl, .unacquired hacquire, hpass⟩
  | ok =>
    simp only [run_sendAdjusted]
    cases hbuild : s₁.client.adjusted method endpoint adjustments s.client.queued with
    | error e => exact ⟨events, _, s₁, rfl, .unbuilt hacquire hbuild, hpass⟩
    | ok request =>
      obtain ⟨events', outcome, s', hrun', hclient, hsend, hpass'⟩ :=
        send_following .business request s₁
      refine ⟨_, outcome.mapError .transport, s', ?_, ?_, hpass.trans hpass'⟩
      · simp only [run_bind, hrun', run_require]
      · rw [hclient]
        exact .sending hacquire hbuild hsend

/-! ## Pools -/

/-- A declared request is sent by itself, and its error is a value. -/
theorem dispatchDeclared_following (entry : PoolKey × Except EncodeError PendingRequest)
    (s : Site β σ) :
    ∃ events result s', (dispatchDeclared entry : Operation β σ _).run s =
        (.ok (entry.1, result), s') ∧
      s'.client = s.client ∧ DispatchingDeclared s.client entry.2 events result ∧
      s.Passes events s' := by
  obtain ⟨key, r⟩ := entry
  simp only [dispatchDeclared, run_bind, run_observe, run_require, run_pure]
  cases r with
  | error e => exact ⟨[], _, s, rfl, rfl, .unencoded, .refl s⟩
  | ok r =>
    obtain ⟨events, result, s', hrun, hclient, hsend, hpass⟩ := dispatch_following r [] s
    refine ⟨events, result, s', ?_, hclient, .dispatching hsend, hpass⟩
    simp only [mapError_ok, hrun]

/-- Declared requests are sent in their order. -/
theorem dispatchAll_following (entries : List (PoolKey × Except EncodeError PendingRequest))
    (s : Site β σ) :
    ∃ events results s', (entries.mapM dispatchDeclared : Operation β σ _).run s =
        (.ok results, s') ∧
      s'.client = s.client ∧ DispatchingAll s.client entries events results ∧
      s.Passes events s' := by
  induction entries generalizing s with
  | nil => exact ⟨[], [], s, rfl, rfl, .nil, .refl s⟩
  | cons entry entries ih =>
    obtain ⟨events, result, s₁, hrun, hclient, hsend, hpass⟩ := dispatchDeclared_following entry s
    obtain ⟨events', results, s', hrun', hclient', hall, hpass'⟩ := ih s₁
    rw [hclient] at hclient' hall
    refine ⟨_, _, s', ?_, hclient', .cons hsend hall, hpass.trans hpass'⟩
    simp only [List.mapM_cons, run_bind, hrun, hrun', run_pure]

/-- A pool is sent in one of the courses of `Pooling`. -/
theorem pool_following (p : Pool) : (pool p : Operation β σ _).Follows (Pooling · p) := by
  intro s
  obtain ⟨events, acquired, s₁, hrun, hacquire, hpass⟩ := ensureSession_following s
  simp only [pool, run_bind, hrun]
  cases acquired with
  | error e => exact ⟨events, _, s₁, rfl, .unacquired hacquire, hpass⟩
  | ok =>
    let s₂ := s₁.after (.noted (.poolDispatched s₁.client.slot p.size))
    obtain ⟨events', results, s', hrun', hclient, hall, hpass'⟩ :=
      dispatchAll_following p.entries s₂
    replace hclient : s'.client = s₁.client := hclient
    refine ⟨events ++ .noted (.poolDispatched s₁.client.slot p.size) :: events', .ok ⟨results⟩, s',
      ?_, ?_, ?_⟩
    · simp only [run_client, run_note]
      rw [hrun']
      rfl
    · rw [hclient]
      exact .dispatched hacquire hall
    · simpa using (hpass.noted _).trans hpass'

end

end Operation

/-! ## Actions -/

section
variable {β σ : Type} [Http.Backend β] [SessionStore σ]

/-- Every action takes one of its courses, whatever the backend and the store answer. -/
theorem Site.perform_following (s : Site β σ) (a : Action) :
    ∃ events, Performing s.client a events (s.perform a).1 (s.perform a).2.client ∧
      s.Passes events (s.perform a).2 := by
  unfold Site.perform
  cases a with
  | login =>
    obtain ⟨events, result, s', hrun, hlogin, hpass⟩ := Operation.login_following s
    simp only [Action.perform, Operation.run_bind, hrun]
    cases result with
    | error e => exact ⟨events, .login hlogin, hpass⟩
    | ok => exact ⟨events, .login hlogin, hpass⟩
  | logout =>
    obtain ⟨events, result, s', hrun, hlogout, hpass⟩ := Operation.logout_following s
    simp only [Action.perform, Operation.run_bind, hrun]
    cases result with
    | error e => exact ⟨events, .logout hlogout, hpass⟩
    | ok => exact ⟨events, .logout hlogout, hpass⟩
  | withHeaders pairs =>
    simp only [Action.perform, Operation.withHeaders, Operation.run_bind, Operation.run_client,
      Operation.run_require]
    cases h : s.client.withHeaders pairs with
    | error e => exact ⟨[], .misqueued h, .refl s⟩
    | ok c => exact ⟨[], .queued h, (Site.Passes.refl s).updated c⟩
  | request r =>
    simp only [Action.perform, Operation.request, Operation.run_map, Operation.run_bind,
      Operation.run_require]
    cases r with
    | error e => exact ⟨[], .unencoded, .refl s⟩
    | ok r =>
      obtain ⟨events, result, s', hrun, hsend, hpass⟩ := Operation.sendPending_following r s
      simp only [mapError_ok, hrun]
      exact ⟨events, .request hsend, hpass⟩
  | sendWith method endpoint adjustments =>
    obtain ⟨events, result, s', hrun, hsend, hpass⟩ :=
      Operation.sendWith_following method endpoint adjustments s
    simp only [Action.perform, Operation.run_map, hrun]
    exact ⟨events, .sendWith hsend, hpass⟩
  | pool declarations =>
    obtain ⟨events, result, s', hrun, hsend, hpass⟩ :=
      Operation.pool_following (.ofDeclarations declarations) s
    simp only [Action.perform, Operation.run_map, hrun]
    exact ⟨events, .pool hsend, hpass⟩

/-- No action changes what the client is bound to. -/
theorem Site.perform_remains (s : Site β σ) (a : Action) :
    s.client.Remains (s.perform a).2.client := by
  obtain ⟨_, hcourse, -⟩ := s.perform_following a
  exact hcourse.remains

end

end ODataSession
