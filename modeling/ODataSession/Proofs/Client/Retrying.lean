import ODataSession.Proofs.Client.State
import ODataSession.Proofs.Session.Key
import ODataSession.Proofs.Url.Origin

/-!
# Renewals that do not end

A client that renews a rejected session is in the state `SessionState.retrying` until a login has
succeeded or failed. On a server whose URL has a path of segments every action ends in another
state. A URL without one, such as `localhost:50000`, where the port stands for a path and the host
for a scheme, is no base for the endpoint of the login, so that a renewal ends before the login
begins and leaves the client in this state (`ClientSetup.Builds.forall_ne_retrying_iff`).
-/

namespace ODataSession

/-! ## Renewals without an endpoint for logins -/

namespace Operation

section
variable {β σ : Type} [Http.Backend β] [SessionStore σ] {s : Site β σ}

/-- A credential that is held is a session. -/
theorem run_ensureSession_of_held (h : s.client.credential.isSome = true) :
    (ensureSession : Operation β σ _).run s = (.ok (), s) := by
  obtain ⟨credential, hheld⟩ := Option.isSome_iff_exists.1 h
  simp only [ensureSession, run_bind, run_client, hheld]
  rfl

/-- A session for which there is no endpoint is not opened. -/
theorem run_openSession_of_noEndpoint {e : UrlError}
    (h : s.client.base.endpoint Client.loginPath = .error e) :
    (openSession : Operation β σ _).run s = (.error (.invalidUrl e), s) := by
  simp only [openSession_eq, run_bind, run_client, run_require, h, mapError_error]

/-- A rejected session that the store drops is given up, and is to be renewed. -/
theorem run_evictSession_of_forget
    (h : (SessionStore.forget s.store s.client.key.text).1 = .ok ()) :
    (evictSession : Operation β σ _).run s = (.ok (),
      { s with client := s.client.withoutCredential .retrying }.after
        (.forgot s.client.key.text (.ok ()))) := by
  have hkey : (s.client.withoutCredential .retrying).key = s.client.key := rfl
  simp only [evictSession, run_bind, run_update, run_client, run_forget, hkey, h, run_pure]

/-- A session that is renewed without an endpoint for logins is given up, and the client is left
renewing it. -/
theorem state_renewAndReplay_of_noEndpoint (r : PendingRequest) {e : UrlError}
    (hforget : (SessionStore.forget s.store s.client.key.text).1 = .ok ())
    (hurl : s.client.base.endpoint Client.loginPath = .error e) :
    ((renewAndReplay r : Operation β σ _).run s).2.client.state = .retrying := by
  rw [renewAndReplay_eq, run_bind, run_evictSession_of_forget hforget]
  dsimp only
  rw [run_bind, run_openSession_of_noEndpoint (by exact hurl)]
  rfl

/-- A request that can be written as an HTTP message is answered by the backend. -/
theorem run_dispatch_of_answer {r : PendingRequest} {headers : List Http.Header}
    {request : Http.Request} {response : Http.Response}
    (hprepare : s.client.prepare r headers = .ok request)
    (hsendable : Http.isSendable request.url = true)
    (hanswer : (Http.Backend.answer s.backend (s.client.complete request)).1 = .ok response) :
    (dispatch r headers : Operation β σ _).run s =
      (.ok response, s.after (.sent .business (s.client.complete request) (.ok response))) := by
  simp only [dispatch, run_bind, run_client, run_require, hprepare, mapError_ok, run_send,
    hsendable, reduceIte, hanswer]

/-- A request whose session is rejected is renewed and replayed. -/
theorem run_deliver_of_rejected {s₁ : Site β σ} {r : PendingRequest} {headers : List Http.Header}
    {response : Http.Response}
    (hdispatch : (dispatch r headers : Operation β σ _).run s = (.ok response, s₁))
    (hrejected : response.status.isSessionExpired = true) :
    (deliver r headers : Operation β σ _).run s = (renewAndReplay r).run (s₁.after
      (.noted (.sessionRejected s₁.client.slot response.status r.method r.endpoint))) := by
  simp only [deliver, run_bind, hdispatch, hrejected, reduceIte, run_client, run_note]

end

end Operation

section
variable {β σ : Type} [Http.Backend β] [SessionStore σ]

/-- A token that the store has is taken by a login. -/
theorem Site.client_perform_login_of_get {s : Site β σ} {token : String}
    (h : (SessionStore.get s.store s.client.key.text).1 = .ok (some token)) :
    (s.perform .login).2.client = s.client.adopt ⟨token⟩ := by
  simp only [perform, Action.perform, Operation.login, Operation.run_bind, Operation.run_client,
    Operation.run_lookUp, Operation.run_require, h, mapError_ok, Operation.run_note,
    Operation.run_update, Operation.run_pure, Site.client_after]

/-- A client that has no endpoint for logins is left renewing its session by the first request for
which the session is rejected and dropped. -/
theorem Site.state_perform_of_noEndpoint {s : Site β σ} {r : PendingRequest}
    {request : Http.Request} {response : Http.Response} {e : UrlError}
    (hurl : s.client.base.endpoint Client.loginPath = .error e)
    (hheld : s.client.credential.isSome = true)
    (hprepare : s.client.prepare r s.client.queued = .ok request)
    (hsendable : Http.isSendable request.url = true)
    (hanswer : (Http.Backend.answer s.backend (s.client.complete request)).1 = .ok response)
    (hrejected : response.status.isSessionExpired = true)
    (hforget : (SessionStore.forget s.store s.client.key.text).1 = .ok ()) :
    (s.perform (.request (.ok r))).2.client.state = .retrying := by
  let s₁ : Site β σ := { s with client := s.client.unqueued }
  have hdispatch := Operation.run_dispatch_of_answer (s := s₁) hprepare hsendable hanswer
  have hrun : (Operation.sendPending r).run s = (Operation.deliver r s.client.queued).run s₁ := by
    simp only [Operation.sendPending_eq, Operation.run_bind, Operation.run_takeHeaders]
    rw [Operation.run_ensureSession_of_held (by exact hheld)]
  simp only [perform, Action.perform, Operation.request, Operation.run_map, Operation.run_bind,
    Operation.run_require, mapError_ok, hrun, Operation.run_deliver_of_rejected hdispatch hrejected]
  exact Operation.state_renewAndReplay_of_noEndpoint r hforget hurl

end

/-! ## Servers with a path of segments -/

/-- A client whose server has a path of segments renews nothing when it has acted. -/
theorem Performing.ne_retrying {c c' : Client} {a : Action} {events : List Event}
    {result : Except ClientError Outcome} (h : Performing c a events result c')
    (hbase : c.base.IsRooted) (hc : c.state ≠ .retrying) : c'.state ≠ .retrying := by
  rcases h.turns with ⟨hturns, -⟩ | ⟨rfl, -⟩
  · cases hturns with
    | kept _ hstate => rwa [hstate]
    | adopted _ hstate | closed _ hstate | failed _ hstate =>
      rw [hstate]
      decide
    | stuck hurl =>
      obtain ⟨url, hendpoint⟩ := (Url.exists_endpoint_iff (.inl rfl) _).2 hbase
      cases hurl.symm.trans hendpoint
  · exact nofun

/-! ## A backend that rejects every session -/

/-- A backend that rejects every session. -/
def ScriptedBackend.rejecting : ScriptedBackend :=
  ⟨[⟨none, none, none, none, .response 401 [] (some [])⟩], 0, true⟩

/-- It answers every request without TLS. -/
theorem ScriptedBackend.answer_rejecting {request : Http.Request}
    (h : request.url.scheme = "http".toList) :
    (Http.Backend.answer rejecting request).1 = .ok ⟨401, [], some [], request.url⟩ := by
  change (ScriptedBackend.answer rejecting request).1 = _
  simp [answer, rejecting, h, replyTo, Rule.isFor, Rule.agrees, outcome]

/-- The URL of an endpoint that is a URL itself. -/
def Url.items : Url :=
  ⟨"http".toList, some ⟨[], [], .name "sl.example".toList, none⟩, .segments ["Items".toList], none,
    none⟩

/-- This URL can be written into an HTTP message. -/
theorem Url.isSendable_items : Http.isSendable items = true := by
  decide +kernel

/-- An endpoint that is a URL of HTTP owes nothing to the base. -/
theorem Url.endpoint_items (base : Url) : base.endpoint "http://sl.example/Items" = .ok items := by
  have hcut : cutScheme? "http://sl.example/Items".toList =
      some ("http".toList, "//sl.example/Items".toList) := by
    decide
  change readClean (some base) "http://sl.example/Items".toList = _
  rw [readClean, hcut]
  change readSpecial (some base) "http".toList "//sl.example/Items".toList = _
  rw [readSpecial_of_names (.inr rfl)]
  decide +kernel

/-- A client whose server has no path of segments is left renewing its session by a request to
another server that rejects it. -/
theorem Client.reaches_retrying {client : Client} (hbase : ¬ client.base.IsRooted) :
    ∃ c, client.Reaches ScriptedBackend MemoryStore c ∧ c.state = .retrying := by
  obtain ⟨e, hurl⟩ : ∃ e, client.base.endpoint Client.loginPath = .error e := by
    cases hendpoint : client.base.endpoint Client.loginPath with
    | error e => exact ⟨e, rfl⟩
    | ok url => exact absurd ((Url.exists_endpoint_iff (.inl rfl) _).1 ⟨url, hendpoint⟩) hbase
  -- The token is taken from the store first, so that the request does without a login.
  let s : Site ScriptedBackend MemoryStore :=
    ⟨client, .rejecting, MemoryStore.empty.put client.key.text "B1SESSION=a" 60, []⟩
  have hget : (s.store.get client.key.text).1 = some "B1SESSION=a" :=
    (MemoryStore.get_put_fst .empty _ _ (by decide) _).trans (if_pos rfl)
  have hlogin : (s.perform .login).2.client = client.adopt ⟨"B1SESSION=a"⟩ :=
    s.client_perform_login_of_get (congrArg Except.ok hget)
  let s' : Site ScriptedBackend MemoryStore :=
    ⟨client.adopt ⟨"B1SESSION=a"⟩, .rejecting, .empty, []⟩
  have hreach : client.Reaches ScriptedBackend MemoryStore s'.client :=
    hlogin.subst (motive := client.Reaches _ _) (.acted (s := s) .start .login)
  have hprepare : s'.client.prepare (.get "http://sl.example/Items") s'.client.queued =
      .ok ⟨.get, .items, s'.client.queued ++ Client.cookieHeaders s'.client.credential, ""⟩ :=
    Client.prepare_of_endpoint (r := .get "http://sl.example/Items") (Url.endpoint_items _) _
  exact ⟨_, hreach.acted _, s'.state_perform_of_noEndpoint hurl rfl hprepare Url.isSendable_items
    (ScriptedBackend.answer_rejecting rfl) rfl rfl⟩

/-- Of a client that is built, no action ever ends in the middle of a renewal, whatever it does and
whatever the backend and the store answer, exactly if the URL of its server has a path of
segments. -/
theorem ClientSetup.Builds.forall_ne_retrying_iff {setup : ClientSetup} {client : Client}
    (hbuild : setup.Builds client) :
    (∀ (β σ : Type) [Http.Backend β] [SessionStore σ] (c : Client),
      client.Reaches β σ c → c.state ≠ .retrying) ↔ client.base.IsRooted := by
  constructor
  · intro h
    by_contra hbase
    obtain ⟨c, hreach, hstate⟩ := Client.reaches_retrying hbase
    exact h _ _ c hreach hstate
  · intro hbase β σ _ _ c hreach
    have hinvariant : client.Remains c ∧ c.state ≠ .retrying := by
      refine hreach.invariant (P := fun c => client.Remains c ∧ c.state ≠ .retrying) ?_
        ⟨.refl client, by simp [hbuild.state_eq]⟩
      rintro c c' a events result hcourse ⟨hremains, hne⟩
      exact ⟨hremains.trans hcourse.remains, hcourse.ne_retrying (hremains.base ▸ hbase) hne⟩
    exact hinvariant.2

/-- The client of the sample settings never ends an action in the middle of a renewal. -/
theorem ClientSetup.ne_retrying_sample :
    ∃ s : Site ScriptedBackend MemoryStore, Config.sample.site? ⟨[], 0, false⟩ .empty = some s ∧
      ∀ (β σ : Type) [Http.Backend β] [SessionStore σ] (c : Client),
        s.client.Reaches β σ c → c.state ≠ .retrying := by
  have h : (Config.sample.site? (⟨[], 0, false⟩ : ScriptedBackend) MemoryStore.empty).any (fun s =>
      s.client.base = .sampleBase) = true := by
    decide +kernel
  obtain ⟨s, hsite, hs⟩ := (Option.any_eq_true _ _).1 h
  have hbase : s.client.base = .sampleBase := of_decide_eq_true hs
  obtain ⟨hbuilds, -⟩ := Config.builds_of_site? hsite
  exact ⟨s, hsite, hbuilds.forall_ne_retrying_iff.2 ⟨_, congrArg Url.path hbase⟩⟩

/-- Settings that leave the scheme of the server out, so that its host is read as a scheme. -/
def Config.schemeless : Config :=
  { Config.sample with server := "localhost:50000" }

/-- The client of these settings takes its token from the store and is left renewing its session by
a request that is rejected. -/
theorem ClientSetup.retrying_schemeless :
    ∃ s : Site ScriptedBackend MemoryStore,
      Config.schemeless.site? .rejecting (MemoryStore.empty.put
        (SessionKey.derive "localhost:50000" "DB" "manager" 0).text "B1SESSION=a" 60) = some s ∧
      let s' := (s.perform (.request (.ok (.get "http://sl.example/Items")))).2
      s.client.Reaches ScriptedBackend MemoryStore s'.client ∧ s'.client.state = .retrying := by
  have h : (Config.schemeless.site? ScriptedBackend.rejecting (MemoryStore.empty.put
      (SessionKey.derive "localhost:50000" "DB" "manager" 0).text "B1SESSION=a" 60)).any (fun s =>
      (s.perform (.request (.ok (.get "http://sl.example/Items")))).2.client.state = .retrying) =
      true := by
    decide +kernel
  obtain ⟨s, hsite, hs⟩ := (Option.any_eq_true _ _).1 h
  exact ⟨s, hsite, .acted .start _, of_decide_eq_true hs⟩

end ODataSession
