import ODataSession.Proofs.Client.Renewal

/-!
# States of clients

How the state of a client and its credential go together between its actions. An action keeps both,
or ends in one of four ways that set both (`Performing.turns`), with one exception: a login that is
asked for while a credential is held, and that neither brings a session nor is refused, leaves a
client that has failed and still holds its credential. So a client that is logged in holds a
credential and one without a session holds none (`ClientSetup.Builds.agrees_of_reaches`), and a
client that holds a credential takes itself for logged in unless it is left so
(`ClientSetup.Builds.isAuthenticated_iff_of_reaches`).
-/

namespace ODataSession

/-! ## What an action makes of state and credential -/

/-- How an operation leaves the state and the credential of its client. -/
inductive Client.Turns (c c' : Client) : Prop
  | kept (credential_eq : c'.credential = c.credential) (state_eq : c'.state = c.state)
  | adopted (isSome_credential : c'.credential.isSome = true) (state_eq : c'.state = .authenticated)
  | closed (credential_eq : c'.credential = none) (state_eq : c'.state = .unauthenticated)
  | failed (credential_eq : c'.credential = none) (state_eq : c'.state = .failed)
  /-- There is no endpoint at which a rejected session could be renewed. -/
  | stuck {e : UrlError} (hurl : c.base.endpoint Client.loginPath = .error e)
      (credential_eq : c'.credential = none) (state_eq : c'.state = .retrying)

/-- A login brings no session and is not refused: the server is not reached, or the token that it
gives cannot be stored. -/
def MissesSession {α : Type} (events : List Event) (result : Except ClientError α) : Prop :=
  (∃ failure, result = .error (.transport failure)) ∨
    ∃ d ∈ deposits events, ∃ e, d.outcome = .error e

/-- What is made of the value of an operation does not matter to whether a session is missed. -/
@[simp]
theorem missesSession_map {α γ : Type} {events : List Event} {result : Except ClientError α}
    (f : α → γ) : MissesSession events (result.map f) ↔ MissesSession events result := by
  cases result <;> simp [MissesSession, Except.map]

section
variable {c c₁ c' : Client} {r : PendingRequest} {events : List Event}

/-- Of two turns the second one counts, unless it keeps what the first has made. -/
theorem Client.Turns.trans (h : c.Turns c₁) (hbase : c₁.base = c.base) (h' : c₁.Turns c') :
    c.Turns c' := by
  cases h' with
  | kept hcredential hstate =>
    cases h with
    | kept hcredential₁ hstate₁ =>
      exact .kept (hcredential.trans hcredential₁) (hstate.trans hstate₁)
    | adopted hsome hstate₁ => exact .adopted (hcredential ▸ hsome) (hstate.trans hstate₁)
    | closed hnone hstate₁ => exact .closed (hcredential.trans hnone) (hstate.trans hstate₁)
    | failed hnone hstate₁ => exact .failed (hcredential.trans hnone) (hstate.trans hstate₁)
    | stuck hurl hnone hstate₁ =>
      exact .stuck hurl (hcredential.trans hnone) (hstate.trans hstate₁)
  | adopted hsome hstate => exact .adopted hsome hstate
  | closed hnone hstate => exact .closed hnone hstate
  | failed hnone hstate => exact .failed hnone hstate
  | stuck hurl hnone hstate => exact .stuck (hbase ▸ hurl) hnone hstate

/-- What becomes of a client without its queue becomes of the client. -/
theorem Client.Turns.of_unqueued (h : c.unqueued.Turns c') : c.Turns c' :=
  have hkept : c.Turns c.unqueued := .kept rfl rfl
  hkept.trans rfl h

/-- Opening a session sets state and credential, unless it misses the session or has no endpoint. -/
theorem Opening.turns {result : Except ClientError Unit} (h : Opening c events result c') :
    c.Turns c' ∧ ¬ MissesSession events result ∨ c' = c.failed ∧ MissesSession events result := by
  cases h with
  | noEndpoint => exact .inl ⟨.kept rfl rfl, by simp [MissesSession]⟩
  | unreached => exact .inr ⟨rfl, .inl ⟨_, rfl⟩⟩
  | rejected _ h | cookieless _ h =>
    exact .inl ⟨.failed rfl rfl, by simp [MissesSession, h.deposits_eq]⟩
  | unstored _ h => exact .inr ⟨rfl, by simp [MissesSession, h.deposits_eq, Client.stores]⟩
  | opened _ h =>
    exact .inl ⟨.adopted rfl rfl, by simp [MissesSession, h.deposits_eq, Client.stores]⟩

/-- A session that is opened in the place of one that was rejected. -/
theorem Opening.turns_of_retrying {result : Except ClientError Unit}
    (h : Opening (c.withoutCredential .retrying) events result c') : c.Turns c' := by
  cases h with
  | noEndpoint hurl => exact .stuck hurl rfl rfl
  | unreached | unstored | rejected | cookieless => exact .failed rfl rfl
  | opened => exact .adopted rfl rfl

/-- A login brings a session, is refused or misses the session. -/
theorem LoggingIn.turns {result : Except ClientError Unit} (h : LoggingIn c events result c') :
    c.Turns c' ∧ ¬ MissesSession events result ∨ c' = c.failed ∧ MissesSession events result := by
  cases h with
  | unanswered => exact .inl ⟨.kept rfl rfl, by simp [MissesSession]⟩
  | reused => exact .inl ⟨.adopted rfl rfl, by simp [MissesSession]⟩
  | opening hopen =>
    simpa [MissesSession] using hopen.turns

/-- Before a request a login is made only if no credential is held, so that none is left if it
misses the session. -/
theorem Acquiring.turns {result : Except ClientError Unit} (h : Acquiring c events result c') :
    c.Turns c' := by
  cases h with
  | held => exact .kept rfl rfl
  | loggingIn hnone hlogin =>
    rcases hlogin.turns with ⟨hturns, -⟩ | ⟨rfl, -⟩
    · exact hturns
    · exact .failed hnone rfl

/-- A logout closes the session or changes nothing. -/
theorem LoggingOut.turns {result : Except ClientError Unit} (h : LoggingOut c events result c') :
    c.Turns c' := by
  cases h with
  | unchecked | nothing | unfound | noEndpoint | unforgotten => exact .kept rfl rfl
  | closed => exact .closed rfl rfl

/-- A renewal gives up the credential before it can fail. -/
theorem Renewing.turns {result : Except ClientError Http.Response}
    (h : Renewing c r events result c') : c.Turns c' := by
  cases h with
  | unevicted hevict =>
    cases hevict
    exact .failed rfl rfl
  | unopened hevict hopen | replayed hevict hopen =>
    cases hevict
    exact hopen.turns_of_retrying

/-- A request that is delivered changes nothing unless the session is renewed. -/
theorem Delivering.turns {headers : List Http.Header} {result : Except ClientError Http.Response}
    (h : Delivering c r headers events result c') : c.Turns c' := by
  cases h with
  | undelivered | answered => exact .kept rfl rfl
  | renewed _ _ hrenew => exact hrenew.turns

/-- A request acquires a session and is delivered. -/
theorem Requesting.turns {result : Except ClientError Http.Response}
    (h : Requesting c r events result c') : c.Turns c' := by
  cases h with
  | unacquired hacquire => exact hacquire.turns.of_unqueued
  | acquired hacquire hdeliver =>
    exact (hacquire.turns.trans hacquire.remains.base hdeliver.turns).of_unqueued

/-- What an action makes of state and credential. Only a login that is asked for can miss its
session while a credential is held. -/
theorem Performing.turns {a : Action} {result : Except ClientError Outcome}
    (h : Performing c a events result c') :
    c.Turns c' ∧ ¬ (a = .login ∧ MissesSession events result) ∨
      c' = c.failed ∧ a = .login ∧ MissesSession events result := by
  cases h with
  | login h => simpa using h.turns
  | logout h => exact .inl ⟨h.turns, by simp⟩
  | misqueued | unencoded => exact .inl ⟨.kept rfl rfl, by simp⟩
  | queued h =>
    obtain ⟨_, rfl⟩ := Client.exists_of_withHeaders h
    exact .inl ⟨.kept rfl rfl, by simp⟩
  | request h => exact .inl ⟨h.turns, by simp⟩
  | sendWith h =>
    cases h with
    | unacquired hacquire | unbuilt hacquire | sending hacquire =>
      exact .inl ⟨hacquire.turns.of_unqueued, by simp⟩
  | pool h =>
    cases h with
    | unacquired hacquire | dispatched hacquire => exact .inl ⟨hacquire.turns, by simp⟩

end

/-! ## Between actions -/

section
variable (β σ : Type) [Http.Backend β] [SessionStore σ]

/-- What a client becomes by acting any number of times. Between its actions its backend and its
store may become any others. -/
inductive Client.Reaches (c : Client) : Client → Prop
  | start : c.Reaches c
  | acted {s : Site β σ} (h : c.Reaches s.client) (a : Action) : c.Reaches (s.perform a).2.client

/-- What a client becomes by a login that misses its session while a credential is held, and stays
as long as neither its credential nor its state changes. -/
inductive Client.Stranded (c : Client) : Client → Prop
  | missed {s : Site β σ} (h : c.Reaches β σ s.client) (hheld : s.client.credential.isSome = true)
      {events : List Event} (htrace : (s.perform .login).2.trace = s.trace ++ events)
      (hmisses : MissesSession events (s.perform .login).1) :
    c.Stranded (s.perform .login).2.client
  | kept {s : Site β σ} (h : c.Stranded s.client) {a : Action}
      (credential_eq : (s.perform a).2.client.credential = s.client.credential)
      (state_eq : (s.perform a).2.client.state = s.client.state) :
    c.Stranded (s.perform a).2.client

end

/-- What every action preserves holds of all that a client becomes. -/
theorem Client.Reaches.invariant {β σ : Type} [Http.Backend β] [SessionStore σ] {P : Client → Prop}
    (hstep : ∀ {c c' : Client} {a : Action} {events : List Event}
      {result : Except ClientError Outcome}, Performing c a events result c' → P c → P c')
    {c c' : Client} (h : c.Reaches β σ c') (hc : P c) : P c' := by
  induction h with
  | start => exact hc
  | @acted s _ a ih =>
    obtain ⟨events, hcourse, -⟩ := s.perform_following a
    exact hstep hcourse ih

/-- A client stays itself by acting. -/
theorem Client.Reaches.remains {β σ : Type} [Http.Backend β] [SessionStore σ] {c c' : Client}
    (h : c.Reaches β σ c') : c.Remains c' :=
  h.invariant (P := c.Remains) (fun hcourse hc => hc.trans hcourse.remains) (.refl c)

/-- The credential of a client is as its state says, as far as the state says anything of it: a
client that has failed may hold one or not. -/
structure Client.Agrees (c : Client) : Prop where
  isSome_of_authenticated : c.state = .authenticated → c.credential.isSome = true
  eq_none_of_unauthenticated : c.state = .unauthenticated → c.credential = none
  eq_none_of_retrying : c.state = .retrying → c.credential = none

/-- A client that has failed agrees with whatever it holds. -/
theorem Client.Agrees.of_failed {c : Client} (h : c.state = .failed) : c.Agrees := by
  refine ⟨?_, ?_, ?_⟩ <;> simp [h]

/-- A client that holds nothing agrees unless it is logged in. -/
theorem Client.Agrees.of_eq_none {c : Client} (h : c.credential = none)
    (hstate : c.state ≠ .authenticated) : c.Agrees :=
  ⟨fun hauth => absurd hauth hstate, fun _ => h, fun _ => h⟩

/-- A client agrees after every turn. -/
theorem Client.Turns.agrees {c c' : Client} (h : c.Turns c') (hc : c.Agrees) : c'.Agrees := by
  cases h with
  | kept hcredential hstate =>
    obtain ⟨hauth, hunauth, hretrying⟩ := hc
    rw [← hcredential, ← hstate] at hauth hunauth hretrying
    exact ⟨hauth, hunauth, hretrying⟩
  | adopted hsome hstate => refine ⟨fun _ => hsome, ?_, ?_⟩ <;> simp [hstate]
  | closed hnone hstate | failed hnone hstate | stuck _ hnone hstate =>
    exact .of_eq_none hnone (by simp [hstate])

/-- A client agrees after every action. -/
theorem Performing.agrees {c c' : Client} {a : Action} {events : List Event}
    {result : Except ClientError Outcome} (h : Performing c a events result c') (hc : c.Agrees) :
    c'.Agrees := by
  rcases h.turns with ⟨hturns, -⟩ | ⟨rfl, -⟩
  · exact hturns.agrees hc
  · exact .of_failed rfl

/-- A client agrees when it is built. -/
theorem ClientSetup.Builds.agrees {setup : ClientSetup} {client : Client}
    (h : setup.Builds client) : client.Agrees :=
  .of_eq_none h.credential_eq (by simp [h.state_eq])

section
variable {β σ : Type} [Http.Backend β] [SessionStore σ] {setup : ClientSetup} {client c : Client}

/-- Whatever a client does from when it is built on, and whatever the backend and the store answer:
between its actions a client that is logged in holds a credential, and a client that has no session
or renews one holds none. -/
theorem ClientSetup.Builds.agrees_of_reaches (hbuild : setup.Builds client)
    (h : client.Reaches β σ c) : c.Agrees :=
  h.invariant Performing.agrees hbuild.agrees

end

/-- A client whose session has been renewed is logged in, and so holds a credential. -/
theorem ClientSetup.agrees_of_renewed :
    ∃ s : Site ScriptedBackend MemoryStore,
      Config.plainSample.site? .forgetful .empty = some s ∧
      (s.perform (.request (.ok (.get "Items")))).2.client.state = .authenticated ∧
      (s.perform (.request (.ok (.get "Items")))).2.client.credential.isSome = true := by
  have h : (Config.plainSample.site? ScriptedBackend.forgetful MemoryStore.empty).any (fun s =>
      (s.perform (.request (.ok (.get "Items")))).2.client.state = .authenticated) = true := by
    decide +kernel
  obtain ⟨s, hsite, hstate⟩ := (Option.any_eq_true _ _).1 h
  have hstate := of_decide_eq_true hstate
  have hagrees := (Config.builds_of_site? hsite).1.agrees_of_reaches
    (.acted .start (.request (.ok (.get "Items"))))
  exact ⟨s, hsite, hstate, hagrees.isSome_of_authenticated hstate⟩

/-! ## Clients that are stranded -/

/-- A client that agrees takes itself for logged in exactly when it holds a credential, unless it
has failed and still holds one. -/
theorem Client.Agrees.isAuthenticated_iff {c : Client} (h : c.Agrees) :
    (c.isAuthenticated = true ↔ c.credential.isSome = true) ↔
      ¬ (c.state = .failed ∧ c.credential.isSome = true) := by
  obtain ⟨-, hunauth, hretrying⟩ := h
  rw [isAuthenticated]
  cases hstate : c.state with
  | authenticated => simp
  | unauthenticated => simp [hunauth hstate]
  | retrying => simp [hretrying hstate]
  | failed => simp

section
variable {β σ : Type} [Http.Backend β] [SessionStore σ] {setup : ClientSetup} {client c : Client}

/-- A stranded client has failed and still holds a credential. -/
theorem Client.Stranded.eq_failed (h : client.Stranded β σ c) :
    c.state = .failed ∧ c.credential.isSome = true := by
  induction h with
  | @missed s _ hheld events htrace hmisses =>
    obtain ⟨events', hcourse, hpass⟩ := s.perform_following .login
    obtain rfl : events' = events := List.append_cancel_left (hpass.trace_eq.symm.trans htrace)
    rcases hcourse.turns with ⟨-, hnot⟩ | ⟨hfailed, -⟩
    · exact absurd ⟨rfl, hmisses⟩ hnot
    · rw [hfailed]
      exact ⟨rfl, hheld⟩
  | kept _ hcredential hstate ih => rwa [hcredential, hstate]

/-- A client that has failed and still holds a credential is stranded: every other way to fail gives
the credential up. -/
theorem Client.Reaches.stranded (hbuild : setup.Builds client) (h : client.Reaches β σ c)
    (hfailed : c.state = .failed) (hheld : c.credential.isSome = true) :
    client.Stranded β σ c := by
  -- The last action has either kept a stranded client as it was or is the login that stranded it.
  induction h with
  | start =>
    rw [hbuild.credential_eq] at hheld
    cases hheld
  | @acted s h a ih =>
    obtain ⟨events, hcourse, hpass⟩ := s.perform_following a
    rcases hcourse.turns with ⟨hturns, -⟩ | ⟨heq, rfl, hmisses⟩
    · cases hturns with
      | kept hcredential hstate =>
        exact .kept (ih (hstate ▸ hfailed) (hcredential ▸ hheld)) hcredential hstate
      | adopted _ hstate =>
        rw [hstate] at hfailed
        cases hfailed
      | closed hnone | failed hnone | stuck _ hnone =>
        rw [hnone] at hheld
        cases hheld
    · rw [heq] at hheld
      exact .missed h hheld hpass.trace_eq hmisses

/-- Whatever a client does from when it is built on, and whatever the backend and the store answer:
between its actions it takes itself for logged in exactly when it holds a credential, unless it is
stranded. -/
theorem ClientSetup.Builds.isAuthenticated_iff_of_reaches (hbuild : setup.Builds client)
    (h : client.Reaches β σ c) :
    (c.isAuthenticated = true ↔ c.credential.isSome = true) ↔ ¬ client.Stranded β σ c := by
  have hagrees : c.Agrees := h.invariant Performing.agrees hbuild.agrees
  rw [hagrees.isAuthenticated_iff]
  exact not_congr ⟨fun ⟨hfailed, hheld⟩ => h.stranded hbuild hfailed hheld, (·.eq_failed)⟩

end

/-- A client reaches what it is when its stored token has expired. -/
theorem Site.reaches_outlived {β : Type} [Http.Backend β] (s : Site β MemoryStore)
    (token : String) : s.client.Reaches β MemoryStore (s.outlived token).client :=
  .acted (s := { s with store := s.store.put s.client.key.text token 60 }) .start .login

/-- A client that has taken its token from the store is not stranded; when the token has expired and
a login does not reach the server, it is. -/
theorem Site.stranded_outlived :
    ∃ s : Site ScriptedBackend MemoryStore, Config.sample.site? ⟨[], 0, false⟩ .empty = some s ∧
      ¬ s.client.Stranded ScriptedBackend MemoryStore (s.outlived "B1SESSION=a").client ∧
      s.client.Stranded ScriptedBackend MemoryStore
        ((s.outlived "B1SESSION=a").perform .login).2.client := by
  have h : (Config.sample.site? (⟨[], 0, false⟩ : ScriptedBackend) MemoryStore.empty).any (fun s =>
      (s.outlived "B1SESSION=a").client.isAuthenticated = true ∧
      (s.outlived "B1SESSION=a").client.credential.isSome = true ∧
      ((s.outlived "B1SESSION=a").perform .login).2.client.isAuthenticated = false ∧
      ((s.outlived "B1SESSION=a").perform .login).2.client.credential.isSome = true) = true := by
    decide +kernel
  obtain ⟨s, hsite, hs⟩ := (Option.any_eq_true _ _).1 h
  obtain ⟨hauth, hheld, hnot, hheld'⟩ := of_decide_eq_true hs
  obtain ⟨hbuilds, -⟩ := Config.builds_of_site? hsite
  have hreach := s.reaches_outlived "B1SESSION=a"
  refine ⟨s, hsite, ?_, not_not.1 fun hstranded => ?_⟩
  · exact (hbuilds.isAuthenticated_iff_of_reaches hreach).1 (iff_of_true hauth hheld)
  · have hiff := (hbuilds.isAuthenticated_iff_of_reaches (hreach.acted .login)).2 hstranded
    rw [hiff.2 hheld'] at hnot
    cases hnot

/-- A client does not take itself for logged in although it holds a credential, which its next
request carries without a login. -/
theorem Client.not_isAuthenticated_although_held :
    ∃ s : Site ScriptedBackend MemoryStore, Config.sample.site? ⟨[], 0, false⟩ .empty = some s ∧
      let s' := ((s.outlived "B1SESSION=a").perform .login).2
      s.client.Reaches ScriptedBackend MemoryStore s'.client ∧
      s'.client.isAuthenticated = false ∧ s'.client.credential = some ⟨"B1SESSION=a"⟩ ∧
      (calls (s'.perform (.request (.ok (.get "Items")))).2.trace).map (fun call =>
          (call.purpose, Http.Headers.value? call.request.headers "cookie")) =
        [(.login, none), (.business, some "B1SESSION=a")] := by
  have h : (Config.sample.site? (⟨[], 0, false⟩ : ScriptedBackend) MemoryStore.empty).any (fun s =>
      let s' := ((s.outlived "B1SESSION=a").perform .login).2
      s'.client.isAuthenticated = false ∧ s'.client.credential = some ⟨"B1SESSION=a"⟩ ∧
      (calls (s'.perform (.request (.ok (.get "Items")))).2.trace).map (fun call =>
          (call.purpose, Http.Headers.value? call.request.headers "cookie")) =
        [(.login, none), (.business, some "B1SESSION=a")]) = true := by
    decide +kernel
  obtain ⟨s, hsite, hs⟩ := (Option.any_eq_true _ _).1 h
  exact ⟨s, hsite, (s.reaches_outlived "B1SESSION=a").acted .login, of_decide_eq_true hs⟩

end ODataSession
