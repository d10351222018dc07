import ODataSession.Proofs.Client.Performance
import ODataSession.Proofs.Client.Replay
import ODataSession.Proofs.Client.Retrying

/-!
# Sessions that go on

Which actions leave their session alone (`Site.perform_keepsSession`). An action that sends requests
is the acquisition of a session (`Action.acquire`) and what is made of it (`Action.finish`), and an
action whose acquisition fails ends there (`Site.perform_eq`). Behind the acquisition only a renewal
touches the credential, the state or the store, and a session is renewed only for a request of its
own that is rejected. So every other answer, a server that is not reached and an endpoint of no URL
leave the session as the acquisition has left it; an adjusted request and a pool always do. Where a
credential is held, the acquisition changes nothing either.
-/

namespace ODataSession

/-! ## Courses without a rejection -/

section
variable {c c' : Client} {r : PendingRequest} {events : List Event}
  {σ : Type} [SessionStore σ] (m : σ)

/-- A request that is delivered and not rejected changes neither the client nor the store, and
makes no login. -/
theorem Delivering.of_not_isRejected {headers : List Http.Header}
    {result : Except ClientError Http.Response} (h : Delivering c r headers events result c')
    (hcalm : ∀ call ∈ calls events, call.purpose = .business → ¬ call.IsRejected) :
    c' = c ∧ (∀ call ∈ calls events, call.purpose = .business) ∧ storeAfterAll m events = m := by
  cases h with
  | undelivered hsend | answered hsend =>
    exact ⟨rfl, fun call hcall => (hsend.carries hcall).2.purpose_eq, hsend.storeAfterAll_eq m⟩
  | renewed hsend hstatus =>
    obtain ⟨request, rfl⟩ := hsend.exists_eq_sent
    refine (hcalm _ List.mem_cons_self rfl ⟨_, rfl, ?_⟩).elim
    simpa [Http.Status.isSessionExpired] using hstatus

/-- The entries of a pool leave the store as it is. -/
theorem DispatchingAll.storeAfterAll_eq
    {entries : List (PoolKey × Except EncodeError PendingRequest)}
    {results : List (PoolKey × Except ClientError Http.Response)}
    (h : DispatchingAll c entries events results) : storeAfterAll m events = m := by
  induction h with
  | nil => rfl
  | cons h _ ih =>
    cases h with
    | unencoded => exact ih
    | dispatching hsend => rw [storeAfterAll_append, hsend.storeAfterAll_eq, ih]

end

/-! ## Actions in two parts -/

/-- Whether an action sends requests of its caller. -/
def Action.sends : Action → Bool
  | .request _ | .sendWith .. | .pool _ => true
  | .login | .logout | .withHeaders _ => false

section
variable {β σ : Type} [Http.Backend β] [SessionStore σ]

/-- The first part of an action that sends requests: it acquires a session, which a request and an
adjusted request do without the queued headers. Where nothing can be encoded, nothing is done. -/
def Action.acquire : Action → Operation β σ Unit
  | .request (.ok _) | .sendWith .. => do
    let _ ← Operation.takeHeaders
    Operation.ensureSession
  | .pool _ => Operation.ensureSession
  | .request (.error _) | .login | .logout | .withHeaders _ => pure ()

/-- The second part of an action, with the headers that were queued before it. -/
def Action.finish (headers : List Http.Header) : Action → Operation β σ Outcome
  | .request (.ok r) => .response <$> Operation.deliver r headers
  | .sendWith method endpoint adjustments =>
    .response <$> Operation.sendAdjusted method endpoint adjustments headers
  | .pool declarations => do
    let p := Pool.ofDeclarations declarations
    Operation.note (.poolDispatched (← Operation.client).slot p.size)
    return .responses ⟨← p.entries.mapM Operation.dispatchDeclared⟩
  | .request (.error e) => throw (.encoding e)
  | a => a.perform

/-- An action is its two parts, one after the other. -/
theorem Site.perform_eq (s : Site β σ) (a : Action) :
    s.perform a = (do a.acquire; a.finish s.client.queued : Operation β σ Outcome).run s := by
  unfold Site.perform
  cases a with
  | login | logout | withHeaders => rfl
  | request r =>
    cases r with
    | error => rfl
    | ok r =>
      simp only [Action.perform, Action.acquire, Action.finish, Operation.request,
        Operation.sendPending_eq, map_bind, bind_assoc, Operation.run_bind, Operation.run_require,
        mapError_ok, Operation.run_takeHeaders]
  | sendWith method endpoint adjustments =>
    simp only [Action.perform, Action.acquire, Action.finish, Operation.sendWith_eq, map_bind,
      bind_assoc, Operation.run_bind, Operation.run_takeHeaders]
  | pool declarations =>
    simp only [Action.perform, Action.acquire, Action.finish, Operation.pool, map_bind, map_pure]

/-- The first part of an action acquires a session, or does nothing. -/
theorem Action.acquire_passes (a : Action) (s : Site β σ) :
    ∃ events, s.Passes events (a.acquire.run s).2 := by
  have hensure : ∀ s : Site β σ, ∃ events,
      s.Passes events ((Operation.ensureSession : Operation β σ Unit).run s).2 := by
    intro s
    obtain ⟨events, _, s', hrun, -, hpass⟩ := Operation.ensureSession_following s
    rw [hrun]
    exact ⟨events, hpass⟩
  have hunqueued : ∃ events, s.Passes events s.acquired := by
    obtain ⟨events, hpass⟩ := hensure { s with client := s.client.unqueued }
    exact ⟨events, ((Site.Passes.refl s).updated _).trans hpass⟩
  cases a with
  | login | logout | withHeaders => exact ⟨[], .refl s⟩
  | request r =>
    cases r with
    | error => exact ⟨[], .refl s⟩
    | ok => exact hunqueued
  | sendWith => exact hunqueued
  | pool => exact hensure s

end

/-! ## What is left of a session -/

section
variable {β σ : Type}

/-- A site with the session of another one: the client has the same credential and is in the same
state, and the store is the same. -/
structure Site.KeepsSession (s s' : Site β σ) : Prop where
  credential_eq : s'.client.credential = s.client.credential
  state_eq : s'.client.state = s.client.state
  store_eq : s'.store = s.store

/-- A site has its own session. -/
theorem Site.KeepsSession.refl (s : Site β σ) : s.KeepsSession s :=
  ⟨rfl, rfl, rfl⟩

/-- A session that is kept on the way is kept as a whole. -/
theorem Site.KeepsSession.trans {s s₁ s₂ : Site β σ} (h : s.KeepsSession s₁)
    (h' : s₁.KeepsSession s₂) : s.KeepsSession s₂ :=
  ⟨h'.credential_eq.trans h.credential_eq, h'.state_eq.trans h.state_eq,
    h'.store_eq.trans h.store_eq⟩

end

section
variable {β σ : Type} [Http.Backend β] [SessionStore σ]

/-- A session is kept where only events pass that leave the store as it is. -/
theorem Site.Passes.keepsSession {s s' : Site β σ} {events : List Event} (h : s.Passes events s')
    (hclient : s'.client = s.client) (hstore : storeAfterAll s.store events = s.store) :
    s.KeepsSession s' := by
  refine ⟨?_, ?_, h.happens.store_eq.trans hstore⟩
  · rw [hclient]
  · rw [hclient]

/-- Where a credential is held, the acquisition keeps the session. -/
theorem Action.acquire_keepsSession (a : Action) {s : Site β σ}
    (hheld : s.client.credential.isSome = true) : s.KeepsSession (a.acquire.run s).2 := by
  have hunqueued : s.KeepsSession s.acquired := by
    rw [Site.acquired, Operation.run_ensureSession_of_held (by exact hheld)]
    exact ⟨rfl, rfl, rfl⟩
  cases a with
  | login | logout | withHeaders => exact .refl s
  | request r =>
    cases r with
    | error => exact .refl s
    | ok => exact hunqueued
  | sendWith => exact hunqueued
  | pool =>
    rw [acquire, Operation.run_ensureSession_of_held hheld]
    exact .refl s

/-- The second part of an action that sends requests keeps the session, unless one of its requests
is rejected and the action renews its session. -/
theorem Action.finish_keepsSession {a : Action} (hsends : a.sends = true)
    (headers : List Http.Header) (s : Site β σ) :
    ∃ events, s.Passes events ((a.finish headers).run s).2 ∧
      ((a.renews = true → ∀ call ∈ calls events, call.purpose = .business → ¬ call.IsRejected) →
        s.KeepsSession ((a.finish headers).run s).2) := by
  cases a with
  | login | logout | withHeaders => cases hsends
  | request r =>
    cases r with
    | error => exact ⟨[], .refl s, fun _ => .refl s⟩
    | ok r =>
      obtain ⟨events, result, s', hrun, hdeliver, hpass⟩ :=
        Operation.deliver_following r headers s
      simp only [finish, Operation.run_map, hrun]
      refine ⟨events, hpass, fun hcalm => ?_⟩
      obtain ⟨hclient, -, hstore⟩ := hdeliver.of_not_isRejected s.store (hcalm rfl)
      exact hpass.keepsSession hclient hstore
  | sendWith method endpoint adjustments =>
    simp only [finish, Operation.run_map, Operation.run_sendAdjusted]
    cases s.client.adjusted method endpoint adjustments headers with
    | error => exact ⟨[], .refl s, fun _ => .refl s⟩
    | ok request =>
      obtain ⟨events, outcome, s', hrun, hclient, hsend, hpass⟩ :=
        Operation.send_following .business request s
      simp only [Operation.run_bind, hrun, Operation.run_require]
      exact ⟨events, hpass, fun _ => hpass.keepsSession hclient (hsend.storeAfterAll_eq s.store)⟩
  | pool declarations =>
    let s₁ := s.after
      (.noted (.poolDispatched s.client.slot (Pool.ofDeclarations declarations).size))
    have hpass₁ : s.Passes _ s₁ := (Site.Passes.refl s).noted _
    obtain ⟨events, results, s', hrun, hclient, hall, hpass⟩ :=
      Operation.dispatchAll_following (Pool.ofDeclarations declarations).entries s₁
    simp only [finish, Operation.run_bind, Operation.run_client, Operation.run_note]
    rw [hrun]
    have hstore := hall.storeAfterAll_eq s.store
    exact ⟨_, hpass₁.trans hpass, fun _ => (hpass₁.trans hpass).keepsSession hclient hstore⟩

/-- Whatever the client and its store are, and whatever is answered: an action that sends requests
leaves the credential, the state and the store as its acquisition of a session has left them, unless
it is a request that renews its session and is rejected. Where a credential is held, it leaves them
as they were. -/
theorem Site.perform_keepsSession (s : Site β σ) {a : Action} (hsends : a.sends = true)
    {events : List Event} (htrace : (s.perform a).2.trace = s.trace ++ events)
    (hcalm : a.renews = true →
      ∀ call ∈ calls events, call.purpose = .business → ¬ call.IsRejected) :
    Site.KeepsSession (a.acquire.run s).2 (s.perform a).2 ∧
      (s.client.credential.isSome = true → s.KeepsSession (s.perform a).2) := by
  have hkept : Site.KeepsSession (a.acquire.run s).2 (s.perform a).2 := by
    obtain ⟨front, hfront⟩ := a.acquire_passes s
    rw [perform_eq, Operation.run_bind] at htrace ⊢
    generalize a.acquire.run s = acquired at hfront htrace ⊢
    obtain ⟨result, s₁⟩ := acquired
    cases result with
    | error => exact .refl s₁
    | ok =>
      obtain ⟨rest, hpass, hkeeps⟩ := a.finish_keepsSession hsends s.client.queued s₁
      obtain rfl := List.append_cancel_left ((hfront.trans hpass).trace_eq.symm.trans htrace)
      refine hkeeps fun hrenews call hcall => hcalm hrenews call ?_
      rw [calls_append]
      exact List.mem_append_right _ hcall
  exact ⟨hkept, fun hheld => (a.acquire_keepsSession hheld).trans hkept⟩

end

/-- A client that is logged in keeps its session when the server fails. -/
theorem Site.perform_keepsSession_failing :
    ∃ s s' : Site ScriptedBackend MemoryStore,
      Config.plainSample.site? (.granting [] "B1SESSION=a" 500) .empty = some s ∧
      s' = { (s.perform .login).2 with trace := [] } ∧
      s'.client.credential = some ⟨"B1SESSION=a"⟩ ∧
      (calls (s'.perform (.request (.ok (.get "Items")))).2.trace).map (fun call =>
        (call.purpose, call.outcome.map (·.status))) = [(.business, .ok 500)] ∧
      s'.KeepsSession (s'.perform (.request (.ok (.get "Items")))).2 := by
  have h : (Config.plainSample.site? (ScriptedBackend.granting [] "B1SESSION=a" 500)
      MemoryStore.empty).any (fun s =>
      let s' : Site ScriptedBackend MemoryStore := { (s.perform .login).2 with trace := [] }
      s'.client.credential = some ⟨"B1SESSION=a"⟩ ∧
      (calls (s'.perform (.request (.ok (.get "Items")))).2.trace).map (fun call =>
        (call.purpose, call.outcome.map (·.status))) = [(.business, .ok 500)] ∧
      ∀ call ∈ calls (s'.perform (.request (.ok (.get "Items")))).2.trace,
        ¬ call.IsRejected) = true := by
    decide +kernel
  obtain ⟨s, hsite, hs⟩ := (Option.any_eq_true _ _).1 h
  obtain ⟨hheld, hcalls, hcalm⟩ := of_decide_eq_true hs
  refine ⟨s, _, hsite, rfl, hheld, hcalls, ?_⟩
  obtain ⟨-, hkept⟩ := Site.perform_keepsSession
    { (s.perform .login).2 with trace := [] } (a := .request (.ok (.get "Items"))) rfl
    (List.nil_append _).symm fun _ call hcall _ => hcalm call hcall
  exact hkept (by rw [hheld]; rfl)

end ODataSession
