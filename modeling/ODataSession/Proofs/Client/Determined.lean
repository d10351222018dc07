import ODataSession.Proofs.Client.Following

/-!
# Runs are determined by what they are told

An operation learns of the backend and of the store only what they answer. So if the events of a
run could happen as well at another site of the same client, with another backend or another kind of
store, then the run at this site has the same result, leaves the same client and lets the same
events pass (`Site.perform_eq_of_happens`). The relation between two operations that is behind this
passes from the parts of a sequence to the sequence, and the primitive operations have it; the
operations of a client follow in the order of their definitions.
-/

namespace ODataSession

namespace Operation

section
variable {β σ β' σ' α γ : Type} [Http.Backend β] [SessionStore σ] [Http.Backend β']
  [SessionStore σ']

/-- Wherever the events of a run of the first operation could happen, the second operation has the
result of this run, and it leaves the same client and lets these events pass. -/
def Mirrors (op : Operation β σ α) (op' : Operation β' σ' α) : Prop :=
  ∀ s : Site β σ, ∃ events, s.Passes events (op.run s).2 ∧
    ∀ (t : Site β' σ') (b : β') (m : σ'), t.client = s.client →
      Happens t.backend t.store events b m →
        op'.run t = ((op.run s).1, ⟨(op.run s).2.client, b, m, t.trace ++ events⟩)

/-! ## Primitive operations -/

/-- Where nothing happens, the backend and the store stay. -/
theorem eq_of_happens_nil {b b' : β} {m m' : σ} (h : Happens b m [] b' m') : b' = b ∧ m' = m := by
  cases h with
  | nil => exact ⟨rfl, rfl⟩

/-- Where one event happens, it is true, and the backend and the store are as it leaves them. -/
theorem eq_of_happens_singleton {b b' : β} {m m' : σ} {e : Event} (h : Happens b m [e] b' m') :
    e.IsTrue b m ∧ b' = e.backendAfter b ∧ m' = e.storeAfter m := by
  cases h with
  | cons now next =>
    obtain ⟨rfl, rfl⟩ := eq_of_happens_nil next
    exact ⟨now, rfl, rfl⟩

/-- An operation that lets nothing pass is mirrored if it depends on the client only. -/
theorem Mirrors.of_client {op : Operation β σ α} {op' : Operation β' σ' α}
    (f : Client → Except ClientError α × Client)
    (h : ∀ s, op.run s = ((f s.client).1, { s with client := (f s.client).2 }))
    (h' : ∀ t, op'.run t = ((f t.client).1, { t with client := (f t.client).2 })) :
    op.Mirrors op' := by
  intro s
  rw [h s]
  refine ⟨[], (Site.Passes.refl s).updated _, fun t b m hclient hhappens => ?_⟩
  obtain ⟨rfl, rfl⟩ := eq_of_happens_nil hhappens
  rw [h', hclient, List.append_nil]

/-- An operation that lets one event pass is mirrored if the event and the result depend on one
answer only. -/
theorem Mirrors.of_event {δ : Type} {op : Operation β σ α} {op' : Operation β' σ' α}
    (told : Site β σ → δ) (told' : Site β' σ' → δ) (event : Client → δ → Event)
    (result : δ → Except ClientError α)
    (h : ∀ s, op.run s = (result (told s), s.after (event s.client (told s))) ∧
      (event s.client (told s)).IsTrue s.backend s.store)
    (h' : ∀ t, op'.run t = (result (told' t), t.after (event t.client (told' t))))
    (honly : ∀ t d, (event t.client d).IsTrue t.backend t.store → d = told' t) :
    op.Mirrors op' := by
  intro s
  obtain ⟨hrun, htrue⟩ := h s
  rw [hrun]
  refine ⟨_, (Site.Passes.refl s).after htrue, fun t b m hclient hhappens => ?_⟩
  obtain ⟨htrue', rfl, rfl⟩ := eq_of_happens_singleton hhappens
  obtain ⟨c, b, m, trace⟩ := t
  subst hclient
  rw [h', ← honly _ _ htrue']
  rfl

/-- A value mirrors itself. -/
theorem Mirrors.pure (a : α) : (Pure.pure a : Operation β σ α).Mirrors
    (Pure.pure a : Operation β' σ' α) :=
  .of_client (fun c => (.ok a, c)) (fun _ => rfl) (fun _ => rfl)

/-- An error mirrors itself. -/
theorem Mirrors.throw (e : ClientError) : (MonadExcept.throw e : Operation β σ α).Mirrors
    (MonadExcept.throw e : Operation β' σ' α) :=
  .of_client (fun c => (.error e, c)) (fun _ => rfl) (fun _ => rfl)

/-- A demand mirrors itself. -/
theorem Mirrors.require {ε : Type} (cause : ε → ClientError) (r : Except ε α) :
    (Operation.require cause r : Operation β σ α).Mirrors
      (Operation.require cause r : Operation β' σ' α) :=
  .of_client (fun c => (r.mapError cause, c)) (run_require · cause r) (run_require · cause r)

/-- The client is the same. -/
theorem Mirrors.client : (Operation.client : Operation β σ Client).Mirrors
    (Operation.client : Operation β' σ' Client) :=
  .of_client (fun c => (.ok c, c)) (fun _ => rfl) (fun _ => rfl)

/-- An update mirrors itself. -/
theorem Mirrors.update (f : Client → Client) : (Operation.update f : Operation β σ Unit).Mirrors
    (Operation.update f : Operation β' σ' Unit) :=
  .of_client (fun c => (.ok (), f c)) (fun _ => rfl) (fun _ => rfl)

/-- A notice mirrors itself. -/
theorem Mirrors.note (notice : Notice) : (Operation.note notice : Operation β σ Unit).Mirrors
    (Operation.note notice : Operation β' σ' Unit) :=
  .of_event (fun _ => ()) (fun _ => ()) (fun _ _ => .noted notice) (fun _ => .ok ())
    (fun _ => ⟨rfl, trivial⟩) (fun _ => rfl) (fun _ _ _ => rfl)

/-- A pause mirrors itself. -/
theorem Mirrors.pause (milliseconds : UInt64) :
    (Operation.pause milliseconds : Operation β σ Unit).Mirrors
      (Operation.pause milliseconds : Operation β' σ' Unit) :=
  .of_event (fun _ => ()) (fun _ => ()) (fun _ _ => .paused milliseconds) (fun _ => .ok ())
    (fun _ => ⟨rfl, trivial⟩) (fun _ => rfl) (fun _ _ _ => rfl)

/-- A question to the store mirrors itself. -/
theorem Mirrors.lookUp (key : String) : (Operation.lookUp key : Operation β σ _).Mirrors
    (Operation.lookUp key : Operation β' σ' _) :=
  .of_event (fun s => (SessionStore.get s.store key).1) (fun t => (SessionStore.get t.store key).1)
    (fun _ outcome => .got key outcome) .ok (fun s => ⟨run_lookUp s key, rfl⟩)
    (fun t => run_lookUp t key) (fun _ _ h => h)

/-- A question for the presence of a token mirrors itself. -/
theorem Mirrors.check (key : String) : (Operation.check key : Operation β σ _).Mirrors
    (Operation.check key : Operation β' σ' _) :=
  .of_event (fun s => (SessionStore.has s.store key).1) (fun t => (SessionStore.has t.store key).1)
    (fun _ outcome => .checked key outcome) .ok (fun s => ⟨run_check s key, rfl⟩)
    (fun t => run_check t key) (fun _ _ h => h)

/-- Storing mirrors itself. -/
theorem Mirrors.keep (key token : String) (lifetime : Nat) :
    (Operation.keep key token lifetime : Operation β σ _).Mirrors
      (Operation.keep key token lifetime : Operation β' σ' _) :=
  .of_event (fun s => (SessionStore.put s.store key token (.ofSeconds lifetime)).1)
    (fun t => (SessionStore.put t.store key token (.ofSeconds lifetime)).1)
    (fun _ outcome => .put key token lifetime outcome) .ok
    (fun s => ⟨run_keep s key token lifetime, rfl⟩) (fun t => run_keep t key token lifetime)
    (fun _ _ h => h)

/-- Dropping a token mirrors itself. -/
theorem Mirrors.forget (key : String) : (Operation.forget key : Operation β σ _).Mirrors
    (Operation.forget key : Operation β' σ' _) :=
  .of_event (fun s => (SessionStore.forget s.store key).1)
    (fun t => (SessionStore.forget t.store key).1) (fun _ outcome => .forgot key outcome) .ok
    (fun s => ⟨run_forget s key, rfl⟩) (fun t => run_forget t key) (fun _ _ h => h)

/-- Sending mirrors itself, whether or not the request can be written. -/
theorem Mirrors.send (purpose : Purpose) (request : Http.Request) :
    (Operation.send purpose request : Operation β σ _).Mirrors
      (Operation.send purpose request : Operation β' σ' _) := by
  cases h : Http.isSendable request.url with
  | false =>
    exact .of_client (fun c => (.ok (.error ⟨.unbuildable, some request.url⟩), c))
      (fun s => by rw [run_send, h]; rfl) (fun t => by rw [run_send, h]; rfl)
  | true =>
    exact .of_event (fun s => (Http.Backend.answer s.backend (s.client.complete request)).1)
      (fun t => (Http.Backend.answer t.backend (t.client.complete request)).1)
      (fun c outcome => .sent purpose (c.complete request) outcome) .ok
      (fun s => ⟨by rw [run_send, h]; rfl, rfl⟩) (fun t => by rw [run_send, h]; rfl)
      (fun _ _ h => h)

/-! ## Sequences -/

/-- A sequence mirrors another one if its parts mirror those of the other. -/
theorem Mirrors.bind {op : Operation β σ α} {op' : Operation β' σ' α} {f : α → Operation β σ γ}
    {f' : α → Operation β' σ' γ} (h : op.Mirrors op') (hf : ∀ a, (f a).Mirrors (f' a)) :
    (op >>= f).Mirrors (op' >>= f') := by
  intro s
  obtain ⟨events, hpass, hmirror⟩ := h s
  rw [run_bind]
  cases hrun : op.run s with
  | mk result s₁ =>
    rw [hrun] at hpass hmirror
    cases result with
    | error e =>
      refine ⟨events, hpass, fun t b m hclient hhappens => ?_⟩
      rw [run_bind, hmirror t b m hclient hhappens]
    | ok a =>
      obtain ⟨events', hpass', hmirror'⟩ := hf a s₁
      refine ⟨events ++ events', hpass.trans hpass', fun t b m hclient hhappens => ?_⟩
      obtain ⟨b₁, m₁, hfirst, hrest⟩ := hhappens.of_append
      rw [run_bind, hmirror t b₁ m₁ hclient hfirst, ← List.append_assoc]
      exact hmirror' ⟨s₁.client, b₁, m₁, t.trace ++ events⟩ b m rfl hrest

/-- A transformed value mirrors the other one. -/
theorem Mirrors.map {op : Operation β σ α} {op' : Operation β' σ' α} (f : α → γ)
    (h : op.Mirrors op') : (f <$> op).Mirrors (f <$> op') := by
  rw [map_eq_pure_bind, map_eq_pure_bind]
  exact h.bind fun a => .pure (f a)

/-- An operation that is observed mirrors the other one. -/
theorem Mirrors.observe {op : Operation β σ α} {op' : Operation β' σ' α} (h : op.Mirrors op') :
    (Operation.observe op).Mirrors (Operation.observe op') := by
  intro s
  obtain ⟨events, hpass, hmirror⟩ := h s
  refine ⟨events, hpass, fun t b m hclient hhappens => ?_⟩
  rw [run_observe, run_observe, hmirror t b m hclient hhappens]

/-- Operations on the members of a list mirror one another if each does. -/
theorem Mirrors.mapM {op : α → Operation β σ γ} {op' : α → Operation β' σ' γ}
    (h : ∀ a, (op a).Mirrors (op' a)) (l : List α) : (l.mapM op).Mirrors (l.mapM op') := by
  induction l with
  | nil => exact .pure []
  | cons a l ih =>
    rw [List.mapM_cons, List.mapM_cons]
    exact (h a).bind fun c => ih.bind fun cs => .pure (c :: cs)

/-! ## Sessions -/

/-- A login that is given up mirrors itself. -/
theorem abandonLogin_mirrors (attempt : UInt32) (failure : Http.Failure) :
    (abandonLogin attempt failure : Operation β σ α).Mirrors
      (abandonLogin attempt failure : Operation β' σ' α) :=
  Mirrors.client.bind fun _ => (Mirrors.note _).bind fun _ =>
    (Mirrors.update _).bind fun _ => .throw _

/-- A login that is sent mirrors itself. -/
theorem sendLogin_mirrors (c : Client) (request : Http.Request) (attempt : UInt32) :
    (sendLogin c request attempt : Operation β σ _).Mirrors
      (sendLogin c request attempt : Operation β' σ' _) := by
  induction attempt using sendLogin.induct c with
  | case1 attempt ih =>
    unfold sendLogin
    refine (Mirrors.send .login request).bind fun outcome => ?_
    cases outcome with
    | ok response => exact .pure (response, attempt)
    | error failure =>
      dsimp only
      split
      · next delay hdelay =>
        exact (Mirrors.note _).bind fun _ => (Mirrors.pause delay).bind fun _ =>
          ih failure delay hdelay
      · exact abandonLogin_mirrors attempt failure

/-- A refusal mirrors itself. -/
theorem refuse_mirrors (response : Http.Response) (refusal : LoginRefusal) :
    (refuse response refusal : Operation β σ Unit).Mirrors
      (refuse response refusal : Operation β' σ' Unit) :=
  Mirrors.client.bind fun _ => (Mirrors.update _).bind fun _ => .throw _

/-- What is made of the answer to a login mirrors itself. -/
theorem concludeLogin_mirrors (c : Client) (response : Http.Response) (attempt : UInt32) :
    (concludeLogin c response attempt : Operation β σ Unit).Mirrors
      (concludeLogin c response attempt : Operation β' σ' Unit) := by
  unfold concludeLogin
  cases response.status.isSuccess with
  | false => exact (Mirrors.note _).bind fun _ => refuse_mirrors _ _
  | true =>
    cases Credential.ofSetCookie? response.setCookie with
    | none => exact (Mirrors.note _).bind fun _ => refuse_mirrors _ _
    | some credential =>
      refine (Mirrors.keep _ _ _).bind fun outcome => ?_
      cases outcome with
      | error e =>
        exact (Mirrors.note _).bind fun _ => (Mirrors.update _).bind fun _ => .throw _
      | ok => exact (Mirrors.note _).bind fun _ => .update _

/-- Opening a session mirrors itself. -/
theorem openSession_mirrors : (openSession : Operation β σ Unit).Mirrors
    (openSession : Operation β' σ' Unit) := by
  rw [openSession_eq, openSession_eq]
  exact Mirrors.client.bind fun c => (Mirrors.require _ _).bind fun _ =>
    (sendLogin_mirrors _ _ _).bind fun answer => concludeLogin_mirrors c answer.1 answer.2

/-- A login mirrors itself. -/
theorem login_mirrors : (login : Operation β σ Unit).Mirrors
    (login : Operation β' σ' Unit) := by
  refine Mirrors.client.bind fun c => (Mirrors.lookUp _).bind fun outcome =>
    (Mirrors.require _ outcome).bind fun token? => ?_
  cases token? with
  | none => exact (Mirrors.note _).bind fun _ => openSession_mirrors
  | some token => exact (Mirrors.note _).bind fun _ => .update _

/-- An acquisition mirrors itself. -/
theorem ensureSession_mirrors : (ensureSession : Operation β σ Unit).Mirrors
    (ensureSession : Operation β' σ' Unit) := by
  refine Mirrors.client.bind fun c => ?_
  cases c.credential with
  | none => exact login_mirrors
  | some credential => exact .pure ()

/-- Finding the credential of a session mirrors itself. -/
theorem credentialToClose_mirrors : (credentialToClose : Operation β σ _).Mirrors
    (credentialToClose : Operation β' σ' _) := by
  refine Mirrors.client.bind fun c => ?_
  cases c.credential with
  | none =>
    exact (Mirrors.lookUp _).bind fun outcome => (Mirrors.require _ outcome).bind fun _ => .pure _
  | some credential => exact .pure (some credential)

/-- What is made of the answer to a logout mirrors itself. -/
theorem concludeLogout_mirrors (c : Client) (outcome : Except Http.Failure Http.Response) :
    (concludeLogout c outcome : Operation β σ Unit).Mirrors
      (concludeLogout c outcome : Operation β' σ' Unit) := by
  refine (Mirrors.forget _).bind fun dropped => (Mirrors.require _ dropped).bind fun _ =>
    (Mirrors.update _).bind fun _ => ?_
  cases outcome with
  | ok response => exact .note _
  | error failure => exact (Mirrors.note _).bind fun _ => .throw _

/-- A logout mirrors itself. -/
theorem logout_mirrors : (logout : Operation β σ Unit).Mirrors
    (logout : Operation β' σ' Unit) := by
  rw [logout_eq, logout_eq]
  refine Mirrors.client.bind fun c => (Mirrors.check _).bind fun outcome =>
    (Mirrors.require _ outcome).bind fun present => ?_
  cases present with
  | false => exact .note _
  | true =>
    exact credentialToClose_mirrors.bind fun credential => (Mirrors.require _ _).bind fun url =>
      (Mirrors.send _ _).bind fun answer => concludeLogout_mirrors c answer

/-! ## Requests -/

/-- A request that is sent once mirrors itself. -/
theorem dispatch_mirrors (r : PendingRequest) (headers : List Http.Header) :
    (dispatch r headers : Operation β σ _).Mirrors (dispatch r headers : Operation β' σ' _) :=
  Mirrors.client.bind fun _ => (Mirrors.require _ _).bind fun _ =>
    (Mirrors.send _ _).bind fun _ => .require _ _

/-- Giving a session up mirrors itself. -/
theorem evictSession_mirrors : (evictSession : Operation β σ Unit).Mirrors
    (evictSession : Operation β' σ' Unit) := by
  refine (Mirrors.update _).bind fun _ => Mirrors.client.bind fun c =>
    (Mirrors.forget _).bind fun outcome => ?_
  cases outcome with
  | ok => exact .pure ()
  | error e => exact (Mirrors.note _).bind fun _ => (Mirrors.update _).bind fun _ => .throw _

/-- What is made of the answer to a replay mirrors itself. -/
theorem concludeReplay_mirrors (response : Http.Response) :
    (concludeReplay response : Operation β σ _).Mirrors
      (concludeReplay response : Operation β' σ' _) := by
  unfold concludeReplay
  cases response.status.isSessionExpired with
  | false => exact .pure response
  | true => exact Mirrors.client.bind fun _ => (Mirrors.note _).bind fun _ => .pure response

/-- A renewal mirrors itself. -/
theorem renewAndReplay_mirrors (r : PendingRequest) :
    (renewAndReplay r : Operation β σ _).Mirrors (renewAndReplay r : Operation β' σ' _) := by
  rw [renewAndReplay_eq, renewAndReplay_eq]
  exact evictSession_mirrors.bind fun _ => openSession_mirrors.bind fun _ =>
    (dispatch_mirrors r []).bind concludeReplay_mirrors

/-- A request that is delivered mirrors itself. -/
theorem deliver_mirrors (r : PendingRequest) (headers : List Http.Header) :
    (deliver r headers : Operation β σ _).Mirrors (deliver r headers : Operation β' σ' _) := by
  refine (dispatch_mirrors r headers).bind fun response => ?_
  cases response.status.isSessionExpired with
  | false => exact .pure response
  | true =>
    exact Mirrors.client.bind fun _ => (Mirrors.note _).bind fun _ => renewAndReplay_mirrors r

/-- The headers that are taken from the queue are the same. -/
theorem takeHeaders_mirrors : (takeHeaders : Operation β σ _).Mirrors
    (takeHeaders : Operation β' σ' _) :=
  Mirrors.client.bind fun _ => (Mirrors.update _).bind fun _ => .pure _

/-- A request mirrors itself. -/
theorem sendPending_mirrors (r : PendingRequest) :
    (sendPending r : Operation β σ _).Mirrors (sendPending r : Operation β' σ' _) := by
  rw [sendPending_eq, sendPending_eq]
  exact takeHeaders_mirrors.bind fun headers => ensureSession_mirrors.bind fun _ =>
    deliver_mirrors r headers

/-- An adjusted request mirrors itself. -/
theorem sendWith_mirrors (method : Http.Method) (endpoint : String)
    (adjustments : List Adjustment) :
    (sendWith method endpoint adjustments : Operation β σ _).Mirrors
      (sendWith method endpoint adjustments : Operation β' σ' _) := by
  rw [sendWith_eq, sendWith_eq]
  exact takeHeaders_mirrors.bind fun _ => ensureSession_mirrors.bind fun _ =>
    Mirrors.client.bind fun _ => (Mirrors.require _ _).bind fun _ =>
      (Mirrors.require _ _).bind fun _ => (Mirrors.send _ _).bind fun _ => .require _ _

/-- A declared request mirrors itself. -/
theorem dispatchDeclared_mirrors (entry : PoolKey × Except EncodeError PendingRequest) :
    (dispatchDeclared entry : Operation β σ _).Mirrors
      (dispatchDeclared entry : Operation β' σ' _) :=
  ((Mirrors.require _ _).bind fun r => dispatch_mirrors r []).observe.bind fun _ => .pure _

/-- A pool mirrors itself. -/
theorem pool_mirrors (p : Pool) :
    (pool p : Operation β σ _).Mirrors (pool p : Operation β' σ' _) :=
  ensureSession_mirrors.bind fun _ => Mirrors.client.bind fun _ => (Mirrors.note _).bind fun _ =>
    (Mirrors.mapM dispatchDeclared_mirrors p.entries).bind fun _ => .pure _

/-- Every action mirrors itself. -/
theorem perform_mirrors (a : Action) :
    (a.perform : Operation β σ Outcome).Mirrors (a.perform : Operation β' σ' Outcome) := by
  cases a with
  | login => exact login_mirrors.bind fun _ => .pure _
  | logout => exact logout_mirrors.bind fun _ => .pure _
  | withHeaders pairs =>
    exact (Mirrors.client.bind fun _ => (Mirrors.require _ _).bind fun c => .update _).bind
      fun _ => .pure _
  | request r =>
    exact ((Mirrors.require _ r).bind fun r => sendPending_mirrors r).map _
  | sendWith method endpoint adjustments =>
    exact (sendWith_mirrors method endpoint adjustments).map _
  | pool declarations => exact (pool_mirrors _).map _

end

end Operation

/-- Where the events of an action at one site could happen at another site of the same client, the
action has the same result there, leaves the same client and lets these events pass. -/
theorem Site.perform_eq_of_happens {β σ β' σ' : Type} [Http.Backend β] [SessionStore σ]
    [Http.Backend β'] [SessionStore σ'] (s : Site β σ) (t : Site β' σ') (a : Action)
    (hclient : t.client = s.client) {events : List Event}
    (htrace : (s.perform a).2.trace = s.trace ++ events) {b : β'} {m : σ'}
    (h : Happens t.backend t.store events b m) :
    t.perform a = ((s.perform a).1, ⟨(s.perform a).2.client, b, m, t.trace ++ events⟩) := by
  have hmirrors : (a.perform : Operation β σ Outcome).Mirrors
      (a.perform : Operation β' σ' Outcome) := Operation.perform_mirrors a
  obtain ⟨events', hpass, hmirror⟩ := hmirrors s
  obtain rfl := List.append_cancel_left (hpass.trace_eq.symm.trans htrace)
  exact hmirror t b m hclient h

end ODataSession
