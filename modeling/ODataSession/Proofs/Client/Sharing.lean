import ODataSession.Proofs.Client.Continuity
import ODataSession.Proofs.Client.Slots

/-!
# One login for all clients of a key

Clients with one key on a store in memory use one session. Once a login of one of them has been
granted, the token is in the store, and as long as no session is closed and no request is rejected,
every client that needs a session finds the token there: it logs in nowhere and holds the same
credential (`Scenario.performances_one_login`). The invariant of the run is that the store holds the
token under the key; what one action does to it is `Performance.settled` for the action of the
granted login and `Performance.keeps` for those behind it, and clients with other keys leave it
alone because they are on other slots.
-/

namespace ODataSession

/-! ## Tokens that a store holds -/

/-- A store has a live token of a credential under a key. -/
def MemoryStore.Holds (m : MemoryStore) (key : String) (credential : Credential) : Prop :=
  ∃ entry : StoredToken, entry.isLiveAt .origin = true ∧ entry.token = credential.cookie ∧
    m.find? key = some entry

section
variable {m : MemoryStore} {key : String} {credential : Credential}

/-- A live token is handed out, and the store stays as it is. -/
theorem MemoryStore.Holds.get_eq (h : m.Holds key credential) :
    m.get key = (some credential.cookie, m) := by
  obtain ⟨entry, hlive, htoken, hfind⟩ := h
  simp only [get, getAt, hfind, hlive, htoken, reduceIte]

/-- A token that is put for some time is live. -/
theorem MemoryStore.holds_put (m : MemoryStore) (key : String) (credential : Credential)
    {lifetime : Nat} (h : 0 < lifetime) :
    (m.put key credential.cookie lifetime).Holds key credential :=
  ⟨⟨credential.cookie, expiry .origin (.ofSeconds lifetime)⟩, by simp [h.ne'], rfl,
    (m.find?_putAt .origin key _ _ key).trans (if_pos rfl)⟩

end

/-! ## Clients that find a token -/

section
variable {β : Type} [Http.Backend β] {b b' : β} {m m' : MemoryStore} {c c' : Client}
  {r : PendingRequest} {events : List Event} {credential : Credential}

/-- A login where the store holds a token takes the token and calls nobody. -/
theorem LoggingIn.of_holds {result : Except ClientError Unit} (h : LoggingIn c events result c')
    (hhappens : Happens b m events b' m') (hm : m.Holds c.key.text credential) :
    result = .ok () ∧ calls events = [] ∧ c' = c.adopt credential ∧ m' = m := by
  have hget : SessionStore.get m c.key.text = (.ok (some credential.cookie), m) := by
    change (Except.ok (m.get c.key.text).1, (m.get c.key.text).2) = _
    rw [hm.get_eq]
  have hstore := hhappens.store_eq
  cases h with
  | unanswered =>
    have hnow : Except.error _ = (SessionStore.get m c.key.text).1 := hhappens.isTrue_head
    rw [hget] at hnow
    cases hnow
  | reused =>
    have hnow : Except.ok (some _) = (SessionStore.get m c.key.text).1 := hhappens.isTrue_head
    rw [hget] at hnow
    cases hnow
    exact ⟨rfl, rfl, rfl, hstore.trans (congrArg Prod.snd hget)⟩
  | opening =>
    have hnow : Except.ok none = (SessionStore.get m c.key.text).1 := hhappens.isTrue_head
    rw [hget] at hnow
    cases hnow

/-- An acquisition where the store holds a token calls nobody, and a client without a credential
takes the token. -/
theorem Acquiring.of_holds {result : Except ClientError Unit} (h : Acquiring c events result c')
    (hhappens : Happens b m events b' m') (hm : m.Holds c.key.text credential) :
    result = .ok () ∧ calls events = [] ∧
      c'.credential = (if c.credential.isNone then some credential else c.credential) ∧
      m' = m := by
  cases h with
  | held hheld =>
    obtain ⟨held, hheld⟩ := Option.isSome_iff_exists.1 hheld
    refine ⟨rfl, rfl, ?_, hhappens.store_eq⟩
    rw [hheld]
    rfl
  | loggingIn hnone hlogin =>
    obtain ⟨hresult, hcalls, rfl, hstore⟩ := hlogin.of_holds hhappens hm
    refine ⟨hresult, hcalls, ?_, hstore⟩
    rw [hnone]
    rfl

/-- A request has its purpose. -/
theorem Sending.purpose_eq {purpose : Purpose} {request : Http.Request}
    {outcome : Except Http.Failure Http.Response} (h : Sending c purpose request events outcome) :
    ∀ call ∈ calls events, call.purpose = purpose := by
  intro call hcall
  rw [h.eq_of_mem_calls hcall]

/-- The entries of a pool are no logins. -/
theorem DispatchingAll.purpose_eq {entries : List (PoolKey × Except EncodeError PendingRequest)}
    {results : List (PoolKey × Except ClientError Http.Response)}
    (h : DispatchingAll c entries events results) :
    ∀ call ∈ calls events, call.purpose = .business := by
  intro call hcall
  obtain ⟨_, _, _, hsend, hmem⟩ := h.exists_dispatching hcall
  exact (hsend.carries hmem).2.purpose_eq

/-! ## Logins that are granted -/

/-- Nothing is called behind an attempt at a login that is answered. -/
theorem Attempting.eq_nil_of_answered {request : Http.Request} {attempt : UInt32}
    {result : Except Http.Failure (Http.Response × UInt32)}
    (h : Attempting c request attempt events result) {before after : List Call} {call : Call}
    (hcalls : calls events = before ++ call :: after) {response : Http.Response}
    (hcall : call.outcome = .ok response) : after = [] ∧ ∃ n, result = .ok (response, n) := by
  have hfailed : ∀ {events failure}, Sending c .login request events (.error failure) →
      call ∉ calls events := by
    intro events failure hsend hmem
    rw [hsend.outcome_of_mem_calls hmem] at hcall
    cases hcall
  induction h generalizing before with
  | answered h =>
    rw [h.calls_of_ok] at hcalls
    obtain ⟨rfl, hcalls⟩ | ⟨_, -, hcalls⟩ := List.cons_eq_append_iff.1 hcalls
    · obtain ⟨rfl, rfl⟩ := List.cons.inj hcalls
      cases hcall
      exact ⟨rfl, _, rfl⟩
    · cases List.append_ne_nil_of_right_ne_nil _ (List.cons_ne_nil _ _) hcalls.symm
  | abandoned h =>
    refine (hfailed h ?_).elim
    rw [calls_append] at hcalls
    exact (List.append_nil (calls _)).symm.trans hcalls ▸ List.mem_append_right _ List.mem_cons_self
  | repeated h _ _ ih =>
    rw [calls_append] at hcalls
    rcases append_eq_append_cons hcalls with ⟨mid, hfirst, -⟩ | ⟨mid, -, hrest⟩
    · exact (hfailed h (hfirst ▸ List.mem_append_right _ List.mem_cons_self)).elim
    · exact ih hrest

/-- A session is opened where a login is granted: nothing is called behind that, and the client and
the store take the credential. -/
theorem Opening.of_grants {result : Except ClientError Unit} (h : Opening c events result c')
    (hhappens : Happens b m events b' m') {before after : List Call} {login : Call}
    (hcalls : calls events = before ++ login :: after) (hgrants : login.Grants credential) :
    result = .ok () ∧ after = [] ∧ c' = c.adopt credential ∧
      m' = m.put c.key.text credential.cookie c.config.cacheTtl.toNat := by
  obtain ⟨response, houtcome, hsuccess, hcookie⟩ := hgrants
  have hput := hhappens.not_put_error
  have hstore := hhappens.store_eq
  have hanswer : ∀ {events₀ request result₀}, Attempting c request 1 events₀ result₀ →
      calls events = calls events₀ → after = [] ∧ ∃ n, result₀ = .ok (response, n) :=
    fun hattempt heq => hattempt.eq_nil_of_answered (heq ▸ hcalls) houtcome
  cases h with
  | noEndpoint => cases List.append_ne_nil_of_right_ne_nil _ (List.cons_ne_nil _ _) hcalls.symm
  | unreached _ hattempt =>
    obtain ⟨-, n, hresult⟩ := hanswer hattempt rfl
    cases hresult
  | rejected _ hattempt hstatus =>
    obtain ⟨-, n, hresult⟩ := hanswer hattempt (by simp)
    cases hresult
    rw [hstatus] at hsuccess
    cases hsuccess
  | cookieless _ hattempt _ hnone =>
    obtain ⟨-, n, hresult⟩ := hanswer hattempt (by simp)
    cases hresult
    rw [hnone] at hcookie
    cases hcookie
  | unstored => exact absurd (List.mem_append_right _ List.mem_cons_self) (hput _ _ _ _)
  | opened _ hattempt _ hsome =>
    obtain ⟨hnil, n, hresult⟩ := hanswer hattempt (by simp [Client.stores])
    cases hresult
    obtain rfl := Option.some.inj (hsome.symm.trans hcookie)
    refine ⟨rfl, hnil, rfl, ?_⟩
    rw [hstore, storeAfterAll_append, hattempt.storeAfterAll_eq]
    rfl

/-- What a client and the store have where a login was granted. -/
structure Client.Settled (c : Client) (m : MemoryStore) (credential : Credential) : Prop where
  credential_eq : c.credential = some credential
  holds : m.Holds c.key.text credential

/-- A login that is granted leaves the client and the store with the credential, and nothing is
called behind it. -/
theorem LoggingIn.of_grants {result : Except ClientError Unit} (h : LoggingIn c events result c')
    (hhappens : Happens b m events b' m') {before after : List Call} {login : Call}
    (hcalls : calls events = before ++ login :: after) (hgrants : login.Grants credential)
    (hlasting : 0 < c.config.cacheTtl.toNat) :
    result = .ok () ∧ after = [] ∧ c'.Settled m' credential := by
  have hnot : ([] : List Call) ≠ before ++ login :: after :=
    (List.append_ne_nil_of_right_ne_nil _ (List.cons_ne_nil _ _)).symm
  cases h with
  | unanswered | reused => exact absurd hcalls hnot
  | opening hopen =>
    replace hhappens : Happens b m
      ([.got c.key.text (.ok none), .noted (.loggingIn c.slot)] ++ _) b' m' := hhappens
    obtain ⟨_, _, -, hhappens⟩ := hhappens.of_append
    obtain ⟨hresult, hnil, rfl, rfl⟩ := hopen.of_grants hhappens hcalls hgrants
    exact ⟨hresult, hnil, rfl, MemoryStore.holds_put _ _ _ hlasting⟩

/-- An acquisition in which a login is granted leaves the client and the store with the credential,
and nothing is called behind it. -/
theorem Acquiring.of_grants {result : Except ClientError Unit} (h : Acquiring c events result c')
    (hhappens : Happens b m events b' m') {before after : List Call} {login : Call}
    (hcalls : calls events = before ++ login :: after) (hgrants : login.Grants credential)
    (hlasting : 0 < c.config.cacheTtl.toNat) :
    result = .ok () ∧ after = [] ∧ c'.Settled m' credential := by
  cases h with
  | held => cases List.append_ne_nil_of_right_ne_nil _ (List.cons_ne_nil _ _) hcalls.symm
  | loggingIn _ hlogin => exact hlogin.of_grants hhappens hcalls hgrants hlasting

/-- A renewal in which a login is granted leaves the client and the store with the credential, and
no login is behind it. -/
theorem Renewing.of_grants {result : Except ClientError Http.Response}
    (h : Renewing c r events result c') (hhappens : Happens b m events b' m')
    {before after : List Call} {login : Call} (hcalls : calls events = before ++ login :: after)
    (hpurpose : login.purpose = .login) (hgrants : login.Grants credential)
    (hlasting : 0 < c.config.cacheTtl.toNat) :
    (∀ call ∈ after, call.purpose = .business) ∧ c'.Settled m' credential := by
  cases h with
  | unevicted hevict =>
    rw [hevict.calls_eq] at hcalls
    cases List.append_ne_nil_of_right_ne_nil _ (List.cons_ne_nil _ _) hcalls.symm
  | unopened hevict hopen =>
    obtain ⟨_, _, -, hhappens⟩ := hhappens.of_append
    rw [calls_append, hevict.calls_eq] at hcalls
    obtain ⟨hresult, -⟩ := hopen.of_grants hhappens hcalls hgrants
    cases hresult
  | replayed hevict hopen hreplay =>
    obtain ⟨_, _, -, hhappens⟩ := hhappens.of_append
    obtain ⟨_, _, hopened, hrest⟩ := hhappens.of_append
    have hstore := hrest.store_eq
    rw [storeAfterAll_append, hreplay.storeAfterAll_eq, Client.storeAfterAll_complaint] at hstore
    simp only [calls_append, hevict.calls_eq, Client.calls_complaint, List.nil_append,
      List.append_nil] at hcalls
    rcases append_eq_append_cons hcalls with ⟨mid, hfirst, rfl⟩ | ⟨mid, -, hsecond⟩
    · obtain ⟨-, rfl, rfl, rfl⟩ := hopen.of_grants hopened hfirst hgrants
      rw [← hevict.remains.config] at hlasting
      exact ⟨fun call hcall => (hreplay.carries hcall).2.purpose_eq, rfl,
        hstore ▸ MemoryStore.holds_put _ _ _ hlasting⟩
    · have hbusiness := (hreplay.carries (hsecond ▸ List.mem_append_right _ List.mem_cons_self)).2
      rw [hbusiness.purpose_eq] at hpurpose
      cases hpurpose

/-- A delivery in which a login is granted leaves the client and the store with the credential, and
no login is behind it. -/
theorem Delivering.of_grants {headers : List Http.Header}
    {result : Except ClientError Http.Response} (h : Delivering c r headers events result c')
    (hhappens : Happens b m events b' m') {before after : List Call} {login : Call}
    (hcalls : calls events = before ++ login :: after) (hpurpose : login.purpose = .login)
    (hgrants : login.Grants credential) (hlasting : 0 < c.config.cacheTtl.toNat) :
    (∀ call ∈ after, call.purpose = .business) ∧ c'.Settled m' credential := by
  have hnot : ∀ {events result}, Dispatching c r headers events result → login ∉ calls events := by
    intro events result hsend hmem
    rw [(hsend.carries hmem).2.purpose_eq] at hpurpose
    cases hpurpose
  cases h with
  | undelivered hsend | answered hsend =>
    exact absurd (hcalls ▸ List.mem_append_right _ List.mem_cons_self) (hnot hsend)
  | renewed hsend _ hrenew =>
    rw [calls_append] at hcalls
    obtain ⟨_, _, -, hhappens⟩ := hhappens.of_append
    cases hhappens with
    | cons _ hhappens =>
      rcases append_eq_append_cons hcalls with ⟨mid, hfirst, -⟩ | ⟨mid, -, hsecond⟩
      · exact absurd (hfirst ▸ List.mem_append_right _ List.mem_cons_self) (hnot hsend)
      · exact hrenew.of_grants hhappens hsecond hpurpose hgrants hlasting

end

/-! ## Actions -/

/-- Whether an action of a client acquires a session: a login always does, and what needs a session
does where the client holds none. -/
def Action.acquires (c : Client) : Action → Bool
  | .login => true
  | .request (.ok _) | .sendWith .. | .pool _ => c.credential.isNone
  | .logout | .withHeaders _ | .request (.error _) => false

/-- Some calls of an action are no rejected requests. -/
def Action.IsQuiet (a : Action) (l : List Call) : Prop :=
  a.renews = true → ∀ call ∈ l, call.purpose = .business → ¬ call.IsRejected

section
variable {β : Type} [Http.Backend β] {b b' : β} {m m' : MemoryStore} {c c' : Client}
  {events : List Event} {credential : Credential} {before after : List Call} {login : Call}

/-- Requests are no logins. -/
theorem purpose_ne_login {l : List Call} (h : ∀ call ∈ l, call.purpose = .business) :
    ∀ call ∈ l, call.purpose ≠ .login := by
  intro call hcall
  rw [h call hcall]
  decide

/-- Where an acquisition is followed by requests that leave the store alone, a login that is granted
leaves the client and the store with the credential, and no login is behind it. -/
theorem Acquiring.of_grants_append {events' : List Event}
    (h : Acquiring c events (.ok ()) c') (hhappens : Happens b m (events ++ events') b' m')
    (hcalls : calls (events ++ events') = before ++ login :: after)
    (hpurpose : login.purpose = .login) (hgrants : login.Grants credential)
    (hlasting : 0 < c.config.cacheTtl.toNat)
    (hbusiness : ∀ call ∈ calls events', call.purpose = .business)
    (hstore : ∀ m : MemoryStore, storeAfterAll m events' = m) :
    (∀ call ∈ after, call.purpose ≠ .login) ∧ c'.Settled m' credential := by
  obtain ⟨_, m₁, hfirst, hrest⟩ := hhappens.of_append
  obtain rfl : m' = m₁ := hrest.store_eq.trans (hstore m₁)
  rw [calls_append] at hcalls
  rcases append_eq_append_cons hcalls with ⟨mid, hfront, rfl⟩ | ⟨mid, -, hback⟩
  · obtain ⟨-, rfl, hsettled⟩ := h.of_grants hfirst hfront hgrants hlasting
    exact ⟨purpose_ne_login hbusiness, hsettled⟩
  · rw [hbusiness login (hback ▸ List.mem_append_right _ List.mem_cons_self)] at hpurpose
    cases hpurpose

/-- A request in which a login is granted, and which is not rejected behind it, leaves the client
and the store with the credential, and no login is behind it. -/
theorem Requesting.of_grants {r : PendingRequest} {result : Except ClientError Http.Response}
    (h : Requesting c r events result c') (hhappens : Happens b m events b' m')
    (hcalls : calls events = before ++ login :: after) (hpurpose : login.purpose = .login)
    (hgrants : login.Grants credential) (hlasting : 0 < c.config.cacheTtl.toNat)
    (hquiet : ∀ call ∈ after, call.purpose = .business → ¬ call.IsRejected) :
    (∀ call ∈ after, call.purpose ≠ .login) ∧ c'.Settled m' credential := by
  cases h with
  | unacquired hacquire =>
    obtain ⟨hresult, -⟩ := hacquire.of_grants hhappens hcalls hgrants hlasting
    cases hresult
  | acquired hacquire hdeliver =>
    obtain ⟨_, m₁, hfirst, hrest⟩ := hhappens.of_append
    rw [calls_append] at hcalls
    rcases append_eq_append_cons hcalls with ⟨mid, hfront, rfl⟩ | ⟨mid, -, hback⟩
    · obtain ⟨-, rfl, hsettled⟩ := hacquire.of_grants hfirst hfront hgrants hlasting
      obtain ⟨rfl, hbusiness, hstore⟩ := hdeliver.of_not_isRejected m₁ hquiet
      obtain rfl := hrest.store_eq.trans hstore
      exact ⟨purpose_ne_login hbusiness, hsettled⟩
    · rw [show c.config = _ from hacquire.remains.config.symm] at hlasting
      obtain ⟨hbusiness, hsettled⟩ := hdeliver.of_grants hrest hback hpurpose hgrants hlasting
      exact ⟨purpose_ne_login hbusiness, hsettled⟩

/-- An action in which a login is granted, and no request is rejected behind it, leaves the client
and the store with the credential, and no login is behind it. -/
theorem Performing.of_grants {a : Action} {result : Except ClientError Outcome}
    (h : Performing c a events result c') (hhappens : Happens b m events b' m')
    (hcalls : calls events = before ++ login :: after) (hpurpose : login.purpose = .login)
    (hgrants : login.Grants credential) (hlasting : 0 < c.config.cacheTtl.toNat)
    (hquiet : a.IsQuiet after) :
    (∀ call ∈ after, call.purpose ≠ .login) ∧ c'.Settled m' credential := by
  have hmem : login ∈ calls events := hcalls ▸ List.mem_append_right _ List.mem_cons_self
  cases h with
  | login h =>
    obtain ⟨-, rfl, hsettled⟩ := h.of_grants hhappens hcalls hgrants hlasting
    exact ⟨fun _ hcall => (nomatch hcall), hsettled⟩
  | logout h =>
    obtain ⟨call?, heq, hcall⟩ := h.logoutCall
    rw [heq] at hmem
    rw [hcall.purpose_eq login (Option.mem_toList.1 hmem)] at hpurpose
    cases hpurpose
  | misqueued | queued | unencoded => cases hmem
  | request h => exact h.of_grants hhappens hcalls hpurpose hgrants hlasting (hquiet rfl)
  | sendWith h =>
    cases h with
    | unacquired hacquire | unbuilt hacquire =>
      obtain ⟨-, rfl, hsettled⟩ := hacquire.of_grants hhappens hcalls hgrants hlasting
      exact ⟨fun _ hcall => (nomatch hcall), hsettled⟩
    | sending hacquire _ hsend =>
      exact hacquire.of_grants_append hhappens hcalls hpurpose hgrants hlasting hsend.purpose_eq
        fun m => hsend.storeAfterAll_eq m
  | pool h =>
    cases h with
    | unacquired hacquire =>
      obtain ⟨-, rfl, hsettled⟩ := hacquire.of_grants hhappens hcalls hgrants hlasting
      exact ⟨fun _ hcall => (nomatch hcall), hsettled⟩
    | dispatched hacquire hall =>
      exact hacquire.of_grants_append hhappens hcalls hpurpose hgrants hlasting hall.purpose_eq
        hall.storeAfterAll_eq

/-- A request where the store holds a token, and which is not rejected, makes no login, and a client
without a credential takes the token. -/
theorem Requesting.of_holds {r : PendingRequest} {result : Except ClientError Http.Response}
    (h : Requesting c r events result c') (hhappens : Happens b m events b' m')
    (hm : m.Holds c.key.text credential)
    (hquiet : ∀ call ∈ calls events, call.purpose = .business → ¬ call.IsRejected) :
    (∀ call ∈ calls events, call.purpose = .business) ∧
      c'.credential = (if c.credential.isNone then some credential else c.credential) ∧
      m' = m := by
  cases h with
  | unacquired hacquire =>
    obtain ⟨hresult, -⟩ := hacquire.of_holds hhappens hm
    cases hresult
  | acquired hacquire hdeliver =>
    obtain ⟨_, m₁, hfirst, hrest⟩ := hhappens.of_append
    obtain ⟨-, hnone, hcredential, rfl⟩ := hacquire.of_holds hfirst hm
    rw [calls_append, hnone, List.nil_append] at hquiet ⊢
    obtain ⟨rfl, hbusiness, hstore⟩ := hdeliver.of_not_isRejected m₁ hquiet
    exact ⟨hbusiness, hcredential, hrest.store_eq.trans hstore⟩

/-- An action where the store holds a token, which is no logout and no request that is rejected,
makes no login, gives the token to a client that acquires a session, and leaves the store alone. -/
theorem Performing.of_holds {a : Action} {result : Except ClientError Outcome}
    (h : Performing c a events result c') (hhappens : Happens b m events b' m')
    (hm : m.Holds c.key.text credential) (hlogout : a ≠ .logout)
    (hquiet : a.IsQuiet (calls events)) :
    (∀ call ∈ calls events, call.purpose ≠ .login) ∧
      c'.credential = (if a.acquires c then some credential else c.credential) ∧ m' = m := by
  have hnone : ∀ call ∈ ([] : List Call), call.purpose ≠ .login := fun _ hcall => nomatch hcall
  cases h with
  | login h =>
    obtain ⟨-, hcalls, rfl, hstore⟩ := h.of_holds hhappens hm
    exact ⟨hcalls ▸ hnone, rfl, hstore⟩
  | logout => exact absurd rfl hlogout
  | misqueued | unencoded => exact ⟨hnone, rfl, hhappens.store_eq⟩
  | queued hqueue =>
    obtain ⟨_, rfl⟩ := Client.exists_of_withHeaders hqueue
    exact ⟨hnone, rfl, hhappens.store_eq⟩
  | request h =>
    obtain ⟨hbusiness, hcredential, hstore⟩ := h.of_holds hhappens hm (hquiet rfl)
    exact ⟨purpose_ne_login hbusiness, hcredential, hstore⟩
  | sendWith h =>
    cases h with
    | unacquired hacquire =>
      obtain ⟨hresult, -⟩ := hacquire.of_holds hhappens hm
      cases hresult
    | unbuilt hacquire =>
      obtain ⟨-, hcalls, hcredential, hstore⟩ := hacquire.of_holds hhappens hm
      exact ⟨hcalls ▸ hnone, hcredential, hstore⟩
    | sending hacquire _ hsend =>
      obtain ⟨_, m₁, hfirst, hrest⟩ := hhappens.of_append
      obtain ⟨-, hcalls, hcredential, rfl⟩ := hacquire.of_holds hfirst hm
      refine ⟨?_, hcredential, hrest.store_eq.trans (hsend.storeAfterAll_eq _)⟩
      rw [calls_append, hcalls, List.nil_append]
      exact purpose_ne_login hsend.purpose_eq
  | pool h =>
    cases h with
    | unacquired hacquire =>
      obtain ⟨hresult, -⟩ := hacquire.of_holds hhappens hm
      cases hresult
    | @dispatched events events' _ _ hacquire hall =>
      obtain ⟨_, m₁, hfirst, hrest⟩ := hhappens.of_append
      obtain ⟨-, hcalls, hcredential, rfl⟩ := hacquire.of_holds hfirst hm
      refine ⟨?_, hcredential, hrest.store_eq.trans (hall.storeAfterAll_eq _)⟩
      rw [calls_append, hcalls, List.nil_append]
      exact purpose_ne_login hall.purpose_eq

end

/-! ## Clients that share a key -/

namespace Performance

section
variable {β : Type} [Http.Backend β]

/-- A performance that leaves the sessions alone: no logout, and no request that is rejected. -/
def IsCalm (q : Performance β MemoryStore) : Prop :=
  q.action ≠ .logout ∧ q.action.IsQuiet q.calls

/-- A performance in which a login is granted: its token is kept for some time, and of the calls
behind it none is a rejected request. -/
structure Obtains (q : Performance β MemoryStore) (credential : Credential) (behind : List Call) :
    Prop where
  granted : ∃ before login, q.calls = before ++ login :: behind ∧ login.purpose = .login ∧
    login.Grants credential
  lasting : 0 < q.client.config.cacheTtl.toNat
  quiet : q.action.IsQuiet behind

/-- What a performance is in which the client finds a token in the store: there is no login, and the
client has the credential if it acquires a session, else what it had before. -/
structure Reuses (q : Performance β MemoryStore) (credential : Credential) : Prop where
  no_login : ∀ call ∈ q.calls, call.purpose ≠ .login
  credential_eq : q.after.client.credential =
    if q.action.acquires q.client then some credential else q.client.credential

variable {q : Performance β MemoryStore} {credential : Credential}

/-- Behind a login that is granted there is no other one, and the client and the store have the
credential. -/
theorem Obtains.settled {behind : List Call} (h : q.Obtains credential behind) :
    (∀ call ∈ behind, call.purpose ≠ .login) ∧
      q.after.client.Settled q.after.store credential := by
  obtain ⟨before, login, hcalls, hpurpose, hgrants⟩ := h.granted
  exact q.performing.of_grants q.happens hcalls hpurpose hgrants h.lasting h.quiet

/-- A calm performance reuses the token that the store holds, and the store still holds it. -/
theorem IsCalm.reuses (h : q.IsCalm) (hm : q.store.Holds q.key credential) :
    q.Reuses credential ∧ q.after.store.Holds q.key credential := by
  obtain ⟨hlogin, hcredential, hstore⟩ := q.performing.of_holds q.happens hm h.1 h.2
  exact ⟨⟨hlogin, hcredential⟩, hstore.symm ▸ hm⟩

/-- The store holds a token under a key as long as the performances with this key are calm. -/
theorem holds_after {key : String} (hm : q.store.Holds key credential)
    (hcalm : q.key = key → q.IsCalm) : q.after.store.Holds key credential := by
  by_cases hkey : q.key = key
  · subst hkey
    exact ((hcalm rfl).reuses hm).2
  · obtain ⟨entry, hlive, htoken, hfind⟩ := hm
    exact ⟨entry, hlive, htoken, (q.find?_after_of_ne (Ne.symm hkey)).trans hfind⟩

end

end Performance

namespace Scenario

section
variable {β : Type} [Http.Backend β]

/-- The invariant of a run: behind every login that was granted, as long as the performances with
its key have been calm, the store holds its token and the performances with its key reuse it. -/
structure OneLogin (past : List (Performance β MemoryStore)) (x : Scenario β MemoryStore) :
    Prop where
  shared : x.IsShared
  one : ∀ earlier q later, past = earlier ++ q :: later → ∀ credential behind,
    q.Obtains credential behind → (∀ q' ∈ later, q'.key = q.key → q'.IsCalm) →
      x.shared.Holds q.key credential ∧ ∀ q' ∈ later, q'.key = q.key → q'.Reuses credential

/-- A client that acts preserves the invariant. -/
theorem OneLogin.act {past : List (Performance β MemoryStore)} {x : Scenario β MemoryStore}
    (h : OneLogin past x) {name : String} {p : Participant MemoryStore}
    (hp : x.participant? name = some p) (a : Action) :
    OneLogin (past ++ [x.performance name p a]) (x.act name p a).2 := by
  have hown := h.shared.own_eq hp
  refine ⟨h.shared.act hp a, fun earlier q later hpast credential behind hq hcalm => ?_⟩
  rw [act_of_own hown]
  rcases append_singleton_eq_append_cons hpast with ⟨-, rfl, rfl⟩ | ⟨later', rfl, hpast'⟩
  · -- the login is granted in this very performance
    refine ⟨?_, fun _ hmem => nomatch hmem⟩
    obtain ⟨-, hsettled⟩ := hq.settled
    have hholds := hsettled.holds
    rw [(x.performance name p a).remains.key] at hholds
    exact hholds
  · obtain ⟨hlater, hlast⟩ := List.forall_mem_append.1 hcalm
    obtain ⟨hm, hreuses⟩ := h.one earlier q later' hpast' credential behind hq hlater
    have hlast := List.forall_mem_singleton.1 hlast
    have hm' : (x.performance name p a).store.Holds q.key credential := by
      rw [performance_of_own hown]
      exact hm
    refine ⟨Performance.holds_after hm' hlast, List.forall_mem_append.2 ⟨hreuses, ?_⟩⟩
    refine List.forall_mem_singleton.2 fun hkey => ?_
    exact ((hlast hkey).reuses (hkey ▸ hm')).1

/-- Of clients that share a store in memory, once a login has been granted with a token that is kept
for some time, and as long as no client with its key closes its session or has a request rejected,
none of them makes another login, and every one that acquires a session holds the credential of
that login. -/
theorem performances_one_login {x : Scenario β MemoryStore} (hx : x.IsShared)
    {commands : List Command} {earlier later : List (Performance β MemoryStore)}
    {q : Performance β MemoryStore} (h : x.performances commands = earlier ++ q :: later)
    {credential : Credential} {behind : List Call} (hq : q.Obtains credential behind)
    (hcalm : ∀ q' ∈ later, q'.key = q.key → q'.IsCalm) :
    (∀ call ∈ behind, call.purpose ≠ .login) ∧
      q.after.client.credential = some credential ∧
      ∀ q' ∈ later, q'.key = q.key → q'.Reuses credential := by
  have hrun : OneLogin ([] ++ x.performances commands) (x.run commands) := by
    refine performances_induction (fun past x name p a hp h => h.act hp a)
      (fun past x name h => ⟨h.shared.dismiss name, h.one⟩)
      (fun past x name _ _ client _ _ h => ⟨h.shared.enrol name client, h.one⟩) commands
      ⟨hx, fun earlier q later hnil => ?_⟩
    cases List.append_ne_nil_of_right_ne_nil _ (List.cons_ne_nil _ _) hnil.symm
  obtain ⟨hbehind, hsettled⟩ := hq.settled
  exact ⟨hbehind, hsettled.credential_eq,
    (hrun.one earlier q later h credential behind hq hcalm).2⟩

end

/-- A client that is built after another one has logged in on its slot sends its request with the
credential of that login. -/
theorem performances_one_login_granting :
    ∃ q q' : Performance ScriptedBackend MemoryStore,
      performances ⟨.granting [] "B1SESSION=a" 200, .empty, []⟩
        [.buildOn "a" 0, .act "a" .login, .buildOn "b" 0,
          .act "b" (.request (.ok (.get "Items")))] = [] ++ q :: [q'] ∧
      q.Obtains ⟨"B1SESSION=a"⟩ [] ∧ q'.key = q.key ∧ q'.IsCalm ∧ q'.client.credential = none ∧
      q'.Reuses ⟨"B1SESSION=a"⟩ ∧ q'.after.client.credential = some ⟨"B1SESSION=a"⟩ := by
  let x : Scenario ScriptedBackend MemoryStore := ⟨.granting [] "B1SESSION=a" 200, .empty, []⟩
  let commands : List Command := [.buildOn "a" 0, .act "a" .login, .buildOn "b" 0,
    .act "b" (.request (.ok (.get "Items")))]
  have h : (x.performances commands).length = 2 ∧
      ∀ q ∈ (x.performances commands).take 1, ∀ q' ∈ (x.performances commands).drop 1,
        (q.calls.length = 1 ∧ (∀ call ∈ q.calls, call.purpose = .login ∧
          call.Grants ⟨"B1SESSION=a"⟩) ∧ 0 < q.client.config.cacheTtl.toNat) ∧
        q'.key = q.key ∧ q'.client.credential = none ∧
        q'.action.renews = true ∧ q'.action.acquires q'.client = true ∧
        ∀ call ∈ q'.calls, ¬ call.IsRejected := by
    decide +kernel
  obtain ⟨hlength, hall⟩ := h
  obtain ⟨q, q', hl⟩ := List.length_eq_two.1 hlength
  obtain ⟨⟨hone, hlogin, hlasting⟩, hkey, hnone, hrenews, hacquires, hquiet⟩ :=
    hall q (hl ▸ List.mem_singleton_self q) q' (hl ▸ List.mem_singleton_self q')
  obtain ⟨login, hcalls⟩ := List.length_eq_one_iff.1 hone
  obtain ⟨hpurpose, hgrants⟩ := hlogin login (hcalls ▸ List.mem_singleton_self login)
  have hobtains : q.Obtains ⟨"B1SESSION=a"⟩ [] :=
    ⟨⟨[], login, hcalls, hpurpose, hgrants⟩, hlasting, fun _ _ hmem => nomatch hmem⟩
  have hcalm : q'.IsCalm := by
    refine ⟨fun hlogout => ?_, fun _ call hmem _ => hquiet call hmem⟩
    rw [hlogout] at hrenews
    cases hrenews
  have hx : x.IsShared := fun _ hmem => nomatch hmem
  have hreuses := (performances_one_login hx (hl.trans (List.nil_append _).symm) hobtains
    (List.forall_mem_singleton.2 fun _ => hcalm)).2.2 q' (List.mem_singleton_self q') hkey
  refine ⟨q, q', hl, hobtains, hkey, hcalm, hnone, hreuses, hreuses.credential_eq.trans ?_⟩
  rw [hacquires, if_pos rfl]

end Scenario

end ODataSession
