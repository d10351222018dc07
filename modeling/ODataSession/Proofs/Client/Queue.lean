import ODataSession.Proofs.Client.Rejection
import ODataSession.Proofs.Client.State

/-!
# Headers that are used once

Where queued headers go. A request and an adjusted request take the queue away from the client
before anything else is done, and give it to the first call that is made for them; no other call of
any action is given any of it (`Performing.exists_spendsQueue`). So the queue of a client is at all
times what has been queued since the last action that took it (`Client.History.queued_eq`), and a
header is sent at most as often as it has been queued (`Client.History.countP_add_le`): the sum of
the calls that have it, and of one more if it still waits, is bounded by the number of times it was
queued. For this the header must be none that a call has anyway, nor one that a caller brings in.
-/

namespace ODataSession

/-! ## What actions do to the queue -/

/-- Whether an action takes the queued headers away from its client. -/
def Action.takesQueue : Action → Bool
  | .request (.ok _) | .sendWith .. => true
  | .login | .logout | .withHeaders _ | .request (.error _) | .pool _ => false

/-- The headers that an action queues. -/
def Action.given : Action → List Http.Header
  | .withHeaders pairs =>
    (pairs.mapM fun (name, value) => Http.Header.ofPair name value).toOption.getD []
  | .login | .logout | .request _ | .sendWith .. | .pool _ => []

/-- The queue behind an action. -/
def Action.queueAfter (queue : List Http.Header) (a : Action) : List Http.Header :=
  if a.takesQueue then [] else a.given.foldl Http.Headers.set queue

/-- What waits behind actions if nothing has waited before them. -/
def pendingHeaders (actions : List Action) : List Http.Header :=
  actions.foldl Action.queueAfter []

/-- Nothing that was queued before an action that takes the queue waits behind it. -/
theorem pendingHeaders_append_cons {a : Action} (h : a.takesQueue = true)
    (actions actions' : List Action) :
    pendingHeaders (actions ++ a :: actions') = pendingHeaders actions' := by
  rw [pendingHeaders, List.foldl_append, List.foldl_cons, Action.queueAfter, if_pos h]
  rfl

section
variable {c c' : Client} {r : PendingRequest} {events : List Event}

/-- Opening a session leaves the queue as it is. -/
theorem Opening.queued_eq {result : Except ClientError Unit} (h : Opening c events result c') :
    c'.queued = c.queued := by
  cases h <;> rfl

/-- A login leaves the queue as it is. -/
theorem LoggingIn.queued_eq {result : Except ClientError Unit} (h : LoggingIn c events result c') :
    c'.queued = c.queued := by
  cases h with
  | unanswered => rfl
  | reused => rfl
  | opening hopen => exact hopen.queued_eq

/-- An acquisition leaves the queue as it is. -/
theorem Acquiring.queued_eq {result : Except ClientError Unit} (h : Acquiring c events result c') :
    c'.queued = c.queued := by
  cases h with
  | held => rfl
  | loggingIn _ hlogin => exact hlogin.queued_eq

/-- A logout leaves the queue as it is. -/
theorem LoggingOut.queued_eq {result : Except ClientError Unit}
    (h : LoggingOut c events result c') : c'.queued = c.queued := by
  cases h <;> rfl

/-- A renewal leaves the queue as it is. -/
theorem Renewing.queued_eq {result : Except ClientError Http.Response}
    (h : Renewing c r events result c') : c'.queued = c.queued := by
  have hevicted : ∀ {events result c₁}, Evicting c events result c₁ → c₁.queued = c.queued := by
    intro events result c₁ hevict
    cases hevict <;> rfl
  cases h with
  | unevicted hevict => exact hevicted hevict
  | unopened hevict hopen | replayed hevict hopen =>
    rw [hopen.queued_eq, hevicted hevict]

/-- A request that is delivered leaves the queue as it is. -/
theorem Delivering.queued_eq {headers : List Http.Header}
    {result : Except ClientError Http.Response} (h : Delivering c r headers events result c') :
    c'.queued = c.queued := by
  cases h with
  | undelivered | answered => rfl
  | renewed _ _ hrenew => exact hrenew.queued_eq

/-- Headers that are queued are all given, and where one is not legal none is. -/
theorem Client.queued_of_withHeaders {pairs : List (String × String)}
    (h : c.withHeaders pairs = .ok c') :
    c'.queued = (Action.withHeaders pairs).given.foldl Http.Headers.set c.queued := by
  simp only [Client.withHeaders, bind, Except.bind] at h
  simp only [Action.given]
  split at h
  · cases h
  · next headers hpairs =>
    cases h
    rw [hpairs]
    rfl

/-- Where a header is not legal, nothing is given. -/
theorem Client.given_of_withHeaders {pairs : List (String × String)} {e : Http.HeaderError}
    (h : c.withHeaders pairs = .error e) : (Action.withHeaders pairs).given = [] := by
  simp only [Client.withHeaders, bind, Except.bind] at h
  simp only [Action.given]
  split at h
  · next hpairs =>
    rw [hpairs]
    rfl
  · cases h

/-- What every action makes of the queue of its client. -/
theorem Performing.queued_eq {a : Action} {result : Except ClientError Outcome}
    (h : Performing c a events result c') : c'.queued = a.queueAfter c.queued := by
  cases h with
  | login h => exact h.queued_eq
  | logout h => exact h.queued_eq
  | misqueued h =>
    rw [Action.queueAfter, Client.given_of_withHeaders h]
    rfl
  | queued h => exact Client.queued_of_withHeaders h
  | unencoded => rfl
  | request h =>
    show c'.queued = []
    cases h with
    | unacquired hacquire => exact hacquire.queued_eq
    | acquired hacquire hdeliver => rw [hdeliver.queued_eq, hacquire.queued_eq]; rfl
  | sendWith h =>
    show c'.queued = []
    cases h with
    | unacquired hacquire | unbuilt hacquire | sending hacquire => exact hacquire.queued_eq
  | pool h =>
    show c'.queued = c.queued
    cases h with
    | unacquired hacquire | dispatched hacquire => exact hacquire.queued_eq

end

/-! ## Calls that are given the queue -/

/-- A call that is given nothing of the queue: a login, or a call with the cookie of a credential
and standing headers only. -/
inductive Client.Bare (c : Client) (call : Call) : Prop
  | login (purpose_eq : call.purpose = .login)
      (headers_eq : call.request.headers = c.headersUnder none [.contentType jsonType] [])
  | other {credential : Option Credential} (purpose_ne : call.purpose ≠ .login)
      (headers_eq : call.request.headers = c.headersUnder credential [] [])

/-- How the calls `l` of an action are given the queue of its client: the first one that is made for
a request or for an adjusted request, the `dispatch`, is given all of it, on the draft that the
caller may adjust, and no other call is given any of it. -/
structure Client.SpendsQueue (c : Client) (a : Action) (l before : List Call)
    (dispatch : Option Call) (behind : List Call) : Prop where
  calls_eq : l = before ++ dispatch.toList ++ behind
  before_login : ∀ call ∈ before, call.purpose = .login
  dispatched : ∀ call ∈ dispatch, a.takesQueue = true ∧ call.purpose = .business ∧
    ∃ credential request,
      Adjustment.Make a.adjustments (c.queued ++ Client.cookieHeaders credential) request ∧
        call.request = c.complete request
  undispatched : a.takesQueue = true → dispatch = none → behind = []
  bare : ∀ call ∈ before ++ behind, c.Bare call

section
variable {c c' : Client} {a : Action} {r : PendingRequest} {l : List Call} {events : List Event}

/-- Logins are given nothing of the queue. -/
theorem Client.Logins.bare (h : c.Logins l) : ∀ call ∈ l, c.Bare call := by
  intro call hcall
  obtain ⟨hpurpose, url, -, hrequest⟩ := h.isLogin call hcall
  refine .login hpurpose ?_
  rw [hrequest]
  rfl

/-- Where only logins are called, nothing of the queue is spent. -/
theorem Client.Logins.spendsQueue (h : c.Logins l) (a : Action) : c.SpendsQueue a l l none [] where
  calls_eq := by simp
  before_login := by
    intro call hcall
    exact (h.isLogin call hcall).1
  dispatched := by simp
  undispatched := by simp
  bare := by
    rw [List.append_nil]
    exact h.bare

/-- What is sent of a prepared request without headers is given nothing of the queue. -/
theorem Dispatching.bare {result : Except ClientError Http.Response}
    (h : Dispatching c' r [] events result) (hc : c.Remains c') :
    ∀ call ∈ calls events, c.Bare call := by
  intro call hcall
  obtain ⟨-, hcarries⟩ := h.carries hcall
  have hheaders := h.headers_eq hcall
  rw [hc.headersUnder_eq] at hheaders
  exact .other (by rw [hcarries.purpose_eq]; decide) hheaders

/-- A renewal and the replay behind it are given nothing of the queue. -/
theorem Renewing.bare {c₁ : Client} {result : Except ClientError Http.Response}
    (h : Renewing c₁ r events result c') (hc : c.Remains c₁) :
    ∀ call ∈ calls events, c.Bare call := by
  cases h with
  | unevicted hevict => simp [hevict.calls_eq]
  | unopened hevict hopen =>
    have hlogins := hopen.logins.of_remains (hc.trans hevict.remains)
    simpa [hevict.calls_eq] using hlogins.bare
  | replayed hevict hopen hreplay =>
    have hremains := hc.trans hevict.remains
    have hlogins := hopen.logins.of_remains hremains
    have hreplayed := hreplay.bare (hremains.trans hopen.remains)
    intro call hcall
    simp only [calls_append, hevict.calls_eq, Client.calls_complaint, List.append_nil,
      List.nil_append, List.mem_append] at hcall
    rcases hcall with hcall | hcall
    · exact hlogins.bare call hcall
    · exact hreplayed call hcall

/-- A request that is delivered gives the queue to its first call. -/
theorem Delivering.exists_spendsQueue {c₁ : Client} {result : Except ClientError Http.Response}
    (h : Delivering c₁ r c.queued events result c') (hc : c.Remains c₁) {first : List Call}
    (hfirst : c.Logins first) : ∃ dispatch behind,
      c.SpendsQueue (.request (.ok r)) (first ++ calls events) first dispatch behind := by
  have hdispatched : ∀ {events result}, Dispatching c₁ r c.queued events result →
      ∀ call ∈ calls events, Action.takesQueue (.request (.ok r)) = true ∧
        call.purpose = .business ∧ ∃ credential request,
          Adjustment.Make [] (c.queued ++ Client.cookieHeaders credential) request ∧
            call.request = c.complete request := by
    intro events result hsend call hcall
    refine ⟨rfl, (hsend.carries hcall).2.purpose_eq, c₁.credential, ?_⟩
    cases hsend with
    | noUrl => cases hcall
    | @sending request _ _ hprepare hsent =>
      obtain ⟨-, -, hheaders, -⟩ := Client.prepare_eq_ok hprepare
      rw [hsent.eq_of_mem_calls hcall]
      exact ⟨request, hheaders ▸ Adjustment.make_nil request, hc.complete_eq request⟩
  have hlogin : ∀ call ∈ first, call.purpose = .login := by
    intro call hcall
    exact (hfirst.isLogin call hcall).1
  cases h with
  | undelivered hsend | answered hsend =>
    obtain ⟨dispatch, hcalls, -⟩ := hsend.requestCall
    have hgiven := hdispatched hsend
    rw [hcalls] at hgiven ⊢
    refine ⟨dispatch, [], by simp, hlogin, ?_, fun _ _ => rfl, ?_⟩
    · intro call hcall
      exact hgiven call (Option.mem_toList.2 hcall)
    · rw [List.append_nil]
      exact hfirst.bare
  | @renewed _ events' _ _ _ hsend _ hrenew =>
    obtain ⟨request, rfl⟩ := hsend.exists_eq_sent
    refine ⟨some _, calls events', by simp; rfl, hlogin, ?_, ?_, ?_⟩
    · rintro _ ⟨⟩
      exact hdispatched hsend _ (List.mem_singleton_self _)
    · intro _ hnone
      cases hnone
    · exact List.forall_mem_append.2 ⟨hfirst.bare, hrenew.bare hc⟩

/-- A logout is given nothing of the queue. -/
theorem LoggingOut.bare {result : Except ClientError Unit} (h : LoggingOut c events result c') :
    ∀ call ∈ calls events, c.Bare call := by
  have hsent : ∀ {url events outcome} {credential : Option Credential},
      Sending c .logout (Client.logoutRequest url credential) events outcome →
      ∀ call ∈ calls events, c.Bare call := by
    intro url events outcome credential hsend call hcall
    have hheaders := hsend.headers_eq hcall
    rw [hsend.eq_of_mem_calls hcall] at hheaders ⊢
    refine .other ?_ (?_ : _ = c.headersUnder credential [] [])
    · show Purpose.logout ≠ .login
      decide
    · rw [hheaders, Client.headersUnder, List.append_nil]
      rfl
  cases h with
  | unchecked | nothing => simp
  | unfound hfind | noEndpoint hfind => simp [hfind.calls_eq]
  | unforgotten hfind _ hsend | closed hfind _ hsend =>
    simpa [hfind.calls_eq] using hsent hsend

/-- The entries of a pool are given nothing of the queue. -/
theorem DispatchingAll.bare {entries : List (PoolKey × Except EncodeError PendingRequest)}
    {results : List (PoolKey × Except ClientError Http.Response)}
    (h : DispatchingAll c' entries events results) (hc : c.Remains c') :
    ∀ call ∈ calls events, c.Bare call := by
  intro call hcall
  obtain ⟨_, _, _, hsend, hmem⟩ := h.exists_dispatching hcall
  exact hsend.bare hc call hmem

/-- Where the queue is not taken, bare calls leave it unspent. -/
theorem Client.spendsQueue_of_bare (ha : a.takesQueue = false) {first : List Call}
    (hfirst : c.Logins first) (h : ∀ call ∈ l, c.Bare call) :
    c.SpendsQueue a (first ++ l) first none l where
  calls_eq := by simp
  before_login := by
    intro call hcall
    exact (hfirst.isLogin call hcall).1
  dispatched := by simp
  undispatched := by simp [ha]
  bare := List.forall_mem_append.2 ⟨hfirst.bare, h⟩

/-- Every action gives the queue to the first call that is made for its request, if it makes one,
and to no other call. -/
theorem Performing.exists_spendsQueue {result : Except ClientError Outcome}
    (h : Performing c a events result c') :
    ∃ before dispatch behind, c.SpendsQueue a (calls events) before dispatch behind := by
  have hunqueued := Client.Remains.unqueued c
  cases h with
  | login h => exact ⟨_, _, _, h.logins.spendsQueue _⟩
  | logout h => exact ⟨[], none, _, Client.spendsQueue_of_bare rfl (.nil c) h.bare⟩
  | misqueued | queued | unencoded => exact ⟨_, _, _, (Client.Logins.nil c).spendsQueue _⟩
  | request h =>
    cases h with
    | unacquired hacquire =>
      exact ⟨_, _, _, (hacquire.logins.of_remains hunqueued).spendsQueue _⟩
    | acquired hacquire hdeliver =>
      obtain ⟨dispatch, behind, hspends⟩ := hdeliver.exists_spendsQueue
        (hunqueued.trans hacquire.remains) (hacquire.logins.of_remains hunqueued)
      rw [calls_append]
      exact ⟨_, _, _, hspends⟩
  | sendWith h =>
    cases h with
    | unacquired hacquire | unbuilt hacquire =>
      exact ⟨_, _, _, (hacquire.logins.of_remains hunqueued).spendsQueue _⟩
    | @sending events events' request outcome _ hacquire hbuild hsend =>
      have hfirst := hacquire.logins.of_remains hunqueued
      have hmake := Client.make_of_adjusted hbuild
      rw [calls_append]
      cases hsend with
      | unsendable =>
        rw [calls_nil, List.append_nil]
        exact ⟨_, _, _, hfirst.spendsQueue _⟩
      | sent =>
        refine ⟨calls events, some ⟨.business, c'.complete request, outcome⟩, [], by simp, ?_, ?_,
          fun _ _ => rfl, ?_⟩
        · intro call hcall
          exact (hfirst.isLogin call hcall).1
        · rintro _ ⟨⟩
          exact ⟨rfl, rfl, c'.credential, request, hmake,
            (hunqueued.trans hacquire.remains).complete_eq request⟩
        · rw [List.append_nil]
          exact hfirst.bare
  | pool h =>
    cases h with
    | unacquired hacquire => exact ⟨_, _, _, hacquire.logins.spendsQueue _⟩
    | @dispatched events events' _ _ hacquire hall =>
      have hbare := hall.bare hacquire.remains
      rw [calls_append]
      exact ⟨_, none, _, Client.spendsQueue_of_bare rfl hacquire.logins hbare⟩

end

/-! ## Histories -/

section
variable {β σ : Type} [Http.Backend β] [SessionStore σ]

/-- What a client becomes by performing actions, one after the other. Between its actions its
backend and its store may become any others. -/
inductive Client.History (c : Client) : List (Performance β σ) → Client → Prop
  | start : c.History [] c
  | acted {past : List (Performance β σ)} {q : Performance β σ} (h : c.History past q.client) :
    c.History (past ++ [q]) q.after.client

variable {c c' : Client} {past : List (Performance β σ)} {q : Performance β σ}

/-- A client stays itself in its history. -/
theorem Client.History.remains (h : c.History past c') : c.Remains c' := by
  induction h with
  | start => exact .refl c
  | @acted _ q _ ih => exact ih.trans q.remains

/-- A history leads to the client of each of its performances. -/
theorem Client.History.of_mem {earlier later : List (Performance β σ)} (h : c.History past c')
    (hpast : past = earlier ++ q :: later) : c.History earlier q.client := by
  induction h generalizing later with
  | start => simp at hpast
  | acted h ih =>
    rcases append_singleton_eq_append_cons hpast with ⟨rfl, rfl, -⟩ | ⟨later', -, hpast'⟩
    · exact h
    · exact ih hpast'

/-- What waits is what was queued since the queue was taken for the last time. -/
theorem Client.History.queued_eq (h : c.History past c') (hc : c.queued = []) :
    c'.queued = pendingHeaders (past.map (·.action)) := by
  induction h with
  | start => exact hc
  | @acted past q _ ih =>
    rw [q.performing.queued_eq, ih, pendingHeaders, pendingHeaders, List.map_append,
      List.foldl_append]
    rfl

/-! ## Headers that are counted -/

/-- A header that calls have only if it was queued: no cookie, none that the client gives to all
its calls or to its logins, and none that the caller brings in. -/
structure Client.Foreign (c : Client) (past : List (Performance β σ)) (header : Http.Header) :
    Prop where
  name_ne : header.name ≠ "cookie"
  ne_contentType : header ≠ .contentType jsonType
  not_standing : header ∉ c.standing
  not_brought : ∀ q ∈ past, ∀ adjustment ∈ q.action.adjustments, ¬ adjustment.Brings header

/-- How many calls have a header. -/
def timesSent (past : List (Performance β σ)) (header : Http.Header) : Nat :=
  (past.flatMap (·.calls)).countP (header ∈ ·.request.headers)

/-- How often a header was queued. -/
def timesQueued (past : List (Performance β σ)) (header : Http.Header) : Nat :=
  past.countP (header ∈ ·.action.given)

end

section
variable {c : Client} {header : Http.Header}

/-- What stands in a set of headers stood there or was set. -/
theorem mem_of_mem_set {queue : List Http.Header} {h : Http.Header}
    (hmem : header ∈ Http.Headers.set queue h) : header ∈ queue ∨ header = h := by
  induction queue with
  | nil => exact .inr (List.mem_singleton.1 hmem)
  | cons g queue ih =>
    rw [Http.Headers.set] at hmem
    split at hmem
    · rcases List.mem_cons.1 hmem with rfl | hmem
      · exact .inr rfl
      · exact .inl (List.mem_cons_of_mem g hmem)
    · rcases List.mem_cons.1 hmem with rfl | hmem
      · exact .inl List.mem_cons_self
      · exact (ih hmem).imp_left (List.mem_cons_of_mem g)

/-- What stands in a set of headers stood there or is one of those that were set. -/
theorem mem_of_mem_foldl_set {queue given : List Http.Header}
    (hmem : header ∈ given.foldl Http.Headers.set queue) : header ∈ queue ∨ header ∈ given := by
  induction given generalizing queue with
  | nil => exact .inl hmem
  | cons h given ih =>
    rcases ih hmem with hset | hmem
    · rcases mem_of_mem_set hset with hmem | rfl
      · exact .inl hmem
      · exact .inr List.mem_cons_self
    · exact .inr (List.mem_cons_of_mem h hmem)

/-- What waits behind an action has waited before it, or the action has queued it. -/
theorem Action.mem_of_mem_queueAfter {a : Action} {queue : List Http.Header}
    (hmem : header ∈ a.queueAfter queue) :
    a.takesQueue = false ∧ (header ∈ queue ∨ header ∈ a.given) := by
  rw [queueAfter] at hmem
  split at hmem
  · cases hmem
  · next htakes => exact ⟨by simpa using htakes, mem_of_mem_foldl_set hmem⟩

/-- A header is one of the standing ones, or it was there before these were added. -/
theorem mem_of_mem_withMissing {headers standing : List Http.Header}
    (hmem : header ∈ Http.Headers.withMissing headers standing) (hstanding : header ∉ standing) :
    header ∈ headers :=
  (List.mem_append.1 hmem).resolve_right fun hmem => hstanding (List.mem_filter.1 hmem).1

/-- The cookie of a credential is a cookie. -/
theorem Client.not_mem_cookieHeaders (hname : header.name ≠ "cookie")
    (credential : Option Credential) : header ∉ cookieHeaders credential := by
  intro hmem
  obtain ⟨value, -, rfl⟩ := Option.map_eq_some_iff.1 (Option.mem_toList.1 hmem)
  exact hname rfl

/-- A header of a request under a credential is one of those that were given, a cookie or a standing
one. -/
theorem Client.mem_of_mem_headersUnder {credential : Option Credential}
    {before after : List Http.Header} (hmem : header ∈ c.headersUnder credential before after)
    (hname : header.name ≠ "cookie") (hstanding : header ∉ c.standing) :
    header ∈ before ∨ header ∈ after := by
  simpa [not_mem_cookieHeaders hname credential] using mem_of_mem_withMissing hmem hstanding

section
variable {β σ : Type} {past : List (Performance β σ)} {call : Call}

/-- A foreign header stays foreign in a part of what is performed. -/
theorem Client.Foreign.mono {past' : List (Performance β σ)} (h : c.Foreign past header)
    (hsub : past' ⊆ past) : c.Foreign past' header :=
  { h with not_brought := fun q hq => h.not_brought q (hsub hq) }

/-- A foreign header stays foreign to a client in all its states. -/
theorem Client.Foreign.of_remains {c' : Client} (h : c.Foreign past header)
    (hremains : c.Remains c') : c'.Foreign past header :=
  { h with not_standing := hremains.standing ▸ h.not_standing }

/-- A call that is given nothing of the queue has no foreign header. -/
theorem Client.Foreign.not_mem_of_bare (h : c.Foreign past header) (hbare : c.Bare call) :
    header ∉ call.request.headers := by
  intro hmem
  cases hbare with
  | login _ hheaders =>
    rw [hheaders] at hmem
    have := Client.mem_of_mem_headersUnder hmem h.name_ne h.not_standing
    simp [h.ne_contentType] at this
  | other _ hheaders =>
    rw [hheaders] at hmem
    have := Client.mem_of_mem_headersUnder hmem h.name_ne h.not_standing
    simp at this

/-- A foreign header is sent once by an action at most, and only if the action takes it from the
queue. -/
theorem Client.SpendsQueue.countP_le {a : Action} {l before behind : List Call}
    {dispatch : Option Call} (h : c.SpendsQueue a l before dispatch behind)
    (hforeign : c.Foreign past header)
    (hbrings : ∀ adjustment ∈ a.adjustments, ¬ adjustment.Brings header) :
    l.countP (header ∈ ·.request.headers) ≤
      if a.takesQueue ∧ header ∈ c.queued then 1 else 0 := by
  have hbare : (before ++ behind).countP (header ∈ ·.request.headers) = 0 := by
    refine List.countP_eq_zero.2 fun call hcall => ?_
    simpa using hforeign.not_mem_of_bare (h.bare call hcall)
  rw [List.countP_append] at hbare
  rw [h.calls_eq, List.countP_append, List.countP_append]
  have hdispatch : dispatch.toList.countP (header ∈ ·.request.headers) ≤
      if a.takesQueue ∧ header ∈ c.queued then 1 else 0 := by
    split
    · exact countP_toList_le dispatch _
    · next hnot =>
      refine Nat.le_of_eq (List.countP_eq_zero.2 fun call hcall => ?_)
      obtain ⟨htakes, -, credential, request, hmake, hcall⟩ :=
        h.dispatched call (Option.mem_toList.1 hcall)
      intro hmem
      replace hmem := of_decide_eq_true hmem
      rw [hcall] at hmem
      have hrequest : header ∈ request.headers :=
        mem_of_mem_withMissing hmem hforeign.not_standing
      have hdraft := hmake.mem_headers hrequest hbrings
      rcases List.mem_append.1 hdraft with hqueued | hcookie
      · exact hnot ⟨htakes, hqueued⟩
      · exact Client.not_mem_cookieHeaders hforeign.name_ne credential hcookie
  omega

end

end

section
variable {β σ : Type} [Http.Backend β] [SessionStore σ] {c c' : Client}
  {past : List (Performance β σ)} {header : Http.Header}

/-- What an action sends of a foreign header, and what waits of it behind the action, has waited
before or is queued by the action. -/
theorem Performance.countP_add_le (q : Performance β σ) (h : q.client.Foreign [q] header) :
    q.calls.countP (header ∈ ·.request.headers) +
        (if header ∈ q.after.client.queued then 1 else 0) ≤
      (if header ∈ q.client.queued then 1 else 0) +
        if header ∈ q.action.given then 1 else 0 := by
  obtain ⟨before, dispatch, behind, hspends⟩ := q.performing.exists_spendsQueue
  have hsent := hspends.countP_le h (h.not_brought q List.mem_cons_self)
  have hqueued := q.performing.queued_eq
  have hafter : header ∈ q.after.client.queued → q.action.takesQueue = false ∧
      (header ∈ q.client.queued ∨ header ∈ q.action.given) := by
    intro hmem
    rw [hqueued] at hmem
    exact Action.mem_of_mem_queueAfter hmem
  change q.calls.countP _ ≤ _ at hsent
  grind

/-- A foreign header is sent at most as often as it was queued, and less often if it still waits. -/
theorem Client.History.timesSent_le (h : c.History past c') (hc : c.queued = [])
    (hforeign : c.Foreign past header) :
    timesSent past header + (if header ∈ c'.queued then 1 else 0) ≤ timesQueued past header := by
  induction h with
  | start => simp [hc, timesSent, timesQueued]
  | @acted past q h ih =>
    have hpast := ih (hforeign.mono (List.subset_append_left past [q]))
    have hstep := q.countP_add_le
      ((hforeign.mono (List.subset_append_right past [q])).of_remains h.remains)
    simp only [timesSent, timesQueued, List.flatMap_append, List.flatMap_singleton,
      List.countP_append, List.countP_singleton, decide_eq_true_eq] at hpast hstep ⊢
    omega

/-! ## What becomes of the queue -/

/-- A request that cannot be encoded leaves everything as it is, the queue included. -/
theorem Site.perform_unencoded (s : Site β σ) (e : EncodeError) :
    s.perform (.request (.error e)) = (.error (.encoding e), s) := by
  simp only [perform, Action.perform, Operation.request, Operation.run_map, Operation.run_bind,
    Operation.run_require, mapError_error]
  rfl

/-- What an action does with the queue of its client, where `earlier` has been performed by the
client since it was built, and `later` is performed behind it. -/
structure Performance.QueuedOnce (q : Performance β σ) (earlier later : List (Performance β σ)) :
    Prop where
  queued_eq : q.client.queued = pendingHeaders (earlier.map (·.action))
  spends : ∃ before dispatch behind, q.client.SpendsQueue q.action q.calls before dispatch behind
  emptied : q.action.takesQueue = true → q.after.client.queued = []
  forgotten : q.action.takesQueue = true → ∀ mid q' back, later = mid ++ q' :: back →
    q'.client.queued = pendingHeaders (mid.map (·.action))
  unencoded : ∀ e, q.action = .request (.error e) →
    q.result = .error (.encoding e) ∧ q.after = q.site

/-- Whatever a client performs from when it is built on, and whatever the backend and the store
answer: each request and each adjusted request takes the queue, and the first call that is made for
it is the only one that is given what has waited. So a foreign header is sent at most as often as it
was queued. -/
theorem ClientSetup.Builds.queued_once {setup : ClientSetup} (hbuild : setup.Builds c)
    (h : c.History past c') :
    (∀ earlier q later, past = earlier ++ q :: later → q.QueuedOnce earlier later) ∧
      ∀ header, c.Foreign past header →
        timesSent past header + (if header ∈ c'.queued then 1 else 0) ≤
          timesQueued past header := by
  refine ⟨?_, fun header hforeign => h.timesSent_le hbuild.queued_eq hforeign⟩
  intro earlier q later hpast
  have hqueued := q.performing.queued_eq
  refine ⟨(h.of_mem hpast).queued_eq hbuild.queued_eq, q.performing.exists_spendsQueue, ?_, ?_, ?_⟩
  · intro htakes
    rw [hqueued, Action.queueAfter, if_pos htakes]
  · rintro htakes mid q' back rfl
    have hpast' : past = (earlier ++ q :: mid) ++ q' :: back := by
      rw [hpast, List.append_assoc, List.cons_append]
    rw [(h.of_mem hpast').queued_eq hbuild.queued_eq, List.map_append, List.map_cons,
      pendingHeaders_append_cons htakes]
  · intro e he
    have hperform := q.site.perform_unencoded e
    rw [← he] at hperform
    exact ⟨congrArg Prod.fst hperform, congrArg Prod.snd hperform⟩

end

/-- An action that is performed where nothing else happens. -/
def Site.acting {β σ : Type} (s : Site β σ) (a : Action) : Performance β σ :=
  ⟨"", s.client, s.backend, s.store, a⟩

/-- A header that is queued before a request that is sent and replayed is sent once. -/
theorem ClientSetup.queued_once_forgetful :
    ∃ (s : Site ScriptedBackend MemoryStore) (q q' : Performance ScriptedBackend MemoryStore),
      Config.plainSample.site? .forgetful .empty = some s ∧
      q = s.acting (.withHeaders [("X-Once", "1")]) ∧
      q' = q.after.acting (.request (.ok (.get "Items"))) ∧
      (q'.calls.filter (·.purpose = .business)).length = 2 ∧
      q'.client.queued = [⟨"x-once", "1"⟩] ∧ q'.QueuedOnce [q] [] ∧
      timesSent [q, q'] ⟨"x-once", "1"⟩ = 1 ∧
      timesSent [q, q'] ⟨"x-once", "1"⟩ ≤ timesQueued [q, q'] ⟨"x-once", "1"⟩ := by
  have h : (Config.plainSample.site? ScriptedBackend.forgetful MemoryStore.empty).any (fun s =>
      let q := s.acting (.withHeaders [("X-Once", "1")])
      let q' := q.after.acting (.request (.ok (.get "Items")))
      (q'.calls.filter (·.purpose = .business)).length = 2 ∧
      q'.client.queued = [⟨"x-once", "1"⟩] ∧
      (⟨"x-once", "1"⟩ : Http.Header) ∉ s.client.standing ∧
      timesSent [q, q'] ⟨"x-once", "1"⟩ = 1) = true := by
    decide +kernel
  obtain ⟨s, hsite, hs⟩ := (Option.any_eq_true _ _).1 h
  obtain ⟨hreplayed, hqueued, hstanding, hsent⟩ := of_decide_eq_true hs
  have hfirst := Client.History.acted (q := s.acting (.withHeaders [("X-Once", "1")])) .start
  have hhistory := hfirst.acted
    (q := (s.acting (.withHeaders [("X-Once", "1")])).after.acting (.request (.ok (.get "Items"))))
  obtain ⟨honce, hcount⟩ := (Config.builds_of_site? hsite).1.queued_once hhistory
  have hle := hcount ⟨"x-once", "1"⟩
    ⟨by decide, by decide, hstanding, by simp [Site.acting, Action.adjustments]⟩
  exact ⟨s, _, _, hsite, rfl, rfl, hreplayed, hqueued, honce _ _ [] rfl, hsent,
    Nat.le_trans (Nat.le_add_right _ _) hle⟩

end ODataSession
