import ODataSession.Proofs.Client.Run

/-!
# Courses of operations

Every way in which an operation can go: the events it lets pass, its result, and what becomes of its
client. The relations speak of a client and its events only and leave open what the backend and the
store answer, so that a statement about all answers is a case analysis on them. There is one
relation for each operation, and one constructor for each way out of it;
`ODataSession.Proofs.Client.Following` proves that every run goes one of these ways.

An attempt at a login is followed by another one exactly when the policy of the client grants a
pause behind it; no course says how many there are, and that there is a bound is a theorem about
them.
-/

namespace ODataSession

/-- What becomes of a client during an operation: the client before it, the events, the result, and
the client after it. -/
abbrev Course (α : Type) := Client → List Event → Except ClientError α → Client → Prop

/-! ## Sending -/

/-- The courses of a request that goes out as it is. -/
inductive Sending (c : Client) (purpose : Purpose) (request : Http.Request) :
    List Event → Except Http.Failure Http.Response → Prop
  | unsendable (h : Http.isSendable request.url = false) :
    Sending c purpose request [] (.error ⟨.unbuildable, some request.url⟩)
  | sent {outcome : Except Http.Failure Http.Response} (h : Http.isSendable request.url = true) :
    Sending c purpose request [.sent purpose (c.complete request) outcome] outcome

/-! ## Opening sessions -/

/-- The notice of a login that is given up. -/
def Client.abandonment (c : Client) (attempt : UInt32) (failure : Http.Failure) : Notice :=
  if failure.isTransient then .attemptsExhausted c.slot attempt failure
  else .loginFailed c.slot failure

/-- The courses of a login from attempt number `attempt` on. -/
inductive Attempting (c : Client) (request : Http.Request) :
    UInt32 → List Event → Except Http.Failure (Http.Response × UInt32) → Prop
  | answered {attempt : UInt32} {events : List Event} {response : Http.Response}
      (h : Sending c .login request events (.ok response)) :
    Attempting c request attempt events (.ok (response, attempt))
  | abandoned {attempt : UInt32} {events : List Event} {failure : Http.Failure}
      (h : Sending c .login request events (.error failure))
      (last : c.retryDelay? failure attempt = none) :
    Attempting c request attempt (events ++ [.noted (c.abandonment attempt failure)])
      (.error failure)
  | repeated {attempt : UInt32} {events events' : List Event} {failure : Http.Failure}
      {delay : UInt64} {result : Except Http.Failure (Http.Response × UInt32)}
      (h : Sending c .login request events (.error failure))
      (again : c.retryDelay? failure attempt = some delay)
      (rest : Attempting c request (attempt + 1) events' result) :
    Attempting c request attempt
      (events ++ .noted (.attemptFailed c.slot attempt failure delay) :: .paused delay :: events')
      result

/-- The event of storing a credential. -/
def Client.stores (c : Client) (credential : Credential) (outcome : Except StoreError Unit) :
    Event :=
  .put c.key.text credential.cookie c.config.cacheTtl.toNat outcome

/-- The courses of `Operation.openSession`. -/
inductive Opening (c : Client) : List Event → Except ClientError Unit → Client → Prop
  | noEndpoint {e : UrlError} (h : c.base.endpoint Client.loginPath = .error e) :
    Opening c [] (.error (.invalidUrl e)) c
  | unreached {url : Url} {events : List Event} {failure : Http.Failure}
      (hurl : c.base.endpoint Client.loginPath = .ok url)
      (h : Attempting c (c.loginRequest url) 1 events (.error failure)) :
    Opening c events (.error (.transport failure)) c.failed
  | rejected {url : Url} {events : List Event} {response : Http.Response} {attempt : UInt32}
      (hurl : c.base.endpoint Client.loginPath = .ok url)
      (h : Attempting c (c.loginRequest url) 1 events (.ok (response, attempt)))
      (hstatus : response.status.isSuccess = false) :
    Opening c (events ++ [.noted (.loginRejected c.slot response.status)])
      (.error (.authentication c.slot response.status (Operation.refusalOf response)))
      (c.withoutCredential .failed)
  | cookieless {url : Url} {events : List Event} {response : Http.Response} {attempt : UInt32}
      (hurl : c.base.endpoint Client.loginPath = .ok url)
      (h : Attempting c (c.loginRequest url) 1 events (.ok (response, attempt)))
      (hstatus : response.status.isSuccess = true)
      (hcookie : Credential.ofSetCookie? response.setCookie = none) :
    Opening c (events ++ [.noted (.cookieMissing c.slot)])
      (.error (.authentication c.slot response.status .noCookie)) (c.withoutCredential .failed)
  | unstored {url : Url} {events : List Event} {response : Http.Response} {attempt : UInt32}
      {credential : Credential} {e : StoreError}
      (hurl : c.base.endpoint Client.loginPath = .ok url)
      (h : Attempting c (c.loginRequest url) 1 events (.ok (response, attempt)))
      (hstatus : response.status.isSuccess = true)
      (hcookie : Credential.ofSetCookie? response.setCookie = some credential) :
    Opening c
      (events ++ [c.stores credential (.error e), .noted (.cachingFailed c.slot (.store e))])
      (.error (.store e)) c.failed
  | opened {url : Url} {events : List Event} {response : Http.Response} {attempt : UInt32}
      {credential : Credential}
      (hurl : c.base.endpoint Client.loginPath = .ok url)
      (h : Attempting c (c.loginRequest url) 1 events (.ok (response, attempt)))
      (hstatus : response.status.isSuccess = true)
      (hcookie : Credential.ofSetCookie? response.setCookie = some credential) :
    Opening c (events ++ [c.stores credential (.ok ()), .noted (.established c.slot attempt)])
      (.ok ()) (c.adopt credential)

/-- The courses of `Operation.login`. -/
inductive LoggingIn (c : Client) : List Event → Except ClientError Unit → Client → Prop
  | unanswered {e : StoreError} :
    LoggingIn c [.got c.key.text (.error e)] (.error (.store e)) c
  | reused {token : String} :
    LoggingIn c [.got c.key.text (.ok (some token)), .noted (.reused c.slot)] (.ok ())
      (c.adopt ⟨token⟩)
  | opening {events : List Event} {result : Except ClientError Unit} {c' : Client}
      (h : Opening c events result c') :
    LoggingIn c (.got c.key.text (.ok none) :: .noted (.loggingIn c.slot) :: events) result c'

/-- The courses of `Operation.ensureSession`. -/
inductive Acquiring (c : Client) : List Event → Except ClientError Unit → Client → Prop
  | held (h : c.credential.isSome = true) : Acquiring c [] (.ok ()) c
  | loggingIn {events : List Event} {result : Except ClientError Unit} {c' : Client}
      (h : c.credential = none) (hlogin : LoggingIn c events result c') :
    Acquiring c events result c'

/-! ## Closing sessions -/

/-- The courses of `Operation.credentialToClose`; the client stays as it is. -/
inductive FindingCredential (c : Client) :
    List Event → Except StoreError (Option Credential) → Prop
  | held {credential : Credential} (h : c.credential = some credential) :
    FindingCredential c [] (.ok (some credential))
  | stored {outcome : Except StoreError (Option String)} (h : c.credential = none) :
    FindingCredential c [.got c.key.text outcome] (outcome.map (·.map Credential.mk))

/-- The notice of a logout that has been sent. -/
def Client.farewell (c : Client) : Except Http.Failure Http.Response → Notice
  | .ok response => .closed c.slot response.status
  | .error failure => .closingFailed c.slot failure

/-- The courses of `Operation.logout`. -/
inductive LoggingOut (c : Client) : List Event → Except ClientError Unit → Client → Prop
  | unchecked {e : StoreError} :
    LoggingOut c [.checked c.key.text (.error e)] (.error (.store e)) c
  | nothing :
    LoggingOut c [.checked c.key.text (.ok false), .noted (.nothingToClose c.slot)] (.ok ()) c
  | unfound {events : List Event} {e : StoreError} (h : FindingCredential c events (.error e)) :
    LoggingOut c (.checked c.key.text (.ok true) :: events) (.error (.store e)) c
  | noEndpoint {events : List Event} {credential : Option Credential} {e : UrlError}
      (h : FindingCredential c events (.ok credential))
      (hurl : c.base.endpoint Client.logoutPath = .error e) :
    LoggingOut c (.checked c.key.text (.ok true) :: events) (.error (.invalidUrl e)) c
  | unforgotten {url : Url} {events events' : List Event} {credential : Option Credential}
      {outcome : Except Http.Failure Http.Response} {e : StoreError}
      (h : FindingCredential c events (.ok credential))
      (hurl : c.base.endpoint Client.logoutPath = .ok url)
      (hsend : Sending c .logout (Client.logoutRequest url credential) events' outcome) :
    LoggingOut c
      (.checked c.key.text (.ok true) :: (events ++ events' ++ [.forgot c.key.text (.error e)]))
      (.error (.store e)) c
  | closed {url : Url} {events events' : List Event} {credential : Option Credential}
      {outcome : Except Http.Failure Http.Response}
      (h : FindingCredential c events (.ok credential))
      (hurl : c.base.endpoint Client.logoutPath = .ok url)
      (hsend : Sending c .logout (Client.logoutRequest url credential) events' outcome) :
    LoggingOut c
      (.checked c.key.text (.ok true) :: (events ++ events' ++
        [.forgot c.key.text (.ok ()), .noted (c.farewell outcome)]))
      ((outcome.map fun _ => ()).mapError .transport) (c.withoutCredential .unauthenticated)

/-! ## Requests -/

/-- The client with no headers in its queue. -/
def Client.unqueued (c : Client) : Client :=
  { c with queued := [] }

/-- The courses of `Operation.dispatch`; the client stays as it is. -/
inductive Dispatching (c : Client) (r : PendingRequest) (headers : List Http.Header) :
    List Event → Except ClientError Http.Response → Prop
  | noUrl {e : UrlError} (h : c.prepare r headers = .error e) :
    Dispatching c r headers [] (.error (.invalidUrl e))
  | sending {request : Http.Request} {events : List Event}
      {outcome : Except Http.Failure Http.Response} (h : c.prepare r headers = .ok request)
      (hsend : Sending c .business request events outcome) :
    Dispatching c r headers events (outcome.mapError .transport)

/-- The courses of `Operation.evictSession`. -/
inductive Evicting (c : Client) : List Event → Except ClientError Unit → Client → Prop
  | stuck {e : StoreError} :
    Evicting c [.forgot c.key.text (.error e), .noted (.evictionFailed c.slot (.store e))]
      (.error (.store e)) (c.withoutCredential .failed)
  | evicted : Evicting c [.forgot c.key.text (.ok ())] (.ok ()) (c.withoutCredential .retrying)

/-- The notice of a response that rejects the renewed session. -/
def Client.complaint (c : Client) : Except ClientError Http.Response → List Event
  | .ok response =>
    if response.status.isSessionExpired then [.noted (.stillRejected c.slot response.status)]
    else []
  | .error _ => []

/-- There is nothing but a notice of a complaint. -/
theorem Client.complaint_eq (c : Client) (result : Except ClientError Http.Response) :
    c.complaint result = [] ∨ ∃ notice, c.complaint result = [.noted notice] := by
  cases result with
  | error e => exact .inl rfl
  | ok response =>
    by_cases hstatus : response.status.isSessionExpired = true
    · exact .inr ⟨_, if_pos hstatus⟩
    · exact .inl (if_neg hstatus)

/-- The courses of `Operation.renewAndReplay`. -/
inductive Renewing (c : Client) (r : PendingRequest) :
    List Event → Except ClientError Http.Response → Client → Prop
  | unevicted {events : List Event} {e : ClientError} {c' : Client}
      (h : Evicting c events (.error e) c') : Renewing c r events (.error e) c'
  | unopened {events events' : List Event} {e : ClientError} {c₁ c' : Client}
      (h : Evicting c events (.ok ()) c₁) (hopen : Opening c₁ events' (.error e) c') :
    Renewing c r (events ++ events') (.error e) c'
  | replayed {events events' events'' : List Event} {result : Except ClientError Http.Response}
      {c₁ c' : Client} (h : Evicting c events (.ok ()) c₁) (hopen : Opening c₁ events' (.ok ()) c')
      (hreplay : Dispatching c' r [] events'' result) :
    Renewing c r (events ++ (events' ++ (events'' ++ c'.complaint result))) result c'

/-- The courses of a request under a session that has been acquired. -/
inductive Delivering (c : Client) (r : PendingRequest) (headers : List Http.Header) :
    List Event → Except ClientError Http.Response → Client → Prop
  | undelivered {events : List Event} {e : ClientError}
      (h : Dispatching c r headers events (.error e)) :
    Delivering c r headers events (.error e) c
  | answered {events : List Event} {response : Http.Response}
      (h : Dispatching c r headers events (.ok response))
      (hstatus : response.status.isSessionExpired = false) :
    Delivering c r headers events (.ok response) c
  | renewed {events events' : List Event} {response : Http.Response}
      {result : Except ClientError Http.Response} {c' : Client}
      (h : Dispatching c r headers events (.ok response))
      (hstatus : response.status.isSessionExpired = true)
      (hrenew : Renewing c r events' result c') :
    Delivering c r headers
      (events ++ .noted (.sessionRejected c.slot response.status r.method r.endpoint) :: events')
      result c'

/-- The courses of `Operation.sendPending`. -/
inductive Requesting (c : Client) (r : PendingRequest) :
    List Event → Except ClientError Http.Response → Client → Prop
  | unacquired {events : List Event} {e : ClientError} {c' : Client}
      (h : Acquiring c.unqueued events (.error e) c') : Requesting c r events (.error e) c'
  | acquired {events events' : List Event} {result : Except ClientError Http.Response}
      {c₁ c' : Client} (h : Acquiring c.unqueued events (.ok ()) c₁)
      (hdeliver : Delivering c₁ r c.queued events' result c') :
    Requesting c r (events ++ events') result c'

/-- The request that a caller makes of a draft, with the headers that were queued. -/
def Client.adjusted (c : Client) (method : Http.Method) (endpoint : String)
    (adjustments : List Adjustment) (headers : List Http.Header) :
    Except ClientError Http.Request := do
  let draft ← (c.prepare (.plain method endpoint) headers).mapError .invalidUrl
  (adjustments.foldlM Adjustment.apply draft).mapError .transport

/-- The courses of `Operation.sendWith`. -/
inductive SendingWith (c : Client) (method : Http.Method) (endpoint : String)
    (adjustments : List Adjustment) : List Event → Except ClientError Http.Response → Client → Prop
  | unacquired {events : List Event} {e : ClientError} {c' : Client}
      (h : Acquiring c.unqueued events (.error e) c') :
    SendingWith c method endpoint adjustments events (.error e) c'
  | unbuilt {events : List Event} {e : ClientError} {c' : Client}
      (h : Acquiring c.unqueued events (.ok ()) c')
      (hbuild : c'.adjusted method endpoint adjustments c.queued = .error e) :
    SendingWith c method endpoint adjustments events (.error e) c'
  | sending {events events' : List Event} {request : Http.Request}
      {outcome : Except Http.Failure Http.Response} {c' : Client}
      (h : Acquiring c.unqueued events (.ok ()) c')
      (hbuild : c'.adjusted method endpoint adjustments c.queued = .ok request)
      (hsend : Sending c' .business request events' outcome) :
    SendingWith c method endpoint adjustments (events ++ events') (outcome.mapError .transport) c'

/-! ## Pools -/

/-- The courses of a declared request; the client stays as it is. -/
inductive DispatchingDeclared (c : Client) :
    Except EncodeError PendingRequest → List Event → Except ClientError Http.Response → Prop
  | unencoded {e : EncodeError} : DispatchingDeclared c (.error e) [] (.error (.encoding e))
  | dispatching {r : PendingRequest} {events : List Event}
      {result : Except ClientError Http.Response} (h : Dispatching c r [] events result) :
    DispatchingDeclared c (.ok r) events result

/-- The courses of declared requests, one after the other. -/
inductive DispatchingAll (c : Client) : List (PoolKey × Except EncodeError PendingRequest) →
    List Event → List (PoolKey × Except ClientError Http.Response) → Prop
  | nil : DispatchingAll c [] [] []
  | cons {key : PoolKey} {r : Except EncodeError PendingRequest}
      {entries : List (PoolKey × Except EncodeError PendingRequest)} {events events' : List Event}
      {result : Except ClientError Http.Response}
      {results : List (PoolKey × Except ClientError Http.Response)}
      (h : DispatchingDeclared c r events result)
      (rest : DispatchingAll c entries events' results) :
    DispatchingAll c ((key, r) :: entries) (events ++ events') ((key, result) :: results)

/-- The courses of `Operation.pool`. -/
inductive Pooling (c : Client) (p : Pool) : List Event →
    Except ClientError (PoolResults (Except ClientError Http.Response)) → Client → Prop
  | unacquired {events : List Event} {e : ClientError} {c' : Client}
      (h : Acquiring c events (.error e) c') : Pooling c p events (.error e) c'
  | dispatched {events events' : List Event} {c' : Client}
      {results : List (PoolKey × Except ClientError Http.Response)}
      (h : Acquiring c events (.ok ()) c') (hall : DispatchingAll c' p.entries events' results) :
    Pooling c p (events ++ .noted (.poolDispatched c'.slot p.size) :: events') (.ok ⟨results⟩) c'

/-! ## Actions -/

/-- The courses of an action. -/
inductive Performing (c : Client) : Action → List Event → Except ClientError Outcome → Client → Prop
  | login {events : List Event} {result : Except ClientError Unit} {c' : Client}
      (h : LoggingIn c events result c') :
    Performing c .login events (result.map fun _ => .done) c'
  | logout {events : List Event} {result : Except ClientError Unit} {c' : Client}
      (h : LoggingOut c events result c') :
    Performing c .logout events (result.map fun _ => .done) c'
  | misqueued {pairs : List (String × String)} {e : Http.HeaderError}
      (h : c.withHeaders pairs = .error e) :
    Performing c (.withHeaders pairs) [] (.error (.invalidHeader e)) c
  | queued {pairs : List (String × String)} {c' : Client} (h : c.withHeaders pairs = .ok c') :
    Performing c (.withHeaders pairs) [] (.ok .done) c'
  | unencoded {e : EncodeError} :
    Performing c (.request (.error e)) [] (.error (.encoding e)) c
  | request {r : PendingRequest} {events : List Event}
      {result : Except ClientError Http.Response} {c' : Client}
      (h : Requesting c r events result c') :
    Performing c (.request (.ok r)) events (result.map .response) c'
  | sendWith {method : Http.Method} {endpoint : String} {adjustments : List Adjustment}
      {events : List Event} {result : Except ClientError Http.Response} {c' : Client}
      (h : SendingWith c method endpoint adjustments events result c') :
    Performing c (.sendWith method endpoint adjustments) events (result.map .response) c'
  | pool {declarations : List Declaration} {events : List Event}
      {result : Except ClientError (PoolResults (Except ClientError Http.Response))} {c' : Client}
      (h : Pooling c (.ofDeclarations declarations) events result c') :
    Performing c (.pool declarations) events (result.map .responses) c'

/-! ## What stays

No course changes the settings of its client, or what the client is bound to; only the credential,
the queue and the state are ever changed. -/

/-- Another state of a client. -/
structure Client.Remains (c c' : Client) : Prop where
  config : c'.config = c.config
  standing : c'.standing = c.standing
  base : c'.base = c.base
  slot : c'.slot = c.slot
  key : c'.key = c.key

namespace Client.Remains

/-- A client remains itself. -/
theorem refl (c : Client) : c.Remains c := ⟨rfl, rfl, rfl, rfl, rfl⟩

/-- What remains at every turn remains. -/
theorem trans {c c₁ c₂ : Client} (h : c.Remains c₁) (h' : c₁.Remains c₂) : c.Remains c₂ :=
  ⟨h'.config.trans h.config, h'.standing.trans h.standing, h'.base.trans h.base,
    h'.slot.trans h.slot, h'.key.trans h.key⟩

variable (c : Client)

/-- A client remains when it takes a credential. -/
theorem adopt (credential : Credential) : c.Remains (c.adopt credential) :=
  ⟨rfl, rfl, rfl, rfl, rfl⟩

/-- A client remains when it fails. -/
theorem failed : c.Remains c.failed := ⟨rfl, rfl, rfl, rfl, rfl⟩

/-- A client remains when it gives its credential up. -/
theorem withoutCredential (state : SessionState) : c.Remains (c.withoutCredential state) :=
  ⟨rfl, rfl, rfl, rfl, rfl⟩

/-- A client remains when its queue is taken away. -/
theorem unqueued : c.Remains c.unqueued := ⟨rfl, rfl, rfl, rfl, rfl⟩

end Client.Remains

section
variable {c c' : Client} {r : PendingRequest} {events : List Event}

/-- The client remains while a session is opened. -/
theorem Opening.remains {result : Except ClientError Unit} (h : Opening c events result c') :
    c.Remains c' := by
  cases h with
  | noEndpoint => exact .refl c
  | unreached | unstored => exact .failed c
  | rejected | cookieless => exact .withoutCredential c .failed
  | opened => exact .adopt c _

/-- The client remains during a login. -/
theorem LoggingIn.remains {result : Except ClientError Unit} (h : LoggingIn c events result c') :
    c.Remains c' := by
  cases h with
  | unanswered => exact .refl c
  | reused => exact .adopt c _
  | opening hopen => exact hopen.remains

/-- The client remains while a session is acquired. -/
theorem Acquiring.remains {result : Except ClientError Unit} (h : Acquiring c events result c') :
    c.Remains c' := by
  cases h with
  | held => exact .refl c
  | loggingIn _ hlogin => exact hlogin.remains

/-- The client remains during a logout. -/
theorem LoggingOut.remains {result : Except ClientError Unit}
    (h : LoggingOut c events result c') : c.Remains c' := by
  cases h with
  | unchecked | nothing | unfound | noEndpoint | unforgotten => exact .refl c
  | closed => exact .withoutCredential c .unauthenticated

/-- The client remains while its session is given up. -/
theorem Evicting.remains {result : Except ClientError Unit} (h : Evicting c events result c') :
    c.Remains c' := by
  cases h with
  | stuck => exact .withoutCredential c .failed
  | evicted => exact .withoutCredential c .retrying

/-- The client remains during a renewal. -/
theorem Renewing.remains {result : Except ClientError Http.Response}
    (h : Renewing c r events result c') : c.Remains c' := by
  cases h with
  | unevicted hevict => exact hevict.remains
  | unopened hevict hopen | replayed hevict hopen => exact hevict.remains.trans hopen.remains

/-- The client remains while a request is delivered. -/
theorem Delivering.remains {headers : List Http.Header} {result : Except ClientError Http.Response}
    (h : Delivering c r headers events result c') : c.Remains c' := by
  cases h with
  | undelivered | answered => exact .refl c
  | renewed _ _ hrenew => exact hrenew.remains

/-- The client remains while a request is sent. -/
theorem Requesting.remains {result : Except ClientError Http.Response}
    (h : Requesting c r events result c') : c.Remains c' := by
  cases h with
  | unacquired hacquire => exact (Client.Remains.unqueued c).trans hacquire.remains
  | acquired hacquire hdeliver =>
    exact ((Client.Remains.unqueued c).trans hacquire.remains).trans hdeliver.remains

/-- Queueing headers changes the queue only. -/
theorem Client.exists_of_withHeaders {pairs : List (String × String)}
    (h : c.withHeaders pairs = .ok c') : ∃ queued, c' = { c with queued } := by
  simp only [Client.withHeaders, bind, Except.bind] at h
  split at h
  · cases h
  · cases h
    exact ⟨_, rfl⟩

/-- The client remains while an adjusted request is sent. -/
theorem SendingWith.remains {method : Http.Method} {endpoint : String}
    {adjustments : List Adjustment} {result : Except ClientError Http.Response}
    (h : SendingWith c method endpoint adjustments events result c') : c.Remains c' := by
  cases h with
  | unacquired hacquire | unbuilt hacquire | sending hacquire =>
    exact (Client.Remains.unqueued c).trans hacquire.remains

/-- The client remains during every action. -/
theorem Performing.remains {a : Action} {result : Except ClientError Outcome}
    (h : Performing c a events result c') : c.Remains c' := by
  cases h with
  | login h => exact h.remains
  | logout h => exact h.remains
  | misqueued | unencoded => exact .refl c
  | queued h =>
    obtain ⟨_, rfl⟩ := Client.exists_of_withHeaders h
    exact ⟨rfl, rfl, rfl, rfl, rfl⟩
  | request h => exact h.remains
  | sendWith h => exact h.remains
  | pool h =>
    cases h with
    | unacquired hacquire | dispatched hacquire => exact hacquire.remains

end

end ODataSession
