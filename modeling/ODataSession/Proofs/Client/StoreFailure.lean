import ODataSession.Proofs.Client.Performance
import ODataSession.Proofs.Client.Renewal
import ODataSession.Rehearsal.FailingStore

/-!
# Stores that fail

What an operation does when its store fails. The store can fail at each of its six questions, and an
operation ends at the first one that fails: it gives this failure as its error
(`Performing.storeErrors_eq`), and nothing but a notice comes behind it. The client has failed if
it was about to give up a rejected session or to keep a new one, and is what it was if it was about
to look a session up or to close one (`Site.perform_stopped`).
-/

namespace ODataSession

/-! ## Failures among events -/

/-- The failure of the store that an event is, if it is one. -/
@[simp]
def Event.storeError? : Event → Option StoreError
  | .got _ (.error e) => some e
  | .checked _ (.error e) => some e
  | .put _ _ _ (.error e) => some e
  | .forgot _ (.error e) => some e
  | .got _ (.ok _) | .checked _ (.ok _) | .put _ _ _ (.ok _) | .forgot _ (.ok _)
  | .sent .. | .paused _ | .noted _ => none

/-- The failures of the store among events, in their order. -/
def storeErrors (events : List Event) : List StoreError :=
  events.filterMap Event.storeError?

/-- The failure of the store that an error is, if it is one. -/
def ClientError.storeError? : ClientError → Option StoreError
  | .store e => some e
  | .configuration _ | .authentication .. | .transport _ | .invalidUrl _ | .invalidHeader _
  | .encoding _ => none

/-- The failures of the store that a result tells. -/
def reportedErrors {α : Type} : Except ClientError α → List StoreError
  | .ok _ => []
  | .error e => e.storeError?.toList

section
variable {α γ : Type}

/-- A value tells of no failure. -/
@[simp]
theorem reportedErrors_ok (a : α) : reportedErrors (.ok a) = [] := rfl

/-- An error tells of the failure that it is. -/
@[simp]
theorem reportedErrors_error (e : ClientError) :
    reportedErrors (.error e : Except ClientError α) = e.storeError?.toList := rfl

/-- An error of the transport is no failure of the store. -/
@[simp]
theorem reportedErrors_transport (outcome : Except Http.Failure α) :
    reportedErrors (outcome.mapError .transport) = [] := by
  cases outcome <;> rfl

/-- What is made of a value does not show in the failures. -/
@[simp]
theorem reportedErrors_map (f : α → γ) (result : Except ClientError α) :
    reportedErrors (result.map f) = reportedErrors result := by
  cases result <;> rfl

/-- A result that tells of one failure is this failure. -/
theorem eq_error_of_reportedErrors {e : StoreError} {result : Except ClientError α}
    (h : reportedErrors result = [e]) : result = .error (.store e) := by
  cases result with
  | ok => cases h
  | error error =>
    cases error with
    | store =>
      cases h
      rfl
    | configuration | authentication | transport | invalidUrl | invalidHeader | encoding => cases h

end

/-- Nothing happens, and nothing fails. -/
@[simp]
theorem storeErrors_nil : storeErrors [] = [] := rfl

/-- The failure of an event comes first. -/
@[simp]
theorem storeErrors_cons (e : Event) (events : List Event) :
    storeErrors (e :: events) = e.storeError?.toList ++ storeErrors events := by
  unfold storeErrors
  rw [List.filterMap_cons]
  cases e.storeError? <;> rfl

/-- The failures of events in a row. -/
@[simp]
theorem storeErrors_append (events events' : List Event) :
    storeErrors (events ++ events') = storeErrors events ++ storeErrors events' :=
  List.filterMap_append

section
variable {c c' : Client} {r : PendingRequest} {events : List Event}

/-- The store is not asked when something is sent. -/
@[simp]
theorem Sending.storeErrors_eq {purpose : Purpose} {request : Http.Request}
    {outcome : Except Http.Failure Http.Response} (h : Sending c purpose request events outcome) :
    storeErrors events = [] := by
  cases h <;> rfl

/-- The store is not asked between the attempts at a login. -/
theorem Attempting.storeErrors_eq {request : Http.Request} {attempt : UInt32}
    {result : Except Http.Failure (Http.Response × UInt32)}
    (h : Attempting c request attempt events result) : storeErrors events = [] := by
  induction h with
  | answered h => exact h.storeErrors_eq
  | abandoned h => simp [h.storeErrors_eq]
  | repeated h _ _ ih => simp [h.storeErrors_eq, ih]

/-- Opening a session tells what fails in the store. -/
theorem Opening.storeErrors_eq {result : Except ClientError Unit} (h : Opening c events result c') :
    storeErrors events = reportedErrors result := by
  cases h with
  | noEndpoint => rfl
  | unreached _ hattempt => exact hattempt.storeErrors_eq
  | rejected _ hattempt | cookieless _ hattempt =>
    rw [storeErrors_append, hattempt.storeErrors_eq]
    rfl
  | unstored _ hattempt | opened _ hattempt =>
    rw [storeErrors_append, hattempt.storeErrors_eq]
    rfl

/-- A login tells what fails in the store. -/
theorem LoggingIn.storeErrors_eq {result : Except ClientError Unit}
    (h : LoggingIn c events result c') : storeErrors events = reportedErrors result := by
  cases h with
  | unanswered | reused => rfl
  | opening hopen => exact hopen.storeErrors_eq

/-- An acquisition tells what fails in the store. -/
theorem Acquiring.storeErrors_eq {result : Except ClientError Unit}
    (h : Acquiring c events result c') : storeErrors events = reportedErrors result := by
  cases h with
  | held => rfl
  | loggingIn _ hlogin => exact hlogin.storeErrors_eq

/-- Finding the credential of a session tells what fails in the store. -/
theorem FindingCredential.storeErrors_eq {result : Except StoreError (Option Credential)}
    (h : FindingCredential c events result) :
    storeErrors events = reportedErrors (result.mapError .store) := by
  cases h with
  | held => rfl
  | @stored outcome => cases outcome <;> rfl

/-- A logout tells what fails in the store. -/
theorem LoggingOut.storeErrors_eq {result : Except ClientError Unit}
    (h : LoggingOut c events result c') : storeErrors events = reportedErrors result := by
  cases h with
  | unchecked | nothing => rfl
  | unfound hfind | noEndpoint hfind => simp [hfind.storeErrors_eq, ClientError.storeError?]
  | unforgotten hfind _ hsend | closed hfind _ hsend =>
    simp [hfind.storeErrors_eq, hsend.storeErrors_eq, ClientError.storeError?]

/-- Sending a prepared request asks the store nothing. -/
theorem Dispatching.storeErrors_eq {headers : List Http.Header}
    {result : Except ClientError Http.Response} (h : Dispatching c r headers events result) :
    storeErrors events = [] ∧ reportedErrors result = [] := by
  cases h with
  | noUrl => exact ⟨rfl, rfl⟩
  | sending _ hsend => exact ⟨hsend.storeErrors_eq, reportedErrors_transport _⟩

/-- Giving up a session tells what fails in the store. -/
theorem Evicting.storeErrors_eq {result : Except ClientError Unit}
    (h : Evicting c events result c') : storeErrors events = reportedErrors result := by
  cases h <;> rfl

/-- The store is not asked for a complaint. -/
@[simp]
theorem Client.storeErrors_complaint (c : Client) (result : Except ClientError Http.Response) :
    storeErrors (c.complaint result) = [] := by
  rcases c.complaint_eq result with h | ⟨notice, h⟩
  · rw [h]
    rfl
  · rw [h]
    rfl

/-- A renewal tells what fails in the store. -/
theorem Renewing.storeErrors_eq {result : Except ClientError Http.Response}
    (h : Renewing c r events result c') : storeErrors events = reportedErrors result := by
  cases h with
  | unevicted hevict => exact hevict.storeErrors_eq
  | unopened hevict hopen => simp [hevict.storeErrors_eq, hopen.storeErrors_eq]
  | replayed hevict hopen hreplay =>
    obtain ⟨hsent, hresult⟩ := hreplay.storeErrors_eq
    simp [hevict.storeErrors_eq, hopen.storeErrors_eq, hsent, hresult]

/-- A request that is delivered tells what fails in the store. -/
theorem Delivering.storeErrors_eq {headers : List Http.Header}
    {result : Except ClientError Http.Response} (h : Delivering c r headers events result c') :
    storeErrors events = reportedErrors result := by
  cases h with
  | undelivered hsend | answered hsend =>
    obtain ⟨hsent, hresult⟩ := hsend.storeErrors_eq
    rw [hsent, hresult]
  | renewed hsend _ hrenew => simp [hsend.storeErrors_eq, hrenew.storeErrors_eq]

/-- The entries of a pool ask the store nothing. -/
theorem DispatchingAll.storeErrors_eq {entries : List (PoolKey × Except EncodeError PendingRequest)}
    {results : List (PoolKey × Except ClientError Http.Response)}
    (h : DispatchingAll c entries events results) : storeErrors events = [] := by
  induction h with
  | nil => rfl
  | cons h _ ih =>
    cases h with
    | unencoded => exact ih
    | dispatching hsend => simp [hsend.storeErrors_eq, ih]

/-- A draft that is not to be sent is no failure of the store. -/
theorem Client.reportedErrors_adjusted (c : Client) (method : Http.Method) (endpoint : String)
    (adjustments : List Adjustment) (headers : List Http.Header) :
    reportedErrors (c.adjusted method endpoint adjustments headers) = [] := by
  rw [adjusted]
  cases c.prepare (.plain method endpoint) headers with
  | error => rfl
  | ok draft => exact reportedErrors_transport _

/-- Every action tells what fails in the store, and nothing else is a failure of the store. -/
theorem Performing.storeErrors_eq {a : Action} {result : Except ClientError Outcome}
    (h : Performing c a events result c') : storeErrors events = reportedErrors result := by
  cases h with
  | login h => simp [h.storeErrors_eq]
  | logout h => simp [h.storeErrors_eq]
  | misqueued | queued | unencoded => rfl
  | request h =>
    cases h with
    | unacquired hacquire => simp [hacquire.storeErrors_eq]
    | acquired hacquire hdeliver => simp [hacquire.storeErrors_eq, hdeliver.storeErrors_eq]
  | sendWith h =>
    cases h with
    | unacquired hacquire => simp [hacquire.storeErrors_eq]
    | unbuilt hacquire hbuild =>
      have herror := congrArg reportedErrors hbuild
      rw [Client.reportedErrors_adjusted] at herror
      simpa [hacquire.storeErrors_eq] using herror
    | sending hacquire _ hsend => simp [hacquire.storeErrors_eq, hsend.storeErrors_eq]
  | pool h =>
    cases h with
    | unacquired hacquire => simp [hacquire.storeErrors_eq]
    | dispatched hacquire hall => simp [hacquire.storeErrors_eq, hall.storeErrors_eq]

end

/-! ## Where operations stop -/

/-- What a failure of the store leaves of a client whose operation it stops. -/
inductive Client.Stopped (c : Client) (e : StoreError) :
    Action → List Event → Event → Client → Prop
  /-- The store does not tell whether it has a session. -/
  | asking {a : Action} {before : List Event} {c' : Client}
      (credential_eq : c'.credential = c.credential) (state_eq : c'.state = c.state) :
    c.Stopped e a before (.got c.key.text (.error e)) c'
  /-- The store does not keep a new session. -/
  | caching {a : Action} {before : List Event} {token : String} {lifetime : Nat} {c' : Client}
      (state_eq : c'.state = .failed) :
    c.Stopped e a before (.put c.key.text token lifetime (.error e)) c'
  /-- The store does not give up a session that was rejected by the call before. -/
  | evicting {r : PendingRequest} {before : List Event} {c' : Client}
      (rejected : ∃ front call, calls before = front ++ [call] ∧ call.purpose = .business ∧
        call.IsRejected)
      (credential_eq : c'.credential = none) (state_eq : c'.state = .failed) :
    c.Stopped e (.request (.ok r)) before (.forgot c.key.text (.error e)) c'
  /-- The store does not answer while a session is closed. -/
  | closing {before : List Event} {failure : Event} {c' : Client}
      (storeError?_eq : failure.storeError? = some e)
      (credential_eq : c'.credential = c.credential) (state_eq : c'.state = c.state) :
    c.Stopped e .logout before failure c'

/-- An operation is stopped by a failure of the store: nothing comes behind it but notices. -/
def Client.Halts (c : Client) (e : StoreError) (a : Action) (events : List Event) (c' : Client) :
    Prop :=
  ∃ before failure after, events = before ++ failure :: after ∧
    (∀ x ∈ after, ∃ notice, x = .noted notice) ∧ c.Stopped e a before failure c'

section
variable {c c' c₁ : Client} {e : StoreError} {a : Action} {r : PendingRequest}
  {events : List Event}

/-- A failure that stops an operation is the one it is said to be. -/
theorem Client.Stopped.storeError?_eq {before : List Event} {failure : Event}
    (h : c.Stopped e a before failure c') : failure.storeError? = some e := by
  cases h with
  | asking | caching | evicting => rfl
  | closing hfailure => exact hfailure

/-- What is stopped is stopped wherever it stands behind other events. -/
theorem Client.Halts.append_left (h : c.Halts e a events c') (front : List Event) :
    c.Halts e a (front ++ events) c' := by
  obtain ⟨before, failure, after, rfl, hafter, hstopped⟩ := h
  refine ⟨front ++ before, failure, after, by rw [List.append_assoc], hafter, ?_⟩
  cases hstopped with
  | asking hcredential hstate => exact .asking hcredential hstate
  | caching hstate => exact .caching hstate
  | evicting hrejected hcredential hstate =>
    obtain ⟨first, call, hcalls, hcall⟩ := hrejected
    refine .evicting ⟨calls front ++ first, call, ?_, hcall⟩ hcredential hstate
    rw [calls_append, hcalls, List.append_assoc]
  | closing hfailure hcredential hstate => exact .closing hfailure hcredential hstate

/-- Taking the queue from a client changes nothing of what stops it. -/
theorem Client.Halts.of_unqueued (h : c.unqueued.Halts e a events c') : c.Halts e a events c' := by
  obtain ⟨before, failure, after, hevents, hafter, hstopped⟩ := h
  refine ⟨before, failure, after, hevents, hafter, ?_⟩
  cases hstopped with
  | asking hcredential hstate => exact .asking hcredential hstate
  | caching hstate => exact .caching hstate
  | evicting hrejected hcredential hstate => exact .evicting hrejected hcredential hstate
  | closing hfailure hcredential hstate => exact .closing hfailure hcredential hstate

/-- A session is not opened because the store does not keep it. -/
theorem Opening.halts (h : Opening c₁ events (.error (.store e)) c') (hc : c.Remains c₁) :
    c.Halts e a events c' := by
  cases h with
  | unstored _ hattempt =>
    refine ⟨_, _, _, rfl, ?_, ?_⟩
    · intro x hx
      exact ⟨_, List.mem_singleton.1 hx⟩
    · rw [Client.stores, hc.key]
      exact .caching rfl

/-- A login is stopped because the store does not tell of a session or does not keep a new one. -/
theorem LoggingIn.halts (h : LoggingIn c events (.error (.store e)) c') :
    c.Halts e a events c' := by
  cases h with
  | unanswered => exact ⟨[], _, [], rfl, by simp, .asking rfl rfl⟩
  | opening hopen =>
    have hhalts : c.Halts e a _ c' := hopen.halts (.refl c)
    exact hhalts.append_left [_, _]

/-- An acquisition is stopped where its login is. -/
theorem Acquiring.halts (h : Acquiring c events (.error (.store e)) c') :
    c.Halts e a events c' := by
  cases h with
  | loggingIn _ hlogin => exact hlogin.halts

/-- A logout is stopped where the store does not answer. -/
theorem LoggingOut.halts (h : LoggingOut c events (.error (.store e)) c') :
    c.Halts e .logout events c' := by
  generalize hresult : (Except.error (.store e) : Except ClientError Unit) = result at h
  have hreported := congrArg reportedErrors hresult
  cases h with
  | unchecked =>
    cases hresult
    exact ⟨[], _, [], rfl, by simp, .closing rfl rfl rfl⟩
  | nothing => cases hresult
  | unfound hfind =>
    cases hresult
    generalize hfound : (Except.error e : Except StoreError (Option Credential)) = found at hfind
    cases hfind with
    | held => cases hfound
    | @stored outcome =>
      cases outcome with
      | ok => cases hfound
      | error =>
        cases hfound
        exact ⟨[_], _, [], rfl, by simp, .closing rfl rfl rfl⟩
  | noEndpoint => cases hresult
  | @unforgotten _ events events' =>
    cases hresult
    exact ⟨_ :: (events ++ events'), _, [], rfl, by simp, .closing rfl rfl rfl⟩
  | closed => simp [ClientError.storeError?] at hreported

/-- A request whose session is renewed is stopped because the store does not give up the rejected
session or does not keep the new one. -/
theorem Renewing.halts (h : Renewing c₁ r events (.error (.store e)) c') (hc : c.Remains c₁)
    (front : List Event) {call : Call} (hfront : calls front = [call])
    (hpurpose : call.purpose = .business) (hrejected : call.IsRejected) :
    c.Halts e (.request (.ok r)) (front ++ events) c' := by
  cases h with
  | unevicted hevict =>
    cases hevict
    refine ⟨front, _, _, rfl, ?_, ?_⟩
    · intro x hx
      exact ⟨_, List.mem_singleton.1 hx⟩
    · rw [hc.key]
      exact .evicting ⟨[], call, hfront, hpurpose, hrejected⟩ rfl rfl
  | unopened hevict hopen =>
    have hhalts := hopen.halts (a := .request (.ok r)) (hc.trans hevict.remains)
    exact (hhalts.append_left _).append_left _
  | replayed _ _ hreplay =>
    have hresult := hreplay.storeErrors_eq.2
    cases hresult

/-- A request that is delivered is stopped where its renewal is. -/
theorem Delivering.halts {headers : List Http.Header}
    (h : Delivering c₁ r headers events (.error (.store e)) c') (hc : c.Remains c₁) :
    c.Halts e (.request (.ok r)) events c' := by
  cases h with
  | undelivered hsend =>
    have hresult := hsend.storeErrors_eq.2
    cases hresult
  | renewed hsend hstatus hrenew =>
    obtain ⟨request, rfl⟩ := hsend.exists_eq_sent
    refine hrenew.halts hc [_, _] rfl rfl ⟨_, rfl, ?_⟩
    simpa [Http.Status.isSessionExpired] using hstatus

/-- A request is stopped where its acquisition or its renewal is. -/
theorem Requesting.halts (h : Requesting c r events (.error (.store e)) c') :
    c.Halts e (.request (.ok r)) events c' := by
  cases h with
  | unacquired hacquire => exact hacquire.halts.of_unqueued
  | acquired hacquire hdeliver =>
    have hremains := (Client.Remains.unqueued c).trans hacquire.remains
    exact (hdeliver.halts hremains).append_left _

/-- An adjusted request is stopped where its acquisition is. -/
theorem SendingWith.halts {method : Http.Method} {endpoint : String}
    {adjustments : List Adjustment}
    (h : SendingWith c method endpoint adjustments events (.error (.store e)) c') :
    c.Halts e a events c' := by
  generalize hresult : (Except.error (.store e) : Except ClientError Http.Response) = result at h
  have hreported := congrArg reportedErrors hresult
  cases h with
  | unacquired hacquire =>
    cases hresult
    exact hacquire.halts.of_unqueued
  | unbuilt _ hbuild =>
    cases hresult
    have hadjusted := congrArg reportedErrors hbuild
    rw [Client.reportedErrors_adjusted] at hadjusted
    cases hadjusted
  | sending => simp [ClientError.storeError?] at hreported

/-- A pool is stopped where its acquisition is. -/
theorem Pooling.halts {p : Pool} (h : Pooling c p events (.error (.store e)) c') :
    c.Halts e a events c' := by
  cases h with
  | unacquired hacquire => exact hacquire.halts

/-- What fails with a value changed has failed before. -/
theorem eq_error_of_map {α γ : Type} {f : α → γ} {error : ClientError}
    {result : Except ClientError α} (h : .error error = result.map f) : result = .error error := by
  cases result with
  | error => exact congrArg _ (Except.error.inj h).symm
  | ok => cases h

/-- An action is stopped where its parts are. -/
theorem Performing.halts (h : Performing c a events (.error (.store e)) c') :
    c.Halts e a events c' := by
  generalize hresult : (Except.error (.store e) : Except ClientError Outcome) = result at h
  cases h with
  | login h =>
    rw [eq_error_of_map hresult] at h
    exact h.halts
  | logout h =>
    rw [eq_error_of_map hresult] at h
    exact h.halts
  | misqueued | queued | unencoded => cases hresult
  | request h =>
    rw [eq_error_of_map hresult] at h
    exact h.halts
  | sendWith h =>
    rw [eq_error_of_map hresult] at h
    exact h.halts
  | pool h =>
    rw [eq_error_of_map hresult] at h
    exact h.halts

end

section
variable {β σ : Type} [Http.Backend β] [SessionStore σ]

/-- Whatever the client is, and however its store fails: an action that gives a failure of the store
as its error has come to it without another one, and has ended there but for a notice. -/
theorem Site.perform_stopped (s : Site β σ) {a : Action} {e : StoreError}
    (h : (s.perform a).1 = .error (.store e)) :
    ∃ before failure after,
      (s.perform a).2.trace = s.trace ++ (before ++ failure :: after) ∧
      storeErrors before = [] ∧ failure.storeError? = some e ∧
      (∀ x ∈ after, ∃ notice, x = .noted notice) ∧
      s.client.Stopped e a before failure (s.perform a).2.client := by
  obtain ⟨events, hcourse, hpass⟩ := s.perform_following a
  rw [h] at hcourse
  have hreported := hcourse.storeErrors_eq
  obtain ⟨before, failure, after, rfl, hafter, hstopped⟩ := hcourse.halts
  have hfailure := hstopped.storeError?_eq
  refine ⟨before, failure, after, hpass.trace_eq, ?_, hfailure, hafter, hstopped⟩
  have hlength := congrArg List.length hreported
  rw [storeErrors_append, storeErrors_cons, hfailure] at hlength
  simp only [List.length_append, reportedErrors_error, ClientError.storeError?, Option.toList_some,
    List.length_singleton] at hlength
  exact List.eq_nil_of_length_eq_zero (by omega)

end

/-- A client whose store does not give up its rejected session stops without another login. -/
theorem Site.perform_stopped_forgetting :
    ∃ (s : Site ScriptedBackend FailingStore) (before after : List Event) (failure : Event),
      Config.plainSample.site? (.granting [] "B1SESSION=a" 401) ⟨.empty, [.forget]⟩ = some s ∧
      (s.perform (.request (.ok (.get "Items")))).1 = .error (.store ⟨"forget unavailable"⟩) ∧
      (s.perform (.request (.ok (.get "Items")))).2.trace = before ++ failure :: after ∧
      (calls (before ++ failure :: after)).map (·.purpose) = [.login, .business] ∧
      s.client.Stopped ⟨"forget unavailable"⟩ (.request (.ok (.get "Items"))) before failure
        (s.perform (.request (.ok (.get "Items")))).2.client := by
  have h : (Config.plainSample.site? (ScriptedBackend.granting [] "B1SESSION=a" 401)
      (⟨.empty, [.forget]⟩ : FailingStore)).any (fun s =>
      s.trace.isEmpty = true ∧
      reportedErrors (s.perform (.request (.ok (.get "Items")))).1 = [⟨"forget unavailable"⟩] ∧
      (calls (s.perform (.request (.ok (.get "Items")))).2.trace).map (·.purpose) =
        [.login, .business]) = true := by
    decide +kernel
  obtain ⟨s, hsite, hs⟩ := (Option.any_eq_true _ _).1 h
  obtain ⟨htrace, hreported, hcalls⟩ := of_decide_eq_true hs
  have hresult : (s.perform (.request (.ok (.get "Items")))).1 =
      .error (.store ⟨"forget unavailable"⟩) :=
    eq_error_of_reportedErrors hreported
  obtain ⟨before, failure, after, hevents, -, -, -, hstopped⟩ := s.perform_stopped hresult
  rw [List.isEmpty_iff.1 htrace, List.nil_append] at hevents
  rw [hevents] at hcalls
  exact ⟨s, before, after, failure, hsite, hresult, hevents, hcalls, hstopped⟩

end ODataSession
