import Mathlib.Data.List.Range
import ODataSession.Proofs.Client.Calls

/-!
# Attempts at a login

How often a login is sent, in terms of what the backend has in store for it
(`Operation.openSession_attempts`). The outcomes are laid out beforehand, as those of the same
request sent again and again (`Client.outcomes`), and a login meets a beginning of them: up to the
first one that is no transient failure, or as many as the policy allows. That is an induction on
the attempts (`Attempting.exists_attempted`). It carries the bound that the number of an attempt
and the attempts still to come do not exceed the limit together, and this is why the number, which
is a machine word, never wraps round.
-/

namespace ODataSession

/-! ## Outcomes in a row -/

/-- An outcome that is a failure behind which another attempt may help. -/
def Http.IsTransient (outcome : Except Http.Failure Http.Response) : Prop :=
  ∃ failure, outcome = .error failure ∧ failure.isTransient = true

/-- A response is no transient failure. -/
theorem Http.not_isTransient_ok (response : Http.Response) :
    ¬ Http.IsTransient (.ok response) := by
  rintro ⟨_, h, -⟩
  cases h

/-- A failure is as transient as it says. -/
theorem Http.isTransient_error {failure : Http.Failure} :
    Http.IsTransient (.error failure) ↔ failure.isTransient = true := by
  refine ⟨?_, fun h => ⟨failure, rfl, h⟩⟩
  rintro ⟨_, ⟨⟩, h⟩
  exact h

/-- Whether an event is a request that goes out, or a pause. -/
def Event.isTransmission : Event → Bool
  | .sent .. | .paused _ => true
  | .got .. | .checked .. | .put .. | .forgot .. | .noted _ => false

/-- The number of an attempt at a login that an event tells of, if it does. -/
def Event.attempt? : Event → Option UInt32
  | .noted (.attemptFailed _ attempt _ _) | .noted (.attemptsExhausted _ attempt _)
  | .noted (.established _ attempt) => some attempt
  | _ => none

/-- The numbers of attempts that events tell of, in their order. -/
def attemptNumbers (events : List Event) : List Nat :=
  (events.filterMap Event.attempt?).map UInt32.toNat

/-- The numbers in events come before those in later ones. -/
theorem attemptNumbers_append (events events' : List Event) :
    attemptNumbers (events ++ events') = attemptNumbers events ++ attemptNumbers events' := by
  simp only [attemptNumbers, List.filterMap_append, List.map_append]

section
variable {β : Type} [Http.Backend β] (c : Client) (request : Http.Request)

/-- What comes of a request that a client sends, and the backend behind it. -/
def Client.transmit (b : β) : Except Http.Failure Http.Response × β :=
  if Http.isSendable request.url then Http.Backend.answer b (c.complete request)
  else (.error ⟨.unbuildable, some request.url⟩, b)

/-- What comes of a request that a client sends again and again; the first time has number zero. -/
def Client.outcomes (b : β) : Nat → Except Http.Failure Http.Response
  | 0 => (c.transmit request b).1
  | k + 1 => Client.outcomes (c.transmit request b).2 k

/-- The events of a login that is sent `n` times; there are none if it cannot be written. -/
def Client.sentLogins (b : β) (n : Nat) : List Event :=
  if Http.isSendable request.url then
    (List.range n).map fun k => .sent .login (c.complete request) (c.outcomes request b k)
  else []

/-- A login that is sent once more behind the first time. -/
theorem Client.sentLogins_succ (b : β) (n : Nat) :
    c.sentLogins request b (n + 1) =
      c.sentLogins request b 1 ++ c.sentLogins request (c.transmit request b).2 n := by
  unfold Client.sentLogins
  split
  · rw [List.range_succ_eq_map, List.map_cons, List.map_map]
    rfl
  · rfl

variable {c request}

section
variable {σ : Type} [SessionStore σ] {events : List Event}
  {outcome : Except Http.Failure Http.Response} {b b' : β} {m m' : σ}

/-- What comes of a request is what its backend answers, if it goes out. -/
theorem Sending.eq_transmit {purpose : Purpose} (h : Sending c purpose request events outcome)
    (hhappens : Happens b m events b' m') :
    outcome = (c.transmit request b).1 ∧ b' = (c.transmit request b).2 := by
  cases h with
  | unsendable h =>
    cases hhappens
    rw [Client.transmit, if_neg (ne_true_of_eq_false h)]
    exact ⟨rfl, rfl⟩
  | sent h =>
    cases hhappens with
    | cons now next =>
      cases next
      rw [Client.transmit, if_pos h]
      exact ⟨now, rfl⟩

/-- What passes while a login is sent once. -/
theorem Sending.eq_sentLogins (h : Sending c .login request events outcome)
    (hhappens : Happens b m events b' m') : events = c.sentLogins request b 1 := by
  obtain ⟨houtcome, -⟩ := h.eq_transmit hhappens
  unfold Client.sentLogins
  cases h with
  | unsendable h => exact (if_neg (ne_true_of_eq_false h)).symm
  | sent h =>
    rw [if_pos h, houtcome]
    rfl

end

end

/-! ## Attempts -/

section
variable {β : Type} [Http.Backend β]

/-- A login that has been sent from attempt number `attempt` on, `repeats` times behind the first
one. -/
structure Client.Attempted (c : Client) (request : Http.Request) (b : β) (attempt : UInt32)
    (repeats : Nat) (events : List Event)
    (result : Except Http.Failure (Http.Response × UInt32)) : Prop where
  bounded : attempt.toNat + repeats ≤ c.config.loginRetry.limit.toNat
  transient : ∀ k < repeats, Http.IsTransient (c.outcomes request b k)
  ended : Http.IsTransient (c.outcomes request b repeats) →
    attempt.toNat + repeats = c.config.loginRetry.limit.toNat
  transmissions_eq : events.filter Event.isTransmission =
    (c.sentLogins request b (repeats + 1)).intersperse
      (.paused c.config.loginRetry.delayMilliseconds)
  outcome_eq : result.map Prod.fst = c.outcomes request b repeats
  numbered : List.range' attempt.toNat repeats <+: attemptNumbers events ∧
    attemptNumbers events <+: List.range' attempt.toNat (repeats + 1)
  answered : ∀ response number, result = .ok (response, number) →
    attemptNumbers events = List.range' attempt.toNat repeats ∧
      number.toNat = attempt.toNat + repeats

variable {c : Client} {request : Http.Request} {attempt : UInt32} {events : List Event}
  {outcome : Except Http.Failure Http.Response}

/-- A login that is sent once tells of no number. -/
theorem Sending.attemptNumbers_eq (h : Sending c .login request events outcome) :
    attemptNumbers events = [] := by
  cases h <;> rfl

/-- Sending is a transmission and nothing else. -/
theorem Sending.filter_isTransmission (h : Sending c .login request events outcome) :
    events.filter Event.isTransmission = events := by
  cases h <;> rfl

/-- Nothing is put behind a login that is sent once. -/
theorem Client.intersperse_sentLogins_one (b : β) (e : Event) :
    (c.sentLogins request b 1).intersperse e = c.sentLogins request b 1 := by
  unfold Client.sentLogins
  split <;> rfl

/-- A pause comes between a login that can be written and those behind it. -/
theorem Client.intersperse_sentLogins_succ (h : Http.isSendable request.url = true) (b : β)
    (n : Nat) (e : Event) :
    (c.sentLogins request b (n + 2)).intersperse e =
      c.sentLogins request b 1 ++
        e :: (c.sentLogins request (c.transmit request b).2 (n + 1)).intersperse e := by
  have hone : ∀ b : β, c.sentLogins request b 1 =
      [.sent .login (c.complete request) (c.outcomes request b 0)] := fun _ => if_pos h
  rw [Client.sentLogins_succ c request b, Client.sentLogins_succ c request _ n, hone, hone]
  rfl

/-- A login that fails in a transient way could be written. -/
theorem Sending.isSendable_of_isTransient {failure : Http.Failure}
    (h : Sending c .login request events (.error failure))
    (htransient : failure.isTransient = true) : Http.isSendable request.url = true := by
  cases h with
  | unsendable => cases htransient
  | sent h => exact h

/-- A pause is granted behind a transient failure, as the policy says, unless the attempt was the
last. -/
theorem Client.retryDelay?_eq_some_iff {failure : Http.Failure} {delay : UInt64} :
    c.retryDelay? failure attempt = some delay ↔
      failure.isTransient = true ∧ attempt < c.config.loginRetry.limit ∧
        delay = c.config.loginRetry.delayMilliseconds := by
  unfold Client.retryDelay? LoginRetry.delay?
  by_cases htransient : failure.isTransient = true
  · by_cases hlast : c.config.loginRetry.limit ≤ attempt
    · have := UInt32.not_lt.2 hlast
      simp [htransient, hlast, this]
    · have := UInt32.not_le.1 hlast
      simp [htransient, hlast, this, eq_comm]
  · simp [htransient]

/-- Behind a transient failure a login is given up only with the last attempt. -/
theorem Client.eq_limit_of_retryDelay? {failure : Http.Failure}
    (h : c.retryDelay? failure attempt = none) (htransient : failure.isTransient = true)
    (hle : attempt.toNat ≤ c.config.loginRetry.limit.toNat) :
    attempt.toNat = c.config.loginRetry.limit.toNat := by
  refine Nat.le_antisymm hle (Nat.not_lt.1 fun hlt => ?_)
  rw [Client.retryDelay?_eq_some_iff.2 ⟨htransient, UInt32.lt_iff_toNat_lt.2 hlt, rfl⟩] at h
  cases h

/-- The notice of a login that is given up tells of its last attempt, or of none. -/
theorem Client.attemptNumbers_abandonment (c : Client) (attempt : UInt32)
    (failure : Http.Failure) :
    attemptNumbers [.noted (c.abandonment attempt failure)] <+: [attempt.toNat] := by
  unfold Client.abandonment
  split
  · exact List.prefix_rfl
  · exact List.nil_prefix

section
variable {σ : Type} [SessionStore σ] {b b' : β} {m m' : σ}

/-- An attempt that is answered is the only one. -/
theorem Client.Attempted.of_answered {response : Http.Response}
    (h : Sending c .login request events (.ok response)) (hhappens : Happens b m events b' m')
    (hle : attempt.toNat ≤ c.config.loginRetry.limit.toNat) :
    c.Attempted request b attempt 0 events (.ok (response, attempt)) := by
  obtain ⟨houtcome, -⟩ := h.eq_transmit hhappens
  refine ⟨hle, fun _ hk => absurd hk (Nat.not_lt_zero _), fun htransient => ?_, ?_, houtcome, ?_,
    ?_⟩
  · rw [Client.outcomes, ← houtcome] at htransient
    exact absurd htransient (Http.not_isTransient_ok response)
  · rw [h.filter_isTransmission, Nat.zero_add, Client.intersperse_sentLogins_one]
    exact h.eq_sentLogins hhappens
  · rw [h.attemptNumbers_eq]
    exact ⟨List.nil_prefix, List.nil_prefix⟩
  · rintro _ _ ⟨⟩
    exact ⟨h.attemptNumbers_eq, rfl⟩

/-- An attempt behind which the login is given up is the last one. -/
theorem Client.Attempted.of_abandoned {failure : Http.Failure}
    (h : Sending c .login request events (.error failure))
    (last : c.retryDelay? failure attempt = none) (hhappens : Happens b m events b' m')
    (hle : attempt.toNat ≤ c.config.loginRetry.limit.toNat) :
    c.Attempted request b attempt 0 (events ++ [.noted (c.abandonment attempt failure)])
      (.error failure) := by
  obtain ⟨houtcome, -⟩ := h.eq_transmit hhappens
  refine ⟨hle, fun _ hk => absurd hk (Nat.not_lt_zero _), fun htransient => ?_, ?_, houtcome, ?_,
    ?_⟩
  · rw [Client.outcomes, ← houtcome, Http.isTransient_error] at htransient
    exact Client.eq_limit_of_retryDelay? last htransient hle
  · rw [List.filter_append, h.filter_isTransmission, Nat.zero_add,
      Client.intersperse_sentLogins_one, h.eq_sentLogins hhappens]
    exact List.append_nil _
  · rw [attemptNumbers_append, h.attemptNumbers_eq, List.nil_append]
    exact ⟨List.nil_prefix, c.attemptNumbers_abandonment attempt failure⟩
  · rintro _ _ ⟨⟩

/-- An attempt behind which another one is granted comes before the others. -/
theorem Client.Attempted.of_repeated {failure : Http.Failure} {delay : UInt64} {repeats : Nat}
    {events' : List Event} {result : Except Http.Failure (Http.Response × UInt32)}
    (h : Sending c .login request events (.error failure))
    (again : c.retryDelay? failure attempt = some delay) (hhappens : Happens b m events b' m')
    (rest : c.Attempted request b' (attempt + 1) repeats events' result) :
    c.Attempted request b attempt (repeats + 1)
      (events ++ .noted (.attemptFailed c.slot attempt failure delay) :: .paused delay :: events')
      result := by
  obtain ⟨htransient, hlt, rfl⟩ := Client.retryDelay?_eq_some_iff.1 again
  obtain ⟨houtcome, rfl⟩ := h.eq_transmit hhappens
  have hnext := Client.toNat_add_one_of_lt hlt
  have hbounded := rest.bounded
  have hnumbers : attemptNumbers (events ++ .noted (.attemptFailed c.slot attempt failure
      c.config.loginRetry.delayMilliseconds) :: .paused c.config.loginRetry.delayMilliseconds ::
        events') = attempt.toNat :: attemptNumbers events' := by
    rw [attemptNumbers_append, h.attemptNumbers_eq]
    rfl
  refine ⟨by omega, fun k hk => ?_, fun hlast => ?_, ?_, rest.outcome_eq, ?_, ?_⟩
  · cases k with
    | zero => exact ⟨failure, houtcome.symm, htransient⟩
    | succ k => exact rest.transient k (Nat.lt_of_succ_lt_succ hk)
  · have := rest.ended hlast
    omega
  · rw [Client.intersperse_sentLogins_succ (h.isSendable_of_isTransient htransient),
      ← rest.transmissions_eq, List.filter_append, h.filter_isTransmission,
      h.eq_sentLogins hhappens]
    rfl
  · rw [hnumbers, List.range'_succ, List.range'_succ, ← hnext]
    exact ⟨(List.prefix_cons_inj _).2 rest.numbered.1, (List.prefix_cons_inj _).2 rest.numbered.2⟩
  · intro response number hresult
    obtain ⟨heq, hnumber⟩ := rest.answered response number hresult
    rw [hnumbers, heq, List.range'_succ, hnext]
    exact ⟨rfl, by omega⟩

/-- However the attempts at a login go, there is a number of times for which it has been sent. -/
theorem Attempting.exists_attempted {result : Except Http.Failure (Http.Response × UInt32)}
    (h : Attempting c request attempt events result) (hhappens : Happens b m events b' m')
    (hle : attempt.toNat ≤ c.config.loginRetry.limit.toNat) :
    ∃ repeats, c.Attempted request b attempt repeats events result := by
  induction h generalizing b m with
  | answered h => exact ⟨0, .of_answered h hhappens hle⟩
  | abandoned h last =>
    obtain ⟨_, _, hsend, -⟩ := hhappens.of_append
    exact ⟨0, .of_abandoned h last hsend hle⟩
  | repeated h again _ ih =>
    obtain ⟨b₁, m₁, hsend, hrest⟩ := hhappens.of_append
    have hlt := Client.lt_limit_of_retryDelay? again
    have hnext := Client.toNat_add_one_of_lt hlt
    cases hrest with
    | cons _ hrest =>
      cases hrest with
      | cons _ hrest =>
        obtain ⟨repeats, hattempted⟩ := ih hrest (by
          have := UInt32.lt_iff_toNat_lt.1 hlt
          omega)
        exact ⟨repeats + 1, .of_repeated h again hsend hattempted⟩

end

end

/-! ## Opening sessions -/

section
variable {β σ : Type} [Http.Backend β]

/-- What comes of the login to a URL when a site sends it again and again, counted from zero. -/
def Site.loginOutcome (s : Site β σ) (url : Url) (k : Nat) :
    Except Http.Failure Http.Response :=
  s.client.outcomes (s.client.loginRequest url) s.backend k

/-- How a site opens a session with a login that it sends `repeats` times behind the first one. -/
structure Site.LoginAttempts (s : Site β σ) (url : Url) (repeats : Nat) (events : List Event)
    (result : Except ClientError Unit) (last : Client) : Prop where
  /-- The login is sent until something else than a transient failure comes of it, or as often as
  the policy allows. -/
  stopped : ∀ k, (∀ j < k, Http.IsTransient (s.loginOutcome url j)) →
    ¬ Http.IsTransient (s.loginOutcome url k) →
    repeats + 1 = min (k + 1) s.client.config.loginRetry.maxAttempts
  /-- If nothing else ever comes of it, it is sent as often as the policy allows. -/
  exhausted : (∀ k, Http.IsTransient (s.loginOutcome url k)) →
    repeats + 1 = s.client.config.loginRetry.maxAttempts
  /-- What goes out is the login and again the login, with one pause in between each time. -/
  transmissions_eq : events.filter Event.isTransmission =
    (s.client.sentLogins (s.client.loginRequest url) s.backend (repeats + 1)).intersperse
      (.paused s.client.config.loginRetry.delayMilliseconds)
  length_calls : Http.isSendable url = true → (calls events).length = repeats + 1
  failed : ∀ failure, s.loginOutcome url repeats = .error failure →
    result = .error (.transport failure) ∧ last = s.client.failed
  answered : ∀ response, s.loginOutcome url repeats = .ok response →
    ∀ failure, result ≠ .error (.transport failure)
  /-- The attempts are numbered one, two and so on, as they are made. -/
  numbered : List.range' 1 repeats <+: attemptNumbers events ∧
    attemptNumbers events <+: List.range' 1 (repeats + 1)
  unwrapped : repeats + 1 < UInt32.size

variable {s : Site β σ} {url : Url} {repeats : Nat} {events : List Event} {last : Client}
  {result : Except Http.Failure (Http.Response × UInt32)}

/-- The calls among events are their transmissions that are no pauses. -/
theorem calls_filter_isTransmission (events : List Event) :
    calls (events.filter Event.isTransmission) = calls events := by
  induction events with
  | nil => rfl
  | cons e events ih => cases e <;> simp [List.filter_cons, Event.isTransmission, ih]

/-- Pauses between events are no calls. -/
theorem calls_intersperse_paused (events : List Event) (milliseconds : UInt64) :
    calls (events.intersperse (.paused milliseconds)) = calls events := by
  induction events with
  | nil => rfl
  | cons e events ih =>
    cases events with
    | nil => rfl
    | cons e' events => simpa using ih

/-- A login that can be written is called as often as it is sent. -/
theorem Client.length_calls_sentLogins {c : Client} {request : Http.Request}
    (h : Http.isSendable request.url = true) (b : β) (n : Nat) :
    (calls (c.sentLogins request b n)).length = n := by
  induction n generalizing b with
  | zero =>
    rw [Client.sentLogins, if_pos h]
    rfl
  | succ n ih =>
    rw [Client.sentLogins_succ, calls_append, List.length_append, ih, Client.sentLogins, if_pos h]
    exact Nat.add_comm 1 n

/-- What follows the attempts at a login tells of the number of the one that was answered, or of
none. -/
theorem Client.Attempted.numbered_append {c : Client} {request : Http.Request} {b : β}
    (h : c.Attempted request b 1 repeats events result) {back : List Event}
    (hback : attemptNumbers back = [] ∨ ∃ response number, result = .ok (response, number) ∧
      attemptNumbers back = [number.toNat]) :
    List.range' 1 repeats <+: attemptNumbers (events ++ back) ∧
      attemptNumbers (events ++ back) <+: List.range' 1 (repeats + 1) := by
  rw [attemptNumbers_append]
  rcases hback with hback | ⟨response, number, hresult, hback⟩
  · rw [hback, List.append_nil]
    exact h.numbered
  · obtain ⟨heq, hnumber⟩ := h.answered response number hresult
    have hnumbers : List.range' 1 repeats ++ [number.toNat] = List.range' 1 (repeats + 1) := by
      rw [List.range'_1_concat, hnumber]
      rfl
    rw [heq, hback]
    exact ⟨List.prefix_append _ _, hnumbers ▸ List.prefix_rfl⟩

/-- Attempts at a login are those of the session that is opened with them. -/
theorem Client.Attempted.loginAttempts
    (h : s.client.Attempted (s.client.loginRequest url) s.backend 1 repeats events result)
    {back : List Event} {opened : Except ClientError Unit}
    (hback : back.filter Event.isTransmission = [])
    (hnumbers : attemptNumbers back = [] ∨ ∃ response number, result = .ok (response, number) ∧
      attemptNumbers back = [number.toNat])
    (hfailed : ∀ failure, result = .error failure →
      opened = .error (.transport failure) ∧ last = s.client.failed)
    (hanswered : ∀ answer, result = .ok answer →
      ∀ failure, opened ≠ .error (.transport failure)) :
    s.LoginAttempts url repeats (events ++ back) opened last := by
  have hbounded := h.bounded
  have hlimit := s.client.config.loginRetry.toNat_limit
  have hsize := s.client.config.loginRetry.limit.toNat_lt
  have hmax : s.client.config.loginRetry.maxAttempts = s.client.config.loginRetry.limit.toNat :=
    hlimit.symm
  have htransmissions : (events ++ back).filter Event.isTransmission =
      (s.client.sentLogins (s.client.loginRequest url) s.backend (repeats + 1)).intersperse
        (.paused s.client.config.loginRetry.delayMilliseconds) := by
    rw [List.filter_append, hback, List.append_nil, h.transmissions_eq]
  have houtcome : result.map Prod.fst = s.loginOutcome url repeats := h.outcome_eq
  simp only [UInt32.reduceToNat] at hbounded
  refine ⟨fun k hbefore hk => ?_, fun hall => ?_, htransmissions, fun hsendable => ?_,
    fun failure hfailure => ?_, fun response hresponse => ?_, h.numbered_append hnumbers, ?_⟩
  · -- the login is repeated behind transient failures only, and not given up behind an early one
    have hle : repeats ≤ k := Nat.not_lt.1 fun hlt => hk (h.transient k hlt)
    rcases Nat.lt_or_eq_of_le hle with hlt | rfl
    · have := h.ended (hbefore repeats hlt)
      simp only [UInt32.reduceToNat] at this
      omega
    · omega
  · have := h.ended (hall repeats)
    simp only [UInt32.reduceToNat] at this
    omega
  · rw [← calls_filter_isTransmission, htransmissions, calls_intersperse_paused]
    exact Client.length_calls_sentLogins hsendable s.backend _
  · rw [hfailure] at houtcome
    cases result with
    | error failure' =>
      cases houtcome
      exact hfailed failure rfl
    | ok answer => cases houtcome
  · rw [hresponse] at houtcome
    cases result with
    | error failure' => cases houtcome
    | ok answer => exact hanswered answer rfl
  · simp only [UInt32.size]
    omega

variable [SessionStore σ]

/-- A session is opened with the attempts that the outcomes of the login allow for. -/
theorem Opening.exists_loginAttempts {opened : Except ClientError Unit}
    (h : Opening s.client events opened last)
    (hurl : s.client.base.endpoint Client.loginPath = .ok url) {b : β} {m : σ}
    (hhappens : Happens s.backend s.store events b m) :
    ∃ repeats, s.LoginAttempts url repeats events opened last := by
  have hone : (1 : UInt32).toNat ≤ s.client.config.loginRetry.limit.toNat := by
    have := s.client.config.loginRetry.toNat_limit
    simp only [UInt32.reduceToNat]
    omega
  cases h with
  | noEndpoint h =>
    rw [hurl] at h
    cases h
  | unreached hurl' h =>
    rw [hurl] at hurl'
    cases hurl'
    obtain ⟨repeats, hattempted⟩ := h.exists_attempted hhappens hone
    refine ⟨repeats, ?_⟩
    rw [← List.append_nil events]
    refine hattempted.loginAttempts rfl (.inl rfl) ?_ ?_
    · rintro _ ⟨⟩
      exact ⟨rfl, rfl⟩
    · rintro _ ⟨⟩
  | rejected hurl' h | cookieless hurl' h | unstored hurl' h =>
    rw [hurl] at hurl'
    cases hurl'
    obtain ⟨_, _, hfront, -⟩ := hhappens.of_append
    obtain ⟨repeats, hattempted⟩ := h.exists_attempted hfront hone
    refine ⟨repeats, hattempted.loginAttempts rfl (.inl rfl) ?_ ?_⟩
    · rintro _ ⟨⟩
    · rintro _ - _ ⟨⟩
  | opened hurl' h =>
    rw [hurl] at hurl'
    cases hurl'
    obtain ⟨_, _, hfront, -⟩ := hhappens.of_append
    obtain ⟨repeats, hattempted⟩ := h.exists_attempted hfront hone
    refine ⟨repeats, hattempted.loginAttempts rfl (.inr ⟨_, _, rfl, rfl⟩) ?_ ?_⟩
    · rintro _ ⟨⟩
    · rintro _ - _ ⟨⟩

/-- A session is opened with as many logins as it takes to come to an outcome that is no transient
failure, and with no more than the policy allows; without a URL for it nothing happens. -/
theorem Operation.openSession_attempts (s : Site β σ) :
    match s.client.base.endpoint Client.loginPath with
    | .error e => (openSession : Operation β σ Unit).run s = (.error (.invalidUrl e), s)
    | .ok url => ∃ repeats events,
      ((openSession : Operation β σ Unit).run s).2.trace = s.trace ++ events ∧
        s.LoginAttempts url repeats events ((openSession : Operation β σ Unit).run s).1
          ((openSession : Operation β σ Unit).run s).2.client := by
  cases hurl : s.client.base.endpoint Client.loginPath with
  | error e =>
    simp only [openSession_eq, run_bind, run_client, run_require, hurl, mapError_error]
  | ok url =>
    obtain ⟨events, opened, s', hrun, hopen, hpass⟩ := openSession_following s
    obtain ⟨repeats, hattempts⟩ := hopen.exists_loginAttempts hurl hpass.happens
    rw [hrun]
    exact ⟨repeats, events, hpass.trace_eq, hattempts⟩

end

end ODataSession
