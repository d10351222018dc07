import ODataSession.Client.Action

/-!
# Runs of operations

What an operation makes of a site, primitive by primitive. Whatever touches the backend, the store
or the trace is an event, and `Site.after` is the site that an event leaves; so the equations
`run_*` open a run from the left, and a run that has been opened as far as it goes is a chain of
events and of changes to the client. `Site.Passes` forgets the client: the trace has grown by the
events, each event has the outcome that the backend or the store gave at that moment, and the
backend and the store are as the events have left them.
-/

namespace ODataSession

/-! ## What events do -/

section
variable {β σ : Type} [Http.Backend β] [SessionStore σ]

namespace Event

/-- The backend after an event. -/
def backendAfter (b : β) : Event → β
  | .sent _ request _ => (Http.Backend.answer b request).2
  | _ => b

/-- The store after an event. -/
def storeAfter (m : σ) : Event → σ
  | .got key _ => (SessionStore.get m key).2
  | .checked key _ => (SessionStore.has m key).2
  | .put key token lifetime _ => (SessionStore.put m key token (.ofSeconds lifetime)).2
  | .forgot key _ => (SessionStore.forget m key).2
  | _ => m

/-- The outcome of an event is the one that the backend or the store gives. -/
def IsTrue (b : β) (m : σ) : Event → Prop
  | .sent _ request outcome => outcome = (Http.Backend.answer b request).1
  | .got key outcome => outcome = (SessionStore.get m key).1
  | .checked key outcome => outcome = (SessionStore.has m key).1
  | .put key token lifetime outcome =>
    outcome = (SessionStore.put m key token (.ofSeconds lifetime)).1
  | .forgot key outcome => outcome = (SessionStore.forget m key).1
  | .paused _ | .noted _ => True

section
variable {b : β} {m : σ} {key : String}

/-- A token that the store gives makes its event true. -/
theorem isTrue_got {outcome : Except StoreError (Option String)}
    (h : (SessionStore.get m key).1 = outcome) : (Event.got key outcome).IsTrue b m :=
  h.symm

/-- What the store says of the presence of a token makes its event true. -/
theorem isTrue_checked {outcome : Except StoreError Bool}
    (h : (SessionStore.has m key).1 = outcome) : (Event.checked key outcome).IsTrue b m :=
  h.symm

/-- What the store says to a token makes its event true. -/
theorem isTrue_put {token : String} {lifetime : Nat} {outcome : Except StoreError Unit}
    (h : (SessionStore.put m key token (.ofSeconds lifetime)).1 = outcome) :
    (Event.put key token lifetime outcome).IsTrue b m :=
  h.symm

/-- What the store says to the dropping of a token makes its event true. -/
theorem isTrue_forgot {outcome : Except StoreError Unit}
    (h : (SessionStore.forget m key).1 = outcome) : (Event.forgot key outcome).IsTrue b m :=
  h.symm

end

end Event

/-- The site that an event leaves. -/
def Site.after (s : Site β σ) (e : Event) : Site β σ :=
  { s with
    backend := e.backendAfter s.backend
    store := e.storeAfter s.store
    trace := s.trace ++ [e] }

/-- An event leaves the client as it is. -/
@[simp]
theorem Site.client_after (s : Site β σ) (e : Event) : (s.after e).client = s.client := rfl

/-- Events that happen one after the other, from a backend and a store to others. -/
inductive Happens : β → σ → List Event → β → σ → Prop
  | nil {b : β} {m : σ} : Happens b m [] b m
  | cons {b b' : β} {m m' : σ} {e : Event} {events : List Event} (now : e.IsTrue b m)
      (next : Happens (e.backendAfter b) (e.storeAfter m) events b' m') :
      Happens b m (e :: events) b' m'

/-- Events that happen, and then others, happen in a row. -/
theorem Happens.append {b b₁ b₂ : β} {m m₁ m₂ : σ} {events events' : List Event}
    (h : Happens b m events b₁ m₁) (h' : Happens b₁ m₁ events' b₂ m₂) :
    Happens b m (events ++ events') b₂ m₂ := by
  induction h with
  | nil => exact h'
  | cons now _ ih => exact .cons now (ih h')

/-- The first of some events has its true outcome. -/
theorem Happens.isTrue_head {b b' : β} {m m' : σ} {e : Event} {events : List Event}
    (h : Happens b m (e :: events) b' m') : e.IsTrue b m := by
  cases h with
  | cons now _ => exact now

/-- Events that happen in a row happen one part after the other. -/
theorem Happens.of_append {b b' : β} {m m' : σ} {events events' : List Event}
    (h : Happens b m (events ++ events') b' m') :
    ∃ b₁ m₁, Happens b m events b₁ m₁ ∧ Happens b₁ m₁ events' b' m' := by
  induction events generalizing b m with
  | nil => exact ⟨b, m, .nil, h⟩
  | cons e events ih =>
    cases h with
    | cons now next =>
      obtain ⟨b₁, m₁, hfirst, hrest⟩ := ih next
      exact ⟨b₁, m₁, .cons now hfirst, hrest⟩

/-- An event that happens has the outcome that the backend or the store gives at that moment. -/
theorem Happens.exists_isTrue {b b' : β} {m m' : σ} {events : List Event}
    (h : Happens b m events b' m') {e : Event} (he : e ∈ events) :
    ∃ (b₁ : β) (m₁ : σ), e.IsTrue b₁ m₁ := by
  obtain ⟨front, rest, rfl⟩ := List.append_of_mem he
  obtain ⟨b₁, m₁, -, hrest⟩ := h.of_append
  exact ⟨b₁, m₁, hrest.isTrue_head⟩

/-- What passes from one site to another, whatever becomes of the client. -/
structure Site.Passes (s : Site β σ) (events : List Event) (s' : Site β σ) : Prop where
  trace_eq : s'.trace = s.trace ++ events
  happens : Happens s.backend s.store events s'.backend s'.store

namespace Site.Passes

variable {s s₁ s₂ : Site β σ} {events events' : List Event}

/-- Nothing passes where nothing changes. -/
theorem refl (s : Site β σ) : s.Passes [] s :=
  ⟨(List.append_nil _).symm, .nil⟩

/-- What passes on the way passes as a whole. -/
theorem trans (h : s.Passes events s₁) (h' : s₁.Passes events' s₂) :
    s.Passes (events ++ events') s₂ :=
  ⟨by rw [h'.trace_eq, h.trace_eq, List.append_assoc], h.happens.append h'.happens⟩

/-- Nothing passes while only the client changes. -/
theorem updated (h : s.Passes events s₁) (c : Client) : s.Passes events { s₁ with client := c } :=
  ⟨h.trace_eq, h.happens⟩

/-- An event passes that has its true outcome. -/
theorem after (h : s.Passes events s₁) {e : Event} (he : e.IsTrue s₁.backend s₁.store) :
    s.Passes (events ++ [e]) (s₁.after e) :=
  h.trans ⟨rfl, .cons he .nil⟩

/-- Any notice may pass. -/
theorem noted (h : s.Passes events s₁) (notice : Notice) :
    s.Passes (events ++ [.noted notice]) (s₁.after (.noted notice)) :=
  h.after trivial

/-- An event passes and a notice of it. -/
theorem after_noted (h : s.Passes events s₁) {e : Event} (he : e.IsTrue s₁.backend s₁.store)
    (notice : Notice) :
    s.Passes (events ++ [e, .noted notice]) ((s₁.after e).after (.noted notice)) :=
  List.append_assoc events [e] [.noted notice] ▸ (h.after he).noted notice

/-- Any pause may pass. -/
theorem paused (h : s.Passes events s₁) (milliseconds : UInt64) :
    s.Passes (events ++ [.paused milliseconds]) (s₁.after (.paused milliseconds)) :=
  h.after trivial

end Site.Passes

end

/-- A request with the standing headers of a client. -/
def Client.complete (c : Client) (request : Http.Request) : Http.Request :=
  { request with headers := Http.Headers.withMissing request.headers c.standing }

/-! ## Opening runs -/

/-- A value stays what it is while errors are translated. -/
@[simp]
theorem mapError_ok {ε ε' α : Type} (f : ε → ε') (a : α) :
    (Except.ok a : Except ε α).mapError f = .ok a := rfl

/-- An error is translated. -/
@[simp]
theorem mapError_error {ε ε' α : Type} (f : ε → ε') (e : ε) :
    (Except.error e : Except ε α).mapError f = .error (f e) := rfl

namespace Operation

section
variable {β σ α γ : Type} (s : Site β σ)

/-- A sequence runs its second part where the first part has ended, unless that has failed. -/
theorem run_bind (op : Operation β σ α) (f : α → Operation β σ γ) :
    (op >>= f).run s = match op.run s with
      | (.ok a, s') => (f a).run s'
      | (.error e, s') => (.error e, s') := by
  change ExceptT.bindCont f (op.run s).1 (op.run s).2 = _
  obtain ⟨result, s'⟩ := op.run s
  cases result <;> rfl

/-- A value is transformed where the operation has ended. -/
theorem run_map (f : α → γ) (op : Operation β σ α) :
    (f <$> op).run s = ((op.run s).1.map f, (op.run s).2) := by
  rw [map_eq_pure_bind, run_bind]
  obtain ⟨result, s'⟩ := op.run s
  cases result <;> rfl

/-- A value changes nothing. -/
theorem run_pure (a : α) : (pure a : Operation β σ α).run s = (.ok a, s) := rfl

/-- An error changes nothing. -/
theorem run_throw (e : ClientError) : (throw e : Operation β σ α).run s = (.error e, s) := rfl

/-- A demand changes nothing. -/
theorem run_require {ε : Type} (cause : ε → ClientError) (r : Except ε α) :
    (require cause r : Operation β σ α).run s = (r.mapError cause, s) := by
  cases r <;> rfl

/-- An operation that is observed does not fail. -/
theorem run_observe (op : Operation β σ α) :
    (observe op).run s = (.ok (op.run s).1, (op.run s).2) := rfl

/-- The client is read off the site. -/
theorem run_client : (client : Operation β σ Client).run s = (.ok s.client, s) := rfl

/-- An update changes the client only. -/
theorem run_update (f : Client → Client) :
    (update f : Operation β σ Unit).run s = (.ok (), { s with client := f s.client }) := rfl

end

section
variable {β σ : Type} [Http.Backend β] [SessionStore σ] (s : Site β σ)

/-- A notice is an event. -/
theorem run_note (notice : Notice) :
    (note notice : Operation β σ Unit).run s = (.ok (), s.after (.noted notice)) := rfl

/-- A pause is an event. -/
theorem run_pause (milliseconds : UInt64) :
    (pause milliseconds : Operation β σ Unit).run s = (.ok (), s.after (.paused milliseconds)) :=
  rfl

/-- A question to the store is an event. -/
theorem run_lookUp (key : String) :
    (lookUp key : Operation β σ _).run s =
      (.ok (SessionStore.get s.store key).1, s.after (.got key (SessionStore.get s.store key).1)) :=
  rfl

/-- A question for the presence of a token is an event. -/
theorem run_check (key : String) :
    (check key : Operation β σ _).run s =
      (.ok (SessionStore.has s.store key).1,
        s.after (.checked key (SessionStore.has s.store key).1)) :=
  rfl

/-- Storing is an event. -/
theorem run_keep (key token : String) (lifetime : Nat) :
    (keep key token lifetime : Operation β σ _).run s =
      (.ok (SessionStore.put s.store key token (.ofSeconds lifetime)).1,
        s.after (.put key token lifetime
          (SessionStore.put s.store key token (.ofSeconds lifetime)).1)) :=
  rfl

/-- Dropping a token is an event. -/
theorem run_forget (key : String) :
    (forget key : Operation β σ _).run s =
      (.ok (SessionStore.forget s.store key).1,
        s.after (.forgot key (SessionStore.forget s.store key).1)) :=
  rfl

/-- Sending is an event if the request can be written as an HTTP message. -/
theorem run_send (purpose : Purpose) (request : Http.Request) :
    (send purpose request : Operation β σ _).run s =
      if Http.isSendable request.url then
        (.ok (Http.Backend.answer s.backend (s.client.complete request)).1,
          s.after (.sent purpose (s.client.complete request)
            (Http.Backend.answer s.backend (s.client.complete request)).1))
      else (.ok (.error ⟨.unbuildable, some request.url⟩), s) := by
  unfold send
  change (if Http.isSendable request.url then _ else _ : Operation β σ _).run s = _
  split <;> rfl

end

end Operation

end ODataSession
