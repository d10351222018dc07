import ODataSession.Proofs.Client.Course
import ODataSession.Proofs.Session.Store

/-!
# Events of courses

A property of events that holds of the events of an operation because it holds of the parts they are
put together from. Apart from opening a session, an operation lets pass nothing but notices,
requests that are no logins, and questions to the store under the key of its client; so a property
that has all of these and passes from parts to the whole is one of every course
(`Client.Composes.performing`). The first such property is that a client touches the store under its
own key only (`Performing.isOnKey`), so that it leaves all other entries as they are
(`Happens.entry_of_ne`).
-/

namespace ODataSession

/-- A property that events in a row have if their parts have it, and that is had by what opening a
session lets pass and by every other event of a client. -/
structure Client.Composes (c : Client) (P : List Event → Prop) : Prop where
  nil : P []
  append {events events' : List Event} : P events → P events' → P (events ++ events')
  noted (notice : Notice) : P [.noted notice]
  sent {purpose : Purpose} (request : Http.Request)
    (outcome : Except Http.Failure Http.Response) : purpose ≠ .login →
    P [.sent purpose request outcome]
  got (outcome : Except StoreError (Option String)) : P [.got c.key.text outcome]
  checked (outcome : Except StoreError Bool) : P [.checked c.key.text outcome]
  forgot (outcome : Except StoreError Unit) : P [.forgot c.key.text outcome]
  opening {c₁ c' : Client} {events : List Event} {result : Except ClientError Unit} :
    c.Remains c₁ → Opening c₁ events result c' → P events

namespace Client.Composes

variable {c c' : Client} {P : List Event → Prop} {r : PendingRequest} {events : List Event}

/-- An event and those behind it have the property if both parts have it. -/
theorem cons (hP : c.Composes P) {e : Event} (he : P [e]) (hevents : P events) :
    P (e :: events) :=
  hP.append he hevents

/-- A property of the events of a client is one of its events later on. -/
theorem of_remains (hP : c.Composes P) (h : c.Remains c') : c'.Composes P where
  nil := hP.nil
  append := hP.append
  noted := hP.noted
  sent := hP.sent
  got outcome := h.key ▸ hP.got outcome
  checked outcome := h.key ▸ hP.checked outcome
  forgot outcome := h.key ▸ hP.forgot outcome
  opening h' hopen := hP.opening (h.trans h') hopen

/-- A request that is no login has the property. -/
theorem sending (hP : c.Composes P) {purpose : Purpose} {request : Http.Request}
    {outcome : Except Http.Failure Http.Response} (h : Sending c purpose request events outcome)
    (hpurpose : purpose ≠ .login) : P events := by
  cases h with
  | unsendable => exact hP.nil
  | sent => exact hP.sent _ _ hpurpose

/-- A login has the property. -/
theorem loggingIn (hP : c.Composes P) {result : Except ClientError Unit}
    (h : LoggingIn c events result c') : P events := by
  cases h with
  | unanswered => exact hP.got _
  | reused => exact hP.cons (hP.got _) (hP.noted _)
  | opening hopen =>
    exact hP.cons (hP.got _) (hP.cons (hP.noted _) (hP.opening (.refl c) hopen))

/-- An acquisition has the property. -/
theorem acquiring (hP : c.Composes P) {result : Except ClientError Unit}
    (h : Acquiring c events result c') : P events := by
  cases h with
  | held => exact hP.nil
  | loggingIn _ hlogin => exact hP.loggingIn hlogin

/-- Finding the credential of a session has the property. -/
theorem findingCredential (hP : c.Composes P)
    {result : Except StoreError (Option Credential)} (h : FindingCredential c events result) :
    P events := by
  cases h with
  | held => exact hP.nil
  | stored => exact hP.got _

/-- A logout has the property. -/
theorem loggingOut (hP : c.Composes P) {result : Except ClientError Unit}
    (h : LoggingOut c events result c') : P events := by
  have hsent : ∀ {request events outcome}, Sending c .logout request events outcome → P events :=
    fun hsend => hP.sending hsend (by decide)
  cases h with
  | unchecked => exact hP.checked _
  | nothing => exact hP.cons (hP.checked _) (hP.noted _)
  | unfound hfind | noEndpoint hfind =>
    exact hP.cons (hP.checked _) (hP.findingCredential hfind)
  | unforgotten hfind _ hsend =>
    exact hP.cons (hP.checked _)
      (hP.append (hP.append (hP.findingCredential hfind) (hsent hsend)) (hP.forgot _))
  | closed hfind _ hsend =>
    exact hP.cons (hP.checked _)
      (hP.append (hP.append (hP.findingCredential hfind) (hsent hsend))
        (hP.cons (hP.forgot _) (hP.noted _)))

/-- A request that is sent once has the property. -/
theorem dispatching (hP : c.Composes P) {headers : List Http.Header}
    {result : Except ClientError Http.Response} (h : Dispatching c r headers events result) :
    P events := by
  cases h with
  | noUrl => exact hP.nil
  | sending _ hsend => exact hP.sending hsend (by decide)

/-- Giving a session up has the property. -/
theorem evicting (hP : c.Composes P) {result : Except ClientError Unit}
    (h : Evicting c events result c') : P events := by
  cases h with
  | stuck => exact hP.cons (hP.forgot _) (hP.noted _)
  | evicted => exact hP.forgot _

/-- A complaint has the property. -/
theorem complaint (hP : c.Composes P) (result : Except ClientError Http.Response) :
    P (c'.complaint result) := by
  rcases c'.complaint_eq result with h | ⟨notice, h⟩
  · exact h ▸ hP.nil
  · exact h ▸ hP.noted notice

/-- A renewal has the property. -/
theorem renewing (hP : c.Composes P) {result : Except ClientError Http.Response}
    (h : Renewing c r events result c') : P events := by
  cases h with
  | unevicted hevict => exact hP.evicting hevict
  | unopened hevict hopen =>
    exact hP.append (hP.evicting hevict) (hP.opening hevict.remains hopen)
  | replayed hevict hopen hreplay =>
    have hreplayed := (hP.of_remains (hevict.remains.trans hopen.remains)).dispatching hreplay
    exact hP.append (hP.evicting hevict)
      (hP.append (hP.opening hevict.remains hopen) (hP.append hreplayed (hP.complaint _)))

/-- A request that is delivered has the property. -/
theorem delivering (hP : c.Composes P) {headers : List Http.Header}
    {result : Except ClientError Http.Response} (h : Delivering c r headers events result c') :
    P events := by
  cases h with
  | undelivered hsend | answered hsend => exact hP.dispatching hsend
  | renewed hsend _ hrenew =>
    exact hP.append (hP.dispatching hsend) (hP.cons (hP.noted _) (hP.renewing hrenew))

/-- The entries of a pool have the property. -/
theorem dispatchingAll (hP : c.Composes P)
    {entries : List (PoolKey × Except EncodeError PendingRequest)}
    {results : List (PoolKey × Except ClientError Http.Response)}
    (h : DispatchingAll c entries events results) : P events := by
  induction h with
  | nil => exact hP.nil
  | cons h _ ih =>
    cases h with
    | unencoded => exact hP.append hP.nil ih
    | dispatching h => exact hP.append (hP.dispatching h) ih

/-- Every action has the property. -/
theorem performing (hP : c.Composes P) {a : Action} {result : Except ClientError Outcome}
    (h : Performing c a events result c') : P events := by
  have hunqueued := hP.of_remains (.unqueued c)
  cases h with
  | login h => exact hP.loggingIn h
  | logout h => exact hP.loggingOut h
  | misqueued | queued | unencoded => exact hP.nil
  | request h =>
    cases h with
    | unacquired hacquire => exact hunqueued.acquiring hacquire
    | acquired hacquire hdeliver =>
      exact hP.append (hunqueued.acquiring hacquire)
        ((hunqueued.of_remains hacquire.remains).delivering hdeliver)
  | sendWith h =>
    cases h with
    | unacquired hacquire | unbuilt hacquire => exact hunqueued.acquiring hacquire
    | sending hacquire _ hsend =>
      exact hP.append (hunqueued.acquiring hacquire)
        ((hunqueued.of_remains hacquire.remains).sending hsend (by decide))
  | pool h =>
    cases h with
    | unacquired hacquire => exact hP.acquiring hacquire
    | dispatched hacquire hall =>
      exact hP.append (hP.acquiring hacquire)
        (hP.cons (hP.noted _) ((hP.of_remains hacquire.remains).dispatchingAll hall))

end Client.Composes

/-! ## Keys -/

/-- An event touches nothing in the store but what is under a key. -/
def Event.IsOnKey (key : String) : Event → Prop
  | .got key' _ | .checked key' _ | .put key' _ _ _ | .forgot key' _ => key' = key
  | .sent .. | .paused _ | .noted _ => True

section
variable {c c' : Client} {events : List Event}

/-- Sending touches nothing in the store. -/
theorem Sending.isOnKey {purpose : Purpose} {request : Http.Request}
    {outcome : Except Http.Failure Http.Response} (h : Sending c purpose request events outcome)
    (key : String) : ∀ e ∈ events, e.IsOnKey key := by
  cases h with
  | unsendable => exact fun _ he => nomatch he
  | sent => exact List.forall_mem_singleton.2 trivial

/-- The attempts at a login touch nothing in the store. -/
theorem Attempting.isOnKey {request : Http.Request} {attempt : UInt32}
    {result : Except Http.Failure (Http.Response × UInt32)}
    (h : Attempting c request attempt events result) (key : String) :
    ∀ e ∈ events, e.IsOnKey key := by
  induction h with
  | answered h => exact h.isOnKey key
  | abandoned h =>
    exact List.forall_mem_append.2 ⟨h.isOnKey key, List.forall_mem_singleton.2 trivial⟩
  | repeated h _ _ ih =>
    exact List.forall_mem_append.2 ⟨h.isOnKey key,
      List.forall_mem_cons.2 ⟨trivial, List.forall_mem_cons.2 ⟨trivial, ih⟩⟩⟩

/-- A session is opened on the key of its client. -/
theorem Opening.isOnKey {result : Except ClientError Unit} (h : Opening c events result c') :
    ∀ e ∈ events, e.IsOnKey c.key.text := by
  cases h with
  | noEndpoint => exact fun _ he => nomatch he
  | unreached _ h => exact h.isOnKey _
  | rejected _ h | cookieless _ h =>
    exact List.forall_mem_append.2 ⟨h.isOnKey _, List.forall_mem_singleton.2 trivial⟩
  | unstored _ h | opened _ h =>
    exact List.forall_mem_append.2 ⟨h.isOnKey _,
      List.forall_mem_cons.2 ⟨rfl, List.forall_mem_singleton.2 trivial⟩⟩

/-- A client touches nothing in the store but what is under its key. -/
theorem Client.composes_isOnKey (c : Client) :
    c.Composes fun events => ∀ e ∈ events, e.IsOnKey c.key.text := by
  have hone : ∀ e : Event, e.IsOnKey c.key.text → ∀ e' ∈ [e], e'.IsOnKey c.key.text :=
    fun _ he => List.forall_mem_singleton.2 he
  exact
    { nil := fun _ he => nomatch he
      append := fun h h' => List.forall_mem_append.2 ⟨h, h'⟩
      noted := fun notice => hone _ trivial
      sent := fun _ _ _ => hone _ trivial
      got := fun outcome => hone _ rfl
      checked := fun outcome => hone _ rfl
      forgot := fun outcome => hone _ rfl
      opening := fun hremains hopen => hremains.key ▸ hopen.isOnKey }

/-- Every action touches nothing in the store but what is under the key of its client. -/
theorem Performing.isOnKey {a : Action} {result : Except ClientError Outcome}
    (h : Performing c a events result c') : ∀ e ∈ events, e.IsOnKey c.key.text :=
  c.composes_isOnKey.performing h

end

/-! ## Entries under other keys -/

section
variable {σ : Type} [EntryStore σ] {key key' : String}

/-- An event leaves the entries alone that are not under its key. -/
theorem Event.entry_storeAfter_of_ne {e : Event} (he : e.IsOnKey key) (hne : key' ≠ key) (m : σ) :
    EntryStore.entry (e.storeAfter m) key' = EntryStore.entry m key' := by
  cases e with
  | sent | paused | noted => rfl
  | got k =>
    obtain rfl : k = key := he
    exact EntryStore.entry_get_of_ne m hne
  | checked k =>
    obtain rfl : k = key := he
    exact EntryStore.entry_has_of_ne m hne
  | put k token lifetime =>
    obtain rfl : k = key := he
    exact EntryStore.entry_put_of_ne m token (.ofSeconds lifetime) hne
  | forgot k =>
    obtain rfl : k = key := he
    exact (EntryStore.entry_forget m k key').trans (if_neg hne)

/-- Events under one key leave the entries under all others as they are. -/
theorem Happens.entry_of_ne {β : Type} [Http.Backend β] {b b' : β} {m m' : σ}
    {events : List Event} (h : Happens b m events b' m') (hkey : ∀ e ∈ events, e.IsOnKey key)
    (hne : key' ≠ key) : EntryStore.entry m' key' = EntryStore.entry m key' := by
  induction h with
  | nil => rfl
  | cons _ _ ih =>
    obtain ⟨he, hevents⟩ := List.forall_mem_cons.1 hkey
    exact (ih hevents).trans (Event.entry_storeAfter_of_ne he hne _)

end

end ODataSession
