import ODataSession.Proofs.Client.Sharing

/-!
# Clients that are overtaken

A client keeps a copy of the token of its session, and the store may have come to hold another one
since. A logout closes the session of the copy and drops what is in the store, so that it closes
what it drops exactly if the two are the same (`Scenario.performances_closed`). They come apart in
one way only: whatever a client does leaves the copy and the token as they were, or with one of
them missing, or the same (`Performing.inStep`). So where they differ another client with the same
key has stored its token while the client was holding its copy. That is the invariant of the run;
it is preserved by the client itself because it stays in step, and by others because what a store
holds has been there before or has been deposited (`Happens.holds`).
-/

namespace ODataSession

/-! ## What a store holds -/

section
variable {m m' : MemoryStore} {key : String} {credential : Credential}

/-- What a store holds after an event it has held before, or the event has deposited it. -/
theorem Event.holds_storeAfter {e : Event} (h : (e.storeAfter m).Holds key credential) :
    m.Holds key credential ∨ ∃ d ∈ e.deposit?, d.key = key ∧ d.token = credential.cookie := by
  obtain ⟨entry, hlive, htoken, hfind⟩ := h
  cases e with
  | sent | paused | noted => exact .inl ⟨entry, hlive, htoken, hfind⟩
  | got k | checked k =>
    replace hfind := (m.find?_getAt .origin k key).symm.trans hfind
    split at hfind
    · exact .inl ⟨entry, hlive, htoken, (Option.filter_eq_some_iff.1 hfind).1⟩
    · exact .inl ⟨entry, hlive, htoken, hfind⟩
  | put k token span outcome =>
    replace hfind := (m.find?_putAt .origin k token (.ofSeconds span) key).symm.trans hfind
    split at hfind
    · next hkey =>
      refine .inr ⟨⟨k, token, span, outcome⟩, rfl, hkey.symm, ?_⟩
      exact (congrArg StoredToken.token (Option.some.inj hfind)).trans htoken
    · exact .inl ⟨entry, hlive, htoken, hfind⟩
  | forgot k =>
    replace hfind := (m.find?_erase k key).symm.trans hfind
    split at hfind
    · cases hfind
    · exact .inl ⟨entry, hlive, htoken, hfind⟩

variable {β : Type} [Http.Backend β] {b b' : β} {events : List Event}

/-- What a store holds after events it has held before, or one of them has deposited it. -/
theorem Happens.holds (h : Happens b m events b' m') (hm' : m'.Holds key credential) :
    m.Holds key credential ∨ ∃ d ∈ deposits events, d.key = key ∧ d.token = credential.cookie := by
  induction h with
  | nil => exact .inl hm'
  | @cons _ _ _ _ e events _ _ ih =>
    rw [deposits_cons]
    rcases ih hm' with hm | ⟨d, hd, hdeposit⟩
    · rcases Event.holds_storeAfter hm with hm | ⟨d, hd, hdeposit⟩
      · exact .inl hm
      · exact .inr ⟨d, List.mem_append_left _ (Option.mem_toList.2 hd), hdeposit⟩
    · exact .inr ⟨d, List.mem_append_right _ hd, hdeposit⟩

/-- Where nothing is deposited, a store holds what it has held before. -/
theorem Happens.holds_of_deposits_eq_nil (h : Happens b m events b' m')
    (hdeposits : deposits events = []) (hm' : m'.Holds key credential) :
    m.Holds key credential := by
  rcases h.holds hm' with hm | ⟨d, hd, -⟩
  · exact hm
  · rw [hdeposits] at hd
    cases hd

end

/-! ## Clients in step -/

/-- A client that ends up with another token than its store holds has found it so. -/
def Client.InStep (c : Client) (m : MemoryStore) (c' : Client) (m' : MemoryStore) : Prop :=
  ∀ held stored, c'.credential = some held → m'.Holds c.key.text stored →
    held = stored ∨ (c.credential = some held ∧ m.Holds c.key.text stored)

namespace Client.InStep

variable {c c₁ c' : Client} {m m₁ m' : MemoryStore}

/-- A client without a credential is in step. -/
theorem of_eq_none (h : c'.credential = none) : c.InStep m c' m' := by
  intro held stored hheld _
  rw [h] at hheld
  cases hheld

/-- A client that keeps its credential stays in step with a store that is given nothing. -/
theorem of_holds (hc : c'.credential = c.credential)
    (hm : ∀ credential, m'.Holds c.key.text credential → m.Holds c.key.text credential) :
    c.InStep m c' m' :=
  fun _ stored hheld hstored => .inr ⟨hc.symm.trans hheld, hm stored hstored⟩

/-- A client that keeps its credential stays in step with a store that stays as it is. -/
theorem of_eq (hc : c'.credential = c.credential) (hm : m' = m) : c.InStep m c' m' :=
  .of_holds hc fun _ h => hm ▸ h

/-- A client that is in step at every turn is in step. -/
theorem trans (h : c.InStep m c₁ m₁) (hc : c.Remains c₁) (h' : c₁.InStep m₁ c' m') :
    c.InStep m c' m' := by
  intro held stored hheld hstored
  rw [← hc.key] at hstored
  rcases h' held stored hheld hstored with heq | ⟨hheld₁, hstored₁⟩
  · exact .inl heq
  · rw [hc.key] at hstored₁
    exact h held stored hheld₁ hstored₁

end Client.InStep

section
variable {β : Type} [Http.Backend β] {b b' : β} {m m' : MemoryStore} {c c' : Client}
  {r : PendingRequest} {events : List Event}

/-- Opening a session stores the token that the client takes. -/
theorem Opening.inStep {result : Except ClientError Unit} (h : Opening c events result c')
    (hhappens : Happens b m events b' m') : c.InStep m c' m' := by
  have hstore := hhappens.store_eq
  cases h with
  | noEndpoint => exact .of_eq rfl hstore
  | unreached _ hlogin => exact .of_eq rfl (hstore.trans (hlogin.storeAfterAll_eq m))
  | rejected | cookieless => exact .of_eq_none rfl
  | @unstored _ _ _ _ _ e =>
    exact absurd (List.mem_append_right _ List.mem_cons_self) (hhappens.not_put_error _ _ _ e)
  | @opened _ _ _ _ credential _ hlogin =>
    rintro held stored ⟨⟩ ⟨entry, -, htoken, hfind⟩
    rw [storeAfterAll_append, hlogin.storeAfterAll_eq] at hstore
    have hput := (m.find?_putAt .origin c.key.text credential.cookie
      (.ofSeconds c.config.cacheTtl.toNat) _).trans (if_pos rfl)
    rw [hstore] at hfind
    have hcookie := congrArg StoredToken.token (Option.some.inj (hput.symm.trans hfind))
    exact .inl (congrArg Credential.mk (hcookie.trans htoken))

/-- A login takes the token of the store or opens a session. -/
theorem LoggingIn.inStep {result : Except ClientError Unit} (h : LoggingIn c events result c')
    (hhappens : Happens b m events b' m') : c.InStep m c' m' := by
  cases h with
  | unanswered => exact .of_holds rfl fun _ => hhappens.holds_of_deposits_eq_nil rfl
  | reused =>
    rintro held stored ⟨⟩ hstored
    have hm := hhappens.holds_of_deposits_eq_nil rfl hstored
    have hget := hhappens.isTrue_head.trans (congrArg (Except.ok ·.1) hm.get_eq)
    exact .inl (congrArg Credential.mk (Option.some.inj (Except.ok.inj hget)))
  | opening hopen =>
    cases hhappens with
    | cons now next =>
      cases next with
      | cons _ next =>
        have hfirst : Happens b m [.got c.key.text (.ok none)] _ _ := .cons now .nil
        exact (Client.InStep.of_holds rfl fun _ => hfirst.holds_of_deposits_eq_nil rfl).trans
          (.refl c) (hopen.inStep next)

/-- A client that acquires a session is in step. -/
theorem Acquiring.inStep {result : Except ClientError Unit} (h : Acquiring c events result c')
    (hhappens : Happens b m events b' m') : c.InStep m c' m' := by
  cases h with
  | held => exact .of_eq rfl hhappens.store_eq
  | loggingIn _ hlogin => exact hlogin.inStep hhappens

/-- Finding a credential deposits nothing. -/
theorem FindingCredential.deposits_eq {result : Except StoreError (Option Credential)}
    (h : FindingCredential c events result) : deposits events = [] := by
  cases h <;> rfl

/-- A client that logs out is in step. -/
theorem LoggingOut.inStep {result : Except ClientError Unit} (h : LoggingOut c events result c')
    (hhappens : Happens b m events b' m') : c.InStep m c' m' := by
  cases h with
  | unchecked | nothing => exact .of_holds rfl fun _ => hhappens.holds_of_deposits_eq_nil rfl
  | unfound hfind | noEndpoint hfind =>
    refine .of_holds rfl fun _ => hhappens.holds_of_deposits_eq_nil ?_
    simp [hfind.deposits_eq]
  | unforgotten hfind _ hsend =>
    refine .of_holds rfl fun _ => hhappens.holds_of_deposits_eq_nil ?_
    simp [hfind.deposits_eq, hsend.deposits_eq]
  | closed => exact .of_eq_none rfl

/-- A client that renews its session is in step. -/
theorem Renewing.inStep {result : Except ClientError Http.Response}
    (h : Renewing c r events result c') (hhappens : Happens b m events b' m') :
    c.InStep m c' m' := by
  cases h with
  | unevicted hevict => exact .of_eq_none hevict.credential_eq
  | unopened hevict hopen =>
    obtain ⟨_, _, -, hrest⟩ := hhappens.of_append
    exact (Client.InStep.of_eq_none hevict.credential_eq).trans hevict.remains (hopen.inStep hrest)
  | @replayed _ _ events'' result c₁ c' hevict hopen hreplay =>
    obtain ⟨_, _, -, hrest⟩ := hhappens.of_append
    obtain ⟨_, m₂, hopened, hrest⟩ := hrest.of_append
    have hstore : m' = m₂ := by
      rw [hrest.store_eq, storeAfterAll_append, hreplay.storeAfterAll_eq]
      exact c'.storeAfterAll_complaint m₂ result
    rw [hstore]
    exact (Client.InStep.of_eq_none hevict.credential_eq).trans hevict.remains
      (hopen.inStep hopened)

/-- A client that delivers a request is in step. -/
theorem Delivering.inStep {headers : List Http.Header} {result : Except ClientError Http.Response}
    (h : Delivering c r headers events result c') (hhappens : Happens b m events b' m') :
    c.InStep m c' m' := by
  cases h with
  | undelivered hsend | answered hsend =>
    exact .of_eq rfl (hhappens.store_eq.trans (hsend.storeAfterAll_eq m))
  | renewed hsend _ hrenew =>
    obtain ⟨_, m₁, hfront, hrest⟩ := hhappens.of_append
    cases hrest with
    | cons _ hrest =>
      have hstore : m₁ = m := hfront.store_eq.trans (hsend.storeAfterAll_eq m)
      exact hstore ▸ hrenew.inStep hrest

/-- What a client leaves of its own token and of that in the store is what it has found, unless one
of them is missing or the two are the same. -/
theorem Performing.inStep {a : Action} {result : Except ClientError Outcome}
    (h : Performing c a events result c') (hhappens : Happens b m events b' m') :
    c.InStep m c' m' := by
  have hunqueued : c.InStep m c.unqueued m := .of_eq rfl rfl
  cases h with
  | login h => exact h.inStep hhappens
  | logout h => exact h.inStep hhappens
  | misqueued | unencoded => exact .of_eq rfl hhappens.store_eq
  | queued h =>
    obtain ⟨_, rfl⟩ := Client.exists_of_withHeaders h
    exact .of_eq rfl hhappens.store_eq
  | request h =>
    cases h with
    | unacquired hacquire => exact hunqueued.trans (.unqueued c) (hacquire.inStep hhappens)
    | acquired hacquire hdeliver =>
      obtain ⟨_, _, hfront, hrest⟩ := hhappens.of_append
      exact (hunqueued.trans (.unqueued c) (hacquire.inStep hfront)).trans
        ((Client.Remains.unqueued c).trans hacquire.remains) (hdeliver.inStep hrest)
  | sendWith h =>
    cases h with
    | unacquired hacquire | unbuilt hacquire =>
      exact hunqueued.trans (.unqueued c) (hacquire.inStep hhappens)
    | sending hacquire _ hsend =>
      obtain ⟨_, m₁, hfront, hrest⟩ := hhappens.of_append
      have hstore : m' = m₁ := hrest.store_eq.trans (hsend.storeAfterAll_eq m₁)
      exact hstore ▸ hunqueued.trans (.unqueued c) (hacquire.inStep hfront)
  | pool h =>
    cases h with
    | unacquired hacquire => exact hacquire.inStep hhappens
    | dispatched hacquire hall =>
      obtain ⟨_, m₁, hfront, hrest⟩ := hhappens.of_append
      have hstore : m' = m₁ := hrest.store_eq.trans (hall.storeAfterAll_eq m₁)
      exact hstore ▸ hacquire.inStep hfront

end

/-! ## Clients that share a key -/

section
variable {β : Type} [Http.Backend β]

/-- A performance in which a token has been given to the store. -/
def Performance.Deposits (q : Performance β MemoryStore) (credential : Credential) : Prop :=
  ∃ d ∈ deposits q.after.trace, d.key = q.key ∧ d.token = credential.cookie

/-- The client of a name has come to hold a credential, then another client with its key has stored
another one, and since then the client of the name has kept the one that it holds. -/
def Overtaken (past : List (Performance β MemoryStore)) (name key : String)
    (held stored : Credential) : Prop :=
  ∃ front q back, past = front ++ q :: back ∧
    (∃ taken ∈ front, taken.name = name ∧ taken.after.client.credential = some held) ∧
    (q.name ≠ name ∧ q.key = key ∧ q.Deposits stored) ∧
    ∀ q' ∈ back, q'.name = name → q'.client.credential = some held ∧
      q'.after.client.credential = some held

variable {past : List (Performance β MemoryStore)} {name key : String} {held stored : Credential}

/-- A client that is overtaken stays so as long as it keeps its credential. -/
theorem Overtaken.append (h : Overtaken past name key held stored)
    {q : Performance β MemoryStore} (hq : q.name = name → q.client.credential = some held ∧
      q.after.client.credential = some held) :
    Overtaken (past ++ [q]) name key held stored := by
  obtain ⟨front, q', back, rfl, htaken, hother, hback⟩ := h
  refine ⟨front, q', back ++ [q], by rw [List.append_assoc, List.cons_append], htaken, hother, ?_⟩
  exact List.forall_mem_append.2 ⟨hback, List.forall_mem_singleton.2 hq⟩

/-- What the store holds under a key after a performance it has held before, or the performance is
one with this key and has deposited it. -/
theorem Performance.holds_of_after {q : Performance β MemoryStore}
    (h : q.after.store.Holds key stored) :
    q.store.Holds key stored ∨ (q.key = key ∧ q.Deposits stored) := by
  by_cases hkey : q.key = key
  · rcases q.happens.holds h with hm | ⟨d, hd, hdkey, htoken⟩
    · exact .inl hm
    · exact .inr ⟨hkey, d, hd, hdkey.trans hkey.symm, htoken⟩
  · obtain ⟨entry, hlive, htoken, hfind⟩ := h
    exact .inl ⟨entry, hlive, htoken, (q.find?_after_of_ne (Ne.symm hkey)).symm.trans hfind⟩

end

namespace Scenario

section
variable {β : Type} [Http.Backend β]

/-- The invariant of a run: every credential that is held has been left by a performance of its
client, and a client whose credential differs from the token in the store is overtaken. -/
structure Tracked (past : List (Performance β MemoryStore)) (x : Scenario β MemoryStore) :
    Prop where
  fit : x.AllFit
  taken : ∀ name p, x.participant? name = some p → ∀ held ∈ p.client.credential,
    ∃ taken ∈ past, taken.name = name ∧ taken.after.client.credential = some held
  overtaken : ∀ name p, x.participant? name = some p → ∀ held ∈ p.client.credential,
    ∀ stored, x.shared.Holds p.client.key.text stored →
      held = stored ∨ Overtaken past name p.client.key.text held stored

variable {past : List (Performance β MemoryStore)} {x : Scenario β MemoryStore}

/-- The clients of a run use the shared store. -/
theorem Tracked.isShared (h : Tracked past x) : x.IsShared :=
  fun entry hmem => (h.fit.participants entry hmem).1

/-- A client that acts preserves the invariant. -/
theorem Tracked.act (h : Tracked past x) {name : String} {p : Participant MemoryStore}
    (hp : x.participant? name = some p) (a : Action) :
    Tracked (past ++ [x.performance name p a]) (x.act name p a).2 := by
  obtain ⟨client, own⟩ := p
  obtain rfl : own = none := h.isShared.own_eq hp
  let q := x.performance name ⟨client, none⟩ a
  have hkey : q.after.client.key = client.key := q.remains.key
  have hstore : (x.act name ⟨client, none⟩ a).2.shared = q.after.store := by
    rw [act_of_own rfl]
  refine ⟨h.fit.act hp a, fun name' p' hp' held hheld => ?_,
    fun name' p' hp' held hheld stored hstored => ?_⟩
  · rw [participant?_act h.isShared hp] at hp'
    split at hp'
    · next hname =>
      cases hp'
      exact ⟨q, List.mem_append_right _ (List.mem_singleton_self q), hname.symm, hheld⟩
    · obtain ⟨taken, hmem, htaken⟩ := h.taken name' p' hp' held hheld
      exact ⟨taken, List.mem_append_left _ hmem, htaken⟩
  · rw [participant?_act h.isShared hp] at hp'
    rw [hstore] at hstored
    split at hp'
    · -- the client itself stays in step
      next hname =>
      cases hp'
      subst hname
      replace hstored : q.after.store.Holds client.key.text stored := hkey ▸ hstored
      rcases q.performing.inStep q.happens held stored hheld hstored with heq | ⟨hheld', hm⟩
      · exact .inl heq
      · refine (h.overtaken name' _ hp held hheld' stored hm).imp_right fun hovertaken => ?_
        rw [show (x.performance name' ⟨client, none⟩ a).after.client.key = client.key from hkey]
        exact hovertaken.append fun _ => ⟨hheld', hheld⟩
    · next hname =>
      have hother : q.name ≠ name' := fun hq => hname hq.symm
      rcases Performance.holds_of_after hstored with hm | ⟨hqkey, hdeposits⟩
      · refine (h.overtaken name' p' hp' held hheld stored hm).imp_right fun hovertaken => ?_
        exact hovertaken.append fun hq => absurd hq hother
      · exact .inr ⟨past, q, [], rfl, h.taken name' p' hp' held hheld, ⟨hother, hqkey, hdeposits⟩,
          fun _ hmem => nomatch hmem⟩

/-- Taking a client out preserves the invariant. -/
theorem Tracked.dismiss (h : Tracked past x) (name : String) : Tracked past (x.dismiss name) := by
  refine ⟨h.fit.dismiss name, fun name' p hp => ?_, fun name' p hp => ?_⟩ <;>
    rw [participant?_dismiss] at hp <;> split at hp
  · cases hp
  · exact h.taken name' p hp
  · cases hp
  · exact h.overtaken name' p hp

/-- A client that is entered without a credential preserves the invariant. -/
theorem Tracked.enrol (h : Tracked past x) (name : String) {client : Client}
    (hclient : client.credential = none) : Tracked past (x.enrol name ⟨client, none⟩) := by
  have hnone : ∀ held, held ∉ client.credential := by
    intro held hheld
    rw [hclient] at hheld
    cases hheld
  refine ⟨h.fit.enrol name fun held hheld => absurd hheld (hnone held),
    fun name' p hp held hheld => ?_, fun name' p hp held hheld => ?_⟩ <;>
    rw [participant?_enrol_eq] at hp <;> split at hp
  · cases hp
    exact absurd hheld (hnone held)
  · exact h.taken name' p hp held hheld
  · cases hp
    exact absurd hheld (hnone held)
  · exact h.overtaken name' p hp held hheld

end

end Scenario

/-! ## Logouts -/

/-- Whether an action closes a session. -/
def Action.closes : Action → Bool
  | .logout => true
  | .login | .withHeaders _ | .request _ | .sendWith .. | .pool _ => false

/-- Only a logout closes a session. -/
theorem Action.eq_logout_of_closes {a : Action} (h : a.closes = true) : a = .logout := by
  cases a with
  | logout => rfl
  | login | withHeaders | request | sendWith | pool => cases h

/-- A backend that grants two tokens, one after the other, and rejects requests for items under the
first one. -/
def ScriptedBackend.retiring : ScriptedBackend where
  rules := [
    ⟨none, some "/b1s/v1/Login", none, some 1, .response 200 ["B1SESSION=a"] (some [])⟩,
    ⟨none, some "/b1s/v1/Login", none, none, .response 200 ["B1SESSION=b"] (some [])⟩,
    ⟨none, some "/b1s/v1/Items", some "B1SESSION=a", none, .response 401 [] (some [])⟩,
    ⟨none, some "/b1s/v1/Items", none, none, .response 200 [] (some [])⟩]
  refusals := 0
  linked := true

/-- The one cookie of a call is the token of a credential. -/
def Call.HasCookie (call : Call) (credential : Credential) : Prop :=
  call.request.headers.filter (·.name = "cookie") = [.cookie credential.cookie]

/-- Whether a call has a cookie can be seen from its headers. -/
instance (call : Call) (credential : Credential) : Decidable (call.HasCookie credential) :=
  inferInstanceAs (Decidable (_ = _))

/-- A call has no two cookies. -/
theorem Call.HasCookie.iff {call : Call} {credential credential' : Credential}
    (h : call.HasCookie credential) : call.HasCookie credential' ↔ credential = credential' := by
  refine ⟨fun h' => ?_, fun heq => heq ▸ h⟩
  obtain ⟨hheader, -⟩ := List.cons.inj (h.symm.trans h')
  exact congrArg Credential.mk (congrArg Http.Header.value hheader)

section
variable {β σ : Type} [Http.Backend β] [SteadyStore σ] {s : Site β σ} {b : β} {m : σ}
  {c' : Client} {events : List Event}

/-- The cookie of a logout is the token of the session that it closes. -/
theorem LoggingOut.hasCookie {result : Except ClientError Unit}
    (h : LoggingOut s.client events result c') (hhappens : Happens s.backend s.store events b m)
    (hc : s.client.IsFit) (hm : ReliableStore.AllFit s.store) {call : Call}
    (hcall : call ∈ calls events) : ∃ credential ∈ s.closing, call.HasCookie credential := by
  cases h with
  | unchecked | nothing => cases hcall
  | unfound hfind | noEndpoint hfind => simp [hfind.calls_eq] at hcall
  | unforgotten hfind _ hsend | closed hfind _ hsend =>
    rw [List.append_assoc] at hhappens
    obtain rfl := hfind.eq_found rfl hhappens
    obtain ⟨credential, hfound, hclosing⟩ :=
      (s.found_eq hhappens.isTrue_head.symm).resolve_right s.not_misses
    rw [hfound] at hsend
    simp only [calls_cons, calls_append, hfind.calls_eq, Event.call?, Option.toList, calls_nil,
      List.nil_append, List.append_nil] at hcall
    refine ⟨credential, hclosing, ?_⟩
    rw [hsend.eq_of_mem_calls hcall, Call.HasCookie, Client.complete, Client.logoutRequest,
      Client.cookieHeaders_eq (s.isFit_of_closing hc hm hclosing)]
    exact Client.cookies_withMissing credential s.client.standing

end

/-- A logout closes the session of the credential that is held, or else of the token that the store
holds. -/
theorem Site.closing_of_holds {β : Type} {s : Site β MemoryStore} {stored : Credential}
    (h : s.store.Holds s.client.key.text stored) :
    s.closing = some (s.client.credential.getD stored) := by
  obtain ⟨entry, -, htoken, hfind⟩ := h
  have hkept : ReliableStore.kept s.store s.client.key.text = some stored.cookie :=
    (congrArg (Option.map StoredToken.token) hfind).trans (congrArg some htoken)
  rw [Site.closing, hkept]
  cases s.client.credential <;> rfl

/-- A logout sends the token that the store holds exactly if the client holds no other one. -/
theorem Performance.hasCookie_iff {β : Type} [Http.Backend β] {q : Performance β MemoryStore}
    (hlogout : q.action = .logout) (hfit : q.client.IsFit)
    (hkept : ReliableStore.AllFit q.store) {stored : Credential}
    (hstored : q.store.Holds q.key stored) {call : Call} (hcall : call ∈ q.calls) :
    call.HasCookie stored ↔ ∀ held ∈ q.client.credential, held = stored := by
  have hclosing : q.site.closing = some (q.client.credential.getD stored) :=
    Site.closing_of_holds (s := q.site) hstored
  have hperforming := q.performing
  rw [hlogout] at hperforming
  generalize q.result = result at hperforming
  cases hperforming with
  | logout hcourse =>
    obtain ⟨credential, hmem, hcookie⟩ :=
      LoggingOut.hasCookie (s := q.site) hcourse q.happens hfit hkept hcall
    obtain rfl := Option.some.inj (hclosing.symm.trans hmem)
    rw [hcookie.iff]
    cases q.client.credential with
    | none => simp
    | some held => simp

/-- A token that is kept for the time of the sample settings. -/
def StoredToken.sample (token : String) : StoredToken :=
  ⟨token, MemoryStore.expiry .origin (.ofSeconds Config.sample.cacheTtl.toNat)⟩

/-- The time of the sample settings is some time. -/
theorem StoredToken.isLiveAt_sample (token : String) : (sample token).isLiveAt .origin = true :=
  (MemoryStore.isLiveAt_expiry token _).trans (by decide)

namespace Scenario

section
variable {β : Type} [Http.Backend β]

/-- Of clients that share a store in memory, one that logs out where the store has a live token
sends this token, and so closes the session that it drops, exactly if it holds no other one itself.
Where it does, another client with its key has stored the token while it was holding its own. -/
theorem performances_closed {b : β} {m : MemoryStore} (hm : ReliableStore.AllFit m)
    {commands : List Command} {earlier later : List (Performance β MemoryStore)}
    {q : Performance β MemoryStore}
    (h : performances ⟨b, m, []⟩ commands = earlier ++ q :: later) (hlogout : q.action = .logout)
    {stored : Credential} (hstored : q.store.Holds q.key stored) :
    (∀ call ∈ q.calls, call.HasCookie stored ↔ ∀ held ∈ q.client.credential, held = stored) ∧
      ∀ held ∈ q.client.credential, held ≠ stored →
        Overtaken earlier q.name q.key held stored := by
  have hstart : Tracked ([] : List (Performance β MemoryStore)) ⟨b, m, []⟩ :=
    ⟨⟨hm, fun _ hmem => nomatch hmem⟩, (fun _ _ hp => nomatch hp), fun _ _ hp => nomatch hp⟩
  obtain ⟨x, p, htracked, hp, hq⟩ := exists_of_performances
    (fun _ _ _ _ a hp h => h.act hp a) (fun _ _ name h => h.dismiss name)
    (fun _ _ name _ _ _ _ hbuild h => h.enrol name (ClientSetup.builds hbuild).credential_eq)
    hstart h
  obtain ⟨client, own⟩ := p
  obtain rfl : own = none := htracked.isShared.own_eq hp
  have hclient : q.client = client := congrArg Performance.client hq
  have hstore : q.store = x.shared := congrArg Performance.store hq
  refine ⟨fun call hcall => ?_, fun held hheld hne => ?_⟩
  · have hfit : q.client.IsFit := hclient ▸ (htracked.fit.participant hp).2
    have hkept : ReliableStore.AllFit q.store := hstore ▸ htracked.fit.shared
    exact Performance.hasCookie_iff hlogout hfit hkept hstored hcall
  · rw [hclient] at hheld
    rw [hstore] at hstored
    have hkey : q.key = client.key.text := congrArg (·.key.text) hclient
    rw [hkey] at hstored ⊢
    exact (htracked.overtaken q.name _ hp held hheld stored hstored).resolve_left hne

end

/-- A client that is built after another one has logged in on its slot closes the session of the
other one. -/
theorem performances_closed_granting :
    ∃ (p q : Performance ScriptedBackend MemoryStore) (call : Call),
      performances ⟨.granting [] "B1SESSION=a" 200, .empty, []⟩
        [.buildOn "a" 0, .act "a" .login, .buildOn "b" 0, .act "b" .logout] = [p] ++ q :: [] ∧
      q.action = .logout ∧ q.store.Holds q.key ⟨"B1SESSION=a"⟩ ∧ q.client.credential = none ∧
      q.calls = [call] ∧ call.HasCookie ⟨"B1SESSION=a"⟩ := by
  let x : Scenario ScriptedBackend MemoryStore := ⟨.granting [] "B1SESSION=a" 200, .empty, []⟩
  let commands : List Command :=
    [.buildOn "a" 0, .act "a" .login, .buildOn "b" 0, .act "b" .logout]
  have h : (x.performances commands).length = 2 ∧
      ∀ q ∈ (x.performances commands).drop 1, q.action.closes = true ∧
        q.store.find? q.key = some (.sample "B1SESSION=a") ∧ q.client.credential = none ∧
        q.calls.length = 1 := by
    decide +kernel
  obtain ⟨hlength, hall⟩ := h
  obtain ⟨p, q, hl⟩ := List.length_eq_two.1 hlength
  obtain ⟨hcloses, hfind, hnone, hone⟩ := hall q (hl ▸ List.mem_singleton_self q)
  obtain ⟨call, hcalls⟩ := List.length_eq_one_iff.1 hone
  have hlogout := Action.eq_logout_of_closes hcloses
  have hstored : q.store.Holds q.key ⟨"B1SESSION=a"⟩ :=
    ⟨_, StoredToken.isLiveAt_sample "B1SESSION=a", rfl, hfind⟩
  have hempty : ReliableStore.AllFit MemoryStore.empty := fun _ _ h => nomatch h
  have hsplit : x.performances commands = [p] ++ q :: [] := hl
  obtain ⟨hcookie, -⟩ := performances_closed hempty hsplit hlogout hstored
  refine ⟨p, q, call, hl, hlogout, hstored, hnone, hcalls,
    (hcookie call (hcalls ▸ List.mem_singleton_self call)).2 fun held hheld => ?_⟩
  rw [hnone] at hheld
  cases hheld

/-- A client that has renewed the session of its slot loses it when another one logs out: the logout
sends the token of the other one, and drops that of the renewed session. -/
theorem closed_another_session :
    ∃ (p p' q : Performance ScriptedBackend MemoryStore) (call : Call),
      performances ⟨.retiring, .empty, []⟩
        [.buildOn "a" 0, .act "a" .login, .buildOn "b" 0,
          .act "b" (.request (.ok (.get "Items"))), .act "a" .logout] = [p, p', q] ∧
      q.action = .logout ∧ q.store.Holds q.key ⟨"B1SESSION=b"⟩ ∧
      q.after.store.find? q.key = none ∧ q.calls = [call] ∧
      call.HasCookie ⟨"B1SESSION=a"⟩ ∧ ¬ call.HasCookie ⟨"B1SESSION=b"⟩ := by
  let x : Scenario ScriptedBackend MemoryStore := ⟨.retiring, .empty, []⟩
  let commands : List Command := [.buildOn "a" 0, .act "a" .login, .buildOn "b" 0,
    .act "b" (.request (.ok (.get "Items"))), .act "a" .logout]
  have h : (x.performances commands).length = 3 ∧
      ∀ q ∈ (x.performances commands).drop 2, q.action.closes = true ∧
        q.store.find? q.key = some (.sample "B1SESSION=b") ∧
        q.after.store.find? q.key = none ∧ q.calls.length = 1 ∧
        ∀ call ∈ q.calls, call.HasCookie ⟨"B1SESSION=a"⟩ ∧ ¬ call.HasCookie ⟨"B1SESSION=b"⟩ := by
    decide +kernel
  obtain ⟨hlength, hall⟩ := h
  obtain ⟨p, p', q, hl⟩ := List.length_eq_three.1 hlength
  obtain ⟨hcloses, hfind, hgone, hone, hcookies⟩ := hall q (hl ▸ List.mem_singleton_self q)
  obtain ⟨call, hcalls⟩ := List.length_eq_one_iff.1 hone
  obtain ⟨hcookie, hother⟩ := hcookies call (hcalls ▸ List.mem_singleton_self call)
  exact ⟨p, p', q, call, hl, Action.eq_logout_of_closes hcloses,
    ⟨_, StoredToken.isLiveAt_sample "B1SESSION=b", rfl, hfind⟩, hgone, hcalls, hcookie, hother⟩

end Scenario

end ODataSession
