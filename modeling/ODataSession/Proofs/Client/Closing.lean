import ODataSession.Proofs.Client.Attempts
import ODataSession.Proofs.Client.Renewal

/-!
# Logouts

What a logout does, on a server with a scheme of HTTP and a store that does not fail
(`Site.perform_logout`). Its first question to the store decides. If there is a live token, the
request that closes the session is sent once, and whatever comes of it, the entry under the key of
the client is gone and the client has given its credential up. If there is none, nothing is sent
and the client stays as it is. All courses but these two end at an error of the store or at a
missing endpoint, and there is neither.
-/

namespace ODataSession

/-- On a server of HTTP there is an endpoint that closes sessions. -/
theorem Client.IsOnHttp.exists_logoutEndpoint {c : Client} (h : c.IsOnHttp) :
    ∃ url, c.base.endpoint Client.logoutPath = .ok url :=
  Url.exists_endpoint h.base_eq h.scheme_eq (.inr rfl)

section
variable {β σ : Type} [Http.Backend β] [SessionStore σ]

/-- The request that closes the session of a site. -/
def Site.logoutRequest (s : Site β σ) (url : Url) : Http.Request :=
  Client.logoutRequest url s.found

/-- What comes of the request that closes the session of a site. -/
def Site.logoutOutcome (s : Site β σ) (url : Url) : Except Http.Failure Http.Response :=
  (s.client.transmit (s.logoutRequest url) s.backend).1

end

section
variable {β σ : Type} [Http.Backend β] [EntryStore σ]

/-- A logout that closes a session. -/
structure Site.LogsOut (s : Site β σ) (url : Url) (events : List Event)
    (result : Except ClientError Outcome) (s' : Site β σ) : Prop where
  /-- The request goes out once, if it can be written at all. -/
  calls_eq : calls events =
    if Http.isSendable url then
      [⟨.logout, s.client.complete (s.logoutRequest url), s.logoutOutcome url⟩]
    else []
  /-- Any response will do, and it is an error to have none. -/
  result_eq : result = ((s.logoutOutcome url).map fun _ => .done).mapError .transport
  client_eq : s'.client = s.client.withoutCredential .unauthenticated
  entry_eq : ∀ key, EntryStore.entry s'.store key =
    if key = s.client.key.text then none else EntryStore.entry s.store key

/-- A logout that finds no session to close. -/
structure Site.ClosesNothing (s : Site β σ) (events : List Event)
    (result : Except ClientError Outcome) (s' : Site β σ) : Prop where
  calls_eq : calls events = []
  result_eq : result = .ok .done
  client_eq : s'.client = s.client
  entry_eq : ∀ key ≠ s.client.key.text, EntryStore.entry s'.store key = EntryStore.entry s.store key

end

/-- The store says that it has a token if it has a live one. -/
theorem Site.hasLiveToken_iff {β σ : Type} [EntryStore σ] {s : Site β σ} :
    s.HasLiveToken ↔ (SessionStore.has s.store s.client.key.text).1 = .ok true := by
  unfold Site.HasLiveToken
  rw [EntryStore.has_eq]
  cases (SessionStore.get s.store s.client.key.text).1 with
  | error e => simp [Except.map]
  | ok token? => simp [Except.map, Option.isSome_iff_exists]

section
variable {β σ : Type} [Http.Backend β] [EntryStore σ] {s s' : Site β σ} {c : Client} {url : Url}
  {events : List Event} {b b' : β} {m m' : σ}

/-- A store that does not fail answers the question for a credential. -/
theorem FindingCredential.ne_error {found : Except StoreError (Option Credential)}
    (h : FindingCredential c events found) (hhappens : Happens b m events b' m')
    (e : StoreError) : found ≠ .error e := by
  cases h with
  | held => exact fun h => nomatch h
  | stored =>
    obtain ⟨token?, hget, -⟩ := ReliableStore.get_ok m c.key.text
    rw [show _ = Except.ok token? from hhappens.isTrue_head.trans hget]
    exact fun h => nomatch h

/-- Finding a credential asks nothing of the backend. -/
theorem FindingCredential.backend_eq {found : Except StoreError (Option Credential)}
    (h : FindingCredential c events found) (hhappens : Happens b m events b' m') : b' = b := by
  cases h with
  | held =>
    cases hhappens
    rfl
  | stored =>
    cases hhappens with
    | cons _ next =>
      cases next
      rfl

/-- A store has no entry behind an event that drops it. -/
theorem Happens.entry_forgot {key : String}
    {outcome : Except StoreError Unit} {notice : Notice}
    (h : Happens b m (events ++ [.forgot key outcome, .noted notice]) b' m') :
    EntryStore.entry m' key = none := by
  rw [h.store_eq, storeAfterAll_append]
  exact (EntryStore.entry_forget _ key key).trans (if_pos rfl)

/-- A logout closes the session that the store has, and nothing where it has none. -/
theorem LoggingOut.logsOut {result : Except ClientError Unit}
    (h : LoggingOut s.client events result s'.client)
    (hhappens : Happens s.backend s.store events s'.backend s'.store)
    (hurl : s.client.base.endpoint Client.logoutPath = .ok url) :
    (s.HasLiveToken ∧ s.LogsOut url events (result.map fun _ => .done) s') ∨
      (¬ s.HasLiveToken ∧ s.ClosesNothing events (result.map fun _ => .done) s') := by
  have hothers : ∀ key ≠ s.client.key.text,
      EntryStore.entry s'.store key = EntryStore.entry s.store key :=
    fun key hkey => hhappens.entry_of_ne (Performing.logout h).isOnKey hkey
  generalize hc : s'.client = c' at h
  cases h with
  | unchecked =>
    obtain ⟨present, hhas⟩ := ReliableStore.has_ok s.store s.client.key.text
    cases hhappens.isTrue_head.trans hhas
  | nothing =>
    refine .inr ⟨fun hlive => ?_, rfl, rfl, hc, hothers⟩
    cases hhappens.isTrue_head.trans (Site.hasLiveToken_iff.1 hlive)
  | unfound hfind =>
    cases hhappens with
    | cons _ hfound => exact absurd rfl (hfind.ne_error hfound _)
  | noEndpoint _ hmissing =>
    rw [hurl] at hmissing
    cases hmissing
  | @unforgotten _ _ _ _ _ e =>
    refine absurd ?_ (hhappens.not_forgot_error s.client.key.text e)
    simp
  | @closed _ events events' credential outcome hfind hurl' hsend =>
    rw [hurl] at hurl'
    cases hurl'
    have hlive := Site.hasLiveToken_iff.2 hhappens.isTrue_head.symm
    have hgone : EntryStore.entry s'.store s.client.key.text = none := by
      rw [← List.cons_append] at hhappens
      exact hhappens.entry_forgot
    rw [List.append_assoc] at hhappens
    obtain rfl := hfind.eq_found rfl hhappens
    have houtcome : outcome = s.logoutOutcome url := by
      cases hhappens with
      | cons _ hrest =>
        obtain ⟨_, _, hfound, hrest⟩ := hrest.of_append
        obtain ⟨_, _, hsent, -⟩ := hrest.of_append
        rw [hfind.backend_eq hfound] at hsent
        exact (hsend.eq_transmit hsent).1
    refine .inl ⟨hlive, ?_, ?_, hc, fun key => ?_⟩
    · simp only [calls_cons, calls_append, hfind.calls_eq, hsend.calls_eq, houtcome, Event.call?,
        Option.toList, calls_nil, List.nil_append, List.append_nil]
      rfl
    · rw [← houtcome]
      cases outcome <;> rfl
    · split
      · next hkey => rw [hkey, hgone]
      · next hkey => exact hothers key hkey

/-- On a server of HTTP and with a store that does not fail, a logout sends its request once and
leaves neither an entry nor a credential if the store has a live token; if it has none, nothing is
sent and nothing changes. -/
theorem Site.perform_logout (s : Site β σ) (hs : s.client.IsOnHttp) :
    ∃ url events, s.client.base.endpoint Client.logoutPath = .ok url ∧
      (s.perform .logout).2.trace = s.trace ++ events ∧
      (s.HasLiveToken → s.LogsOut url events (s.perform .logout).1 (s.perform .logout).2) ∧
      (¬ s.HasLiveToken →
        s.ClosesNothing events (s.perform .logout).1 (s.perform .logout).2) := by
  obtain ⟨url, hurl⟩ := hs.exists_logoutEndpoint
  obtain ⟨events, hcourse, hpass⟩ := s.perform_following .logout
  refine ⟨url, events, hurl, hpass.trace_eq, ?_⟩
  generalize (s.perform .logout).1 = result at hcourse ⊢
  cases hcourse with
  | logout h =>
    rcases h.logsOut hpass.happens hurl with ⟨hlive, hclosed⟩ | ⟨hdead, hnothing⟩
    · exact ⟨fun _ => hclosed, fun hdead => absurd hlive hdead⟩
    · exact ⟨fun hlive => absurd hlive hdead, fun _ => hnothing⟩

end

/-- The session of a client that has logged in is closed. -/
theorem Site.perform_logout_forgetful :
    ∃ (s s' : Site ScriptedBackend MemoryStore) (url : Url) (events : List Event),
      Config.plainSample.site? .forgetful .empty = some s ∧ s' = (s.perform .login).2 ∧
      s'.client.IsOnHttp ∧ s'.HasLiveToken ∧ (s'.perform .logout).1.isOk = true ∧
      s'.LogsOut url events (s'.perform .logout).1 (s'.perform .logout).2 := by
  have h : (Config.plainSample.site? ScriptedBackend.forgetful MemoryStore.empty).any (fun s =>
      s.client.base.scheme = "http".toList ∧
      ((s.perform .login).2.store.get s.client.key.text).1 = some "B1SESSION=a" ∧
      ((s.perform .login).2.perform .logout).1.isOk = true) = true := by
    decide +kernel
  obtain ⟨s, hsite, hs⟩ := (Option.any_eq_true _ _).1 h
  obtain ⟨hscheme, htoken, hok⟩ := of_decide_eq_true hs
  have hhttp : (s.perform .login).2.client.IsOnHttp :=
    Site.perform_isOnHttp ((Config.builds_of_site? hsite).1.isOnHttp (.inl hscheme)) .login
  have hlive : (s.perform .login).2.HasLiveToken := by
    refine ⟨"B1SESSION=a", ?_⟩
    rw [(s.perform_remains .login).key]
    exact congrArg Except.ok htoken
  obtain ⟨url, events, -, -, hclosed, -⟩ := (s.perform .login).2.perform_logout hhttp
  exact ⟨s, _, url, events, hsite, rfl, hhttp, hlive, hok, hclosed hlive⟩

end ODataSession
