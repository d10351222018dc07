import Mathlib.Data.List.Forall2
import ODataSession.Client.Description
import ODataSession.Proofs.Client.Adjusting

/-!
# Runs that differ in their secrets

Two runs of one operation, by clients whose settings differ in the password only, and whose
credentials may differ as well. A `Likeness` says which tokens, responses, backends and stores may
stand in one another's place: like backends give like answers to like requests, and requests may
differ in the password of a login and in their cookies. An operation is then run alike
(`Operation.Alike`): at like sites it gives like results, lets like events pass and leaves like
sites. The primitive operations do so, and a sequence does if its parts do; the operations of a
client follow in the order of their definitions (`Operation.perform_alike`).
-/

namespace ODataSession

/-! ## What may differ -/

/-- Settings that are the same but for the password. -/
inductive Config.Alike (c : Config) : Config → Prop
  | mk (password : Secret) : c.Alike { c with password }

/-- The same error, or values in a relation. -/
inductive ResultsAlike {ε α α' : Type} (R : α → α' → Prop) : Except ε α → Except ε α' → Prop
  | error (e : ε) : ResultsAlike R (.error e) (.error e)
  | ok {a : α} {a' : α'} (h : R a a') : ResultsAlike R (.ok a) (.ok a')

/-- The same result is alike. -/
theorem ResultsAlike.same {ε α : Type} (r : Except ε α) : ResultsAlike Eq r r := by
  cases r with
  | error e => exact .error e
  | ok a => exact .ok rfl

/-- Results are alike in a relation if they are in a narrower one. -/
theorem ResultsAlike.imp {ε α α' : Type} {R Q : α → α' → Prop} (hQ : ∀ a a', R a a' → Q a a')
    {r : Except ε α} {r' : Except ε α'} (h : ResultsAlike R r r') : ResultsAlike Q r r' := by
  cases h with
  | error e => exact .error e
  | ok ha => exact .ok (hQ _ _ ha)

/-- The same header, or cookies in a relation. -/
inductive Http.Header.Alike (T : String → String → Prop) : Http.Header → Http.Header → Prop
  | same (h : Http.Header) : Alike T h h
  | cookie {t t' : String} (h : T t t') : Alike T (.cookie t) (.cookie t')

/-- Requests for one purpose: logins that differ in the password, or other requests that differ in
their cookies. -/
inductive RequestsAlike (T : String → String → Prop) : Purpose → Http.Request → Http.Request → Prop
  | login {base url : Url} {headers : List Http.Header} {config config' : Config}
      (hurl : base.endpoint Client.loginPath = .ok url) (h : config.Alike config') :
    RequestsAlike T .login ⟨.post, url, headers, Client.loginBody config⟩
      ⟨.post, url, headers, Client.loginBody config'⟩
  | other {purpose : Purpose} {method : Http.Method} {url : Url}
      {headers headers' : List Http.Header} {body : String} (hpurpose : purpose ≠ .login)
      (h : List.Forall₂ (Http.Header.Alike T) headers headers') :
    RequestsAlike T purpose ⟨method, url, headers, body⟩ ⟨method, url, headers', body⟩

/-- An adjustment makes like requests of like requests: it does not look at their cookies. -/
def Adjustment.IsBlind (T : String → String → Prop) (adjustment : Adjustment) : Prop :=
  ∀ request request', RequestsAlike T .business request request' →
    ResultsAlike (RequestsAlike T .business) (apply request adjustment)
      (apply request' adjustment)

/-- To add to a request is not to look at it. -/
theorem Adjustment.isBlind_of_adds {T : String → String → Prop} {adjustment : Adjustment}
    (hadds : adjustment.adds = true) : adjustment.IsBlind T := by
  intro request request' h
  cases h with
  | other hpurpose hheaders =>
    cases adjustment with
    | query | body => exact .ok (.other hpurpose hheaders)
    | header name value =>
      simp only [apply]
      cases Http.Header.ofPair name value with
      | error e => exact .error _
      | ok d => exact .ok (.other hpurpose (List.rel_append hheaders (.cons (.same d) .nil)))
    | custom => cases hadds

/-- Whatever the caller does in an action adds to a request, or does not look at its cookies. -/
def Action.IsBlind (T : String → String → Prop) (a : Action) : Prop :=
  ∀ adjustment ∈ a.adjustments, adjustment.adds = true ∨ adjustment.IsBlind T

/-- Like requests are to the same URL. -/
theorem RequestsAlike.url_eq {T : String → String → Prop} {purpose : Purpose}
    {request request' : Http.Request} (h : RequestsAlike T purpose request request') :
    request.url = request'.url := by
  cases h <;> rfl

/-- Like headers have the same name. -/
theorem Http.Header.Alike.name_eq {T : String → String → Prop} {h h' : Http.Header}
    (halike : h.Alike T h') : h.name = h'.name := by
  cases halike <;> rfl

/-- Like headers stay alike with the standing ones that they are missing. -/
theorem Http.Header.Alike.withMissing {T : String → String → Prop}
    {headers headers' : List Http.Header} (h : List.Forall₂ (Http.Header.Alike T) headers headers')
    (standing : List Http.Header) :
    List.Forall₂ (Http.Header.Alike T) (Http.Headers.withMissing headers standing)
      (Http.Headers.withMissing headers' standing) := by
  have htaken : ∀ d : Http.Header, headers.all (fun h => h.name ≠ d.name) =
      headers'.all fun h => h.name ≠ d.name := by
    intro d
    induction h with
    | nil => rfl
    | cons hname _ ih => rw [List.all_cons, List.all_cons, ih, hname.name_eq]
  simp only [Http.Headers.withMissing, htaken]
  exact List.rel_append h (List.forall₂_same.2 fun d _ => .same d)

/-- No credentials, or credentials whose cookies are in a relation. -/
abbrev CredentialsAlike (T : String → String → Prop) :
    Option Credential → Option Credential → Prop :=
  Option.Rel fun credential credential' => T credential.cookie credential'.cookie

/-- Responses in a relation; if they accept a login, they give credentials for one another. -/
structure AnswersAlike (T : String → String → Prop) (R : Http.Response → Http.Response → Prop)
    (purpose : Purpose) (r r' : Http.Response) : Prop where
  response : R r r'
  credential : purpose = .login → r.status.isSuccess = true →
    CredentialsAlike T (Credential.ofSetCookie? r.setCookie) (Credential.ofSetCookie? r'.setCookie)

/-- A response without its cookies. -/
def Http.Response.withoutCookies (r : Http.Response) : Http.Response :=
  { r with setCookie := [] }

/-- Which tokens, responses, backends and stores may stand in one another's place. Tokens are both
fit for a header or both unfit, and responses differ in their cookies only; backends answer like
requests alike, and stores keep tokens without looking at them. -/
structure Likeness (β β' σ σ' : Type) [Http.Backend β] [Http.Backend β'] [SessionStore σ]
    [SessionStore σ'] where
  Tokens : String → String → Prop
  Responses : Http.Response → Http.Response → Prop
  Backends : β → β' → Prop
  Stores : σ → σ' → Prop
  isHeaderValue_eq : ∀ {t t' : String}, Tokens t t' →
    Http.isHeaderValue t.toList = Http.isHeaderValue t'.toList
  withoutCookies_eq : ∀ {r r' : Http.Response}, Responses r r' →
    r.withoutCookies = r'.withoutCookies
  answer : ∀ {b : β} {b' : β'} {purpose : Purpose} {request request' : Http.Request},
    Backends b b' → RequestsAlike Tokens purpose request request' →
    ResultsAlike (AnswersAlike Tokens Responses purpose) (Http.Backend.answer b request).1
        (Http.Backend.answer b' request').1 ∧
      Backends (Http.Backend.answer b request).2 (Http.Backend.answer b' request').2
  get : ∀ {m : σ} {m' : σ'} (key : String), Stores m m' →
    ResultsAlike (Option.Rel Tokens) (SessionStore.get m key).1 (SessionStore.get m' key).1 ∧
      Stores (SessionStore.get m key).2 (SessionStore.get m' key).2
  has : ∀ {m : σ} {m' : σ'} (key : String), Stores m m' →
    (SessionStore.has m key).1 = (SessionStore.has m' key).1 ∧
      Stores (SessionStore.has m key).2 (SessionStore.has m' key).2
  put : ∀ {m : σ} {m' : σ'} (key : String) {t t' : String} (lifetime : Duration), Stores m m' →
    Tokens t t' →
    (SessionStore.put m key t lifetime).1 = (SessionStore.put m' key t' lifetime).1 ∧
      Stores (SessionStore.put m key t lifetime).2 (SessionStore.put m' key t' lifetime).2
  forget : ∀ {m : σ} {m' : σ'} (key : String), Stores m m' →
    (SessionStore.forget m key).1 = (SessionStore.forget m' key).1 ∧
      Stores (SessionStore.forget m key).2 (SessionStore.forget m' key).2

namespace Likeness

section
variable {β β' σ σ' : Type} [Http.Backend β] [Http.Backend β'] [SessionStore σ] [SessionStore σ']
  (L : Likeness β β' σ σ')

/-- Clients that are the same but for the password and the credential. -/
inductive Clients : Client → Client → Prop
  | mk {config config' : Config} {standing queued : List Http.Header} {base : Url} {slot : UInt64}
      {key : SessionKey} {credential credential' : Option Credential} {state : SessionState}
      (hconfig : config.Alike config')
      (hcredential : CredentialsAlike L.Tokens credential credential') :
    Clients ⟨config, standing, base, slot, key, credential, queued, state⟩
      ⟨config', standing, base, slot, key, credential', queued, state⟩

/-- The same thing that happens in two runs. -/
inductive Events : Event → Event → Prop
  | sent {purpose : Purpose} {request request' : Http.Request}
      {outcome outcome' : Except Http.Failure Http.Response}
      (hrequest : RequestsAlike L.Tokens purpose request request')
      (houtcome : ResultsAlike (AnswersAlike L.Tokens L.Responses purpose) outcome outcome') :
    Events (.sent purpose request outcome) (.sent purpose request' outcome')
  | got (key : String) {outcome outcome' : Except StoreError (Option String)}
      (h : ResultsAlike (Option.Rel L.Tokens) outcome outcome') :
    Events (.got key outcome) (.got key outcome')
  | checked (key : String) (outcome : Except StoreError Bool) :
    Events (.checked key outcome) (.checked key outcome)
  | put (key : String) {token token' : String} (lifetime : Nat) (outcome : Except StoreError Unit)
      (h : L.Tokens token token') :
    Events (.put key token lifetime outcome) (.put key token' lifetime outcome)
  | forgot (key : String) (outcome : Except StoreError Unit) :
    Events (.forgot key outcome) (.forgot key outcome)
  | paused (milliseconds : UInt64) : Events (.paused milliseconds) (.paused milliseconds)
  | noted (notice : Notice) : Events (.noted notice) (.noted notice)

/-- Sites of like clients, with like backends and stores, where like things have happened. -/
structure Sites (s : Site β σ) (s' : Site β' σ') : Prop where
  client : L.Clients s.client s'.client
  backend : L.Backends s.backend s'.backend
  store : L.Stores s.store s'.store
  trace : List.Forall₂ L.Events s.trace s'.trace

variable {L : Likeness β β' σ σ'}

/-- Like clients complete like requests alike. -/
theorem Clients.complete {c c' : Client} (hc : L.Clients c c') {purpose : Purpose}
    {request request' : Http.Request} (h : RequestsAlike L.Tokens purpose request request') :
    RequestsAlike L.Tokens purpose (c.complete request) (c'.complete request') := by
  cases hc
  cases h with
  | login hurl hconfig => exact .login hurl hconfig
  | other hpurpose hheaders => exact .other hpurpose (Http.Header.Alike.withMissing hheaders _)

/-- Like clients fail alike. -/
theorem Clients.failed {c c' : Client} (h : L.Clients c c') : L.Clients c.failed c'.failed := by
  cases h with
  | mk hconfig hcredential => exact .mk hconfig hcredential

/-- Like clients give up their credentials alike. -/
theorem Clients.withoutCredential {c c' : Client} (h : L.Clients c c') (state : SessionState) :
    L.Clients (c.withoutCredential state) (c'.withoutCredential state) := by
  cases h with
  | mk hconfig => exact .mk hconfig .none

/-- Like clients take like credentials alike. -/
theorem Clients.adopt {c c' : Client} (h : L.Clients c c') {credential credential' : Credential}
    (ht : L.Tokens credential.cookie credential'.cookie) :
    L.Clients (c.adopt credential) (c'.adopt credential') := by
  cases h with
  | mk hconfig => exact .mk hconfig (.some ht)

/-- Like clients wait alike for another attempt at a login. -/
theorem Clients.retryDelay?_eq {c c' : Client} (h : L.Clients c c') (failure : Http.Failure)
    (attempt : UInt32) : c.retryDelay? failure attempt = c'.retryDelay? failure attempt := by
  cases h with
  | mk hconfig =>
    cases hconfig
    rfl

/-- Like clients are on the same slot. -/
theorem Clients.slot_eq {c c' : Client} (h : L.Clients c c') : c.slot = c'.slot := by
  cases h
  rfl

/-- Like clients send like logins. -/
theorem Clients.loginRequest {c c' : Client} (h : L.Clients c c') :
    ResultsAlike
      (fun url url' => RequestsAlike L.Tokens .login (c.loginRequest url) (c'.loginRequest url'))
      (c.base.endpoint Client.loginPath) (c'.base.endpoint Client.loginPath) := by
  cases h with
  | @mk _ _ _ _ base _ _ _ _ _ hconfig =>
    cases hurl : base.endpoint Client.loginPath with
    | error e => exact .error e
    | ok url => exact .ok (.login hurl hconfig)

variable (L) in
/-- Like credentials stand in like headers. -/
theorem cookieHeaders {credential credential' : Option Credential}
    (h : CredentialsAlike L.Tokens credential credential') :
    List.Forall₂ (Http.Header.Alike L.Tokens) (Client.cookieHeaders credential)
      (Client.cookieHeaders credential') := by
  cases h with
  | none => exact .nil
  | some ht =>
    simp only [Client.cookieHeaders, Option.bind_some, Credential.headerValue?,
      L.isHeaderValue_eq ht]
    split
    · exact .cons (.cookie ht) .nil
    · exact .nil

variable (L) in
/-- Sessions of like credentials are closed by like requests. -/
theorem logoutRequest (url : Url) {credential credential' : Option Credential}
    (h : CredentialsAlike L.Tokens credential credential') :
    RequestsAlike L.Tokens .logout (Client.logoutRequest url credential)
      (Client.logoutRequest url credential') :=
  .other (by simp) (L.cookieHeaders h)

/-- Like clients ask the same URL. -/
theorem Clients.requestUrl_eq {c c' : Client} (h : L.Clients c c') (endpoint : String)
    (query : QueryParameters) : c.requestUrl endpoint query = c'.requestUrl endpoint query := by
  cases h
  rfl

/-- Like clients have like credentials. -/
theorem Clients.credential {c c' : Client} (h : L.Clients c c') :
    CredentialsAlike L.Tokens c.credential c'.credential := by
  cases h with
  | mk _ hcredential => exact hcredential

/-- Like clients prepare like requests. -/
theorem Clients.prepare {c c' : Client} (h : L.Clients c c') (r : PendingRequest)
    (headers : List Http.Header) :
    ResultsAlike (RequestsAlike L.Tokens .business) (c.prepare r headers)
      (c'.prepare r headers) := by
  have hgiven : List.Forall₂ (Http.Header.Alike L.Tokens) headers headers :=
    List.forall₂_same.2 fun d _ => .same d
  have hheaders := List.rel_append hgiven (L.cookieHeaders h.credential)
  unfold Client.prepare
  rw [h.requestUrl_eq]
  cases c'.requestUrl r.endpoint r.query with
  | error e => exact .error e
  | ok url => exact .ok (.other (by simp) hheaders)

/-- Like requests are adjusted alike. -/
theorem adjust {adjustments : List Adjustment}
    (hblind : ∀ adjustment ∈ adjustments, adjustment.adds = true ∨ adjustment.IsBlind L.Tokens)
    {request request' : Http.Request} (h : RequestsAlike L.Tokens .business request request') :
    ResultsAlike (RequestsAlike L.Tokens .business)
      (adjustments.foldlM Adjustment.apply request)
      (adjustments.foldlM Adjustment.apply request') := by
  induction adjustments generalizing request request' with
  | nil => exact .ok h
  | cons adjustment adjustments ih =>
    have hfirst : adjustment.IsBlind L.Tokens :=
      (hblind adjustment List.mem_cons_self).elim Adjustment.isBlind_of_adds id
    have happly := hfirst request request' h
    rw [List.foldlM_cons, List.foldlM_cons]
    generalize Adjustment.apply request adjustment = result,
      Adjustment.apply request' adjustment = result' at happly
    cases happly with
    | error failure => exact .error failure
    | ok hdraft =>
      exact ih (fun other hother => hblind other (List.mem_cons_of_mem adjustment hother)) hdraft

/-- Like responses have the same status. -/
theorem status_eq {r r' : Http.Response} (h : L.Responses r r') : r.status = r'.status := by
  show r.withoutCookies.status = r'.withoutCookies.status
  rw [L.withoutCookies_eq h]

/-- Like responses refuse a login alike. -/
theorem refusalOf_eq {r r' : Http.Response} (h : L.Responses r r') :
    Operation.refusalOf r = Operation.refusalOf r' := by
  show Operation.refusalOf r.withoutCookies = Operation.refusalOf r'.withoutCookies
  rw [L.withoutCookies_eq h]

/-- What happens alike at like sites leaves like sites. -/
theorem Sites.after {s : Site β σ} {s' : Site β' σ'} (h : L.Sites s s')
    {e e' : Event} (he : L.Events e e')
    (hbackend : L.Backends (e.backendAfter s.backend) (e'.backendAfter s'.backend))
    (hstore : L.Stores (e.storeAfter s.store) (e'.storeAfter s'.store)) :
    L.Sites (s.after e) (s'.after e') where
  client := h.client
  backend := hbackend
  store := hstore
  trace := List.rel_append h.trace (.cons he .nil)

end

end Likeness

namespace Operation

section
variable {β β' σ σ' : Type} [Http.Backend β] [Http.Backend β'] [SessionStore σ] [SessionStore σ']
  {L : Likeness β β' σ σ'} {α α' γ γ' : Type} {R : α → α' → Prop} {Q : γ → γ' → Prop}

/-- Two operations give like results at like sites, and leave like sites. -/
def Alike (L : Likeness β β' σ σ') (R : α → α' → Prop) (op : Operation β σ α)
    (op' : Operation β' σ' α') : Prop :=
  ∀ s s', L.Sites s s' →
    ResultsAlike R (op.run s).1 (op'.run s').1 ∧ L.Sites (op.run s).2 (op'.run s').2

/-! ## Primitive operations -/

/-- Like values are alike. -/
theorem Alike.pure {a : α} {a' : α'} (h : R a a') :
    Alike L R (Pure.pure a : Operation β σ α) (Pure.pure a' : Operation β' σ' α') := by
  intro s s' hs
  exact ⟨.ok h, hs⟩

/-- An error is alike. -/
theorem Alike.throw (R : α → α' → Prop) (e : ClientError) :
    Alike L R (MonadExcept.throw e : Operation β σ α)
      (MonadExcept.throw e : Operation β' σ' α') := by
  intro s s' hs
  exact ⟨.error e, hs⟩

/-- Demands of like values are alike. -/
theorem Alike.require {ε : Type} (cause : ε → ClientError) {r : Except ε α} {r' : Except ε α'}
    (h : ResultsAlike R r r') :
    Alike L R (Operation.require cause r : Operation β σ α)
      (Operation.require cause r' : Operation β' σ' α') := by
  cases h with
  | error e => exact .throw R (cause e)
  | ok h => exact .pure h

/-- The clients of like sites are alike. -/
theorem Alike.client : Alike L L.Clients (Operation.client : Operation β σ Client)
    (Operation.client : Operation β' σ' Client) := by
  intro s s' hs
  exact ⟨.ok hs.client, hs⟩

/-- Updates are alike if they keep clients alike. -/
theorem Alike.update {f f' : Client → Client}
    (h : ∀ c c', L.Clients c c' → L.Clients (f c) (f' c')) :
    Alike L Eq (Operation.update f : Operation β σ Unit)
      (Operation.update f' : Operation β' σ' Unit) := by
  intro s s' hs
  exact ⟨.ok rfl, { hs with client := h _ _ hs.client }⟩

/-- A notice is alike. -/
theorem Alike.note (notice : Notice) : Alike L Eq (Operation.note notice : Operation β σ Unit)
    (Operation.note notice : Operation β' σ' Unit) := by
  intro s s' hs
  exact ⟨.ok rfl, hs.after (.noted notice) hs.backend hs.store⟩

/-- A pause is alike. -/
theorem Alike.pause (milliseconds : UInt64) :
    Alike L Eq (Operation.pause milliseconds : Operation β σ Unit)
      (Operation.pause milliseconds : Operation β' σ' Unit) := by
  intro s s' hs
  exact ⟨.ok rfl, hs.after (.paused milliseconds) hs.backend hs.store⟩

/-- Questions to like stores are alike. -/
theorem Alike.lookUp (key : String) :
    Alike L (ResultsAlike (Option.Rel L.Tokens)) (Operation.lookUp key : Operation β σ _)
      (Operation.lookUp key : Operation β' σ' _) := by
  intro s s' hs
  obtain ⟨houtcome, hstore⟩ := L.get key hs.store
  rw [run_lookUp, run_lookUp]
  exact ⟨.ok houtcome, hs.after (.got key houtcome) hs.backend hstore⟩

/-- Questions to like stores for the presence of a token are alike. -/
theorem Alike.check (key : String) :
    Alike L Eq (Operation.check key : Operation β σ _)
      (Operation.check key : Operation β' σ' _) := by
  intro s s' hs
  obtain ⟨houtcome, hstore⟩ := L.has key hs.store
  rw [run_check, run_check, houtcome]
  exact ⟨.ok rfl, hs.after (.checked key _) hs.backend hstore⟩

/-- Like stores keep like tokens alike. -/
theorem Alike.keep (key : String) {token token' : String} (lifetime : Nat)
    (h : L.Tokens token token') :
    Alike L Eq (Operation.keep key token lifetime : Operation β σ _)
      (Operation.keep key token' lifetime : Operation β' σ' _) := by
  intro s s' hs
  obtain ⟨houtcome, hstore⟩ := L.put key (.ofSeconds lifetime) hs.store h
  rw [run_keep, run_keep, houtcome]
  exact ⟨.ok rfl, hs.after (.put key lifetime _ h) hs.backend hstore⟩

/-- Like stores drop a token alike. -/
theorem Alike.forget (key : String) :
    Alike L Eq (Operation.forget key : Operation β σ _)
      (Operation.forget key : Operation β' σ' _) := by
  intro s s' hs
  obtain ⟨houtcome, hstore⟩ := L.forget key hs.store
  rw [run_forget, run_forget, houtcome]
  exact ⟨.ok rfl, hs.after (.forgot key _) hs.backend hstore⟩

/-- Like requests are sent alike. -/
theorem Alike.send {purpose : Purpose} {request request' : Http.Request}
    (h : RequestsAlike L.Tokens purpose request request') :
    Alike L (ResultsAlike (AnswersAlike L.Tokens L.Responses purpose))
      (Operation.send purpose request : Operation β σ _)
      (Operation.send purpose request' : Operation β' σ' _) := by
  intro s s' hs
  have hcomplete := hs.client.complete h
  rw [run_send, run_send, h.url_eq]
  cases Http.isSendable request'.url with
  | false => exact ⟨.ok (.error _), hs⟩
  | true =>
    obtain ⟨houtcome, hbackend⟩ := L.answer hs.backend hcomplete
    exact ⟨.ok houtcome, hs.after (.sent hcomplete houtcome) hbackend hs.store⟩

/-! ## Sequences -/

/-- A sequence is run alike if its parts are. -/
theorem Alike.bind {op : Operation β σ α} {op' : Operation β' σ' α'} {f : α → Operation β σ γ}
    {f' : α' → Operation β' σ' γ'} (h : Alike L R op op')
    (hf : ∀ a a', R a a' → Alike L Q (f a) (f' a')) : Alike L Q (op >>= f) (op' >>= f') := by
  intro s s' hs
  have hrun := h s s' hs
  rw [run_bind, run_bind]
  generalize op.run s = x, op'.run s' = x' at hrun
  obtain ⟨result, s₁⟩ := x
  obtain ⟨result', s₁'⟩ := x'
  obtain ⟨hresult, hs₁⟩ := hrun
  cases hresult with
  | error e => exact ⟨.error e, hs₁⟩
  | ok ha => exact hf _ _ ha s₁ s₁' hs₁

/-- Values are transformed alike. -/
theorem Alike.map {op : Operation β σ α} {op' : Operation β' σ' α'} {f : α → γ} {f' : α' → γ'}
    (h : Alike L R op op') (hf : ∀ a a', R a a' → Q (f a) (f' a')) :
    Alike L Q (f <$> op) (f' <$> op') := by
  rw [map_eq_pure_bind, map_eq_pure_bind]
  exact h.bind fun a a' ha => .pure (hf a a' ha)

/-- Operations that are observed give like results. -/
theorem Alike.observe {op : Operation β σ α} {op' : Operation β' σ' α'} (h : Alike L R op op') :
    Alike L (ResultsAlike R) (Operation.observe op) (Operation.observe op') := by
  intro s s' hs
  obtain ⟨hresult, hs₁⟩ := h s s' hs
  rw [run_observe, run_observe]
  exact ⟨.ok hresult, hs₁⟩

/-- Operations on the members of a list are run alike if each is. -/
theorem Alike.mapM {δ : Type} {op : δ → Operation β σ γ} {op' : δ → Operation β' σ' γ'}
    (h : ∀ d, Alike L Q (op d) (op' d)) (l : List δ) :
    Alike L (List.Forall₂ Q) (l.mapM op) (l.mapM op') := by
  induction l with
  | nil => exact .pure .nil
  | cons d l ih =>
    rw [List.mapM_cons, List.mapM_cons]
    refine (h d).bind fun a a' ha => ?_
    exact ih.bind fun as as' has => .pure (.cons ha has)

/-! ## Sessions -/

/-- A login is given up alike. -/
theorem abandonLogin_alike (R : α → α' → Prop) (attempt : UInt32) (failure : Http.Failure) :
    Alike L R (abandonLogin attempt failure : Operation β σ α)
      (abandonLogin attempt failure : Operation β' σ' α') := by
  refine Alike.client.bind fun c c' hc => ?_
  cases hc
  refine (Alike.note _).bind fun _ _ _ => ?_
  exact (Alike.update fun _ _ hc => hc.failed).bind fun _ _ _ => .throw R _

/-- Answers to logins that are alike and were had by the same attempt. -/
def LoginsAlike (L : Likeness β β' σ σ') (answer answer' : Http.Response × UInt32) : Prop :=
  AnswersAlike L.Tokens L.Responses .login answer.1 answer'.1 ∧ answer.2 = answer'.2

/-- Like logins are sent alike. -/
theorem sendLogin_alike {c c' : Client} (hc : L.Clients c c') {request request' : Http.Request}
    (h : RequestsAlike L.Tokens .login request request') (attempt : UInt32) :
    Alike L (LoginsAlike L) (sendLogin c request attempt : Operation β σ _)
      (sendLogin c' request' attempt : Operation β' σ' _) := by
  have hslot := hc.slot_eq
  -- Only failures lead to another attempt, and those are the same in both runs.
  induction attempt using sendLogin.induct c with
  | case1 attempt ih =>
    unfold sendLogin
    refine (Alike.send h).bind fun outcome outcome' houtcome => ?_
    cases houtcome with
    | ok hanswer => exact .pure ⟨hanswer, rfl⟩
    | error failure =>
      have hretry := hc.retryDelay?_eq failure attempt
      dsimp only
      split
      · next delay hdelay =>
        split
        · next delay' hdelay' =>
          obtain rfl := Option.some.inj ((hdelay.symm.trans hretry).trans hdelay')
          rw [hslot]
          refine (Alike.note _).bind fun _ _ _ => ?_
          exact (Alike.pause delay).bind fun _ _ _ => ih failure delay hdelay
        · next hnone => cases (hdelay.symm.trans hretry).trans hnone
      · next hnone =>
        split
        · next hdelay' => cases (hnone.symm.trans hretry).trans hdelay'
        · exact abandonLogin_alike _ attempt failure

/-- A login is refused alike. -/
theorem refuse_alike {response response' : Http.Response} (h : response.status = response'.status)
    (refusal : LoginRefusal) :
    Alike L Eq (refuse response refusal : Operation β σ Unit)
      (refuse response' refusal : Operation β' σ' Unit) := by
  refine Alike.client.bind fun c c' hc => ?_
  refine (Alike.update fun _ _ hc => hc.withoutCredential .failed).bind fun _ _ _ => ?_
  cases hc
  rw [h]
  exact .throw Eq _

/-- Of like answers to a login the same is made. -/
theorem concludeLogin_alike {c c' : Client} (hc : L.Clients c c')
    {response response' : Http.Response}
    (h : AnswersAlike L.Tokens L.Responses .login response response') (attempt : UInt32) :
    Alike L Eq (concludeLogin c response attempt : Operation β σ Unit)
      (concludeLogin c' response' attempt : Operation β' σ' Unit) := by
  have hstatus := L.status_eq h.response
  have hcredential := h.credential rfl
  unfold concludeLogin
  rw [L.refusalOf_eq h.response]
  rw [hstatus] at hcredential ⊢
  cases hsuccess : response'.status.isSuccess with
  | false =>
    cases hc
    exact (Alike.note _).bind fun _ _ _ => refuse_alike hstatus _
  | true =>
    replace hcredential := hcredential hsuccess
    generalize Credential.ofSetCookie? response.setCookie = credential?,
      Credential.ofSetCookie? response'.setCookie = credential?' at hcredential
    cases hcredential with
    | none =>
      cases hc
      exact (Alike.note _).bind fun _ _ _ => refuse_alike hstatus _
    | some ht =>
      cases hc with
      | mk hconfig =>
        cases hconfig
        refine (Alike.keep _ _ ht).bind fun outcome outcome' houtcome => ?_
        cases houtcome
        cases outcome with
        | error e =>
          refine (Alike.note _).bind fun _ _ _ => ?_
          exact (Alike.update fun _ _ hc => hc.failed).bind fun _ _ _ => .throw Eq _
        | ok =>
          exact (Alike.note _).bind fun _ _ _ => .update fun _ _ hc => hc.adopt ht

/-- A session is opened alike. -/
theorem openSession_alike : Alike L Eq (openSession : Operation β σ Unit)
    (openSession : Operation β' σ' Unit) := by
  rw [openSession_eq, openSession_eq]
  refine Alike.client.bind fun c c' hc => ?_
  refine (Alike.require _ hc.loginRequest).bind fun url url' hrequest => ?_
  refine (sendLogin_alike hc hrequest 1).bind fun answer answer' hanswer => ?_
  rw [hanswer.2]
  exact concludeLogin_alike hc hanswer.1 _

/-- A session is taken from like stores or opened alike. -/
theorem login_alike : Alike L Eq (login : Operation β σ Unit)
    (login : Operation β' σ' Unit) := by
  refine Alike.client.bind fun c c' hc => ?_
  cases hc
  refine (Alike.lookUp _).bind fun outcome outcome' houtcome => ?_
  refine (Alike.require _ houtcome).bind fun token? token?' htoken => ?_
  cases htoken with
  | none => exact (Alike.note _).bind fun _ _ _ => openSession_alike
  | some ht =>
    exact (Alike.note _).bind fun _ _ _ => .update fun _ _ hc => hc.adopt ht

/-- A session is acquired alike. -/
theorem ensureSession_alike : Alike L Eq (ensureSession : Operation β σ Unit)
    (ensureSession : Operation β' σ' Unit) := by
  refine Alike.client.bind fun c c' hc => ?_
  cases hc with
  | mk _ hcredential =>
    cases hcredential with
    | none => exact login_alike
    | some => exact .pure rfl

/-- The credentials of sessions to be closed are alike. -/
theorem credentialToClose_alike : Alike L (CredentialsAlike L.Tokens)
    (credentialToClose : Operation β σ _) (credentialToClose : Operation β' σ' _) := by
  refine Alike.client.bind fun c c' hc => ?_
  cases hc with
  | mk _ hcredential =>
    cases hcredential with
    | none =>
      refine (Alike.lookUp _).bind fun outcome outcome' houtcome => ?_
      refine (Alike.require _ houtcome).bind fun token? token?' htoken => ?_
      cases htoken with
      | none => exact .pure .none
      | some ht => exact .pure (.some ht)
    | some ht => exact .pure (.some ht)

/-- Of like answers to a logout the same is made. -/
theorem concludeLogout_alike {c c' : Client} (hc : L.Clients c c')
    {outcome outcome' : Except Http.Failure Http.Response}
    (h : ResultsAlike (AnswersAlike L.Tokens L.Responses .logout) outcome outcome') :
    Alike L Eq (concludeLogout c outcome : Operation β σ Unit)
      (concludeLogout c' outcome' : Operation β' σ' Unit) := by
  cases hc
  refine (Alike.forget _).bind fun dropped dropped' hdropped => ?_
  cases hdropped
  refine (Alike.require _ (.same dropped)).bind fun _ _ _ => ?_
  refine (Alike.update fun _ _ hc => hc.withoutCredential .unauthenticated).bind fun _ _ _ => ?_
  cases h with
  | error failure => exact (Alike.note _).bind fun _ _ _ => .throw Eq _
  | ok hanswer =>
    simp only [L.status_eq hanswer.response]
    exact .note _

/-- A session is closed alike. -/
theorem logout_alike : Alike L Eq (logout : Operation β σ Unit)
    (logout : Operation β' σ' Unit) := by
  rw [logout_eq, logout_eq]
  refine Alike.client.bind fun c c' hc => ?_
  have hclients := hc
  cases hc
  refine (Alike.check _).bind fun outcome outcome' houtcome => ?_
  cases houtcome
  refine (Alike.require _ (.same outcome)).bind fun present present' hpresent => ?_
  cases hpresent
  cases present with
  | false => exact .note _
  | true =>
    refine credentialToClose_alike.bind fun credential credential' hcredential => ?_
    refine (Alike.require _ (.same _)).bind fun url url' hurl => ?_
    cases hurl
    refine (Alike.send (L.logoutRequest url hcredential)).bind fun outcome outcome' houtcome => ?_
    exact concludeLogout_alike hclients houtcome

/-! ## Requests -/

/-- Like requests that were prepared are sent alike. -/
theorem sendPrepared_alike {request request' : Http.Request}
    (h : RequestsAlike L.Tokens .business request request') :
    Alike L L.Responses
      (do require .transport (← send .business request) : Operation β σ Http.Response)
      (do require .transport (← send .business request') : Operation β' σ' Http.Response) := by
  refine (Alike.send h).bind fun outcome outcome' houtcome => ?_
  exact .require _ (houtcome.imp fun _ _ hanswer => hanswer.response)

/-- A request is sent alike. -/
theorem dispatch_alike (r : PendingRequest) (headers : List Http.Header) :
    Alike L L.Responses (dispatch r headers : Operation β σ _)
      (dispatch r headers : Operation β' σ' _) := by
  refine Alike.client.bind fun c c' hc => ?_
  exact (Alike.require _ (hc.prepare r headers)).bind fun _ _ hrequest =>
    sendPrepared_alike hrequest

/-- A rejected session is given up alike. -/
theorem evictSession_alike : Alike L Eq (evictSession : Operation β σ Unit)
    (evictSession : Operation β' σ' Unit) := by
  refine (Alike.update fun _ _ hc => hc.withoutCredential .retrying).bind fun _ _ _ => ?_
  refine Alike.client.bind fun c c' hc => ?_
  cases hc
  refine (Alike.forget _).bind fun outcome outcome' houtcome => ?_
  cases houtcome
  cases outcome with
  | ok => exact .pure rfl
  | error e =>
    refine (Alike.note _).bind fun _ _ _ => ?_
    exact (Alike.update fun _ _ hc => hc.failed).bind fun _ _ _ => .throw Eq _

/-- Of like answers to a replay the same is made. -/
theorem concludeReplay_alike {response response' : Http.Response}
    (h : L.Responses response response') :
    Alike L L.Responses (concludeReplay response : Operation β σ _)
      (concludeReplay response' : Operation β' σ' _) := by
  unfold concludeReplay
  rw [L.status_eq h]
  cases response'.status.isSessionExpired with
  | false => exact .pure h
  | true =>
    refine Alike.client.bind fun c c' hc => ?_
    cases hc
    exact (Alike.note _).bind fun _ _ _ => .pure h

/-- A session is renewed alike. -/
theorem renewAndReplay_alike (r : PendingRequest) :
    Alike L L.Responses (renewAndReplay r : Operation β σ _)
      (renewAndReplay r : Operation β' σ' _) := by
  rw [renewAndReplay_eq, renewAndReplay_eq]
  refine evictSession_alike.bind fun _ _ _ => ?_
  refine openSession_alike.bind fun _ _ _ => ?_
  exact (dispatch_alike r []).bind fun _ _ hresponse => concludeReplay_alike hresponse

/-- A request is delivered alike. -/
theorem deliver_alike (r : PendingRequest) (headers : List Http.Header) :
    Alike L L.Responses (deliver r headers : Operation β σ _)
      (deliver r headers : Operation β' σ' _) := by
  refine (dispatch_alike r headers).bind fun response response' hresponse => ?_
  rw [L.status_eq hresponse]
  cases response'.status.isSessionExpired with
  | false => exact .pure hresponse
  | true =>
    refine Alike.client.bind fun c c' hc => ?_
    cases hc
    exact (Alike.note _).bind fun _ _ _ => renewAndReplay_alike r

/-- The same headers wait at like clients. -/
theorem takeHeaders_alike : Alike L Eq (takeHeaders : Operation β σ _)
    (takeHeaders : Operation β' σ' _) := by
  refine Alike.client.bind fun c c' hc => ?_
  have hunqueued : ∀ c c', L.Clients c c' → L.Clients c.unqueued c'.unqueued := by
    intro c c' hc
    cases hc with
    | mk hconfig hcredential => exact .mk hconfig hcredential
  cases hc
  exact (Alike.update hunqueued).bind fun _ _ _ => .pure rfl

/-- A request is made alike. -/
theorem sendPending_alike (r : PendingRequest) :
    Alike L L.Responses (sendPending r : Operation β σ _)
      (sendPending r : Operation β' σ' _) := by
  rw [sendPending_eq, sendPending_eq]
  refine takeHeaders_alike.bind fun headers headers' hheaders => ?_
  cases hheaders
  exact ensureSession_alike.bind fun _ _ _ => deliver_alike r headers

/-- An adjusted request is made alike if nothing that the caller does looks at the tokens. -/
theorem sendWith_alike (method : Http.Method) (endpoint : String) {adjustments : List Adjustment}
    (hblind : ∀ adjustment ∈ adjustments, adjustment.adds = true ∨ adjustment.IsBlind L.Tokens) :
    Alike L L.Responses (sendWith method endpoint adjustments : Operation β σ _)
      (sendWith method endpoint adjustments : Operation β' σ' _) := by
  rw [sendWith_eq, sendWith_eq]
  refine takeHeaders_alike.bind fun headers headers' hheaders => ?_
  cases hheaders
  refine ensureSession_alike.bind fun _ _ _ => ?_
  refine Alike.client.bind fun c c' hc => ?_
  refine (Alike.require _ (hc.prepare _ headers)).bind fun draft draft' hdraft => ?_
  exact (Alike.require _ (L.adjust hblind hdraft)).bind fun _ _ hrequest =>
    sendPrepared_alike hrequest

/-! ## Pools -/

/-- Results of a pool under the same key that are alike. -/
def EntriesAlike (L : Likeness β β' σ σ')
    (entry entry' : PoolKey × Except ClientError Http.Response) : Prop :=
  entry.1 = entry'.1 ∧ ResultsAlike L.Responses entry.2 entry'.2

/-- A declared request is sent alike. -/
theorem dispatchDeclared_alike (entry : PoolKey × Except EncodeError PendingRequest) :
    Alike L (EntriesAlike L) (dispatchDeclared entry : Operation β σ _)
      (dispatchDeclared entry : Operation β' σ' _) := by
  have hsend : Alike L L.Responses
      (do dispatch (← require .encoding entry.2) [] : Operation β σ Http.Response)
      (do dispatch (← require .encoding entry.2) [] : Operation β' σ' Http.Response) := by
    refine (Alike.require _ (.same entry.2)).bind fun r r' hr => ?_
    cases hr
    exact dispatch_alike r []
  exact hsend.observe.bind fun _ _ hresult => .pure ⟨rfl, hresult⟩

/-- The results of pools that are alike. -/
def PoolsAlike (L : Likeness β β' σ σ')
    (results results' : PoolResults (Except ClientError Http.Response)) : Prop :=
  List.Forall₂ (EntriesAlike L) results.entries results'.entries

/-- A pool is sent alike. -/
theorem pool_alike (p : Pool) : Alike L (PoolsAlike L) (pool p : Operation β σ _)
    (pool p : Operation β' σ' _) := by
  refine ensureSession_alike.bind fun _ _ _ => ?_
  refine Alike.client.bind fun c c' hc => ?_
  cases hc
  refine (Alike.note _).bind fun _ _ _ => ?_
  exact (Alike.mapM dispatchDeclared_alike p.entries).bind fun _ _ hresults => .pure hresults

/-! ## Actions -/

/-- Outcomes that are alike. -/
inductive OutcomesAlike (L : Likeness β β' σ σ') : Outcome → Outcome → Prop
  | done : OutcomesAlike L .done .done
  | response {r r' : Http.Response} (h : L.Responses r r') :
    OutcomesAlike L (.response r) (.response r')
  | responses {rs rs' : PoolResults (Except ClientError Http.Response)} (h : PoolsAlike L rs rs') :
    OutcomesAlike L (.responses rs) (.responses rs')

/-- Headers are queued alike. -/
theorem withHeaders_alike (pairs : List (String × String)) :
    Alike L Eq (withHeaders pairs : Operation β σ Unit)
      (withHeaders pairs : Operation β' σ' Unit) := by
  refine Alike.client.bind fun c c' hc => ?_
  have hqueued : ResultsAlike L.Clients (c.withHeaders pairs) (c'.withHeaders pairs) := by
    cases hc with
    | mk hconfig hcredential =>
      unfold Client.withHeaders
      generalize (pairs.mapM _ : Except Http.HeaderError (List Http.Header)) = headers?
      cases headers? with
      | error e => exact .error e
      | ok headers => exact .ok (.mk hconfig hcredential)
  exact (Alike.require _ hqueued).bind fun _ _ hc => .update fun _ _ _ => hc

/-- Every action is carried out alike, if nothing that the caller does looks at the tokens. -/
theorem perform_alike {a : Action} (hblind : a.IsBlind L.Tokens) :
    Alike L (OutcomesAlike L) (a.perform : Operation β σ Outcome)
      (a.perform : Operation β' σ' Outcome) := by
  cases a with
  | login => exact login_alike.bind fun _ _ _ => .pure .done
  | logout => exact logout_alike.bind fun _ _ _ => .pure .done
  | withHeaders pairs => exact (withHeaders_alike pairs).bind fun _ _ _ => .pure .done
  | request r =>
    have hrequest : Alike L L.Responses (request r : Operation β σ _)
        (request r : Operation β' σ' _) := by
      refine (Alike.require _ (.same r)).bind fun r r' hr => ?_
      cases hr
      exact sendPending_alike r
    exact hrequest.map fun _ _ hresponse => .response hresponse
  | sendWith method endpoint adjustments =>
    exact (sendWith_alike method endpoint hblind).map fun _ _ h => .response h
  | pool declarations => exact (pool_alike _).map fun _ _ h => .responses h

end

end Operation

end ODataSession
