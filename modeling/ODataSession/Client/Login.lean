import ODataSession.Client.Operation
import ODataSession.Json.Printer

/-!
# Opening and closing sessions

`login` takes the session that the store has for the client's key, and opens a new one only if
there is none. `openSession` sends the login; as long as the server is not reached it is sent
again, a limited number of times, but an answer of the server is final. `logout` closes the session
at the server and drops it from the store, also if the server cannot be told.
-/

namespace ODataSession

namespace Client

/-- The endpoint that opens a session. -/
def loginPath : String := "Login"

/-- The endpoint that closes a session. -/
def logoutPath : String := "Logout"

/-- The body of the login: the database, the user and the password. -/
def loginBody (c : Config) : String :=
  Json.compact (.object [("CompanyDB", .string c.database), ("UserName", .string c.username),
    ("Password", .string c.password.reveal)])

/-- The request that opens a session. -/
def loginRequest (c : Client) (url : Url) : Http.Request :=
  ⟨.post, url, [.contentType jsonType], loginBody c.config⟩

/-- The pause before the login is sent again after an attempt that failed, if it is. -/
def retryDelay? (c : Client) (failure : Http.Failure) (attempt : UInt32) : Option UInt64 :=
  if failure.isTransient then c.config.loginRetry.delay? attempt else none

/-- A pause is granted only behind an attempt that is not the last. -/
theorem lt_limit_of_retryDelay? {c : Client} {attempt : UInt32} {failure : Http.Failure}
    {delay : UInt64} (h : c.retryDelay? failure attempt = some delay) :
    attempt < c.config.loginRetry.limit := by
  refine UInt32.not_le.1 fun hle => ?_
  rw [retryDelay?, LoginRetry.delay?, if_pos hle, ite_self] at h
  cases h

/-- The number behind that of an attempt which is not the last does not overflow. -/
theorem toNat_add_one_of_lt {attempt limit : UInt32} (h : attempt < limit) :
    (attempt + 1).toNat = attempt.toNat + 1 := by
  have hlt := UInt32.lt_iff_toNat_lt.1 h
  have hsize := limit.toNat_lt
  rw [UInt32.toNat_add]
  exact Nat.mod_eq_of_lt (by simp only [UInt32.reduceToNat]; omega)

/-- Behind a pause there are fewer attempts left than before it. -/
theorem sub_lt_of_retryDelay? {c : Client} {attempt : UInt32} {failure : Http.Failure}
    {delay : UInt64} (h : c.retryDelay? failure attempt = some delay) :
    c.config.loginRetry.limit.toNat - (attempt + 1).toNat <
      c.config.loginRetry.limit.toNat - attempt.toNat := by
  have hlimit := lt_limit_of_retryDelay? h
  have hlt := UInt32.lt_iff_toNat_lt.1 hlimit
  rw [toNat_add_one_of_lt hlimit]
  omega

/-- The header that carries a credential, if the credential is fit for one. -/
def cookieHeaders (credential : Option Credential) : List Http.Header :=
  ((credential.bind (·.headerValue?)).map Http.Header.cookie).toList

/-- The request that closes the session of a credential. -/
def logoutRequest (url : Url) (credential : Option Credential) : Http.Request :=
  ⟨.post, url, cookieHeaders credential, ""⟩

end Client

namespace Operation

section
variable {β σ : Type} [Http.Backend β] [SessionStore σ]

/-- Gives the login up after an attempt that brought no response. -/
def abandonLogin {α : Type} (attempt : UInt32) (failure : Http.Failure) : Operation β σ α := do
  let c ← client
  note (if failure.isTransient then .attemptsExhausted c.slot attempt failure
    else .loginFailed c.slot failure)
  update Client.failed
  throw (.transport failure)

/-- Sends the login of a client as attempt number `attempt`, and again while the server is not
reached and the policy of the client grants a pause. Gives the response and the number of the
attempt that it answers. -/
def sendLogin (c : Client) (request : Http.Request) (attempt : UInt32) :
    Operation β σ (Http.Response × UInt32) := do
  match ← send .login request with
  | .ok response => return (response, attempt)
  | .error failure =>
    match h : c.retryDelay? failure attempt with
    | some delay =>
      note (.attemptFailed c.slot attempt failure delay)
      pause delay
      sendLogin c request (attempt + 1)
    | none => abandonLogin attempt failure
-- A pause is granted below the limit only, so that the next number is one more and does not wrap.
termination_by c.config.loginRetry.limit.toNat - attempt.toNat
decreasing_by exact Client.sub_lt_of_retryDelay? h

/-- Takes the refusal of a login: the client has no session any more. -/
def refuse (response : Http.Response) (refusal : LoginRefusal) : Operation β σ Unit := do
  let c ← client
  update fun c => c.withoutCredential .failed
  throw (.authentication c.slot response.status refusal)

/-- Why a login with a bad status was refused. -/
def refusalOf (response : Http.Response) : LoginRefusal :=
  match response.text with
  | .ok body => .rejected body
  | .error failure => .unreadable failure

/-- Opens a new session: logs in, stores the cookie and takes it as the credential. -/
def openSession : Operation β σ Unit := do
  let c ← client
  let url ← require .invalidUrl (c.base.endpoint Client.loginPath)
  let (response, attempt) ← sendLogin c (c.loginRequest url) 1
  if response.status.isSuccess then
    match Credential.ofSetCookie? response.setCookie with
    | none =>
      note (.cookieMissing c.slot)
      refuse response .noCookie
    | some credential =>
      match ← keep c.key.text credential.cookie c.config.cacheTtl.toNat with
      | .error e =>
        note (.cachingFailed c.slot (.store e))
        update Client.failed
        throw (.store e)
      | .ok () =>
        note (.established c.slot attempt)
        update (·.adopt credential)
  else
    note (.loginRejected c.slot response.status)
    refuse response (refusalOf response)

/-- Takes the stored session, or opens a new one. -/
def login : Operation β σ Unit := do
  let c ← client
  match ← require .store (← lookUp c.key.text) with
  | some token =>
    note (.reused c.slot)
    update (·.adopt ⟨token⟩)
  | none =>
    note (.loggingIn c.slot)
    openSession

/-- Logs in unless a credential is held. -/
def ensureSession : Operation β σ Unit := do
  if (← client).credential.isNone then login

/-- The credential of the session to be closed: the client's own one, else the stored one. -/
def credentialToClose : Operation β σ (Option Credential) := do
  let c ← client
  match c.credential with
  | some credential => return some credential
  | none =>
    let token? ← require .store (← lookUp c.key.text)
    return token?.map Credential.mk

/-- Closes the session, if the store has one. -/
def logout : Operation β σ Unit := do
  let c ← client
  if ← require .store (← check c.key.text) then
    let credential ← credentialToClose
    let url ← require .invalidUrl (c.base.endpoint Client.logoutPath)
    let outcome ← send .logout (Client.logoutRequest url credential)
    require .store (← forget c.key.text)
    update fun c => c.withoutCredential .unauthenticated
    match outcome with
    | .ok response => note (.closed c.slot response.status)
    | .error failure =>
      note (.closingFailed c.slot failure)
      throw (.transport failure)
  else note (.nothingToClose c.slot)

end

end Operation

end ODataSession
