import ODataSession.Proofs.Query.Parameters
import ODataSession.Proofs.Url.Origin

/-!
# Parameters of requests

What becomes of the parameters of a request. They take the place of the query of the endpoint's URL,
written as a query string which the URL leaves as it is and from which they can be read back
(`Site.perform_parameters`). A request without parameters goes to the URL of its endpoint.
-/

namespace ODataSession

/-- A URL with parameters in the place of its query; without any it keeps its query. -/
def Url.withParameters (url : Url) (p : QueryParameters) : Url :=
  if p.isEmpty then url else { url with query := some p.encode.toList }

/-- A URL that carries parameters to where another one leads: its query is the query string of the
parameters, which consists of unreserved characters, escapes and the marks `=` and `&`, and from
which the names and values are read back in their order. -/
structure Url.CarriesParameters (sent url : Url) (p : QueryParameters) : Prop where
  eq_with_query : sent = { url with query := some p.encode.toList }
  isWritten : Percent.IsWritten QueryParameters.isQueryStringChar p.encode.toList
  read?_eq : QueryParameters.read? p.encode.toList =
    some (p.entries.map fun entry => (entry.1, entry.2.render))

/-- A URL with parameters carries them. -/
theorem Url.carriesParameters_withParameters (url : Url) {p : QueryParameters}
    (hp : p.isEmpty = false) : (url.withParameters p).CarriesParameters url p where
  eq_with_query := by rw [withParameters, hp]; rfl
  isWritten := p.isWritten_encode
  read?_eq := QueryParameters.read?_encode hp

/-- The request to an endpoint with a URL goes to this URL with the parameters. -/
theorem Client.prepare_withParameters {c : Client} {r : PendingRequest} {url : Url}
    (hurl : c.base.endpoint r.endpoint = .ok url) (headers : List Http.Header) :
    c.prepare r headers = .ok ⟨r.method, url.withParameters r.query,
      headers ++ cookieHeaders c.credential, r.body⟩ := by
  rw [c.prepare_of_endpoint hurl headers, r.query.withQuery_encode url]
  rfl

section
variable {β σ : Type} [Http.Backend β] [SessionStore σ]

/-- Whatever a request calls for the business of its caller carries the request. -/
theorem Requesting.carries {s : Site β σ} {r : PendingRequest} {events : List Event}
    {result : Except ClientError Http.Response} {c' : Client} {b : β} {m : σ}
    (h : Requesting s.client r events result c') (hhappens : Happens s.backend s.store events b m)
    {call : Call} (hcall : call ∈ calls events) (hbusiness : call.purpose = .business) :
    call.Carries s.client r := by
  obtain ⟨first, business, renewal, replay, hcalls, hrequest⟩ := h.requestCalls hhappens
  have hlogins : ∀ {logins}, s.client.Logins logins → call ∉ logins := by
    intro logins hlogins hmem
    rw [(hlogins.isLogin call hmem).1] at hbusiness
    cases hbusiness
  simp only [hcalls, List.mem_append, Option.mem_toList] at hcall
  rcases hcall with ((hcall | hcall) | hcall) | hcall
  · exact absurd hcall (hlogins hrequest.acquiring.bounded)
  · exact hrequest.carries call (.inl hcall)
  · exact absurd hcall (hlogins hrequest.renewing)
  · exact hrequest.carries call (.inr hcall)

/-- Every request that is prepared or goes out for a request to an endpoint with a URL goes to one
and the same URL, which carries the parameters in place of the query of the endpoint's URL. Without
parameters it is the endpoint's URL, and the request is that without a query. -/
theorem Site.perform_parameters (s : Site β σ) (r : PendingRequest) {url : Url}
    (hurl : s.client.base.endpoint r.endpoint = .ok url) :
    ∃ sent : Url,
      (∀ headers, ∃ request, s.client.prepare r headers = .ok request ∧ request.url = sent) ∧
      (∃ events, (s.perform (.request (.ok r))).2.trace = s.trace ++ events ∧
        ∀ call ∈ calls events, call.purpose = .business → call.request.url = sent) ∧
      (r.query.isEmpty = false → sent.CarriesParameters url r.query) ∧
      (r.query.isEmpty = true → sent = url ∧ ∀ headers,
        s.client.prepare r headers = s.client.prepare { r with query := .empty } headers) := by
  have hprepare := s.client.prepare_withParameters hurl
  refine ⟨url.withParameters r.query, fun headers => ⟨_, hprepare headers, rfl⟩, ?_,
    url.carriesParameters_withParameters, fun hp => ?_⟩
  · obtain ⟨events, hcourse, hpass⟩ := s.perform_following (.request (.ok r))
    refine ⟨events, hpass.trace_eq, fun call hcall hbusiness => ?_⟩
    generalize (s.perform (.request (.ok r))).1 = result at hcourse
    cases hcourse with
    | request h =>
      have hcarries := h.carries hpass.happens hcall hbusiness
      obtain ⟨hsent, -⟩ := Client.prepare_eq_ok (hprepare [])
      exact Except.ok.inj (hcarries.url_eq.symm.trans hsent)
  · have hplain : url.withParameters r.query = url := if_pos hp
    refine ⟨hplain, fun headers => ?_⟩
    rw [hprepare headers, hplain, s.client.prepare_withParameters (r := { r with query := .empty })
      hurl headers]
    rfl

end

/-- A request with parameters that hold all the marks of query strings, to an endpoint that has a
query of its own. -/
def PendingRequest.marked : PendingRequest :=
  .getWith "Items?$top=1" (.ofList [("$filter", .text "Name eq 'ü & b=50%+#?'"), ("", .text ""),
    ("$top", .integer 18446744073709551615)])

/-- The URL of the endpoint of that request. -/
def Url.sampleItems : Url :=
  { sampleBase with
    path := .segments ["b1s".toList, "v1".toList, "Items".toList]
    query := some "$top=1".toList }

/-- A client of the sample server, with an empty store and without connections. -/
def Site.unconnected : Site ScriptedBackend MemoryStore :=
  ⟨.sample, ⟨[], 0, false⟩, .empty, []⟩

/-- Parameters that hold all the marks of query strings are carried, in place of the endpoint's
query. -/
theorem Site.perform_parameters_marked :
    ∃ call ∈ calls (unconnected.perform (.request (.ok .marked))).2.trace,
      call.purpose = .business ∧
      call.request.url.text = "https://sl.example/b1s/v1/Items" ++
        "?%24filter=Name%20eq%20%27%C3%BC%20%26%20b%3D50%25%2B%23%3F%27&=" ++
        "&%24top=18446744073709551615" ∧
      call.request.url.CarriesParameters .sampleItems PendingRequest.marked.query := by
  have hurl : unconnected.client.base.endpoint PendingRequest.marked.endpoint =
      .ok .sampleItems := by
    decide +kernel
  obtain ⟨call, hcall, hbusiness, htext⟩ :
      ∃ call ∈ calls (unconnected.perform (.request (.ok .marked))).2.trace,
        call.purpose = .business ∧
        call.request.url.text = "https://sl.example/b1s/v1/Items" ++
          "?%24filter=Name%20eq%20%27%C3%BC%20%26%20b%3D50%25%2B%23%3F%27&=" ++
          "&%24top=18446744073709551615" := by
    decide +kernel
  obtain ⟨sent, -, ⟨events, htrace, hcalls⟩, hcarries, -⟩ :=
    unconnected.perform_parameters .marked hurl
  have hmem : call ∈ calls events := by
    rwa [htrace] at hcall
  refine ⟨call, hcall, hbusiness, htext, ?_⟩
  rw [hcalls call hmem hbusiness]
  exact hcarries (by decide)

end ODataSession
