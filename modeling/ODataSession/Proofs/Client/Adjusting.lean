import ODataSession.Proofs.Client.Calls

/-!
# What callers make of requests

The draft of an adjusted request carries the queued headers and the cookie of the client, but what
is sent is what the caller makes of it, and that may be anything. So a header of the draft is sent
if every adjustment keeps it (`Adjustment.Make.mem`), and a header that is sent was on the draft
unless an adjustment brings it (`Adjustment.Make.mem_headers`). Adjustments that add to a request
keep every header and bring what they add (`Adjustment.keeps`, `Adjustment.brings_iff`).
-/

namespace ODataSession

/-- The adjustments that an action makes. -/
def Action.adjustments : Action → List Adjustment
  | .sendWith _ _ adjustments => adjustments
  | .login | .logout | .withHeaders _ | .request _ | .pool _ => []

namespace Adjustment

/-- An adjustment leaves a header on every request that has it. -/
def Keeps (adjustment : Adjustment) (header : Http.Header) : Prop :=
  ∀ draft request, apply draft adjustment = .ok request →
    header ∈ draft.headers → header ∈ request.headers

/-- An adjustment puts a header on some request that does not have it. -/
def Brings (adjustment : Adjustment) (header : Http.Header) : Prop :=
  ∃ draft request, apply draft adjustment = .ok request ∧
    header ∈ request.headers ∧ header ∉ draft.headers

/-- Adjustments make a request of a draft with some headers. -/
def Make (adjustments : List Adjustment) (headers : List Http.Header) (request : Http.Request) :
    Prop :=
  ∃ draft, draft.headers = headers ∧ adjustments.foldlM apply draft = .ok request

section
variable {adjustments : List Adjustment} {headers : List Http.Header} {header : Http.Header}
  {request : Http.Request}

/-- Of a draft, no adjustments make the draft. -/
theorem make_nil (request : Http.Request) : Make [] request.headers request :=
  ⟨request, rfl, rfl⟩

/-- The first adjustment makes a draft for the others. -/
theorem Make.of_cons {adjustment : Adjustment}
    (h : Make (adjustment :: adjustments) headers request) :
    ∃ draft draft', draft.headers = headers ∧ apply draft adjustment = .ok draft' ∧
      Make adjustments draft'.headers request := by
  obtain ⟨draft, hdraft, hfold⟩ := h
  rw [List.foldlM_cons] at hfold
  cases happly : apply draft adjustment with
  | error failure =>
    rw [happly] at hfold
    cases hfold
  | ok draft' =>
    rw [happly] at hfold
    exact ⟨draft, draft', hdraft, happly, draft', rfl, hfold⟩

/-- A header that every adjustment keeps is on the request that they make. -/
theorem Make.mem (h : Make adjustments headers request) (hmem : header ∈ headers)
    (hkeeps : ∀ adjustment ∈ adjustments, adjustment.Keeps header) : header ∈ request.headers := by
  induction adjustments generalizing headers with
  | nil =>
    obtain ⟨draft, rfl, hfold⟩ := h
    cases hfold
    exact hmem
  | cons adjustment adjustments ih =>
    obtain ⟨draft, draft', rfl, happly, hmake⟩ := h.of_cons
    exact ih hmake (hkeeps adjustment List.mem_cons_self draft draft' happly hmem)
      fun adjustment hadjustment => hkeeps adjustment (List.mem_cons_of_mem _ hadjustment)

/-- A header that no adjustment brings was on the draft. -/
theorem Make.mem_headers (h : Make adjustments headers request) (hmem : header ∈ request.headers)
    (hbrings : ∀ adjustment ∈ adjustments, ¬ adjustment.Brings header) : header ∈ headers := by
  induction adjustments generalizing headers with
  | nil =>
    obtain ⟨draft, rfl, hfold⟩ := h
    cases hfold
    exact hmem
  | cons adjustment adjustments ih =>
    obtain ⟨draft, draft', rfl, happly, hmake⟩ := h.of_cons
    have hdraft := ih hmake fun adjustment hadjustment =>
      hbrings adjustment (List.mem_cons_of_mem _ hadjustment)
    by_contra hnot
    exact hbrings adjustment List.mem_cons_self ⟨draft, draft', happly, hdraft, hnot⟩

end

/-! ## Adjustments that add to a request -/

/-- Whether an adjustment does nothing but add to a request. -/
def adds : Adjustment → Bool
  | query _ | header _ _ | body _ => true
  | custom _ => false

/-- The header that an adjustment adds, if it adds one. -/
def header? : Adjustment → Option Http.Header
  | header name value => (Http.Header.ofPair name value).toOption
  | query _ | body _ | custom _ => none

section
variable {adjustment : Adjustment} {draft request : Http.Request} {header : Http.Header}

/-- An adjusted request has the headers of its draft, and behind them the one that is added. -/
theorem headers_of_apply (hadds : adjustment.adds = true)
    (h : apply draft adjustment = .ok request) :
    request.headers = draft.headers ++ adjustment.header?.toList := by
  cases adjustment with
  | query | body =>
    cases h
    exact (List.append_nil _).symm
  | header name value =>
    simp only [apply] at h
    cases hpair : Http.Header.ofPair name value with
    | error e =>
      rw [hpair] at h
      cases h
    | ok added =>
      rw [hpair] at h
      cases h
      rw [header?, hpair]
      rfl
  | custom => cases hadds

/-- To add to a request is to leave all its headers. -/
theorem keeps (hadds : adjustment.adds = true) (header : Http.Header) :
    adjustment.Keeps header := by
  intro draft request h hmem
  rw [headers_of_apply hadds h]
  exact List.mem_append_left _ hmem

/-- What adds to a request brings the header that it adds, and no other one. -/
theorem brings_iff (hadds : adjustment.adds = true) :
    adjustment.Brings header ↔ adjustment.header? = some header := by
  constructor
  · rintro ⟨draft, request, h, hmem, hnot⟩
    rw [headers_of_apply hadds h] at hmem
    exact Option.mem_toList.1 ((List.mem_append.1 hmem).resolve_left hnot)
  · intro hheader
    cases adjustment with
    | query | body => cases hheader
    | header name value =>
      change (Http.Header.ofPair name value).toOption = some header at hheader
      cases hpair : Http.Header.ofPair name value with
      | error e =>
        rw [hpair] at hheader
        cases hheader
      | ok added =>
        rw [hpair] at hheader
        cases hheader
        refine ⟨{ (default : Http.Request) with headers := [] },
          { (default : Http.Request) with headers := [header] }, ?_, List.mem_singleton_self _,
          nofun⟩
        simp only [apply, hpair]
        rfl
    | custom => cases hadds

end

end Adjustment

/-- The draft of an adjusted request has the headers that it is given and the cookie of the
client. -/
theorem Client.make_of_adjusted {c : Client} {method : Http.Method} {endpoint : String}
    {adjustments : List Adjustment} {headers : List Http.Header} {request : Http.Request}
    (h : c.adjusted method endpoint adjustments headers = .ok request) :
    Adjustment.Make adjustments (headers ++ Client.cookieHeaders c.credential) request := by
  unfold Client.adjusted at h
  cases hprepare : c.prepare (.plain method endpoint) headers with
  | error e =>
    rw [hprepare] at h
    cases h
  | ok draft =>
    rw [hprepare] at h
    obtain ⟨-, -, hheaders, -⟩ := Client.prepare_eq_ok hprepare
    refine ⟨draft, hheaders, ?_⟩
    cases hfold : adjustments.foldlM Adjustment.apply draft with
    | error failure =>
      change (adjustments.foldlM Adjustment.apply draft).mapError _ = _ at h
      rw [hfold] at h
      cases h
    | ok request' =>
      change (adjustments.foldlM Adjustment.apply draft).mapError _ = _ at h
      rw [hfold] at h
      cases h
      rfl

end ODataSession
