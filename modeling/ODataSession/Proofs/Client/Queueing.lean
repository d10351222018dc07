import ODataSession.Proofs.Client.Queue
import ODataSession.Proofs.Http.Header
import ODataSession.Proofs.Url.Query

/-!
# Headers that wait

What waits behind an action that does not take the queue. Headers are queued all together: either
all pairs are legal and they are merged into the queue, or the first fault is the result and nothing
at all has changed (`Performance.queues`). No other such action touches the queue. So by induction
on what a client performs its queue is the one that it had at first with all pairs merged into it
that calls have accepted since (`Client.History.queued_merged`).
-/

namespace ODataSession

section
variable {β σ : Type} [Http.Backend β] [SessionStore σ]

/-! ## One call -/

/-- Queueing legal pairs merges them into the queue and changes nothing else. -/
theorem Site.perform_withHeaders_of_forall (s : Site β σ) {pairs : List (String × String)}
    (h : ∀ pair ∈ pairs, Http.IsLegal pair) :
    s.perform (.withHeaders pairs) = (.ok .done, { s with client := { s.client with
      queued := (pairs.map Http.Header.ofLegal).foldl Http.Headers.set s.client.queued } }) := by
  have hqueued : s.client.withHeaders pairs = .ok { s.client with
      queued := (pairs.map Http.Header.ofLegal).foldl Http.Headers.set s.client.queued } := by
    rw [Client.withHeaders, Http.mapM_ofPair_of_forall h]
    rfl
  simp only [perform, Action.perform, Operation.withHeaders, Operation.run_bind,
    Operation.run_client, Operation.run_require, hqueued, mapError_ok, Operation.run_update]
  rfl

/-- Queueing pairs with a fault among them is refused for the first one and changes nothing. -/
theorem Site.perform_withHeaders_of_faulty (s : Site β σ) {before behind : List (String × String)}
    {pair : String × String} {e : Http.HeaderError}
    (hbefore : ∀ pair ∈ before, Http.IsLegal pair) (h : Http.Faulty pair e) :
    s.perform (.withHeaders (before ++ pair :: behind)) = (.error (.invalidHeader e), s) := by
  have hrefused : s.client.withHeaders (before ++ pair :: behind) = .error e := by
    rw [Client.withHeaders, Http.mapM_ofPair_of_faulty hbefore h]
    rfl
  simp only [perform, Action.perform, Operation.withHeaders, Operation.run_bind,
    Operation.run_client, Operation.run_require, hrefused, mapError_error]

/-- What comes of queueing pairs. -/
inductive Performance.Queues (q : Performance β σ) (pairs : List (String × String)) : Prop
  | merged {queued : List Http.Header} (legal : ∀ pair ∈ pairs, Http.IsLegal pair)
      (result_eq : q.result = .ok .done)
      (after_eq : q.after = { q.site with client := { q.client with queued } })
      (merged : Http.Headers.Merged q.client.queued pairs queued)
  | refused {before behind : List (String × String)} {pair : String × String}
      {e : Http.HeaderError} (pairs_eq : pairs = before ++ pair :: behind)
      (legal : ∀ pair ∈ before, Http.IsLegal pair) (faulty : Http.Faulty pair e)
      (message_eq : e.message = pair.1 ++ if Http.isHeaderName pair.1.toList
        then ": failed to parse header value" else ": invalid HTTP header name")
      (result_eq : q.result = .error (.invalidHeader e)) (after_eq : q.after = q.site)

/-- Pairs are queued all together, or none of them is. -/
theorem Performance.queues {q : Performance β σ} {pairs : List (String × String)}
    (h : q.action = .withHeaders pairs) : q.Queues pairs := by
  obtain hlegal | ⟨before, pair, behind, e, rfl, hbefore, hfaulty⟩ :=
    Http.forall_isLegal_or_exists_faulty pairs
  · have hperform := q.site.perform_withHeaders_of_forall hlegal
    rw [← h] at hperform
    exact .merged hlegal (congrArg Prod.fst hperform) (congrArg Prod.snd hperform)
      (Http.Headers.merged_foldl_set _ _)
  · have hperform : q.site.perform (.withHeaders (before ++ pair :: behind)) = _ :=
      q.site.perform_withHeaders_of_faulty hbefore hfaulty
    rw [← h] at hperform
    exact .refused rfl hbefore hfaulty hfaulty.message_eq (congrArg Prod.fst hperform)
      (congrArg Prod.snd hperform)

/-! ## Many calls -/

/-- The pairs that an action queues. -/
def Performance.accepted (q : Performance β σ) : List (String × String) :=
  match q.action, q.result with
  | .withHeaders pairs, .ok _ => pairs
  | _, _ => []

/-- An action that queues no pairs accepts none. -/
theorem Performance.accepted_eq_nil {q : Performance β σ}
    (h : ∀ pairs, q.action ≠ .withHeaders pairs) : q.accepted = [] := by
  unfold accepted
  split
  · next haction _ => exact absurd haction (h _)
  · rfl

/-- An action that does not take the queue merges into it what it accepts. -/
theorem Performance.merged {q : Performance β σ} (h : q.action.takesQueue = false) :
    Http.Headers.Merged q.client.queued q.accepted q.after.client.queued := by
  by_cases hqueues : ∃ pairs, q.action = .withHeaders pairs
  · obtain ⟨pairs, haction⟩ := hqueues
    cases q.queues haction with
    | merged _ hresult hafter hmerged =>
      rw [accepted, haction, hresult, hafter]
      exact hmerged
    | refused _ _ _ _ hresult hafter =>
      rw [accepted, haction, hresult, hafter]
      exact .refl _
  · rw [not_exists] at hqueues
    have hgiven : q.action.given = [] := by
      cases haction : q.action with
      | withHeaders pairs => exact absurd haction (hqueues pairs)
      | login | logout | request | sendWith | pool => rfl
    rw [accepted_eq_nil hqueues, q.performing.queued_eq, Action.queueAfter, h, hgiven]
    exact .refl _

/-- Each call that queues pairs queues all of them or is refused for the first fault and changes
nothing. As long as the queue is not taken, it is what it was at first with the pairs merged into it
that calls have accepted, in their order. -/
theorem Client.History.queued_merged {c c' : Client} {past : List (Performance β σ)}
    (h : c.History past c') (hkept : ∀ q ∈ past, q.action.takesQueue = false) :
    (∀ q ∈ past, ∀ pairs, q.action = .withHeaders pairs → q.Queues pairs) ∧
      Http.Headers.Merged c.queued (past.flatMap Performance.accepted) c'.queued := by
  refine ⟨fun q _ pairs => q.queues, ?_⟩
  induction h with
  | start => exact .refl c.queued
  | @acted past q _ ih =>
    rw [List.forall_mem_append, List.forall_mem_singleton] at hkept
    rw [List.flatMap_append, List.flatMap_singleton]
    exact (ih hkept.1).trans (q.merged hkept.2)

end

/-- Three calls, the second of which has a fault in its second pair, so that its other pairs are not
queued either. The case of a name does not matter. -/
theorem Client.History.queued_merged_mixed :
    ∃ (c' : Client) (past : List (Performance ScriptedBackend MemoryStore)),
      past.map (·.action) =
        [.withHeaders [("X-One", "1"), ("x-one", "2"), ("X-Two", "3")],
          .withHeaders [("X-Two", "4"), ("bad name", "5"), ("X-One", "6")],
          .withHeaders [("x-TWO", "7")]] ∧
      past.flatMap Performance.accepted =
        [("X-One", "1"), ("x-one", "2"), ("X-Two", "3"), ("x-TWO", "7")] ∧
      (∀ q ∈ past, ∀ pairs, q.action = .withHeaders pairs → q.Queues pairs) ∧
      c'.queued = [⟨"x-one", "2"⟩, ⟨"x-two", "7"⟩] ∧
      Http.Headers.Merged [] (past.flatMap Performance.accepted) c'.queued := by
  let action : Action := .withHeaders [("X-One", "1"), ("x-one", "2"), ("X-Two", "3")]
  let action' : Action := .withHeaders [("X-Two", "4"), ("bad name", "5"), ("X-One", "6")]
  let action'' : Action := .withHeaders [("x-TWO", "7")]
  let first := Site.unconnected.acting action
  let second := first.after.acting action'
  let third := second.after.acting action''
  have hhistory : Client.sample.History ([] ++ [first] ++ [second] ++ [third])
      third.after.client :=
    .acted (.acted (.acted .start))
  obtain ⟨hqueues, hmerged⟩ := hhistory.queued_merged (by decide)
  -- The names are put into lower case before they are compared.
  have hgiven : action.given = [⟨"x-one", "1"⟩, ⟨"x-one", "2"⟩, ⟨"x-two", "3"⟩] := by
    decide +kernel
  have hgiven' : action'.given = [] := by decide +kernel
  have hgiven'' : action''.given = [⟨"x-two", "7"⟩] := by decide +kernel
  have hqueued : third.after.client.queued = [⟨"x-one", "2"⟩, ⟨"x-two", "7"⟩] := by
    have hpending : third.after.client.queued = pendingHeaders [action, action', action''] :=
      hhistory.queued_eq rfl
    have htakes : action.takesQueue = false ∧ action'.takesQueue = false ∧
        action''.takesQueue = false := by decide
    rw [hpending]
    simp only [pendingHeaders, List.foldl_cons, List.foldl_nil, Action.queueAfter, htakes, hgiven,
      hgiven', hgiven'']
    decide
  refine ⟨third.after.client, [first, second, third], rfl, ?_, hqueues, hqueued, hmerged⟩
  decide +kernel

end ODataSession
