import Mathlib.Data.List.Induction
import ODataSession.Proofs.Client.Performance
import ODataSession.Proofs.Client.Tokens

/-!
# Results of pools

What the results of a pool are found under (`Site.perform_pool`). A request has the tag that was set
last since the one before it, or else the next number, so that those without a tag are numbered from
zero on (`Pool.Numbered`). What it means to take a result out under a tag is said once
(`PoolResults.Removing`), and from this it follows what is found after any number of removals:
`PoolResults.under` lists the results of one tag in order, and each removal drops the last of them.
-/

namespace ODataSession

/-! ## Keys -/

namespace PoolKey

/-- The tag that a key is. -/
def tag? : PoolKey → Option String
  | tag name => some name
  | index _ => none

/-- The number that a key is. -/
def index? : PoolKey → Option Nat
  | index n => some n
  | tag _ => none

/-- The key that is a tag. -/
@[simp] theorem tag?_eq_some {key : PoolKey} {name : String} :
    key.tag? = some name ↔ key = tag name := by
  cases key <;> simp [tag?]

end PoolKey

namespace PoolResults

variable {α : Type}

/-- The results of the requests with one tag, or of those without a tag, in their order. -/
def under (p : PoolResults α) (tag? : Option String) : List α :=
  (p.entries.filter (·.1.tag? = tag?)).map Prod.snd

/-- The results that are left once results have been taken out under some names. -/
def without (p : PoolResults α) (names : List String) : PoolResults α :=
  names.foldl (fun p name => (p.remove name).2) p

/-! ## Taking results out -/

/-- Taking a result out under a tag: what is given, and what is left. -/
inductive Removing (name : String) : PoolResults α → Option α × PoolResults α → Prop
  | absent {p : PoolResults α} (h : ∀ entry ∈ p.entries, entry.1 ≠ .tag name) :
    Removing name p (none, p)
  | taken {before after : List (PoolKey × α)} {result : α}
      (h : ∀ entry ∈ after, entry.1 ≠ .tag name) :
    Removing name ⟨before ++ (.tag name, result) :: after⟩ (some result, ⟨before ++ after⟩)

/-- What is taken out under a tag is the last result with that tag, if there is one. -/
theorem removing (p : PoolResults α) (name : String) : Removing name p (p.remove name) := by
  obtain ⟨entries⟩ := p
  induction entries using List.reverseRecOn with
  | nil => exact .absent nofun
  | append_singleton entries entry ih =>
    obtain ⟨key, result⟩ := entry
    by_cases hkey : key = .tag name
    · subst hkey
      have hremove : remove ⟨entries ++ [(.tag name, result)]⟩ name =
          (some result, ⟨entries ++ []⟩) := by
        simp [remove, get?, eraseKey]
      rw [hremove]
      exact .taken nofun
    · -- the last entry is under another key and stays behind what is left of the others
      have hremove : remove ⟨entries ++ [(key, result)]⟩ name =
          ((remove ⟨entries⟩ name).1, ⟨(remove ⟨entries⟩ name).2.entries ++ [(key, result)]⟩) := by
        simp [remove, get?, eraseKey, hkey, List.lookup_cons, beq_eq_false_iff_ne.2 (Ne.symm hkey)]
      rw [hremove]
      generalize remove ⟨entries⟩ name = removed at ih
      cases ih with
      | absent h => exact .absent (List.forall_mem_append.2 ⟨h, List.forall_mem_singleton.2 hkey⟩)
      | taken h =>
        simp only [List.append_assoc, List.cons_append]
        exact .taken (List.forall_mem_append.2 ⟨h, List.forall_mem_singleton.2 hkey⟩)

/-- The results under a tag among those of one list and another. -/
theorem under_append (entries entries' : List (PoolKey × α)) (tag? : Option String) :
    under ⟨entries ++ entries'⟩ tag? = under ⟨entries⟩ tag? ++ under ⟨entries'⟩ tag? := by
  simp only [under, List.filter_append, List.map_append]

/-- A result is the first one under its own tag, and not to be found under another one. -/
theorem under_cons (key : PoolKey) (result : α) (entries : List (PoolKey × α))
    (tag? : Option String) : under ⟨(key, result) :: entries⟩ tag? =
      if key.tag? = tag? then result :: under ⟨entries⟩ tag? else under ⟨entries⟩ tag? := by
  by_cases h : key.tag? = tag? <;> simp [under, h]

section
variable {p : PoolResults α} {name : String} {removed : Option α × PoolResults α}

/-- Where there is no result with a tag, there is none under it. -/
theorem under_eq_nil (h : ∀ entry ∈ p.entries, entry.1 ≠ .tag name) : p.under (some name) = [] := by
  rw [under, List.map_eq_nil_iff, List.filter_eq_nil_iff]
  simpa using h

/-- What is given is the last result under the tag. -/
theorem Removing.fst_eq (h : Removing name p removed) :
    removed.1 = (p.under (some name)).getLast? := by
  cases h with
  | absent h => rw [under_eq_nil h, List.getLast?_nil]
  | @taken before after result h =>
    have hafter : (⟨after⟩ : PoolResults α).under (some name) = [] := under_eq_nil h
    rw [under_append, under_cons, hafter, PoolKey.tag?, if_pos rfl, List.getLast?_concat]

/-- Of the results under the tag the last one is not left, and those under others all are. -/
theorem Removing.under_snd (h : Removing name p removed) (tag? : Option String) :
    removed.2.under tag? = if tag? = some name then (p.under tag?).dropLast else p.under tag? := by
  cases h with
  | absent h =>
    split
    · next htag => rw [htag, under_eq_nil h, List.dropLast_nil]
    · rfl
  | @taken before after result h =>
    rw [under_append, under_append, under_cons, PoolKey.tag?]
    by_cases htag : tag? = some name
    · subst htag
      have hafter : (⟨after⟩ : PoolResults α).under (some name) = [] := under_eq_nil h
      rw [hafter, if_pos rfl, if_pos rfl, List.append_nil, List.dropLast_concat]
    · rw [if_neg htag, if_neg (Ne.symm htag)]

/-- The numbers are left as they are. -/
theorem Removing.numbers_snd (h : Removing name p removed) :
    removed.2.entries.filterMap (·.1.index?) = p.entries.filterMap (·.1.index?) := by
  cases h with
  | absent => rfl
  | taken => simp [PoolKey.index?]

end

/-- What is found under a tag is the last result under it. -/
theorem get?_eq (p : PoolResults α) (name : String) :
    p.get? name = (p.under (some name)).getLast? :=
  (p.removing name).fst_eq

/-- Behind removals, as many of the last results under a tag are missing as the tag has been named
times. -/
theorem reverse_under_without (p : PoolResults α) (names : List String) (name : String) :
    ((p.without names).under (some name)).reverse =
      (p.under (some name)).reverse.drop (names.count name) := by
  induction names generalizing p with
  | nil => rfl
  | cons name' names ih =>
    have hunder := (p.removing name').under_snd (some name)
    refine (ih (p.remove name').2).trans ?_
    rw [hunder, List.count_cons]
    by_cases hname : name' = name
    · subst hname
      rw [if_pos rfl, beq_self_eq_true, if_pos rfl, ← List.tail_reverse, List.drop_tail]
    · rw [if_neg (by simpa using Ne.symm hname), if_neg (by simpa using hname), Nat.add_zero]

/-- Removals leave the results without a tag as they are. -/
theorem under_none_without (p : PoolResults α) (names : List String) :
    (p.without names).under none = p.under none := by
  induction names generalizing p with
  | nil => rfl
  | cons name names ih =>
    refine (ih (p.remove name).2).trans ?_
    rw [(p.removing name).under_snd, if_neg nofun]

/-- Removals leave the numbers as they are. -/
theorem numbers_without (p : PoolResults α) (names : List String) :
    (p.without names).entries.filterMap (·.1.index?) = p.entries.filterMap (·.1.index?) := by
  induction names generalizing p with
  | nil => rfl
  | cons name names ih => exact (ih (p.remove name).2).trans (p.removing name).numbers_snd

/-! ## Numbers -/

/-- Where numbers follow one another, a result is found under its place among those without a
tag. -/
theorem lookup_index {entries : List (PoolKey × α)} {first count : Nat}
    (h : entries.filterMap (·.1.index?) = List.range' first count) (i : Nat) :
    entries.lookup (.index (first + i)) = ((⟨entries⟩ : PoolResults α).under none)[i]? := by
  induction entries generalizing first count i with
  | nil => rfl
  | cons entry entries ih =>
    obtain ⟨key, result⟩ := entry
    cases key with
    | tag name => exact ih h i
    | index n =>
      cases count with
      | zero => cases h
      | succ count =>
        -- the numbers of the other entries begin one later
        obtain ⟨rfl, hrest⟩ := List.cons.inj h
        cases i with
        | zero =>
          rw [under_cons, PoolKey.tag?, if_pos rfl]
          exact List.lookup_cons_self
        | succ i =>
          have hkey : (PoolKey.index (n + (i + 1)) == .index n) = false :=
            beq_eq_false_iff_ne.2 fun h => by
              have := PoolKey.index.inj h
              omega
          rw [under_cons, PoolKey.tag?, if_pos rfl, List.getElem?_cons_succ, List.lookup_cons, hkey,
            ← Nat.add_assoc, Nat.add_right_comm]
          exact ih hrest i

/-- As many numbers are given as there are results without a tag. -/
theorem length_numbers (p : PoolResults α) :
    (p.entries.filterMap (·.1.index?)).length = (p.under none).length := by
  obtain ⟨entries⟩ := p
  induction entries with
  | nil => rfl
  | cons entry entries ih =>
    obtain ⟨key, result⟩ := entry
    cases key with
    | tag name => exact ih
    | index n => exact congrArg (· + 1) ih

/-- Results that have numbers without a gap are found under them, whatever has been taken out. -/
theorem index?_without {p : PoolResults α} {count : Nat}
    (h : p.entries.filterMap (·.1.index?) = List.range count) (names : List String) (i : Nat) :
    (p.without names).index? i = (p.under none)[i]? := by
  rw [List.range_eq_range', ← p.numbers_without names] at h
  have hlookup := lookup_index h i
  rw [Nat.zero_add] at hlookup
  exact hlookup.trans (congrArg (·[i]?) (p.under_none_without names))

end PoolResults

/-! ## Declarations -/

/-- The tag that a declaration sets. -/
def Declaration.tag? : Declaration → Option String
  | tag name => some name
  | request _ => none

/-- The request that a declaration makes. -/
def Declaration.request? : Declaration → Option (Except EncodeError PendingRequest)
  | tag _ => none
  | request r => some r

namespace Pool

/-- The requests without a tag have numbers in order. -/
def Numbered (p : Pool) : Prop :=
  p.entries.filterMap (·.1.index?) = List.range p.untagged

variable (p : Pool) (d : Declaration) (declarations : List Declaration)

/-- A request is declared at the end, with the tag that is set, if one is. -/
theorem entries_declare_request (r : Except EncodeError PendingRequest) :
    ∃ key : PoolKey, key.tag? = p.nextTag ∧
      (p.declare (.request r)).entries = p.entries ++ [(key, r)] := by
  cases h : p.nextTag with
  | none => exact ⟨.index p.untagged, rfl, by rw [declare, h]⟩
  | some name => exact ⟨.tag name, rfl, by rw [declare, h]⟩

/-- The tag that is set behind a declaration is that of the declaration. -/
theorem nextTag_declare : (p.declare d).nextTag = d.tag? := by
  cases d with
  | tag name => rfl
  | request r => cases h : p.nextTag <;> rw [declare, h] <;> rfl

/-- Requests stay numbered. -/
theorem Numbered.declare {p : Pool} (h : p.Numbered) (d : Declaration) :
    (p.declare d).Numbered := by
  cases d with
  | tag name => exact h
  | request r =>
    cases hnext : p.nextTag with
    | none =>
      rw [Pool.declare, hnext, Numbered, List.filterMap_append, h, List.range_succ]
      rfl
    | some name =>
      rw [Pool.declare, hnext, Numbered, List.filterMap_append, h]
      exact List.append_nil _

/-- One more declaration behind others. -/
theorem ofDeclarations_concat :
    ofDeclarations (declarations ++ [d]) = (ofDeclarations declarations).declare d := by
  simp only [ofDeclarations, List.foldl_append, List.foldl_cons, List.foldl_nil]

/-- The requests of declarations are numbered. -/
theorem numbered_ofDeclarations : (ofDeclarations declarations).Numbered := by
  induction declarations using List.reverseRecOn with
  | nil => rfl
  | append_singleton declarations d ih =>
    rw [ofDeclarations_concat]
    exact ih.declare d

/-- The tag that is set behind declarations is that of the last one. -/
theorem nextTag_ofDeclarations : (ofDeclarations declarations).nextTag =
    declarations.getLast?.bind Declaration.tag? := by
  rcases List.eq_nil_or_concat' declarations with rfl | ⟨declarations, d, rfl⟩
  · rfl
  · rw [ofDeclarations_concat, nextTag_declare, List.getLast?_concat]
    rfl

/-- The requests of a pool are those that are declared, in their order. -/
theorem requests_ofDeclarations : (ofDeclarations declarations).entries.map Prod.snd =
    declarations.filterMap Declaration.request? := by
  induction declarations using List.reverseRecOn with
  | nil => rfl
  | append_singleton declarations d ih =>
    rw [ofDeclarations_concat, List.filterMap_append, ← ih]
    cases d with
    | tag name => exact (List.append_nil _).symm
    | request r =>
      obtain ⟨key, -, hentries⟩ := (ofDeclarations declarations).entries_declare_request r
      rw [hentries, List.map_append]
      rfl

/-- Requests that have been declared stay where they are. -/
theorem entries_prefix_foldl : p.entries <+: (declarations.foldl declare p).entries := by
  induction declarations generalizing p with
  | nil => exact List.prefix_rfl
  | cons d declarations ih =>
    have hstep : p.entries <+: (p.declare d).entries := by
      cases d with
      | tag name => exact List.prefix_rfl
      | request r =>
        obtain ⟨key, -, hentries⟩ := p.entries_declare_request r
        rw [hentries]
        exact List.prefix_append _ _
    exact hstep.trans (ih _)

/-- A request has the tag that is set right before it, or none if that declaration sets none. -/
theorem tagged_ofDeclarations {before after : List Declaration}
    {r : Except EncodeError PendingRequest} (h : declarations = before ++ .request r :: after) :
    (ofDeclarations declarations).entries[(before.filterMap Declaration.request?).length]?.map
      (·.1.tag?) = some (before.getLast?.bind Declaration.tag?) := by
  subst h
  obtain ⟨key, hkey, hentries⟩ := (ofDeclarations before).entries_declare_request r
  have hlength : (ofDeclarations before).entries.length =
      (before.filterMap Declaration.request?).length := by
    rw [← requests_ofDeclarations, List.length_map]
  have hsplit : ofDeclarations (before ++ .request r :: after) =
      after.foldl declare ((ofDeclarations before).declare (.request r)) := by
    simp only [ofDeclarations, List.foldl_append, List.foldl_cons]
  obtain ⟨rest, hrest⟩ :=
    entries_prefix_foldl ((ofDeclarations before).declare (.request r)) after
  have hentry : (ofDeclarations (before ++ .request r :: after)).entries =
      (ofDeclarations before).entries ++ (key, r) :: rest := by
    rw [hsplit, ← hrest, hentries, List.append_assoc]
    rfl
  rw [hentry, ← hlength, List.getElem?_append_right (Nat.le_refl _), Nat.sub_self,
    List.getElem?_cons_zero]
  exact congrArg some (hkey.trans (nextTag_ofDeclarations before))

example (r : Except EncodeError PendingRequest) :
    (ofDeclarations [.tag "a", .tag "b", .request r, .request r, .tag "b", .request r, .request r,
      .tag "c"]).entries.map Prod.fst = [.tag "b", .index 0, .tag "b", .index 1] :=
  rfl

end Pool

/-! ## Pools that are sent -/

/-- What comes of a declared request, and the call that is made for it, if one is. -/
inductive Client.Answers (c : Client) : Except EncodeError PendingRequest → Option Call →
    Except ClientError Http.Response → Prop
  | unencoded {e : EncodeError} : Answers c (.error e) none (.error (.encoding e))
  | noUrl {r : PendingRequest} {e : UrlError} (h : c.requestUrl r.endpoint r.query = .error e) :
    Answers c (.ok r) none (.error (.invalidUrl e))
  | unsendable {r : PendingRequest} {url : Url} (hurl : c.requestUrl r.endpoint r.query = .ok url)
      (h : Http.isSendable url = false) :
    Answers c (.ok r) none (.error (.transport ⟨.unbuildable, some url⟩))
  | sent {r : PendingRequest} {call : Call} (hcall : call.Carries c r)
      (h : Http.isSendable call.request.url = true) :
    Answers c (.ok r) (some call) (call.outcome.mapError .transport)

section
variable {c c₀ : Client} {events : List Event}

/-- A request is answered as it is for the client before. -/
theorem Client.Answers.of_remains {r : Except EncodeError PendingRequest} {call? : Option Call}
    {result : Except ClientError Http.Response} (h : c.Answers r call? result)
    (hc : c₀.Remains c) : c₀.Answers r call? result := by
  have hurl : ∀ endpoint query, c.requestUrl endpoint query = c₀.requestUrl endpoint query := by
    intro endpoint query
    rw [Client.requestUrl, Client.requestUrl, hc.base]
  cases h with
  | unencoded => exact .unencoded
  | noUrl h => exact .noUrl ((hurl _ _).symm.trans h)
  | unsendable h hsendable => exact .unsendable ((hurl _ _).symm.trans h) hsendable
  | sent hcall h => exact .sent (hcall.of_remains hc) h

/-- A declared request is answered, with one call at most. -/
theorem DispatchingDeclared.answers {r : Except EncodeError PendingRequest}
    {result : Except ClientError Http.Response} (h : DispatchingDeclared c r events result) :
    ∃ call?, calls events = call?.toList ∧ c.Answers r call? result := by
  cases h with
  | unencoded => exact ⟨none, rfl, .unencoded⟩
  | @dispatching r _ _ h =>
    cases h with
    | noUrl hprepare =>
      refine ⟨none, rfl, .noUrl ?_⟩
      cases hurl : c.requestUrl r.endpoint r.query with
      | error e =>
        rw [Client.prepare, hurl] at hprepare
        cases hprepare
        rfl
      | ok url =>
        rw [Client.prepare, hurl] at hprepare
        cases hprepare
    | sending hprepare hsend =>
      obtain ⟨hurl, hmethod, -, hbody⟩ := Client.prepare_eq_ok hprepare
      cases hsend with
      | unsendable h => exact ⟨none, rfl, .unsendable hurl h⟩
      | sent h => exact ⟨some ⟨_, _, _⟩, rfl, .sent ⟨rfl, hmethod, hurl, hbody⟩ h⟩

/-- The results of a pool are answers to its requests in the order of declaration, and its calls are
those that the answers come from. -/
def Client.AnswersPool (c : Client) (requests : List (Except EncodeError PendingRequest))
    (results : List (Except ClientError Http.Response)) (made : List Call) : Prop :=
  ∃ answers : List (Option Call × Except ClientError Http.Response),
    List.Forall₂ (fun r answer => c.Answers r answer.1 answer.2) requests answers ∧
      results = answers.map Prod.snd ∧ made = answers.filterMap Prod.fst

/-- The entries of a pool are answered in their order, each under its key. -/
theorem DispatchingAll.answersPool {entries : List (PoolKey × Except EncodeError PendingRequest)}
    {results : List (PoolKey × Except ClientError Http.Response)}
    (h : DispatchingAll c entries events results) (hc : c₀.Remains c) :
    results.map Prod.fst = entries.map Prod.fst ∧
      c₀.AnswersPool (entries.map Prod.snd) (results.map Prod.snd) (calls events) := by
  induction h with
  | nil => exact ⟨rfl, [], .nil, rfl, rfl⟩
  | cons h _ ih =>
    obtain ⟨call?, hcall, hanswer⟩ := h.answers
    obtain ⟨hkeys, answers, hanswers, hresults, hmade⟩ := ih
    refine ⟨congrArg (List.cons _) hkeys, (call?, _) :: answers,
      .cons (hanswer.of_remains hc) hanswers, congrArg (List.cons _) hresults, ?_⟩
    rw [calls_append, hcall, hmade]
    cases call? <;> rfl

end

/-- Results that are found under what was declared, whatever has been taken out of them. -/
structure PoolResults.Addressed {α : Type} (declarations : List Declaration)
    (results : PoolResults α) : Prop where
  /-- Between two requests only the last tag counts, which is the one right before the second. -/
  tagged : ∀ before r after, declarations = before ++ .request r :: after →
    results.entries[(before.filterMap Declaration.request?).length]?.map (·.1.tag?) =
      some (before.getLast?.bind Declaration.tag?)
  numbered : results.entries.filterMap (·.1.index?) = List.range (results.under none).length
  index?_eq : ∀ names i, (results.without names).index? i = (results.under none)[i]?
  /-- Under a tag there is the last result, or behind removals one that many places before it. -/
  get?_eq : ∀ names name, (results.without names).get? name =
    (results.under (some name)).reverse[names.count name]?
  removing : ∀ names name,
    Removing name (results.without names) ((results.without names).remove name)

/-- Results under the keys of declared requests are found under what was declared. -/
theorem PoolResults.addressed {α : Type} {declarations : List Declaration} {results : PoolResults α}
    (hkeys : results.entries.map Prod.fst =
      (Pool.ofDeclarations declarations).entries.map Prod.fst) :
    results.Addressed declarations := by
  have hnumbers : results.entries.filterMap (·.1.index?) =
      List.range (Pool.ofDeclarations declarations).untagged := by
    have h := congrArg (List.filterMap PoolKey.index?) hkeys
    rw [List.filterMap_map, List.filterMap_map] at h
    exact h.trans (Pool.numbered_ofDeclarations declarations)
  refine ⟨fun before r after h => ?_, ?_, fun names i => ?_, fun names name => ?_,
    fun names name => (results.without names).removing name⟩
  · have hentry := Pool.tagged_ofDeclarations declarations h
    have hkey := congrArg (·[(before.filterMap Declaration.request?).length]?.map PoolKey.tag?) hkeys
    simp only [List.getElem?_map, Option.map_map] at hkey
    exact hkey.trans hentry
  · rw [← length_numbers, hnumbers, List.length_range]
  · exact index?_without hnumbers names i
  · rw [get?_eq, ← List.head?_reverse, reverse_under_without, List.head?_drop]

section
variable {β σ : Type} [Http.Backend β] [SessionStore σ]

/-- What a pool does at a site. -/
structure Site.Pools (s : Site β σ) (declarations : List Declaration) : Prop where
  /-- Without a session there are no results, and nothing is sent. -/
  unacquired : ∀ e, ((Operation.ensureSession : Operation β σ Unit).run s).1 = .error e →
    s.perform (.pool declarations) = (.error e, (Operation.ensureSession.run s).2)
  /-- With a session every declared request is answered, and its result is found. -/
  acquired : ((Operation.ensureSession : Operation β σ Unit).run s).1 = .ok () →
    ∃ results events, (s.perform (.pool declarations)).1 = .ok (.responses results) ∧
      (s.perform (.pool declarations)).2.trace =
        (Operation.ensureSession.run s).2.trace ++ events ∧
      s.client.AnswersPool (declarations.filterMap Declaration.request?)
        (results.entries.map Prod.snd) (calls events) ∧
      results.Addressed declarations

/-- Whatever is declared and whatever is answered: a pool has one result per declared request, in
the order of declaration, and the results are found under the tags and numbers of their requests. -/
theorem Site.perform_pool (s : Site β σ) (declarations : List Declaration) :
    s.Pools declarations := by
  obtain ⟨events, acquired, s₁, hrun, hacquire, -⟩ := Operation.ensureSession_following s
  have hperform : s.perform (.pool declarations) =
      (.responses <$> Operation.pool (.ofDeclarations declarations) : Operation β σ Outcome).run s :=
    rfl
  refine ⟨fun e h => ?_, fun h => ?_⟩
  · rw [hrun] at h ⊢
    obtain rfl : acquired = .error e := h
    simp only [hperform, Operation.run_map, Operation.pool, Operation.run_bind, hrun]
    rfl
  · rw [hrun] at h ⊢
    obtain rfl : acquired = .ok () := h
    let notice : Notice :=
      .poolDispatched s₁.client.slot (Pool.ofDeclarations declarations).size
    let s₂ := s₁.after (.noted notice)
    obtain ⟨events', results, s', hrun', -, hall, hpass⟩ :=
      Operation.dispatchAll_following (Pool.ofDeclarations declarations).entries s₂
    obtain ⟨hkeys, hanswers⟩ := hall.answersPool hacquire.remains
    rw [Pool.requests_ofDeclarations] at hanswers
    have hpool : s.perform (.pool declarations) = (.ok (.responses ⟨results⟩), s') := by
      simp only [hperform, Operation.run_map, Operation.pool, Operation.run_bind, hrun,
        Operation.run_client, Operation.run_note]
      rw [hrun']
      rfl
    rw [hpool]
    refine ⟨⟨results⟩, .noted notice :: events', rfl, ?_, hanswers, PoolResults.addressed hkeys⟩
    rw [hpass.trace_eq]
    exact List.append_assoc _ _ _

end

/-- A pool that uses a tag twice and has a body without JSON is answered under a session. -/
theorem Site.perform_pool_granting :
    ∃ s : Site ScriptedBackend MemoryStore,
      Config.plainSample.site? (.granting [] "B1SESSION=a" 200) .empty = some s ∧
      ((Operation.ensureSession : Operation ScriptedBackend MemoryStore Unit).run s).1 = .ok () ∧
      s.Pools [.tag "a", .request (.ok (.get "Items")), .request (.error .keyNotText), .tag "a",
        .request (.ok (.get "Items"))] := by
  have h : (Config.plainSample.site? (ScriptedBackend.granting [] "B1SESSION=a" 200)
      MemoryStore.empty).any (fun s =>
      ((Operation.ensureSession : Operation ScriptedBackend MemoryStore Unit).run s).1.isOk) =
        true := by
    decide +kernel
  obtain ⟨s, hsite, hs⟩ := (Option.any_eq_true _ _).1 h
  refine ⟨s, hsite, ?_, s.perform_pool _⟩
  cases hrun : ((Operation.ensureSession : Operation ScriptedBackend MemoryStore Unit).run s).1 with
  | error e =>
    rw [hrun] at hs
    cases hs
  | ok => rfl

end ODataSession
