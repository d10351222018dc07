import ODataSession.Proofs.Query.Building
import ODataSession.Proofs.Query.Entries

/-!
# The facets of queries

The calls that build a query speak of five facets, and those of one facet do not interfere with
those of another: only what was selected last, what was appended in order, and what was limited and
skipped last counts (`ODataQuery.build_normal`).

The parameters of a query are its facets in a fixed order of names, without those that are not set.
No name comes twice, so that each of them is set where it stands (`QueryParameters.entries_ofList`)
and found again (`ODataQuery.get?_toParameters`).
-/

namespace ODataSession

/-! ## Parameters in a row -/

namespace QueryParameters

/-- The values that are set, under their names. -/
def present (facets : List (String × Option ParameterValue)) : List (String × ParameterValue) :=
  facets.filterMap fun (key, value?) => value?.map fun value => (key, value)

/-- The names of values that are set are some of the names, in their order. -/
theorem keys_present_sublist (facets : List (String × Option ParameterValue)) :
    ((present facets).map Prod.fst).Sublist (facets.map Prod.fst) := by
  induction facets with
  | nil => exact .slnil
  | cons facet facets ih =>
    obtain ⟨key, value?⟩ := facet
    cases value? with
    | none => exact ih.cons key
    | some value => exact ih.cons_cons key

/-- Where no name comes twice, a value that is set is found, and nothing else. -/
theorem lookup_present {facets : List (String × Option ParameterValue)}
    (h : (facets.map Prod.fst).Nodup) (key : String) :
    (present facets).lookup key = (facets.lookup key).join := by
  induction facets with
  | nil => rfl
  | cons facet facets ih =>
    obtain ⟨key', value?⟩ := facet
    obtain ⟨hkey', hfacets⟩ := List.nodup_cons.1 h
    rw [lookup_cons_eq_ite]
    cases value? with
    | none =>
      refine (ih hfacets).trans ?_
      split
      · next hkey =>
        -- the name must not be found further on
        subst hkey
        have hnone : facets.lookup key = none := List.lookup_eq_none_iff.2 fun facet hfacet =>
          bne_iff_ne.2 fun heq => hkey' (List.mem_map.2 ⟨facet, hfacet, heq.symm⟩)
        rw [hnone]
        rfl
      · rfl
    | some value =>
      have hcons : present ((key', some value) :: facets) = (key', value) :: present facets := rfl
      rw [hcons, lookup_cons_eq_ite, ih hfacets]
      split <;> rfl

end QueryParameters

/-! ## Facets -/

/-- What a call speaks of. -/
inductive QueryFacet
  | selection
  | chain
  | ordering
  | limit
  | offset
  deriving DecidableEq, Repr, Inhabited

namespace QueryCall

/-- The facet that a call speaks of. -/
def facet : QueryCall → QueryFacet
  | select _ => .selection
  | whereExpr _ | orWhereExpr _ | whereEq .. | orWhereEq .. | whereOp .. | orWhereOp .. => .chain
  | orderBy .. | orderByAsc _ | orderByDesc _ => .ordering
  | top _ => .limit
  | skip _ => .offset

/-- Two sequences of calls that contribute the same. -/
structure Agree (calls calls' : List QueryCall) : Prop where
  selection_eq : selectedBy calls = selectedBy calls'
  appended_eq : calls.filterMap appended? = calls'.filterMap appended?
  ordering_eq : calls.filterMap clause? = calls'.filterMap clause?
  limit_eq : (calls.filterMap limit?).getLast? = (calls'.filterMap limit?).getLast?
  offset_eq : (calls.filterMap offset?).getLast? = (calls'.filterMap offset?).getLast?

variable {calls calls' : List QueryCall}

/-- What is contributed to a facet comes from the calls that speak of it. -/
theorem filterMap_facet {α : Type} {contribution? : QueryCall → Option α} {f : QueryFacet}
    (hnone : ∀ call, call.facet ≠ f → contribution? call = none)
    (hcalls : calls.filter (·.facet = f) = calls'.filter (·.facet = f)) :
    calls.filterMap contribution? = calls'.filterMap contribution? := by
  have hfacet : ∀ calls : List QueryCall,
      (calls.filter (·.facet = f)).filterMap contribution? = calls.filterMap contribution? := by
    intro calls
    rw [List.filterMap_filter]
    refine List.filterMap_congr fun call _ => ?_
    by_cases h : call.facet = f
    · rw [if_pos (decide_eq_true h)]
    · rw [if_neg (by simpa using h), hnone call h]
  rw [← hfacet, hcalls, hfacet]

/-- A call contributes nothing to a facet that it does not speak of. -/
theorem contribution_eq_none (call : QueryCall) :
    (call.facet ≠ .selection → call.selection? = none) ∧
      (call.facet ≠ .chain → call.appended? = none) ∧
      (call.facet ≠ .ordering → call.clause? = none) ∧
      (call.facet ≠ .limit → call.limit? = none) ∧
      (call.facet ≠ .offset → call.offset? = none) := by
  cases call <;> simp [facet, selection?, appended?, clause?, limit?, offset?]

/-- Calls contribute the same if those of each facet are the same, however they are mixed with the
others. -/
theorem Agree.of_filter_facet
    (h : ∀ f, calls.filter (·.facet = f) = calls'.filter (·.facet = f)) : Agree calls calls' where
  selection_eq := by
    rw [selectedBy, selectedBy,
      filterMap_facet (fun call => call.contribution_eq_none.1) (h .selection)]
  appended_eq := filterMap_facet (fun call => call.contribution_eq_none.2.1) (h .chain)
  ordering_eq := filterMap_facet (fun call => call.contribution_eq_none.2.2.1) (h .ordering)
  limit_eq := by rw [filterMap_facet (fun call => call.contribution_eq_none.2.2.2.1) (h .limit)]
  offset_eq := by rw [filterMap_facet (fun call => call.contribution_eq_none.2.2.2.2) (h .offset)]

end QueryCall

namespace ODataQuery

/-- The names of the facets are different. -/
theorem nodup_facets (q : ODataQuery) : (q.facets.map Prod.fst).Nodup := by
  change ["$select", "$filter", "$orderby", "$top", "$skip"].Nodup
  decide

/-- The parameters of a query are its facets that are set. -/
theorem entries_toParameters (q : ODataQuery) :
    q.toParameters.entries = QueryParameters.present q.facets :=
  QueryParameters.entries_ofList
    ((QueryParameters.keys_present_sublist q.facets).nodup q.nodup_facets)

/-- The names of the parameters of a query are some of the names of its facets, in their order. -/
theorem keys_toParameters_sublist (q : ODataQuery) :
    q.toParameters.keys.Sublist (q.facets.map Prod.fst) := by
  rw [QueryParameters.keys, entries_toParameters]
  exact QueryParameters.keys_present_sublist q.facets

/-- The parameter of a name is the facet of that name, if it is set. -/
theorem get?_toParameters (q : ODataQuery) (key : String) :
    q.toParameters.get? key = (q.facets.lookup key).join := by
  rw [QueryParameters.get?, entries_toParameters, QueryParameters.lookup_present q.nodup_facets]

/-- The selected fields are a parameter unless there are none. -/
theorem get?_select (q : ODataQuery) : q.toParameters.get? "$select" =
    if q.selected = [] then none else some (.text (",".intercalate q.selected)) := by
  have hfacet : q.toParameters.get? "$select" = q.selectText?.map .text := q.get?_toParameters _
  rw [hfacet, selectText?]
  cases q.selected <;> rfl

/-- The ordering clauses are a parameter unless there are none. -/
theorem get?_orderby (q : ODataQuery) : q.toParameters.get? "$orderby" =
    if q.ordering = [] then none
    else some (.text (",".intercalate (q.ordering.map orderingText))) := by
  have hfacet : q.toParameters.get? "$orderby" = q.orderText?.map .text := q.get?_toParameters _
  rw [hfacet, orderText?]
  cases q.ordering <;> rfl

/-- Calls that contribute the same build the same query. -/
theorem build_eq_of_agree {calls calls' : List QueryCall} (h : QueryCall.Agree calls calls') :
    build calls = build calls' := by
  rw [build_eq, build_eq, h.selection_eq, h.appended_eq, h.ordering_eq, h.limit_eq, h.offset_eq]

open QueryCall

/-- What calls build is told by what they contribute. -/
structure Normal (calls : List QueryCall) : Prop where
  /-- Calls that contribute the same build the same query with the same parameters. -/
  agreeing : ∀ calls', Agree calls calls' → build calls' = build calls ∧
    (build calls').toParameters = (build calls).toParameters
  /-- Calls on one facet may be mixed with those on others in any way. -/
  interleaved : ∀ calls', (∀ f, calls.filter (·.facet = f) = calls'.filter (·.facet = f)) →
    build calls' = build calls
  keys_sublist : (build calls).toParameters.keys.Sublist
    ["$select", "$filter", "$orderby", "$top", "$skip"]
  keys_nodup : (build calls).toParameters.keys.Nodup
  select_eq : (build calls).toParameters.get? "$select" =
    if selectedBy calls = [] then none else some (.text (",".intercalate (selectedBy calls)))
  filter_eq : (build calls).toParameters.get? "$filter" =
    if calls.filterMap appended? = [] then none
    else some (.text (chainText (calls.filterMap appended?)))
  orderby_eq : (build calls).toParameters.get? "$orderby" =
    if calls.filterMap clause? = [] then none
    else some (.text (",".intercalate ((calls.filterMap clause?).map
      fun (field, direction) => field ++ " " ++ direction.keyword)))
  top_eq : (build calls).toParameters.get? "$top" =
    (calls.filterMap limit?).getLast?.map .integer
  skip_eq : (build calls).toParameters.get? "$skip" =
    (calls.filterMap offset?).getLast?.map .integer

/-- Whatever calls build is told by what they contribute. -/
theorem build_normal (calls : List QueryCall) : Normal calls where
  agreeing calls' h := by
    rw [build_eq_of_agree h]
    exact ⟨rfl, rfl⟩
  interleaved calls' h := (build_eq_of_agree (.of_filter_facet h)).symm
  keys_sublist := (build calls).keys_toParameters_sublist
  keys_nodup := (build calls).keys_toParameters_sublist.nodup (build calls).nodup_facets
  select_eq := by
    have hselected : (build calls).selected = selectedBy calls := by rw [build_eq]
    rw [get?_select, hselected]
  filter_eq := by
    have hfacet : (build calls).toParameters.get? "$filter" = (build calls).filterText?.map .text :=
      get?_toParameters _ _
    have hfilters : (build calls).filters = chain (calls.filterMap appended?) := by rw [build_eq]
    rw [hfacet, (chains_of_filters_eq _ hfilters).filterText?_eq]
    split <;> rfl
  orderby_eq := by
    have hordering : (build calls).ordering = calls.filterMap clause? := by rw [build_eq]
    rw [get?_orderby, hordering]
    rfl
  top_eq := by
    have hlimit : (build calls).limit = (calls.filterMap limit?).getLast? := by rw [build_eq]
    rw [← hlimit]
    exact get?_toParameters _ _
  skip_eq := by
    have hoffset : (build calls).offset = (calls.filterMap offset?).getLast? := by rw [build_eq]
    rw [← hoffset]
    exact get?_toParameters _ _

/-- Calls on different facets are mixed in two ways. -/
theorem build_normal_mixed :
    build [.top 0, .whereEq "Code" (.text "A"), .select ["Code"], .orWhereEq "Code" (.text "B")] =
      build [.whereEq "Code" (.text "A"), .orWhereEq "Code" (.text "B"), .select ["Code"],
        .top 0] := by
  refine (build_normal [.whereEq "Code" (.text "A"), .orWhereEq "Code" (.text "B"),
    .select ["Code"], .top 0]).interleaved _ fun f => ?_
  cases f <;> rfl

example : (build [.top 0, .orderByDesc "Name", .select ["Code"]]).toParameters.entries =
    [("$select", .text "Code"), ("$orderby", .text "Name desc"), ("$top", .integer 0)] := by
  decide

end ODataQuery

end ODataSession
