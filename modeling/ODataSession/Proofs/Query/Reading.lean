import ODataSession.Proofs.Query.Phrase

/-!
# Filters are read back

A reader of filters that knows nothing but the rules by which conditions are written: what a chain
is, what a phrase is, and which groups stand for a range or for a set. From the text of a filter of
plain conditions it finds the conditions again (`ODataQuery.readFilter?_filterText`): as many as
there were, with the same joins, each of the same kind and with the same field, operator and values,
as far as a value can be told from its rendering. What a literal holds cannot be taken for a part of
the filter, so a text in a filter cannot add a condition to it. Only a set without values does not
say which field and which kind of set it was.
-/

namespace ODataSession

/-! ## Shapes -/

/-- What a condition says, with the renderings of its values. -/
inductive Shape
  | compare (field : String) (comparison : Comparison) (value : String)
  | call (function : StringFunction) (field : String) (value : String)
  | between (field : String) (low high : String)
  | inSet (field : String) (values : List String)
  | notInSet (field : String) (values : List String)
  /-- A set without values, of either kind and on any field. -/
  | emptySet
  deriving DecidableEq, Repr

/-- The shape of a condition. A raw fragment has none. -/
def Condition.shape? : Condition → Option Shape
  | .compare field comparison value => some (.compare field comparison value.render)
  | .call function field value => some (.call function field value.render)
  | .between field low high => some (.between field low.render high.render)
  | .inSet _ [] | .notInSet _ [] => some .emptySet
  | .inSet field values => some (.inSet field (values.map Literal.render))
  | .notInSet field values => some (.notInSet field (values.map Literal.render))
  | .raw _ => none

/-! ## Reading -/

namespace Chain

variable {α β : Type}

/-- Reads joins and items as long as there are any. Every item has to make the rest shorter. -/
def readJoined? (readItem? : List Token → Option (α × List Token)) (ts : List Token) :
    Option (List (Join × α) × List Token) :=
  match Join.read? ts with
  | none => some ([], ts)
  | some (join, behind) =>
    match readItem? behind with
    | none => none
    | some (a, left) =>
      if left.length < ts.length then
        (readJoined? readItem? left).map fun (rest, left) => ((join, a) :: rest, left)
      else none
termination_by ts.length

/-- Reads a chain off the front of some tokens. -/
def read? (readItem? : List Token → Option (α × List Token)) (ts : List Token) :
    Option (Chain α × List Token) := do
  let (first, ts) ← readItem? ts
  let (rest, ts) ← readJoined? readItem? ts
  return (⟨first, rest⟩, ts)

/-- Changes every item, if every item can be changed. -/
def mapM? (f : α → Option β) (c : Chain α) : Option (Chain β) := do
  let first ← f c.first
  let rest ← c.rest.mapM fun (join, a) => (f a).map fun b => (join, b)
  return ⟨first, rest⟩

end Chain

namespace Phrase

/-- Reads a phrase off the front of some tokens. -/
def read? : List Token → Option (Phrase × List Token)
  | .leftParen :: .rightParen :: ts => some (.group none, ts)
  | .leftParen :: ts =>
    match Chain.read? Atom.read? ts with
    | some (members, .rightParen :: ts) => some (.group (some members), ts)
    | _ => none
  | ts => (Atom.read? ts).map fun (a, ts) => (.atom a, ts)

/-- The value of a later member of a group, if it makes the given comparison of the given field
behind the given join. -/
def memberValue? (join : Join) (field : String) (comparison : Comparison) :
    Join × Atom → Option String
  | (join', .compare field' comparison' value) =>
    if join' = join ∧ field' = field ∧ comparison' = comparison then some value.text else none
  | (_, .call ..) => none

/-- The values of later members of a group, if all of them make the given comparison of the given
field behind the given join. -/
def valuesOf? (join : Join) (field : String) (comparison : Comparison)
    (rest : List (Join × Atom)) : Option (List String) :=
  rest.mapM (memberValue? join field comparison)

/-- The shape that a phrase is written for. -/
def shape? : Phrase → Option Shape
  | .atom (.compare field comparison value) => some (.compare field comparison value.text)
  | .atom (.call function field value) => some (.call function field value.text)
  | .group none => some .emptySet
  | .group (some ⟨.compare field .equal value, rest⟩) =>
    (valuesOf? .or field .equal rest).map fun values => .inSet field (value.text :: values)
  | .group (some ⟨.compare field .notEqual value, rest⟩) =>
    (valuesOf? .and field .notEqual rest).map fun values => .notInSet field (value.text :: values)
  | .group (some
      ⟨.compare field .greaterOrEqual low, [(.and, .compare field' .lessOrEqual high)]⟩) =>
    if field' = field then some (.between field low.text high.text) else none
  | .group (some _) => none

end Phrase

/-- Reads a filter. -/
def readFilter? (text : List Char) : Option (Chain Shape) := do
  let ts ← Token.readAll? text
  match ← Chain.read? Phrase.read? ts with
  | (phrases, []) => phrases.mapM? Phrase.shape?
  | _ => none

/-! ## Reading phrases back -/

namespace Chain

variable {α : Type}

section
variable {readItem? : List Token → Option (α × List Token)} {itemTokens : α → List Token}

/-- Later items are read back if each of them is, and if no join follows. -/
theorem readJoined?_flatMap {rest : List (Join × α)} {left : List Token}
    (hitem : ∀ later ∈ rest, ∀ ts, readItem? (itemTokens later.2 ++ ts) = some (later.2, ts))
    (hleft : Join.read? left = none) :
    readJoined? readItem? (rest.flatMap (joinedTokens itemTokens) ++ left) = some (rest, left) := by
  induction rest with
  | nil =>
    rw [List.flatMap_nil, List.nil_append, readJoined?, hleft]
  | cons later rest ih =>
    obtain ⟨join, a⟩ := later
    obtain ⟨ha, hrest⟩ := List.forall_mem_cons.1 hitem
    simp only [List.flatMap_cons, joinedTokens, List.cons_append, List.append_assoc]
    rw [readJoined?]
    simp only [Join.read?_keyword, ha, ih hrest, Option.map_some]
    rw [if_pos (by simp only [List.length_cons, List.length_append]; omega)]

/-- A chain is read back if each of its items is, and if no join follows. -/
theorem read?_tokens_append {c : Chain α} {left : List Token}
    (hitem : ∀ a ∈ c.items, ∀ ts, readItem? (itemTokens a ++ ts) = some (a, ts))
    (hleft : Join.read? left = none) :
    read? readItem? (c.tokens itemTokens ++ left) = some (c, left) := by
  obtain ⟨first, rest⟩ := c
  obtain ⟨hfirst, hrest⟩ := List.forall_mem_cons.1 hitem
  have hrest' : ∀ later ∈ rest, ∀ ts,
      readItem? (itemTokens later.2 ++ ts) = some (later.2, ts) :=
    fun later hlater => hrest later.2 (List.mem_map_of_mem hlater)
  simp [read?, tokens, hfirst, readJoined?_flatMap hrest' hleft]

/-- A chain is read back to the end if each of its items is. -/
theorem read?_tokens {c : Chain α}
    (hitem : ∀ a ∈ c.items, ∀ ts, readItem? (itemTokens a ++ ts) = some (a, ts)) :
    read? readItem? (c.tokens itemTokens) = some (c, []) := by
  rw [← List.append_nil (c.tokens itemTokens)]
  exact read?_tokens_append hitem rfl

end

end Chain

/-- A phrase is read back whatever follows it. -/
theorem Phrase.read?_tokens_append {p : Phrase} (h : ∀ a ∈ p.atoms, a.IsProper) (ts : List Token) :
    read? (p.tokens ++ ts) = some (p, ts) := by
  match p with
  | .atom (.compare field comparison value) =>
    have hatom := Atom.read?_tokens_append (h _ (List.mem_singleton_self _)) ts
    simpa [read?, tokens, Atom.tokens] using hatom
  | .atom (.call function field value) =>
    have hatom := Atom.read?_tokens_append (h _ (List.mem_singleton_self _)) ts
    simpa [read?, tokens, Atom.tokens] using hatom
  | .group none => rfl
  | .group (some members) =>
    have hmembers : Chain.read? Atom.read? (members.tokens Atom.tokens ++ .rightParen :: ts) =
        some (members, .rightParen :: ts) :=
      Chain.read?_tokens_append (fun a ha => Atom.read?_tokens_append (h a ha)) rfl
    have hne : ∀ ts', members.tokens Atom.tokens ++ .rightParen :: ts ≠ .rightParen :: ts' := by
      intro ts'
      obtain ⟨first, rest⟩ := members
      cases first <;> simp [Chain.tokens, Atom.tokens]
    simp only [tokens, List.cons_append, List.append_assoc, List.nil_append]
    rw [read?]
    · rw [hmembers]
    · exact hne

/-! ## Telling shapes apart -/

namespace Condition

/-- The value of a member of a group is that of the literal it is written for. -/
theorem memberValue?_comparisonAtom (join : Join) (field : String) (comparison : Comparison)
    (value : Literal) :
    Phrase.memberValue? join field comparison (join, comparisonAtom field comparison value) =
      some value.render := by
  simp [Phrase.memberValue?, comparisonAtom, Literal.text_token]

/-- The values of the members of a group are those of the literals they are written for. -/
theorem valuesOf?_comparisonAtom (join : Join) (field : String) (comparison : Comparison)
    (values : List Literal) :
    Phrase.valuesOf? join field comparison
        ((values.map (comparisonAtom field comparison)).map (join, ·)) =
      some (values.map Literal.render) := by
  unfold Phrase.valuesOf?
  induction values with
  | nil => rfl
  | cons value values ih =>
    rw [List.map_cons, List.map_cons, List.mapM_cons, ih, memberValue?_comparisonAtom]
    rfl

/-- The phrase of a condition has the shape of the condition. -/
theorem shape?_phrase {c : Condition} (h : c.IsPlain) : c.phrase.shape? = c.shape? := by
  cases c with
  | compare => simp [phrase, comparisonAtom, Phrase.shape?, shape?, Literal.text_token]
  | call => simp [phrase, Phrase.shape?, shape?, Literal.text_token]
  | between => simp [phrase, comparisonAtom, Phrase.shape?, shape?, Literal.text_token]
  | inSet field values =>
    cases values with
    | nil => rfl
    | cons value values =>
      have hvalues := valuesOf?_comparisonAtom .or field .equal values
      simp only [phrase, groupPhrase, Chain.ofList?, List.map_cons, shape?]
      rw [comparisonAtom, Phrase.shape?, hvalues]
      simp [Literal.text_token]
  | notInSet field values =>
    cases values with
    | nil => rfl
    | cons value values =>
      have hvalues := valuesOf?_comparisonAtom .and field .notEqual values
      simp only [phrase, groupPhrase, Chain.ofList?, List.map_cons, shape?]
      rw [comparisonAtom, Phrase.shape?, hvalues]
      simp [Literal.text_token]
  | raw => exact h.elim

/-- A plain condition has a shape. -/
theorem isSome_shape? {c : Condition} (h : c.IsPlain) : c.shape?.isSome := by
  cases c with
  | compare | call | between => rfl
  | inSet _ values | notInSet _ values => cases values <;> rfl
  | raw => exact h.elim

end Condition

/-- If every item can be changed, the chain can be, and keeps its joins. -/
theorem Chain.exists_mapM? {α β : Type} {f : α → Option β} {c : Chain α}
    (h : ∀ a ∈ c.items, (f a).isSome) :
    ∃ d, c.mapM? f = some d ∧ d.joins = c.joins ∧ d.items.map some = c.items.map f := by
  obtain ⟨first, rest⟩ := c
  obtain ⟨hfirst, hrest⟩ := List.forall_mem_cons.1 h
  obtain ⟨b, hb⟩ := Option.isSome_iff_exists.1 hfirst
  suffices hlater : ∃ l, (rest.mapM fun (join, a) => (f a).map fun b => (join, b)) = some l ∧
      l.map Prod.fst = rest.map Prod.fst ∧
      (l.map Prod.snd).map some = (rest.map Prod.snd).map f by
    obtain ⟨l, hl, hjoins, hitems⟩ := hlater
    refine ⟨⟨b, l⟩, ?_, hjoins, ?_⟩
    · simp [mapM?, hb, hl]
    · simp only [items, List.map_cons, hb]
      rw [hitems]
  clear h hfirst hb
  induction rest with
  | nil => exact ⟨[], rfl, rfl, rfl⟩
  | cons later rest ih =>
    obtain ⟨join, a⟩ := later
    obtain ⟨ha, hrest⟩ := List.forall_mem_cons.1 hrest
    obtain ⟨b, hb⟩ := Option.isSome_iff_exists.1 ha
    obtain ⟨l, hl, hjoins, hitems⟩ := ih hrest
    refine ⟨(join, b) :: l, ?_, ?_, ?_⟩
    · simp [List.mapM_cons, hb, hl]
    · simp [hjoins]
    · simp only [List.map_cons, hb]
      rw [hitems]

/-! ## Reading filters back -/

/-- The text of a filter of plain conditions is read as conditions of the same shapes with the same
joins. -/
theorem ODataQuery.readFilter?_filterText {q : ODataQuery} {first : FilterExpr}
    {rest : List FilterExpr} (hfilters : q.filters = first :: rest)
    (hplain : ∀ e ∈ q.filters, e.condition.IsPlain) :
    ∃ text shapes, q.filterText? = some text ∧ readFilter? text.toList = some shapes ∧
      shapes.joins = rest.map (fun e => e.join.getD .and) ∧
      shapes.items.map some = q.filters.map fun e => e.condition.shape? := by
  obtain ⟨text, htext, htokens⟩ := readAll?_filterText hfilters hplain
  have hread : Chain.read? Phrase.read? ((phrases first rest).tokens Phrase.tokens) =
      some (phrases first rest, []) :=
    Chain.read?_tokens fun p hp =>
      Phrase.read?_tokens_append (isProper_of_mem_phrases hfilters hplain p hp)
  have hshape : (phrases first rest).items.map Phrase.shape? =
      q.filters.map fun e => e.condition.shape? := by
    rw [items_phrases, ← hfilters, List.map_map]
    exact List.map_congr_left fun e he => Condition.shape?_phrase (hplain e he)
  have hsome : ∀ p ∈ (phrases first rest).items, p.shape?.isSome := by
    rw [items_phrases, ← hfilters, List.forall_mem_map]
    intro e he
    rw [Condition.shape?_phrase (hplain e he)]
    exact Condition.isSome_shape? (hplain e he)
  obtain ⟨shapes, hshapes, hjoins, hitems⟩ := Chain.exists_mapM? hsome
  refine ⟨text, shapes, htext, ?_, ?_, ?_⟩
  · simp [readFilter?, htokens, hread, hshapes]
  · rw [hjoins, joins_phrases]
  · rw [hitems, hshape]

/-- A text that looks like the end of a literal and a further condition is read as one literal. -/
theorem readFilter?_hostile_text :
    let q := ((ODataQuery.empty.whereEq "CardName" "x' or 1 eq 1").orWhereExpr
      (.inSet "Status" ["a, b", "') or (", ""])).whereExpr
      (.between "DocTotal" (-5 : Int64) (500 : Int64))
    ∃ text shapes, q.filterText? = some text ∧ readFilter? text.toList = some shapes ∧
      shapes.joins = [.or, .and] ∧
      shapes.items.map some =
        [some (.compare "CardName" .equal "'x'' or 1 eq 1'"),
         some (.inSet "Status" ["'a, b'", "''') or ('", "''"]),
         some (.between "DocTotal" "-5" "500")] := by
  intro q
  obtain ⟨text, shapes, htext, hread, hjoins, hitems⟩ :=
    q.readFilter?_filterText rfl (by decide)
  exact ⟨text, shapes, htext, hread, hjoins, hitems.trans (by decide)⟩

end ODataSession
