import ODataSession.Proofs.Query.Token
import ODataSession.Query.Options

/-!
# The phrases of filters

A filter is a chain of phrases, and a phrase is an atom, which is a comparison or a call, or a group
of atoms between parentheses. `Condition.phrase` is the phrase that a condition is written as, and
`ODataQuery.readAll?_filterText` says that the text of a filter has the tokens of its phrases and no
others, whatever the literals hold. A statement about how a filter is read therefore needs to speak
of tokens only.
-/

namespace ODataSession

/-! ## Atoms -/

/-- A comparison or a call as it stands in a filter. -/
inductive Atom
  | compare (field : String) (comparison : Comparison) (value : Token)
  | call (function : StringFunction) (field : String) (value : Token)
  deriving DecidableEq, Repr, Inhabited

namespace Atom

/-- The field of an atom. -/
def field : Atom → String
  | .compare field _ _ | .call _ field _ => field

/-- The value that the field is compared with. -/
def value : Atom → Token
  | .compare _ _ value | .call _ _ value => value

/-- An atom on a word, with a word or a quoted text for a value. -/
structure IsProper (a : Atom) : Prop where
  isWord_field : IsWord a.field
  isProper_value : a.value.IsProper
  isMark_value : a.value.isMark = false

/-- The tokens of an atom. -/
def tokens : Atom → List Token
  | .compare field comparison value =>
    [.word field, .space, .word comparison.keyword, .space, value]
  | .call function field value =>
    [.word function.keyword, .leftParen, .word field, .comma, .space, value, .rightParen]

/-- The tokens of a proper atom are proper. -/
theorem IsProper.tokens {a : Atom} (h : a.IsProper) : ∀ t ∈ a.tokens, t.IsProper := by
  obtain ⟨hfield, hvalue, -⟩ := h
  cases a with
  | compare field comparison value =>
    have hkeyword : IsWord comparison.keyword := by cases comparison <;> decide
    simp only [Atom.tokens, List.forall_mem_cons]
    exact ⟨hfield, trivial, hkeyword, trivial, hvalue, nofun⟩
  | call function field value =>
    have hkeyword : IsWord function.keyword := by cases function <;> decide
    simp only [Atom.tokens, List.forall_mem_cons]
    exact ⟨hkeyword, trivial, hfield, trivial, trivial, hvalue, trivial, nofun⟩

/-- One of any two neighbours in an atom is a mark. -/
theorem isChain_tokens (a : Atom) : a.tokens.IsChain Token.Adjoins := by
  cases a with
  | compare =>
    exact .cons_cons (.inr rfl) (.cons_cons (.inl rfl) (.cons_cons (.inr rfl)
      (.cons_cons (.inl rfl) (.singleton _))))
  | call =>
    exact .cons_cons (.inr rfl) (.cons_cons (.inl rfl) (.cons_cons (.inr rfl)
      (.cons_cons (.inl rfl) (.cons_cons (.inl rfl) (.cons_cons (.inr rfl) (.singleton _))))))

end Atom

/-- The comparison with a keyword. -/
def Comparison.ofKeyword? (keyword : String) : Option Comparison :=
  [equal, notEqual, greaterThan, greaterOrEqual, lessThan, lessOrEqual].find?
    (·.keyword = keyword)

/-- The keyword of a comparison denotes it. -/
@[simp] theorem Comparison.ofKeyword?_keyword (c : Comparison) : ofKeyword? c.keyword = some c := by
  cases c <;> decide

/-- The string function with a keyword. -/
def StringFunction.ofKeyword? (keyword : String) : Option StringFunction :=
  [contains, startsWith, endsWith].find? (·.keyword = keyword)

/-- The keyword of a string function denotes it. -/
@[simp] theorem StringFunction.ofKeyword?_keyword (f : StringFunction) :
    ofKeyword? f.keyword = some f := by
  cases f <;> decide

/-- Reads an atom off the front of some tokens. A word is the name of a function if a parenthesis
follows it, and otherwise a field. -/
def Atom.read? : List Token → Option (Atom × List Token)
  | .word function :: .leftParen :: .word field :: .comma :: .space :: value :: .rightParen ::
      ts =>
    if value.isMark then none
    else (StringFunction.ofKeyword? function).map fun function => (.call function field value, ts)
  | .word field :: .space :: .word comparison :: .space :: value :: ts =>
    if value.isMark then none
    else (Comparison.ofKeyword? comparison).map fun comparison =>
      (.compare field comparison value, ts)
  | _ => none

/-- An atom is read back whatever follows it. -/
theorem Atom.read?_tokens_append {a : Atom} (h : a.IsProper) (ts : List Token) :
    read? (a.tokens ++ ts) = some (a, ts) := by
  cases a with
  | compare field comparison value =>
    have hmark : value.isMark = false := h.isMark_value
    simp [tokens, read?, hmark]
  | call function field value =>
    have hmark : value.isMark = false := h.isMark_value
    simp [tokens, read?, hmark]

/-! ## Chains -/

/-- Items with a join between any two neighbours. -/
structure Chain (α : Type) where
  first : α
  rest : List (Join × α)
  deriving DecidableEq, Repr

/-- The join with a keyword. -/
def Join.ofKeyword? (keyword : String) : Option Join :=
  [and, or].find? (·.keyword = keyword)

/-- Reads a join off the front of some tokens. -/
def Join.read? : List Token → Option (Join × List Token)
  | .space :: .word keyword :: .space :: ts => (ofKeyword? keyword).map fun join => (join, ts)
  | _ => none

/-- A join with spaces around it is read back. -/
@[simp] theorem Join.read?_keyword (join : Join) (ts : List Token) :
    read? (.space :: .word join.keyword :: .space :: ts) = some (join, ts) := by
  cases join <;> rfl

namespace Chain

variable {α : Type}

/-- The items of a chain in order. -/
def items (c : Chain α) : List α :=
  c.first :: c.rest.map Prod.snd

/-- The joins of a chain in order. -/
def joins (c : Chain α) : List Join :=
  c.rest.map Prod.fst

/-- The chain of some items with the same join everywhere, if there is any item. -/
def ofList? (join : Join) : List α → Option (Chain α)
  | [] => none
  | a :: as => some ⟨a, as.map (join, ·)⟩

section
variable (itemTokens : α → List Token)

/-- The tokens of a later item, behind its join. -/
def joinedTokens : Join × α → List Token
  | (join, a) => .space :: .word join.keyword :: .space :: itemTokens a

/-- The tokens of a chain. -/
def tokens (c : Chain α) : List Token :=
  itemTokens c.first ++ c.rest.flatMap (joinedTokens itemTokens)

/-- The tokens of a chain are proper if those of its items are. -/
theorem isProper_of_mem_tokens {c : Chain α}
    (h : ∀ a ∈ c.items, ∀ t ∈ itemTokens a, t.IsProper) :
    ∀ t ∈ c.tokens itemTokens, t.IsProper := by
  obtain ⟨hfirst, hrest⟩ := List.forall_mem_cons.1 h
  intro t ht
  rcases List.mem_append.1 ht with ht | ht
  · exact hfirst t ht
  · obtain ⟨⟨join, a⟩, ha, ht⟩ := List.mem_flatMap.1 ht
    have hkeyword : IsWord join.keyword := by cases join <;> decide
    have hjoined : ∀ t ∈ joinedTokens itemTokens (join, a), t.IsProper := by
      simp only [joinedTokens, List.forall_mem_cons]
      exact ⟨trivial, hkeyword, trivial, hrest a (List.mem_map_of_mem ha)⟩
    exact hjoined t ht

/-- One of any two neighbours in a chain is a mark if that is so in its items. -/
theorem isChain_tokens (h : ∀ a, (itemTokens a).IsChain Token.Adjoins) (c : Chain α) :
    (c.tokens itemTokens).IsChain Token.Adjoins := by
  obtain ⟨first, rest⟩ := c
  unfold tokens
  induction rest generalizing first with
  | nil => simpa using h first
  | cons later rest ih =>
    obtain ⟨join, a⟩ := later
    rw [List.flatMap_cons, joinedTokens]
    refine Token.isChain_append_of_isMark rfl (h first) ?_
    exact .cons_cons (.inl rfl) (.cons_cons (.inr rfl) (Token.isChain_cons_of_isMark rfl (ih a)))

end

end Chain

/-! ## Phrases -/

/-- What stands between two joins of a filter: an atom, or a group of atoms, which may be empty. -/
inductive Phrase
  | atom (a : Atom)
  | group (members : Option (Chain Atom))
  deriving DecidableEq, Repr

namespace Phrase

/-- The atoms of a phrase in order. -/
def atoms : Phrase → List Atom
  | .atom a => [a]
  | .group none => []
  | .group (some members) => members.items

/-- The tokens of a phrase. -/
def tokens : Phrase → List Token
  | .atom a => a.tokens
  | .group none => [.leftParen, .rightParen]
  | .group (some members) => .leftParen :: (members.tokens Atom.tokens ++ [.rightParen])

/-- The tokens of a phrase are proper if its atoms are. -/
theorem isProper_of_mem_tokens {p : Phrase} (h : ∀ a ∈ p.atoms, a.IsProper) :
    ∀ t ∈ p.tokens, t.IsProper := by
  match p with
  | .atom a => exact (h a (List.mem_singleton_self a)).tokens
  | .group none =>
    simp only [tokens, List.forall_mem_cons]
    exact ⟨trivial, trivial, nofun⟩
  | .group (some members) =>
    have hmembers := Chain.isProper_of_mem_tokens Atom.tokens fun a ha => (h a ha).tokens
    simp only [tokens, List.forall_mem_cons, List.forall_mem_append]
    exact ⟨trivial, hmembers, trivial, nofun⟩

/-- One of any two neighbours in a phrase is a mark. -/
theorem isChain_tokens : ∀ p : Phrase, p.tokens.IsChain Token.Adjoins
  | .atom a => a.isChain_tokens
  | .group none => .cons_cons (.inl rfl) (.singleton _)
  | .group (some members) =>
    Token.isChain_cons_of_isMark rfl (Token.isChain_append_of_isMark rfl
      (members.isChain_tokens Atom.tokens Atom.isChain_tokens) (.singleton _))

end Phrase

/-! ## The phrases of conditions -/

namespace Condition

/-- A condition other than a raw fragment on a field that is a word. -/
def IsPlain : Condition → Prop
  | .compare field _ _ | .call _ field _ | .between field _ _ | .inSet field _
  | .notInSet field _ => IsWord field
  | .raw _ => False

instance : ∀ c : Condition, Decidable c.IsPlain
  | .compare field _ _ | .call _ field _ | .between field _ _ | .inSet field _
  | .notInSet field _ => inferInstanceAs (Decidable (IsWord field))
  | .raw _ => inferInstanceAs (Decidable False)

/-- The comparison of a field with a literal. -/
def comparisonAtom (field : String) (comparison : Comparison) (value : Literal) : Atom :=
  .compare field comparison value.token

/-- The group of the comparisons of a field with each of several literals. -/
def groupPhrase (field : String) (comparison : Comparison) (join : Join) (values : List Literal) :
    Phrase :=
  .group (Chain.ofList? join (values.map (comparisonAtom field comparison)))

/-- The phrase that a condition is written as. A raw fragment need not be a phrase; it is given the
empty group. -/
def phrase : Condition → Phrase
  | .compare field comparison value => .atom (comparisonAtom field comparison value)
  | .call function field value => .atom (.call function field value.token)
  | .between field low high =>
    .group (some ⟨comparisonAtom field .greaterOrEqual low,
      [(.and, comparisonAtom field .lessOrEqual high)]⟩)
  | .inSet field values => groupPhrase field .equal .or values
  | .notInSet field values => groupPhrase field .notEqual .and values
  | .raw _ => .group none

/-- A comparison is written as its tokens. -/
theorem toList_comparisonText (field : String) (comparison : Comparison) (value : Literal) :
    (comparisonText field comparison value).toList =
      (comparisonAtom field comparison value).tokens.flatMap Token.chars := by
  simp [comparisonText, comparisonAtom, Atom.tokens]

/-- Comparisons with one word between them are written as the tokens of their chain. -/
theorem toList_intercalate_comparisonText (field : String) (comparison : Comparison) (join : Join)
    (value : Literal) (values : List Literal) :
    ((" " ++ join.keyword ++ " ").intercalate
        ((value :: values).map (comparisonText field comparison))).toList =
      (Chain.tokens Atom.tokens ⟨comparisonAtom field comparison value,
        (values.map (comparisonAtom field comparison)).map (join, ·)⟩).flatMap Token.chars := by
  induction values generalizing value with
  | nil => simp [Chain.tokens, toList_comparisonText]
  | cons next values ih =>
    rw [List.map_cons, List.map_cons, String.intercalate_cons_cons, ← List.map_cons,
      String.toList_append, String.toList_append, ih next]
    simp [Chain.tokens, Chain.joinedTokens, toList_comparisonText]

/-- A group is written as its tokens. -/
theorem toList_groupText (field : String) (comparison : Comparison) (join : Join)
    (values : List Literal) :
    (groupText field comparison join values).toList =
      (groupPhrase field comparison join values).tokens.flatMap Token.chars := by
  cases values with
  | nil => simp [groupText, groupPhrase, Chain.ofList?, Phrase.tokens]
  | cons value values =>
    rw [groupText, String.toList_append, String.toList_append, toList_intercalate_comparisonText]
    simp [groupPhrase, Chain.ofList?, Phrase.tokens]

/-- A condition is written as the tokens of its phrase. -/
theorem toList_render {c : Condition} (h : c.IsPlain) :
    c.render.toList = c.phrase.tokens.flatMap Token.chars := by
  cases c with
  | compare => exact toList_comparisonText _ _ _
  | call => simp [render, phrase, Phrase.tokens, Atom.tokens]
  | between =>
    simp [render, phrase, Phrase.tokens, Chain.tokens, Chain.joinedTokens, toList_comparisonText,
      Join.keyword]
  | inSet => exact toList_groupText _ _ _ _
  | notInSet => exact toList_groupText _ _ _ _
  | raw => exact h.elim

/-- A comparison of a word with a literal is proper. -/
theorem isProper_comparisonAtom {field : String} (h : IsWord field) (comparison : Comparison)
    (value : Literal) : (comparisonAtom field comparison value).IsProper :=
  ⟨h, value.isProper_token, value.isMark_token⟩

/-- The atoms of a group are proper. -/
theorem isProper_of_mem_groupPhrase {field : String} (h : IsWord field) (comparison : Comparison)
    (join : Join) (values : List Literal) :
    ∀ a ∈ (groupPhrase field comparison join values).atoms, a.IsProper := by
  have hatoms : (groupPhrase field comparison join values).atoms =
      values.map (comparisonAtom field comparison) := by
    cases values with
    | nil => rfl
    | cons => simp [groupPhrase, Chain.ofList?, Phrase.atoms, Chain.items]
  rw [hatoms]
  intro a ha
  obtain ⟨value, -, rfl⟩ := List.mem_map.1 ha
  exact isProper_comparisonAtom h comparison value

/-- The atoms of a plain condition are proper. -/
theorem IsPlain.isProper {c : Condition} (h : c.IsPlain) : ∀ a ∈ c.phrase.atoms, a.IsProper := by
  cases c with
  | compare =>
    exact List.forall_mem_singleton.2 (isProper_comparisonAtom h _ _)
  | call _ _ value =>
    exact List.forall_mem_singleton.2 ⟨h, value.isProper_token, value.isMark_token⟩
  | between =>
    exact List.forall_mem_cons.2 ⟨isProper_comparisonAtom h _ _,
      List.forall_mem_singleton.2 (isProper_comparisonAtom h _ _)⟩
  | inSet => exact isProper_of_mem_groupPhrase h _ _ _
  | notInSet => exact isProper_of_mem_groupPhrase h _ _ _
  | raw => exact h.elim

end Condition

/-! ## The phrases of filters -/

namespace ODataQuery

section
variable (first : FilterExpr) (rest : List FilterExpr)

/-- The phrases of a chain of expressions, which a later expression without a join enters with
`and`. -/
def phrases : Chain Phrase :=
  ⟨first.condition.phrase, rest.map fun e => (e.join.getD .and, e.condition.phrase)⟩

/-- The phrases of a chain are those of its expressions in order. -/
@[simp] theorem items_phrases :
    (phrases first rest).items = (first :: rest).map fun e => e.condition.phrase := by
  simp [phrases, Chain.items]

/-- The joins of a chain are those of its later expressions in order. -/
@[simp] theorem joins_phrases :
    (phrases first rest).joins = rest.map fun e => e.join.getD .and := by
  simp [phrases, Chain.joins]

end

section
variable {q : ODataQuery} {first : FilterExpr} {rest : List FilterExpr}
  (hfilters : q.filters = first :: rest) (hplain : ∀ e ∈ q.filters, e.condition.IsPlain)
include hfilters hplain

/-- The atoms of a filter of plain conditions are proper. -/
theorem isProper_of_mem_phrases : ∀ p ∈ (phrases first rest).items, ∀ a ∈ p.atoms, a.IsProper := by
  rw [items_phrases, ← hfilters, List.forall_mem_map]
  exact fun e he => (hplain e he).isProper

/-- A filter of plain conditions is written as the tokens of their phrases. -/
theorem exists_filterText :
    ∃ text, q.filterText? = some text ∧
      text.toList = ((phrases first rest).tokens Phrase.tokens).flatMap Token.chars := by
  rw [hfilters] at hplain
  obtain ⟨hfirst, hrest⟩ := List.forall_mem_cons.1 hplain
  refine ⟨_, by rw [filterText?, hfilters], ?_⟩
  rw [String.toList_append, String.toList_join, FilterExpr.render, Condition.toList_render hfirst]
  simp only [phrases, Chain.tokens, List.flatMap_append, List.flatMap_map, List.flatMap_assoc]
  congr 1
  refine List.flatMap_congr fun e he => ?_
  simp [joinedText, Chain.joinedTokens, FilterExpr.render, Condition.toList_render (hrest e he)]

/-- The text of a filter of plain conditions has the tokens of their phrases. -/
theorem readAll?_filterText :
    ∃ text, q.filterText? = some text ∧
      Token.readAll? text.toList = some ((phrases first rest).tokens Phrase.tokens) := by
  obtain ⟨text, htext, hchars⟩ := exists_filterText hfilters hplain
  refine ⟨text, htext, ?_⟩
  rw [hchars]
  exact Token.readAll?_flatMap_chars
    (Chain.isProper_of_mem_tokens _ fun p hp =>
      Phrase.isProper_of_mem_tokens (isProper_of_mem_phrases hfilters hplain p hp))
    (Chain.isChain_tokens _ Phrase.isChain_tokens _)

end

end ODataQuery

end ODataSession
