import Mathlib.Data.List.SplitBy
import Mathlib.Data.List.TakeWhile
import ODataSession.Proofs.Query.Phrase

/-!
# What filters mean

The text of a filter is read by the grammar of the receiving side, in which `and` binds tighter than
`or` and parentheses group: a disjunction is conjunctions with `or` between them, a conjunction is
factors with `and` between them, and a factor is an atom or a disjunction in parentheses. The
grammar nests without bound and knows nothing of ranges and sets. The formula that is read from the
text of a chain holds exactly if all conditions of some run hold, where a run is as many neighbours
of the chain as are joined by `and` (`ODataQuery.holds_filterText`). So the words inside a group
never regroup with the words between the conditions.
-/

namespace ODataSession

/-! ## Formulas -/

/-- What a filter says of its atoms. -/
inductive Formula
  | atom (a : Atom)
  | and (left right : Formula)
  | or (left right : Formula)
  deriving DecidableEq, Repr

namespace Formula

/-- Whether a formula holds when each atom is true or false. -/
def holds (truth : Atom → Bool) : Formula → Bool
  | .atom a => truth a
  | .and left right => left.holds truth && right.holds truth
  | .or left right => left.holds truth || right.holds truth

mutual

/-- Reads an atom, or a disjunction in parentheses. -/
def readFactor? (ts : List Token) : Option (Formula × List Token) :=
  match ts with
  | .leftParen :: inside =>
    match readDisjunction? inside with
    | some (φ, .rightParen :: left) => some (φ, left)
    | _ => none
  | ts => (Atom.read? ts).map fun (a, left) => (.atom a, left)
termination_by (ts.length, 0)

/-- Reads factors as long as `and` follows. What follows is shorter than the whole. -/
def readConjunction? (ts : List Token) : Option (Formula × List Token) :=
  match readFactor? ts with
  | none => none
  | some (φ, left) =>
    match Join.read? left with
    | some (.and, behind) =>
      if behind.length < ts.length then
        (readConjunction? behind).map fun (ψ, left) => (.and φ ψ, left)
      else none
    | _ => some (φ, left)
termination_by (ts.length, 1)

/-- Reads conjunctions as long as `or` follows. What follows is shorter than the whole. -/
def readDisjunction? (ts : List Token) : Option (Formula × List Token) :=
  match readConjunction? ts with
  | none => none
  | some (φ, left) =>
    match Join.read? left with
    | some (.or, behind) =>
      if behind.length < ts.length then
        (readDisjunction? behind).map fun (ψ, left) => (.or φ ψ, left)
      else none
    | _ => some (φ, left)
termination_by (ts.length, 2)

end

/-- Reads a text as a formula. -/
def read? (text : List Char) : Option Formula := do
  let ts ← Token.readAll? text
  match ← readDisjunction? ts with
  | (φ, []) => return φ
  | _ => none

end Formula

/-! ## Runs -/

section
variable {α : Type} (continues p : α → Bool)

/-- The first run of a list is its first element and those that continue it. -/
theorem any_splitBy_cons (a : α) (l : List α) :
    ((a :: l).splitBy fun _ b => continues b).any (·.all p) =
      ((p a && (l.takeWhile continues).all p) ||
        ((l.dropWhile continues).splitBy fun _ b => continues b).any (·.all p)) := by
  have hcut : a :: l = (a :: l.takeWhile continues) ++ l.dropWhile continues := by
    rw [List.cons_append, List.takeWhile_append_dropWhile]
  have hrun : (a :: l.takeWhile continues).IsChain fun _ b => continues b = true :=
    List.Pairwise.isChain (List.pairwise_cons.2 ⟨fun _ hb => List.mem_takeWhile_imp hb,
      List.pairwise_of_forall_mem_list fun _ _ _ hb => List.mem_takeWhile_imp hb⟩)
  have hends : ∀ b ∈ (l.dropWhile continues).head?, continues b = false := by
    intro b hb
    simpa [Option.mem_def.1 hb] using List.head?_dropWhile_not continues l
  rw [hcut, List.splitBy_append fun _ _ b hb => hends b hb,
    List.splitBy_of_isChain (List.cons_ne_nil _ _) hrun, List.any_append]
  simp

/-- A list that goes on to its end is one run. -/
theorem any_splitBy_of_forall {l : List α} (h : ∀ b ∈ l, continues b = true) (a : α) :
    ((a :: l).splitBy fun _ b => continues b).any (·.all p) = (a :: l).all p := by
  simp [any_splitBy_cons, List.takeWhile_eq_self_iff.2 h, List.dropWhile_eq_nil_iff.2 h]

/-- A list that never goes on has a run for each element. -/
theorem any_splitBy_of_forall_not {l : List α} (h : ∀ b ∈ l, continues b = false) (a : α) :
    ((a :: l).splitBy fun _ b => continues b).any (·.all p) = (a :: l).any p := by
  induction l generalizing a with
  | nil => simp [any_splitBy_cons]
  | cons b l ih =>
    obtain ⟨hb, hl⟩ := List.forall_mem_cons.1 h
    rw [any_splitBy_cons, List.takeWhile_cons_of_neg (by simp [hb]),
      List.dropWhile_cons_of_neg (by simp [hb]), ih hl]
    simp

end

/-! ## Reading chains -/

namespace Formula

/-- Tokens that are read as a factor of a given meaning, whatever follows them. -/
def IsFactor (ts : List Token) (value : (Atom → Bool) → Bool) : Prop :=
  ∀ left, ∃ φ, readFactor? (ts ++ left) = some (φ, left) ∧ ∀ truth, φ.holds truth = value truth

section
variable {α : Type} (join : α → Join) (itemTokens : α → List Token)
  (value : (Atom → Bool) → α → Bool)

/-- The tokens of a later item, behind its join. -/
def laterTokens (a : α) : List Token :=
  Chain.joinedTokens itemTokens (join a, a)

variable {left : List Token} {a : α} {l : List α}

/-- The items of the first run are read as a conjunction, which ends at the first `or`. -/
theorem exists_readConjunction? (hitems : ∀ b ∈ a :: l, IsFactor (itemTokens b) (value · b))
    (hleft : Join.read? left = none) :
    ∃ φ, readConjunction? (itemTokens a ++ (l.flatMap (laterTokens join itemTokens) ++ left)) =
        some (φ, (l.dropWhile (join · = .and)).flatMap (laterTokens join itemTokens) ++ left) ∧
      ∀ truth, φ.holds truth =
        (value truth a && (l.takeWhile (join · = .and)).all (value truth)) := by
  induction l generalizing a with
  | nil =>
    obtain ⟨φ, hread, hholds⟩ := hitems a (List.mem_singleton_self a) left
    refine ⟨φ, ?_, fun truth => by simp [hholds]⟩
    rw [List.flatMap_nil, List.nil_append, readConjunction?, hread]
    simp [hleft]
  | cons b l ih =>
    obtain ⟨ha, hl⟩ := List.forall_mem_cons.1 hitems
    obtain ⟨φ, hread, hholds⟩ := ha (laterTokens join itemTokens b ++
      (l.flatMap (laterTokens join itemTokens) ++ left))
    rw [List.flatMap_cons, List.append_assoc, readConjunction?, hread]
    cases hjoin : join b with
    | and =>
      obtain ⟨ψ, hread', hholds'⟩ := ih hl
      refine ⟨.and φ ψ, ?_, fun truth => by simp [holds, hholds, hholds', hjoin]⟩
      simp only [laterTokens, Chain.joinedTokens, hjoin, List.cons_append, Join.read?_keyword]
      rw [if_pos (by simp only [List.length_append, List.length_cons]; omega), hread',
        List.dropWhile_cons_of_pos (by simp [hjoin])]
      rfl
    | or =>
      refine ⟨φ, ?_, fun truth => by simp [hholds, hjoin]⟩
      simp [laterTokens, Chain.joinedTokens, hjoin]

/-- A chain is read as a disjunction of its runs. -/
theorem exists_readDisjunction? (hitems : ∀ b ∈ a :: l, IsFactor (itemTokens b) (value · b))
    (hleft : Join.read? left = none) :
    ∃ φ, readDisjunction? (itemTokens a ++ (l.flatMap (laterTokens join itemTokens) ++ left)) =
        some (φ, left) ∧
      ∀ truth, φ.holds truth =
        ((a :: l).splitBy fun _ b => join b = .and).any (·.all (value truth)) := by
  induction hn : l.length using Nat.strong_induction_on generalizing a l with
  | _ n ih =>
    obtain ⟨φ, hread, hholds⟩ := exists_readConjunction? join itemTokens value hitems hleft
    rw [readDisjunction?, hread]
    cases hdrop : l.dropWhile (join · = .and) with
    | nil =>
      refine ⟨φ, by simp [hleft], fun truth => ?_⟩
      rw [hholds, any_splitBy_cons (join · = .and), hdrop]
      simp
    | cons b later =>
      have hjoin : join b = .or := by
        have hnot := List.head?_dropWhile_not (join · = .and) l
        rw [hdrop] at hnot
        cases h : join b with
        | and => simp [h] at hnot
        | or => rfl
      obtain ⟨run, rfl⟩ : b :: later <:+ l := hdrop ▸ List.dropWhile_suffix _
      obtain ⟨ψ, hread', hholds'⟩ := ih later.length
        (by rw [← hn, List.length_append, List.length_cons]; omega)
        (fun c hc => hitems c (List.mem_cons_of_mem a (List.mem_append_right run hc))) rfl
      refine ⟨.or φ ψ, ?_, fun truth => ?_⟩
      · simp only [List.flatMap_append, List.flatMap_cons, laterTokens, Chain.joinedTokens, hjoin,
          List.cons_append, List.append_assoc, Join.read?_keyword]
        rw [if_pos (by simp only [List.length_append, List.length_cons]; omega), hread']
        rfl
      · rw [holds, hholds, hholds', any_splitBy_cons (join · = .and) (value truth) a, hdrop]

end

/-! ## Phrases as factors -/

/-- A factor of a meaning is a factor of any meaning that agrees with it. -/
theorem IsFactor.congr {ts : List Token} {value value' : (Atom → Bool) → Bool}
    (h : IsFactor ts value) (heq : ∀ truth, value truth = value' truth) : IsFactor ts value' :=
  funext heq ▸ h

/-- An atom is a factor. -/
theorem isFactor_atom {a : Atom} (h : a.IsProper) : IsFactor a.tokens fun truth => truth a := by
  intro left
  refine ⟨.atom a, ?_, fun _ => rfl⟩
  have hread := Atom.read?_tokens_append h left
  cases a with
  | compare | call =>
    simp only [Atom.tokens, List.cons_append, List.nil_append] at hread ⊢
    rw [readFactor?, hread]
    · rfl
    · intro _ h
      cases h

/-- A group with members is a factor, which means what its runs of members mean. -/
theorem isFactor_group {first : Atom} {rest : List (Join × Atom)} (hfirst : first.IsProper)
    (hrest : ∀ member ∈ rest, member.2.IsProper) :
    IsFactor (Phrase.group (some ⟨first, rest⟩)).tokens fun truth =>
      (((Join.and, first) :: rest).splitBy fun _ member => member.1 = .and).any
        (·.all fun member => truth member.2) := by
  intro left
  have hmembers : ∀ member ∈ (Join.and, first) :: rest,
      IsFactor member.2.tokens fun truth => truth member.2 :=
    List.forall_mem_cons.2
      ⟨isFactor_atom hfirst, fun member hmember => isFactor_atom (hrest member hmember)⟩
  obtain ⟨φ, hread, hholds⟩ := exists_readDisjunction? Prod.fst (fun member => member.2.tokens)
    (fun truth member => truth member.2) hmembers (rfl : Join.read? (.rightParen :: left) = none)
  refine ⟨φ, ?_, hholds⟩
  have hread' : readDisjunction? (first.tokens ++
      (rest.flatMap (Chain.joinedTokens Atom.tokens) ++ .rightParen :: left)) =
        some (φ, .rightParen :: left) := hread
  simp only [Phrase.tokens, Chain.tokens, List.cons_append, List.append_assoc, List.nil_append]
  rw [readFactor?, hread']

end Formula

/-! ## What conditions mean -/

namespace Condition

/-- Whether a condition holds when each atom is true or false: a range holds if the field lies
within both bounds, a set if the field equals some value, and the complement of a set if it differs
from every value. A raw fragment is not looked into. -/
def holds (truth : Atom → Bool) : Condition → Bool
  | .compare field comparison value => truth (comparisonAtom field comparison value)
  | .call function field value => truth (.call function field value.token)
  | .between field low high =>
    truth (comparisonAtom field .greaterOrEqual low) &&
      truth (comparisonAtom field .lessOrEqual high)
  | .inSet field values => values.any fun value => truth (comparisonAtom field .equal value)
  | .notInSet field values => values.all fun value => truth (comparisonAtom field .notEqual value)
  | .raw _ => false

/-- A condition that is no set without values. -/
def HasValues : Condition → Prop
  | .inSet _ values | .notInSet _ values => values ≠ []
  | _ => True

instance : ∀ c : Condition, Decidable c.HasValues
  | .inSet _ values | .notInSet _ values => inferInstanceAs (Decidable (values ≠ []))
  | .compare .. | .call .. | .between .. | .raw _ => inferInstanceAs (Decidable True)

/-- A group for a set is a factor, which means what its runs of comparisons mean. -/
theorem isFactor_groupPhrase {field : String} (h : IsWord field) (comparison : Comparison)
    (join : Join) (value : Literal) (values : List Literal) :
    Formula.IsFactor (groupPhrase field comparison join (value :: values)).tokens fun truth =>
      (((Join.and, comparisonAtom field comparison value) ::
          (values.map (comparisonAtom field comparison)).map (join, ·)).splitBy
        fun _ member => member.1 = .and).any (·.all fun member => truth member.2) := by
  refine Formula.isFactor_group (isProper_comparisonAtom h comparison value) ?_
  simp only [List.map_map, List.forall_mem_map]
  exact fun value _ => isProper_comparisonAtom h comparison value

/-- The phrase of a condition is a factor, which means what the condition means. -/
theorem isFactor_phrase {c : Condition} (hplain : c.IsPlain) (hvalues : c.HasValues) :
    Formula.IsFactor c.phrase.tokens fun truth => c.holds truth := by
  cases c with
  | compare => exact Formula.isFactor_atom (isProper_comparisonAtom hplain _ _)
  | call function field value =>
    have hproper : (Atom.call function field value.token).IsProper :=
      ⟨hplain, value.isProper_token, value.isMark_token⟩
    exact Formula.isFactor_atom hproper
  | between field low high =>
    have hrest : ∀ member ∈ [(Join.and, comparisonAtom field .lessOrEqual high)],
        member.2.IsProper :=
      List.forall_mem_singleton.2 (isProper_comparisonAtom hplain _ _)
    refine (Formula.isFactor_group (isProper_comparisonAtom hplain _ low) hrest).congr
      fun truth => ?_
    exact (any_splitBy_of_forall _ _ (by simp) _).trans (by simp [holds])
  | inSet field values =>
    obtain ⟨value, values, rfl⟩ := List.exists_cons_of_ne_nil hvalues
    refine (isFactor_groupPhrase hplain .equal .or value values).congr fun truth => ?_
    exact (any_splitBy_of_forall_not _ _ (by simp) _).trans
      (by simp [holds, Function.comp_def])
  | notInSet field values =>
    obtain ⟨value, values, rfl⟩ := List.exists_cons_of_ne_nil hvalues
    refine (isFactor_groupPhrase hplain .notEqual .and value values).congr fun truth => ?_
    exact (any_splitBy_of_forall _ _ (by simp) _).trans
      (by simp [holds, Function.comp_def])
  | raw => exact hplain.elim

end Condition

/-! ## What filters mean -/

/-- The text of a filter without raw fragments and without empty sets is read as a formula that
holds exactly if all conditions of some run hold. -/
theorem ODataQuery.holds_filterText {q : ODataQuery} (hfilters : q.filters ≠ [])
    (hplain : ∀ e ∈ q.filters, e.condition.IsPlain)
    (hvalues : ∀ e ∈ q.filters, e.condition.HasValues) :
    ∃ text φ, q.filterText? = some text ∧ Formula.read? text.toList = some φ ∧
      ∀ truth, φ.holds truth =
        (q.filters.splitBy fun _ e => e.join.getD .and = .and).any
          (·.all fun e => e.condition.holds truth) := by
  obtain ⟨first, rest, hcons⟩ := List.exists_cons_of_ne_nil hfilters
  obtain ⟨text, htext, hread⟩ := readAll?_filterText hcons hplain
  rw [hcons] at hplain hvalues
  have hfactor : ∀ e ∈ first :: rest, Formula.IsFactor e.condition.phrase.tokens
      fun truth => e.condition.holds truth :=
    fun e he => Condition.isFactor_phrase (hplain e he) (hvalues e he)
  obtain ⟨φ, hread', hholds⟩ := Formula.exists_readDisjunction?
    (fun e : FilterExpr => e.join.getD .and) (fun e => e.condition.phrase.tokens)
    (fun truth e => e.condition.holds truth) hfactor (rfl : Join.read? [] = none)
  have htokens : (phrases first rest).tokens Phrase.tokens =
      first.condition.phrase.tokens ++ (rest.flatMap (Formula.laterTokens
        (fun e => e.join.getD .and) fun e => e.condition.phrase.tokens) ++ []) := by
    rw [List.append_nil, phrases, Chain.tokens, List.flatMap_map]
    rfl
  refine ⟨text, φ, htext, ?_, by rw [hcons]; exact hholds⟩
  rw [Formula.read?, hread, htokens]
  simp only [Option.bind_eq_bind, Option.bind_some, hread']
  rfl

/-- The `or` of a set and the `and` of a range do not regroup with their neighbours. -/
theorem holds_filterText_mixed :
    let q := ((ODataQuery.empty.whereExpr (.inSet "Status" ["open", "closed"])).whereEq
      "CardName" "A or B").orWhereExpr (.between "DocTotal" (-5 : Int64) (500 : Int64))
    ∃ text φ, q.filterText? = some text ∧ Formula.read? text.toList = some φ ∧
      ∀ truth, φ.holds truth =
        (((truth (.compare "Status" .equal (.quoted "open")) ||
              truth (.compare "Status" .equal (.quoted "closed"))) &&
            truth (.compare "CardName" .equal (.quoted "A or B"))) ||
          (truth (.compare "DocTotal" .greaterOrEqual (.word "-5")) &&
            truth (.compare "DocTotal" .lessOrEqual (.word "500")))) := by
  intro q
  obtain ⟨text, φ, htext, hread, hholds⟩ :=
    q.holds_filterText (by decide) (by decide) (by decide)
  have hruns : (q.filters.splitBy fun _ e => e.join.getD .and = .and) =
      [[⟨.inSet "Status" [.text "open", .text "closed"], none⟩,
          ⟨.compare "CardName" .equal (.text "A or B"), some .and⟩],
        [⟨.between "DocTotal" (.integer (-5)) (.integer 500), some .or⟩]] := by
    rfl
  have hlow : (Literal.integer (-5)).render = "-5" := by decide
  have hhigh : (Literal.integer 500).render = "500" := by decide
  refine ⟨text, φ, htext, hread, fun truth => ?_⟩
  rw [hholds, hruns]
  simp [Condition.holds, Condition.comparisonAtom, hlow, hhigh, Literal.token]

end ODataSession
