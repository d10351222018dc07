import ODataSession.Proofs.Config.Spelling

/-!
# Malformed variables

A variable for a number or a flag whose value spells neither is refused, and never falls back on the
usual value. The variables are read in a fixed order, each in one of three ways
(`Config.ReadsVariable`): it has no value but blanks, its value spells something, or it is
malformed. So reading all of them ends with the first malformed one, or with settings in which every
variable has set its own field (`Config.reading_ofLookup`). What else the environment holds makes no
difference (`Config.ofLookup_isStrict`).
-/

namespace ODataSession.Config

/-- What the value of a variable has to spell. -/
inductive VariableKind
  | number
  | flag

namespace VariableKind

/-- The values that fit, without the blanks around them. -/
def Accepts : VariableKind → List Char → Prop
  | number, s => IsNumber s
  | flag, s => ∃ b, SpellsFlag s b

/-- The error for a value that does not fit. -/
def complaint : VariableKind → String → String → ConfigError
  | number => .malformedNumber
  | flag => .malformedFlag

/-- What the error says that the value has to be. -/
def demand : VariableKind → String
  | number => "a non-negative integer"
  | flag => "a boolean"

/-- An error tells the variable, what it has to be, and its value. -/
theorem message_complaint (kind : VariableKind) (name value : String) :
    (kind.complaint name value).message =
      name ++ " must be " ++ kind.demand ++ ", got '" ++ value ++ "'" := by
  have hnumber : " must be a non-negative integer, got '" =
      " must be " ++ ("a non-negative integer" ++ ", got '") := by decide
  have hflag : " must be a boolean, got '" = " must be " ++ ("a boolean" ++ ", got '") := by decide
  cases kind with
  | number =>
    change name ++ " must be a non-negative integer, got '" ++ value ++ "'" = _
    rw [hnumber, demand]
    simp only [String.append_assoc]
  | flag =>
    change name ++ " must be a boolean, got '" ++ value ++ "'" = _
    rw [hflag, demand]
    simp only [String.append_assoc]

end VariableKind

/-- The variables whose values have to spell something, in the order in which they are read. -/
def typedVariables : List (String × VariableKind) :=
  [("CACHE_TTL", .number), ("POOL_SIZE", .number), ("SESSION_INDEX", .number),
    ("VERIFY_SSL", .flag), ("TIMEOUT", .number)]

/-- The variables that spell settings. -/
def allVariables : List String :=
  ["SERVER", "DATABASE", "USERNAME", "PASSWORD"] ++ typedVariables.map Prod.fst

section
variable (lookup : String → Option String)

/-- A variable has a value that is not blank. -/
def HasValue (name raw : String) : Prop :=
  lookup (variableName name) = some raw ∧ Text.isBlankText raw = false

/-- A variable has a value that is not blank and, without the blanks around it, does not spell what
it has to. -/
def IsMalformed (v : String × VariableKind) (raw : String) : Prop :=
  HasValue lookup v.1 raw ∧ ¬v.2.Accepts (Text.trimBy Text.isBlank raw.toList)

/-- A variable sets a field: to what its value spells if it has one that is not blank, and to the
usual value if not. -/
structure Sets {α : Type} (name : String) (Spells : String → α → Prop) (usual a : α) : Prop where
  given : ∀ raw, HasValue lookup name raw → Spells raw a
  absent : (∀ raw, ¬HasValue lookup name raw) → a = usual

/-- A value spells something without the blanks around it. -/
def Trimmed {α : Type} (Spells : List Char → α → Prop) (raw : String) (a : α) : Prop :=
  Spells (Text.trimBy Text.isBlank raw.toList) a

/-- Settings in which every variable has set its own field. Texts are taken as they are. -/
structure IsSetBy (c : Config) : Prop where
  server : Sets lookup "SERVER" (· = ·) standard.server c.server
  database : Sets lookup "DATABASE" (· = ·) standard.database c.database
  username : Sets lookup "USERNAME" (· = ·) standard.username c.username
  password : Sets lookup "PASSWORD" (· = Secret.reveal ·) standard.password c.password
  cacheTtl : Sets lookup "CACHE_TTL" (Trimmed SpellsNumber) standard.cacheTtl c.cacheTtl
  poolSize : Sets lookup "POOL_SIZE" (Trimmed SpellsNumber) standard.poolSize c.poolSize
  sessionIndex : Sets lookup "SESSION_INDEX"
    (fun raw index? => ∃ index, index? = some index ∧ Trimmed SpellsNumber raw index)
    standard.sessionIndex c.sessionIndex
  verifyTls : Sets lookup "VERIFY_SSL" (Trimmed SpellsFlag) standard.verifyTls c.verifyTls
  timeout : Sets lookup "TIMEOUT" (Trimmed SpellsNumber) standard.timeout c.timeout
  loginRetry : c.loginRetry = standard.loginRetry

/-! ## One variable -/

/-- The ways in which a variable is read. -/
inductive ReadsVariable {α : Type} (v : String × VariableKind) (Spells : List Char → α → Prop) :
    Except ConfigError (Option α) → Prop
  | absent (h : ∀ raw, ¬HasValue lookup v.1 raw) : ReadsVariable v Spells (.ok none)
  | given {raw : String} {a : α} (hvalue : HasValue lookup v.1 raw)
    (haccepts : v.2.Accepts (Text.trimBy Text.isBlank raw.toList))
    (hspells : Trimmed Spells raw a) : ReadsVariable v Spells (.ok (some a))
  | malformed {raw : String} (h : IsMalformed lookup v raw) :
    ReadsVariable v Spells (.error (v.2.complaint (variableName v.1) raw))

variable {lookup} {name raw raw' : String}

/-- The values of variables that are not blank. -/
theorem given?_eq_some_iff : given? lookup name = some raw ↔ HasValue lookup name raw := by
  rw [given?, Option.filter_eq_some_iff, HasValue, Bool.not_eq_true']

/-- A variable without such a value. -/
theorem given?_eq_none_iff : given? lookup name = none ↔ ∀ raw, ¬HasValue lookup name raw := by
  simp only [Option.eq_none_iff_forall_ne_some, ne_eq, given?_eq_some_iff]

/-- A variable has one value. -/
theorem HasValue.eq (h : HasValue lookup name raw) (h' : HasValue lookup name raw') :
    raw' = raw :=
  Option.some.inj (h'.1.symm.trans h.1)

variable (lookup name)

/-- How a number is read. -/
theorem readsVariable_numberOf :
    ReadsVariable lookup (name, .number) SpellsNumber (numberOf lookup name) := by
  rw [numberOf]
  split
  · next hgiven => exact .absent (given?_eq_none_iff.1 hgiven)
  · next raw hgiven =>
    have hvalue := given?_eq_some_iff.1 hgiven
    split
    · next n hread =>
      exact .given hvalue (isSome_readNumber?_iff.1 (Option.isSome_of_eq_some hread))
        (readNumber?_eq_some_iff.1 hread)
    · next hread =>
      refine .malformed ⟨hvalue, fun haccepts => ?_⟩
      have hsome := isSome_readNumber?_iff.2 haccepts
      rw [hread] at hsome
      cases hsome

/-- How a flag is read. -/
theorem readsVariable_flagOf :
    ReadsVariable lookup (name, .flag) SpellsFlag (flagOf lookup name) := by
  rw [flagOf]
  split
  · next hgiven => exact .absent (given?_eq_none_iff.1 hgiven)
  · next raw hgiven =>
    have hvalue := given?_eq_some_iff.1 hgiven
    split
    · next b hread =>
      have hspells := readFlag?_eq_some_iff.1 hread
      exact .given hvalue ⟨b, hspells⟩ hspells
    · next hread =>
      refine .malformed ⟨hvalue, fun ⟨b, hspells⟩ => ?_⟩
      rw [readFlag?_eq_some_iff.2 hspells] at hread
      cases hread

/-- A text is set as it is. -/
theorem sets_textOf : Sets lookup name (· = ·) "" (textOf lookup name) := by
  refine ⟨fun raw hvalue => ?_, fun hnone => ?_⟩
  · rw [textOf, given?_eq_some_iff.2 hvalue, Option.getD_some]
  · rw [textOf, given?_eq_none_iff.2 hnone, Option.getD_none]

end

section
variable {lookup : String → Option String} {α : Type} {v : String × VariableKind}
  {Spells : List Char → α → Prop} {a? : Option α}

/-- A variable that is read is not malformed. -/
theorem ReadsVariable.not_isMalformed (h : ReadsVariable lookup v Spells (.ok a?)) (raw : String) :
    ¬IsMalformed lookup v raw := by
  rintro ⟨hvalue, hno⟩
  cases h with
  | absent hnone => exact hnone raw hvalue
  | given hvalue' haccepts =>
    rw [hvalue'.eq hvalue] at hno
    exact hno haccepts

/-- A variable that is read sets its field, which keeps the usual value without it. -/
theorem ReadsVariable.sets (h : ReadsVariable lookup v Spells (.ok a?)) (usual : α) :
    Sets lookup v.1 (Trimmed Spells) usual (a?.getD usual) := by
  cases h with
  | absent hnone => exact ⟨fun raw hvalue => absurd hvalue (hnone raw), fun _ => rfl⟩
  | given hvalue _ hspells =>
    refine ⟨fun raw hvalue' => ?_, fun hnone => absurd hvalue (hnone _)⟩
    rw [hvalue.eq hvalue']
    exact hspells

/-- A variable that is read sets its field, which is empty without it. -/
theorem ReadsVariable.sets_option (h : ReadsVariable lookup v Spells (.ok a?)) :
    Sets lookup v.1 (fun raw b? => ∃ b, b? = some b ∧ Trimmed Spells raw b) none a? := by
  cases h with
  | absent hnone => exact ⟨fun raw hvalue => absurd hvalue (hnone raw), fun _ => rfl⟩
  | given hvalue _ hspells =>
    refine ⟨fun raw hvalue' => ?_, fun hnone => absurd hvalue (hnone _)⟩
    rw [hvalue.eq hvalue']
    exact ⟨_, rfl, hspells⟩

/-! ## All variables -/

variable (lookup) in
/-- The ways in which all variables are read. -/
inductive Reading : Except ConfigError Config → Prop
  | refused {before after : List (String × VariableKind)} {v : String × VariableKind} {raw : String}
    (hsplit : typedVariables = before ++ v :: after)
    (hbefore : ∀ u ∈ before, ∀ raw, ¬IsMalformed lookup u raw) (h : IsMalformed lookup v raw) :
    Reading (.error (v.2.complaint (variableName v.1) raw))
  | accepted {c : Config} (hall : ∀ v ∈ typedVariables, ∀ raw, ¬IsMalformed lookup v raw)
    (h : IsSetBy lookup c) : Reading (.ok c)

/-- A variable that is refused ends the reading, if the ones in front of it are read. -/
theorem ReadsVariable.refused {e : ConfigError} (h : ReadsVariable lookup v Spells (.error e))
    (before after : List (String × VariableKind)) (hsplit : typedVariables = before ++ v :: after)
    (hbefore : ∀ u ∈ before, ∀ raw, ¬IsMalformed lookup u raw) : Reading lookup (.error e) := by
  cases h with
  | malformed h => exact .refused hsplit hbefore h

end

/-- Reading ends with the first malformed variable, or with settings that all variables have
set. -/
theorem reading_ofLookup (lookup : String → Option String) :
    Reading lookup (ofLookup lookup) := by
  have hcache := readsVariable_numberOf lookup "CACHE_TTL"
  have hpool := readsVariable_numberOf lookup "POOL_SIZE"
  have hindex := readsVariable_numberOf lookup "SESSION_INDEX"
  have hverify := readsVariable_flagOf lookup "VERIFY_SSL"
  have htimeout := readsVariable_numberOf lookup "TIMEOUT"
  rw [ofLookup]
  -- one case for each variable that can end the reading, in their order
  cases hc : numberOf lookup "CACHE_TTL" with
  | error e =>
    rw [hc] at hcache
    exact hcache.refused [] _ rfl nofun
  | ok cacheTtl =>
  rw [hc] at hcache
  cases hp : numberOf lookup "POOL_SIZE" with
  | error e =>
    rw [hp] at hpool
    exact hpool.refused [_] _ rfl (by simpa using hcache.not_isMalformed)
  | ok poolSize =>
  rw [hp] at hpool
  cases hi : numberOf lookup "SESSION_INDEX" with
  | error e =>
    rw [hi] at hindex
    exact hindex.refused [_, _] _ rfl
      (by simpa using ⟨hcache.not_isMalformed, hpool.not_isMalformed⟩)
  | ok sessionIndex =>
  rw [hi] at hindex
  cases hv : flagOf lookup "VERIFY_SSL" with
  | error e =>
    rw [hv] at hverify
    exact hverify.refused [_, _, _] _ rfl
      (by simpa using ⟨hcache.not_isMalformed, hpool.not_isMalformed, hindex.not_isMalformed⟩)
  | ok verifyTls =>
  rw [hv] at hverify
  cases ht : numberOf lookup "TIMEOUT" with
  | error e =>
    rw [ht] at htimeout
    exact htimeout.refused [_, _, _, _] _ rfl
      (by simpa using ⟨hcache.not_isMalformed, hpool.not_isMalformed, hindex.not_isMalformed,
        hverify.not_isMalformed⟩)
  | ok timeout =>
  rw [ht] at htimeout
  refine .accepted ?_ ⟨sets_textOf _ _, sets_textOf _ _, sets_textOf _ _, ?_, hcache.sets _,
    hpool.sets _, hindex.sets_option, hverify.sets _, htimeout.sets _, rfl⟩
  · simpa [typedVariables] using ⟨hcache.not_isMalformed, hpool.not_isMalformed,
      hindex.not_isMalformed, hverify.not_isMalformed, htimeout.not_isMalformed⟩
  · obtain ⟨hgiven, habsent⟩ := sets_textOf lookup "PASSWORD"
    exact ⟨hgiven, fun hnone => congrArg Secret.mk (habsent hnone)⟩

/-- Variables are read strictly. -/
structure IsStrict (lookup : String → Option String) : Prop where
  /-- Reading fails exactly if a variable for a number or a flag is malformed. -/
  fails_iff : (∃ e, ofLookup lookup = .error e) ↔
    ∃ v ∈ typedVariables, ∃ raw, IsMalformed lookup v raw
  /-- The error is about the first malformed variable, and tells its name and its value with all
  blanks. -/
  first : ∀ e, ofLookup lookup = .error e → ∃ before v after raw,
    typedVariables = before ++ v :: after ∧
      (∀ u ∈ before, ∀ raw, ¬IsMalformed lookup u raw) ∧ IsMalformed lookup v raw ∧
        e = v.2.complaint (variableName v.1) raw ∧
          e.message = variableName v.1 ++ " must be " ++ v.2.demand ++ ", got '" ++ raw ++ "'"
  /-- If no variable is malformed, each sets its own field. -/
  sets : (∀ v ∈ typedVariables, ∀ raw, ¬IsMalformed lookup v raw) →
    ∃ c, ofLookup lookup = .ok c ∧ IsSetBy lookup c
  /-- What is read depends on the variables that spell settings and on nothing else. -/
  unaffected : ∀ lookup', (∀ name ∈ allVariables,
    lookup' (variableName name) = lookup (variableName name)) → ofLookup lookup' = ofLookup lookup

/-- Variables are read strictly, whatever the environment holds. -/
theorem ofLookup_isStrict (lookup : String → Option String) : IsStrict lookup := by
  have hreading := reading_ofLookup lookup
  constructor
  · cases hresult : ofLookup lookup with
    | error e =>
      rw [hresult] at hreading
      cases hreading with
      | refused hsplit _ h =>
        exact iff_of_true ⟨_, rfl⟩ ⟨_, by rw [hsplit]; simp, _, h⟩
    | ok c =>
      rw [hresult] at hreading
      cases hreading with
      | accepted hall =>
        exact iff_of_false nofun fun ⟨v, hv, raw, h⟩ => hall v hv raw h
  · intro e he
    rw [he] at hreading
    cases hreading with
    | refused hsplit hbefore h =>
      exact ⟨_, _, _, _, hsplit, hbefore, h, rfl, VariableKind.message_complaint _ _ _⟩
  · intro hall
    cases hresult : ofLookup lookup with
    | error e =>
      rw [hresult] at hreading
      cases hreading with
      | refused hsplit _ h => exact absurd h (hall _ (by rw [hsplit]; simp) _)
    | ok c =>
      rw [hresult] at hreading
      cases hreading with
      | accepted _ h => exact ⟨c, rfl, h⟩
  · intro lookup' hsame
    have hgiven : ∀ name ∈ allVariables, given? lookup' name = given? lookup name := by
      intro name hname
      rw [given?, given?, hsame name hname]
    simp only [allVariables, typedVariables, List.map_cons, List.map_nil, List.cons_append,
      List.nil_append, List.forall_mem_cons] at hgiven
    simp only [ofLookup, textOf, numberOf, flagOf, hgiven]

example : ofLookup (fun name =>
    if name = variableName "TIMEOUT" then some "soon"
    else if name = variableName "POOL_SIZE" then some " -0"
    else if name = variableName "CACHE_TTL" then some " +007 " else none) =
      .error (.malformedNumber (variableName "POOL_SIZE") " -0") := by
  decide

end ODataSession.Config
