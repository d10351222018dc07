import Mathlib.Data.List.Nodup
import ODataSession.Http.Header

/-!
# Sets of headers

A pair of a name and a value is a header, or there is a fault in it, of the name before that of the
value; of many pairs the first fault counts (`Http.mapM_ofPair_of_faulty`). Headers that are set one
after the other are merged into the set (`Http.Headers.merged_foldl_set`): every name has the value
that it is given last, whatever the case in which it is spelled, and a name that is given none keeps
the value that it had. Merging pairs and then others is merging them all
(`Http.Headers.Merged.trans`).
-/

namespace ODataSession.Http

variable {pair : String × String} {pairs before behind : List (String × String)} {e : HeaderError}

/-! ## Pairs -/

/-- A name and a value that HTTP allows. -/
def IsLegal (pair : String × String) : Prop :=
  isHeaderName pair.1.toList = true ∧ isHeaderValue pair.2.toList = true

instance : DecidablePred IsLegal :=
  fun _ => inferInstanceAs (Decidable (_ ∧ _))

/-- What is wrong with a pair. Its value does not matter if its name is not legal. -/
inductive Faulty : String × String → HeaderError → Prop
  | name {name value : String} (hname : isHeaderName name.toList = false) :
    Faulty (name, value) (.invalidName name)
  | value {name value : String} (hname : isHeaderName name.toList = true)
      (hvalue : isHeaderValue value.toList = false) : Faulty (name, value) (.invalidValue name)

/-- The header of a legal pair. -/
def Header.ofLegal (pair : String × String) : Header :=
  ⟨pair.1.toLower, pair.2⟩

/-- There is no fault in exactly the legal pairs. -/
theorem isLegal_or_exists_faulty (pair : String × String) : IsLegal pair ∨ ∃ e, Faulty pair e := by
  obtain ⟨name, value⟩ := pair
  cases hname : isHeaderName name.toList with
  | false => exact .inr ⟨_, .name hname⟩
  | true =>
    cases hvalue : isHeaderValue value.toList with
    | false => exact .inr ⟨_, .value hname hvalue⟩
    | true => exact .inl ⟨hname, hvalue⟩

/-- A legal pair is a header. -/
theorem IsLegal.ofPair_eq {name value : String} (h : IsLegal (name, value)) :
    Header.ofPair name value = .ok (Header.ofLegal (name, value)) := by
  rw [Header.ofPair, h.1, h.2]
  rfl

/-- A pair with a fault is none. -/
theorem Faulty.ofPair_eq {name value : String} (h : Faulty (name, value) e) :
    Header.ofPair name value = .error e := by
  cases h with
  | name hname =>
    rw [Header.ofPair, hname]
    rfl
  | value hname hvalue =>
    rw [Header.ofPair, hname, hvalue]
    rfl

/-- The text of a fault names the pair as it was given. -/
theorem Faulty.message_eq (h : Faulty pair e) : e.message = pair.1 ++
    if isHeaderName pair.1.toList then ": failed to parse header value"
    else ": invalid HTTP header name" := by
  cases h with
  | name hname =>
    rw [hname]
    rfl
  | value hname =>
    rw [hname]
    rfl

/-- Legal pairs are headers. -/
theorem mapM_ofPair_of_forall (h : ∀ pair ∈ pairs, IsLegal pair) :
    pairs.mapM (fun (name, value) => Header.ofPair name value) =
      .ok (pairs.map Header.ofLegal) := by
  induction pairs with
  | nil => rfl
  | cons pair pairs ih =>
    obtain ⟨name, value⟩ := pair
    obtain ⟨hpair, hpairs⟩ := List.forall_mem_cons.1 h
    simp only [List.mapM_cons, hpair.ofPair_eq, ih hpairs]
    rfl

/-- The first fault is that of the whole. -/
theorem mapM_ofPair_of_faulty (hbefore : ∀ pair ∈ before, IsLegal pair) (h : Faulty pair e) :
    (before ++ pair :: behind).mapM (fun (name, value) => Header.ofPair name value) =
      .error e := by
  induction before with
  | nil =>
    obtain ⟨name, value⟩ := pair
    simp only [List.nil_append, List.mapM_cons, h.ofPair_eq]
    rfl
  | cons first before ih =>
    obtain ⟨name, value⟩ := first
    obtain ⟨hfirst, hbefore⟩ := List.forall_mem_cons.1 hbefore
    simp only [List.cons_append, List.mapM_cons, hfirst.ofPair_eq, ih hbefore]
    rfl

/-- All of some pairs are legal, or there is a first one with a fault. -/
theorem forall_isLegal_or_exists_faulty (pairs : List (String × String)) :
    (∀ pair ∈ pairs, IsLegal pair) ∨ ∃ before pair behind e, pairs = before ++ pair :: behind ∧
      (∀ pair ∈ before, IsLegal pair) ∧ Faulty pair e := by
  induction pairs with
  | nil => exact .inl nofun
  | cons first pairs ih =>
    obtain hfirst | ⟨e, hfirst⟩ := isLegal_or_exists_faulty first
    · obtain hall | ⟨before, pair, behind, e, rfl, hbefore, h⟩ := ih
      · exact .inl (List.forall_mem_cons.2 ⟨hfirst, hall⟩)
      · exact .inr ⟨first :: before, pair, behind, e, rfl,
          List.forall_mem_cons.2 ⟨hfirst, hbefore⟩, h⟩
    · exact .inr ⟨[], first, pairs, e, rfl, nofun, hfirst⟩

namespace Headers

variable {headers headers' headers'' : List Header} {h : Header}

/-! ## Setting headers -/

/-- A header that is set is found under its name, and every other one as before. -/
theorem value?_set (headers : List Header) (h : Header) (name : String) :
    value? (set headers h) name = if h.name = name then some h.value else value? headers name := by
  induction headers with
  | nil =>
    rw [set, value?, List.find?_cons]
    by_cases hname : h.name = name <;> simp [hname, value?]
  | cons g headers ih =>
    by_cases hset : g.name = h.name
    · rw [set, if_pos hset, value?, List.find?_cons, value?, List.find?_cons, hset]
      by_cases hname : h.name = name <;> simp [hname]
    · rw [value?] at ih ⊢
      rw [set, if_neg hset, List.find?_cons, value?, List.find?_cons]
      by_cases hname : g.name = name
      · simp [hname, hname ▸ Ne.symm hset]
      · simp only [hname, decide_false]
        exact ih

/-- The names of a set are those that were there and the one that is set. -/
theorem mem_map_name_set {name : String} : name ∈ (set headers h).map Header.name ↔
    name ∈ headers.map Header.name ∨ name = h.name := by
  induction headers with
  | nil => simp [set]
  | cons g headers ih =>
    rw [set]
    split
    · next hset => simp [hset, or_comm]
    · rw [List.map_cons, List.mem_cons, ih, List.map_cons, List.mem_cons, or_assoc]

/-- Setting a header repeats no name. -/
theorem nodup_map_name_set (hnodup : (headers.map Header.name).Nodup) (h : Header) :
    ((set headers h).map Header.name).Nodup := by
  induction headers with
  | nil => exact List.nodup_singleton h.name
  | cons g headers ih =>
    rw [List.map_cons, List.nodup_cons] at hnodup
    rw [set]
    split
    · next hset =>
      rw [List.map_cons, List.nodup_cons, ← hset]
      exact hnodup
    · next hset =>
      rw [List.map_cons, List.nodup_cons, mem_map_name_set, not_or]
      exact ⟨⟨hnodup.1, hset⟩, ih hnodup.2⟩

/-! ## Merging pairs -/

/-- The value that pairs give to a name last, whatever the case in which they spell it. -/
def lastGiven? (pairs : List (String × String)) (name : String) : Option String :=
  (pairs.reverse.find? (·.1.toLower = name.toLower)).map (·.2)

/-- Of two rounds of pairs the second one counts where it gives a value. -/
theorem lastGiven?_append (pairs pairs' : List (String × String)) (name : String) :
    lastGiven? (pairs ++ pairs') name = (lastGiven? pairs' name).or (lastGiven? pairs name) := by
  rw [lastGiven?, List.reverse_append, List.find?_append, Option.map_or]
  rfl

/-- One more pair gives the value if its name is the one that is looked for. -/
theorem lastGiven?_cons (pair : String × String) (pairs : List (String × String)) (name : String) :
    lastGiven? (pair :: pairs) name = (lastGiven? pairs name).or
      (if pair.1.toLower = name.toLower then some pair.2 else none) := by
  have hsingle : lastGiven? [pair] name =
      if pair.1.toLower = name.toLower then some pair.2 else none := by
    rw [lastGiven?, List.reverse_singleton, List.find?_singleton]
    by_cases hname : pair.1.toLower = name.toLower <;> simp [hname]
  rw [← hsingle, ← lastGiven?_append]
  rfl

/-- Headers into which pairs are merged. A name has the value that it is given last, and the value
that it had if it is given none; the case of its letters does not matter. No name is repeated. -/
structure Merged (headers : List Header) (pairs : List (String × String))
    (headers' : List Header) : Prop where
  value?_eq : ∀ name, value? headers' name.toLower =
    (lastGiven? pairs name).or (value? headers name.toLower)
  nodup : (headers.map Header.name).Nodup → (headers'.map Header.name).Nodup

/-- Headers stay what they are if no pairs are merged into them. -/
theorem Merged.refl (headers : List Header) : Merged headers [] headers where
  value?_eq _ := rfl
  nodup := id

/-- Merging pairs and then others is merging them all. -/
theorem Merged.trans {pairs' : List (String × String)} (h : Merged headers pairs headers')
    (h' : Merged headers' pairs' headers'') : Merged headers (pairs ++ pairs') headers'' where
  value?_eq name := by
    rw [h'.value?_eq, h.value?_eq, lastGiven?_append, Option.or_assoc]
  nodup := h'.nodup ∘ h.nodup

/-- The header of a pair is merged when it is set. -/
theorem merged_set (headers : List Header) (pair : String × String) :
    Merged headers [pair] (set headers (Header.ofLegal pair)) where
  value?_eq name := by
    rw [value?_set, lastGiven?_cons]
    by_cases hname : pair.1.toLower = name.toLower <;> simp [Header.ofLegal, lastGiven?, hname]
  nodup hnodup := nodup_map_name_set hnodup _

/-- The headers of pairs are merged when they are set one after the other. -/
theorem merged_foldl_set (headers : List Header) (pairs : List (String × String)) :
    Merged headers pairs ((pairs.map Header.ofLegal).foldl set headers) := by
  induction pairs generalizing headers with
  | nil => exact .refl headers
  | cons pair pairs ih => exact (merged_set headers pair).trans (ih _)

end Headers

end ODataSession.Http
