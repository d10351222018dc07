import Mathlib.Data.Finset.Card
import Mathlib.Data.List.Nodup
import ODataSession.Query.Parameters

/-!
# Parameters as an ordered map

Parameters are a list of named values in which a name is either replaced in its place or added at
the end. What one insertion does to the names, to the values that are found and to the other entries
is said by `QueryParameters.keys_insert_of_mem`, `QueryParameters.keys_insert_of_notMem`,
`QueryParameters.get?_insert` and `QueryParameters.getElem?_insert`. From this it follows by
induction on what has been inserted, with the last insertion taken off first, that the list is the
map of the values that were set last, in the order in which the names were set first
(`QueryParameters.ofList_isOrderedMap`).
-/

namespace ODataSession

namespace QueryParameters

variable {p : QueryParameters} {key key' : String} {value value' : ParameterValue}
  {entries pairs : List (String × ParameterValue)}

/-! ## One insertion -/

/-- A name that is not set yet is set at the end. -/
theorem set_of_notMem (h : key ∉ entries.map Prod.fst) (value : ParameterValue) :
    set key value entries = entries ++ [(key, value)] := by
  induction entries with
  | nil => rfl
  | cons entry entries ih =>
    rw [List.map_cons, List.mem_cons, not_or] at h
    rw [set, if_neg (Ne.symm h.1), ih h.2, List.cons_append]

/-- A name that is set already leaves the names as they are. -/
theorem map_fst_set_of_mem (h : key ∈ entries.map Prod.fst) (value : ParameterValue) :
    (set key value entries).map Prod.fst = entries.map Prod.fst := by
  induction entries with
  | nil => cases h
  | cons entry entries ih =>
    by_cases hkey : entry.1 = key
    · rw [set, if_pos hkey, List.map_cons, List.map_cons]
    · rw [List.map_cons, List.mem_cons] at h
      rw [set, if_neg hkey, List.map_cons, List.map_cons, ih (h.resolve_left (Ne.symm hkey))]

/-- The value of the first entry is found under its name, and behind it what is found there. -/
theorem lookup_cons_eq_ite {β : Type} {value : β} {entries : List (String × β)} :
    ((key, value) :: entries).lookup key' =
      if key' = key then some value else entries.lookup key' := by
  rw [List.lookup_cons]
  by_cases h : key' = key
  · rw [if_pos h, beq_iff_eq.2 h]
  · rw [if_neg h, beq_eq_false_iff_ne.2 h]

/-- A name that is set is found with its value, and every other one as before. -/
theorem lookup_set (key key' : String) (value : ParameterValue)
    (entries : List (String × ParameterValue)) : (set key value entries).lookup key' =
      if key' = key then some value else entries.lookup key' := by
  induction entries with
  | nil => exact lookup_cons_eq_ite
  | cons entry entries ih =>
    obtain ⟨name, old⟩ := entry
    by_cases hname : name = key
    · rw [set, if_pos hname, hname, lookup_cons_eq_ite, lookup_cons_eq_ite]
      split <;> rfl
    · rw [set, if_neg hname, lookup_cons_eq_ite, lookup_cons_eq_ite, ih]
      by_cases h : key' = name
      · rw [if_pos h, if_pos h, if_neg fun hkey => hname (h.symm.trans hkey)]
      · rw [if_neg h, if_neg h]

/-- The entries of other names stay where they are. -/
theorem getElem?_set (h : key' ≠ key) (i : Nat) :
    (set key value entries)[i]? = some (key', value') ↔ entries[i]? = some (key', value') := by
  induction entries generalizing i with
  | nil => cases i <;> simp [set, Ne.symm h]
  | cons entry entries ih =>
    obtain ⟨name, old⟩ := entry
    by_cases hname : name = key
    · subst hname
      cases i <;> simp [set, Ne.symm h]
    · rw [set, if_neg hname]
      cases i with
      | zero => rfl
      | succ i => exact ih i

/-- Setting a name that is set already leaves the names as they are. -/
theorem keys_insert_of_mem (h : key ∈ p.keys) : (p.insert key value).keys = p.keys :=
  map_fst_set_of_mem h value

/-- Setting a name that is not set yet puts it behind the others. -/
theorem keys_insert_of_notMem (h : key ∉ p.keys) : (p.insert key value).keys = p.keys ++ [key] := by
  rw [keys, insert, set_of_notMem h, List.map_append]
  rfl

/-- The value of a name is the one that it has been set to; other names keep theirs. -/
theorem get?_insert : (p.insert key value).get? key' =
    if key' = key then some value else p.get? key' :=
  lookup_set key key' value p.entries

/-- The entries of other names stay where they are. -/
theorem getElem?_insert (h : key' ≠ key) (i : Nat) :
    (p.insert key value).entries[i]? = some (key', value') ↔
      p.entries[i]? = some (key', value') :=
  getElem?_set h i

/-! ## Many insertions -/

/-- One more pair behind others. -/
theorem ofList_concat (pairs : List (String × ParameterValue)) (pair : String × ParameterValue) :
    ofList (pairs ++ [pair]) = (ofList pairs).insert pair.1 pair.2 := by
  simp only [ofList, List.foldl_append, List.foldl_cons, List.foldl_nil]

/-- Different names are set each in its place. -/
theorem entries_ofList (h : (pairs.map Prod.fst).Nodup) : (ofList pairs).entries = pairs := by
  induction pairs using List.reverseRecOn with
  | nil => rfl
  | append_singleton pairs pair ih =>
    rw [List.map_append, List.map_singleton, ← List.concat_eq_append, List.nodup_concat] at h
    have hpairs : (ofList pairs).entries = pairs := ih h.2
    rw [ofList_concat, insert, hpairs, set_of_notMem h.1]

/-- The names are those of the pairs, each of them once and in the order of their first pairs. -/
structure KeysInOrder (keys names : List String) : Prop where
  nodup : keys.Nodup
  mem_iff : ∀ key, key ∈ keys ↔ key ∈ names
  ordered : keys.Pairwise fun key key' => names.idxOf key < names.idxOf key'

/-- A name that has been there before stays in its order. -/
theorem KeysInOrder.of_mem {keys names : List String} (h : KeysInOrder keys names)
    (hkey : key ∈ keys) : KeysInOrder keys (names ++ [key]) where
  nodup := h.nodup
  mem_iff key' := by
    rw [List.mem_append, List.mem_singleton, ← h.mem_iff]
    exact ⟨.inl, fun hmem => hmem.elim id fun heq => heq ▸ hkey⟩
  ordered := by
    refine h.ordered.imp_of_mem fun {a b} ha hb hlt => ?_
    rwa [List.idxOf_append_of_mem ((h.mem_iff a).1 ha),
      List.idxOf_append_of_mem ((h.mem_iff b).1 hb)]

/-- A new name comes behind the others. -/
theorem KeysInOrder.of_notMem {keys names : List String} (h : KeysInOrder keys names)
    (hkey : key ∉ keys) : KeysInOrder (keys ++ [key]) (names ++ [key]) where
  nodup := by
    rw [← List.concat_eq_append, List.nodup_concat]
    exact ⟨hkey, h.nodup⟩
  mem_iff key' := by simp only [List.mem_append, List.mem_singleton, h.mem_iff]
  ordered := by
    have hbefore : ∀ a ∈ keys, (names ++ [key]).idxOf a = names.idxOf a := fun a ha =>
      List.idxOf_append_of_mem ((h.mem_iff a).1 ha)
    have hlast : (names ++ [key]).idxOf key = names.length := by
      rw [List.idxOf_append_of_notMem fun hmem => hkey ((h.mem_iff key).2 hmem)]
      simp
    rw [List.pairwise_append]
    refine ⟨h.ordered.imp_of_mem fun {a b} ha hb hlt => ?_, List.pairwise_singleton _ _, ?_⟩
    · rwa [hbefore a ha, hbefore b hb]
    · intro a ha b hb
      rw [List.mem_singleton.1 hb, hbefore a ha, hlast]
      exact List.idxOf_lt_length_iff.2 ((h.mem_iff a).1 ha)

/-- The names of pairs that are set one after the other. -/
theorem keysInOrder_ofList (pairs : List (String × ParameterValue)) :
    KeysInOrder (ofList pairs).keys (pairs.map Prod.fst) := by
  induction pairs using List.reverseRecOn with
  | nil => exact ⟨List.nodup_nil, fun _ => Iff.rfl, List.Pairwise.nil⟩
  | append_singleton pairs pair ih =>
    rw [ofList_concat, List.map_append, List.map_singleton]
    by_cases hkey : pair.1 ∈ (ofList pairs).keys
    · rw [keys_insert_of_mem hkey]
      exact ih.of_mem hkey
    · rw [keys_insert_of_notMem hkey]
      exact ih.of_notMem hkey

/-- The value of a name is that of its last pair. -/
theorem get?_ofList (pairs : List (String × ParameterValue)) (key : String) :
    (ofList pairs).get? key = pairs.reverse.lookup key := by
  induction pairs using List.reverseRecOn with
  | nil => rfl
  | append_singleton pairs pair ih =>
    obtain ⟨name, value⟩ := pair
    rw [ofList_concat, get?_insert, List.reverse_concat, lookup_cons_eq_ite, ih]

/-- The parameters are the map of the pairs that have been set, in the order of their names. -/
structure IsOrderedMap (p : QueryParameters) (pairs : List (String × ParameterValue)) : Prop where
  /-- Each name that has been set is there once, and the names are in the order in which they have
  been set for the first time. -/
  keysInOrder : KeysInOrder p.keys (pairs.map Prod.fst)
  /-- A name has the value that it has been set to last, and none if it has not been set. -/
  get?_eq : ∀ key, p.get? key = pairs.reverse.lookup key
  /-- The names that are there are those that have been set. -/
  contains_iff : ∀ key, p.contains key = true ↔ key ∈ pairs.map Prod.fst
  /-- There are as many entries as names that have been set. -/
  size_eq : p.size = (pairs.map Prod.fst).toFinset.card
  /-- Setting one more name is the same as having set it behind the others. -/
  insert_eq : ∀ key value, p.insert key value = ofList (pairs ++ [(key, value)])
  /-- Setting a name leaves every other entry where it is. -/
  others_kept : ∀ key value (i : Nat) key' value', key' ≠ key →
    ((p.insert key value).entries[i]? = some (key', value') ↔ p.entries[i]? = some (key', value'))

/-- Parameters that are set one after the other are an ordered map. -/
theorem ofList_isOrderedMap (pairs : List (String × ParameterValue)) :
    (ofList pairs).IsOrderedMap pairs where
  keysInOrder := keysInOrder_ofList pairs
  get?_eq := get?_ofList pairs
  contains_iff key := by
    rw [contains, get?_ofList, List.lookup_isSome_iff]
    simp only [List.mem_reverse, beq_iff_eq, List.mem_map]
    exact exists_congr fun pair => and_congr_right fun _ => eq_comm
  size_eq := by
    have hkeys := keysInOrder_ofList pairs
    have hset : (ofList pairs).keys.toFinset = (pairs.map Prod.fst).toFinset :=
      List.toFinset.ext hkeys.mem_iff
    rw [← hset, List.toFinset_card_of_nodup hkeys.nodup, keys, List.length_map, size]
  insert_eq key value := (ofList_concat pairs (key, value)).symm
  others_kept key value i key' value' h := getElem?_insert h i

end QueryParameters

end ODataSession
