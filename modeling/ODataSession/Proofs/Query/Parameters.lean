import ODataSession.Proofs.Text.Case
import ODataSession.Proofs.Text.Decoding
import ODataSession.Proofs.Text.Parts
import ODataSession.Query.Parameters
import ODataSession.Url.Basic

/-!
# Parameters in query strings

A query string is read back by cutting it at each `&`, cutting each part at its first `=`, and
undoing the escapes (`QueryParameters.read?`). What is written of parameters is read back as their
names and values, in their order (`QueryParameters.read?_encode`): a name or a value is written with
unreserved characters and escapes, so that neither mark occurs in it. For the same reason a URL
takes the query string as it is (`QueryParameters.withQuery_encode`).
-/

namespace ODataSession

namespace QueryParameters

/-! ## What is written -/

/-- The characters of query strings that are not those of escapes. -/
def isQueryStringChar (c : Char) : Bool :=
  isUnreserved c || c = '=' || c = '&'

/-- The last of the unreserved characters is the tilde. -/
theorem toNat_lt_of_isUnreserved {c : Char} (h : isUnreserved c = true) : c.toNat < 127 := by
  simp only [isUnreserved, Bool.or_eq_true, decide_eq_true_eq] at h
  rcases h with (((h | rfl) | rfl) | rfl) | rfl
  · exact Nat.lt_trans (Text.toNat_lt_of_isAlphanum h) (by decide)
  all_goals decide

/-- The digits of escapes are unreserved. -/
theorem isUnreserved_of_isHexDigit {c : Char} (h : Percent.IsHexDigit c) :
    isUnreserved c = true := by
  have hdigits : ∀ c : Char, c.toNat < 103 → Percent.IsHexDigit c → isUnreserved c = true :=
    Text.forall_toNat_lt (by decide)
  exact hdigits c (Percent.toNat_lt_of_isHexDigit h) h

/-- A name or a value is written with unreserved characters and escapes. -/
theorem isWritten_encodeComponent (s : String) :
    Percent.IsWritten isUnreserved (encodeComponent s) :=
  Percent.isWritten_encode s.toList

/-- A mark that is neither unreserved nor the percent sign is in no name and no value. -/
theorem not_mem_encodeComponent {mark : Char} (hmark : isUnreserved mark = false)
    (hpercent : mark ≠ '%') (s : String) : mark ∉ encodeComponent s := by
  intro hmem
  rcases (isWritten_encodeComponent s).of_mem hmem with h | h | h
  · rw [hmark] at h
    cases h
  · exact hpercent h
  · rw [isUnreserved_of_isHexDigit h] at hmark
    cases hmark

/-- There is no `&` in an entry. -/
theorem not_mem_encodeEntry (entry : String × ParameterValue) : '&' ∉ encodeEntry entry := by
  obtain ⟨key, value⟩ := entry
  simp only [encodeEntry, List.mem_append, List.mem_cons, not_or]
  exact ⟨not_mem_encodeComponent rfl (by decide) key, by decide,
    not_mem_encodeComponent rfl (by decide) value.render⟩

/-- An entry is written with the characters of query strings and escapes. -/
theorem isWritten_encodeEntry (entry : String × ParameterValue) :
    Percent.IsWritten isQueryStringChar (encodeEntry entry) := by
  have hcomponent : ∀ s, Percent.IsWritten isQueryStringChar (encodeComponent s) := fun s =>
    (isWritten_encodeComponent s).mono fun c hc => by simp [isQueryStringChar, hc]
  exact (hcomponent _).append (.kept rfl (hcomponent _))

/-- A query string is written with unreserved characters, the marks `=` and `&`, and escapes. -/
theorem isWritten_encode (p : QueryParameters) :
    Percent.IsWritten isQueryStringChar p.encode.toList := by
  rw [encode, String.toList_ofList]
  induction p.entries with
  | nil => exact .nil
  | cons entry entries ih =>
    cases entries with
    | nil =>
      rw [List.map_singleton, List.intercalate_singleton]
      exact isWritten_encodeEntry entry
    | cons entry' entries =>
      rw [List.map_cons, List.map_cons, List.intercalate_cons_cons, ← List.map_cons]
      exact ((isWritten_encodeEntry entry).append (.kept rfl .nil)).append ih

/-! ## Reading back -/

/-- The name and the value of a part of a query string: what stands before its first `=` and what
stands behind it. -/
def readPart? (part : List Char) : Option (String × String) := do
  let key ← Percent.decode? (part.takeWhile (· ≠ '='))
  let value ← Percent.decode? ((part.dropWhile (· ≠ '=')).drop 1)
  return (String.ofList key, String.ofList value)

/-- The names and values of a query string, in order. -/
def read? (query : List Char) : Option (List (String × String)) :=
  (Text.splitOn (· = '&') query).mapM readPart?

/-- A name or a value is read back. -/
theorem decode?_encodeComponent (s : String) :
    Percent.decode? (encodeComponent s) = some s.toList :=
  Percent.decode?_encode rfl s.toList

/-- An entry is read back. -/
theorem readPart?_encodeEntry (entry : String × ParameterValue) :
    readPart? (encodeEntry entry) = some (entry.1, entry.2.render) := by
  obtain ⟨key, value⟩ := entry
  have hmark : '=' ∉ encodeComponent key := not_mem_encodeComponent rfl (by decide) key
  obtain ⟨hbefore, hbehind⟩ :=
    Text.takeWhile_dropWhile_ne_append hmark (encodeComponent value.render)
  rw [readPart?, encodeEntry, hbefore, hbehind, List.drop_one, List.tail_cons,
    decode?_encodeComponent, decode?_encodeComponent]
  simp

/-- The parameters of a query string are read back, in their order. -/
theorem read?_encode {p : QueryParameters} (hp : p.isEmpty = false) :
    read? p.encode.toList = some (p.entries.map fun entry => (entry.1, entry.2.render)) := by
  have hne : p.entries.map encodeEntry ≠ [] := by
    rw [isEmpty, List.isEmpty_eq_false_iff] at hp
    simpa using hp
  have hparts : ∀ part ∈ p.entries.map encodeEntry, '&' ∉ part := by
    intro part hpart
    obtain ⟨entry, -, rfl⟩ := List.mem_map.1 hpart
    exact not_mem_encodeEntry entry
  rw [read?, encode, String.toList_ofList, Text.splitOn_intercalate hne hparts]
  induction p.entries with
  | nil => rfl
  | cons entry entries ih =>
    rw [List.map_cons, List.mapM_cons, readPart?_encodeEntry, ih]
    rfl

/-! ## Queries of URLs -/

/-- A URL keeps the characters of query strings in its query. -/
theorem keptInQuery_of_isQueryStringChar {c : Char}
    (h : isQueryStringChar c = true ∨ c = '%' ∨ Percent.IsHexDigit c) (special : Bool) :
    Url.keptInQuery special c = true ∧ Url.isTabOrNewline c = false := by
  have hkept : ∀ c : Char, c.toNat < 127 → isUnreserved c = true →
      Url.keptInQuery special c = true ∧ Url.isTabOrNewline c = false := by
    cases special
    · exact Text.forall_toNat_lt (by decide)
    · exact Text.forall_toNat_lt (by decide)
  have hunreserved : isUnreserved c = true →
      Url.keptInQuery special c = true ∧ Url.isTabOrNewline c = false :=
    fun hc => hkept c (toNat_lt_of_isUnreserved hc) hc
  simp only [isQueryStringChar, Bool.or_eq_true, decide_eq_true_eq] at h
  rcases h with ((h | rfl) | rfl) | rfl | h
  · exact hunreserved h
  · cases special <;> decide
  · cases special <;> decide
  · cases special <;> decide
  · exact hunreserved (isUnreserved_of_isHexDigit h)

/-- A URL takes a query string as its query without a change. -/
theorem withQuery_encode (p : QueryParameters) (u : Url) :
    u.withQuery p.encode.toList = { u with query := some p.encode.toList } := by
  have hkept : ∀ c ∈ p.encode.toList, Url.keptInQuery (u.kind != .other) c = true ∧
      Url.isTabOrNewline c = false :=
    fun c hc => keptInQuery_of_isQueryStringChar (p.isWritten_encode.of_mem hc) _
  have hseen : p.encode.toList.filter (!Url.isTabOrNewline ·) = p.encode.toList :=
    List.filter_eq_self.2 fun c hc => by rw [(hkept c hc).2]; rfl
  rw [Url.withQuery, hseen, Percent.encode_of_forall_keep fun c hc => (hkept c hc).1]

end QueryParameters

end ODataSession
