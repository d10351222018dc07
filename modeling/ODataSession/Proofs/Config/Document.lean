import ODataSession.Config.Document
import ODataSession.Proofs.Json.Writing

/-!
# Settings from any document

A document gives the settings that it was written for, and the usual value of every setting that it
leaves out (`Config.ofJson_document`). It may leave out any settings, name the other ones in any
order, and have members of any other name among them, whatever JSON they hold; the policy for login
attempts may be left out in part. A document that names a setting twice gives none.
-/

namespace ODataSession

/-- Choosing one more name leaves the choice of the other ones as it is. -/
theorem ite_mem_cons {α : Type} {name key : String} {keys : List String} (x y : α) :
    (if name ∈ keys then x else if name ∈ [key] then x else y) =
      if name ∈ key :: keys then x else y := by
  by_cases hkeys : name ∈ keys <;> by_cases hkey : name = key <;> simp [hkeys, hkey]

/-! ## Login attempts -/

namespace LoginRetry

variable (r : LoginRetry) {key : String} {s : List Char}

/-- A policy that has the chosen fields of one and the other fields of another. -/
def onto (d : LoginRetry) (chosen : List String) : LoginRetry where
  attempts := if "attempts" ∈ chosen then r.attempts else d.attempts
  delayMilliseconds := if "delay_ms" ∈ chosen then r.delayMilliseconds else d.delayMilliseconds

/-- Fields are laid over a policy in any order. -/
theorem overlay : Json.Overlay fields r.onto where
  nil d := by simp [onto]
  cons d key keys := by simp only [onto, ite_mem_cons]
  congr h d := by simp only [onto, h "attempts" (by decide), h "delay_ms" (by decide)]

/-- The values of the fields of a policy, as they are written under their names. -/
inductive Writes : String → List Char → Prop
  | attempts : Writes "attempts" (Nat.toDigits 10 r.attempts.toNat)
  | delay : Writes "delay_ms" (Nat.toDigits 10 r.delayMilliseconds.toNat)

/-- A number of 32 bits is read into its field. -/
theorem toNat_le_largestUInt32 (n : UInt32) : n.toNat ≤ largestUInt32 :=
  Nat.le_pred_of_lt n.toNat_lt

variable {r}

/-- The value of a field is laid over the policy. -/
theorem Writes.reads (h : r.Writes key s) {field : Json.Field LoginRetry}
    (hfind : fields.find? (·.name = key) = some field) (d : LoginRetry) :
    Json.Reads (field.read d) s (r.onto d [key]) := by
  cases h with
  | attempts =>
    cases hfind
    exact (Json.reads_readNatural (toNat_le_largestUInt32 _) (by decide)).field (by simp [onto])
  | delay =>
    cases hfind
    exact (Json.reads_readNatural (Nat.le_pred_of_lt (UInt64.toNat_lt _)) (by decide)).field
      (by simp [onto])

/-- A document that holds the chosen fields of a policy. -/
def IsWritten (r : LoginRetry) (chosen : List String) (s : List Char) : Prop :=
  Json.Holds fields r.Writes chosen s

/-- There is a document for any fields of a policy, in any order. -/
theorem exists_isWritten (r : LoginRetry) {chosen : List String} (hnodup : chosen.Nodup)
    (hfields : chosen ⊆ Json.fieldNames fields) : ∃ s, r.IsWritten chosen s := by
  refine Json.exists_holds hnodup hfields fun key hkey => ?_
  have hname : key ∈ ["attempts", "delay_ms"] := hfields hkey
  simp only [List.mem_cons, List.not_mem_nil, or_false] at hname
  rcases hname with rfl | rfl
  · exact ⟨_, .attempts, .number (Json.isNumber_toDigits _)⟩
  · exact ⟨_, .delay, .number (Json.isNumber_toDigits _)⟩

/-- A field takes nothing behind its value. -/
theorem takesWhole_of_mem : ∀ field ∈ fields, field.TakesWhole := by
  simp only [fields, List.forall_mem_cons, List.not_mem_nil, false_implies, implies_true, and_true]
  exact ⟨(Json.takesWhole_readNatural _).field _ _, (Json.takesWhole_readNatural _).field _ _⟩

/-- The fields that are left out have the usual values. -/
theorem unwritten_eq_standard : unwritten = standard := rfl

end LoginRetry

/-! ## Settings -/

namespace Config

variable (c : Config) {chosen retryChosen : List String} {key : String} {s : List Char}

/-- Settings that have the chosen ones of one client and the other ones of another. -/
def onto (d : Config) (chosen : List String) : Config where
  server := if "server" ∈ chosen then c.server else d.server
  database := if "database" ∈ chosen then c.database else d.database
  username := if "username" ∈ chosen then c.username else d.username
  password := if "password" ∈ chosen then c.password else d.password
  cacheTtl := if "cache_ttl" ∈ chosen then c.cacheTtl else d.cacheTtl
  poolSize := if "pool_size" ∈ chosen then c.poolSize else d.poolSize
  sessionIndex := if "session_index" ∈ chosen then c.sessionIndex else d.sessionIndex
  verifyTls := if "verify_ssl" ∈ chosen then c.verifyTls else d.verifyTls
  timeout := if "timeout" ∈ chosen then c.timeout else d.timeout
  loginRetry := if "login_retry" ∈ chosen then c.loginRetry else d.loginRetry

/-- Settings whose policy for login attempts has the usual values of fields that are not chosen. -/
def withRetry (retryChosen : List String) : Config :=
  { c with loginRetry := c.loginRetry.onto .standard retryChosen }

/-- Settings are laid over other ones in any order. -/
theorem overlay : Json.Overlay fields c.onto where
  nil d := by simp [onto]
  cons d key keys := by simp only [onto, ite_mem_cons]
  congr h d := by
    simp only [onto, h "server" (by decide), h "database" (by decide), h "username" (by decide),
      h "password" (by decide), h "cache_ttl" (by decide), h "pool_size" (by decide),
      h "session_index" (by decide), h "verify_ssl" (by decide), h "timeout" (by decide),
      h "login_retry" (by decide)]

/-- The text of a slot, which may be none. -/
def indexChars : Option UInt64 → List Char
  | none => "null".toList
  | some n => Nat.toDigits 10 n.toNat

/-- The values of settings, as they are written under their names, with the chosen fields of the
policy for login attempts. -/
inductive Writes (retryChosen : List String) : String → List Char → Prop
  | server {s : List Char} (h : Json.Spells c.server s) : Writes retryChosen "server" s
  | database {s : List Char} (h : Json.Spells c.database s) : Writes retryChosen "database" s
  | username {s : List Char} (h : Json.Spells c.username s) : Writes retryChosen "username" s
  | password {s : List Char} (h : Json.Spells c.password.reveal s) : Writes retryChosen "password" s
  | cacheTtl : Writes retryChosen "cache_ttl" (Nat.toDigits 10 c.cacheTtl.toNat)
  | poolSize : Writes retryChosen "pool_size" (Nat.toDigits 10 c.poolSize.toNat)
  | sessionIndex : Writes retryChosen "session_index" (indexChars c.sessionIndex)
  | verifyTls : Writes retryChosen "verify_ssl" (Json.flagWord c.verifyTls)
  | timeout : Writes retryChosen "timeout" (Nat.toDigits 10 c.timeout.toNat)
  | loginRetry {s : List Char} (h : c.loginRetry.IsWritten retryChosen s) :
    Writes retryChosen "login_retry" s

variable {c}

/-- A number of 64 bits is read from its digits. -/
theorem reads_readNatural (n : UInt64) :
    Json.Reads (Json.readNatural largestUInt64) (Nat.toDigits 10 n.toNat) n.toNat :=
  Json.reads_readNatural (Nat.le_pred_of_lt n.toNat_lt) (by decide)

/-- A slot is read from its text. -/
theorem reads_indexChars (index : Option UInt64) :
    Json.Reads (Json.readNullable (Json.readNatural largestUInt64)) (indexChars index)
      (index.map UInt64.toNat) := by
  cases index with
  | none => exact Json.reads_readNullable_none
  | some n =>
    obtain ⟨first, digits, hcons, hdigit, -⟩ := Json.exists_toDigits_eq_cons n.toNat
    have hstart : (first = '-' || first.isDigit) = true := by rw [hdigit, Bool.or_true]
    obtain ⟨hspace, hmem⟩ := Json.not_mem_of_startsNumber hstart
    have hread := reads_readNatural n
    rw [indexChars, hcons] at *
    exact Json.reads_readNullable_some hread hspace fun h => hmem (by simp [h])

/-- The text of a slot is a value. -/
theorem isValue_indexChars (index : Option UInt64) : Json.IsValue (indexChars index) := by
  cases index with
  | none => exact .word List.mem_cons_self
  | some n => exact .number (Json.isNumber_toDigits _)

/-- The value of a setting is laid over the settings. -/
theorem Writes.reads (h : c.Writes retryChosen key s) {field : Json.Field Config}
    (hfind : fields.find? (·.name = key) = some field) (d : Config) :
    Json.Reads (field.read d) s ((c.withRetry retryChosen).onto d [key]) := by
  cases h with
  | server h | database h | username h | password h =>
    cases hfind
    exact (Json.reads_readText h).field (by simp [onto, withRetry])
  | cacheTtl | poolSize | timeout =>
    cases hfind
    exact (reads_readNatural _).field (by simp [onto, withRetry])
  | sessionIndex =>
    cases hfind
    exact (reads_indexChars _).field (by simp [onto, withRetry, Function.comp_def])
  | verifyTls =>
    cases hfind
    exact (Json.reads_readFlag _).field (by simp [onto, withRetry])
  | loginRetry h =>
    cases hfind
    exact (Json.reads_readRecord c.loginRetry.overlay LoginRetry.Writes.reads h .unwritten).field
      (by simp [onto, withRetry, LoginRetry.unwritten_eq_standard])

/-- A setting takes nothing behind its value. -/
theorem takesWhole_of_mem : ∀ field ∈ fields, field.TakesWhole := by
  simp only [fields, List.forall_mem_cons, List.not_mem_nil, false_implies, implies_true, and_true]
  exact ⟨Json.takesWhole_readText.field _ _, Json.takesWhole_readText.field _ _,
    Json.takesWhole_readText.field _ _, Json.takesWhole_readText.field _ _,
    (Json.takesWhole_readNatural _).field _ _, (Json.takesWhole_readNatural _).field _ _,
    (Json.takesWhole_readNatural _).readNullable.field _ _, Json.takesWhole_readFlag.field _ _,
    (Json.takesWhole_readNatural _).field _ _,
    (Json.takesWhole_readRecord LoginRetry.takesWhole_of_mem _).field _ _⟩

/-- The settings that are left out have the usual values. -/
theorem unwritten_eq_standard : unwritten = standard := rfl

/-- A document that holds the chosen settings, with the chosen fields of the policy for login
attempts. -/
def IsDocument (c : Config) (chosen retryChosen : List String) (text : String) : Prop :=
  ∃ p : Json.Padded, text.toList = p.chars ∧ Json.Holds fields (c.Writes retryChosen) chosen p.text

/-- There is a document for any settings and any fields of the policy for login attempts, in any
order. -/
theorem exists_isDocument (c : Config) (hnodup : chosen.Nodup)
    (hfields : chosen ⊆ Json.fieldNames fields) (hretryNodup : retryChosen.Nodup)
    (hretryFields : retryChosen ⊆ Json.fieldNames LoginRetry.fields) :
    ∃ text, c.IsDocument chosen retryChosen text := by
  have hstring : ∀ t, Json.IsValue (Json.quoted (String.toList t)) := fun t =>
    .string (Json.spells_quoted t).isString
  have hnumber : ∀ n, Json.IsValue (Nat.toDigits 10 n) := fun n =>
    .number (Json.isNumber_toDigits n)
  have hwrites : ∀ key ∈ chosen, ∃ s, c.Writes retryChosen key s ∧ Json.IsValue s := by
    intro key hkey
    have hname : key ∈ ["server", "database", "username", "password", "cache_ttl", "pool_size",
      "session_index", "verify_ssl", "timeout", "login_retry"] := hfields hkey
    simp only [List.mem_cons, List.not_mem_nil, or_false] at hname
    rcases hname with rfl | rfl | rfl | rfl | rfl | rfl | rfl | rfl | rfl | rfl
    · exact ⟨_, .server (Json.spells_quoted _), hstring _⟩
    · exact ⟨_, .database (Json.spells_quoted _), hstring _⟩
    · exact ⟨_, .username (Json.spells_quoted _), hstring _⟩
    · exact ⟨_, .password (Json.spells_quoted _), hstring _⟩
    · exact ⟨_, .cacheTtl, hnumber _⟩
    · exact ⟨_, .poolSize, hnumber _⟩
    · exact ⟨_, .sessionIndex, isValue_indexChars _⟩
    · exact ⟨_, .verifyTls, Json.isValue_flagWord _⟩
    · exact ⟨_, .timeout, hnumber _⟩
    · obtain ⟨s, hs⟩ := c.loginRetry.exists_isWritten hretryNodup hretryFields
      exact ⟨s, .loginRetry hs, hs.isValue⟩
  obtain ⟨s, hs⟩ := Json.exists_holds hnodup hfields hwrites
  refine ⟨String.ofList s, ⟨[], s, [], Json.isBlank_nil, Json.isBlank_nil⟩, ?_, hs⟩
  rw [String.toList_ofList, Json.Padded.chars, List.append_nil, List.nil_append]

/-- A document that names a setting twice, or a field of the policy for login attempts. -/
def RepeatsName (text : String) : Prop :=
  ∃ p : Json.Padded, text.toList = p.chars ∧
    (Json.Repeats fields p.text ∨ ∃ entries, Json.IsObject entries p.text ∧
      ∃ e ∈ entries, e.key = "login_retry" ∧ Json.Repeats LoginRetry.fields e.value.text)

/-- A field takes the value of its member in settings that are read. -/
theorem not_repeats_of_takes {field : Json.Field Config} (h : field.Takes s)
    (hfind : fields.find? (·.name = "login_retry") = some field) :
    ¬Json.Repeats LoginRetry.fields s := by
  rintro ⟨entries, hobject, hrepeats⟩
  cases hfind
  obtain ⟨d, blank, rest, result, hblank, -, hread⟩ := h
  obtain ⟨⟨r, rest'⟩, hretry, -⟩ := Json.exists_of_bind_eq_ok hread
  exact hrepeats
    (Json.of_readRecord_object LoginRetry.takesWhole_of_mem hobject hblank hretry).1

/-- No document that names a setting twice is read. -/
theorem not_repeatsName_of_ofJson {text : String} {d : Config} (h : ofJson text = .ok d) :
    ¬RepeatsName text := by
  rintro ⟨p, htext, hrepeats⟩
  obtain ⟨r, hread⟩ := Json.of_parseRecord htext h
  obtain ⟨entries, hobject, htwice⟩ | ⟨entries, hobject, e, he, hkey, htwice⟩ := hrepeats
  · exact htwice (Json.of_readRecord_object takesWhole_of_mem hobject p.before_isBlank hread).1
  · have htaken :=
      (Json.of_readRecord_object takesWhole_of_mem hobject p.before_isBlank hread).2 e he
    rw [hkey] at htaken
    exact not_repeats_of_takes (htaken _ rfl) rfl htwice

/-- A document gives the settings that it holds and the usual value of every other one, in
whichever order they stand and whatever JSON stands under other names; a document that names a
setting twice is refused. -/
theorem ofJson_document (c : Config) :
    (∀ {chosen retryChosen text}, c.IsDocument chosen retryChosen text →
      ofJson text = .ok ((c.withRetry retryChosen).onto .standard chosen)) ∧
    ∀ {text}, RepeatsName text → ∃ fault, ofJson text = .error fault := by
  constructor
  · rintro chosen retryChosen text ⟨p, htext, hholds⟩
    rw [← unwritten_eq_standard]
    exact Json.parseRecord_eq_ok htext
      (Json.reads_readRecord (c.withRetry retryChosen).overlay Writes.reads hholds .unwritten)
  · intro text hrepeats
    cases hread : ofJson text with
    | error fault => exact ⟨fault, rfl⟩
    | ok d => exact absurd hrepeats (not_repeatsName_of_ofJson hread)

/-- Half of a pair of surrogates is JSON, if it is no text. -/
theorem isValue_lone_surrogate : Json.IsValue "[ \"\\ud800\"]".toList := by
  have hstring : Json.IsString "\"\\ud800\"".toList :=
    ⟨["\\ud800".toList], List.forall_mem_singleton.2 (.codeUnit (.mk rfl rfl rfl rfl)), by decide⟩
  have hitems : ∀ item ∈ [Json.Padded.mk [' '] _ [] Json.isBlank_space Json.isBlank_nil],
      Json.IsValue item.text := List.forall_mem_singleton.2 (.string hstring)
  exact .array hitems (.some _ _)

/-- Two settings, one of them in part, behind a member of another name, and a setting twice. -/
theorem ofJson_document_partly :
    ofJson " \x7b\"x\":[ \"\\ud800\"],\"login_retry\":\x7b\"delay_ms\":5\x7d,\"pool_size\":3\x7d" =
      .ok { standard with poolSize := 3, loginRetry := ⟨3, 5⟩ } ∧
    ∃ fault, ofJson "\x7b\"timeout\":1,\"timeout\":1\x7d" = .error fault := by
  have hnumber : ∀ n, Json.IsValue (Nat.toDigits 10 n) := fun n =>
    .number (Json.isNumber_toDigits n)
  have hretry : LoginRetry.IsWritten ⟨9, 5⟩ ["delay_ms"] "\x7b\"delay_ms\":5\x7d".toList :=
    ⟨by decide, [.compact "delay_ms" (hnumber 5)], .some _ _, .of_eq rfl,
      List.forall_mem_singleton.2 fun _ => .delay⟩
  constructor
  · refine (ofJson_document { standard with poolSize := 3, loginRetry := ⟨9, 5⟩ }).1
      (?_ : IsDocument _ ["login_retry", "pool_size"] ["delay_ms"] _)
    refine ⟨⟨[' '], _, [], Json.isBlank_space, Json.isBlank_nil⟩, rfl, by decide,
      [.compact "x" isValue_lone_surrogate, .compact "login_retry" hretry.isValue,
        .compact "pool_size" (hnumber 3)], .some _ _, .of_eq rfl, ?_⟩
    simp only [List.forall_mem_cons]
    exact ⟨fun h => absurd h (by decide), fun _ => .loginRetry hretry, fun _ => .poolSize, nofun⟩
  · have htwice : ¬["timeout", "timeout"].Nodup := by decide
    exact (ofJson_document standard).2 ⟨⟨[], _, [], Json.isBlank_nil, Json.isBlank_nil⟩, rfl,
      .inl ⟨[.compact "timeout" (hnumber 1), .compact "timeout" (hnumber 1)], .some _ _, htwice⟩⟩

end Config

end ODataSession
