import ODataSession.Proofs.Query.Literal
import ODataSession.Proofs.Text.Parts
import ODataSession.Proofs.Url.Markup
import ODataSession.Proofs.Url.Origin

/-!
# Which keys address their record

The path of a record is written with the key as a literal, which escapes no markup, and then
resolved as a reference, which heeds it. So the request for a record addresses the record exactly if
its key is inert, which is to say that there is no markup in it (`Client.IsOnHttp.addresses_find`).
Numbers are inert, and so is a text with any quotes, parentheses, spaces and letters of any script.
-/

namespace ODataSession

namespace Url

/-! ## References that begin with an identifier -/

/-- The characters of identifiers. -/
def isIdentifierChar (c : Char) : Bool :=
  c.isAlphanum || c = '_'

/-- A name of letters, digits and underscores that is not empty. -/
def IsIdentifier (name : String) : Prop :=
  name ≠ "" ∧ name.toList.all isIdentifierChar = true

instance (name : String) : Decidable (IsIdentifier name) :=
  inferInstanceAs (Decidable (_ ∧ _))

/-- A character of identifiers is none of the others. -/
theorem ne_of_isIdentifierChar {c d : Char} (hc : isIdentifierChar c = true)
    (hd : isIdentifierChar d = false) : c ≠ d := by
  rintro rfl
  rw [hc] at hd
  cases hd

/-- No colon follows what could be a scheme in an identifier before a parenthesis. -/
theorem head?_dropWhile_isSchemeChar {entity : List Char}
    (hentity : ∀ c ∈ entity, isIdentifierChar c = true) (rest : List Char) :
    ((entity ++ '(' :: rest).dropWhile isSchemeChar).head? ≠ some ':' := by
  induction entity with
  | nil => simp [isSchemeChar]
  | cons c entity ih =>
    obtain ⟨hc, hentity⟩ := List.forall_mem_cons.1 hentity
    rw [List.cons_append, List.dropWhile_cons]
    split
    · exact ih hentity
    · intro h
      obtain rfl := Option.some.inj h
      cases hc

/-- An identifier before a parenthesis is no scheme. -/
theorem cutScheme?_identifier {entity : List Char}
    (hentity : ∀ c ∈ entity, isIdentifierChar c = true) (rest : List Char) :
    cutScheme? (entity ++ '(' :: rest) = none := by
  have hcolon := head?_dropWhile_isSchemeChar hentity rest
  unfold cutScheme?
  split
  · rfl
  · split
    · split
      · next hdrop => exact absurd (by rw [hdrop]; rfl) hcolon
      · rfl
    · rfl

/-- No identifier has a control or a space. -/
theorem not_isControlOrSpace {c : Char} (h : isIdentifierChar c = true) :
    isControlOrSpace c = false := by
  have hlow : ∀ c : Char, c.toNat < 33 → isIdentifierChar c = false :=
    Text.forall_toNat_lt (by decide)
  refine decide_eq_false fun hc => ?_
  exact ne_of_isIdentifierChar h (hlow c (Nat.lt_succ_of_le hc)) rfl

/-- No identifier has a tab or a newline. -/
theorem not_isTabOrNewline {c : Char} (h : isIdentifierChar c = true) :
    isTabOrNewline c = false := by
  rw [← Bool.not_eq_true]
  intro hc
  simp only [isTabOrNewline, Bool.or_eq_true, decide_eq_true_eq] at hc
  rcases hc with (rfl | rfl) | rfl <;> cases h

section
variable {base : Url} {segments : List (List Char)} (hkind : base.kind = .special)
  (hpath : base.path = .segments segments)
include hkind hpath

/-- A reference that begins like an identifier is resolved beside the last segment of the base. -/
theorem resolve_of_isIdentifierChar {a : Char} (ha : isIdentifierChar a = true) (s : List Char) :
    resolve base (a :: s) = .ok (base.withPath segments.dropLast (a :: s)) := by
  refine resolve_cons hkind hpath ?_ s
  simp only [List.mem_cons, List.not_mem_nil, or_false, not_or]
  exact ⟨ne_of_isIdentifierChar ha rfl, ne_of_isIdentifierChar ha rfl,
    ne_of_isIdentifierChar ha rfl, ne_of_isIdentifierChar ha rfl⟩

/-- The URL of an endpoint that is an identifier and a text in parentheses lies beside the last
segment of the base. -/
theorem endpoint_of_identifier {name : String} {entity rest : List Char}
    (hname : name.toList = entity ++ '(' :: (rest ++ [')'])) (hne : entity ≠ [])
    (hentity : ∀ c ∈ entity, isIdentifierChar c = true) :
    base.endpoint name = .ok (base.withPath segments.dropLast (seen name.toList)) := by
  obtain ⟨a, entity, rfl⟩ := List.exists_cons_of_ne_nil hne
  have ha := hentity a (List.mem_cons_self ..)
  have hclean : clean (name.toList.dropWhile (· = '/')) = seen name.toList := by
    have hends : name.toList = a :: ((entity ++ '(' :: rest) ++ [')']) := by simp [hname]
    have hslash : a ≠ '/' := ne_of_isIdentifierChar ha rfl
    rw [clean, seen, hends, List.dropWhile_cons_of_neg (by simpa using hslash),
      Text.trimBy_of_not (not_isControlOrSpace ha) (by decide)]
  have hkept : seen name.toList = (a :: entity) ++ '(' :: seen (rest ++ [')']) := by
    have hself : seen (a :: entity) = a :: entity := by
      rw [seen, List.filter_eq_self]
      intro c hc
      rw [not_isTabOrNewline (hentity c hc)]
      rfl
    rw [hname, seen, List.filter_append, ← seen, hself, List.filter_cons_of_pos (by decide), seen]
  rw [endpoint, hclean, hkept, readClean, cutScheme?_identifier hentity]
  exact resolve_of_isIdentifierChar hkind hpath ha _

end

end Url

/-! ## Records -/

/-- A literal without markup: any number, and a text without markup. -/
def Literal.IsInert : Literal → Prop
  | .text s => Url.IsInert s.toList
  | _ => True

instance : DecidablePred Literal.IsInert
  | .text s => inferInstanceAs (Decidable (Url.IsInert s.toList))
  | .integer _ | .unsigned _ | .float _ => inferInstanceAs (Decidable True)

/-- The path of a record has markup only in its key. -/
theorem Literal.isInert_keyPath {entity : List Char}
    (hentity : ∀ c ∈ entity, Url.isIdentifierChar c = true) (l : Literal) :
    Url.IsInert (entity ++ '(' :: (l.render.toList ++ [')'])) ↔ l.IsInert := by
  have hplain : ∀ c ∈ entity ++ ['('], Url.isPlainChar c = true := by
    rw [List.forall_mem_append]
    exact ⟨fun c hc => Url.isPlainChar_of_any (by decide) (hentity c hc),
      List.forall_mem_singleton.2 rfl⟩
  have hnumber : l.isNumeric = true →
      Url.IsInert (entity ++ '(' :: (l.render.toList ++ [')'])) := by
    intro hl
    rw [← List.singleton_append, ← List.append_assoc]
    refine Url.isInert_of_forall ?_
    simp only [List.forall_mem_append]
    have hdigits : ∀ c ∈ l.render.toList, Url.isPlainChar c = true := fun c hc =>
      Url.isPlainChar_of_any (by decide) (isNumberChar_of_mem_render hl hc)
    exact ⟨List.forall_mem_append.1 hplain, hdigits, List.forall_mem_singleton.2 rfl⟩
  cases l with
  | integer | unsigned | float => exact iff_of_true (hnumber rfl) trivial
  | text s =>
    have hpath : entity ++ '(' :: ((Literal.text s).render.toList ++ [')']) =
        (entity ++ ['(']) ++ Quoted.quote :: (Quoted.double s.toList ++ Quoted.quote :: [')']) := by
      simp [render, Quoted.render]
    rw [hpath]
    refine forall_congr' fun p => forall_congr' fun hp => not_congr ?_
    rw [Text.infix_append_cons_iff hp.quote_not_mem, Text.infix_append_cons_iff hp.quote_not_mem,
      Url.infix_double_iff hp.quote_not_mem]
    have hfront : ¬p <:+: entity ++ ['('] := Url.isInert_of_forall hplain p hp
    have hbehind : ¬p <:+: [')'] := 
      Url.isInert_of_forall (List.forall_mem_singleton.2 rfl) p hp
    simp only [hfront, hbehind, false_or, or_false]

/-- A URL that addresses what a path names below a base, with some parameters: the path of the URL
stands for the octets of the base's path and those of the named one, the segments of the base are
still there, the query holds the parameters and nothing else, and there is no fragment. -/
structure Url.Addresses (url base : Url) (path : String) (query : QueryParameters) : Prop where
  origin_eq : url.origin = base.origin
  octets_eq : Percent.octets url.path.chars =
    Percent.octets base.path.chars ++ Utf8.encode path.toList
  isBelow : ∃ front own, base.path = .segments (front ++ [[]]) ∧ url.path = .segments (front ++ own)
  query_eq : url.query =
    if query.isEmpty then none else (base.withQuery query.encode.toList).query
  fragment_eq : url.fragment = none

/-- What follows the directory of a base of a special scheme addresses a path that begins with an
identifier exactly if the path is inert. -/
theorem Url.addresses_iff {base url : Url} (hkind : base.kind = .special)
    {front : List (List Char)} (hbase : base.path = .segments (front ++ [[]])) {path : String}
    (hfirst : path.toList.head? ≠ some '.') (hlast : path.toList.getLast? ≠ some '.')
    {query : QueryParameters}
    (hurl : url = if query.isEmpty then base.withPath front (seen path.toList)
      else (base.withPath front (seen path.toList)).withQuery query.encode.toList) :
    url.Addresses base path query ↔ IsInert path.toList := by
  have hpath : url.path =
      .segments (pushPieces .special front (piecesOf .special (pathText (seen path.toList)))) := by
    have hresolved : (base.withPath front (seen path.toList)).path =
        .segments (resolvePath .special front (pathText (seen path.toList))) := by
      rw [withPath, path_withTail, hkind]
    rw [hurl]
    split
    · exact hresolved
    · exact hresolved
  have hsub : (pathText (seen path.toList)).Sublist path.toList :=
    (List.takeWhile_sublist _).trans (seen_sublist _)
  have hdirectory : Percent.octets base.path.chars ++ Utf8.encode path.toList =
      Percent.octets (Path.segments front).chars ++ 0x2f :: Utf8.encode path.toList := by
    rw [hbase, octets_segments_append, octets_segments_singleton]
    simp [Percent.octets]
  have hiff := (octets_pushPieces_iff front hsub).trans (isInert_iff hfirst hlast).symm
  constructor
  · intro h
    have hoctets := h.octets_eq
    rw [hpath, hdirectory] at hoctets
    exact hiff.1 hoctets
  · intro h
    obtain ⟨hall, hdots, -, -⟩ := (isInert_iff hfirst hlast).1 h
    have htail := tailText_eq_nil hall
    have hpath' : url.path =
        .segments (front ++ (piecesOf .special path.toList).map (Percent.encode keptInPath)) := by
      rw [hpath, hall, pushPieces_of_forall_not hdots]
    refine ⟨?_, ?_, ⟨front, _, hbase, hpath'⟩, ?_, ?_⟩
    · rw [hurl]
      split <;> simp
    · rw [hpath, hdirectory]
      exact hiff.2 h
    · rw [hurl, withPath, htail]
      split
      · rfl
      · rfl
    · rw [hurl, withPath, htail]
      split
      · rfl
      · rfl

/-- On a base whose path ends in a slash, the request for a record goes to a URL, and this URL
addresses the record exactly if the key is inert. -/
theorem Client.IsOnHttp.addresses_find {c : Client} (hc : c.IsOnHttp) {front : List (List Char)}
    (hbase : c.base.path = .segments (front ++ [[]])) {e : EntityQuery}
    (he : Url.IsIdentifier e.entity) {α : Type} [ToLiteral α] (key : α)
    (headers : List Http.Header) :
    ∃ request, c.prepare (e.findRequest key) headers = .ok request ∧
      (request.url.Addresses c.base (e.keyPath key) e.query.toParameters ↔
        (toLiteral key).IsInert) := by
  have hname : (e.keyPath key).toList =
      e.entity.toList ++ '(' :: ((toLiteral key).render.toList ++ [')']) := by
    simp [EntityQuery.keyPath, escape]
  have hne : e.entity.toList ≠ [] := by simpa using he.1
  have hentity := List.all_eq_true.1 he.2
  have hurl := Url.endpoint_of_identifier hc.kind_eq hbase hname hne hentity
  rw [List.dropLast_concat] at hurl
  have hfirst : (e.keyPath key).toList.head? ≠ some '.' := by
    obtain ⟨a, entity, hcons⟩ := List.exists_cons_of_ne_nil hne
    have ha := hentity a (by simp [hcons])
    rw [hname, hcons]
    exact fun hdot => Url.ne_of_isIdentifierChar ha rfl (Option.some.inj hdot)
  have hlast : (e.keyPath key).toList.getLast? ≠ some '.' := by
    have hends : (e.keyPath key).toList =
        (e.entity.toList ++ '(' :: (toLiteral key).render.toList) ++ [')'] := by
      simp [hname]
    rw [hends, List.getLast?_concat]
    decide
  refine ⟨_, c.prepare_of_endpoint (r := e.findRequest key) hurl headers,
    (Url.addresses_iff hc.kind_eq hbase hfirst hlast rfl).trans ?_⟩
  rw [hname]
  exact Literal.isInert_keyPath hentity _

/-- A key with a quote, a parenthesis, a percent sign and a slash addresses its record. -/
theorem Client.addresses_find_plain :
    ∃ request, Client.sample.prepare (((EntityQuery.ofEntity "Items").withQuery
        (ODataQuery.empty.select ["ItemCode"])).findRequest "O'Brien (50%) a/b") [] = .ok request ∧
      request.url.Addresses .sampleBase "Items('O''Brien (50%) a/b')"
        (ODataQuery.empty.select ["ItemCode"]).toParameters := by
  have hbase : Client.sample.base.path = .segments (["b1s".toList, "v1".toList] ++ [[]]) := rfl
  obtain ⟨request, hprepare, haddresses⟩ := Client.isOnHttp_sample.addresses_find
    (e := (EntityQuery.ofEntity "Items").withQuery (ODataQuery.empty.select ["ItemCode"]))
    hbase (by decide) "O'Brien (50%) a/b" []
  exact ⟨request, hprepare, haddresses.2 (by decide)⟩

/-- What follows a hash in a key becomes a fragment, so another record is addressed. -/
theorem Client.not_addresses_find_hash :
    Client.sample.IsOnHttp ∧
    ∃ request, Client.sample.prepare ((EntityQuery.ofEntity "Items").findRequest "A#1") [] =
        .ok request ∧
      request.url.text = "https://sl.example/b1s/v1/Items('A#1')" ∧
      request.url.path = .segments ["b1s".toList, "v1".toList, "Items('A".toList] ∧
      request.url.fragment = some "1')".toList ∧
      ¬request.url.Addresses .sampleBase "Items('A#1')" .empty := by
  have hurl : Client.sample.base.endpoint ((EntityQuery.ofEntity "Items").keyPath "A#1") =
      .ok { Url.sampleBase with
        path := .segments ["b1s".toList, "v1".toList, "Items('A".toList]
        fragment := some "1')".toList } := by
    decide +kernel
  have hprepare := Client.prepare_of_endpoint
    (r := (EntityQuery.ofEntity "Items").findRequest "A#1") hurl []
  exact ⟨isOnHttp_sample, _, hprepare, by decide, rfl, rfl, fun h => nomatch h.fragment_eq⟩

end ODataSession
