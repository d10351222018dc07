import ODataSession.Proofs.Text.Decoding
import ODataSession.Proofs.Url.KeyPath

/-!
# Bases that are directories

Endpoints lie beside the last segment of their base, so below the whole path of the base only if that
segment is empty. The last segment is read of the piece that stands last in the path of the text of
the server, and it is empty exactly if the piece is empty or a dot piece (`Url.isDirectory_iff`). The
slash that is appended to the text of a server sees to that where the path is all that follows the
authority. Where a query or a fragment follows, the slash is appended to that.
-/

namespace ODataSession.Url

/-! ## The path of a server -/

/-- What is read of the text of a server. -/
def serverText (server : String) : List Char :=
  clean (withFinalSlash (Text.trimBy Text.isBlank server.toList))

/-- The path of a text of a special scheme, without the slash in front. -/
def writtenPath (s : List Char) : List Char :=
  pathText (behindServer s)

/-- Whether a path ends in a separator or in a piece that stands for a directory. -/
def namesDirectory (path : List Char) : Bool :=
  (piecesOf .special path).getLast?.any fun piece => piece.isEmpty || isDotPiece piece

/-- The segment that a last piece becomes. -/
def lastSegment (piece : List Char) : List Char :=
  if isDotPiece piece then [] else Percent.encode keptInPath piece

/-- The last of the pieces that are appended is the last segment. -/
theorem exists_pushPieces_concat (segments pieces : List (List Char)) (piece : List Char) :
    ∃ front, pushPieces .special segments (pieces ++ [piece]) = front ++ [lastSegment piece] := by
  induction pieces generalizing segments with
  | nil =>
    rw [List.nil_append, pushPieces, pushPiece, lastSegment, isDotPiece]
    cases isDoubleDot piece <;> cases isSingleDot piece <;> exact ⟨_, rfl⟩
  | cons first pieces ih =>
    obtain ⟨front, hfront⟩ := ih (pushPiece .special segments first false)
    refine ⟨front, ?_⟩
    cases pieces with
    | nil => exact hfront
    | cons => exact hfront

/-- The last segment is empty for pieces that stand for directories, and for no others. -/
theorem lastSegment_eq_nil_iff {piece : List Char} :
    lastSegment piece = [] ↔ (piece.isEmpty || isDotPiece piece) = true := by
  rw [lastSegment, Bool.or_eq_true, List.isEmpty_iff]
  split
  · next hdot => simp [hdot]
  · next hdot => simp [hdot, Percent.encode_eq_nil_iff]

/-- There is no slash in a last segment. -/
theorem not_mem_lastSegment {path piece : List Char} (h : piece ∈ piecesOf .special path) :
    '/' ∉ lastSegment piece := by
  have hpiece : '/' ∉ piece := fun hmem => nomatch Text.not_separates_of_mem_splitOn h hmem
  rw [lastSegment]
  split
  · exact List.not_mem_nil
  · exact Percent.not_mem_encode hpiece (by decide) (by decide)

/-- The path of a server has the last segment that the path of its text tells. -/
theorem exists_path_eq {server : String} {base : Url} (hbase : ofServer server = .ok base)
    (hkind : base.kind = .special) : ∃ front last, base.path = .segments (front ++ [last]) ∧
      '/' ∉ last ∧ (last = [] ↔ namesDirectory (writtenPath (serverText server)) = true) := by
  obtain ⟨authority, hread⟩ := exists_eq_withPath (s := serverText server) hbase hkind
  have hpath : base.path =
      .segments (pushPieces .special [] (piecesOf .special (writtenPath (serverText server)))) := by
    have hkind' : schemeKind base.scheme = .special := hkind
    rw [hread, withPath, path_withTail, kind, hkind', resolvePath_special, writtenPath]
  obtain hnil | ⟨pieces, piece, hpieces⟩ :=
    List.eq_nil_or_concat' (piecesOf .special (writtenPath (serverText server)))
  · exact absurd hnil (Text.splitOn_ne_nil _ _)
  · obtain ⟨front, hfront⟩ := exists_pushPieces_concat [] pieces piece
    refine ⟨front, lastSegment piece, by rw [hpath, hpieces, hfront], ?_, ?_⟩
    · exact not_mem_lastSegment (by rw [hpieces]; exact List.mem_concat_self)
    · rw [lastSegment_eq_nil_iff, namesDirectory, hpieces, List.getLast?_concat, Option.any_some]

/-! ## Servers without marks -/

/-- The text of a server ends in a slash. -/
theorem exists_serverText_eq (server : String) : ∃ front, serverText server = front ++ ['/'] := by
  have hfinal : ∀ s : List Char, ∃ front, withFinalSlash s = front ++ ['/'] := by
    intro s
    rw [withFinalSlash]
    split
    · next hlast =>
      obtain ⟨front, hfront⟩ := List.getLast?_eq_some_iff.1 hlast
      exact ⟨front, hfront⟩
    · exact ⟨s, rfl⟩
  obtain ⟨front, hfront⟩ := hfinal (Text.trimBy Text.isBlank server.toList)
  refine ⟨(front.dropWhile isControlOrSpace).filter (!isTabOrNewline ·), ?_⟩
  rw [serverText, clean, hfront, Text.trimBy_concat_of_not (by decide), List.filter_append]
  rfl

/-- The text of a server has no marks that the server does not have. -/
theorem not_mem_serverText {server : String} {mark : Char} (hmark : mark ∉ server.toList)
    (hslash : mark ≠ '/') : mark ∉ serverText server := by
  intro hmem
  have hread := Text.mem_of_mem_trimBy (List.mem_of_mem_filter hmem)
  rw [withFinalSlash] at hread
  split at hread
  · exact hmark (Text.mem_of_mem_trimBy hread)
  · obtain hread | hread := List.mem_append.1 hread
    · exact hmark (Text.mem_of_mem_trimBy hread)
    · exact hslash (List.mem_singleton.1 hread)

/-- The text of a server has a path that ends in a slash, unless a query or a fragment ends it. -/
theorem namesDirectory_of_not_mem {server : String} (hquery : '?' ∉ server.toList)
    (hfragment : '#' ∉ server.toList) :
    namesDirectory (writtenPath (serverText server)) = true := by
  have hsuffix := behindServer_suffix (serverText server)
  have hwhole : writtenPath (serverText server) = behindServer (serverText server) := by
    refine List.takeWhile_eq_self_iff.2 fun c hc => ?_
    have hmem := hsuffix.subset hc
    have hnone : c ≠ '?' ∧ c ≠ '#' :=
      ⟨fun h => not_mem_serverText hquery (by decide) (h ▸ hmem),
        fun h => not_mem_serverText hfragment (by decide) (h ▸ hmem)⟩
    simp [endsPath, hnone]
  obtain ⟨front, hfront⟩ := exists_serverText_eq server
  rw [hwhole]
  rw [hfront] at hsuffix
  obtain hnil | ⟨path, last, hpath⟩ := List.eq_nil_or_concat' (behindServer (serverText server))
  · rw [hnil]
    rfl
  · have hlast : last = '/' := by
      rw [hfront] at hpath
      rw [hpath] at hsuffix
      obtain ⟨before, hbefore⟩ := hsuffix
      rw [← List.append_assoc] at hbefore
      exact List.singleton_inj.1 (List.append_inj_right' hbefore rfl)
    have hpieces : piecesOf .special (path ++ ['/']) = piecesOf .special path ++ [[]] :=
      Text.splitOn_append_cons rfl _ _
    rw [hpath, hlast, namesDirectory, hpieces, List.getLast?_concat]
    rfl

/-! ## Endpoints beside a segment -/

/-- The characters of endpoints that name a record or a collection of records. -/
def isEndpointChar (c : Char) : Bool :=
  isIdentifierChar c || c = Quoted.quote || c = '(' || c = ')'

/-- A name of an endpoint that is not empty. -/
def IsPlainEndpoint (name : String) : Prop :=
  name ≠ "" ∧ name.toList.all isEndpointChar = true

instance (name : String) : Decidable (IsPlainEndpoint name) :=
  inferInstanceAs (Decidable (_ ∧ _))

/-- The characters that have a meaning in a reference. -/
def referenceMarks : List Char :=
  ['/', '\\', '?', '#', ':', '.', '%']

/-- A path keeps the characters of endpoints, and none of them has a meaning in a reference. -/
theorem isEndpointChar_spec {c : Char} (h : isEndpointChar c = true) :
    keptInPath c = true ∧ c ∉ referenceMarks := by
  have hkept : ∀ c : Char, c.toNat < 123 → isEndpointChar c = true →
      keptInPath c = true ∧ c ∉ referenceMarks :=
    Text.forall_toNat_lt (by decide)
  refine hkept c ?_ h
  simp only [isEndpointChar, isIdentifierChar, Bool.or_eq_true, decide_eq_true_eq] at h
  rcases h with (((h | rfl) | rfl) | rfl) | rfl
  · exact Text.toNat_lt_of_isAlphanum h
  all_goals decide

/-- A path keeps no control, no space and no mark of a query or a fragment. -/
theorem not_of_keptInPath {c : Char} (h : keptInPath c = true) :
    isControlOrSpace c = false ∧ isTabOrNewline c = false ∧ endsPath c = false := by
  have hno : ∀ d, keptInPath d = false → c ≠ d := by
    rintro _ hd rfl
    rw [h] at hd
    cases hd
  have hlow : ∀ d : Char, d.toNat < 33 → keptInPath d = false := Text.forall_toNat_lt (by decide)
  refine ⟨decide_eq_false fun hc => hno c (hlow c (Nat.lt_succ_of_le hc)) rfl, ?_, ?_⟩
  · simp only [isTabOrNewline, hno '\t' rfl, hno '\n' rfl, hno '\r' rfl]
    rfl
  · simp only [endsPath, hno '?' rfl, hno '#' rfl]
    rfl

/-- What is no dot and has no escape is no dot piece. -/
theorem isDotPiece_eq_false {piece : List Char} (hdot : '.' ∉ piece) (hpercent : '%' ∉ piece) :
    isDotPiece piece = false := by
  have hescape : ¬Percent.HasEscape piece := by
    rintro ⟨a, b, -, -, hpart⟩
    exact hpercent (hpart.subset List.mem_cons_self)
  rw [← Bool.not_eq_true]
  intro h
  obtain rfl | rfl := eq_of_isDotPiece h hescape
  · exact hdot List.mem_cons_self
  · exact hdot List.mem_cons_self

/-- What has no colon has no scheme. -/
theorem cutScheme?_of_not_mem {s : List Char} (h : ':' ∉ s) : cutScheme? s = none := by
  unfold cutScheme?
  split
  · rfl
  · split
    · split
      · next hdrop =>
        exact absurd ((List.dropWhile_suffix _).subset (hdrop ▸ List.mem_cons_self)) h
      · rfl
    · rfl

section
variable {name : String} (h : IsPlainEndpoint name)
include h

/-- A path keeps a plain endpoint. -/
theorem IsPlainEndpoint.keptInPath {c : Char} (hc : c ∈ name.toList) : keptInPath c = true :=
  (isEndpointChar_spec (List.all_eq_true.1 h.2 c hc)).1

/-- Nothing in a plain endpoint has a meaning in a reference. -/
theorem IsPlainEndpoint.not_mem {mark : Char} (hmark : mark ∈ referenceMarks) :
    mark ∉ name.toList :=
  fun hmem => (isEndpointChar_spec (List.all_eq_true.1 h.2 mark hmem)).2 hmark

/-- A plain endpoint begins with a character that has no meaning in a reference. -/
theorem IsPlainEndpoint.exists_eq_cons :
    ∃ c rest, name.toList = c :: rest ∧ c ∉ referenceMarks := by
  have hne : name.toList ≠ [] := by simpa using h.1
  obtain ⟨c, rest, hcons⟩ := List.exists_cons_of_ne_nil hne
  exact ⟨c, rest, hcons, fun hmark => h.not_mem hmark (hcons ▸ List.mem_cons_self)⟩

/-- A plain endpoint is resolved as it is, without the slashes in front of it. -/
theorem IsPlainEndpoint.reference_eq (slashes : Nat) :
    reference (String.ofList (List.replicate slashes '/') ++ name) = name.toList := by
  obtain ⟨c, rest, hcons, hc⟩ := h.exists_eq_cons
  have hslash : c ≠ '/' := by
    rintro rfl
    exact hc (by decide)
  have hdrop : (String.ofList (List.replicate slashes '/') ++ name).toList.dropWhile (· = '/') =
      name.toList := by
    rw [String.toList_append, String.toList_ofList, hcons,
      List.dropWhile_append_of_pos fun c hc => by simp [List.eq_of_mem_replicate hc],
      List.dropWhile_cons_of_neg (by simpa using hslash)]
  rw [reference, hdrop, clean,
    Text.trimBy_of_forall_not fun c hc => (not_of_keptInPath (h.keptInPath hc)).1]
  refine List.filter_eq_self.2 fun c hc => ?_
  rw [(not_of_keptInPath (h.keptInPath hc)).2.1]
  rfl

/-- A plain endpoint is a segment of a path. -/
theorem IsPlainEndpoint.resolvePath_eq (front : List (List Char)) :
    resolvePath .special front name.toList = front ++ [name.toList] := by
  have hpieces : piecesOf .special name.toList = [name.toList] := by
    refine Text.splitOn_of_forall_not fun c hc => ?_
    have hslash : c ≠ '/' := fun heq => h.not_mem (by decide) (heq ▸ hc)
    have hbackslash : c ≠ '\\' := fun heq => h.not_mem (by decide) (heq ▸ hc)
    simp [isSlash_special, hslash, hbackslash]
  have hdot : ∀ piece ∈ [name.toList], isDotPiece piece = false := by
    rw [List.forall_mem_singleton]
    exact isDotPiece_eq_false (h.not_mem (by decide)) (h.not_mem (by decide))
  rw [resolvePath_special, hpieces, pushPieces_of_forall_not hdot, List.map_singleton,
    Percent.encode_of_forall_keep fun _ => h.keptInPath]

/-- Nothing of a plain endpoint is a query or a fragment. -/
theorem IsPlainEndpoint.withPath_eq {u : Url} (hkind : u.kind = .special)
    (front : List (List Char)) : u.withPath front name.toList = { u with
      path := .segments (front ++ [name.toList]), query := none, fragment := none } := by
  have hends : ∀ c ∈ name.toList, (!endsPath c) = true := by
    intro c hc
    rw [(not_of_keptInPath (h.keptInPath hc)).2.2]
    rfl
  have hpath : pathText name.toList = name.toList := List.takeWhile_eq_self_iff.2 hends
  have htail : tailText name.toList = [] := List.dropWhile_eq_nil_iff.2 hends
  rw [withPath, hkind, hpath, htail, h.resolvePath_eq]
  rfl

/-- The URL of a plain endpoint has the endpoint in the place of the last segment of the base,
whatever slashes are in front of it, and neither the query nor the fragment of the base. -/
theorem IsPlainEndpoint.endpoint_eq {base : Url} (hkind : base.kind = .special)
    {front : List (List Char)} {last : List Char} (hbase : base.path = .segments (front ++ [last]))
    (slashes : Nat) :
    base.endpoint (String.ofList (List.replicate slashes '/') ++ name) = .ok { base with
      path := .segments (front ++ [name.toList]), query := none, fragment := none } := by
  obtain ⟨c, rest, hcons, hc⟩ := h.exists_eq_cons
  have hmarks : c ∉ ['/', '\\', '?', '#'] := by
    have hsub : ['/', '\\', '?', '#'] ⊆ referenceMarks := by decide
    exact fun hmark => hc (hsub hmark)
  have hcut : cutScheme? name.toList = none := cutScheme?_of_not_mem (h.not_mem (by decide))
  rw [endpoint, ← reference, h.reference_eq, readClean, hcut]
  dsimp only
  rw [hcons, resolve_cons hkind hbase hmarks, ← hcons, List.dropLast_concat, h.withPath_eq hkind]

end

/-! ## Directories -/

/-- A base that is a directory: its path ends in a slash, and every endpoint lies below the whole
path, on the same server and without the query and the fragment of the base. -/
structure IsDirectory (base : Url) : Prop where
  getLast?_eq : base.path.chars.getLast? = some '/'
  endpoint_eq : ∀ (slashes : Nat) (name : String), IsPlainEndpoint name →
    ∃ url, base.endpoint (String.ofList (List.replicate slashes '/') ++ name) = .ok url ∧
      url.path.chars = base.path.chars ++ name.toList ∧ url.query = none ∧ url.fragment = none ∧
      url.origin = base.origin

/-- A base is a directory exactly if its last segment is empty. -/
theorem isDirectory_iff_eq_nil {base : Url} (hkind : base.kind = .special)
    {front : List (List Char)} {last : List Char} (hbase : base.path = .segments (front ++ [last]))
    (hlast : '/' ∉ last) : base.IsDirectory ↔ last = [] := by
  have hchars : base.path.chars = (Path.segments front).chars ++ '/' :: last := by
    simp [hbase, Path.chars]
  constructor
  · intro h
    have hends := h.getLast?_eq
    rw [hchars] at hends
    obtain hnil | ⟨part, c, rfl⟩ := List.eq_nil_or_concat' last
    · exact hnil
    · rw [← List.cons_append, ← List.append_assoc, List.getLast?_concat] at hends
      obtain rfl := Option.some.inj hends
      exact absurd List.mem_concat_self hlast
  · rintro rfl
    refine ⟨by rw [hchars, List.getLast?_concat], fun slashes name hname => ?_⟩
    refine ⟨_, hname.endpoint_eq hkind hbase slashes, ?_, rfl, rfl, rfl⟩
    rw [hchars]
    simp [Path.chars]

/-- The base of a server of HTTP is a directory exactly if the path in the text of the server ends
in a slash or in a piece that stands for a directory, and so in particular if the text has neither a
query nor a fragment. On any base an endpoint takes the place of the last segment. -/
theorem isDirectory_iff {server : String} {base : Url} (hbase : ofServer server = .ok base)
    (hscheme : base.scheme = "http".toList ∨ base.scheme = "https".toList) :
    (base.IsDirectory ↔ namesDirectory (writtenPath (serverText server)) = true) ∧
      ('?' ∉ server.toList → '#' ∉ server.toList → base.IsDirectory) ∧
      ∃ front last, base.path = .segments (front ++ [last]) ∧ '/' ∉ last ∧
        ∀ (slashes : Nat) (name : String), IsPlainEndpoint name →
          base.endpoint (String.ofList (List.replicate slashes '/') ++ name) = .ok { base with
            path := .segments (front ++ [name.toList]), query := none, fragment := none } := by
  have hkind := kind_eq_special hscheme
  obtain ⟨front, last, hpath, hlast, hnil⟩ := exists_path_eq hbase hkind
  have hiff := (isDirectory_iff_eq_nil hkind hpath hlast).trans hnil
  refine ⟨hiff, fun hquery hfragment => hiff.2 (namesDirectory_of_not_mem hquery hfragment),
    front, last, hpath, hlast, fun slashes _ hname => hname.endpoint_eq hkind hpath slashes⟩

/-- A server whose text has spaces and backslashes and no slash at its end is a directory. -/
theorem isDirectory_backslashes : ∃ base, ofServer " https:\\\\sl.example\\b1s\\v1 " = .ok base ∧
    base.text = "https://sl.example/b1s/v1/" ∧ base.IsDirectory := by
  have hbase : ofServer " https:\\\\sl.example\\b1s\\v1 " = .ok sampleBase := by
    decide +kernel
  exact ⟨_, hbase, by decide, (isDirectory_iff hbase (.inr rfl)).2.1 (by decide) (by decide)⟩

/-- The slash that is appended to the text of a server with a query becomes part of the query, so
that the last segment of its path is lost to every endpoint. -/
theorem not_isDirectory_query :
    ∃ base url, ofServer "https://sl.example/b1s/v1?tenant=1" = .ok base ∧
      base.scheme = "https".toList ∧ base.text = "https://sl.example/b1s/v1?tenant=1/" ∧
      base.path.chars = "/b1s/v1".toList ∧ IsPlainEndpoint "Items" ∧
      base.endpoint "Items" = .ok url ∧ url.text = "https://sl.example/b1s/Items" ∧
      ¬base.IsDirectory := by
  have hbase : ofServer "https://sl.example/b1s/v1?tenant=1" = .ok { sampleBase with
      path := .segments ["b1s".toList, "v1".toList], query := some "tenant=1/".toList } := by
    decide +kernel
  have hurl : Url.endpoint { sampleBase with
      path := .segments ["b1s".toList, "v1".toList], query := some "tenant=1/".toList } "Items" =
        .ok { sampleBase with path := .segments ["b1s".toList, "Items".toList] } := by
    decide +kernel
  refine ⟨_, _, hbase, rfl, by decide, by decide, by decide, hurl, by decide, fun h => ?_⟩
  have hends := h.getLast?_eq
  revert hends
  decide

end ODataSession.Url
