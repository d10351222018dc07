import ODataSession.Proofs.Url.Authority
import ODataSession.Url.Endpoint

/-!
# Endpoints of servers

A text that is read as a URL of a special scheme has a path of segments, beside whose last segment a
reference without marks in front is resolved (`Url.resolve_cons`). The endpoints that open and close
sessions exist on exactly the bases with a path of segments (`Url.exists_endpoint_iff`), and so on
every server with a scheme of HTTP.
-/

namespace ODataSession.Url

/-- The schemes of HTTP are special. -/
theorem kind_eq_special {u : Url}
    (hscheme : u.scheme = "http".toList ∨ u.scheme = "https".toList) : u.kind = .special := by
  unfold kind
  rcases hscheme with h | h <;> rw [h] <;> decide

/-- A path of segments. -/
def IsRooted (u : Url) : Prop :=
  ∃ parts, u.path = .segments parts

/-- A path that is put behind a URL has segments. -/
theorem isRooted_withPath (u : Url) (segments : List (List Char)) (s : List Char) :
    (u.withPath segments s).IsRooted :=
  ⟨_, path_withTail _ _⟩

/-- A text that is read as a URL of a special scheme has a path of segments. -/
theorem isRooted_of_readClean {s : List Char} {u : Url} (h : readClean none s = .ok u)
    (hkind : u.kind = .special) : u.IsRooted := by
  obtain ⟨authority, hu⟩ := exists_eq_withPath h hkind
  rw [hu]
  exact isRooted_withPath _ _ _

/-- A reference that starts with none of the marks `/`, `\\`, `?` and `#` can be resolved against
exactly the bases with a path of segments. -/
theorem exists_resolve_iff (base : Url) {c : Char} (rest : List Char)
    (hc : c ∉ ['/', '\\', '?', '#']) :
    (∃ url, base.resolve (c :: rest) = .ok url) ↔ base.IsRooted := by
  simp only [List.mem_cons, List.not_mem_nil, or_false, not_or] at hc
  obtain ⟨hslash, hbackslash, hquery, hhash⟩ := hc
  rw [resolve, if_neg (by simpa using hhash), IsRooted]
  cases base.path with
  | rootless text => simp
  | segments parts =>
    refine iff_of_true ?_ ⟨parts, rfl⟩
    dsimp only
    split
    · have hno : isSlash .file c = false := by simp [isSlash, hslash, hbackslash]
      simp only [readFile, hno, Bool.false_eq_true, reduceIte, hquery, hhash]
      split <;> exact ⟨_, rfl⟩
    · simp [resolveOn, hslash, hbackslash]

/-- On a special scheme such a reference lies beside the last segment of the base. -/
theorem resolve_cons {base : Url} (hkind : base.kind = .special) {segments : List (List Char)}
    (hpath : base.path = .segments segments) {c : Char} (hc : c ∉ ['/', '\\', '?', '#'])
    (rest : List Char) :
    base.resolve (c :: rest) = .ok (base.withPath segments.dropLast (c :: rest)) := by
  simp only [List.mem_cons, List.not_mem_nil, or_false, not_or] at hc
  obtain ⟨hslash, hbackslash, hquery, hhash⟩ := hc
  have hfile : base.kind ≠ .file := by simp [hkind]
  simp [resolve, resolveOn, hpath, hfile, hhash, hslash, hbackslash]

/-- The endpoints that open and close sessions exist on exactly the bases with a path of
segments. -/
theorem exists_endpoint_iff {name : String} (hname : name = "Login" ∨ name = "Logout")
    (base : Url) : (∃ url, base.endpoint name = .ok url) ↔ base.IsRooted := by
  have hread : ∀ s, cutScheme? s = none → readClean (some base) s = base.resolve s := by
    intro s hcut
    rw [readClean, hcut]
  rcases hname with rfl | rfl
  · have hendpoint : base.endpoint "Login" = _ := hread "Login".toList (by decide)
    rw [hendpoint]
    exact base.exists_resolve_iff "ogin".toList (by decide)
  · have hendpoint : base.endpoint "Logout" = _ := hread "Logout".toList (by decide)
    rw [hendpoint]
    exact base.exists_resolve_iff "ogout".toList (by decide)

/-- The endpoints that open and close sessions exist on every server with a scheme of HTTP. -/
theorem exists_endpoint {server name : String} {base : Url} (hbase : ofServer server = .ok base)
    (hscheme : base.scheme = "http".toList ∨ base.scheme = "https".toList)
    (hname : name = "Login" ∨ name = "Logout") : ∃ url, base.endpoint name = .ok url :=
  (exists_endpoint_iff hname base).2 (isRooted_of_readClean hbase (kind_eq_special hscheme))

end ODataSession.Url
