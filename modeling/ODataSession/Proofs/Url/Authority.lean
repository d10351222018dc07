import Mathlib.Data.List.TakeWhile
import ODataSession.Url.Reader

/-!
# What follows an authority

An authority of a special scheme ends at the first slash, backslash, question mark or hash, wherever
its user, its host and its port end in it (`Url.readAuthority_yields`). A text that is read as a URL
of its own starts with the scheme of the URL (`Url.exists_cutScheme?_eq`). So where the scheme is
special, the path of the URL is read of what the text has behind its authority
(`Url.exists_eq_withPath`).
-/

namespace ODataSession

/-! ## Values of computations that may fail -/

section
variable {ε α γ : Type} {P : α → Prop} {Q : γ → Prop}

/-- The value that a computation has, if it has one, is of a kind. -/
def Yields (P : α → Prop) (x : Except ε α) : Prop :=
  ∀ a, x = .ok a → P a

/-- Any computation has some value or none. -/
theorem yields_true (x : Except ε α) : Yields (fun _ => True) x :=
  fun _ _ => trivial

/-- A failure has no value. -/
theorem yields_throw (P : α → Prop) (e : ε) : Yields P (throw e : Except ε α) :=
  nofun

/-- A value that is given is the value. -/
theorem yields_pure {a : α} (h : P a) : Yields P (pure a : Except ε α) := by
  rintro _ ⟨⟩
  exact h

/-- The value of two steps is that of the second one. -/
theorem Yields.bind {x : Except ε γ} {f : γ → Except ε α} (hx : Yields Q x)
    (hf : ∀ c, Q c → Yields P (f c)) : Yields P (x >>= f) := by
  cases x with
  | error => exact nofun
  | ok c => exact hf c (hx c rfl)

end

namespace Url

/-! ## Authorities -/

/-- Cutting at the last mark leaves an end of the text behind it. -/
theorem suffix_of_cutAtLast? {mark : Char} {s front behind : List Char}
    (h : cutAtLast? mark s = some (front, behind)) : behind <:+ s := by
  unfold cutAtLast? at h
  split at h
  · obtain ⟨-, rfl⟩ := Prod.mk.inj (Option.some.inj h)
    have hprefix := List.takeWhile_prefix (fun c => decide (c ≠ mark)) (l := s.reverse)
    exact List.reverse_prefix.1 (by rwa [List.reverse_reverse])
  · cases h

/-- A host is cut off in front of the rest. -/
theorem cutHost_append (inBrackets : Bool) (s : List Char) :
    (cutHost inBrackets s).1 ++ (cutHost inBrackets s).2 = s := by
  induction s generalizing inBrackets with
  | nil => rfl
  | cons c s ih =>
    rw [cutHost]
    split
    · rfl
    · exact congrArg (c :: ·) (ih _)

/-- What follows the slashes and the authority of a special scheme. -/
def behindAuthority (s : List Char) : List Char :=
  s.dropWhile (!endsAuthority .special ·)

/-- An authority of a special scheme is followed by what it ends at. -/
theorem readAuthority_yields {scheme : List Char} (hkind : schemeKind scheme = .special)
    (s : List Char) : Yields (·.2 = behindAuthority s) (readAuthority scheme s) := by
  unfold readAuthority
  rw [hkind]
  extract_lets kind rest behindUser
  have htext : '\\' ∉ s.takeWhile (!endsAuthority kind ·) := by
    intro hmem
    cases List.mem_takeWhile_imp hmem
  -- There is no backslash in the authority that could end its port.
  have hport : ∀ x : List Char × List Char, '\\' ∉ x.2 →
      Yields (·.2 = behindAuthority s) (behindUser x) := by
    rintro ⟨user, hostAndPort⟩ hbackslash
    dsimp -zeta only [behindUser]
    refine (yields_true _).bind fun host _ => ?_
    extract_lets -underBinder behindHost
    have hended : ¬(((cutHost false hostAndPort).2.drop 1).dropWhile Char.isDigit).head? =
        some '\\' := by
      intro hhead
      have hdigits := (List.dropWhile_suffix _).subset (List.mem_of_head? hhead)
      have hbehind := List.mem_of_mem_drop hdigits
      rw [← cutHost_append false hostAndPort] at hbackslash
      exact hbackslash (List.mem_append_right _ hbehind)
    have hrest : Yields (·.2 = behindAuthority s) (behindHost ()) := by
      dsimp only [behindHost]
      refine (yields_true _).bind fun port _ => ?_
      simp only [if_neg hended]
      split
      · exact (yields_throw (fun _ => True) _).bind fun _ _ => yields_pure rfl
      · exact yields_pure rfl
    split
    · exact (yields_throw (fun _ => True) _).bind fun _ _ => hrest
    · exact hrest
  split
  · exact (yields_pure (P := fun x => '\\' ∉ x.2) htext).bind hport
  · split
    · exact (yields_pure (P := fun x => '\\' ∉ x.2) List.not_mem_nil).bind hport
    · exact (yields_throw _ _).bind hport
  · next parts _ hcut =>
    have hparts : '\\' ∉ parts.2 := fun hmem => htext ((suffix_of_cutAtLast? hcut).subset hmem)
    exact (yields_pure (P := fun x => '\\' ∉ x.2) hparts).bind hport

/-! ## Paths behind authorities -/

/-- A query and a fragment leave the path as it is. -/
theorem path_withTail (u : Url) (tail : List Char) : (u.withTail tail).path = u.path := by
  unfold withTail
  split <;> rfl

/-- A query and a fragment leave the scheme as it is. -/
theorem scheme_withTail (u : Url) (tail : List Char) : (u.withTail tail).scheme = u.scheme := by
  unfold withTail
  split <;> rfl

/-- A path leaves the scheme as it is. -/
theorem scheme_withPath (u : Url) (segments : List (List Char)) (s : List Char) :
    (u.withPath segments s).scheme = u.scheme :=
  scheme_withTail _ _

/-- Behind a special scheme stand an authority and the path that follows it, whose first slash leads
it and is no part of its first piece. -/
theorem exists_eq_withPath_of_withAuthority {scheme : List Char}
    (hkind : schemeKind scheme = .special) {s : List Char} {u : Url} (h : withAuthority scheme s = .ok u) :
    ∃ authority, u = (⟨scheme, some authority, .segments [], none, none⟩ : Url).withPath []
      (dropSlash (behindAuthority s)) := by
  unfold withAuthority at h
  cases hread : readAuthority scheme s with
  | error e =>
    rw [hread] at h
    cases h
  | ok parts =>
    obtain ⟨authority, rest⟩ := parts
    have hrest : rest = behindAuthority s := readAuthority_yields hkind s _ hread
    rw [hread, hkind] at h
    refine ⟨authority, ?_⟩
    rw [← hrest]
    cases rest with
    | nil => exact (Except.ok.inj h).symm
    | cons c behind =>
      have hslash : isSlash .file c = isSlash .special c := rfl
      rw [dropSlash, hslash]
      simp only [bind, Except.bind, pure, Except.pure] at h
      split at h
      · next hc => rw [if_pos hc, Except.ok.inj h]
      · next hc => rw [if_neg hc, Except.ok.inj h]

/-! ## Schemes -/

/-- What has an authority has the scheme in front of it. -/
theorem scheme_of_withAuthority {scheme s : List Char} {u : Url}
    (h : withAuthority scheme s = .ok u) : u.scheme = scheme := by
  unfold withAuthority at h
  cases hread : readAuthority scheme s with
  | error e =>
    rw [hread] at h
    cases h
  | ok parts =>
    obtain ⟨authority, rest⟩ := parts
    rw [hread] at h
    cases rest with
    | nil =>
      change Except.ok _ = Except.ok u at h
      obtain rfl := Except.ok.inj h
      split
      · rfl
      · exact scheme_withPath _ _ _
    | cons c behind =>
      simp only [bind, Except.bind, pure, Except.pure] at h
      split at h
      · obtain rfl := Except.ok.inj h
        exact scheme_withPath _ _ _
      · split at h
        · obtain rfl := Except.ok.inj h
          exact scheme_withTail _ _
        · obtain rfl := Except.ok.inj h
          exact scheme_withPath _ _ _

/-- What is read of a file on a host has the scheme of files. -/
theorem scheme_of_readFileWithHost {s : List Char} {u : Url} (h : readFileWithHost s = .ok u) :
    u.scheme = "file".toList := by
  simp only [readFileWithHost, bind, Except.bind, pure, Except.pure] at h
  split at h
  · obtain rfl := Except.ok.inj h
    exact scheme_withPath _ _ _
  · split at h
    · split at h
      all_goals
        obtain rfl := Except.ok.inj h
        exact scheme_withPath _ _ _
    · split at h
      · cases h
      · split at h
        all_goals
          obtain rfl := Except.ok.inj h
          exact scheme_withPath _ _ _

/-- What is read of a file without a base has the scheme of files. -/
theorem scheme_of_readFile {s : List Char} {u : Url} (h : readFile none s = .ok u) :
    u.scheme = "file".toList := by
  unfold readFile at h
  split at h
  · obtain rfl := Except.ok.inj h
    exact scheme_withPath _ _ _
  · next c rest =>
    split at h
    · split at h
      · next d behind =>
        split at h
        · exact scheme_of_readFileWithHost h
        · obtain rfl := Except.ok.inj h
          exact scheme_withPath _ _ _
      · obtain rfl := Except.ok.inj h
        exact scheme_withPath _ _ _
    · obtain rfl := Except.ok.inj h
      exact scheme_withPath _ _ _

/-- What is read of any other URL has the scheme in front of it. -/
theorem scheme_of_readOther {scheme s : List Char} {u : Url} (h : readOther scheme s = .ok u) :
    u.scheme = scheme := by
  unfold readOther at h
  split at h
  · exact scheme_of_withAuthority h
  · obtain rfl := Except.ok.inj h
    exact scheme_withPath _ _ _
  · obtain rfl := Except.ok.inj h
    exact scheme_withTail _ _

/-- The scheme of files is the only one of its kind. -/
theorem eq_of_schemeKind_file {scheme : List Char} (h : schemeKind scheme = .file) :
    scheme = "file".toList := by
  unfold schemeKind at h
  split at h
  · cases h
  · split at h
    · assumption
    · cases h

/-- A text that is read as a URL of its own starts with the scheme of the URL. -/
theorem exists_cutScheme?_eq {s : List Char} {u : Url} (h : readClean none s = .ok u) :
    ∃ rest, cutScheme? s = some (u.scheme, rest) := by
  unfold readClean at h
  split at h
  · next scheme rest hcut =>
    refine ⟨rest, hcut.trans ?_⟩
    split at h
    · rw [scheme_of_withAuthority h]
    · next hkind => rw [scheme_of_readFile h, eq_of_schemeKind_file hkind]
    · rw [scheme_of_readOther h]
  · cases h

/-! ## Whole texts -/

/-- What a text of a special scheme has behind its authority and the slash that ends it. -/
def behindServer (s : List Char) : List Char :=
  match cutScheme? s with
  | some (_, rest) => dropSlash (behindAuthority (rest.dropWhile (isSlash .special)))
  | none => []

/-- What is cut off in front of a colon leaves an end of the text behind it. -/
theorem suffix_of_cutScheme? {s scheme rest : List Char} (h : cutScheme? s = some (scheme, rest)) :
    rest <:+ s := by
  unfold cutScheme? at h
  split at h
  · cases h
  · split at h
    · split at h
      · next hdrop =>
        obtain ⟨-, rfl⟩ := Prod.mk.inj (Option.some.inj h)
        exact (List.suffix_cons ':' _).trans (hdrop ▸ List.dropWhile_suffix _)
      · cases h
    · cases h

/-- What has a server in front is an end of the text. -/
theorem behindServer_suffix (s : List Char) : behindServer s <:+ s := by
  have hslash : ∀ s : List Char, dropSlash s <:+ s := by
    intro s
    cases s with
    | nil => exact List.suffix_rfl
    | cons c s =>
      rw [dropSlash]
      split
      · exact List.suffix_cons c s
      · exact List.suffix_rfl
  unfold behindServer
  split
  · next hcut =>
    exact (hslash _).trans ((List.dropWhile_suffix _).trans ((List.dropWhile_suffix _).trans
      (suffix_of_cutScheme? hcut)))
  · exact List.nil_suffix

/-- A text that is read as a URL of a special scheme is an authority and the path behind it. -/
theorem exists_eq_withPath {s : List Char} {u : Url} (h : readClean none s = .ok u)
    (hkind : u.kind = .special) :
    ∃ authority, u = (⟨u.scheme, some authority, .segments [], none, none⟩ : Url).withPath []
      (behindServer s) := by
  obtain ⟨rest, hcut⟩ := exists_cutScheme?_eq h
  have hscheme : schemeKind u.scheme = .special := hkind
  simp only [readClean, hcut, hscheme, readSpecial] at h
  rw [behindServer, hcut]
  exact exists_eq_withPath_of_withAuthority hscheme h

end Url

end ODataSession
