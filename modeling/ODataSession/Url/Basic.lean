import ODataSession.Url.Host

/-!
# URLs

A URL as its components, each in the form in which it is written. Special schemes have an
authority and a path of segments; other URLs may lack the authority, and their path may be
rootless, one text without segments, which no reference can be resolved against.
-/

namespace ODataSession

namespace Url

/-- How the URLs of a scheme are read. -/
inductive SchemeKind
  | special
  | file
  | other
  deriving DecidableEq, Repr, Inhabited

/-- The default port of a special scheme. -/
def defaultPort? (scheme : List Char) : Option Nat :=
  if scheme = "http".toList || scheme = "ws".toList then some 80
  else if scheme = "https".toList || scheme = "wss".toList then some 443
  else if scheme = "ftp".toList then some 21
  else none

/-- The kind of a scheme. -/
def schemeKind (scheme : List Char) : SchemeKind :=
  if (defaultPort? scheme).isSome then .special
  else if scheme = "file".toList then .file
  else .other

/-- A backslash separates segments and ends an authority except under other schemes. -/
def SchemeKind.takesBackslash : SchemeKind → Bool
  | .other => false
  | _ => true

/-- The server of a URL and who asks. -/
structure Authority where
  user : List Char
  password : List Char
  host : Host
  port : Option Nat
  deriving DecidableEq, Repr, Inhabited

/-- The path of a URL. -/
inductive Path
  /-- A text without segments. -/
  | rootless (text : List Char)
  /-- Segments, each behind a slash. -/
  | segments (parts : List (List Char))
  deriving DecidableEq, Repr, Inhabited

end Url

/-- A URL. -/
structure Url where
  scheme : List Char
  authority : Option Url.Authority
  path : Url.Path
  query : Option (List Char)
  fragment : Option (List Char)
  deriving DecidableEq, Repr, Inhabited

namespace Url

/-- Whether a user name or a password is there. -/
def Authority.hasCredentials (a : Authority) : Bool :=
  !a.user.isEmpty || !a.password.isEmpty

/-- The user name and the password in front of a host. -/
def Authority.userChars (a : Authority) : List Char :=
  if a.hasCredentials then
    a.user ++ (if a.password.isEmpty then [] else ':' :: a.password) ++ ['@']
  else []

/-- The host and the port. -/
def Authority.hostChars (a : Authority) : List Char :=
  a.host.chars ++ (match a.port with
    | some port => ':' :: (toString port).toList
    | none => [])

/-- The text of a path. -/
def Path.chars : Path → List Char
  | .rootless text => text
  | .segments parts => parts.flatMap ('/' :: ·)

/-- What stands between the scheme and the path. A path that starts with an empty segment needs a
dot segment in front where there is no authority, as it would be read as one. -/
def authorityChars (u : Url) : List Char :=
  match u.authority, u.path with
  | some a, _ => '/' :: '/' :: (a.userChars ++ a.hostChars)
  | none, .segments ([] :: _ :: _) => ['/', '.']
  | none, _ => []

/-- An optional component behind its mark. -/
def markedChars (mark : Char) : Option (List Char) → List Char
  | some text => mark :: text
  | none => []

/-- The characters of a URL. -/
def chars (u : Url) : List Char :=
  u.scheme ++ ':' :: (u.authorityChars ++ u.path.chars ++ markedChars '?' u.query ++
    markedChars '#' u.fragment)

/-- The text of a URL. -/
def text (u : Url) : String :=
  String.ofList u.chars

/-- The kind of a URL's scheme. -/
def kind (u : Url) : SchemeKind :=
  schemeKind u.scheme

/-- The segments of the path, if it has segments. -/
def segments? (u : Url) : Option (List (List Char)) :=
  match u.path with
  | .segments parts => some parts
  | .rootless _ => none

/-- The path and the query, as they stand in the first line of a request. -/
def target (u : Url) : List Char :=
  u.path.chars ++ markedChars '?' u.query

/-- The host and the port, as a request names them; nothing where there is no authority. -/
def hostText (u : Url) : List Char :=
  match u.authority with
  | some a => a.hostChars
  | none => []

/-- Replaces the query by a text, escaping what a query may not hold. -/
def withQuery (u : Url) (query : List Char) : Url :=
  { u with
    query := some (Percent.encode (keptInQuery (u.kind != .other))
      (query.filter (!isTabOrNewline ·))) }

end Url

end ODataSession
