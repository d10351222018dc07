import ODataSession.Text.Blank
import ODataSession.Url.Segments

/-!
# Reading URLs

A text is read as a URL of its own if it starts with a scheme, and otherwise as a reference that a
base resolves. `parse` first drops the controls and spaces around the text and the tabs and newlines
inside it, then cuts the text from the left: the scheme, the authority, the path, the query and the
fragment. Under the special schemes a backslash counts as a slash, any number of slashes leads the
authority, and a text that repeats the scheme of the base without two slashes is a reference still.
-/

namespace ODataSession.Url

/-! ## Parts of a text -/

/-- Drops what a URL does not see. -/
def clean (text : List Char) : List Char :=
  (Text.trimBy isControlOrSpace text).filter (!isTabOrNewline ·)

/-- The characters of a scheme behind its first letter. -/
def isSchemeChar (c : Char) : Bool :=
  c.isAlphanum || c = '+' || c = '-' || c = '.'

/-- Cuts off a scheme, in lower case, and its colon. -/
def cutScheme? (s : List Char) : Option (List Char × List Char) :=
  match s with
  | [] => none
  | c :: _ =>
    if c.isAlpha then
      match s.dropWhile isSchemeChar with
      | ':' :: rest => some ((s.takeWhile isSchemeChar).map Char.toLower, rest)
      | _ => none
    else none

/-- The characters that end a path. -/
def endsPath (c : Char) : Bool :=
  c = '?' || c = '#'

/-- The characters that end an authority. -/
def endsAuthority (kind : SchemeKind) (c : Char) : Bool :=
  isSlash kind c || endsPath c

/-- Cuts a text behind the last character of a kind: what stands before it and what behind. -/
def cutAtLast? (mark : Char) (s : List Char) : Option (List Char × List Char) :=
  if s.contains mark then
    let behind := (s.reverse.takeWhile (· ≠ mark)).reverse
    some (s.take (s.length - behind.length - 1), behind)
  else none

/-- Cuts a host off: it ends at the first colon outside square brackets. -/
def cutHost (inBrackets : Bool) : List Char → List Char × List Char
  | [] => ([], [])
  | c :: rest =>
    if c = ':' && !inBrackets then ([], c :: rest)
    else
      let inBrackets := if c = '[' then true else if c = ']' then false else inBrackets
      let (host, rest) := cutHost inBrackets rest
      (c :: host, rest)

/-! ## Query and fragment -/

/-- Puts the query and the fragment behind a URL; the text starts with the mark of one of them. -/
def withTail (u : Url) (tail : List Char) : Url :=
  let special := u.kind != .other
  let queryOf (s : List Char) := Percent.encode (keptInQuery special) (s.takeWhile (· ≠ '#'))
  let fragmentOf (s : List Char) : Option (List Char) :=
    match s.dropWhile (· ≠ '#') with
    | _ :: fragment => some (Percent.encode keptInFragment fragment)
    | [] => none
  match tail with
  | '?' :: rest => { u with query := some (queryOf rest), fragment := fragmentOf rest }
  | _ => { u with query := none, fragment := fragmentOf tail }

/-- Replaces the fragment; the text starts with its mark. -/
def withFragmentText (u : Url) (s : List Char) : Url :=
  { u with fragment := some (Percent.encode keptInFragment (s.drop 1)) }

/-- The part of a text that is a path. -/
def pathText (s : List Char) : List Char :=
  s.takeWhile (!endsPath ·)

/-- What follows the path in a text. -/
def tailText (s : List Char) : List Char :=
  s.dropWhile (!endsPath ·)

/-- Puts a path of segments behind a URL, and what follows it in the text. -/
def withPath (u : Url) (segments : List (List Char)) (s : List Char) : Url :=
  withTail { u with path := .segments (resolvePath u.kind segments (pathText s)) } (tailText s)

/-! ## Authority -/

/-- The user name and the password of a text that stands before an `@`. -/
def readUser (text : List Char) : List Char × List Char :=
  let encode := Percent.encode keptInUserInfo
  (encode (text.takeWhile (· ≠ ':')), encode ((text.dropWhile (· ≠ ':')).drop 1))

/-- Reads a port and drops the default one; what follows it has to end the authority. -/
def readPort (scheme digits behind : List Char) : Except UrlError (Option Nat) :=
  match behind with
  | [] =>
    let port := Nat.ofDigitChars 10 digits 0
    if 65535 < port then .error .invalidPort
    else if digits.isEmpty || defaultPort? scheme = some port then .ok none
    else .ok (some port)
  | _ => .error .invalidPort

/-- Reads the host of a scheme. -/
def readHost (kind : SchemeKind) (text : List Char) : Except UrlError Host :=
  match kind with
  | .other => Host.ofOther text
  | _ => Host.ofSpecial text

/-- Reads an authority off the front of a text; the second part is what follows it. -/
def readAuthority (scheme s : List Char) : Except UrlError (Authority × List Char) := do
  let kind := schemeKind scheme
  let rest := s.dropWhile (!endsAuthority kind ·)
  let (user, hostAndPort) ← match cutAtLast? '@' (s.takeWhile (!endsAuthority kind ·)) with
    | none => pure ([], s.takeWhile (!endsAuthority kind ·))
    | some ([], []) => if rest.isEmpty then pure ([], []) else throw .emptyHost
    | some parts => pure parts
  let (hostText, portText) := cutHost false hostAndPort
  let host ← readHost kind hostText
  if host.isEmpty && !portText.isEmpty then throw .emptyHost
  let digits := (portText.drop 1).takeWhile Char.isDigit
  let behind := (portText.drop 1).dropWhile Char.isDigit
  let (name, password) := readUser user
  -- A backslash ends a port even where it does not end an authority.
  let ended := behind.head? = some '\\'
  let port ← readPort scheme digits (if ended then [] else behind)
  let authority : Authority := ⟨name, password, host, port⟩
  if host.isEmpty && authority.hasCredentials then throw .emptyHost
  return (authority, if ended then behind ++ rest else rest)

/-- Puts an authority and the path behind it into a URL. Special schemes always have a path. -/
def withAuthority (scheme s : List Char) : Except UrlError Url := do
  let (authority, rest) ← readAuthority scheme s
  let u : Url := ⟨scheme, some authority, .segments [], none, none⟩
  let kind := schemeKind scheme
  match rest with
  | [] => return if kind = .other then u else u.withPath [] []
  | c :: behind =>
    if isSlash kind c then return u.withPath [] behind
    else if kind = .other && endsPath c then return u.withTail rest
    else return u.withPath [] rest

/-! ## Files -/

/-- The authority of a file without a host. -/
def noAuthority : Authority := ⟨[], [], .name [], none⟩

/-- A file on a host. -/
def fileOn (host : Host) : Url :=
  ⟨"file".toList, some { noAuthority with host }, .segments [], none, none⟩

/-- The characters that end the host of a file. -/
def endsFileHost (c : Char) : Bool :=
  endsAuthority .file c

/-- Whether a text starts with a segment that is a drive letter. -/
def startsWithDriveLetter (s : List Char) : Bool :=
  isDriveLetter (s.takeWhile (!endsFileHost ·))

/-- Drops one slash in front. -/
def dropSlash : List Char → List Char
  | c :: rest => if isSlash .file c then rest else c :: rest
  | [] => []

/-- Reads the host of a file and the path behind it. A drive letter in front of the path takes the
place of a host. Behind no host, and behind the host `localhost`, which counts as none, the slash
that ends the host leads the path. -/
def readFileWithHost (s : List Char) : Except UrlError Url := do
  let hostText := s.takeWhile (!endsFileHost ·)
  if isDriveLetter hostText then return (fileOn (.name [])).withPath [] s
  let host ← if hostText.isEmpty then pure (.name []) else Host.ofSpecial hostText
  let rest := s.dropWhile (!endsFileHost ·)
  if host.isEmpty || host = .name "localhost".toList then
    return (fileOn (.name [])).withPath [] rest
  let behind := dropSlash rest
  let host := if entersDrive (pathText behind) then .name [] else host
  return (fileOn host).withPath [] behind

/-- The start of an absolute path on the drive or the host of the base. -/
def onDriveOrHostOf (base : Option Url) (s : List Char) : Url × List (List Char) :=
  match base with
  | none => (fileOn (.name []), [])
  | some b =>
    if startsWithDriveLetter s then (fileOn (.name []), [])
    else match b.path with
      | .segments ([letter, ':'] :: _) =>
        if letter.isAlpha then (fileOn (.name []), [[letter, ':']])
        else (fileOn ((b.authority.map (·.host)).getD (.name [])), [])
      | _ => (fileOn ((b.authority.map (·.host)).getD (.name [])), [])

/-- Puts a path in the place of the last segment of a file's path, or behind it if that is a drive
letter. -/
def withPathBeside (u : Url) (s : List Char) : Url :=
  let segments := (u.segments?).getD []
  if endsInDrive segments then
    withTail { u with path := .segments (resolveOnDrive segments (pathText s)) } (tailText s)
  else u.withPath segments.dropLast s

/-- Reads what follows the scheme of a file. -/
def readFile (base : Option Url) (s : List Char) : Except UrlError Url :=
  match s with
  | [] =>
    match base with
    | some b => .ok { b with fragment := none }
    | none => .ok ((fileOn (.name [])).withPath [] [])
  | c :: rest =>
    if isSlash .file c then
      match rest with
      | d :: behind =>
        if isSlash .file d then readFileWithHost behind
        else
          let (u, segments) := onDriveOrHostOf base rest
          .ok (u.withPath segments rest)
      | [] =>
        let (u, segments) := onDriveOrHostOf base rest
        .ok (u.withPath segments rest)
    else
      match base with
      | none => .ok ((fileOn (.name [])).withPath [] s)
      | some b =>
        if c = '?' then .ok (b.withTail s)
        else if c = '#' then .ok (b.withFragmentText s)
        else if startsWithDriveLetter s then .ok ((fileOn (.name [])).withPath [] s)
        else .ok (b.withPathBeside s)

/-! ## References -/

/-- Resolves a reference against a base whose path has segments. -/
def resolveOn (base : Url) (segments : List (List Char)) (s : List Char) : Except UrlError Url :=
  match s with
  | [] => .ok { base with fragment := none }
  | '?' :: _ => .ok (base.withTail s)
  | '#' :: _ => .ok (base.withFragmentText s)
  | c :: rest =>
    if c = '/' || c = '\\' then
      match rest with
      | [] => .ok (base.withPath [] [])
      | d :: behind =>
        if d = '/' || d = '\\' then
          if c = '/' && d = '/' then withAuthority base.scheme behind
          else withAuthority base.scheme (behind.dropWhile fun c => c = '/' || c = '\\')
        else .ok (base.withPath [] rest)
    else .ok (base.withPath segments.dropLast s)

/-- Resolves a reference. -/
def resolve (base : Url) (s : List Char) : Except UrlError Url :=
  if s.head? = some '#' then .ok (base.withFragmentText s)
  else match base.path with
    | .rootless _ => .error .rootlessBase
    | .segments segments =>
      if base.kind = .file then readFile (some base) s else resolveOn base segments s

/-! ## Whole texts -/

/-- Reads what follows a special scheme. -/
def readSpecial (base : Option Url) (scheme s : List Char) : Except UrlError Url :=
  let slashes := (s.takeWhile (isSlash .special)).length
  let behind := s.dropWhile (isSlash .special)
  match base with
  | some b =>
    if slashes < 2 && b.scheme = scheme then resolve b s else withAuthority scheme behind
  | none => withAuthority scheme behind

/-- Reads what follows any other scheme. -/
def readOther (scheme s : List Char) : Except UrlError Url :=
  let u : Url := ⟨scheme, none, .segments [], none, none⟩
  match s with
  | '/' :: '/' :: rest => withAuthority scheme rest
  | '/' :: rest => .ok (u.withPath [] rest)
  | s =>
    .ok (withTail
      { u with path := .rootless (Percent.encode keptInRootless (pathText s)) }
      (tailText s))

/-- Reads a text that has been cleaned. -/
def readClean (base : Option Url) (s : List Char) : Except UrlError Url :=
  match cutScheme? s with
  | some (scheme, rest) =>
    match schemeKind scheme with
    | .special => readSpecial base scheme rest
    | .file => readFile (base.filter (·.kind = .file)) rest
    | .other => readOther scheme rest
  | none =>
    match base with
    | some b => resolve b s
    | none => .error .missingBase

/-- Reads a text as a URL. -/
def parse (text : String) : Except UrlError Url :=
  readClean none (clean text.toList)

/-- Resolves a text against a base. -/
def join (base : Url) (text : String) : Except UrlError Url :=
  readClean (some base) (clean text.toList)

end ODataSession.Url
