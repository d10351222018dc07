import ODataSession.Text.Split
import ODataSession.Url.Basic

/-!
# Path segments

Appending the pieces of a path to segments that are there already. A piece of one dot stands for
the directory itself and a piece of two dots for the one above it; their escaped spellings count
too. Where the last piece is a dot piece, an empty segment takes its place, so that the path still
names a directory. No dot piece removes a drive letter, and under the scheme of files a drive letter
in front is written with a colon.
-/

namespace ODataSession.Url

/-- A letter and a colon or a bar, alone or before a backslash. -/
def isDriveLetter : List Char → Bool
  | letter :: mark :: rest =>
    letter.isAlpha && (mark = ':' || mark = '|') && (rest.isEmpty || rest.head? = some '\\')
  | _ => false

/-- A piece that stands for the directory itself. -/
def isSingleDot (piece : List Char) : Bool :=
  let folded := piece.map Char.toLower
  folded = ['.'] || folded = "%2e".toList

/-- A piece that stands for the directory above. -/
def isDoubleDot (piece : List Char) : Bool :=
  let folded := piece.map Char.toLower
  folded = "..".toList || folded = ".%2e".toList || folded = "%2e.".toList ||
    folded = "%2e%2e".toList

/-- Drops the last segment, except a drive letter. -/
def shorten (segments : List (List Char)) : List (List Char) :=
  if segments.getLast?.any isDriveLetter then segments else segments.dropLast

/-- The segment of a piece that is no dot piece. -/
def segmentOf (kind : SchemeKind) (segments : List (List Char)) (piece : List Char) : List Char :=
  if kind = .file && segments.isEmpty && isDriveLetter piece then piece.take 1 ++ [':']
  else Percent.encode keptInPath piece

/-- Appends a piece. -/
def pushPiece (kind : SchemeKind) (segments : List (List Char)) (piece : List Char) (last : Bool) :
    List (List Char) :=
  if isDoubleDot piece then shorten segments ++ (if last then [[]] else [])
  else if isSingleDot piece then segments ++ (if last then [[]] else [])
  else segments ++ [segmentOf kind segments piece]

/-- Appends pieces in turn. -/
def pushPieces (kind : SchemeKind) : List (List Char) → List (List Char) → List (List Char)
  | segments, [] => segments
  | segments, [piece] => pushPiece kind segments piece true
  | segments, piece :: next :: rest =>
    pushPieces kind (pushPiece kind segments piece false) (next :: rest)

/-- The separators of segments. -/
def isSlash (kind : SchemeKind) (c : Char) : Bool :=
  c = '/' || (kind.takesBackslash && c = '\\')

/-- Slashes of either kind separate the segments of a special scheme. -/
theorem isSlash_special (c : Char) : isSlash .special c = (c = '/' || c = '\\') :=
  rfl

/-- Under the scheme of files the empty segments in front are dropped. -/
def trimEmpty (kind : SchemeKind) (segments : List (List Char)) : List (List Char) :=
  if kind = .file then
    match segments.dropWhile List.isEmpty with
    | [] => [[]]
    | rest => rest
  else segments

/-- The pieces of a text. -/
def piecesOf (kind : SchemeKind) (text : List Char) : List (List Char) :=
  Text.splitOn (isSlash kind) text

/-- Whether the path of a file starts with a drive letter, with no empty piece in front. -/
def entersDrive (text : List Char) : Bool :=
  (pushPieces .file [] (piecesOf .file text)).head?.any isDriveLetter

/-- Whether the last segment is a drive letter that no slash follows. -/
def endsInDrive (segments : List (List Char)) : Bool :=
  match segments.getLast? with
  | some [letter, ':'] => letter.isAlpha
  | _ => false

/-- Appends the pieces of a text to segments that end in a drive letter: a first piece that is no
dot piece runs into the drive letter. -/
def resolveOnDrive (segments : List (List Char)) (text : List Char) : List (List Char) :=
  match piecesOf .file text with
  | [] => segments
  | piece :: rest =>
    if isDoubleDot piece then pushPieces .file segments rest
    else if isSingleDot piece then pushPieces .file segments (if rest.isEmpty then [[]] else rest)
    else
      let joined := (segments.getLast?.getD []) ++ Percent.encode keptInPath piece
      pushPieces .file (segments.dropLast ++ [joined]) rest

/-- Appends the pieces of a text to segments. -/
def resolvePath (kind : SchemeKind) (segments : List (List Char)) (text : List Char) :
    List (List Char) :=
  trimEmpty kind (pushPieces kind segments (piecesOf kind text))

end ODataSession.Url
