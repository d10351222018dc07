import ODataSession.Text.Percent

/-!
# The characters of URL components

Which characters a component of a URL keeps; the others are percent-encoded. Each class keeps
only printable ASCII, and each keeps the percent sign, so that an escape that is there already
stays. A path keeps less than a fragment, and user information less than a path.
-/

namespace ODataSession.Url

/-- The printable characters of ASCII, the space included. -/
def isPrintable (c : Char) : Bool :=
  ' ' ≤ c && c ≤ '~'

/-- The characters that a path without segments keeps. -/
def keptInRootless (c : Char) : Bool :=
  isPrintable c

/-- The characters that a fragment keeps. -/
def keptInFragment (c : Char) : Bool :=
  isPrintable c && !(c = ' ' || c = '"' || c = '<' || c = '>' || c = '\x60')

/-- The characters that a path segment keeps. -/
def keptInPath (c : Char) : Bool :=
  keptInFragment c && !(c = '#' || c = '?' || c = '\x7b' || c = '\x7d')

/-- The characters that a user name and a password keep. -/
def keptInUserInfo (c : Char) : Bool :=
  keptInPath c && !(c = '/' || c = ':' || c = ';' || c = '=' || c = '@' || c = '[' || c = '\\' ||
    c = ']' || c = '^' || c = '|')

/-- The characters that a query keeps; the query of a special scheme gives up the single quote
too. -/
def keptInQuery (special : Bool) (c : Char) : Bool :=
  isPrintable c && !(c = ' ' || c = '"' || c = '#' || c = '<' || c = '>') &&
    !(special && c = '\x27')

/-- The control characters and the space, which are dropped around a URL. -/
def isControlOrSpace (c : Char) : Bool :=
  c ≤ ' '

/-- The characters that are dropped inside a URL. -/
def isTabOrNewline (c : Char) : Bool :=
  c = '\t' || c = '\n' || c = '\r'

/-- The characters that no host may hold. -/
def isForbiddenInHost (c : Char) : Bool :=
  c = '\x00' || isTabOrNewline c || c = ' ' || c = '#' || c = '/' || c = ':' || c = '<' ||
    c = '>' || c = '?' || c = '@' || c = '[' || c = '\\' || c = ']' || c = '^' || c = '|'

/-- The ASCII characters that no domain may hold. -/
def isForbiddenInDomain (c : Char) : Bool :=
  isForbiddenInHost c || c < ' ' || c = '%' || c = '\x7f'

end ODataSession.Url
