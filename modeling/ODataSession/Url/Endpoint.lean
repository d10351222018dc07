import ODataSession.Url.Reader

/-!
# Servers and endpoints

The base URL of a server and the URLs of its endpoints. A slash is appended to the text of the
server unless it ends in one, so that the path of the base is a directory and an endpoint lands
inside it. Slashes in front of an endpoint are dropped for the same reason.
-/

namespace ODataSession.Url

/-- A text with a slash at its end. -/
def withFinalSlash (s : List Char) : List Char :=
  if s.getLast? = some '/' then s else s ++ ['/']

/-- The base URL of a server. -/
def ofServer (server : String) : Except UrlError Url :=
  readClean none (clean (withFinalSlash (Text.trimBy Text.isBlank server.toList)))

/-- The URL of an endpoint. -/
def endpoint (base : Url) (name : String) : Except UrlError Url :=
  readClean (some base) (clean (name.toList.dropWhile (· = '/')))

end ODataSession.Url
