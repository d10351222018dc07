import ODataSession.Http.Backend
import ODataSession.Text.Blank

/-!
# Scripted backends

A backend that follows a script. The first rule that matches a request and is not used up answers
it; where no rule does, there is nothing at the endpoint. Connections can be made to fail: some in
a row are refused, secure ones always fail, and without a link there are none at all.
-/

namespace ODataSession

/-- How a rule answers. -/
inductive Reply
  /-- With a response; without a body the body breaks off. -/
  | response (status : Http.Status) (setCookie : List String) (body : Option (List UInt8))
  /-- By closing the connection. -/
  | drop
  /-- Not at all. -/
  | silence
  deriving DecidableEq, Inhabited

/-- A rule of a script. What it leaves open matches everything. -/
structure Rule where
  method : Option String
  path : Option String
  cookie : Option String
  /-- How often the rule still answers, if there is a limit. -/
  left : Option Nat
  reply : Reply
  deriving DecidableEq, Inhabited

/-- A backend that follows a script. -/
structure ScriptedBackend where
  rules : List Rule
  /-- How many of the next connections are refused. -/
  refusals : Nat
  /-- Whether connections can be made. -/
  linked : Bool
  deriving DecidableEq, Inhabited

namespace Rule

/-- Whether a value is as wanted. -/
def agrees (wanted : Option String) (value : Option String) : Bool :=
  wanted.all fun text => value = some text

/-- Whether a rule answers a request. -/
def isFor (r : Rule) (request : Http.Request) : Bool :=
  agrees r.method (some request.method.text) &&
    agrees r.path (some (String.ofList request.url.path.chars)) &&
    agrees r.cookie (Http.Headers.value? request.headers "cookie") && r.left ≠ some 0

/-- The rule after one more use. -/
def use (r : Rule) : Rule :=
  { r with left := r.left.map (· - 1) }

end Rule

namespace ScriptedBackend

/-- The reply where no rule answers. -/
def nothingThere : Reply :=
  .response 404 [] (some [])

/-- The reply to a request, and the rules after it. -/
def replyTo (request : Http.Request) : List Rule → Reply × List Rule
  | [] => (nothingThere, [])
  | r :: rest =>
    if r.isFor request then (r.reply, r.use :: rest)
    else
      let (reply, rest) := replyTo request rest
      (reply, r :: rest)

/-- A header value as it arrives: without the blanks around it. -/
def arriving (value : String) : List UInt8 :=
  Utf8.encode (Text.trimBy (fun c => c = ' ' || c = '\t') value.toList)

/-- Whether a response has no body whatever it says. -/
def isBodiless (method : Http.Method) (status : Http.Status) : Bool :=
  method = .head || status = 204 || status = 304

/-- What comes of a reply. -/
def outcome (request : Http.Request) : Reply → Except Http.Failure Http.Response
  | .response status setCookie body =>
    .ok ⟨status, setCookie.map arriving,
      if isBodiless request.method status then some [] else body, request.url⟩
  | .drop => .error ⟨.interrupted, some request.url⟩
  | .silence => .error ⟨.timedOut, some request.url⟩

/-- Answers a request. -/
def answer (b : ScriptedBackend) (request : Http.Request) :
    Except Http.Failure Http.Response × ScriptedBackend :=
  if !b.linked || request.url.scheme = "https".toList then
    (.error ⟨.unreachable, some request.url⟩, b)
  else if 0 < b.refusals then
    (.error ⟨.refused, some request.url⟩, { b with refusals := b.refusals - 1 })
  else
    let (reply, rules) := replyTo request b.rules
    (outcome request reply, { b with rules })

instance : Http.Backend ScriptedBackend := ⟨answer⟩

end ScriptedBackend

end ODataSession
