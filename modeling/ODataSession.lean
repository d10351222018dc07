import ODataSession.Text.Blank
import ODataSession.Text.Percent
import ODataSession.Text.Quoted
import ODataSession.Decimal.Shortest
import ODataSession.Json.Reader
import ODataSession.Query.Entity
import ODataSession.Url.Endpoint
import ODataSession.Digest.Sha256
import ODataSession.Config.Environment
import ODataSession.Session.Key
import ODataSession.Session.Slot
import ODataSession.Session.State
import ODataSession.Session.Credential
import ODataSession.Session.MemoryStore
import ODataSession.Http.Backend
import ODataSession.Client.Notice
import ODataSession.Config.Document
import ODataSession.Url.Form
import ODataSession.Client.Login
import ODataSession.Client.Action
import ODataSession.Client.Description
import ODataSession.Client.Scenario
import ODataSession.Rehearsal.FailingStore
import ODataSession.Rehearsal.ScriptedBackend
import ODataSession.Proofs.Client.Course
import ODataSession.Proofs.Client.Following
import ODataSession.Proofs.Client.Calls
import ODataSession.Proofs.Session.Key
import ODataSession.Proofs.Session.Store
import ODataSession.Proofs.Client.Command
import ODataSession.Proofs.Client.Tokens
import ODataSession.Proofs.Client.Renewal
import ODataSession.Proofs.Query.Literal
import ODataSession.Proofs.Query.Token
import ODataSession.Proofs.Query.Phrase
import ODataSession.Proofs.Query.Reading
import ODataSession.Proofs.Query.Meaning
import ODataSession.Proofs.Url.Origin
import ODataSession.Proofs.Url.Pieces
import ODataSession.Proofs.Url.KeyPath
import ODataSession.Proofs.Text.Decoding
import ODataSession.Proofs.Query.Parameters
import ODataSession.Proofs.Url.Query
import ODataSession.Proofs.Client.State
import ODataSession.Proofs.Client.Retrying
import ODataSession.Proofs.Client.Events
import ODataSession.Proofs.Client.Determined
import ODataSession.Proofs.Client.Replay
import ODataSession.Proofs.Client.Performance
import ODataSession.Proofs.Client.Slots
import ODataSession.Proofs.Client.Continuity
import ODataSession.Proofs.Client.Sharing
import ODataSession.Proofs.Client.Rejection
import ODataSession.Proofs.Client.Queue
import ODataSession.Proofs.Client.StoreFailure
import ODataSession.Proofs.Client.Likeness
import ODataSession.Proofs.Client.Indifference
import ODataSession.Proofs.Client.Secrecy
import ODataSession.Proofs.Client.Closing
import ODataSession.Proofs.Client.Overtaking
import ODataSession.Proofs.Client.Refusal
import ODataSession.Proofs.Session.Expiry
import ODataSession.Proofs.Client.Timing
import ODataSession.Proofs.Query.Facets
import ODataSession.Proofs.Client.Addressing
import ODataSession.Proofs.Query.Spelling
import ODataSession.Proofs.Query.Entries
import ODataSession.Proofs.Json.Token
import ODataSession.Proofs.Json.Value
import ODataSession.Proofs.Query.Document
import ODataSession.Proofs.Session.Cookie
import ODataSession.Proofs.Http.Header
import ODataSession.Proofs.Client.Queueing
import ODataSession.Proofs.Url.Authority
import ODataSession.Proofs.Url.Directory
import ODataSession.Proofs.Session.Slot
import ODataSession.Proofs.Config.Validity
import ODataSession.Proofs.Client.Building
import ODataSession.Proofs.Config.Environment
import ODataSession.Proofs.Config.Spelling
import ODataSession.Proofs.Config.Strictness
import ODataSession.Proofs.Query.Delimiting
import ODataSession.Proofs.Config.Document
