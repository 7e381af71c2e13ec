import PlayerSession.Http.Host
import PlayerSession.Http.Response
import PlayerSession.Http.Target
import PlayerSession.Report
import PlayerSession.Store.Lookup

/-! Answering requests.  `GET /session/` and the name of a session is answered with the report on that
session, and every other request with a status. -/

namespace PlayerSession.Http

structure Request where
  method : String := "GET"
  target : String
  headers : List (String × Bytes) := []
  deriving DecidableEq

/-- What the service needs for its answers: where to look up events, and the grammar they have to
obey. -/
structure Service where
  grammar : Grammar
  lookup : Lookup

/-- A byte of a header that is shown: visible ASCII, a space or a tab. -/
def isPlainByte (b : UInt8) : Bool := b = 9 || (0x20 ≤ b && b ≤ 0x7E)

/-- The host that a request was sent to.  The first host header counts, if it is plain. -/
def Request.host? (r : Request) : Option String := do
  let (_, value) ← r.headers.find? fun (name, _) => name.map Char.toLower = "host"
  if value.all isPlainByte then some (String.ofList (value.map fun b => Char.ofNat b.toNat))
  else none

/-- A path under `/session`. -/
def IsSessionPath (path : String) : Prop :=
  (path.toList.reverse.dropWhile (· = '/')).reverse = "/session".toList ∨
    sessionRoot.isPrefixOf path.toList

instance (path : String) : Decidable (IsSessionPath path) :=
  inferInstanceAs (Decidable (_ ∨ _))

/-- The status of a request that nothing else answers. -/
def routeStatus (path method : String) : Nat :=
  if ¬ IsSessionPath path then 404 else if method ≠ "GET" then 405 else 400

/-- The response to the name of a session that is no text. -/
def undecodableResponse : Response where
  status := 400
  headers := [("content-type", "text/plain; charset=utf-8")]
  body := "Invalid URL: Invalid UTF-8 in `session_id`"

namespace Service

/-- The report on a session, and the service, whose store remembers the lookup. -/
def report (s : Service) (d : Disk) (host? : Option String) (session : String) :
    SessionReport × Service :=
  let (events, lookup) := s.lookup.events d session (tableForHost host?)
  (.build s.grammar session (events.getD []), { s with lookup })

/-- The response to a request, before it is sent. -/
def answer (s : Service) (d : Disk) (r : Request) : Response × Service :=
  let path := pathOf r.target
  match sessionSegment? path with
  | none => (statusResponse (routeStatus path r.method), s)
  | some segment =>
    if r.method = "GET" ∨ r.method = "HEAD" then
      match segmentText? segment with
      | none => (undecodableResponse, s)
      | some session =>
        let (report, s) := s.report d r.host? session
        (respond 200 report.toValue, s)
    else
      let response := statusResponse (routeStatus path r.method)
      ({ response with headers := response.headers ++ [("allow", "GET,HEAD")] }, s)

/-- The response to a request as it is sent. -/
def handle (s : Service) (d : Disk) (r : Request) : Response × Service :=
  let (response, s) := s.answer d r
  (response.sent (r.method = "HEAD"), s)

end Service

end PlayerSession.Http
