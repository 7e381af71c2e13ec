import PlayerSession.Text.Blank
import PlayerSession.Text.Pieces

/-! The table of a request: it is named after the host that the request was sent to, without the
port. -/

namespace PlayerSession.Http

/-- A host without its port.  What follows a single colon counts as a port when it holds digits only;
with more colons, or with nothing before the colon, there is no port. -/
def withoutPort (host : String) : String :=
  match Text.pieces ':' host.toList with
  | [name, port] => if name ≠ [] ∧ port.all Char.isDigit then String.ofList name else host
  | _ => host

/-- The table for a request to a host.  White space around the host does not count. -/
def tableForHost (host : Option String) : String :=
  let name := ((host.map Text.trim).map withoutPort).filter (· ≠ "")
  "epas_" ++ name.getD "unknown"

end PlayerSession.Http
