import PlayerSession.Startup

/-! The program: it starts the service on the files of the machine, and then answers requests from the
standard input, one a line, each a method, a target and perhaps a host. -/

namespace PlayerSession

/-- The disk with what is in a file of the machine, if the file can be read. -/
def fetch (d : Disk) (path : String) : IO Disk := do
  try
    let content ← IO.FS.readBinFile path
    return (d.put path content.toList).toOption.getD d
  catch _ => return d

/-- The variables of the environment that the program knows. -/
def knownVariables : IO Environment :=
  ["LISTEN_ADDR", "DB_TYPE", "TABLE_NAME", "EVENTS_DIR", "XDG_DATA_HOME", "HOME",
    LogFilter.variableName].filterMapM fun name => do return (← IO.getEnv name).map (name, ·)

/-- A request on one line. -/
def requestOfLine? (line : String) : Option Http.Request :=
  match (Text.split ' ' (Text.trim line)).filter (· ≠ "") with
  | [method, target] => some { method, target }
  | [method, target, host] =>
    some { method, target, headers := [("host", host.toUTF8.toList)] }
  | _ => none

/-- The disk with the table that a request reads. -/
def fetchTable (d : Disk) (service : Http.Service) (r : Http.Request) : IO Disk :=
  match service.lookup.source with
  | some (.directory store) =>
    match store.pathOf (service.lookup.table (Http.tableForHost r.host?)) with
    | .ok path => fetch d path
    | .error _ => return d
  | _ => return d

/-- Answers the requests on the standard input. -/
partial def serve (d : Disk) (service : Http.Service) : IO Unit := do
  let line ← (← IO.getStdin).getLine
  if line.isEmpty then return
  match requestOfLine? line with
  | none => serve d service
  | some request =>
    let (response, service) := service.handle (← fetchTable d service request) request
    IO.println ("HTTP/1.1 " ++ toString response.status ++ " " ++ Http.reason response.status)
    for (name, value) in response.headers do
      IO.println (name ++ ": " ++ value)
    IO.println ("\n" ++ response.body)
    serve d service

def conclude (exit : Startup.Exit) : IO UInt32 := do
  IO.print exit.output
  IO.eprint exit.error
  return .ofNat exit.status

end PlayerSession

open PlayerSession in
def main (arguments : List String) : IO UInt32 := do
  let env ← knownVariables
  let named := match Options.read arguments env with
    | .ok o => o.grammar.toList ++ o.tlsCertificate.toList ++ o.tlsKey.toList
    | .error _ => []
  let disk ← named.foldlM fetch ({ entries := [(["."], .directory)], here := ["."] } : Disk)
  match Startup.start arguments env none disk with
  | .error fault => conclude (fault.exit env Startup.Prose.brief)
  | .ok (started, disk) =>
    IO.eprint (LogFilter.complaints env)
    if let some (.directory store) := started.service.lookup.source then
      IO.FS.createDirAll store.base
    IO.println ("session validator listening on " ++ started.options.listen.text)
    serve disk started.service
    return 0
