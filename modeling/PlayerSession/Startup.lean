import PlayerSession.Grammar.Json
import PlayerSession.Grammar.Reference
import PlayerSession.Http.Service
import PlayerSession.Settings.LogFilter
import PlayerSession.Settings.Options
import PlayerSession.Tls.Identity

/-! Starting the service: the options, the grammar, the event store and the TLS files, in this order.
The first that fails is reported with the chain of its causes. -/

namespace PlayerSession

/-- Why the grammar file gives no grammar. -/
inductive GrammarFileFault where
  | unreadable (path : String) (fault : DiskFault)
  | malformed (path : String) (fault : Json.Fault)
  | defective (path : String) (defect : Defect)
  deriving DecidableEq

/-- What failed, outermost first.  A file that is no description is told of in the words of the reader of
JSON. -/
def GrammarFileFault.causes (f : GrammarFileFault) (words : Json.Wording := Json.Fault.brief) :
    List String :=
  match f with
  | .unreadable path fault => ["read grammar file " ++ path, fault.message]
  | .malformed path fault => ["parse grammar file " ++ path, words fault]
  | .defective path defect => ["invalid grammar in " ++ path, defect.message]

/-- The grammar in a file, or the reference grammar where no file is named. -/
def Grammar.load (d : Disk) (path? : Option String) : Except GrammarFileFault Grammar :=
  match path? with
  | none => .ok .reference
  | some path => do
    let text ← (d.readText path).mapError (.unreadable path)
    match Grammar.ofText text with
    | .ok g => return g
    | .error (.unreadable fault) => throw (.malformed path fault)
    | .error (.defective defect) => throw (.defective path defect)

namespace Startup

/-- The certificate and the key of the service. -/
structure TlsFiles where
  certificate : String
  key : String
  deriving DecidableEq

/-- Why the service does not start. -/
inductive Fault where
  | usage (stop : UsageStop)
  | grammar (fault : GrammarFileFault)
  | store (fault : StoreFault)
  /-- Only one of certificate and key is given. -/
  | oneTlsFile
  | unreadableTlsFile (path : String) (fault : DiskFault)
  | tls (fault : Tls.Fault)
  deriving DecidableEq

/-- What failed, outermost first. -/
def Fault.causes (f : Fault) (words : Json.Wording := Json.Fault.brief) : List String :=
  match f with
  | .usage _ => []
  | .grammar fault => fault.causes words
  | .store fault => ["open event store", fault.message words] ++ (fault.cause? words).toList
  | .oneTlsFile => ["must provide both --tls-cert and --tls-key or neither"]
  | .unreadableTlsFile path fault =>
    ["load tls config", "failed to read from file " ++ Json.backquoted path ++ ": " ++ fault.message]
  | .tls fault => ["load tls config", fault.message]

/-- A service that has started, and where it listens. -/
structure Started where
  options : Options
  service : Http.Service
  tls : Option TlsFiles

/-- The TLS files: both or neither. -/
def tlsFiles (o : Options) : Except Fault (Option TlsFiles) :=
  match o.tlsCertificate, o.tlsKey with
  | some certificate, some key => .ok (some { certificate, key })
  | none, none => .ok none
  | _, _ => .error .oneTlsFile

/-- Reads the TLS files, the certificates first, and requires them to make an identity. -/
def checkTls (d : Disk) (files : TlsFiles) : Except Fault Unit := do
  let certificates ← (d.read files.certificate).mapError (.unreadableTlsFile files.certificate)
  let key ← (d.read files.key).mapError (.unreadableTlsFile files.key)
  (Tls.requireIdentity certificates key).mapError .tls

/-- Starts the service. -/
def start (arguments : List String) (env : Environment) (accountHome : Option String) (d : Disk) :
    Except Fault (Started × Disk) := do
  let options ← (Options.read arguments env).mapError .usage
  let grammar ← (Grammar.load d options.grammar).mapError .grammar
  let (lookup, d) ← (options.storeSettings.openLookup env accountHome d).mapError .store
  let tls ← tlsFiles options
  if let some files := tls then checkTls d files
  return ({ options, service := { grammar, lookup }, tls }, d)

/-! ### Reports -/

/-- Lines below one another, the first behind `lead` and the others as far in. -/
def indented (lead : String) (message : String) : String :=
  let blank := String.ofList (List.replicate lead.length ' ')
  lead ++ String.intercalate ("\n" ++ blank) (Text.split '\n' message)

/-- A number at the end of five columns. -/
def column (n : Nat) : String :=
  let digits := Nat.toDigits 10 n
  String.ofList (List.replicate (5 - digits.length) ' ' ++ digits)

/-- The report on a failure.  Several causes behind it are numbered. -/
def report : List String → String
  | [] => "Error: \n"
  | [outer] => "Error: " ++ outer ++ "\n"
  | [outer, cause] => "Error: " ++ outer ++ "\n\nCaused by:\n" ++ indented "    " cause ++ "\n"
  | outer :: causes =>
    "Error: " ++ outer ++ "\n\nCaused by:\n" ++
      String.join (causes.zipIdx.map fun (cause, n) => indented (column n ++ ": ") cause ++ "\n")

/-- How a program ends: with a status, and what it writes to the standard output and the standard
error. -/
structure Exit where
  status : Nat
  output : String := ""
  error : String := ""
  deriving DecidableEq

/-- The name and the version of the program. -/
def version : String := "epas-session-service 0.1.0"

/-- A list of the options, which stands in for the help of a reader of options: that one also says what
each option is for, and what counts where it is left out. -/
def usageText : String :=
  "Usage: epas-session-service [OPTIONS]\n\nOptions:\n" ++
    String.join (OptionName.all.map fun name => "      --" ++ name.long ++ " <VALUE>\n") ++
    "  -h, --help\n  -V, --version\n"

/-- What the readers of options and of JSON say in words of their own. -/
structure Prose where
  /-- The help on the options. -/
  help : String
  /-- The complaint about arguments that give no options. -/
  usage : UsageFault → String
  json : Json.Wording

/-- Short texts, for want of the readers' own. -/
def Prose.brief : Prose where
  help := usageText
  usage _ := usageText
  json := Json.Fault.brief

/-- How the program ends when the service does not start.  The log filter is read as soon as the
arguments have been, so that its complaints stand in front of a report. -/
def Fault.exit (env : Environment) (f : Fault) (prose : Prose := Prose.brief) : Exit :=
  match f with
  | .usage .version => { status := 0, output := version ++ "\n" }
  | .usage .help => { status := 0, output := prose.help }
  | .usage (.fault fault) => { status := 2, error := prose.usage fault }
  | fault => { status := 1, error := LogFilter.complaints env ++ report (fault.causes prose.json) }

end Startup

end PlayerSession
