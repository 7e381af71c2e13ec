import PlayerSession.Settings.Address
import PlayerSession.Store.Settings

/-! The command line.  An option takes the argument behind it, or what follows an equals sign, as its
value.  A value is looked at only when the next known option or the end of the arguments comes, and an
argument that nothing knows is refused at once.  What the command line leaves out may be set by the
environment. -/

namespace PlayerSession

/-- Why the arguments give no options. -/
inductive UsageFault where
  | unknownArgument
  /-- The address to listen on is none. -/
  | invalidAddress
  /-- A value is missing, or a path is empty. -/
  | missingValue
  /-- An option is given twice. -/
  | repeatedOption
  /-- A flag is given a value. -/
  | unwantedValue
  deriving DecidableEq

/-- Why the program does not go on with the options. -/
inductive UsageStop where
  | help
  | version
  | fault (fault : UsageFault)
  deriving DecidableEq

/-- The options that take a value. -/
inductive OptionName where
  | listen
  | backend
  | tableName
  | eventsDirectory
  | grammar
  | tlsCertificate
  | tlsKey
  deriving DecidableEq

namespace OptionName

/-- The options in the order in which they are described. -/
def all : List OptionName :=
  [.listen, .backend, .tableName, .eventsDirectory, .grammar, .tlsCertificate, .tlsKey]

/-- The name of an option on the command line, without the dashes. -/
def long : OptionName → String
  | .listen => "listen"
  | .backend => "db-type"
  | .tableName => "table-name"
  | .eventsDirectory => "events-dir"
  | .grammar => "grammar"
  | .tlsCertificate => "tls-cert"
  | .tlsKey => "tls-key"

/-- The variable of the environment that may set an option. -/
def environmentName? : OptionName → Option String
  | .listen => some "LISTEN_ADDR"
  | .backend => some "DB_TYPE"
  | .tableName => some "TABLE_NAME"
  | .eventsDirectory => some "EVENTS_DIR"
  | .grammar | .tlsCertificate | .tlsKey => none

/-- The option of a name. -/
def ofLong? (name : String) : Option OptionName := all.find? (·.long = name)

/-- Whether the value of an option is a path. -/
def isPath : OptionName → Bool
  | .eventsDirectory | .grammar | .tlsCertificate | .tlsKey => true
  | .listen | .backend | .tableName => false

end OptionName

/-- The options of the program. -/
structure Options where
  listen : SocketAddress
  backend : Option String
  tableName : Option String
  eventsDirectory : Option String
  grammar : Option String
  tlsCertificate : Option String
  tlsKey : Option String
  deriving DecidableEq

namespace Options

/-- The settings of the event store.  A path is taken as it is, blank or not. -/
def storeSettings (o : Options) : StoreSettings where
  backend := nonBlank o.backend
  tableName := nonBlank o.tableName
  dataDirectory := o.eventsDirectory

/-! ### Arguments -/

/-- Values of options, each option at most once. -/
abbrev Given := List (OptionName × String)

/-- Accepts a value of an option. -/
def accept (given : Given) (name : OptionName) (value : String) : Except UsageFault Given :=
  if (given.lookup name).isSome then .error .repeatedOption
  else if name = .listen ∧ SocketAddress.ofText? value = none then .error .invalidAddress
  else if name.isPath ∧ value = "" then .error .missingValue
  else .ok (given ++ [(name, value)])

/-- An option that has been named, with its value if that has come. -/
structure Pending where
  name : OptionName
  value : Option String := none

/-- Where the reading of the arguments stands. -/
structure Progress where
  given : Given := []
  pending : Option Pending := none

/-- Looks at the value of the option named last. -/
def Progress.settle (p : Progress) : Except UsageFault Given :=
  match p.pending with
  | none => .ok p.given
  | some { name, value := some value } => accept p.given name value
  | some { value := none, .. } => .error .missingValue

/-- A flag, which ends the reading. -/
def Progress.flag (p : Progress) (stop : UsageStop) : Except UsageStop Progress :=
  match p.settle with
  | .ok _ => .error stop
  | .error fault => .error (.fault fault)

/-- Takes an argument that begins with two dashes, of which `name` and perhaps a value is left. -/
def Progress.takeLong (p : Progress) (name : String) (value : Option String) :
    Except UsageStop Progress :=
  let flag (stop : UsageStop) :=
    if value.isSome then .error (.fault .unwantedValue) else p.flag stop
  if name = "help" then flag .help
  else if name = "version" then flag .version
  else
    match OptionName.ofLong? name with
    | none => .error (.fault .unknownArgument)
    | some option => do
      let given ← p.settle.mapError .fault
      match value with
      | none => return { given, pending := some { name := option } }
      | some value => return { given := ← (accept given option value).mapError .fault }

/-- Takes an argument that is no option: the value of the option named last, if that is still due. -/
def Progress.takeValue (p : Progress) (value : String) : Except UsageStop Progress :=
  match p.pending with
  | some { name, value := none } =>
    .ok { p with pending := some { name, value := some value } }
  | _ => .error (.fault .unknownArgument)

/-- Takes an argument. -/
def Progress.take (p : Progress) (argument : String) : Except UsageStop Progress :=
  match argument.toList with
  | '-' :: '-' :: c :: rest =>
    let name := (c :: rest).takeWhile (· ≠ '=')
    let value := match (c :: rest).dropWhile (· ≠ '=') with
      | _ :: value => some (String.ofList value)
      | [] => none
    p.takeLong (String.ofList name) value
  | '-' :: 'h' :: _ => p.flag .help
  | '-' :: 'V' :: _ => p.flag .version
  | '-' :: _ :: _ => .error (.fault .unknownArgument)
  | _ => p.takeValue argument

/-- Reads the arguments.  Two dashes end the options, and nothing may follow them. -/
def readArguments (p : Progress) : List String → Except UsageStop Given
  | [] => p.settle.mapError .fault
  | "--" :: rest =>
    if rest = [] then p.settle.mapError .fault else .error (.fault .unknownArgument)
  | argument :: rest => do readArguments (← p.take argument) rest

/-! ### Environment -/

/-- Accepts the variables of the environment for the options that have not been given. -/
def readVariables (env : Environment) (given : Given) : Except UsageFault Given :=
  OptionName.all.foldlM (fun given name =>
    match given.lookup name, name.environmentName?.bind env.get? with
    | none, some value => accept given name value
    | _, _ => .ok given) given

/-- The address to listen on where none is given. -/
def defaultListen : SocketAddress := .v4 [0, 0, 0, 0] 3001

/-- The options that were given. -/
def ofGiven (given : Given) : Options where
  listen := ((given.lookup .listen).bind SocketAddress.ofText?).getD defaultListen
  backend := given.lookup .backend
  tableName := given.lookup .tableName
  eventsDirectory := given.lookup .eventsDirectory
  grammar := given.lookup .grammar
  tlsCertificate := given.lookup .tlsCertificate
  tlsKey := given.lookup .tlsKey

/-- The options that the arguments and the environment give. -/
def read (arguments : List String) (env : Environment) : Except UsageStop Options := do
  let given ← readArguments {} arguments
  return ofGiven (← (readVariables env given).mapError .fault)

end Options

end PlayerSession
