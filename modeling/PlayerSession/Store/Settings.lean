import PlayerSession.Store.Lookup

/-! Choosing an event store: the settings, where they come from, and what they open. -/

namespace PlayerSession

inductive Backend where
  | filesystem
  deriving DecidableEq

namespace Backend

/-- The backend of a name, in capital or small letters and with white space around it. -/
def ofName (name : String) : Except StoreFault Backend :=
  let upper := (Text.trim name).map Char.toUpper
  if upper = "FILESYSTEM" ∨ upper = "FS" then .ok .filesystem
  else .error (.unsupportedBackend name)

/-- The name of a backend in answers. -/
def name : Backend → String
  | .filesystem => "Filesystem"

end Backend

abbrev Environment := List (String × String)

def Environment.get? (env : Environment) (name : String) : Option String := env.lookup name

/-- Settings of an event store. -/
structure StoreSettings where
  /-- The name of a backend, as it was given. -/
  backend : Option String := none
  /-- The table to read whatever the request. -/
  tableName : Option String := none
  /-- The directory of the events. -/
  dataDirectory : Option String := none
  deriving DecidableEq

/-- A setting, which counts as left out when it is blank. -/
def nonBlank (value : Option String) : Option String := value.filter fun s => ¬ Text.Blank s

namespace StoreSettings

/-- The settings that some variables make. -/
def ofVariables (env : Environment) : StoreSettings where
  backend := nonBlank (env.get? "DB_TYPE")
  tableName := nonBlank (env.get? "TABLE_NAME")
  dataDirectory := nonBlank (env.get? "EVENTS_DIR")

/-- The backend, if one is set that there is. -/
def backend? (s : StoreSettings) : Option Backend := do (Backend.ofName (← s.backend)).toOption

/-- The directory for the data of the account's programs: `XDG_DATA_HOME` if it is an absolute path,
and otherwise a directory under the home directory.  The home directory of the account itself,
`accountHome`, counts where the environment has none. -/
def userDirectory (env : Environment) (accountHome : Option String) : Option String :=
  let home := ((env.get? "HOME").filter (· ≠ "")).or accountHome
  let absolute := (env.get? "XDG_DATA_HOME").filter fun s => s.toList.head? = some '/'
  home.map fun home => absolute.getD (Path.join home ".local/share")

/-- The directory of the events: the one that is set, or a fixed one under the user's. -/
def directory (s : StoreSettings) (env : Environment) (accountHome : Option String) :
    Except StoreFault String :=
  match s.dataDirectory with
  | some path => .ok path
  | none =>
    match userDirectory env accountHome with
    | some path => .ok (Path.join path "epas/events")
    | none => .error .noDataDirectory

/-- Opens the store that the settings choose, if they choose one. -/
def openStore (s : StoreSettings) (env : Environment) (accountHome : Option String) (d : Disk) :
    Except StoreFault (Option Source × Disk) :=
  match s.backend? with
  | none => .ok (none, d)
  | some .filesystem => do
    let (store, d) ← DirectoryStore.create d (← s.directory env accountHome)
    return (some (.directory store), d)

/-- Opens the store that the settings choose, and looks up events in their table. -/
def openLookup (s : StoreSettings) (env : Environment) (accountHome : Option String) (d : Disk) :
    Except StoreFault (Lookup × Disk) := do
  let (source, d) ← s.openStore env accountHome d
  return ({ source, tableName := s.tableName }, d)

end StoreSettings

end PlayerSession
