import PlayerSession.Store.Table

/-! Event stores in a directory: the table `t` is the file `t.jsonl`. -/

namespace PlayerSession

/-- An event store in the directory `base`. -/
structure DirectoryStore where
  base : String
  deriving DecidableEq

namespace DirectoryStore

/-- Opens the store in a directory, which is made if it is not there. -/
def create (d : Disk) (base : String) : Except StoreFault (DirectoryStore × Disk) := do
  let d ← (d.createDirectories base).mapError .disk
  return (⟨base⟩, d)

/-- The path of the file of a table. -/
def pathOf (s : DirectoryStore) (table : String) : Except StoreFault String :=
  if Table.ValidName table then .ok (Path.join s.base (Table.fileName table))
  else .error (.invalidTableName table)

/-- The records of a session in a table, in the order of the file. -/
def items (s : DirectoryStore) (d : Disk) (table session : String) :
    Except StoreFault (List EventRecord) := do
  let path ← s.pathOf table
  match d.read path with
  | .ok content => Table.read session content
  | .error .notFound => throw (.tableNotFound table)
  | .error fault => throw (.disk fault)

end DirectoryStore

end PlayerSession
