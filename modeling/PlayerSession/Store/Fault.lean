import PlayerSession.Disk
import PlayerSession.Json.Fault

/-! Why an event store cannot be opened or read. -/

namespace PlayerSession

inductive StoreFault where
  | tableNotFound (table : String)
  | invalidTableName (table : String)
  | disk (fault : DiskFault)
  /-- The record on a line of a table, counted from one, cannot be read. -/
  | malformed (line : Nat) (fault : Json.Fault)
  | unsupportedBackend (name : String)
  /-- There is no directory to keep events in. -/
  | noDataDirectory
  | other (message : String)
  deriving DecidableEq

/-- What a fault says.  For a record that cannot be read it repeats the words of the reader of JSON. -/
def StoreFault.message (f : StoreFault) (words : Json.Wording := Json.Fault.brief) : String :=
  match f with
  | .tableNotFound table => "table not found: " ++ table
  | .invalidTableName table => "invalid table name: " ++ Text.quoted table
  | .disk fault => "io error: " ++ fault.message
  | .malformed line fault =>
    "malformed record on line " ++ toString line ++ ": " ++ words fault
  | .unsupportedBackend name => "unsupported database type: " ++ Text.quoted name
  | .noDataDirectory => "could not resolve data dir"
  | .other message => "other: " ++ message

/-- The cause behind a fault, if it only passes one on. -/
def StoreFault.cause? (f : StoreFault) (words : Json.Wording := Json.Fault.brief) : Option String :=
  match f with
  | .disk fault => some fault.message
  | .malformed _ fault => some (words fault)
  | _ => none

end PlayerSession
