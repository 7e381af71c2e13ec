import PlayerSession.Store.Directory
import PlayerSession.Store.Memory

/-! Looking up the events of a session in the store that was chosen, if one was. -/

namespace PlayerSession

/-- A store of either kind. -/
inductive Source where
  | directory (store : DirectoryStore)
  | memory (store : MemoryStore)
  deriving DecidableEq

/-- The records of a session in a table, and the store after the lookup. -/
def Source.items (s : Source) (d : Disk) (table session : String) :
    Except StoreFault (List EventRecord) × Source :=
  match s with
  | .directory store => (store.items d table session, s)
  | .memory store =>
    let (outcome, store) := store.items table session
    (outcome, .memory store)

/-- Where to look up events: a store, and the table to read whatever the request. -/
structure Lookup where
  source : Option Source := none
  tableName : Option String := none
  deriving DecidableEq

namespace Lookup

/-- The table to read where `fallback` is the table of the request. -/
def table (l : Lookup) (fallback : String) : String := l.tableName.getD fallback

/-- The events of a session, or none without a store, and the store after the lookup.  A store that
fails has no events. -/
def events (l : Lookup) (d : Disk) (session fallback : String) :
    Option (List EventRecord) × Lookup :=
  match l.source with
  | none => (none, l)
  | some source =>
    let (outcome, source) := source.items d (l.table fallback) session
    (some (outcome.toOption.getD []), { l with source := some source })

/-- The description of a lookup in logs. -/
def debugText (l : Lookup) : String :=
  "EventDb \x7b configured: " ++ (if l.source.isSome then "true" else "false") ++ ", table_name: " ++
    (match l.tableName with
      | some name => "Some(" ++ Text.quoted name ++ ")"
      | none => "None") ++ " \x7d"

end Lookup

end PlayerSession
