import PlayerSession.Event
import PlayerSession.Store.Fault

/-! Event stores in memory.  A store remembers which tables were asked for, and can be told to fail. -/

namespace PlayerSession

structure MemoryStore where
  /-- The tables with their records, the table made last at the end. -/
  tables : List (String × List EventRecord) := []
  /-- The tables that were asked for, in order. -/
  lookups : List String := []
  /-- Whether every lookup fails. -/
  failing : Bool := false
  deriving DecidableEq

namespace MemoryStore

/-- Puts records behind those of a table, which is made if it is not there. -/
def appendTo (table : String) (records : List EventRecord) :
    List (String × List EventRecord) → List (String × List EventRecord)
  | [] => [(table, records)]
  | (name, old) :: rest =>
    if name = table then (name, old ++ records) :: rest
    else (name, old) :: appendTo table records rest

/-- Puts records behind those of a table. -/
def insert (s : MemoryStore) (table : String) (records : List EventRecord) : MemoryStore :=
  { s with tables := appendTo table records s.tables }

def setFailing (s : MemoryStore) (failing : Bool) : MemoryStore := { s with failing }

/-- What a lookup finds. -/
def find (s : MemoryStore) (table session : String) : Except StoreFault (List EventRecord) :=
  if s.failing then .error (.other "simulated load failure")
  else
    match s.tables.lookup table with
    | some records => .ok (records.filter (·.sessionId = session))
    | none => .error (.tableNotFound table)

/-- The records of a session in a table, and the store, which remembers the lookup. -/
def items (s : MemoryStore) (table session : String) :
    Except StoreFault (List EventRecord) × MemoryStore :=
  (s.find table session, { s with lookups := s.lookups ++ [table] })

end MemoryStore

end PlayerSession
