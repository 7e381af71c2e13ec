import PlayerSession.Store.Lookup

/-! Memory stores behind handles.  Several handles may share a store, and what is done through one of
them shows through the others. -/

namespace PlayerSession

/-- Some memory stores, and for each handle the place of its store among them. -/
structure Shelf where
  stores : List MemoryStore := []
  handles : List Nat := []
  deriving DecidableEq

namespace Shelf

/-- What can be done on a shelf. -/
inductive Action where
  /-- Makes a store and a handle for it. -/
  | create
  /-- Makes another handle for the store of `handle`. -/
  | share (handle : Nat)
  | insert (handle : Nat) (table : String) (records : List EventRecord)
  | setFailing (handle : Nat) (failing : Bool)
  | lookups (handle : Nat)
  | items (handle : Nat) (table session : String)
  deriving DecidableEq

/-- What an action answers. -/
inductive Answer where
  | handle (n : Nat)
  | done
  | lookups (tables : List String)
  | items (outcome : Except StoreFault (List EventRecord))

/-- The store of a handle. -/
def store? (s : Shelf) (handle : Nat) : Option MemoryStore := do s.stores[← s.handles[handle]?]?

/-- Puts another store at the place of a handle's store. -/
def update (s : Shelf) (handle : Nat) (store : MemoryStore) : Shelf :=
  match s.handles[handle]? with
  | some place => { s with stores := s.stores.set place store }
  | none => s

/-- Does something through a handle, if there is such a handle. -/
def act (s : Shelf) : Action → Option (Answer × Shelf)
  | .create =>
    some (.handle s.handles.length,
      { stores := s.stores ++ [{}], handles := s.handles ++ [s.stores.length] })
  | .share handle => do
    let place ← s.handles[handle]?
    return (.handle s.handles.length, { s with handles := s.handles ++ [place] })
  | .insert handle table records => do
    let store ← s.store? handle
    return (.done, s.update handle (store.insert table records))
  | .setFailing handle failing => do
    let store ← s.store? handle
    return (.done, s.update handle (store.setFailing failing))
  | .lookups handle => do
    let store ← s.store? handle
    return (.lookups store.lookups, s)
  | .items handle table session => do
    let store ← s.store? handle
    let (outcome, store) := store.items table session
    return (.items outcome, s.update handle store)

/-- A shelf with one store, whose handle is zero. -/
def start : Shelf := { stores := [{}], handles := [0] }

/-- The answers of some actions one after the other, and the shelf after them. -/
def run (s : Shelf) : List Action → Option (List Answer × Shelf)
  | [] => some ([], s)
  | action :: rest => do
    let (answer, s) ← s.act action
    let (answers, s) ← s.run rest
    return (answer :: answers, s)

/-- The events that a lookup over the store of a handle finds. -/
def events (s : Shelf) (handle : Nat) (tableName : Option String) (session fallback : String) :
    Option (List EventRecord × Shelf) := do
  let store ← s.store? handle
  let lookup : Lookup := { source := some (.memory store), tableName }
  match lookup.events {} session fallback with
  | (some events, { source := some (.memory store), .. }) => return (events, s.update handle store)
  | _ => none

end Shelf

end PlayerSession
