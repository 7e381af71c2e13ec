import Mathlib.Data.List.Induction
import PlayerSession.Proofs.Store.History
import PlayerSession.Store.Shelf

/-! What is done to a store in memory, one deed after the other.  A new store after some deeds has the
lookups, the failure flag and the tables that its deeds tell, so `perform_after`: a deed is answered
from the deeds before it. -/

namespace PlayerSession.Shelf

/-- What can be done to a store through a handle. -/
inductive Deed where
  | insert (table : String) (records : List EventRecord)
  | setFailing (failing : Bool)
  | lookups
  | items (table session : String)
  deriving DecidableEq

namespace Deed

def lookup? : Deed → Option String
  | .items table _ => some table
  | _ => none

def switch? : Deed → Option Bool
  | .setFailing failing => some failing
  | _ => none

def insertion? : Deed → Option Insertion
  | .insert table records => some ⟨table, records⟩
  | _ => none

/-- The tables that were asked for, in order, by lookups that failed as well. -/
def asked (deeds : List Deed) : List String := deeds.filterMap lookup?

/-- Whether the store was told to fail when it was last told to fail or not to. -/
def failing (deeds : List Deed) : Bool := (deeds.filterMap switch?).getLast? = some true

/-- What was put into the tables, in order. -/
def insertions (deeds : List Deed) : List Insertion := deeds.filterMap insertion?

/-- What a lookup finds after some deeds. -/
def found (deeds : List Deed) (table session : String) : Except StoreFault (List EventRecord) :=
  if failing deeds then .error (.other "simulated load failure")
  else if table ∉ (insertions deeds).map (·.table) then .error (.tableNotFound table)
  else .ok ((Insertion.collected table (insertions deeds)).filter (·.sessionId = session))

/-- What a deed is answered after others. -/
def reply (past : List Deed) : Deed → Answer
  | .insert .. | .setFailing _ => .done
  | .lookups => .lookups (asked past)
  | .items table session => .items (found past table session)

/-- What deeds are answered one after the other, after others. -/
def replies (past : List Deed) : List Deed → List Answer
  | [] => []
  | deed :: deeds => reply past deed :: replies (past ++ [deed]) deeds

end Deed

/-- Does something to a store. -/
def perform (m : MemoryStore) : Deed → Answer × MemoryStore
  | .insert table records => (.done, m.insert table records)
  | .setFailing failing => (.done, m.setFailing failing)
  | .lookups => (.lookups m.lookups, m)
  | .items table session =>
    let (outcome, m) := m.items table session
    (.items outcome, m)

/-- A new store after some deeds. -/
def after (deeds : List Deed) : MemoryStore := deeds.foldl (fun m deed => (perform m deed).2) {}

section Store

variable {deeds : List Deed} {deed : Deed}

theorem after_concat : after (deeds ++ [deed]) = (perform (after deeds) deed).2 := by
  rw [after, List.foldl_append]
  rfl

theorem lookups_after : (after deeds).lookups = Deed.asked deeds := by
  induction deeds using List.reverseRecOn with
  | nil => rfl
  | append_singleton deeds deed ih =>
    rw [after_concat, Deed.asked, List.filterMap_append, ← Deed.asked, ← ih]
    cases deed <;> simp [Deed.lookup?, perform, MemoryStore.insert, MemoryStore.setFailing,
      MemoryStore.items]

theorem failing_after : (after deeds).failing = Deed.failing deeds := by
  induction deeds using List.reverseRecOn with
  | nil => rfl
  | append_singleton deeds deed ih =>
    rw [after_concat, Deed.failing, List.filterMap_append]
    cases deed <;> simp [Deed.switch?, perform, MemoryStore.insert, MemoryStore.setFailing,
      MemoryStore.items, ih, Deed.failing]

theorem tables_after :
    (after deeds).tables = (MemoryStore.insertAll {} (Deed.insertions deeds)).tables := by
  induction deeds using List.reverseRecOn with
  | nil => rfl
  | append_singleton deeds deed ih =>
    rw [after_concat, Deed.insertions, List.filterMap_append, ← Deed.insertions]
    cases deed with
    | insert table records =>
      rw [MemoryStore.insertAll, List.foldl_append, ← MemoryStore.insertAll]
      exact congrArg (MemoryStore.appendTo table records) ih
    | setFailing | lookups | items =>
      rw [List.filterMap_cons_none rfl, List.filterMap_nil, List.append_nil]
      exact ih

theorem find_after (deeds : List Deed) (table session : String) :
    (after deeds).find table session = Deed.found deeds table session := by
  have hWorks : (MemoryStore.insertAll {} (Deed.insertions deeds)).find table session = _ :=
    MemoryStore.find_insertAll table session
  have hIdle : (MemoryStore.insertAll {} (Deed.insertions deeds)).failing = false :=
    MemoryStore.failing_insertAll
  rw [MemoryStore.find, hIdle, if_neg (by decide), ← tables_after] at hWorks
  rw [MemoryStore.find, failing_after, hWorks, Deed.found]
  simp only [ite_not]

/-- A store answers as its history tells. -/
theorem perform_after (deeds : List Deed) (deed : Deed) :
    perform (after deeds) deed = (Deed.reply deeds deed, after (deeds ++ [deed])) := by
  rw [after_concat]
  cases deed with
  | insert | setFailing => rfl
  | lookups => rw [perform, Deed.reply, lookups_after]
  | items table session => simp only [perform, MemoryStore.items, Deed.reply, find_after]

end Store

end PlayerSession.Shelf
