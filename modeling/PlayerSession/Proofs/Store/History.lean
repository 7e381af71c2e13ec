import Mathlib.Data.List.Basic
import PlayerSession.Store.Memory

/-! What a store in memory holds after a history of insertions.  A table is there if something was put into
it, and holds all that was put into it, in order. -/

namespace PlayerSession

/-- Records that are put into a table together. -/
structure Insertion where
  table : String
  records : List EventRecord

/-- The records that a history puts into a table, in order. -/
def Insertion.collected (table : String) (history : List Insertion) : List EventRecord :=
  (history.filter (·.table = table)).flatMap (·.records)

namespace Insertion

variable {i : Insertion} {table : String} {history : List Insertion}

theorem collected_cons_self :
    collected i.table (i :: history) = i.records ++ collected i.table history := by
  simp [collected]

theorem collected_cons_of_ne (hNe : i.table ≠ table) :
    collected table (i :: history) = collected table history := by
  simp [collected, hNe]

theorem collected_of_not_mem (h : table ∉ history.map (·.table)) : collected table history = [] := by
  have hNone : history.filter (·.table = table) = [] := by
    rw [List.filter_eq_nil_iff]
    intro i hMem hTable
    exact h (List.mem_map.mpr ⟨i, hMem, of_decide_eq_true hTable⟩)
  rw [collected, hNone, List.flatMap_nil]

end Insertion

namespace MemoryStore

variable {m : MemoryStore} {table : String} {history : List Insertion}

/-- The store after some insertions. -/
def insertAll (m : MemoryStore) (history : List Insertion) : MemoryStore :=
  history.foldl (fun m i => m.insert i.table i.records) m

theorem lookup_appendTo (table name : String) (records : List EventRecord)
    (tables : List (String × List EventRecord)) :
    (appendTo table records tables).lookup name =
      if name = table then some ((tables.lookup table).getD [] ++ records)
      else tables.lookup name := by
  have hOther : name ≠ table → (name == table) = false := fun hName => by simpa using hName
  induction tables with
  | nil =>
    by_cases hName : name = table
    · simp [appendTo, hName]
    · simp [appendTo, hName, List.lookup_cons, hOther hName]
  | cons first tables ih =>
    obtain ⟨first, old⟩ := first
    by_cases hFirst : first = table
    · by_cases hName : name = table
      · simp [appendTo, hFirst, hName]
      · simp [appendTo, hFirst, hName, List.lookup_cons, hOther hName]
    · have hTable : (table == first) = false := by simpa using Ne.symm hFirst
      rw [appendTo, if_neg hFirst, List.lookup_cons, List.lookup_cons, List.lookup_cons, ih, hTable]
      by_cases hName : name = table
      · rw [hName, hTable, if_pos rfl]
      · rw [if_neg hName, if_neg hName]

theorem lookup_insert (m : MemoryStore) (table name : String) (records : List EventRecord) :
    (m.insert table records).tables.lookup name =
      if name = table then some ((m.tables.lookup table).getD [] ++ records)
      else m.tables.lookup name :=
  lookup_appendTo table name records m.tables

theorem failing_insertAll : (m.insertAll history).failing = m.failing := by
  induction history generalizing m with
  | nil => rfl
  | cons i history ih => exact ih

/-- A table is there if something was put into it, be it an empty list. -/
theorem lookup_insertAll :
    (m.insertAll history).tables.lookup table =
      if table ∈ history.map (·.table) then
        some ((m.tables.lookup table).getD [] ++ Insertion.collected table history)
      else m.tables.lookup table := by
  induction history generalizing m with
  | nil => rfl
  | cons i history ih =>
    rw [insertAll, List.foldl_cons, ← insertAll, ih, lookup_insert]
    by_cases hTable : table = i.table
    · subst hTable
      have hHere : i.table ∈ (i :: history).map (·.table) := List.mem_cons_self
      rw [if_pos rfl, if_pos hHere, Insertion.collected_cons_self, Option.getD_some]
      split
      · rw [List.append_assoc]
      · rename_i hNone
        rw [Insertion.collected_of_not_mem hNone, List.append_nil]
    · rw [if_neg hTable, Insertion.collected_cons_of_ne (Ne.symm hTable)]
      simp only [List.map_cons, List.mem_cons, hTable, false_or]

theorem find_of_some {records : List EventRecord} (hWorks : m.failing = false)
    (h : m.tables.lookup table = some records) (session : String) :
    m.find table session = .ok (records.filter (·.sessionId = session)) := by
  rw [find, hWorks, if_neg (by decide), h]

theorem find_of_none (hWorks : m.failing = false) (h : m.tables.lookup table = none)
    (session : String) : m.find table session = .error (.tableNotFound table) := by
  rw [find, hWorks, if_neg (by decide), h]

/-- What a lookup finds in a store that took nothing but the history. -/
theorem find_insertAll (table session : String) :
    (insertAll {} history).find table session =
      if table ∈ history.map (·.table) then
        .ok ((Insertion.collected table history).filter (·.sessionId = session))
      else .error (.tableNotFound table) := by
  have hWorks : (insertAll {} history).failing = false := failing_insertAll
  have hLookup : (insertAll {} history).tables.lookup table = _ := lookup_insertAll
  split
  · rename_i hMem
    rw [if_pos hMem] at hLookup
    exact find_of_some hWorks hLookup session
  · rename_i hMem
    rw [if_neg hMem] at hLookup
    exact find_of_none hWorks hLookup session

end MemoryStore

end PlayerSession
