import PlayerSession.Proofs.Disk
import PlayerSession.Proofs.Store.History
import PlayerSession.Proofs.Store.Records

/-! A store in a directory and a store in memory that take the same records.  After every insertion the
files of the directory mirror the tables in memory, each record on a line of its own, so a lookup finds
the same in both. -/

namespace PlayerSession

namespace Table

variable {table table' : String}

theorem fileName_injective (h : fileName table = fileName table') : table = table' := by
  have hList := congrArg String.toList h
  rw [fileName, fileName, String.toList_append, String.toList_append] at hList
  exact String.toList_inj.mp (List.append_cancel_right hList)

/-- The file of a table stands for itself in the directory. -/
theorem plainName_fileName (h : ValidName table) : Path.PlainName (fileName table) := by
  obtain ⟨-, -, hChars⟩ := h
  have hList : (fileName table).toList = table.toList ++ ['.', 'j', 's', 'o', 'n', 'l'] :=
    String.toList_append
  have hLength : 6 ≤ (fileName table).toList.length := by
    rw [hList, List.length_append]
    exact Nat.le_add_left _ _
  have hForeign : ∀ c, isNameChar c = false → c ∉ ['.', 'j', 's', 'o', 'n', 'l'] →
      c ∉ (fileName table).toList := by
    intro c hName hSuffix hMem
    rw [hList, List.mem_append] at hMem
    rcases hMem with hMem | hMem
    · rw [hChars c hMem] at hName
      cases hName
    · exact hSuffix hMem
  exact {
    slash := hForeign '/' (by decide) (by decide)
    null := hForeign '\x00' (by decide) (by decide)
    ne_empty := fun hEq => absurd (hEq ▸ hLength) (by decide)
    ne_dot := fun hEq => absurd (hEq ▸ hLength) (by decide)
    ne_dots := fun hEq => absurd (hEq ▸ hLength) (by decide) }

end Table

namespace DirectoryStore

variable {s : DirectoryStore} {d : Disk} {place : Place} {m : MemoryStore} {i : Insertion}
  {table session : String} {history : List Insertion}

/-- Writes records behind those of a table, each on a line of its own.  The file of the table is made if
it is not there. -/
def insert (s : DirectoryStore) (d : Disk) (i : Insertion) : Except StoreFault Disk := do
  let path ← s.pathOf i.table
  (d.append path (Table.ofRecords i.records)).mapError .disk

/-- The disk after some insertions. -/
def insertAll (s : DirectoryStore) (d : Disk) (history : List Insertion) : Except StoreFault Disk :=
  history.foldlM s.insert d

/-- The store takes the name of the table, and the disk takes its file. -/
structure Takes (s : DirectoryStore) (table : String) : Prop where
  valid : Table.ValidName table
  fits : Path.Fits s.base (Table.fileName table)

/-- The files in the directory are the tables in memory, each record on a line of its own. -/
structure Mirrors (s : DirectoryStore) (place : Place) (d : Disk) (m : MemoryStore) : Prop where
  reaches : d.Reaches s.base place
  file : ∀ table, Table.ValidName table →
    d.entry? (place ++ [Table.fileName table]) =
      (m.tables.lookup table).map fun records => .file (Table.ofRecords records)
  readsBack : ∀ table records, m.tables.lookup table = some records → ∀ r ∈ records, r.ReadsBack
  works : m.failing = false

theorem pathOf_of_takes (h : s.Takes table) :
    s.pathOf table = .ok (Path.join s.base (Table.fileName table)) := if_pos h.valid

theorem items_of_not_found {path : String} (hPath : s.pathOf table = .ok path)
    (hRead : d.read path = .error .notFound) (session : String) :
    s.items d table session = .error (.tableNotFound table) := by
  simp only [items, hPath, hRead, bind, Except.bind]
  rfl

/-- The file of a table with its records and the new ones behind them. -/
def grown (m : MemoryStore) (i : Insertion) : Entry :=
  .file (Table.ofRecords ((m.tables.lookup i.table).getD [] ++ i.records))

theorem insert_of_mirrors (h : s.Mirrors place d m) (hTakes : s.Takes i.table) :
    s.insert d i = .ok (d.set (place ++ [Table.fileName i.table]) (grown m i)) := by
  have hName := Table.plainName_fileName hTakes.valid
  have hFile := h.file i.table hTakes.valid
  refine bind_eq_ok_iff.mpr ⟨_, pathOf_of_takes hTakes, mapError_eq_ok_iff.mpr ?_⟩
  rw [grown]
  cases hLookup : m.tables.lookup i.table with
  | some old =>
    rw [hLookup] at hFile
    rw [Disk.append_of_file h.reaches hName hTakes.fits hFile, ← Table.ofRecords_append]
    rfl
  | none =>
    rw [hLookup] at hFile
    rw [Disk.append_of_nothing h.reaches hName hTakes.fits hFile]
    rfl

/-- Putting the same records into a table on both sides keeps the two alike. -/
theorem Mirrors.insert (h : s.Mirrors place d m) (hTakes : s.Takes i.table)
    (hReads : ∀ r ∈ i.records, r.ReadsBack) :
    s.Mirrors place (d.set (place ++ [Table.fileName i.table]) (grown m i))
      (m.insert i.table i.records) where
  reaches := by
    have hFile := h.file i.table hTakes.valid
    have hFree : d.entry? (place ++ [Table.fileName i.table]) ≠ some .directory := by
      rw [hFile]
      cases m.tables.lookup i.table with
      | some | none => exact nofun
    exact h.reaches.set hFree (List.concat_ne_nil _ _)
  file table hValid := by
    rw [MemoryStore.lookup_insert]
    by_cases hTable : table = i.table
    · subst hTable
      rw [if_pos rfl, Disk.entry?_set_self (List.concat_ne_nil _ _)]
      rfl
    · have hNe : place ++ [Table.fileName table] ≠ place ++ [Table.fileName i.table] := by
        intro hSame
        exact hTable (Table.fileName_injective (List.singleton_inj.mp (List.append_cancel_left hSame)))
      rw [if_neg hTable, Disk.entry?_set_of_ne hNe, h.file table hValid]
  readsBack table records hRecords := by
    rw [MemoryStore.lookup_insert] at hRecords
    split at hRecords
    · cases hRecords
      intro r hMem
      rcases List.mem_append.mp hMem with hOld | hNew
      · cases hBefore : m.tables.lookup i.table with
        | some old =>
          rw [hBefore] at hOld
          exact h.readsBack i.table old hBefore r hOld
        | none =>
          rw [hBefore] at hOld
          cases hOld
      · exact hReads r hNew
    · exact h.readsBack table records hRecords
  works := h.works

theorem Mirrors.insertAll (h : s.Mirrors place d m)
    (hHistory : ∀ i ∈ history, s.Takes i.table ∧ ∀ r ∈ i.records, r.ReadsBack) :
    ∃ d', s.insertAll d history = .ok d' ∧ s.Mirrors place d' (m.insertAll history) := by
  induction history generalizing d m with
  | nil => exact ⟨d, rfl, h⟩
  | cons i history ih =>
    obtain ⟨hTakes, hReads⟩ := hHistory i List.mem_cons_self
    have hMirrors := h.insert hTakes hReads
    obtain ⟨d', hRest, hAfter⟩ := ih hMirrors fun i' hi' => hHistory i' (List.mem_cons_of_mem i hi')
    refine ⟨d', ?_, hAfter⟩
    rw [DirectoryStore.insertAll, List.foldlM_cons]
    exact bind_eq_ok_iff.mpr ⟨_, insert_of_mirrors h hTakes, hRest⟩

/-- Where the files are the tables in memory, a lookup finds the same. -/
theorem Mirrors.items_eq (h : s.Mirrors place d m) (hTakes : s.Takes table) (session : String) :
    s.items d table session = m.find table session := by
  have hName := Table.plainName_fileName hTakes.valid
  have hFile := h.file table hTakes.valid
  cases hLookup : m.tables.lookup table with
  | some records =>
    rw [hLookup] at hFile
    have hRead := Disk.read_of_file h.reaches hName hTakes.fits hFile
    rw [items_of_holds ⟨_, pathOf_of_takes hTakes, hRead⟩,
      Table.read_ofRecords (h.readsBack table records hLookup),
      MemoryStore.find_of_some h.works hLookup]
  | none =>
    rw [hLookup] at hFile
    have hRead := Disk.read_of_nothing h.reaches hName hTakes.fits hFile
    rw [MemoryStore.find_of_none h.works hLookup, items_of_not_found (pathOf_of_takes hTakes) hRead]

/-- A directory without tables. -/
theorem mirrors_nothing (hReaches : d.Reaches s.base place)
    (hNew : ∀ table, Table.ValidName table → d.entry? (place ++ [Table.fileName table]) = none) :
    s.Mirrors place d {} where
  reaches := hReaches
  file := hNew
  readsBack := nofun
  works := rfl

/-- A store in a directory and a store in memory that take the same records agree: a lookup in a table
that something was put into finds the records of the session, in order, and one in any other table
that the table is not there. -/
theorem items_eq_memory_items (hReaches : d.Reaches s.base place)
    (hNew : ∀ table, Table.ValidName table → d.entry? (place ++ [Table.fileName table]) = none)
    (hHistory : ∀ i ∈ history, s.Takes i.table ∧ ∀ r ∈ i.records, r.ReadsBack) :
    ∃ d', s.insertAll d history = .ok d' ∧ ∀ table session, s.Takes table →
      s.items d' table session = ((MemoryStore.insertAll {} history).items table session).1 ∧
        s.items d' table session =
          if table ∈ history.map (·.table) then
            .ok ((Insertion.collected table history).filter (·.sessionId = session))
          else .error (.tableNotFound table) := by
  obtain ⟨d', hInsert, hMirrors⟩ := (mirrors_nothing hReaches hNew).insertAll hHistory
  refine ⟨d', hInsert, fun table session hTakes => ?_⟩
  have hItems := hMirrors.items_eq hTakes session
  refine ⟨hItems, ?_⟩
  rw [hItems, MemoryStore.find_insertAll]

/-- An event whose strings hold a line end, quotes, a control character and a line separator. -/
def awkwardEvent : EventRecord :=
  { event := "say \"hi\"\n\x01", sessionId := "a\\\u2028", timestamp := Int64.minValue,
    playhead := 4.5, duration := -0.0 }

/-- Insertions into two tables, one of them of nothing. -/
def sampleHistory : List Insertion :=
  [⟨"t", [awkwardEvent, { event := "init", sessionId := "b", timestamp := 1 }]⟩, ⟨"empty", []⟩,
    ⟨"t", [awkwardEvent]⟩]

theorem items_eq_memory_items_sample :
    (∀ i ∈ sampleHistory, Takes ⟨"base"⟩ i.table ∧ ∀ r ∈ i.records, r.ReadsBack) ∧
      ∃ d', insertAll ⟨"base"⟩ { entries := [(["base"], .directory)] } sampleHistory = .ok d' ∧
        items ⟨"base"⟩ d' "t" "a\\\u2028" = .ok [awkwardEvent, awkwardEvent] ∧
        items ⟨"base"⟩ d' "empty" "b" = .ok [] ∧
        items ⟨"base"⟩ d' "other" "b" = .error (.tableNotFound "other") := by
  have hTakes : ∀ table ∈ ["t", "empty", "other"], Takes ⟨"base"⟩ table := by
    intro table hMem
    have hValid : Table.ValidName table := by
      revert table
      decide +kernel
    have hFits : '\x00' ∉ "base".toList ∧ (Table.fileName table).utf8ByteSize ≤ 255 ∧
        (Path.join "base" (Table.fileName table)).utf8ByteSize < 4096 := by
      revert table
      decide +kernel
    exact ⟨hValid, hFits.1, hFits.2.1, hFits.2.2⟩
  have hHalf : Json.ReadsBack 4.5 :=
    show Json.decode Json.Doc.asReal (Json.Value.real 4.5).render = .ok 4.5 by decide +kernel
  have hZero : Json.ReadsBack 0 :=
    show Json.decode Json.Doc.asReal (Json.Value.real 0).render = .ok 0 by decide +kernel
  have hMinusZero : Json.ReadsBack (-0.0) :=
    show Json.decode Json.Doc.asReal (Json.Value.real (-0.0)).render = .ok (-0.0) by decide +kernel
  have hAwkward : awkwardEvent.ReadsBack := ⟨hHalf, hMinusZero⟩
  have hPlain : EventRecord.ReadsBack { event := "init", sessionId := "b", timestamp := 1 } :=
    ⟨hZero, hZero⟩
  have hHistory : ∀ i ∈ sampleHistory, Takes ⟨"base"⟩ i.table ∧ ∀ r ∈ i.records, r.ReadsBack := by
    refine List.forall_mem_cons.mpr ⟨⟨hTakes "t" (by decide), ?_⟩, List.forall_mem_cons.mpr
      ⟨⟨hTakes "empty" (by decide), nofun⟩, List.forall_mem_singleton.mpr ⟨hTakes "t" (by decide), ?_⟩⟩⟩
    · exact List.forall_mem_cons.mpr ⟨hAwkward, List.forall_mem_singleton.mpr hPlain⟩
    · exact List.forall_mem_singleton.mpr hAwkward
  have hReaches : Disk.Reaches { entries := [(["base"], .directory)] } "base" ["base"] := {
    walk := by decide +kernel
    directory := rfl }
  obtain ⟨d', hInsert, hItems⟩ := items_eq_memory_items hReaches (fun _ _ => rfl) hHistory
  refine ⟨hHistory, d', hInsert, ?_, ?_, ?_⟩
  · rw [(hItems "t" "a\\\u2028" (hTakes "t" (by decide))).2]
    decide +kernel
  · rw [(hItems "empty" "b" (hTakes "empty" (by decide))).2]
    decide +kernel
  · rw [(hItems "other" "b" (hTakes "other" (by decide))).2]
    decide +kernel

end DirectoryStore

end PlayerSession
