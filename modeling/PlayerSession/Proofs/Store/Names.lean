import PlayerSession.Http.Host
import PlayerSession.Proofs.Store.Agreement

/-! Names of tables.  What a store takes as the name of a table is spelled with characters that mean nothing
to a path, so the file of a table is an entry of the directory of the store and different tables are
different files.  A lookup looks at that entry alone, and with a name that is not taken at nothing.  The
table of a request begins with letters of its own, so whether it is taken is a matter of the characters of
the host. -/

namespace PlayerSession

/-! ### Paths -/

namespace Path

variable {base name path : String} {p : Path}

/-- The path leads to the directory `base` and from there to the entry `name`. -/
structure IsChild (base name path : String) : Prop where
  plain : PlainName name
  names_eq : names path = names base ++ [name]
  absolute : path.toList.head? = some '/' ↔ base.toList.head? = some '/'
  file : path.toList.getLast? ≠ some '/'

theorem isChild_join (hName : PlainName name) : IsChild base name (join base name) where
  plain := hName
  names_eq := names_join hName
  absolute := head?_join hName
  file := getLast?_join hName

theorem directory_of_ofText (h : ofText path = .ok p) :
    p.directory = decide (path.toList.getLast? = some '/') := by
  unfold ofText at h
  split at h
  · cases h
  split at h
  · cases h
  split at h
  · cases h
  · cases h
    rfl

end Path

namespace Disk

open PlayerSession.Path

variable {d d' : Disk} {place place' : Place} {base name : String} {p : Path}

/-- The entry of a name in the directory at a place. -/
def child (d : Disk) (place : Place) (name : String) : Except DiskFault Entry := do
  requireName name
  match d.entry? (place ++ [name]) with
  | some e => return e
  | none => throw .notFound

theorem walk_singleton (hDirectory : d.entry? place = some .directory) (hName : PlainName name) :
    d.walk place [name] = (requireName name >>= fun _ =>
      if (d.entry? (place ++ [name])).isSome then .ok (place ++ [name]) else .error .notFound) := by
  have hRequire : d.requireDirectory place = .ok () := requireDirectory_eq_ok_iff.mpr hDirectory
  rw [walk, hRequire, if_neg hName.ne_dot, if_neg hName.ne_dots]
  rfl

/-- The path of a file in a directory leads to the entry of that name there. -/
theorem find_join_eq (hReach : d.Reaches base place) (hName : PlainName name)
    (hPath : ofText (join base name) = .ok p) : d.find (join base name) = d.child place name := by
  obtain ⟨hAbsolute, hComponents⟩ := parts_of_ofText hPath
  have hFile : p.directory = false :=
    (directory_of_ofText hPath).trans (decide_eq_false (getLast?_join hName))
  have hStart : d.start p = d.start (ofDirectory base) := by
    have hSame : (ofDirectory (join base name)).absolute = (ofDirectory base).absolute :=
      decide_eq_decide.mpr (head?_join hName)
    rw [start, start, hAbsolute, hSame]
  have hWalk : d.walk (d.start p) p.components = d.walk place [name] := by
    rw [hComponents, names_join hName, hStart, walk_append, hReach.walk]
    rfl
  rw [find, hPath, child]
  show (d.walk (d.start p) p.components >>= _) = _
  rw [hWalk, walk_singleton hReach.directory hName, hFile]
  cases requireName name with
  | error fault => rfl
  | ok =>
    cases hEntry : d.entry? (place ++ [name]) with
    | none => rfl
    | some e =>
      show (match d.entry? (place ++ [name]) with | some e => _ | none => _) = _
      rw [hEntry]
      rfl

/-- What is read of a file in a directory depends on its entry there and on nothing else. -/
theorem read_join_congr (hName : PlainName name) (hReach : d.Reaches base place)
    (hReach' : d'.Reaches base place')
    (hEntry : d.entry? (place ++ [name]) = d'.entry? (place' ++ [name])) :
    d.read (join base name) = d'.read (join base name) := by
  have hFind : d.find (join base name) = d'.find (join base name) := by
    cases hPath : ofText (join base name) with
    | error fault => rw [find, find, hPath]; rfl
    | ok p => rw [find_join_eq hReach hName hPath, find_join_eq hReach' hName hPath, child, child, hEntry]
  rw [read, read, hFind]

end Disk

/-! ### Tables -/

namespace Table

variable {table : String} {c : Char}

/-- An ASCII letter or digit, `_`, `-` or `.`. -/
def PlainChar (c : Char) : Prop :=
  ('a' ≤ c ∧ c ≤ 'z') ∨ ('A' ≤ c ∧ c ≤ 'Z') ∨ ('0' ≤ c ∧ c ≤ '9') ∨ c = '_' ∨ c = '-' ∨ c = '.'

instance (c : Char) : Decidable (PlainChar c) := inferInstanceAs (Decidable (_ ∨ _))

theorem isNameChar_iff : isNameChar c ↔ PlainChar c := by
  have hUpper : c.isUpper ↔ 'A' ≤ c ∧ c ≤ 'Z' := decide_eq_true_iff
  have hLower : c.isLower ↔ 'a' ≤ c ∧ c ≤ 'z' :=
    (Bool.and_eq_true _ _).to_iff.trans (and_congr decide_eq_true_iff decide_eq_true_iff)
  have hDigit : c.isDigit ↔ '0' ≤ c ∧ c ≤ '9' :=
    (Bool.and_eq_true _ _).to_iff.trans (and_congr decide_eq_true_iff decide_eq_true_iff)
  have hAlphanum : c.isAlphanum = (c.isUpper || c.isLower || c.isDigit) := rfl
  rw [isNameChar, hAlphanum, PlainChar, or_left_comm]
  simp only [Bool.or_eq_true, decide_eq_true_eq, hUpper, hLower, hDigit, or_assoc]

theorem validName_iff :
    ValidName table ↔
      table ≠ "" ∧ table.toList.head? ≠ some '.' ∧ ∀ c ∈ table.toList, PlainChar c := by
  simp only [ValidName, isNameChar_iff]

/-- Behind letters of its own, a name is taken for its characters alone. -/
theorem validName_append_iff {front : String} (hFront : ValidName front) :
    ValidName (front ++ table) ↔ ∀ c ∈ table.toList, PlainChar c := by
  obtain ⟨hNonempty, hHead, hChars⟩ := validName_iff.mp hFront
  have hList : (front ++ table).toList = front.toList ++ table.toList := String.toList_append
  have hFrontNonempty : front.toList ≠ [] := fun hNil => hNonempty (String.toList_inj.mp hNil)
  rw [validName_iff, hList, List.head?_append_of_ne_nil _ hFrontNonempty]
  constructor
  · intro hValid c hMem
    exact hValid.2.2 c (List.mem_append_right _ hMem)
  · intro hPlain
    refine ⟨fun hEmpty => ?_, hHead, List.forall_mem_append.mpr ⟨hChars, hPlain⟩⟩
    rw [hEmpty] at hList
    exact List.append_ne_nil_of_left_ne_nil hFrontNonempty _ hList.symm

end Table

/-- The name of the host of a request, as the table of the request has it: without the white space around
it and without the port, and `unknown` where nothing is left. -/
def Http.normalHost (host : Option String) : String :=
  (((host.map Text.trim).map Http.withoutPort).filter (· ≠ "")).getD "unknown"

theorem Http.validName_tableForHost_iff (host : Option String) :
    Table.ValidName (tableForHost host) ↔ ∀ c ∈ (normalHost host).toList, Table.PlainChar c :=
  have hFront : Table.ValidName "epas_" := by decide
  Table.validName_append_iff hFront

/-! ### Stores -/

namespace DirectoryStore

open PlayerSession.Path (IsChild join names)
open PlayerSession.Http (normalHost tableForHost)

variable {s : DirectoryStore} {d d' : Disk} {place place' : Place} {table table' path path' : String}

/-- A lookup in the table opens the entry `name` of the directory of the store, and nothing else. -/
structure OpensOnly (s : DirectoryStore) (table name : String) : Prop where
  path : s.pathOf table = .ok (join s.base name)
  child : IsChild s.base name (join s.base name)
  /-- What is read at the path is the table. -/
  opens : ∀ d content session, d.read (join s.base name) = .ok content →
    s.items d table session = Table.read session content
  /-- Of a disk, only what is read at the path counts. -/
  reads : ∀ d d' session, d.read (join s.base name) = d'.read (join s.base name) →
    s.items d table session = s.items d' table session
  /-- Where the directory is there, only its entry of that name counts. -/
  entry : ∀ d d' place place' session, d.Reaches s.base place → d'.Reaches s.base place' →
    d.entry? (place ++ [name]) = d'.entry? (place' ++ [name]) →
    s.items d table session = s.items d' table session

/-- A lookup in the table is turned away whatever is on the disk. -/
def OpensNothing (s : DirectoryStore) (table : String) : Prop :=
  ∀ d session, s.items d table session = .error (.invalidTableName table)

theorem pathOf_eq_ok_iff :
    s.pathOf table = .ok path ↔
      Table.ValidName table ∧ path = join s.base (Table.fileName table) := by
  unfold pathOf
  split
  · rename_i hValid
    simp [hValid, eq_comm]
  · rename_i hInvalid
    simp [hInvalid]

theorem items_congr (hPath : s.pathOf table = .ok path) (hRead : d.read path = d'.read path)
    (session : String) : s.items d table session = s.items d' table session := by
  simp only [items, hPath, hRead, bind, Except.bind]

theorem opensOnly_of_validName (hValid : Table.ValidName table) :
    s.OpensOnly table (Table.fileName table) := by
  have hPath : s.pathOf table = .ok (join s.base (Table.fileName table)) :=
    pathOf_eq_ok_iff.mpr ⟨hValid, rfl⟩
  have hName := Table.plainName_fileName hValid
  exact {
    path := hPath
    child := Path.isChild_join hName
    opens := fun _ _ session hRead => items_of_holds ⟨_, hPath, hRead⟩ session
    reads := fun _ _ session hRead => items_congr hPath hRead session
    entry := fun _ _ _ _ session hReaches hReaches' hEntry =>
      items_congr hPath (Disk.read_join_congr hName hReaches hReaches' hEntry) session }

theorem opensNothing_of_not_validName (hInvalid : ¬ Table.ValidName table) :
    s.OpensNothing table := by
  intro d session
  have hPath : s.pathOf table = .error (.invalidTableName table) := if_neg hInvalid
  rw [items, hPath]
  rfl

/-- Different tables are files with different names in the directory, whatever its path looks like. -/
theorem names_ne_of_ne (hPath : s.pathOf table = .ok path) (hPath' : s.pathOf table' = .ok path')
    (hNe : table ≠ table') : names path ≠ names path' := by
  obtain ⟨hValid, rfl⟩ := pathOf_eq_ok_iff.mp hPath
  obtain ⟨hValid', rfl⟩ := pathOf_eq_ok_iff.mp hPath'
  rw [Path.names_join (Table.plainName_fileName hValid),
    Path.names_join (Table.plainName_fileName hValid')]
  intro hSame
  exact hNe (Table.fileName_injective (List.singleton_inj.mp (List.append_cancel_left hSame)))

/-- No table leads out of the directory of a store, and no two tables to one file.  The names that are
taken are told by their characters, the file of such a table is an entry of the directory, and a lookup
opens it and nothing else; with any other name a lookup opens nothing.  So it is with the table of a
request, whatever host the request was sent to. -/
theorem tables_confined_to_base (s : DirectoryStore) :
    (∀ table, (∃ path, s.pathOf table = .ok path) ↔
      table ≠ "" ∧ table.toList.head? ≠ some '.' ∧ ∀ c ∈ table.toList, Table.PlainChar c) ∧
    (∀ table path, s.pathOf table = .ok path →
      path = join s.base (table ++ ".jsonl") ∧ s.OpensOnly table (table ++ ".jsonl")) ∧
    (∀ table table' path path', s.pathOf table = .ok path → s.pathOf table' = .ok path' →
      table ≠ table' → names path ≠ names path') ∧
    (∀ table, (¬ ∃ path, s.pathOf table = .ok path) → s.OpensNothing table) ∧
    ∀ host, tableForHost host = "epas_" ++ normalHost host ∧
      ((∀ c ∈ (normalHost host).toList, Table.PlainChar c) →
        s.OpensOnly (tableForHost host) ("epas_" ++ normalHost host ++ ".jsonl")) ∧
      ((¬ ∀ c ∈ (normalHost host).toList, Table.PlainChar c) →
        s.OpensNothing (tableForHost host)) := by
  have hTaken : ∀ table, (∃ path, s.pathOf table = .ok path) ↔ Table.ValidName table := by
    intro table
    simp only [pathOf_eq_ok_iff, exists_and_left, exists_eq, and_true]
  refine ⟨fun table => ?_, fun table path hPath => ?_, fun table table' path path' hPath hPath' =>
    names_ne_of_ne hPath hPath', fun table hNone => ?_, fun host => ⟨rfl, fun hPlain => ?_,
    fun hOdd => ?_⟩⟩
  · rw [hTaken, Table.validName_iff]
  · obtain ⟨hValid, hEq⟩ := pathOf_eq_ok_iff.mp hPath
    exact ⟨hEq, opensOnly_of_validName hValid⟩
  · exact opensNothing_of_not_validName fun hValid => hNone ((hTaken table).mpr hValid)
  · exact opensOnly_of_validName ((Http.validName_tableForHost_iff host).mpr hPlain)
  · exact opensNothing_of_not_validName fun hValid =>
      hOdd ((Http.validName_tableForHost_iff host).mp hValid)

/-- Of two requests one is for a host with a port and one for a host that is a way out of the directory. -/
theorem tables_confined_to_data :
    OpensOnly ⟨"data"⟩ (tableForHost (some " mock.tv:80 ")) "epas_mock.tv.jsonl" ∧
      OpensNothing ⟨"data"⟩ (tableForHost (some "/../../etc/passwd")) ∧
      names (join "data" "epas_mock.tv.jsonl") ≠ names (join "data" "mock.tv.jsonl") := by
  obtain ⟨-, -, hApart, -, hHosts⟩ := tables_confined_to_base ⟨"data"⟩
  have hPlain : ∀ c ∈ (normalHost (some " mock.tv:80 ")).toList, Table.PlainChar c := by
    have hName : normalHost (some " mock.tv:80 ") = "mock.tv" := by decide +kernel
    have hValid : Table.ValidName "mock.tv" := by decide
    rw [hName]
    exact (Table.validName_iff.mp hValid).2.2
  have hSlash : '/' ∈ (normalHost (some "/../../etc/passwd")).toList := by decide +kernel
  refine ⟨(hHosts (some " mock.tv:80 ")).2.1 hPlain,
    (hHosts (some "/../../etc/passwd")).2.2 fun hAll => ?_, ?_⟩
  · exact absurd (hAll '/' hSlash) (by decide)
  · exact hApart "epas_mock.tv" "mock.tv" _ _ rfl rfl (by decide)

end DirectoryStore

end PlayerSession
