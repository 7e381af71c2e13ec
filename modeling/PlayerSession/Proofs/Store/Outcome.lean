import Mathlib.Data.List.Forall2
import PlayerSession.Proofs.Json.Reading
import PlayerSession.Proofs.Store.Lines
import PlayerSession.Proofs.Text.Line

/-! The outcome of reading a table.  `Faulty` says what can be wrong with a line for a session, and
`Bad` that something is.  Without a bad line the outcome is the records of the lines that belong to
the session, in order.  Otherwise it is the fault of the first bad line.  A fault in what a line
says has the number of the line, with blank lines and lines of other sessions counted. -/

namespace PlayerSession

open Json

namespace Table

variable {session text : String} {n : Nat} {line : Bytes} {all rest : List Bytes}
  {fault : StoreFault} {record? : Option EventRecord} {records : List EventRecord}

/-- What is wrong with the line with the number `n`. -/
inductive Faulty (session : String) (n : Nat) (line : Bytes) : StoreFault → Prop
  | notText : line.text? = none → Faulty session n line (.disk .notText)
  /-- The session of the line cannot be read. -/
  | unprobed {text : String} {fault : Fault} : line.text? = some text → Text.trim text ≠ "" →
      SessionKey.decode (Text.trim text) = .error fault → Faulty session n line (.malformed n fault)
  /-- The line belongs to the session and is no record. -/
  | unread {text : String} {fault : Fault} : line.text? = some text → Text.trim text ≠ "" →
      SessionKey.decode (Text.trim text) = .ok ⟨session⟩ →
      EventRecord.decode (Text.trim text) = .error fault →
      Faulty session n line (.malformed n fault)

def Bad (session : String) (line : Bytes) : Prop := ∃ n fault, Faulty session n line fault

/-- The line is not blank, and its session is read as `session`. -/
def Belongs (session : String) (line : Bytes) : Prop :=
  ∃ text ∈ line.text?, Text.trim text ≠ "" ∧ SessionKey.decode (Text.trim text) = .ok ⟨session⟩

instance (session : String) (line : Bytes) : Decidable (Belongs session line) :=
  inferInstanceAs (Decidable (∃ text ∈ line.text?, _))

/-- The text of the line is read as the record `r`. -/
def Bears (line : Bytes) (r : EventRecord) : Prop :=
  ∃ text ∈ line.text?, EventRecord.decode (Text.trim text) = .ok r

/-! ### Single lines -/

theorem readText_eq_error_iff {fault : Fault} :
    readText session text = .error fault ↔
      SessionKey.decode text = .error fault ∨
        SessionKey.decode text = .ok ⟨session⟩ ∧ EventRecord.decode text = .error fault := by
  rw [readText]
  cases hKey : SessionKey.decode text with
  | error e => simp [bind, Except.bind]
  | ok key =>
    obtain ⟨named⟩ := key
    by_cases hSession : named = session
    · cases hRecord : EventRecord.decode text <;> simp [bind, Except.bind, hSession]
    · simp [bind, Except.bind, pure, Except.pure, hSession]

theorem readText_eq_ok_iff :
    readText session text = .ok record? ↔
      SessionKey.decode text = .ok ⟨session⟩ ∧
          (∃ r, EventRecord.decode text = .ok r ∧ record? = some r) ∨
        (∃ key, SessionKey.decode text = .ok key ∧ key.sessionId ≠ session) ∧ record? = none := by
  rw [readText]
  cases hKey : SessionKey.decode text with
  | error e => simp [bind, Except.bind]
  | ok key =>
    obtain ⟨named⟩ := key
    by_cases hSession : named = session
    · cases hRecord : EventRecord.decode text <;>
        simp [bind, Except.bind, hSession, eq_comm (a := record?)]
    · simp [bind, Except.bind, pure, Except.pure, hSession, eq_comm (a := record?)]

theorem readLine_eq_error_iff :
    readLine session n line = .error fault ↔ Faulty session n line fault := by
  cases hText : line.text? with
  | none =>
    rw [readLine_eq_of_no_text hText]
    constructor
    · rintro ⟨⟩
      exact .notText hText
    · intro h
      cases h with
      | notText => rfl
      | unprobed hSome | unread hSome => cases hText.symm.trans hSome
  | some text =>
    rw [readLine_eq_of_text hText]
    constructor
    · intro h
      split at h
      · cases h
      · rename_i hBlank
        have hNe : Text.trim text ≠ "" := mt Text.trim_eq_empty_iff.mp hBlank
        obtain ⟨e, hRead, rfl⟩ := mapError_eq_error_iff.mp h
        rcases readText_eq_error_iff.mp hRead with hKey | ⟨hKey, hRecord⟩
        · exact .unprobed hText hNe hKey
        · exact .unread hText hNe hKey hRecord
    · intro h
      cases h with
      | notText hNone => cases hText.symm.trans hNone
      | unprobed hSome hNe hKey =>
        cases hText.symm.trans hSome
        rw [if_neg (mt Text.trim_eq_empty_iff.mpr hNe), readText_eq_error_iff.mpr (.inl hKey)]
        rfl
      | unread hSome hNe hKey hRecord =>
        cases hText.symm.trans hSome
        rw [if_neg (mt Text.trim_eq_empty_iff.mpr hNe),
          readText_eq_error_iff.mpr (.inr ⟨hKey, hRecord⟩)]
        rfl

/-- Whether a line is bad does not depend on its number. -/
theorem bad_iff (n : Nat) : Bad session line ↔ ∃ fault, readLine session n line = .error fault := by
  simp only [readLine_eq_error_iff]
  constructor
  · rintro ⟨_, _, h⟩
    cases h with
    | notText hNone => exact ⟨_, .notText hNone⟩
    | unprobed hSome hNe hKey => exact ⟨_, .unprobed hSome hNe hKey⟩
    | unread hSome hNe hKey hRecord => exact ⟨_, .unread hSome hNe hKey hRecord⟩
  · rintro ⟨fault, h⟩
    exact ⟨n, fault, h⟩

/-- A line that can be read gives its record if it belongs to the session, and nothing otherwise. -/
theorem forall₂_bears_of_readLine (h : readLine session n line = .ok record?) :
    List.Forall₂ Bears ([line].filter (Belongs session ·)) record?.toList := by
  have hNothing : ¬ Belongs session line → record? = none →
      List.Forall₂ Bears ([line].filter (Belongs session ·)) record?.toList := by
    rintro hNot rfl
    simp [hNot]
  cases hText : line.text? with
  | none =>
    rw [readLine_eq_of_no_text hText] at h
    cases h
  | some text =>
    rw [readLine_eq_of_text hText] at h
    split at h
    · rename_i hBlank
      cases h
      apply hNothing _ rfl
      rintro ⟨_, hSome, hNe, -⟩
      cases hText.symm.trans hSome
      exact hNe (Text.trim_of_blank hBlank)
    · rename_i hBlank
      have hNe : Text.trim text ≠ "" := mt Text.trim_eq_empty_iff.mp hBlank
      rcases readText_eq_ok_iff.mp (mapError_eq_ok_iff.mp h) with
        ⟨hKey, r, hRecord, rfl⟩ | ⟨⟨key, hKey, hOther⟩, rfl⟩
      · have hOwn : Belongs session line := ⟨text, hText, hNe, hKey⟩
        rw [List.filter_cons_of_pos (by simpa using hOwn)]
        exact .cons ⟨text, hText, hRecord⟩ .nil
      · apply hNothing _ rfl
        rintro ⟨_, hSome, -, hOwn⟩
        cases hText.symm.trans hSome
        cases hKey.symm.trans hOwn
        exact hOther rfl

/-! ### All lines -/

/-- The fault of the first bad line, where the first line of all has the number `n`. -/
def FirstFault (session : String) (n : Nat) (all : List Bytes) (fault : StoreFault) : Prop :=
  ∃ before line after, all = before ++ line :: after ∧ (∀ l ∈ before, ¬ Bad session l) ∧
    Faulty session (n + before.length) line fault

theorem not_firstFault_nil : ¬ FirstFault session n [] fault := by
  rintro ⟨before, line, after, h, -⟩
  simp at h

theorem firstFault_cons_iff :
    FirstFault session n (line :: rest) fault ↔
      Faulty session n line fault ∨ ¬ Bad session line ∧ FirstFault session (n + 1) rest fault := by
  have hNumber : ∀ before : List Bytes, n + (line :: before).length = n + 1 + before.length := by
    intro before
    rw [List.length_cons]
    omega
  constructor
  · rintro ⟨before, l, after, h, hClean, hFaulty⟩
    cases before with
    | nil =>
      cases h
      exact .inl hFaulty
    | cons first before =>
      cases h
      obtain ⟨hFirst, hBefore⟩ := List.forall_mem_cons.mp hClean
      refine .inr ⟨hFirst, before, l, after, rfl, hBefore, ?_⟩
      rwa [hNumber] at hFaulty
  · rintro (hFaulty | ⟨hFirst, before, l, after, rfl, hBefore, hFaulty⟩)
    · exact ⟨[], line, rest, rfl, nofun, hFaulty⟩
    · refine ⟨line :: before, l, after, rfl, List.forall_mem_cons.mpr ⟨hFirst, hBefore⟩, ?_⟩
      rwa [hNumber]

theorem readLines_eq_error_iff :
    readLines session n all = .error fault ↔ FirstFault session n all fault := by
  induction all generalizing n with
  | nil => simp [readLines, not_firstFault_nil]
  | cons line rest ih =>
    rw [readLines, bind_eq_error_iff, readLine_eq_error_iff, firstFault_cons_iff]
    apply or_congr_right
    constructor
    · rintro ⟨record?, hLine, h⟩
      refine ⟨fun hBad => ?_, ih.mp ?_⟩
      · obtain ⟨e, hError⟩ := (bad_iff n).mp hBad
        cases hLine.symm.trans hError
      · rcases bind_eq_error_iff.mp h with h | ⟨_, -, h⟩
        · exact h
        · cases h
    · rintro ⟨hGood, hRest⟩
      cases hLine : readLine session n line with
      | error e => exact absurd ((bad_iff n).mpr ⟨e, hLine⟩) hGood
      | ok record? => exact ⟨record?, rfl, bind_eq_error_iff.mpr (.inl (ih.mpr hRest))⟩

theorem exists_readLines_iff :
    (∃ records, readLines session n all = .ok records) ↔ ∀ line ∈ all, ¬ Bad session line := by
  induction all generalizing n with
  | nil => simp [readLines]
  | cons line rest ih =>
    rw [List.forall_mem_cons, ← @ih (n + 1), bad_iff n, readLines]
    cases readLine session n line with
    | error e => simp [bind, Except.bind]
    | ok record? =>
      cases readLines session (n + 1) rest with
      | error e => simp [bind, Except.bind]
      | ok records => simp [bind, Except.bind, pure, Except.pure]

theorem forall₂_bears_of_readLines (h : readLines session n all = .ok records) :
    List.Forall₂ Bears (all.filter (Belongs session ·)) records := by
  induction all generalizing n records with
  | nil =>
    cases h
    exact .nil
  | cons line rest ih =>
    obtain ⟨record?, hLine, hRest⟩ := bind_eq_ok_iff.mp h
    obtain ⟨more, hMore, hReturn⟩ := bind_eq_ok_iff.mp hRest
    cases hReturn
    rw [← List.singleton_append, List.filter_append]
    exact List.rel_append (forall₂_bears_of_readLine hLine) (ih hMore)

/-- The empty piece behind the last line end makes no difference. -/
theorem read_eq_readLines_pieces (session : String) (content : Bytes) :
    read session content = readLines session 1 (Text.pieces 10 content) := by
  have hEmpty : ∀ n, readLines session n [[]] = .ok [] := fun n => rfl
  rw [read, lines]
  split
  · rename_i hLast
    obtain ⟨front, hFront⟩ := List.getLast?_eq_some_iff.mp hLast
    rw [hFront, List.dropLast_concat, readLines_append, hEmpty]
    cases readLines session 1 front with
    | error e => rfl
    | ok records => simp [bind, Except.bind, pure, Except.pure]
  · rfl

end Table

namespace DirectoryStore

variable {s : DirectoryStore} {d : Disk} {table : String} {content : Bytes}

/-- A table can be read for a session exactly when no line is bad.  The outcome is then the records
on the lines that belong to the session, and otherwise the fault of the first bad line. -/
theorem items_eq_outcome (hHolds : s.Holds d table content) (session : String) :
    ((∃ records, s.items d table session = .ok records) ↔
        ∀ line ∈ Text.pieces 10 content, ¬ Table.Bad session line) ∧
      (∀ records, s.items d table session = .ok records →
        List.Forall₂ Table.Bears ((Text.pieces 10 content).filter (Table.Belongs session ·))
          records) ∧
      ∀ fault, s.items d table session = .error fault ↔
        ∃ before line after, Text.pieces 10 content = before ++ line :: after ∧
          (∀ l ∈ before, ¬ Table.Bad session l) ∧
          Table.Faulty session (1 + before.length) line fault := by
  rw [items_of_holds hHolds, Table.read_eq_readLines_pieces]
  exact ⟨Table.exists_readLines_iff, fun records => Table.forall₂_bears_of_readLines,
    fun fault => Table.readLines_eq_error_iff⟩

/-- An event of the session `a` without its time. -/
def untimedEvent : String := "\x7b\"event\":\"loading\",\"sessionId\":\"a\"\x7d"

/-- Blank lines, a line of the session `c` that is no event, two lines of the session `a`, and bytes
that are no text. -/
def mixedLines : List Bytes :=
  [Bytes.ofText "\u2003", Bytes.ofText "[\"c\"]\r", Bytes.ofText sampleEvent, [],
    Bytes.ofText untimedEvent, [0xFF]]

def mixedTable : Bytes := [10].intercalate mixedLines

theorem items_of_mixedTable :
    Holds ⟨"base"⟩ (sampleDisk mixedTable) "t" mixedTable ∧
      items ⟨"base"⟩ (sampleDisk mixedTable) "t" "a" =
        .error (.malformed 5 (.mismatch (.missingField "timestamp"))) ∧
      items ⟨"base"⟩ (sampleDisk mixedTable) "t" "b" = .error (.disk .notText) := by
  have hPieces : Text.pieces 10 mixedTable = mixedLines := by decide +kernel
  have hOutcome := items_eq_outcome (holds_sampleDisk mixedTable)
  refine ⟨holds_sampleDisk mixedTable, ?_, ?_⟩
  · have hClean : ∀ l ∈ mixedLines.take 4, ¬ Table.Bad "a" l :=
      Table.exists_readLines_iff.mp
        ⟨[{ event := "init", sessionId := "a", timestamp := 1 }],
          show Table.readLines "a" 1 (mixedLines.take 4) = _ by decide +kernel⟩
    have hFaulty : Table.Faulty "a" 5 (.ofText untimedEvent)
        (.malformed 5 (.mismatch (.missingField "timestamp"))) :=
      .unread (Bytes.text?_ofText _) (by decide +kernel) (by decide +kernel) (by decide +kernel)
    exact ((hOutcome "a").2.2 _).mpr ⟨mixedLines.take 4, .ofText untimedEvent, mixedLines.drop 5,
      hPieces, hClean, hFaulty⟩
  · have hClean : ∀ l ∈ mixedLines.take 5, ¬ Table.Bad "b" l :=
      Table.exists_readLines_iff.mp
        ⟨[], show Table.readLines "b" 1 (mixedLines.take 5) = _ by decide +kernel⟩
    have hFaulty : Table.Faulty "b" 6 [0xFF] (.disk .notText) := .notText (by decide +kernel)
    exact ((hOutcome "b").2.2 _).mpr ⟨mixedLines.take 5, [0xFF], [], hPieces, hClean, hFaulty⟩

end DirectoryStore

end PlayerSession
