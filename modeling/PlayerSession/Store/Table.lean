import PlayerSession.Event
import PlayerSession.Store.Fault
import PlayerSession.Text.Blank

/-! Tables as files: one record a line.  Blank lines are passed over.  Of a line that belongs to another
session only the session is read, so the rest of such a line may be anything that is JSON. -/

namespace PlayerSession.Table

open Json

/-- The lines of a file, without their line ends.  Nothing after the last line end is no line. -/
def lines (content : Bytes) : List Bytes :=
  let all := Text.pieces 10 content
  if all.getLast? = some [] then all.dropLast else all

/-- Reads the record on the text of a line, if it belongs to the session. -/
def readText (session : String) (text : String) : Reading (Option EventRecord) := do
  let key ← SessionKey.decode text
  if key.sessionId = session then some <$> EventRecord.decode text else return none

/-- Reads the line with the number `n`: its record, if it belongs to the session. -/
def readLine (session : String) (n : Nat) (line : Bytes) :
    Except StoreFault (Option EventRecord) :=
  match String.fromUTF8? ⟨line.toArray⟩ with
  | none => .error (.disk .notText)
  | some s =>
    if Text.Blank s then .ok none
    else (readText session (Text.trim s)).mapError (.malformed n)

/-- Reads lines, the first of which has the number `n`, up to the first that cannot be read. -/
def readLines (session : String) (n : Nat) : List Bytes → Except StoreFault (List EventRecord)
  | [] => .ok []
  | line :: rest => do
    let record? ← readLine session n line
    let records ← readLines session (n + 1) rest
    return record?.toList ++ records

/-- The records of a session in a file, in the order of the lines. -/
def read (session : String) (content : Bytes) : Except StoreFault (List EventRecord) :=
  readLines session 1 (lines content)

/-- A character that the name of a table may hold. -/
def isNameChar (c : Char) : Bool :=
  c.isAlphanum || c = '_' || c = '-' || c = '.'

/-- A name that a table may have: of letters, digits, `_`, `-` and `.`, and not beginning with `.`. -/
def ValidName (table : String) : Prop :=
  table ≠ "" ∧ table.toList.head? ≠ some '.' ∧ ∀ c ∈ table.toList, isNameChar c

instance (table : String) : Decidable (ValidName table) :=
  decidable_of_iff (table ≠ "" ∧ table.toList.head? ≠ some '.' ∧ table.toList.all isNameChar)
    (by rw [List.all_eq_true, ValidName])

/-- The name of the file of a table. -/
def fileName (table : String) : String := table ++ ".jsonl"

end PlayerSession.Table
