import PlayerSession.Proofs.Store.Lines
import PlayerSession.Proofs.Text.Line

/-! Sessions that share a table are read apart from each other.  Of a line of another session nothing but
its session is read, so whatever such lines hold, and however many there are in front, a session has
the same records or the same fault on the same line. -/

namespace PlayerSession

namespace Table

variable {session : String} {line line' : Bytes} {all all' : List Bytes}

/-- The line without a carriage return at its end. -/
def stripReturn (line : Bytes) : Bytes :=
  if line.getLast? = some 13 then line.dropLast else line

/-- The session of the line can be read, and it is another one. -/
def Foreign (session : String) (line : Bytes) : Prop :=
  ∃ text key, line.text? = some text ∧ SessionKey.decode (Text.trim text) = .ok key ∧
    key.sessionId ≠ session

/-- The lines are the same up to a carriage return, or both belong to other sessions, which need not be
the same one. -/
inductive Alike (session : String) (line line' : Bytes) : Prop
  | same : stripReturn line = stripReturn line' → Alike session line line'
  | foreign : Foreign session line → Foreign session line' → Alike session line line'

theorem readLine_concat_return (n : Nat) (line : Bytes) :
    readLine session n (line ++ [13]) = readLine session n line := by
  have hReturn := Bytes.text?_concat_return line
  cases hText : line.text? with
  | none =>
    rw [hText] at hReturn
    rw [readLine_eq_of_no_text hReturn, readLine_eq_of_no_text hText]
  | some text =>
    rw [hText] at hReturn
    rw [readLine_eq_of_text hReturn, readLine_eq_of_text hText, Text.trim_append_return]
    simp only [Text.blank_append_return]

theorem readLine_stripReturn (n : Nat) (line : Bytes) :
    readLine session n (stripReturn line) = readLine session n line := by
  unfold stripReturn
  split
  · rename_i hLast
    obtain ⟨front, rfl⟩ := List.getLast?_eq_some_iff.mp hLast
    rw [List.dropLast_concat, readLine_concat_return]
  · rfl

/-- Of a line of another session there is no record and no fault. -/
theorem readLine_of_foreign (h : Foreign session line) (n : Nat) :
    readLine session n line = .ok none := by
  obtain ⟨text, key, hText, hKey, hNe⟩ := h
  rw [readLine_eq_of_text hText]
  split
  · rfl
  · rw [readText, hKey]
    show ((if key.sessionId = session then _ else _) : Json.Reading _).mapError _ = _
    rw [if_neg hNe]
    rfl

theorem readLine_of_alike (h : Alike session line line') (n : Nat) :
    readLine session n line = readLine session n line' := by
  cases h with
  | same hStrip => rw [← readLine_stripReturn, hStrip, readLine_stripReturn]
  | foreign hLine hLine' => rw [readLine_of_foreign hLine, readLine_of_foreign hLine']

theorem readLines_of_alike (h : List.Forall₂ (Alike session) all all') (n : Nat) :
    readLines session n all = readLines session n all' := by
  induction h generalizing n with
  | nil => rfl
  | cons hLine _ ih => rw [readLines, readLines, readLine_of_alike hLine, ih]

end Table

namespace DirectoryStore

variable {s : DirectoryStore} {d d' : Disk} {table session : String} {content content' : Bytes}

/-- Where two tables have the same lines, up to lines of other sessions in the same places, a session
has the same records in both, or the same fault. -/
theorem items_eq_of_alike (hHolds : s.Holds d table content) (hHolds' : s.Holds d' table content')
    (hLines : List.Forall₂ (Table.Alike session) (Table.lines content) (Table.lines content')) :
    s.items d table session = s.items d' table session := by
  rw [items_of_holds hHolds, items_of_holds hHolds', Table.read, Table.read,
    Table.readLines_of_alike hLines]

/-- A table with an event of the session `a` behind another line. -/
def sharedTable (neighbour : String) : Bytes := .ofText (neighbour ++ "\n" ++ sampleEvent ++ "\n")

/-- An event of the session `b`. -/
def eventOfB : String := "\x7b\"event\":\"init\",\"sessionId\":\"b\",\"timestamp\":1\x7d"

/-- A line of the session `c` that is no event. -/
def brokenOfC : String := "[\"c\"]"

theorem items_beside_broken_line :
    Holds ⟨"base"⟩ (sampleDisk (sharedTable eventOfB)) "t" (sharedTable eventOfB) ∧
      Holds ⟨"base"⟩ (sampleDisk (sharedTable brokenOfC)) "t" (sharedTable brokenOfC) ∧
      List.Forall₂ (Table.Alike "a") (Table.lines (sharedTable eventOfB))
        (Table.lines (sharedTable brokenOfC)) ∧
      items ⟨"base"⟩ (sampleDisk (sharedTable eventOfB)) "t" "a" =
        items ⟨"base"⟩ (sampleDisk (sharedTable brokenOfC)) "t" "a" := by
  have hEvent : Table.Foreign "a" (.ofText eventOfB) :=
    ⟨eventOfB, ⟨"b"⟩, Bytes.text?_ofText eventOfB, by decide +kernel, by decide⟩
  have hBroken : Table.Foreign "a" (.ofText brokenOfC) :=
    ⟨brokenOfC, ⟨"c"⟩, Bytes.text?_ofText brokenOfC, by decide +kernel, by decide⟩
  have hLines : Table.lines (sharedTable eventOfB) = [.ofText eventOfB, .ofText sampleEvent] := by
    decide +kernel
  have hLines' : Table.lines (sharedTable brokenOfC) = [.ofText brokenOfC, .ofText sampleEvent] := by
    decide +kernel
  have hAlike : List.Forall₂ (Table.Alike "a") (Table.lines (sharedTable eventOfB))
      (Table.lines (sharedTable brokenOfC)) := by
    rw [hLines, hLines']
    exact .cons (.foreign hEvent hBroken) (.cons (.same rfl) .nil)
  exact ⟨holds_sampleDisk _, holds_sampleDisk _, hAlike,
    items_eq_of_alike (holds_sampleDisk _) (holds_sampleDisk _) hAlike⟩

end DirectoryStore

end PlayerSession
