import PlayerSession.Proofs.Event.Probe
import PlayerSession.Proofs.Store.Lines
import PlayerSession.Proofs.Text.Line

/-! Tables that grow.  What is written behind whole lines is read as if it stood alone, with the numbers
of its lines moved on, and after what stood there before.  A line with an event therefore adds the
event to its own session, and nothing to any other. -/

namespace PlayerSession

open Json

namespace Table

variable {session : String} {line : Bytes} {text : String} {r : EventRecord}

theorem readText_of_record (hObject : IsObject text) (hRecord : EventRecord.decode text = .ok r) :
    readText session text = .ok (if r.sessionId = session then some r else none) := by
  rw [readText, SessionKey.decode_of_record hObject hRecord, hRecord]
  show (if r.sessionId = session then _ else _) = _
  split
  · rfl
  · rfl

/-- A line with an event gives the event to its session. -/
theorem readLine_of_record (hText : line.text? = some text) (hObject : IsObject (Text.trim text))
    (hRecord : EventRecord.decode (Text.trim text) = .ok r) (n : Nat) :
    readLine session n line = .ok (if r.sessionId = session then some r else none) := by
  have hBlank : ¬ Text.Blank text := by
    intro hBlank
    rw [Text.trim_of_blank hBlank] at hObject
    exact absurd hObject (by decide +kernel)
  rw [readLine_eq_of_text hText, if_neg hBlank, readText_of_record hObject hRecord]
  rfl

theorem read_of_record {content : Bytes} (hLines : lines content = [line])
    (hText : line.text? = some text) (hObject : IsObject (Text.trim text))
    (hRecord : EventRecord.decode (Text.trim text) = .ok r) :
    read session content = .ok (if r.sessionId = session then [r] else []) := by
  rw [read, hLines, readLines, readLine_of_record hText hObject hRecord]
  split
  · rfl
  · rfl

end Table

namespace DirectoryStore

variable {s : DirectoryStore} {old new d : Disk} {table : String} {before more : Bytes}

/-- Where a table holds `before` and then `more`, a session has the records that it has in `before` and
then those that it has in `more`, or the first fault, with the number of its line in the whole table.
So one more line with an event adds the event to its own session, and changes no other. -/
theorem items_append (hOld : s.Holds old table before) (hNew : s.Holds new table more)
    (hAll : s.Holds d table (before ++ more)) (hEnd : Table.EndsLine before) :
    (∀ session, s.items d table session = do
        let first ← s.items old table session
        let second ← (s.items new table session).mapError (.behind (before.count 10))
        return first ++ second) ∧
      ∀ line text r, Table.lines more = [line] → line.text? = some text →
        IsObject (Text.trim text) → EventRecord.decode (Text.trim text) = .ok r →
        ∀ session records, s.items old table session = .ok records →
          s.items d table session =
            .ok (if r.sessionId = session then records ++ [r] else records) := by
  have hItems : ∀ session, s.items d table session = do
      let first ← s.items old table session
      let second ← (s.items new table session).mapError (.behind (before.count 10))
      return first ++ second := by
    intro session
    rw [items_of_holds hAll, items_of_holds hOld, items_of_holds hNew, Table.read_append hEnd]
  refine ⟨hItems, fun line text r hLines hText hObject hRecord session records hRecords => ?_⟩
  rw [hItems, hRecords, items_of_holds hNew, Table.read_of_record hLines hText hObject hRecord]
  show Except.ok (records ++ if r.sessionId = session then [r] else []) = _
  split
  · rfl
  · rw [List.append_nil]

theorem items_append_event :
    Table.EndsLine (.ofText "[\"b\"]\n") ∧
      items ⟨"base"⟩ (sampleDisk (.ofText "[\"b\"]\n")) "t" "a" = .ok [] ∧
      items ⟨"base"⟩ (sampleDisk (.ofText "[\"b\"]\n" ++ .ofText (sampleEvent ++ "\r\n"))) "t" "a" =
        .ok [{ event := "init", sessionId := "a", timestamp := 1 }] := by
  have hEnd : Table.EndsLine (.ofText "[\"b\"]\n") := .inr (by decide +kernel)
  have hOld : items ⟨"base"⟩ (sampleDisk (.ofText "[\"b\"]\n")) "t" "a" = .ok [] := by
    decide +kernel
  have hLines : Table.lines (.ofText (sampleEvent ++ "\r\n")) = [.ofText (sampleEvent ++ "\r")] := by
    decide +kernel
  have hObject : IsObject (Text.trim (sampleEvent ++ "\r")) := by decide +kernel
  have hRecord : EventRecord.decode (Text.trim (sampleEvent ++ "\r")) =
      .ok { event := "init", sessionId := "a", timestamp := 1 } := by decide +kernel
  exact ⟨hEnd, hOld,
    (items_append (holds_sampleDisk _) (holds_sampleDisk _) (holds_sampleDisk _) hEnd).2 _ _ _ hLines
      (Bytes.text?_ofText _) hObject hRecord "a" [] hOld⟩

end DirectoryStore

end PlayerSession
