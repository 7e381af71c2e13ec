import PlayerSession.Proofs.Event.RoundTrip
import PlayerSession.Proofs.Store.Growth

/-! Tables of records.  A table is written one record a line, and a session that is looked up in it has
its records, in the order in which they were written. -/

namespace PlayerSession.Table

/-- The line of a record, with its line end. -/
def lineOf (r : EventRecord) : Bytes := Bytes.ofText r.render ++ [10]

/-- The content of a table of records. -/
def ofRecords (records : List EventRecord) : Bytes := records.flatMap lineOf

variable {session : String} {r : EventRecord} {records : List EventRecord}

theorem ofRecords_append (records more : List EventRecord) :
    ofRecords (records ++ more) = ofRecords records ++ ofRecords more :=
  List.flatMap_append

theorem endsLine_lineOf (r : EventRecord) : EndsLine (lineOf r) := .inr List.getLast?_concat

theorem lines_lineOf (r : EventRecord) : lines (lineOf r) = [.ofText r.render] := by
  rw [lineOf, lines_concat, Text.pieces_of_not_mem r.newline_not_mem_ofText_render]

theorem read_lineOf (h : r.ReadsBack) :
    read session (lineOf r) = .ok (if r.sessionId = session then [r] else []) := by
  have hObject : Json.IsObject (Text.trim r.render) := by
    rw [EventRecord.trim_render]
    exact r.isObject_render
  have hRecord : EventRecord.decode (Text.trim r.render) = .ok r := by
    rw [EventRecord.trim_render]
    exact EventRecord.decode_render h
  exact read_of_record (lines_lineOf r) (Bytes.text?_ofText r.render) hObject hRecord

/-- A session has the records of the table that belong to it. -/
theorem read_ofRecords (h : ∀ r ∈ records, r.ReadsBack) :
    read session (ofRecords records) = .ok (records.filter (·.sessionId = session)) := by
  induction records with
  | nil => rfl
  | cons r records ih =>
    have hRest := ih fun r' hr' => h r' (List.mem_cons_of_mem r hr')
    rw [ofRecords, List.flatMap_cons, ← ofRecords, read_append (endsLine_lineOf r),
      read_lineOf (h r List.mem_cons_self), hRest]
    show Except.ok ((if r.sessionId = session then [r] else []) ++ _) = _
    by_cases hSession : r.sessionId = session
    · simp [hSession]
    · simp [hSession]

end PlayerSession.Table
