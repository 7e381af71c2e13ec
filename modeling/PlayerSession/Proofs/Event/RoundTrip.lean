import PlayerSession.Event
import PlayerSession.Proofs.Json.Printable
import PlayerSession.Proofs.Json.RoundTrip
import PlayerSession.Proofs.Text.Line

/-! Records as they are written and as they are read.  The text of a record is an object on a single line,
and reading it gives the record again, if the doubles in it read back. -/

namespace PlayerSession.EventRecord

open Json

/-- The doubles of a record read back. -/
structure ReadsBack (r : EventRecord) : Prop where
  playhead : Json.ReadsBack r.playhead
  duration : Json.ReadsBack r.duration

variable {r : EventRecord}

theorem fitsWord_timestamp (t : Int64) : FitsWord t.toInt := by
  have hLow := t.le_toInt
  have hHigh := t.toInt_lt
  constructor
  · omega
  · omega

theorem legible_toValue (r : EventRecord) : r.toValue.Legible :=
  ⟨trivial, trivial, fitsWord_timestamp r.timestamp, trivial, trivial, trivial⟩

theorem isObject_render (r : EventRecord) : IsObject r.render := by
  rw [IsObject, render, Value.ofText_render r.legible_toValue]
  rfl

theorem asSigned_of_int64 (t : Int64) : (Doc.number (some (.whole t.toInt))).asSigned = .ok t := by
  have hRange : Int64.minValue.toInt ≤ t.toInt ∧ t.toInt ≤ Int64.maxValue.toInt :=
    ⟨Int64.le_toInt t, Int64.toInt_le t⟩
  rw [Doc.asSigned, Doc.asWhole, if_pos hRange]
  exact congrArg Except.ok (Int64.ofInt_toInt t)

/-- The members of a record that is written fill its fields one after the other, its doubles with what
their texts are read as. -/
theorem fold_members (r : EventRecord) :
    (membersDoc [("event", .text r.event), ("sessionId", .text r.sessionId),
      ("timestamp", .integer r.timestamp.toInt), ("playhead", .real r.playhead),
      ("duration", .real r.duration)]).fold Fields.take {} = do
        let playhead ← (realDoc r.playhead).asReal
        let duration ← (realDoc r.duration).asReal
        return ⟨some r.event, some r.sessionId, some r.timestamp, some playhead, some duration⟩ := by
  have hEvent : Fields.take {} "event" (.text (some r.event)) = .ok { event := some r.event } := rfl
  have hSession : Fields.take { event := some r.event } "sessionId" (.text (some r.sessionId)) =
      .ok { event := some r.event, sessionId := some r.sessionId } := rfl
  have hTimestamp : Fields.take { event := some r.event, sessionId := some r.sessionId } "timestamp"
      (.number (some (.whole r.timestamp.toInt))) =
      .ok { event := some r.event, sessionId := some r.sessionId, timestamp := some r.timestamp } := by
    rw [Fields.take, asSigned_of_int64]
    rfl
  have hPlayhead : Fields.take ⟨some r.event, some r.sessionId, some r.timestamp, none, none⟩ "playhead"
      (realDoc r.playhead) = (realDoc r.playhead).asReal.map fun playhead =>
        ⟨some r.event, some r.sessionId, some r.timestamp, some playhead, none⟩ := by
    rw [Fields.take]
    cases (realDoc r.playhead).asReal <;> rfl
  have hDuration : ∀ playhead,
      Fields.take ⟨some r.event, some r.sessionId, some r.timestamp, some playhead, none⟩ "duration"
        (realDoc r.duration) = (realDoc r.duration).asReal.map fun duration =>
          ⟨some r.event, some r.sessionId, some r.timestamp, some playhead, some duration⟩ := by
    intro playhead
    rw [Fields.take]
    cases (realDoc r.duration).asReal <;> rfl
  simp only [membersDoc, Value.doc, Members.fold, hEvent, hSession, hTimestamp, hPlayhead, bind,
    Except.bind]
  cases (realDoc r.playhead).asReal with
  | error fault => rfl
  | ok playhead =>
    simp only [Except.map, hDuration]
    cases (realDoc r.duration).asReal <;> rfl

/-- What is written of a record is read as the record with its doubles as their texts are read. -/
theorem ofDoc_toValue (r : EventRecord) :
    ofDoc r.toValue.doc = do
      let playhead ← (realDoc r.playhead).asReal
      let duration ← (realDoc r.duration).asReal
      return { r with playhead, duration } := by
  show (membersDoc _).fold Fields.take {} >>= Fields.complete = _
  rw [fold_members]
  cases (realDoc r.playhead).asReal with
  | error fault => rfl
  | ok playhead => cases (realDoc r.duration).asReal <;> rfl

/-- What is written of a record is read as the record exactly when its doubles read back. -/
theorem ofDoc_toValue_eq_ok_iff : ofDoc r.toValue.doc = .ok r ↔ r.ReadsBack := by
  rw [ofDoc_toValue]
  simp only [bind_eq_ok_iff]
  constructor
  · rintro ⟨playhead, hPlayhead, duration, hDuration, hSame⟩
    have hSamePlayhead : playhead = r.playhead := congrArg EventRecord.playhead (Except.ok.inj hSame)
    have hSameDuration : duration = r.duration := congrArg EventRecord.duration (Except.ok.inj hSame)
    rw [hSamePlayhead] at hPlayhead
    rw [hSameDuration] at hDuration
    exact ⟨readsBack_iff.mpr hPlayhead, readsBack_iff.mpr hDuration⟩
  · rintro ⟨hPlayhead, hDuration⟩
    exact ⟨_, readsBack_iff.mp hPlayhead, _, readsBack_iff.mp hDuration, rfl⟩

theorem decode_render_eq_ok_iff : decode r.render = .ok r ↔ r.ReadsBack := by
  rw [decode, render, Value.decode_render r.legible_toValue, ofDoc_toValue_eq_ok_iff]

theorem decode_render (h : r.ReadsBack) : decode r.render = .ok r := decode_render_eq_ok_iff.mpr h

/-! ### Lines -/

theorem trim_render (r : EventRecord) : Text.trim r.render = r.render := by
  rw [render, Value.render, toValue, Value.chars]
  exact Text.trim_of_not_blank (by decide) (by decide) _

/-- The text of a record is on a single line, whatever its strings hold. -/
theorem newline_not_mem_ofText_render (r : EventRecord) : 10 ∉ Bytes.ofText r.render :=
  Bytes.newline_not_mem_ofText (newline_not_mem_render r.toValue)

end PlayerSession.EventRecord
