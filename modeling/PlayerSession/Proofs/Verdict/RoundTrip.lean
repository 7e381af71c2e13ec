import PlayerSession.Verdict
import PlayerSession.Proofs.Event.RoundTrip
import PlayerSession.Proofs.Json.Fields

/-! Verdicts as they are written and as they are read.  A message or a place is written if there is one and
left out otherwise, and there is none in a verdict that was read exactly if the text left it out or had
null, so the text of a verdict that was read is read as that verdict again. -/

namespace PlayerSession

open Json

namespace Verdict

variable {v : Verdict} {d : Doc} {text : String}

/-- The place has 64 bits. -/
def Sized (v : Verdict) : Prop := ∀ i ∈ v.invalidIndex, i < UInt64.size

/-! ### What is written -/

theorem legible_toValue (h : v.Sized) : v.toValue.Legible := by
  obtain ⟨valid, message, invalidIndex⟩ := v
  cases invalidIndex with
  | none => cases message <;> exact ⟨trivial, by trivial⟩
  | some i =>
    have hSize : i < UInt64.size := h i rfl
    have hWord : FitsWord i := by
      rw [UInt64.size] at hSize
      constructor <;> omega
    cases message with
    | none => exact ⟨trivial, hWord, trivial⟩
    | some s => exact ⟨trivial, trivial, hWord, trivial⟩

theorem take_invalidIndex {i : Nat} (h : i < UInt64.size) {f : Fields} (hNone : f.invalidIndex = none) :
    f.take "invalidIndex" (.number (some (.whole i))) =
      .ok { f with invalidIndex := some (some i) } := by
  have hRead : (Doc.number (some (.whole i))).asOption Doc.asSize = .ok (some i) :=
    map_eq_ok_iff.mpr ⟨i, Doc.asSize_eq_ok_iff.mpr ⟨rfl, h⟩, rfl⟩
  rw [Fields.take, hNone, hRead]
  rfl

theorem ofDoc_toValue (h : v.Sized) : ofDoc v.toValue.doc = .ok v := by
  obtain ⟨valid, message, invalidIndex⟩ := v
  cases invalidIndex with
  | none => cases message <;> rfl
  | some i =>
    have hTake : ∀ f : Fields, f.invalidIndex = none → (membersDoc [("invalidIndex", .integer i)]).fold
        Fields.take f = .ok { f with invalidIndex := some (some i) } := fun f hNone => by
      rw [membersDoc, Value.doc, Members.fold, take_invalidIndex (h i rfl) hNone]
      rfl
    cases message with
    | none => exact bind_eq_ok_iff.mpr ⟨_, hTake { valid := some valid } rfl, rfl⟩
    | some s =>
      exact bind_eq_ok_iff.mpr ⟨_, hTake { valid := some valid, message := some (some s) } rfl, rfl⟩

theorem decode_render (h : v.Sized) : decode v.render = .ok v :=
  (Value.decode_render (legible_toValue h)).mpr (ofDoc_toValue h)

theorem message_of_render (h : v.Sized) : (Tree.ofText v.render).doc.field? "message" 1 =
    v.message.map fun s => .text (some s) := by
  rw [render, Value.ofText_render (legible_toValue h)]
  obtain ⟨valid, message, invalidIndex⟩ := v
  cases message <;> cases invalidIndex <;> rfl

theorem invalidIndex_of_render (h : v.Sized) : (Tree.ofText v.render).doc.field? "invalidIndex" 2 =
    v.invalidIndex.map fun i => .number (some (.whole i)) := by
  rw [render, Value.ofText_render (legible_toValue h)]
  obtain ⟨valid, message, invalidIndex⟩ := v
  cases message <;> cases invalidIndex <;> rfl

/-! ### What is read -/

/-- A member changes no field but the one of its name. -/
theorem Fields.take_frame {f f' : Fields} {name : String} {value : Doc}
    (h : f.take name value = .ok f') :
    (name ≠ "valid" → f'.valid = f.valid) ∧ (name ≠ "message" → f'.message = f.message) ∧
      (name ≠ "invalidIndex" → f'.invalidIndex = f.invalidIndex) := by
  unfold take at h
  split at h
  · obtain ⟨-, _, -, rfl⟩ := return_fill_eq_ok_iff.mp h
    exact ⟨fun hNe => absurd rfl hNe, fun _ => rfl, fun _ => rfl⟩
  · obtain ⟨-, _, -, rfl⟩ := return_fill_eq_ok_iff.mp h
    exact ⟨fun _ => rfl, fun hNe => absurd rfl hNe, fun _ => rfl⟩
  · obtain ⟨-, _, -, rfl⟩ := return_fill_eq_ok_iff.mp h
    exact ⟨fun _ => rfl, fun _ => rfl, fun hNe => absurd rfl hNe⟩
  · obtain ⟨⟨⟩, -, hReturn⟩ := bind_eq_ok_iff.mp h
    cases hReturn
    exact ⟨fun _ => rfl, fun _ => rfl, fun _ => rfl⟩

theorem fills_valid : Fills Fields.take "valid" Fields.valid Doc.asBoolean :=
  .of_update (fun f valid => { f with valid }) (fun _ _ => rfl) (fun _ _ => rfl)
    fun hNe h => (Fields.take_frame h).1 hNe

theorem fills_message : Fills Fields.take "message" Fields.message (Doc.asOption Doc.asText) :=
  .of_update (fun f message => { f with message }) (fun _ _ => rfl) (fun _ _ => rfl)
    fun hNe h => (Fields.take_frame h).2.1 hNe

theorem fills_invalidIndex :
    Fills Fields.take "invalidIndex" Fields.invalidIndex (Doc.asOption Doc.asSize) :=
  .of_update (fun f invalidIndex => { f with invalidIndex }) (fun _ _ => rfl)
    (fun _ _ => rfl) fun hNe h => (Fields.take_frame h).2.2 hNe

/-- The fields found are those that stand in the tree of a verdict. -/
structure Fields.StandIn (f : Fields) (d : Doc) : Prop where
  valid : ReadAs Doc.asBoolean (d.field? "valid" 0) f.valid
  message : ReadAs (Doc.asOption Doc.asText) (d.field? "message" 1) f.message
  invalidIndex : ReadAs (Doc.asOption Doc.asSize) (d.field? "invalidIndex" 2) f.invalidIndex

/-- A verdict is read from the fields that stand in its tree, be it an object or an array. -/
theorem exists_fields_of_ofDoc (h : ofDoc d = .ok v) :
    ∃ f : Fields, f.StandIn d ∧ f.valid = some v.valid ∧ f.message.join = v.message ∧
      f.invalidIndex.join = v.invalidIndex := by
  cases d with
  | object members =>
    obtain ⟨f, hFold, hFields⟩ := bind_eq_ok_iff.mp h
    obtain ⟨valid, hValid, hReturn⟩ := bind_eq_ok_iff.mp hFields
    cases hReturn
    exact ⟨f, ⟨fills_valid.readAs_of_fold rfl hFold, fills_message.readAs_of_fold rfl hFold,
      fills_invalidIndex.readAs_of_fold rfl hFold⟩, require_eq_ok_iff.mp hValid, rfl, rfl⟩
  | array items =>
    obtain ⟨⟨valid, rest⟩, hValid, h⟩ := bind_eq_ok_iff.mp h
    obtain ⟨⟨message, rest'⟩, hMessage, h⟩ := bind_eq_ok_iff.mp h
    obtain ⟨⟨invalidIndex, rest''⟩, hIndex, h⟩ := bind_eq_ok_iff.mp h
    obtain ⟨⟨⟩, -, hReturn⟩ := bind_eq_ok_iff.mp h
    cases hReturn
    obtain ⟨value, rfl, hRead⟩ := Items.required_eq_ok_iff.mp hValid
    obtain ⟨hMessageAt, hBehind⟩ := Items.readAs_of_optional hMessage
    have hIndexAt := (Items.readAs_of_optional hIndex).1
    rw [hBehind 0] at hIndexAt
    exact ⟨⟨some valid, message, invalidIndex⟩, ⟨.some hRead, hMessageAt, hIndexAt⟩, rfl, rfl,
      rfl⟩
  | null | boolean | number | text | stop => exact absurd h (Doc.refuse_ne_ok _ _)

theorem sized_of_decode (h : decode text = .ok v) : v.Sized := by
  obtain ⟨f, hStand, -, -, hIndex⟩ := exists_fields_of_ofDoc (decode_eq_ok_iff.mp h).1
  intro i hSome
  obtain ⟨value, -, hRead⟩ := hStand.invalidIndex.exists_of_join (hIndex.trans hSome)
  exact (Doc.asSize_eq_ok_iff.mp hRead).2

theorem message_eq_none_iff (h : decode text = .ok v) :
    v.message = none ↔ Unset ((Tree.ofText text).doc.field? "message" 1) := by
  obtain ⟨f, hStand, -, hMessage, -⟩ := exists_fields_of_ofDoc (decode_eq_ok_iff.mp h).1
  rw [← hMessage]
  exact hStand.message.join_eq_none_iff

theorem invalidIndex_eq_none_iff (h : decode text = .ok v) :
    v.invalidIndex = none ↔ Unset ((Tree.ofText text).doc.field? "invalidIndex" 2) := by
  obtain ⟨f, hStand, -, -, hIndex⟩ := exists_fields_of_ofDoc (decode_eq_ok_iff.mp h).1
  rw [← hIndex]
  exact hStand.invalidIndex.join_eq_none_iff

end Verdict

/-! ### Verdicts and records -/

/-- A verdict whose place has 64 bits is read from its text, which has a message and a place only if the
verdict does.  A verdict that was read is such a one, so that its own text is read as it again, and has no
message or place exactly where there was none or null.  For a record all this comes down to its doubles:
its text, and that of a record that was read, is read as the record exactly if they read back. -/
theorem round_trips (v : Verdict) (r : EventRecord) (text : String) :
    (v.Sized → Verdict.decode v.render = .ok v ∧
      (Tree.ofText v.render).doc.field? "message" 1 = (v.message.map fun s => .text (some s)) ∧
      (Tree.ofText v.render).doc.field? "invalidIndex" 2 =
        v.invalidIndex.map fun i => .number (some (.whole i))) ∧
    (Verdict.decode text = .ok v → v.Sized ∧ Verdict.decode v.render = .ok v ∧
      (v.message = none ↔ Unset ((Tree.ofText text).doc.field? "message" 1)) ∧
      (v.invalidIndex = none ↔ Unset ((Tree.ofText text).doc.field? "invalidIndex" 2))) ∧
    (EventRecord.decode r.render = .ok r ↔ r.ReadsBack) ∧
    (EventRecord.decode text = .ok r →
      (EventRecord.decode r.render = EventRecord.decode text ↔ r.ReadsBack)) := by
  refine ⟨fun hSized => ?_, fun hDecode => ?_, EventRecord.decode_render_eq_ok_iff, fun hDecode => ?_⟩
  · exact ⟨Verdict.decode_render hSized, Verdict.message_of_render hSized,
      Verdict.invalidIndex_of_render hSized⟩
  · have hSized : v.Sized := Verdict.sized_of_decode hDecode
    exact ⟨hSized, Verdict.decode_render hSized, Verdict.message_eq_none_iff hDecode,
      Verdict.invalidIndex_eq_none_iff hDecode⟩
  · rw [hDecode]
    exact EventRecord.decode_render_eq_ok_iff

def awkwardVerdict : Verdict := { valid := false, invalidIndex := some 0xFFFFFFFFFFFFFFFF }

def awkwardRecord : EventRecord where
  event := "é😀"
  sessionId := "\"\n"
  timestamp := Int64.minValue
  playhead := 4.5
  duration := -0.0

/-- A verdict with its members in another order, a null, and a member that is no field. -/
def verdictText : String :=
  "\x7b\"x\":[],\"invalidIndex\":18446744073709551615,\"message\":null,\"valid\":false\x7d"

/-- A record that is an array, with escapes. -/
def recordText : String := "[\"\\u00e9\\ud83d\\ude00\",\"\\\"\\n\",-9223372036854775808,4.50,-0.0]"

theorem round_trips_awkward :
    Verdict.decode verdictText = .ok awkwardVerdict ∧
      Verdict.decode awkwardVerdict.render = .ok awkwardVerdict ∧
      Unset ((Tree.ofText verdictText).doc.field? "message" 1) ∧
      EventRecord.decode recordText = .ok awkwardRecord ∧
      EventRecord.decode awkwardRecord.render = .ok awkwardRecord := by
  have hVerdict : Verdict.decode verdictText = .ok awkwardVerdict := by decide +kernel
  have hRecord : EventRecord.decode recordText = .ok awkwardRecord := by decide +kernel
  have hPlayhead : Json.ReadsBack 4.5 :=
    show Json.decode Doc.asReal (Value.real 4.5).render = .ok 4.5 by decide +kernel
  have hDuration : Json.ReadsBack (-0.0) :=
    show Json.decode Doc.asReal (Value.real (-0.0)).render = .ok (-0.0) by decide +kernel
  have hSized : awkwardVerdict.Sized := by
    rintro _ ⟨⟩
    decide
  obtain ⟨hWritten, hRead, -⟩ := round_trips awkwardVerdict awkwardRecord verdictText
  obtain ⟨-, -, -, hRecordRead⟩ := round_trips awkwardVerdict awkwardRecord recordText
  obtain ⟨-, -, hMessage, -⟩ := hRead hVerdict
  have hAgain := (hRecordRead hRecord).mpr ⟨hPlayhead, hDuration⟩
  exact ⟨hVerdict, (hWritten hSized).1, hMessage.mp rfl, hRecord, hAgain.trans hRecord⟩

end PlayerSession
