import PlayerSession.Event
import PlayerSession.Proofs.Json.Reading

/-! The session of a record, read with the rest of the record and without it.  Whatever a member of an
object is read as for the record, it can be passed over when the session alone is wanted, so the probe
of an object succeeds where the decoder does, with the session of the record. -/

namespace PlayerSession

open Json

theorem EventRecord.Fields.sessionId_of_complete {f : Fields} {r : EventRecord}
    (h : f.complete = .ok r) : f.sessionId = some r.sessionId := by
  obtain ⟨event, -, hRest⟩ := bind_eq_ok_iff.mp h
  obtain ⟨sessionId, hSession, hRest⟩ := bind_eq_ok_iff.mp hRest
  obtain ⟨timestamp, -, hReturn⟩ := bind_eq_ok_iff.mp hRest
  cases hReturn
  exact require_eq_ok_iff.mp hSession

namespace SessionKey

variable {name : String} {value : Doc} {found found' : Option String}

theorem take_eq_of_ne (hNe : name ≠ "sessionId") (hSkip : value.skip = .ok ()) :
    take found name value = .ok found := by
  unfold take
  split
  · exact absurd rfl hNe
  · rw [hSkip]
    rfl

/-- A field other than the session is passed over by the probe. -/
theorem take_of_fill {α : Type} {field : Option α} {read : Reading α}
    {fields : Option α → EventRecord.Fields} {f' : EventRecord.Fields} (hNe : name ≠ "sessionId")
    (hSkip : ∀ a, read = .ok a → value.skip = .ok ())
    (h : (do return fields (← fill name field read)) = .ok f')
    (hSame : ∀ filled, (fields filled).sessionId = found) :
    take found name value = .ok f'.sessionId := by
  obtain ⟨filled, hFill, hReturn⟩ := bind_eq_ok_iff.mp h
  obtain ⟨-, a, hRead, -⟩ := fill_eq_ok_iff.mp hFill
  cases hReturn
  rw [hSame]
  exact take_eq_of_ne hNe (hSkip a hRead)

/-- A member that the record takes is taken by the probe, with the same session afterwards. -/
theorem take_of_record {f f' : EventRecord.Fields} (h : f.take name value = .ok f') :
    take f.sessionId name value = .ok f'.sessionId := by
  unfold EventRecord.Fields.take at h
  split at h
  · exact take_of_fill (by decide) (fun _ => Doc.skip_of_asText) h fun _ => rfl
  · obtain ⟨filled, hFill, hReturn⟩ := bind_eq_ok_iff.mp h
    cases hReturn
    exact hFill
  · exact take_of_fill (by decide) (fun _ => Doc.skip_of_asSigned) h fun _ => rfl
  · exact take_of_fill (by decide) (fun _ => Doc.skip_of_asReal) h fun _ => rfl
  · exact take_of_fill (by decide) (fun _ => Doc.skip_of_asReal) h fun _ => rfl
  · -- a member that the record has no field for
    rename_i hSession _ _ _
    obtain ⟨⟨⟩, hSkip, hReturn⟩ := bind_eq_ok_iff.mp h
    cases hReturn
    exact take_eq_of_ne hSession hSkip

theorem fold_of_record {members : Members} {f f' : EventRecord.Fields}
    (h : members.fold EventRecord.Fields.take f = .ok f') :
    members.fold take f.sessionId = .ok f'.sessionId := by
  fun_induction Members.fold EventRecord.Fields.take f members with
  | case1 f =>
    cases h
    rfl
  | case2 => cases h
  | case3 => cases h
  | case4 f name value rest ih =>
    obtain ⟨g, hTake, hRest⟩ := bind_eq_ok_iff.mp h
    exact bind_eq_ok_iff.mpr ⟨g.sessionId, take_of_record hTake, ih g hRest⟩

/-- An object that can be read as a record can be probed for its session, which is that of the
record. -/
theorem decode_of_record {s : String} {r : EventRecord} (hObject : IsObject s)
    (h : EventRecord.decode s = .ok r) : decode s = .ok ⟨r.sessionId⟩ := by
  obtain ⟨members, hDoc⟩ := Doc.isObject_iff.mp hObject
  obtain ⟨hRecord, hAlone⟩ := decode_eq_ok_iff.mp h
  rw [hDoc] at hRecord
  obtain ⟨f, hFold, hComplete⟩ := bind_eq_ok_iff.mp hRecord
  refine decode_eq_ok_iff.mpr ⟨?_, hAlone⟩
  rw [hDoc]
  refine bind_eq_ok_iff.mpr ⟨some r.sessionId, ?_, rfl⟩
  rw [← EventRecord.Fields.sessionId_of_complete hComplete]
  exact fold_of_record hFold

/-- An array that is read as the session alone has no item for the other fields. -/
theorem not_record_of_key {items : Items} {key : SessionKey} {r : EventRecord}
    (hKey : ofDoc (.array items) = .ok key) : EventRecord.ofDoc (.array items) ≠ .ok r := by
  intro hRecord
  obtain ⟨⟨_, rest⟩, hFirst, hRest⟩ := bind_eq_ok_iff.mp hKey
  obtain ⟨⟨⟩, hFinish, -⟩ := bind_eq_ok_iff.mp hRest
  obtain ⟨⟨_, rest'⟩, hFirst', hRest'⟩ := bind_eq_ok_iff.mp hRecord
  obtain ⟨⟨_, after⟩, hSecond, -⟩ := bind_eq_ok_iff.mp hRest'
  obtain ⟨_, rfl, -⟩ := Items.required_eq_ok_iff.mp hFirst
  obtain ⟨_, hItems, -⟩ := Items.required_eq_ok_iff.mp hFirst'
  obtain ⟨_, hSecondItem, -⟩ := Items.required_eq_ok_iff.mp hSecond
  cases hItems
  rw [hSecondItem] at hFinish
  cases hFinish

/-- What is read both for its session and as a record has the session of the record. -/
theorem sessionId_eq_of_decode {s : String} {key : SessionKey} {r : EventRecord}
    (hKey : decode s = .ok key) (hRecord : EventRecord.decode s = .ok r) :
    r.sessionId = key.sessionId := by
  cases hDoc : (Tree.ofText s).doc with
  | object members =>
    have hSame := decode_of_record (Doc.isObject_iff.mpr ⟨members, hDoc⟩) hRecord
    rw [hKey] at hSame
    cases hSame
    rfl
  | array items =>
    have hArray := (decode_eq_ok_iff.mp hKey).1
    have hArray' := (decode_eq_ok_iff.mp hRecord).1
    rw [hDoc] at hArray hArray'
    exact absurd hArray' (not_record_of_key hArray)
  | null | boolean | number | text | stop =>
    have hPlain := (decode_eq_ok_iff.mp hKey).1
    rw [hDoc] at hPlain
    exact absurd hPlain (Doc.refuse_ne_ok _ _)

end SessionKey

end PlayerSession
