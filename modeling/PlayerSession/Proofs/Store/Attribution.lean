import PlayerSession.Proofs.Store.Found
import PlayerSession.Proofs.Store.Growth
import PlayerSession.Proofs.Store.Outcome

/-! The session that a line is attributed to.  A line is read twice, for its session and as a
record.  The two readings do not disagree, so a line with an event object is good for every session:
it gives its record to the session that the record names, and nothing to any other. -/

namespace PlayerSession

open Json

namespace Table

variable {session : String} {n m : Nat} {line : Bytes} {before after : List Bytes} {r : EventRecord}

/-- The text of the line is an event object, which is read as the record `r`. -/
def BearsObject (line : Bytes) (r : EventRecord) : Prop :=
  ∃ text ∈ line.text?, IsObject (Text.trim text) ∧ EventRecord.decode (Text.trim text) = .ok r

theorem BearsObject.readLine_eq (h : BearsObject line r) (n : Nat) :
    readLine session n line = .ok (if r.sessionId = session then some r else none) := by
  obtain ⟨text, hText, hObject, hRecord⟩ := h
  exact readLine_of_record hText hObject hRecord n

theorem BearsObject.not_bad (h : BearsObject line r) : ¬ Bad session line := by
  intro hBad
  obtain ⟨fault, hFault⟩ := (bad_iff 1).mp hBad
  rw [h.readLine_eq] at hFault
  cases hFault

theorem Faulty.number_eq {fault : Fault} (h : Faulty session n line (.malformed m fault)) :
    m = n := by
  cases h with
  | unprobed | unread => rfl

/-- The number of a good line is in no fault. -/
theorem readLines_ne_malformed (hGood : ¬ Bad session line) (fault : Fault) :
    readLines session n (before ++ line :: after) ≠
      .error (.malformed (n + before.length) fault) := by
  intro h
  obtain ⟨front, l, back, hSplit, -, hFaulty⟩ := readLines_eq_error_iff.mp h
  have hNumber := hFaulty.number_eq
  have hLength : before.length = front.length := by omega
  obtain ⟨-, hLine⟩ := List.append_inj hSplit hLength
  cases hLine
  exact hGood ⟨_, _, hFaulty⟩

/-- A line with an event object adds its record to what stands on the lines around it. -/
theorem BearsObject.readLines_eq (h : BearsObject line r) (n : Nat) (before after : List Bytes) :
    readLines session n (before ++ line :: after) = do
      let front ← readLines session n before
      let back ← readLines session (n + before.length + 1) after
      return front ++ (if r.sessionId = session then [r] else []) ++ back := by
  rw [readLines_append, readLines, h.readLine_eq]
  cases readLines session n before with
  | error fault => rfl
  | ok front =>
    cases readLines session (n + before.length + 1) after with
    | error fault => rfl
    | ok back =>
      show Except.ok (front ++ (Option.toList _ ++ back)) = Except.ok _
      by_cases hSession : r.sessionId = session
      · simp [hSession]
      · simp [hSession]

end Table

/-- A text that is read for its session and as a record has the session of the record, and every
event object can be read for its session.  So a store returns no record of another session, and an
event object in a table is never reported as malformed and gives its record to its own session. -/
theorem probe_agrees :
    (∀ text key r, SessionKey.decode text = .ok key → EventRecord.decode text = .ok r →
        key.sessionId = r.sessionId) ∧
      (∀ text r, IsObject text → EventRecord.decode text = .ok r →
        SessionKey.decode text = .ok ⟨r.sessionId⟩) ∧
      (∀ (source : Source) d table session records,
        (source.items d table session).1 = .ok records → ∀ r ∈ records, r.sessionId = session) ∧
      ∀ (s : DirectoryStore) d table content before line after r, s.Holds d table content →
        Text.pieces 10 content = before ++ line :: after → Table.BearsObject line r →
        ∀ session,
          (∀ fault, s.items d table session ≠ .error (.malformed (1 + before.length) fault)) ∧
          s.items d table session = do
            let front ← Table.readLines session 1 before
            let back ← Table.readLines session (1 + before.length + 1) after
            return front ++ (if r.sessionId = session then [r] else []) ++ back := by
  refine ⟨?_, ?_, ?_, ?_⟩
  · intro text key r hKey hRecord
    exact (SessionKey.sessionId_eq_of_decode hKey hRecord).symm
  · intro text r hObject hRecord
    exact SessionKey.decode_of_record hObject hRecord
  · intro source d table session records h
    exact source.sessionId_of_items h
  · intro s d table content before line after r hHolds hPieces hObject session
    rw [DirectoryStore.items_of_holds hHolds, Table.read_eq_readLines_pieces, hPieces]
    exact ⟨Table.readLines_ne_malformed hObject.not_bad, hObject.readLines_eq 1 before after⟩

/-- An event object that spells its session with escapes, and has a member that cannot be read. -/
def escapedEvent : String :=
  "\x7b\"x\":1e999,\"\\u0073essionId\":\"\\u0061\",\"timestamp\":1,\"event\":\"init\"\x7d"

theorem escapedEvent_attributed :
    SessionKey.decode escapedEvent = .ok ⟨"a"⟩ ∧
      DirectoryStore.items ⟨"base"⟩ (DirectoryStore.sampleDisk (.ofText escapedEvent)) "t" "a" =
        .ok [{ event := "init", sessionId := "a", timestamp := 1 }] ∧
      DirectoryStore.items ⟨"base"⟩ (DirectoryStore.sampleDisk (.ofText escapedEvent)) "t" "b" =
        .ok [] := by
  obtain ⟨-, hProbe, -, hLine⟩ := probe_agrees
  have hObject : IsObject escapedEvent := by decide +kernel
  have hRecord : EventRecord.decode escapedEvent =
      .ok { event := "init", sessionId := "a", timestamp := 1 } := by decide +kernel
  have hTrim : Text.trim escapedEvent = escapedEvent := by decide +kernel
  have hPieces : Text.pieces 10 (Bytes.ofText escapedEvent) = [Bytes.ofText escapedEvent] :=
    Text.pieces_of_not_mem (Bytes.newline_not_mem_ofText (by decide +kernel))
  have hBears : Table.BearsObject (.ofText escapedEvent)
      { event := "init", sessionId := "a", timestamp := 1 } :=
    ⟨escapedEvent, Bytes.text?_ofText _, by rwa [hTrim], by rwa [hTrim]⟩
  have hItems := hLine ⟨"base"⟩ _ "t" _ [] _ [] _ (DirectoryStore.holds_sampleDisk _) hPieces hBears
  exact ⟨hProbe _ _ hObject hRecord, (hItems "a").2, (hItems "b").2⟩

end PlayerSession
