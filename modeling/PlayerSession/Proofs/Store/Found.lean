import PlayerSession.Proofs.Event.Probe
import PlayerSession.Proofs.Store.Lines
import PlayerSession.Store.Lookup

/-! What a lookup comes to.  The records of a session that a store returns all belong to the session: a
line is read as a record only after the probe has found the session on it, and the probe does not
disagree with the record.  Without a store, and with one that fails, nothing is found. -/

namespace PlayerSession

open Json

variable {d : Disk} {table session : String} {records : List EventRecord}

theorem Table.sessionId_of_readLine {n : Nat} {line : Bytes} {r : EventRecord}
    (h : readLine session n line = .ok (some r)) : r.sessionId = session := by
  cases hText : line.text? with
  | none =>
    rw [readLine_eq_of_no_text hText] at h
    cases h
  | some text =>
    rw [readLine_eq_of_text hText] at h
    split at h
    · cases h
    · obtain ⟨key, hKey, hRest⟩ := bind_eq_ok_iff.mp (mapError_eq_ok_iff.mp h)
      split at hRest
      · rename_i hSame
        obtain ⟨r', hRecord, hSome⟩ := map_eq_ok_iff.mp hRest
        cases hSome
        rw [← hSame]
        exact SessionKey.sessionId_eq_of_decode hKey hRecord
      · cases hRest

theorem Table.sessionId_of_readLines {n : Nat} {all : List Bytes}
    (h : readLines session n all = .ok records) : ∀ r ∈ records, r.sessionId = session := by
  induction all generalizing n records with
  | nil =>
    cases h
    simp
  | cons line rest ih =>
    obtain ⟨record?, hLine, hRest⟩ := bind_eq_ok_iff.mp h
    obtain ⟨more, hMore, hReturn⟩ := bind_eq_ok_iff.mp hRest
    cases hReturn
    intro r hr
    rcases List.mem_append.mp hr with hr | hr
    · rw [Option.mem_toList.mp hr] at hLine
      exact sessionId_of_readLine hLine
    · exact ih hMore r hr

/-- What a store returns for a session belongs to the session. -/
theorem Source.sessionId_of_items {source : Source}
    (h : (source.items d table session).1 = .ok records) : ∀ r ∈ records, r.sessionId = session := by
  cases source with
  | directory store =>
    obtain ⟨path, -, hRead⟩ := bind_eq_ok_iff.mp h
    split at hRead
    · exact Table.sessionId_of_readLines hRead
    · cases hRead
    · cases hRead
  | memory store =>
    have hFind : store.find table session = .ok records := h
    unfold MemoryStore.find at hFind
    split at hFind
    · cases hFind
    · split at hFind
      · cases hFind
        intro r hr
        exact of_decide_eq_true (List.mem_filter.mp hr).2
      · cases hFind

/-- There is no store, or the store fails. -/
def Lookup.Fails (l : Lookup) (d : Disk) (table session : String) : Prop :=
  ∀ source, l.source = some source → ∃ fault, (source.items d table session).1 = .error fault

/-- The records that the store returns, and none where there is no store or the store fails. -/
inductive Lookup.Finds (l : Lookup) (d : Disk) (table session : String) : List EventRecord → Prop
  | returned (source : Source) (records : List EventRecord) : l.source = some source →
      (source.items d table session).1 = .ok records → Finds l d table session records
  | nothing : l.Fails d table session → Finds l d table session []

theorem Lookup.finds_events (l : Lookup) (d : Disk) (session fallback : String) :
    l.Finds d (l.table fallback) session ((l.events d session fallback).1.getD []) := by
  unfold Lookup.events
  cases hSource : l.source with
  | none => exact .nothing fun source h => absurd (hSource.symm.trans h) (by simp)
  | some source =>
    cases hItems : (source.items d (l.table fallback) session).1 with
    | ok records =>
      have hFinds := Lookup.Finds.returned source records hSource hItems
      simpa [hItems, Except.toOption] using hFinds
    | error fault =>
      have hFails : l.Fails d (l.table fallback) session := by
        intro source' h
        cases hSource.symm.trans h
        exact ⟨fault, hItems⟩
      simpa [hItems, Except.toOption] using Lookup.Finds.nothing hFails

theorem Lookup.Finds.eq_nil {l : Lookup} (h : l.Finds d table session records)
    (hFails : l.Fails d table session) : records = [] := by
  cases h with
  | returned source records hSource hItems =>
    obtain ⟨fault, hFault⟩ := hFails source hSource
    cases hItems.symm.trans hFault
  | nothing => rfl

/-- A lookup finds the same records every time. -/
theorem Lookup.Finds.unique {l : Lookup} {records' : List EventRecord}
    (h : l.Finds d table session records) (h' : l.Finds d table session records') :
    records = records' := by
  cases h with
  | nothing hFails => exact (h'.eq_nil hFails).symm
  | returned source records hSource hItems =>
    cases h' with
    | nothing hFails => exact (Finds.returned source records hSource hItems).eq_nil hFails
    | returned source' records' hSource' hItems' =>
      cases hSource.symm.trans hSource'
      exact Except.ok.inj (hItems.symm.trans hItems')

theorem Lookup.Finds.sessionId {l : Lookup} (h : l.Finds d table session records) :
    ∀ r ∈ records, r.sessionId = session := by
  cases h with
  | returned source records hSource hItems => exact Source.sessionId_of_items hItems
  | nothing => simp

end PlayerSession
