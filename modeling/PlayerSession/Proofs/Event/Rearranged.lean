import Mathlib.Tactic.MkIffOfInductiveProp
import PlayerSession.Proofs.Event.RoundTrip
import PlayerSession.Proofs.Json.Members

/-! Records in objects whose members are rearranged.  A record is read off the values of its five fields,
each of which one member fills wherever it stands; other members are passed over, if their names are
strings. -/

namespace PlayerSession.EventRecord

open Json

/-- The names of the fields, in the order in which they are written. -/
def fieldNames : List String := ["event", "sessionId", "timestamp", "playhead", "duration"]

/-- A member that is no field of a record. -/
def Foreign (m : Member) : Prop := ∀ name ∈ fieldNames, m.1 ≠ some name

instance (m : Member) : Decidable (Foreign m) :=
  inferInstanceAs (Decidable (∀ name ∈ fieldNames, m.1 ≠ some name))

variable {f f' : Fields} {name : String} {value : Doc} {ms ms' foreign : List Member} {r : EventRecord}

/-- A member brings the fields from `f` to `f'`. -/
@[mk_iff]
structure Fields.Takes (f : Fields) (m : Member) (f' : Fields) : Prop where
  event : Taken "event" Doc.asText m f.event f'.event
  sessionId : Taken "sessionId" Doc.asText m f.sessionId f'.sessionId
  timestamp : Taken "timestamp" Doc.asSigned m f.timestamp f'.timestamp
  playhead : Taken "playhead" Doc.asReal m f.playhead f'.playhead
  duration : Taken "duration" Doc.asReal m f.duration f'.duration

/-- Members bring the fields from `f` to `f'`, one after the other. -/
@[mk_iff]
structure Fields.Gathers (f : Fields) (ms : List Member) (f' : Fields) : Prop where
  event : Gathered "event" Doc.asText ms f.event f'.event
  sessionId : Gathered "sessionId" Doc.asText ms f.sessionId f'.sessionId
  timestamp : Gathered "timestamp" Doc.asSigned ms f.timestamp f'.timestamp
  playhead : Gathered "playhead" Doc.asReal ms f.playhead f'.playhead
  duration : Gathered "duration" Doc.asReal ms f.duration f'.duration

theorem foreign_of_ne (value : Doc) (hEvent : name ≠ "event") (hSession : name ≠ "sessionId")
    (hTimestamp : name ≠ "timestamp") (hPlayhead : name ≠ "playhead") (hDuration : name ≠ "duration") :
    Foreign (some name, value) := by
  intro field hField hSame
  rw [Option.some.inj hSame] at hEvent hSession hTimestamp hPlayhead hDuration
  simp only [fieldNames, List.mem_cons, List.not_mem_nil, or_false] at hField
  rcases hField with rfl | rfl | rfl | rfl | rfl
  all_goals contradiction

theorem Fields.takes_foreign_iff {m : Member} (h : Foreign m) : f.Takes m f' ↔ f' = f := by
  rw [Fields.takes_iff, taken_of_ne (h "event" (by decide)), taken_of_ne (h "sessionId" (by decide)),
    taken_of_ne (h "timestamp" (by decide)), taken_of_ne (h "playhead" (by decide)),
    taken_of_ne (h "duration" (by decide))]
  cases f
  cases f'
  rw [Fields.mk.injEq]

/-- A member is taken by the field of its name; any other is passed over. -/
theorem take_eq_ok_iff :
    f.take name value = .ok f' ↔
      f.Takes (some name, value) f' ∧ (Foreign (some name, value) → value.skip = .ok ()) := by
  unfold Fields.take
  split
  case h_6 hEvent hSession hTimestamp hPlayhead hDuration =>
    -- no field has the name
    have hForeign := foreign_of_ne value hEvent hSession hTimestamp hPlayhead hDuration
    rw [Fields.takes_foreign_iff hForeign, bind_eq_ok_iff]
    constructor
    · rintro ⟨⟨⟩, hSkip, ⟨⟩⟩
      exact ⟨rfl, fun _ => hSkip⟩
    · rintro ⟨rfl, hSkip⟩
      exact ⟨(), hSkip hForeign, rfl⟩
  -- the field of the name is filled, and the other four are left alone
  all_goals
    obtain ⟨e, s, t, p, d⟩ := f'
    rw [return_fill_eq_ok_iff, Fields.takes_iff]
    simp only [Taken, Foreign, fieldNames]
    grind

theorem Fields.gathers_cons_iff {m : Member} :
    f.Gathers (m :: ms) f' ↔ ∃ g, f.Takes m g ∧ g.Gathers ms f' := by
  constructor
  · rintro ⟨hEvent, hSession, hTimestamp, hPlayhead, hDuration⟩
    obtain ⟨event, hEvent, hEvents⟩ := gathered_cons_iff.mp hEvent
    obtain ⟨sessionId, hSession, hSessions⟩ := gathered_cons_iff.mp hSession
    obtain ⟨timestamp, hTimestamp, hTimestamps⟩ := gathered_cons_iff.mp hTimestamp
    obtain ⟨playhead, hPlayhead, hPlayheads⟩ := gathered_cons_iff.mp hPlayhead
    obtain ⟨duration, hDuration, hDurations⟩ := gathered_cons_iff.mp hDuration
    exact ⟨⟨event, sessionId, timestamp, playhead, duration⟩,
      ⟨hEvent, hSession, hTimestamp, hPlayhead, hDuration⟩,
      ⟨hEvents, hSessions, hTimestamps, hPlayheads, hDurations⟩⟩
  · rintro ⟨g, hTakes, hGathers⟩
    exact {
      event := gathered_cons_iff.mpr ⟨_, hTakes.event, hGathers.event⟩
      sessionId := gathered_cons_iff.mpr ⟨_, hTakes.sessionId, hGathers.sessionId⟩
      timestamp := gathered_cons_iff.mpr ⟨_, hTakes.timestamp, hGathers.timestamp⟩
      playhead := gathered_cons_iff.mpr ⟨_, hTakes.playhead, hGathers.playhead⟩
      duration := gathered_cons_iff.mpr ⟨_, hTakes.duration, hGathers.duration⟩ }

theorem Fields.gathers_nil_iff : f.Gathers [] f' ↔ f' = f := by
  constructor
  · rintro ⟨hEvent, hSession, hTimestamp, hPlayhead, hDuration⟩
    cases f
    cases f'
    rw [Fields.mk.injEq]
    exact ⟨hEvent, hSession, hTimestamp, hPlayhead, hDuration⟩
  · rintro rfl
    exact ⟨rfl, rfl, rfl, rfl, rfl⟩

/-- Members are read where their names are strings, the foreign ones can be passed over, and each field
is filled at most once. -/
theorem fold_eq_ok_iff :
    (Members.ofList ms).fold Fields.take f = .ok f' ↔
      (∀ m ∈ ms, m.1 ≠ none ∧ (Foreign m → m.2.skip = .ok ())) ∧ f.Gathers ms f' := by
  induction ms generalizing f with
  | nil =>
    rw [Fields.gathers_nil_iff]
    constructor
    · rintro ⟨⟩
      exact ⟨nofun, rfl⟩
    · rintro ⟨-, rfl⟩
      rfl
  | cons m ms ih =>
    obtain ⟨name, value⟩ := m
    rw [List.forall_mem_cons, Fields.gathers_cons_iff]
    cases name with
    | none =>
      constructor
      · nofun
      · rintro ⟨⟨⟨hNone, -⟩, -⟩, -⟩
        exact absurd rfl hNone
    | some name =>
      show Fields.take f name value >>= _ = _ ↔ _
      rw [bind_eq_ok_iff]
      constructor
      · rintro ⟨g, hTake, hRest⟩
        obtain ⟨hTakes, hSkip⟩ := take_eq_ok_iff.mp hTake
        obtain ⟨hOthers, hGathers⟩ := ih.mp hRest
        exact ⟨⟨⟨nofun, hSkip⟩, hOthers⟩, g, hTakes, hGathers⟩
      · rintro ⟨⟨⟨-, hSkip⟩, hOthers⟩, g, hTakes, hGathers⟩
        exact ⟨g, take_eq_ok_iff.mpr ⟨hTakes, hSkip⟩, ih.mpr ⟨hOthers, hGathers⟩⟩

/-- Neither the order of the members nor foreign members matter to the fields. -/
theorem Fields.gathers_iff_of_perm (hPerm : ms'.Perm (ms ++ foreign)) (hForeign : ∀ m ∈ foreign, Foreign m) :
    f.Gathers ms' f' ↔ f.Gathers ms f' := by
  have hOther : ∀ name ∈ fieldNames, ∀ m ∈ foreign, m.1 ≠ some name := fun name hField m hMem =>
    hForeign m hMem name hField
  rw [Fields.gathers_iff, Fields.gathers_iff,
    gathered_iff_of_perm hPerm (hOther "event" (by decide)),
    gathered_iff_of_perm hPerm (hOther "sessionId" (by decide)),
    gathered_iff_of_perm hPerm (hOther "timestamp" (by decide)),
    gathered_iff_of_perm hPerm (hOther "playhead" (by decide)),
    gathered_iff_of_perm hPerm (hOther "duration" (by decide))]

/-- A record is read off the members of an object exactly where their names are strings and some of them
fill its fields. -/
theorem decode_eq_ok_iff {s : String} (h : BearsMembers s ms) :
    decode s = .ok r ↔
      (∀ m ∈ ms, m.1 ≠ none) ∧ ∃ f, Fields.Gathers {} ms f ∧ f.complete = .ok r := by
  have hTree : Tree.ofText s = ⟨.object (.ofList ms), true⟩ := spells_iff.mp h
  have hRead : decode s = .ok r ↔
      ∃ f, (Members.ofList ms).fold Fields.take {} = .ok f ∧ f.complete = .ok r := by
    rw [decode, Json.decode_eq_ok_iff, hTree, and_iff_left rfl]
    exact bind_eq_ok_iff
  simp only [hRead, fold_eq_ok_iff]
  constructor
  · rintro ⟨f, ⟨hNames, hGathers⟩, hComplete⟩
    exact ⟨fun m hMem => (hNames m hMem).1, f, hGathers, hComplete⟩
  · rintro ⟨hNames, f, hGathers, hComplete⟩
    exact ⟨f, ⟨fun m hMem => ⟨hNames m hMem, fun _ => h.skip m hMem⟩, hGathers⟩, hComplete⟩

/-- The members that a record is written with. -/
def written (r : EventRecord) : List Member :=
  [(some "event", .text (some r.event)), (some "sessionId", .text (some r.sessionId)),
    (some "timestamp", .number (some (.whole r.timestamp.toInt))), (some "playhead", realDoc r.playhead),
    (some "duration", realDoc r.duration)]

theorem bearsMembers_render (r : EventRecord) : BearsMembers r.render r.written :=
  spells_iff.mpr (Value.ofText_render r.legible_toValue)

/-- The text of an object that is read as a record spells some members.  Any text that spells the same
members in whatever order, with whatever foreign members among them and whatever white space, is read as
the same record if the names of the foreign members are strings, and not at all otherwise.  A record is
written with its five fields, in their order, and nothing else. -/
theorem decode_rearranged_iff {s : String} (hObject : IsObject s) (hRead : decode s = .ok r) :
    (∃ ms, BearsMembers s ms) ∧
      (∀ ms s' ms' foreign, BearsMembers s ms → BearsMembers s' ms' → ms'.Perm (ms ++ foreign) →
        (∀ m ∈ foreign, Foreign m) → (decode s' = .ok r ↔ ∀ m ∈ foreign, m.1 ≠ none)) ∧
      BearsMembers r.render r.written ∧ r.written.map (·.1) = fieldNames.map some := by
  refine ⟨exists_bearsMembers hObject (Json.decode_eq_ok_iff.mp hRead).2, ?_, bearsMembers_render r, rfl⟩
  intro ms s' ms' foreign hBears hBears' hPerm hForeign
  obtain ⟨hNames, hFields⟩ := (decode_eq_ok_iff hBears).mp hRead
  have hSplit : (∀ m ∈ ms', m.1 ≠ none) ↔ ∀ m ∈ foreign, m.1 ≠ none := by
    simp only [hPerm.mem_iff, List.forall_mem_append]
    exact and_iff_right hNames
  simp only [decode_eq_ok_iff hBears', Fields.gathers_iff_of_perm hPerm hForeign, hSplit]
  exact and_iff_left hFields

/-- The text of a record without any other member. -/
def plainEvent : String := "\x7b\"event\":\"init\",\"sessionId\":\"a\",\"timestamp\":1\x7d"

def plainMembers : List Member :=
  [(some "event", .text (some "init")), (some "sessionId", .text (some "a")),
    (some "timestamp", .number (some (.whole 1)))]

/-- The same members in another order, with foreign ones among them and white space between the tokens. -/
def crowdedEvent : String :=
  " \x7b \"host\" : [\x7b\"event\":null\x7d, \"\\ud800\"],\t\"timestamp\":1, \"sessionId\":\"a\",\n" ++
    "\"host\":1e999, \"event\" : \"init\" \x7d"

/-- The foreign members of the crowded text.  Neither value could be read, but both can be passed over. -/
def hostMembers : List Member :=
  [(some "host", .array (.item (.object (.member (some "event") .null .close))
      (.item (.text none) .close))),
    (some "host", .number none)]

theorem decode_crowdedEvent :
    decode plainEvent = .ok { event := "init", sessionId := "a", timestamp := 1 } ∧
      decode crowdedEvent = .ok { event := "init", sessionId := "a", timestamp := 1 } := by
  have hRead : decode plainEvent = .ok { event := "init", sessionId := "a", timestamp := 1 } := by
    decide +kernel
  have hMembers : BearsMembers plainEvent plainMembers := by decide +kernel
  have hCrowded : BearsMembers crowdedEvent (hostMembers.take 1 ++ plainMembers.reverse.take 2 ++
      hostMembers.drop 1 ++ plainMembers.take 1) := by
    decide +kernel
  obtain ⟨-, hRearranged, -⟩ := decode_rearranged_iff (by decide +kernel) hRead
  have hSame := hRearranged plainMembers crowdedEvent _ hostMembers hMembers hCrowded
    (by decide +kernel) (by decide)
  exact ⟨hRead, hSame.mpr (by decide)⟩

/-- The same members with one behind them that has half of a surrogate pair for a name. -/
def halfNamedEvent : String :=
  "\x7b\"event\":\"init\",\"sessionId\":\"a\",\"timestamp\":1,\"\\ud800\":0\x7d"

/-- A member with half of a surrogate pair for a name is no field, but is not passed over. -/
theorem half_name_refused :
    BearsMembers plainEvent plainMembers ∧
      decode plainEvent = .ok { event := "init", sessionId := "a", timestamp := 1 } ∧
      BearsMembers halfNamedEvent (plainMembers ++ [(none, .number (some (.whole 0)))]) ∧
      Foreign (none, .number (some (.whole 0))) ∧
      decode halfNamedEvent ≠ .ok { event := "init", sessionId := "a", timestamp := 1 } := by
  decide +kernel

end PlayerSession.EventRecord
