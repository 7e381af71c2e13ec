import PlayerSession.Json.Decode
import PlayerSession.Json.Value

/-! Records of player events: how they are read and written, and their order in time. -/

namespace PlayerSession

open Json

/-- One event of a player. -/
structure EventRecord where
  event : Kind
  sessionId : String
  /-- When the event happened.  Sequences are ordered by it. -/
  timestamp : Int64
  /-- Where playback stood. -/
  playhead : Float := 0
  /-- How long the content is. -/
  duration : Float := 0
  deriving DecidableEq

namespace EventRecord

def toValue (r : EventRecord) : Value :=
  .object [("event", .text r.event), ("sessionId", .text r.sessionId),
    ("timestamp", .integer r.timestamp.toInt), ("playhead", .real r.playhead),
    ("duration", .real r.duration)]

/-- The fields of a record found so far. -/
structure Fields where
  event : Option String := none
  sessionId : Option String := none
  timestamp : Option Int64 := none
  playhead : Option Float := none
  duration : Option Float := none

/-- Takes a member of an object.  Members that are no fields are passed over. -/
def Fields.take (f : Fields) (name : String) (value : Doc) : Reading Fields :=
  match name with
  | "event" => do return { f with event := ← fill name f.event value.asText }
  | "sessionId" => do return { f with sessionId := ← fill name f.sessionId value.asText }
  | "timestamp" => do return { f with timestamp := ← fill name f.timestamp value.asSigned }
  | "playhead" => do return { f with playhead := ← fill name f.playhead value.asReal }
  | "duration" => do return { f with duration := ← fill name f.duration value.asReal }
  | _ => do value.skip; return f

/-- The record of the fields found.  Playhead and duration may be left out. -/
def Fields.complete (f : Fields) : Reading EventRecord := do
  return {
    event := ← require "event" f.event
    sessionId := ← require "sessionId" f.sessionId
    timestamp := ← require "timestamp" f.timestamp
    playhead := f.playhead.getD 0
    duration := f.duration.getD 0 }

def ofDoc : Doc → Reading EventRecord
  | .object members => do (← members.fold Fields.take {}).complete
  | .array items => do
    let (event, items) ← items.required "EventRecord" 0 5 Doc.asText
    let (sessionId, items) ← items.required "EventRecord" 1 5 Doc.asText
    let (timestamp, items) ← items.required "EventRecord" 2 5 Doc.asSigned
    let (playhead, items) ← items.optional Doc.asReal
    let (duration, items) ← items.optional Doc.asReal
    items.finish
    return { event, sessionId, timestamp, playhead := playhead.getD 0, duration := duration.getD 0 }
  | d => d.refuse (.record "EventRecord")

def render (r : EventRecord) : String := r.toValue.render

def decode (s : String) : Reading EventRecord := Json.decode ofDoc s

end EventRecord

/-- The session of a record, read without the rest of the record. -/
structure SessionKey where
  sessionId : String
  deriving DecidableEq

namespace SessionKey

/-- Takes a member of an object.  Members other than the session are passed over. -/
def take (found : Option String) (name : String) (value : Doc) : Reading (Option String) :=
  match name with
  | "sessionId" => fill name found value.asText
  | _ => do value.skip; return found

def ofDoc : Doc → Reading SessionKey
  | .object members => do return ⟨← require "sessionId" (← members.fold take none)⟩
  | .array items => do
    let (sessionId, items) ← items.required "SessionKey" 0 1 Doc.asText
    items.finish
    return ⟨sessionId⟩
  | d => d.refuse (.record "SessionKey")

def decode (s : String) : Reading SessionKey := Json.decode ofDoc s

end SessionKey

/-- The events in the order of time, those of the same time in the order in which they are given. -/
def chronological (events : List EventRecord) : List EventRecord :=
  events.mergeSort fun a b => a.timestamp ≤ b.timestamp

/-- The events of a made-up session, one a second. -/
def sampleSession (kinds : List Kind) : List EventRecord :=
  kinds.zipIdx.map fun (event, i) =>
    { event, sessionId := "123-214-234", timestamp := 1640201000 + .ofNat i }

end PlayerSession
