import PlayerSession.Event
import PlayerSession.Verdict

/-! Reports: the events of a session in the order of time, and whether their order obeys a grammar. -/

namespace PlayerSession

open Json

structure SessionReport where
  sessionId : String
  events : List EventRecord
  valid : Bool
  message : Option String
  invalidIndex : Option Nat
  deriving DecidableEq

namespace SessionReport

/-- What stands before the message of a violation. -/
def faultPrefix : String := "Faulty event sequence: "

/-- The report on some events, in whatever order they are given. -/
def build (g : Grammar) (sessionId : String) (events : List EventRecord) : SessionReport :=
  let events := chronological events
  let verdict := g.verdict (events.map (·.event))
  { sessionId, events
    valid := verdict.valid
    message := verdict.message.map (faultPrefix ++ ·)
    invalidIndex := verdict.invalidIndex }

def toValue (r : SessionReport) : Value :=
  .object ([("sessionId", .text r.sessionId), ("Events", .array (r.events.map EventRecord.toValue)),
    ("valid", .boolean r.valid)] ++ Value.optional "message" .text r.message ++
    Value.optional "invalidEventIndex" (.integer ∘ Int.ofNat) r.invalidIndex)

/-- The text of a report. -/
def render (r : SessionReport) : String := r.toValue.render

end SessionReport

end PlayerSession
