import PlayerSession.Check
import PlayerSession.Json.Decode
import PlayerSession.Json.Value

/-! Verdicts: the outcome of a check as it is handed on, read and written. -/

namespace PlayerSession

open Json

/-- Whether a sequence obeys its grammar, and if not, why and where. -/
structure Verdict where
  valid : Bool
  message : Option String := none
  invalidIndex : Option Nat := none
  deriving DecidableEq

namespace Verdict

def passed : Verdict := { valid := true }

def ofViolation (v : Violation) : Verdict where
  valid := false
  message := some v.breach.message
  invalidIndex := some v.index

def ofCheck : Except Violation Unit → Verdict
  | .ok () => passed
  | .error v => ofViolation v

def toValue (v : Verdict) : Value :=
  .object ([("valid", .boolean v.valid)] ++ Value.optional "message" .text v.message ++
    Value.optional "invalidIndex" (.integer ∘ Int.ofNat) v.invalidIndex)

/-- The fields of a verdict found so far. -/
structure Fields where
  valid : Option Bool := none
  message : Option (Option String) := none
  invalidIndex : Option (Option Nat) := none

/-- Takes a member of an object.  Members that are no fields are passed over. -/
def Fields.take (f : Fields) (name : String) (value : Doc) : Reading Fields :=
  match name with
  | "valid" => do return { f with valid := ← fill name f.valid value.asBoolean }
  | "message" => do return { f with message := ← fill name f.message (value.asOption Doc.asText) }
  | "invalidIndex" => do
    return { f with invalidIndex := ← fill name f.invalidIndex (value.asOption Doc.asSize) }
  | _ => do value.skip; return f

/-- Reads a verdict.  A message or place that is null counts as left out. -/
def ofDoc : Doc → Reading Verdict
  | .object members => do
    let f ← members.fold Fields.take {}
    return {
      valid := ← require "valid" f.valid
      message := f.message.join
      invalidIndex := f.invalidIndex.join }
  | .array items => do
    let (valid, items) ← items.required "ValidationVerdict" 0 3 Doc.asBoolean
    let (message, items) ← items.optional (Doc.asOption Doc.asText)
    let (invalidIndex, items) ← items.optional (Doc.asOption Doc.asSize)
    items.finish
    return { valid, message := message.join, invalidIndex := invalidIndex.join }
  | d => d.refuse (.record "ValidationVerdict")

def render (v : Verdict) : String := v.toValue.render

def decode (s : String) : Reading Verdict := Json.decode ofDoc s

end Verdict

/-- The verdict on a sequence of kinds in the order of time. -/
def Grammar.verdict (g : Grammar) (kinds : List Kind) : Verdict := .ofCheck (g.check kinds)

end PlayerSession
