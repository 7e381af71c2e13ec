import PlayerSession.Text.Quoted
import PlayerSession.Decimal.Layout

/-! Why a JSON text cannot be read: it is no JSON, it ends too early, or it is not of the shape that
was wanted. -/

namespace PlayerSession.Json

/-- What stands in a text where something else was wanted. -/
inductive Found where
  | integer (n : Int)
  | real (x : Float)
  | boolean (b : Bool)
  | text (s : String)
  | null
  | sequence
  | map
  deriving DecidableEq

inductive Wanted where
  | text
  | boolean
  | sequence
  | map
  /-- An integer of 64 bits with a sign. -/
  | signed
  | real
  /-- An integer of 64 bits without a sign. -/
  | size
  /-- A record of the given name. -/
  | record (name : String)
  deriving DecidableEq

/-- Why a well-formed value is not of the shape that was wanted. -/
inductive Mismatch where
  | missingField (name : String)
  | duplicateField (name : String)
  | unknownField (name : String) (known : List String)
  /-- A record written as an array has only `found` of its fields. -/
  | invalidLength (found : Nat) (record : String) (fields : Nat)
  | invalidType (found : Found) (wanted : Wanted)
  /-- The value is of the right type, but out of range. -/
  | invalidValue (found : Found) (wanted : Wanted)
  deriving DecidableEq

/-- Why a text cannot be read.  Of several reasons the first from the left counts.  What was expected where
a text is malformed or truncated is not part of the fault: the words of the reader tell it. -/
inductive Fault where
  | mismatch (reason : Mismatch)
  | malformed
  | truncated
  deriving DecidableEq

/-- A name between backquotes. -/
def backquoted (name : String) : String := "`" ++ name ++ "`"

def Found.message : Found → String
  | .integer n => "integer " ++ backquoted (toString n)
  | .real x => "floating point " ++ backquoted (String.ofList (Decimal.floatChars x))
  | .boolean b => "boolean " ++ backquoted (if b then "true" else "false")
  | .text s => "string " ++ Text.quoted s
  | .null => "null"
  | .sequence => "sequence"
  | .map => "map"

def Wanted.message : Wanted → String
  | .text => "a string"
  | .boolean => "a boolean"
  | .sequence => "a sequence"
  | .map => "a map"
  | .signed => "i64"
  | .real => "f64"
  | .size => "usize"
  | .record name => "struct " ++ name

def Mismatch.message : Mismatch → String
  | .missingField name => "missing field " ++ backquoted name
  | .duplicateField name => "duplicate field " ++ backquoted name
  | .unknownField name known =>
    "unknown field " ++ backquoted name ++ ", expected one of " ++
      String.intercalate ", " (known.map backquoted)
  | .invalidLength found record fields =>
    "invalid length " ++ toString found ++ ", expected struct " ++ record ++ " with " ++
      toString fields ++ (if fields = 1 then " element" else " elements")
  | .invalidType found wanted =>
    "invalid type: " ++ found.message ++ ", expected " ++ wanted.message
  | .invalidValue found wanted =>
    "invalid value: " ++ found.message ++ ", expected " ++ wanted.message

/-- What a reader of JSON says of a fault.  The words are the reader's own, and they tell more than the
fault: what was expected where the text is no JSON, and the line and the column. -/
abbrev Wording := Fault → String

/-- Words for a fault that leave out the place in the text and what was expected there. -/
def Fault.brief : Wording
  | .mismatch reason => reason.message
  | .malformed => "malformed JSON"
  | .truncated => "unexpected end of JSON"

/-- The outcome of reading something. -/
abbrev Reading := Except Fault

end PlayerSession.Json
