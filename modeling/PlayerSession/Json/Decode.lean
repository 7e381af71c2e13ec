import PlayerSession.Json.Doc
import PlayerSession.Kind

/-! Reading values out of the tree of a JSON text.  Everything is read in the order of the text, so of
several things wrong the first from the left is reported.  A record is an object of its fields in any
order, or an array of its fields in order. -/

namespace PlayerSession.Json

namespace Doc

/-- What stands at a value, for a message about it.  A number or string has to be read to its end
first. -/
def found : Doc → Reading Found
  | .null => .ok .null
  | .boolean b => .ok (.boolean b)
  | .number (some (.whole n)) => .ok (.integer n)
  | .number (some (.real x)) => .ok (.real x)
  | .number none => .error .malformed
  | .text (some s) => .ok (.text s)
  | .text none => .error .malformed
  | .array _ => .ok .sequence
  | .object _ => .ok .map
  | .stop reason => .error reason.read

/-- Refuses a value of another type than the one wanted. -/
def refuse {α : Type} (d : Doc) (wanted : Wanted) : Reading α := do
  throw (.mismatch (.invalidType (← d.found) wanted))

def asText : Doc → Reading String
  | .text (some s) => .ok s
  | d => d.refuse .text

def asBoolean : Doc → Reading Bool
  | .boolean b => .ok b
  | d => d.refuse .boolean

def asWhole (wanted : Wanted) (low high : Int) : Doc → Reading Int
  | .number (some (.whole n)) =>
    if low ≤ n ∧ n ≤ high then .ok n else .error (.mismatch (.invalidValue (.integer n) wanted))
  | d => d.refuse wanted

/-- Reads an integer of 64 bits with a sign. -/
def asSigned (d : Doc) : Reading Int64 :=
  (d.asWhole .signed Int64.minValue.toInt Int64.maxValue.toInt).map .ofInt

/-- Reads an integer of 64 bits without a sign. -/
def asSize (d : Doc) : Reading Nat := (d.asWhole .size 0 0xFFFFFFFFFFFFFFFF).map (·.toNat)

/-- Reads a double.  An integer is rounded to the nearest one. -/
def asReal : Doc → Reading Float
  | .number (some (.whole n)) => .ok (.ofInt n)
  | .number (some (.real x)) => .ok x
  | d => d.refuse .real

/-- Reads a value that may be null. -/
def asOption {α : Type} (read : Doc → Reading α) : Doc → Reading (Option α)
  | .null => .ok none
  | d => (read d).map some

end Doc

/-! ### Arrays -/

/-- The next item of an array, and the items after it. -/
def Items.next : Items → Reading (Option (Doc × Items))
  | .close => .ok none
  | .stop reason => .error reason.read
  | .item value rest => .ok (some (value, rest))

def Items.finish : Items → Reading Unit
  | .close => .ok ()
  | .stop reason => .error reason.read
  | .item _ _ => .error .malformed

/-- Reads the items of an array, each from the outcome of those before it. -/
def Items.fold {σ : Type} (step : σ → Doc → Reading σ) : σ → Items → Reading σ
  | s, .close => .ok s
  | _, .stop reason => .error reason.read
  | s, .item value rest => do rest.fold step (← step s value)

/-- Reads an array of strings as a set.  A string may come more than once. -/
def Doc.asKindSet : Doc → Reading KindSet
  | .array items => items.fold (fun set d => do return set.insert (← d.asText) ()) .empty
  | d => d.refuse .sequence

/-! ### Objects -/

/-- Reads the members of an object, each from the outcome of those before it.  `step` gets the name of
a member and its value. -/
def Members.fold {σ : Type} (step : σ → String → Doc → Reading σ) : σ → Members → Reading σ
  | s, .close => .ok s
  | _, .stop reason => .error reason.read
  | _, .member none _ _ => .error .malformed
  | s, .member (some name) value rest => do rest.fold step (← step s name value)

/-- Reads an object as a table.  Of several members with one name the last counts. -/
def Doc.asKindMap {α : Type} (read : Doc → Reading α) : Doc → Reading (KindMap α)
  | .object members =>
    members.fold (fun table name value => do return table.insert name (← read value)) .empty
  | d => d.refuse .map

/-! ### Records -/

/-- Fills the field `name`, which must not have been filled before. -/
def fill {α : Type} (name : String) (field : Option α) (read : Reading α) : Reading (Option α) :=
  if field.isSome then .error (.mismatch (.duplicateField name)) else read.map some

/-- The value of the field `name`, which must have been filled. -/
def require {α : Type} (name : String) : Option α → Reading α
  | some a => .ok a
  | none => .error (.mismatch (.missingField name))

/-- Reads the next field of a record that is written as an array, or nothing where the array ends. -/
def Items.optional {α : Type} (items : Items) (read : Doc → Reading α) :
    Reading (Option α × Items) := do
  match ← items.next with
  | some (value, rest) => return (some (← read value), rest)
  | none => return (none, items)

/-- Reads the next field of a record that is written as an array and must not end before it. -/
def Items.required {α : Type} (items : Items) (record : String) (position fields : Nat)
    (read : Doc → Reading α) : Reading (α × Items) := do
  match ← items.optional read with
  | (some a, rest) => return (a, rest)
  | (none, _) => throw (.mismatch (.invalidLength position record fields))

def decode {α : Type} (read : Doc → Reading α) (s : String) : Reading α := do
  let tree := Tree.ofText s
  let a ← read tree.doc
  if tree.alone then return a else throw .malformed

end PlayerSession.Json
