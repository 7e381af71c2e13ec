import PlayerSession.Decimal.Layout

/-! JSON as it is written: without white space, members in the order in which they are given, and
strings with no more escapes than JSON asks for. -/

namespace PlayerSession.Json

/-- A value to be written. -/
inductive Value where
  | null
  | boolean (b : Bool)
  | integer (n : Int)
  /-- A double.  One that is not finite is written as null. -/
  | real (x : Float)
  | text (s : String)
  | array (items : List Value)
  | object (members : List (String × Value))

def hexDigit (n : Nat) : Char := Nat.digitChar n

def escapedChar (c : Char) : List Char :=
  if c = '"' then ['\\', '"']
  else if c = '\\' then ['\\', '\\']
  else if c = '\x08' then ['\\', 'b']
  else if c = '\x0c' then ['\\', 'f']
  else if c = '\n' then ['\\', 'n']
  else if c = '\r' then ['\\', 'r']
  else if c = '\t' then ['\\', 't']
  else if c.toNat < 0x20 then
    ['\\', 'u', '0', '0', hexDigit (c.toNat / 16), hexDigit (c.toNat % 16)]
  else [c]

/-- A string with its quotes. -/
def textChars (s : String) : List Char := '"' :: (s.toList.flatMap escapedChar ++ ['"'])

def integerChars (n : Int) : List Char :=
  if n < 0 then '-' :: Decimal.natChars n.natAbs else Decimal.natChars n.natAbs

def realChars (x : Float) : List Char :=
  if x.isFinite then Decimal.floatChars x else ['n', 'u', 'l', 'l']

mutual

def Value.chars : Value → List Char
  | .null => ['n', 'u', 'l', 'l']
  | .boolean b => if b then ['t', 'r', 'u', 'e'] else ['f', 'a', 'l', 's', 'e']
  | .integer n => integerChars n
  | .real x => realChars x
  | .text s => textChars s
  | .array items => '[' :: (itemsChars items ++ [']'])
  | .object members => '{' :: (membersChars members ++ ['}'])

/-- The items of an array, with commas between them. -/
def itemsChars : List Value → List Char
  | [] => []
  | [v] => v.chars
  | v :: v' :: rest => v.chars ++ ',' :: itemsChars (v' :: rest)

/-- The members of an object, with commas between them. -/
def membersChars : List (String × Value) → List Char
  | [] => []
  | [(name, v)] => textChars name ++ ':' :: v.chars
  | (name, v) :: m :: rest => textChars name ++ ':' :: (v.chars ++ ',' :: membersChars (m :: rest))

end

def Value.render (v : Value) : String := String.ofList v.chars

def Value.ofText? : Option String → Value
  | some s => .text s
  | none => .null

/-- A member that is left out when it has no value. -/
def Value.optional {α : Type} (name : String) (toValue : α → Value) :
    Option α → List (String × Value)
  | some a => [(name, toValue a)]
  | none => []

end PlayerSession.Json
