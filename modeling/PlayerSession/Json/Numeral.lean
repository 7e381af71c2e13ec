import PlayerSession.Decimal.Scaled

/-! Numbers in JSON texts.  A numeral is a number as it is spelled.  Its value is an integer if it has
neither a fraction nor an exponent and fits 64 bits, and a double otherwise, if it is not too large for
one.  The double is found from as many leading digits as fit a word. -/

namespace PlayerSession.Json

/-- The value of a numeral. -/
inductive Number where
  /-- An integer from `-2 ^ 63` to `2 ^ 64 - 1`, but not minus zero. -/
  | whole (n : Int)
  | real (x : Float)
  deriving DecidableEq

/-- A number as it is spelled: digits before the point, digits after it, and an exponent. -/
structure Numeral where
  negative : Bool
  whole : List Char
  fraction : List Char := []
  exponent : Option (Bool × List Char) := none
  deriving DecidableEq

def digitValue (c : Char) : Nat := c.toNat - '0'.toNat

def digitsValue (ds : List Char) : Nat := ds.foldl (fun n c => 10 * n + digitValue c) 0

/-- Appends digits to a significand for as long as it fits a word, and returns the digits left. -/
def intoWord (significand : Nat) : List Char → Nat × List Char
  | [] => (significand, [])
  | c :: rest =>
    let next := 10 * significand + digitValue c
    if next < UInt64.size then intoWord next rest else (significand, c :: rest)

namespace Numeral

/-- A double with the numeral's sign. -/
def signed (n : Numeral) (x : Float) : Float := if n.negative then -x else x

/-- The double of a numeral, from the digits that fit a word. -/
def real? (n : Numeral) : Option Float :=
  let (head, dropped) := intoWord 0 n.whole
  let (significand, ignored) := intoWord head n.fraction
  let places : Int := (dropped.length : Int) - ((n.fraction.length : Int) - ignored.length)
  let magnitude? := match n.exponent with
    | none => Decimal.scaled? (.ofNat significand) places
    | some (negative, ds) =>
      let e := digitsValue ds
      if e < 0x80000000 then
        Decimal.scaled? (.ofNat significand) (if negative then places - e else places + e)
      else if significand = 0 || negative then some 0
      else none
  magnitude?.map n.signed

/-- The value of a numeral, if it is not too large for a double. -/
def value? (n : Numeral) : Option Number :=
  let (significand, dropped) := intoWord 0 n.whole
  if dropped = [] ∧ n.fraction = [] ∧ n.exponent = none then
    if ¬ n.negative then some (.whole significand)
    else if significand = 0 ∨ 0x8000000000000000 < significand then some (.real (-.ofNat significand))
    else some (.whole (-significand))
  else n.real?.map .real

end Numeral

end PlayerSession.Json
