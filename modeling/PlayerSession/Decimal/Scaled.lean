/-! The double of a decimal given as a significand that fits a word and a power of ten: one
multiplication or division by the power, which is rounded itself, so the last digit may differ from
that of the nearest double.  Powers below `10 ^ -308` take a division more.  A result that is too
large is none. -/

namespace PlayerSession.Decimal

/-- The double nearest to `10 ^ n`. -/
def power (n : Nat) : Float := Float.ofScientific 1 false n

/-- `x * 10 ^ exponent`. -/
def scaled? (x : Float) (exponent : Int) : Option Float :=
  if exponent > 308 then
    if x == 0 then some x else none
  else if 0 ≤ exponent then
    let y := x * power exponent.toNat
    if y.isInf then none else some y
  else if -308 ≤ exponent then some (x / power (-exponent).toNat)
  else if x == 0 then some x
  else scaled? (x / power 308) (exponent + 308)
termination_by (-exponent).toNat

end PlayerSession.Decimal
