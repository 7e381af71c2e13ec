/-! The shortest decimal that reads back as a given double.  A double is `mantissa * 2 ^ exponent`,
and the reals that round to it form an interval around it.  On the grid of the multiples of a power of
ten only the two neighbours of the double have to be tried, in exact arithmetic; the coarsest grid with
a neighbour in the interval has the fewest digits, and of two such neighbours the nearer one is
taken. -/

namespace PlayerSession.Decimal

/-- A positive double as `mantissa * 2 ^ exponent`.  `lowest` says that the double below is nearer
than the one above: the mantissa is the least of its binade. -/
structure Binary where
  mantissa : Nat
  exponent : Int
  lowest : Bool
  deriving DecidableEq

/-- The leading bit of a mantissa.  It is not stored. -/
def leadingBit : Nat := 0x10000000000000

/-- The parts of a finite double other than zero, its sign left out. -/
def Binary.ofFloat (x : Float) : Binary :=
  let bits := x.toBits.toNat
  let stored := bits % leadingBit
  let biased : Nat := bits / leadingBit % 0x800
  if biased = 0 then ⟨stored, -1074, false⟩
  else ⟨leadingBit + stored, (biased : Int) - 1075, stored = 0 && biased ≠ 1⟩

/-- A decimal `digits * 10 ^ exponent`. -/
structure Scientific where
  digits : Nat
  exponent : Int
  deriving DecidableEq

/-- A rational, not necessarily in lowest terms. -/
structure Ratio where
  num : Nat
  den : Nat

/-- `n * base ^ exponent` over `1`, or over a power of `base` where `exponent` is negative. -/
def Ratio.scaled (n base : Nat) (exponent : Int) : Ratio :=
  if 0 ≤ exponent then ⟨n * base.pow exponent.toNat, 1⟩ else ⟨n, base.pow (-exponent).toNat⟩

/-- The interval of the reals that round to a double, its ends and its middle as numerators over one
denominator.  The ends belong to it when the mantissa is even. -/
structure Interval where
  low : Nat
  middle : Nat
  high : Nat
  den : Nat
  closed : Bool

/-- The interval of a double, in units of `10 ^ k`. -/
def Binary.interval (b : Binary) (k : Int) : Interval :=
  let binary := Ratio.scaled 1 2 (b.exponent - 2)
  let unit := Ratio.scaled 1 10 k
  let factor := binary.num * unit.den
  { low := (4 * b.mantissa - if b.lowest then 1 else 2) * factor
    middle := 4 * b.mantissa * factor
    high := (4 * b.mantissa + 2) * factor
    den := binary.den * unit.num
    closed := b.mantissa % 2 = 0 }

/-- Whether the whole number `n` lies in the interval. -/
def Interval.contains (i : Interval) (n : Nat) : Bool :=
  let point := n * i.den
  if i.closed then i.low ≤ point && point ≤ i.high else i.low < point && point < i.high

/-- The whole number in the interval that is nearest to the middle, the even one of two as near. -/
def Interval.nearest? (i : Interval) : Option Nat :=
  let floor := i.middle / i.den
  let excess := i.middle % i.den
  match i.contains floor, i.contains (floor + 1) with
  | true, true =>
    if 2 * excess < i.den || (2 * excess = i.den && floor % 2 = 0) then some floor
    else some (floor + 1)
  | true, false => some floor
  | false, true => some (floor + 1)
  | false, false => none

/-- The exponent `e` with `10 ^ e ≤ b < 10 ^ (e + 1)`.  No positive double is below `10 ^ -400`. -/
def Binary.magnitude (b : Binary) : Int :=
  let r := Ratio.scaled b.mantissa 2 b.exponent
  ((Nat.toDigits 10 (r.num * Nat.pow 10 400 / r.den)).length : Int) - 401

/-- Moves the zeros at the end of the digits into the exponent. -/
def Scientific.strip (s : Scientific) : Scientific :=
  if h : s.digits ≠ 0 ∧ s.digits % 10 = 0 then strip ⟨s.digits / 10, s.exponent + 1⟩ else s
termination_by s.digits
decreasing_by omega

/-- The decimal with the fewest digits that rounds to the double, and of those the nearest.  Seventeen
digits always suffice. -/
def Binary.shortest (b : Binary) : Scientific :=
  let grid (places : Nat) : Option Scientific :=
    let k := b.magnitude - places
    (b.interval k).nearest?.map fun digits => ⟨digits, k⟩
  (((List.range 17).findSome? grid).getD ⟨0, 0⟩).strip

end PlayerSession.Decimal
