import PlayerSession.Decimal.Shortest

/-! How a double is written: positionally, with at least one digit after the point, or in scientific
notation where that would take too many zeros. -/

namespace PlayerSession.Decimal

/-- The magnitudes written positionally: from `10 ^ least` on and below `10 ^ beyond`. -/
structure Layout where
  least : Int
  beyond : Int

/-- Doubles are written positionally from `10 ^ -5` on and below `10 ^ 16`. -/
def Layout.standard : Layout := ⟨-5, 16⟩

def natChars (n : Nat) : List Char := Nat.toDigits 10 n

/-- A power of ten's exponent, always with its sign. -/
def signedExponent (e : Int) : List Char :=
  (if e < 0 then '-' else '+') :: natChars e.natAbs

/-- The digits `ds`, of which the first stands for a multiple of `10 ^ magnitude`, in positional
notation. -/
def positional (ds : List Char) (magnitude : Int) : List Char :=
  if magnitude < 0 then
    ['0', '.'] ++ List.replicate (-magnitude - 1).toNat '0' ++ ds
  else
    let whole := magnitude.toNat + 1
    let fraction := ds.drop whole
    ds.take whole ++ List.replicate (whole - ds.length) '0' ++ ['.'] ++
      (if fraction = [] then ['0'] else fraction)

/-- The digits `ds`, of which the first stands for a multiple of `10 ^ magnitude`, in scientific
notation. -/
def scientific (ds : List Char) (magnitude : Int) : List Char :=
  let mantissa := match ds with
    | [] => []
    | [d] => [d]
    | d :: rest => d :: '.' :: rest
  mantissa ++ ['e'] ++ signedExponent magnitude

/-- A decimal in the notation that the layout chooses. -/
def Scientific.chars (layout : Layout) (s : Scientific) : List Char :=
  let ds := natChars s.digits
  let magnitude := s.exponent + ds.length - 1
  if layout.least ≤ magnitude ∧ magnitude < layout.beyond then positional ds magnitude
  else scientific ds magnitude

/-- A finite double in the fewest digits that read back, the sign of zero kept. -/
def floatChars (x : Float) : List Char :=
  let sign := if x.toBits.toNat.testBit 63 then ['-'] else []
  sign ++ if x == 0 then ['0', '.', '0'] else (Binary.ofFloat x).shortest.chars .standard

end PlayerSession.Decimal
