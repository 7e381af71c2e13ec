import PlayerSession.Bytes

/-! Base64: four digits for three bytes.  White space between the digits counts for nothing.  The last
group may have two or three digits, and equals signs may fill it up to four; the bits that are then
left over are not looked at. -/

namespace PlayerSession.Tls.Base64

/-- White space between digits: a tab, a line feed, a carriage return or a space. -/
def isSpace (b : UInt8) : Bool := b = 0x09 || b = 0x0A || b = 0x0D || b = 0x20

/-- The value of a digit: the capital letters, the small letters, the decimal digits, the plus sign and
the slash. -/
def digit? (b : UInt8) : Option Nat :=
  let n := b.toNat
  if 0x41 ≤ n ∧ n ≤ 0x5A then some (n - 0x41)
  else if 0x61 ≤ n ∧ n ≤ 0x7A then some (n - 0x61 + 26)
  else if 0x30 ≤ n ∧ n ≤ 0x39 then some (n - 0x30 + 52)
  else if n = 0x2B then some 62
  else if n = 0x2F then some 63
  else none

/-- The number that some digits write, the greatest first. -/
def number? (digits : Bytes) : Option Nat :=
  digits.foldlM (fun n b => (digit? b).map (64 * n + ·)) 0

/-- The bytes that some digits write, which stand next to one another.  `0x3D` is the equals sign. -/
def ofDigits : Bytes → Option Bytes
  | [] => some []
  | [a, b] | [a, b, 0x3D, 0x3D] => do
    let n ← number? [a, b]
    return [.ofNat (n / 0x10)]
  | [a, b, c] | [a, b, c, 0x3D] => do
    let n ← number? [a, b, c]
    return [.ofNat (n / 0x400), .ofNat (n / 4)]
  | a :: b :: c :: d :: rest => do
    let n ← number? [a, b, c, d]
    return .ofNat (n / 0x10000) :: .ofNat (n / 0x100) :: .ofNat n :: (← ofDigits rest)
  | _ => none

/-- The bytes that a text writes. -/
def decode (text : Bytes) : Option Bytes := ofDigits (text.filter fun b => ¬ isSpace b)

end PlayerSession.Tls.Base64
