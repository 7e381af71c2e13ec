import PlayerSession.Bytes

/-! Values in DER: a tag, the length of the content, and the content.  A length is written with as few
bytes as it needs. -/

namespace PlayerSession.Tls.Der

def integer : UInt8 := 0x02
def bitString : UInt8 := 0x03
def octetString : UInt8 := 0x04
def sequence : UInt8 := 0x30

/-- The tag of the part with the number `n` among those that may be left out. -/
def part (n : UInt8) : UInt8 := 0xA0 + n

/-- The number that some bytes write, the greatest first. -/
def number (bytes : Bytes) : Nat := bytes.foldl (fun n b => 0x100 * n + b.toNat) 0

/-- Reads some values at the front of bytes and returns what follows them. -/
abbrev Reader (α : Type) := StateT Bytes Option α

/-- Reads a length.  One under 128 is a byte of its own; otherwise the first byte counts those of the
length, at most four. -/
def length : Reader Nat := fun
  | [] => none
  | b :: rest =>
    if b < 0x80 then some (b.toNat, rest)
    else
      let count := b.toNat - 0x80
      let written := rest.take count
      if count ≤ 4 ∧ written.length = count ∧ written.head? ≠ some 0 ∧ 0x80 ≤ number written then
        some (number written, rest.drop count)
      else none

/-- Reads a value with a tag and returns its content. -/
def value (tag : UInt8) : Reader Bytes := fun
  | [] => none
  | b :: rest =>
    if b = tag then do
      let (n, rest) ← length rest
      if n ≤ rest.length then some (rest.take n, rest.drop n) else none
    else none

/-- Reads a value with a tag, if one comes next. -/
def value? (tag : UInt8) : Reader (Option Bytes) := fun bytes =>
  match bytes.head? with
  | some b => if b = tag then (value tag bytes).map fun (v, rest) => (some v, rest) else some (none, bytes)
  | none => some (none, bytes)

/-- Passes over all that follows. -/
def skipRest : Reader Unit := fun _ => some ((), [])

/-- Reads all of some bytes. -/
def readAll {α : Type} (read : Reader α) (bytes : Bytes) : Option α :=
  match read bytes with
  | some (a, []) => some a
  | _ => none

/-- Reads a value with a tag, and reads its content. -/
def within {α : Type} (tag : UInt8) (read : Reader α) : Reader α := do
  match readAll read (← value tag) with
  | some a => return a
  | none => failure

/-- A value with a tag and a content of fewer than 65536 bytes. -/
def encode (tag : UInt8) (content : Bytes) : Bytes :=
  let n := content.length
  let written : Bytes :=
    if n < 0x80 then [.ofNat n]
    else if n < 0x100 then [0x81, .ofNat n]
    else [0x82, .ofNat (n / 0x100), .ofNat n]
  tag :: written ++ content

end PlayerSession.Tls.Der
