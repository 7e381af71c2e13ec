import PlayerSession.Tls.PublicKey

/-! Private keys.  A key is laid out in one of three ways, which its first values tell apart, and it can
be used if it is an RSA key, a key on one of three elliptic curves, or an Ed25519 key. -/

namespace PlayerSession.Tls

/-- How a private key is laid out. -/
inductive KeyLayout where
  /-- Version, algorithm and key. -/
  | general
  /-- The numbers of an RSA key. -/
  | rsa
  /-- A key on an elliptic curve. -/
  | curve
  deriving DecidableEq

/-- The layout of a private key.  It shows behind the tag and the length of the outer sequence. -/
def KeyLayout.ofKey? : Bytes → Option KeyLayout
  | 0x30 :: n :: rest =>
    let more := if n < 0x80 then 0 else n.toNat - 0x80
    match rest.drop more with
    | 0x02 :: 0x01 :: _ :: 0x30 :: _ => some .general
    | 0x02 :: 0x01 :: 0x00 :: _ => some .rsa
    | 0x02 :: 0x01 :: 0x01 :: _ => some .curve
    | _ => none
  | _ => none

/-- An elliptic curve: its identifier, and how many bytes a private key on it has. -/
structure Curve where
  identifier : Bytes
  keySize : Nat
  deriving DecidableEq

namespace Curve

/-- The curves over fields of 256, 384 and 521 bits. -/
def all : List Curve :=
  [⟨[0x06, 0x08, 0x2A, 0x86, 0x48, 0xCE, 0x3D, 0x03, 0x01, 0x07], 32⟩,
    ⟨[0x06, 0x05, 0x2B, 0x81, 0x04, 0x00, 0x22], 48⟩,
    ⟨[0x06, 0x05, 0x2B, 0x81, 0x04, 0x00, 0x23], 66⟩]

/-- The algorithm identifier of the keys on a curve. -/
def algorithm (c : Curve) : Bytes :=
  [0x06, 0x07, 0x2A, 0x86, 0x48, 0xCE, 0x3D, 0x02, 0x01] ++ c.identifier

end Curve

namespace PrivateKey

/-- The algorithm identifier of Ed25519 keys. -/
def ed25519 : Bytes := [0x06, 0x03, 0x2B, 0x65, 0x70]

/-- The algorithm identifier of RSA keys. -/
def rsa : Bytes := [0x06, 0x09, 0x2A, 0x86, 0x48, 0x86, 0xF7, 0x0D, 0x01, 0x01, 0x01, 0x05, 0x00]

/-- Reads an RSA key: the modulus, which has from 2048 to 8192 bits, the public exponent, and six
numbers more. -/
def readRsa : Der.Reader PublicKeyHint := Der.within Der.sequence do
  guard ((← Der.value Der.integer) = [0])
  let modulus ← Der.value Der.integer
  let exponent ← Der.value Der.integer
  let _others ← (List.replicate 6 Der.integer).mapM Der.value
  let size := (modulus.dropWhile (· = 0)).length
  guard (256 ≤ size ∧ size ≤ 1024)
  let numbers := Der.encode Der.integer modulus ++ Der.encode Der.integer exponent
  return { algorithm := rsa, bits := some (0 :: Der.encode Der.sequence numbers) }

/-- Reads a key on an elliptic curve.  The key names its curve unless `curve?` does. -/
def readCurve (curve? : Option Curve) : Der.Reader PublicKeyHint := Der.within Der.sequence do
  guard ((← Der.value Der.integer) = [1])
  let key ← Der.value Der.octetString
  let named ← Der.value? (Der.part 0)
  let curve ← curve?.or (Curve.all.find? (some ·.identifier = named))
  guard (key.length = curve.keySize)
  let bits ← match ← Der.value? (Der.part 1) with
    | some content => some <$> Der.readAll (Der.value Der.bitString) content
    | none => pure none
  return { algorithm := curve.algorithm, bits }

/-- Reads a key in the general layout. -/
def readGeneral : Der.Reader PublicKeyHint := Der.within Der.sequence do
  let version ← Der.value Der.integer
  guard (version = [0] ∨ version = [1])
  let algorithm ← Der.value Der.sequence
  let key ← Der.value Der.octetString
  Der.skipRest
  if algorithm = ed25519 then
    guard ((← Der.readAll (Der.value Der.octetString) key).length = 32)
    return { algorithm, bits := none }
  else if algorithm = rsa then Der.readAll readRsa key
  else
    let curve ← Curve.all.find? (·.algorithm = algorithm)
    Der.readAll (readCurve (some curve)) key

/-- What a private key in some layout tells of its public key, if the key can be used. -/
def hint? (layout : KeyLayout) (key : Bytes) : Option PublicKeyHint :=
  match layout with
  | .general => Der.readAll readGeneral key
  | .rsa => Der.readAll readRsa key
  | .curve => Der.readAll (readCurve none) key

end PrivateKey

end PlayerSession.Tls
