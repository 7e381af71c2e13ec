import PlayerSession.Tls.Der

/-! Public keys as certificates and private keys tell of them. -/

namespace PlayerSession.Tls

/-- A public key: the identifier of its algorithm and the bits of the key. -/
structure PublicKey where
  algorithm : Bytes
  bits : Bytes
  deriving DecidableEq

/-- What a private key tells of its public key.  It need not hold the bits. -/
structure PublicKeyHint where
  algorithm : Bytes
  bits : Option Bytes
  deriving DecidableEq

/-- Whether a public key may belong to the private key that tells this of its own. -/
def PublicKeyHint.admits (hint : PublicKeyHint) (key : PublicKey) : Bool :=
  hint.algorithm = key.algorithm && hint.bits.all (· = key.bits)

namespace PublicKey

/-- Reads a public key. -/
def read : Der.Reader PublicKey := Der.within Der.sequence do
  let algorithm ← Der.value Der.sequence
  let bits ← Der.value Der.bitString
  return { algorithm, bits }

end PublicKey

/-- The public key of a certificate. -/
def certificateKey? (certificate : Bytes) : Option PublicKey :=
  let body : Der.Reader PublicKey := do
    let _version ← Der.value (Der.part 0)
    let _serialNumber ← Der.value Der.integer
    let _signatureAlgorithm ← Der.value Der.sequence
    let _issuer ← Der.value Der.sequence
    let _validity ← Der.value Der.sequence
    let _subject ← Der.value Der.sequence
    let key ← PublicKey.read
    Der.skipRest
    return key
  let signed : Der.Reader PublicKey := do
    let key ← Der.within Der.sequence body
    let _signatureAlgorithm ← Der.value Der.sequence
    let _signature ← Der.value Der.bitString
    return key
  Der.readAll (Der.within Der.sequence signed) certificate

end PlayerSession.Tls
