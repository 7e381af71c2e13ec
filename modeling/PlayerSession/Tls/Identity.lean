import PlayerSession.Tls.Pem
import PlayerSession.Tls.PrivateKey

/-! The identity of a service: certificates, the first of them its own, and the private key that belongs
to it.  The first check that fails is the one reported. -/

namespace PlayerSession.Tls

/-- Why certificates and a key make no identity. -/
inductive Fault where
  /-- The text of the certificates is malformed. -/
  | malformedCertificates
  | noKey
  | severalKeys
  | unknownKeyLayout
  | unusableKey
  | noCertificate
  /-- The first certificate cannot be read. -/
  | unreadableCertificate
  /-- The key belongs to another certificate. -/
  | keyMismatch
  deriving DecidableEq

def Fault.message : Fault → String
  | .malformedCertificates => "failed to parse certificate"
  | .noKey => "The private key file contained no keys"
  | .severalKeys => "The private key file containsed multiple keys (it must only contain one)"
  | .unknownKeyLayout => "unknown private key format"
  | .unusableKey =>
    "unexpected error: failed to parse private key as RSA, ECDSA, or EdDSA"
  | .noCertificate => "peer sent no certificates"
  | .unreadableCertificate => "invalid peer certificate: BadEncoding"
  | .keyMismatch => "keys may not be consistent: KeyMismatch"

/-- The certificates in a text, which must not be malformed anywhere. -/
def certificates (text : Bytes) : Except Fault (List Bytes) :=
  let pem := Pem.ofText text
  if pem.intact then .ok ((pem.sections.filter (·.kind = .certificate)).map PemSection.content)
  else .error .malformedCertificates

/-- The one private key in a text, up to the first fault in it. -/
def privateKey (text : Bytes) : Except Fault Bytes :=
  match (Pem.ofText text).sections.filter (·.kind.isPrivateKey) with
  | [] => .error .noKey
  | [only] => .ok only.content
  | _ => .error .severalKeys

/-- Requires the texts of certificates and of a private key to make an identity. -/
def requireIdentity (certificateText keyText : Bytes) : Except Fault Unit := do
  let chain ← certificates certificateText
  let key ← privateKey keyText
  let some layout := KeyLayout.ofKey? key | throw .unknownKeyLayout
  let some hint := PrivateKey.hint? layout key | throw .unusableKey
  let some certificate := chain.head? | throw .noCertificate
  let some publicKey := certificateKey? certificate | throw .unreadableCertificate
  if ¬ hint.admits publicKey then throw .keyMismatch

end PlayerSession.Tls
