import PlayerSession.Text.Pieces
import PlayerSession.Tls.Base64

/-! Texts that hold labelled sections of binary data.  A line that begins with `-----BEGIN ` opens a
section, a line that ends it bears the same label, and the lines between them write its content in
Base64.  Lines outside the sections count for nothing, and neither do sections with other labels than
those below. -/

namespace PlayerSession.Tls

/-- What a section holds. -/
inductive SectionKind where
  | certificate
  | publicKey
  | privateKey
  | rsaPrivateKey
  | ecPrivateKey
  | revocationList
  | certificateRequest
  | helloConfig
  deriving DecidableEq

namespace SectionKind

/-- All that a section may hold. -/
def all : List SectionKind :=
  [.certificate, .publicKey, .privateKey, .rsaPrivateKey, .ecPrivateKey, .revocationList,
    .certificateRequest, .helloConfig]

/-- The label of a section. -/
def label : SectionKind → String
  | .certificate => "CERTIFICATE"
  | .publicKey => "PUBLIC KEY"
  | .privateKey => "PRIVATE KEY"
  | .rsaPrivateKey => "RSA PRIVATE KEY"
  | .ecPrivateKey => "EC PRIVATE KEY"
  | .revocationList => "X509 CRL"
  | .certificateRequest => "CERTIFICATE REQUEST"
  | .helloConfig => "ECHCONFIG"

/-- What a section with a label holds. -/
def ofLabel? (label : Bytes) : Option SectionKind := all.find? (Bytes.ofText ·.label = label)

/-- Whether a section holds a private key. -/
def isPrivateKey : SectionKind → Bool
  | .privateKey | .rsaPrivateKey | .ecPrivateKey => true
  | .certificate | .publicKey | .revocationList | .certificateRequest | .helloConfig => false

end SectionKind

/-- A section of a text. -/
structure PemSection where
  kind : SectionKind
  content : Bytes
  deriving DecidableEq

/-- What a text holds: the sections up to the first fault in it, and whether there is none. -/
structure Pem where
  sections : List PemSection
  intact : Bool
  deriving DecidableEq

namespace Pem

/-- The lines of a text.  A line feed and a carriage return each end a line. -/
def lines (text : Bytes) : List Bytes :=
  Text.pieces 0x0A (text.map fun b => if b = 0x0D then 0x0A else b)

/-- What follows some text at the front of a line. -/
def behind? (mark : String) (line : Bytes) : Option Bytes := (Bytes.ofText mark).isPrefixOf? line

/-- The label in a line, of which what opens a section is left out.  Five dashes must follow the label,
with any number of spaces between and behind them. -/
def label? (line : Bytes) : Option Bytes :=
  let trail := (line.reverse.takeWhile fun b => b = 0x2D || b = 0x20).reverse
  if trail.count 0x2D = 5 then
    some (line.take (line.length - (trail.dropWhile (· = 0x20)).length))
  else none

/-- Whether a line ends a section with a label. -/
def closes (label line : Bytes) : Bool :=
  ((behind? "-----END " line).bind label.isPrefixOf?).any fun rest => (behind? "-----" rest).isSome

/-- Reads lines, where a section with the label `label?` may be open and `body` is what it holds so
far.  A line that opens a section inside another one takes over what that one holds. -/
def ofLines (label? : Option Bytes) (body : Bytes) : List Bytes → Pem
  | [] => { sections := [], intact := label?.isNone }
  | line :: rest =>
    match behind? "-----BEGIN " line, label? with
    | some opened, _ =>
      match Pem.label? opened with
      | some label => ofLines (some label) body rest
      | none => { sections := [], intact := false }
    | none, none => ofLines none body rest
    | none, some label =>
      if closes label line then
        match SectionKind.ofLabel? label with
        | none => ofLines none [] rest
        | some kind =>
          match Base64.decode body with
          | some content =>
            let later := ofLines none [] rest
            { later with sections := { kind, content } :: later.sections }
          | none => { sections := [], intact := false }
      else ofLines (some label) (body ++ line) rest

/-- Reads a text. -/
def ofText (text : Bytes) : Pem := ofLines none [] (lines text)

end Pem

end PlayerSession.Tls
