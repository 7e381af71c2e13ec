import PlayerSession.Json.Token

/-! Addresses to listen on: an IP address and a port.  Addresses of version 4 are four decimal numbers,
those of version 6 eight groups of hexadecimal digits in brackets, where one run of zeros may be left
out and the last two groups may be written as an address of version 4. -/

namespace PlayerSession

/-- An IP address with a port. -/
inductive SocketAddress where
  /-- Four octets. -/
  | v4 (octets : List Nat) (port : Nat)
  /-- Eight groups of 16 bits, and a scope, which is zero where there is none. -/
  | v6 (groups : List Nat) (scope port : Nat)
  deriving DecidableEq

namespace SocketAddress

/-- Reads something at the front of a text and returns what follows it. -/
abbrev Scanner (α : Type) := List Char → Option (α × List Char)

/-- Reads a character. -/
def char (c : Char) : List Char → Option (List Char)
  | c' :: rest => if c' = c then some rest else none
  | [] => none

/-- The value of a decimal digit. -/
def decimalDigit? (c : Char) : Option Nat := if c.isDigit then some (c.toNat - '0'.toNat) else none

/-- How numbers are written at some place. -/
structure NumberForm where
  radix : Nat
  digit? : Char → Option Nat
  /-- The most digits there may be. -/
  maxDigits : Option Nat
  /-- Whether a zero may stand in front of other digits. -/
  zeroInFront : Bool
  /-- The greatest number there may be. -/
  max : Nat

/-- One of the four numbers of an address of version 4. -/
def NumberForm.octet : NumberForm := ⟨10, decimalDigit?, some 3, false, 0xFF⟩

/-- A group of an address of version 6. -/
def NumberForm.group : NumberForm := ⟨16, Json.hexDigit?, some 4, true, 0xFFFF⟩

def NumberForm.port : NumberForm := ⟨10, decimalDigit?, none, true, 0xFFFF⟩

def NumberForm.scope : NumberForm := ⟨10, decimalDigit?, none, true, 0xFFFFFFFF⟩

/-- Reads a number. -/
def number (form : NumberForm) : Scanner Nat := fun cs =>
  let ds := cs.takeWhile fun c => (form.digit? c).isSome
  let rest := cs.dropWhile fun c => (form.digit? c).isSome
  let value := (ds.filterMap form.digit?).foldl (fun n d => form.radix * n + d) 0
  if ds = [] then none
  else if form.maxDigits.any (· < ds.length) then none
  else if ¬ form.zeroInFront ∧ ds.head? = some '0' ∧ 1 < ds.length then none
  else if form.max < value then none
  else some (value, rest)

/-- Reads something, with a separator in front of it unless it is the first of its kind. -/
def separated {α : Type} (isFirst : Bool) (separator : Char) (read : Scanner α) : Scanner α :=
  fun cs => if isFirst then read cs else do read (← char separator cs)

/-- Reads octets with dots between them. -/
def octets (isFirst : Bool) : Nat → Scanner (List Nat)
  | 0, cs => some ([], cs)
  | n + 1, cs => do
    let (octet, cs) ← separated isFirst '.' (number .octet) cs
    let (more, cs) ← octets false n cs
    return (octet :: more, cs)

/-- Reads an address of version 4. -/
def ipv4 : Scanner (List Nat) := octets true 4

/-- Two groups that hold four octets. -/
def groupsOfOctets : List Nat → List Nat
  | a :: b :: rest => (256 * a + b) :: groupsOfOctets rest
  | _ => []

/-- Reads at most `n` groups with colons between them, the last two perhaps as an address of version 4.
Also says whether they were. -/
def groups (isFirst : Bool) : Nat → List Char → List Nat × Bool × List Char
  | 0, cs => ([], false, cs)
  | n + 1, cs =>
    let embedded := if n = 0 then none else separated isFirst ':' ipv4 cs
    match embedded with
    | some (octets, cs) => (groupsOfOctets octets, true, cs)
    | none =>
      match separated isFirst ':' (number .group) cs with
      | none => ([], false, cs)
      | some (group, cs) =>
        let (more, embedded, cs) := groups false n cs
        (group :: more, embedded, cs)

/-- Reads an address of version 6.  Two colons stand for the zeros that are left out, at least one
group of them. -/
def ipv6 : Scanner (List Nat) := fun cs => do
  let (head, embedded, cs) := groups true 8 cs
  if head.length = 8 then return (head, cs)
  if embedded then none
  let cs ← char ':' cs
  let cs ← char ':' cs
  let (tail, _, cs) := groups true (7 - head.length) cs
  return (head ++ List.replicate (8 - head.length - tail.length) 0 ++ tail, cs)

/-- Reads a port with the colon in front of it. -/
def port : Scanner Nat := fun cs => do number .port (← char ':' cs)

/-- Reads a scope with the percent sign in front of it, if there is one. -/
def scope (cs : List Char) : Nat × List Char :=
  ((char '%' cs).bind (number .scope)).getD (0, cs)

/-- Reads an address of version 4 with a port. -/
def scanV4 : Scanner SocketAddress := fun cs => do
  let (octets, cs) ← ipv4 cs
  let (port, cs) ← port cs
  return (.v4 octets port, cs)

/-- Reads an address of version 6 with a port. -/
def scanV6 : Scanner SocketAddress := fun cs => do
  let cs ← char '[' cs
  let (groups, cs) ← ipv6 cs
  let (scope, cs) := scope cs
  let cs ← char ']' cs
  let (port, cs) ← port cs
  return (.v6 groups scope port, cs)

/-- Reads a whole text as an address with a port. -/
def ofText? (s : String) : Option SocketAddress :=
  match (scanV4 s.toList).or (scanV6 s.toList) with
  | some (address, []) => some address
  | _ => none

/-! ### Writing -/

/-- Numbers with a separator between them. -/
def joinedWith (separator : Char) (texts : List (List Char)) : List Char :=
  [separator].intercalate texts

/-- The lengths of the runs of zeros that begin at each group. -/
def zeroRuns : List Nat → List Nat
  | [] => []
  | g :: rest => (if g = 0 then 1 + (zeroRuns rest).headD 0 else 0) :: zeroRuns rest

/-- The groups of an address of version 6.  The longest run of zeros, the first of several as long, is
left out if it is longer than one. -/
def groupChars (groups : List Nat) : List Char :=
  let write (gs : List Nat) := joinedWith ':' (gs.map (Nat.toDigits 16))
  let runs := zeroRuns groups
  let longest := runs.foldl max 0
  if longest ≤ 1 then write groups
  else
    let first := runs.findIdx (· = longest)
    write (groups.take first) ++ [':', ':'] ++ write (groups.drop (first + longest))

/-- The octets of an address of version 4. -/
def octetChars (octets : List Nat) : List Char := joinedWith '.' (octets.map (Nat.toDigits 10))

/-- An address of version 6.  One that stands for an address of version 4 shows it. -/
def ipv6Chars (groups : List Nat) : List Char :=
  match groups with
  | [0, 0, 0, 0, 0, 0xFFFF, high, low] =>
    "::ffff:".toList ++ octetChars [high / 256, high % 256, low / 256, low % 256]
  | _ => groupChars groups

/-- The text of an address. -/
def text : SocketAddress → String
  | .v4 octets port => .ofList (octetChars octets ++ ':' :: Nat.toDigits 10 port)
  | .v6 groups scope port =>
    let scopeChars := if scope = 0 then [] else '%' :: Nat.toDigits 10 scope
    .ofList ('[' :: (ipv6Chars groups ++ scopeChars ++ ']' :: ':' :: Nat.toDigits 10 port))

end SocketAddress

end PlayerSession
