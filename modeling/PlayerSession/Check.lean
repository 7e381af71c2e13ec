import PlayerSession.Grammar.Basic

/-! Checking a sequence of kinds against a grammar.  Wildcards are left out first.  The first event
that is left must be of the initial kind.  After it the check visits every event that is not skipped,
and the last event in any case, and tests each against what has been visited before: once-only kinds,
known kinds, alternation of play and pause, forbidden transitions.  `Grammar.check` reports the first
test that fails, with the place of the event in the sequence as it was given. -/

namespace PlayerSession

/-- A rule of a grammar that an event breaks. -/
inductive Breach where
  /-- The first event that is no wildcard is not of the initial kind. -/
  | initialNotFirst (initial : Kind) (wildcards : List Kind)
  /-- The kind has no transition entry. -/
  | unknownKind (kind : Kind)
  /-- The kind visited before forbids this one. -/
  | forbiddenTransition (current next : Kind)
  /-- A once-only kind comes a second time. -/
  | duplicateSingleOccurrence (kind : Kind)
  /-- A kind of the pairing comes without the other kind before it. -/
  | unpairedPlayPause (kind expected : Kind)
  deriving DecidableEq

/-- The wildcards as the message of `initialNotFirst` lists them, between quotes that are part of the
message. -/
def Breach.listed (wildcards : List Kind) : String := String.intercalate "', '" wildcards

def Breach.message : Breach → String
  | .initialNotFirst initial wildcards =>
    "'" ++ initial ++ "' is not the first event (except for '" ++ listed wildcards ++ "')"
  | .unknownKind kind => "'" ++ kind ++ "' is not a supported event type"
  | .forbiddenTransition current next => "'" ++ next ++ "' should not come after '" ++ current ++ "'"
  | .duplicateSingleOccurrence kind => "'" ++ kind ++ "' should only occur once per session"
  | .unpairedPlayPause kind expected => "'" ++ kind ++ "' without a preceeding '" ++ expected ++ "'"

/-- A breach and the place in the sequence of the event that commits it. -/
structure Violation where
  index : Nat
  breach : Breach
  deriving DecidableEq

/-- The message for people, with the place. -/
def Violation.message (v : Violation) : String :=
  "event #" ++ toString v.index ++ ": " ++ v.breach.message

/-- A kind and its place in the sequence as it was given. -/
structure Located where
  index : Nat
  kind : Kind
  deriving DecidableEq

/-- The kinds of a sequence with their places. -/
def Located.ofKinds (kinds : List Kind) : List Located := kinds.zipIdx.map fun (k, i) => ⟨i, k⟩

/-- Where the alternation of play and pause stands. -/
inductive Playback where
  | untouched
  | playing
  | paused
  deriving DecidableEq

/-- What a check remembers: the once-only kinds visited after the first event, the latest first, and
where the alternation stands. -/
structure Scan where
  seen : List Kind := []
  playback : Playback := .untouched
  deriving DecidableEq

namespace Scan

/-- Counts a visit of a once-only kind.  A second visit is a breach. -/
def count (g : Grammar) (s : Scan) (next : Kind) : Except Breach Scan :=
  if next ∉ g.onceOnly then .ok s
  else if next ∈ s.seen then .error (.duplicateSingleOccurrence next)
  else .ok { s with seen := next :: s.seen }

/-- Follows the alternation.  `pause` needs `play` before it; `play` needs anything but `play`. -/
def alternate (g : Grammar) (s : Scan) (next : Kind) : Except Breach Scan :=
  match g.pairing with
  | none => .ok s
  | some p =>
    if next = p.pause then
      if s.playback = .playing then .ok { s with playback := .paused }
      else .error (.unpairedPlayPause next p.play)
    else if next = p.play then
      if s.playback = .playing then .error (.unpairedPlayPause next p.pause)
      else .ok { s with playback := .playing }
    else .ok s

/-- Visits `next` after `current`. -/
def step (g : Grammar) (s : Scan) (current next : Kind) : Except Breach Scan := do
  let s ← s.count g next
  if ¬ g.Declares next then throw (.unknownKind next)
  let s ← s.alternate g next
  if g.Forbids current next then throw (.forbiddenTransition current next)
  return s

/-- Visits a list of events after `current`, up to the first breach. -/
def run (g : Grammar) : Scan → Kind → List Located → Except Violation Scan
  | s, _, [] => .ok s
  | s, current, e :: rest =>
    match s.step g current e.kind with
    | .ok s => run g s e.kind rest
    | .error breach => .error ⟨e.index, breach⟩

end Scan

namespace Grammar

/-- The events that are no wildcards. -/
def meaningful (g : Grammar) (events : List Located) : List Located :=
  events.filter fun e => e.kind ∉ g.wildcards

/-- The events to visit: those that are not skipped, and the last one. -/
def visited (g : Grammar) : List Located → List Located
  | [] => []
  | [e] => [e]
  | e :: e' :: rest =>
    if e.kind ∈ g.skipped then visited g (e' :: rest) else e :: visited g (e' :: rest)

/-- Checks a sequence of kinds in the order of time. -/
def check (g : Grammar) (kinds : List Kind) : Except Violation Unit :=
  match g.meaningful (Located.ofKinds kinds) with
  | [] => .ok ()
  | first :: rest =>
    if first.kind = g.initial then (Scan.run g {} first.kind (g.visited rest)).map fun _ => ()
    else .error ⟨first.index, .initialNotFirst g.initial g.wildcards.keys⟩

end Grammar

end PlayerSession
