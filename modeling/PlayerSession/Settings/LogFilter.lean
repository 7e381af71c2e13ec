import PlayerSession.Json.Fault
import PlayerSession.Json.Numeral
import PlayerSession.Store.Settings
import PlayerSession.Text.Alphanumeric

/-! The directives that choose what is logged.  They come from a variable of the environment, with
commas between them.  One names a target, a span with some fields in brackets, and a level behind an
equals sign, or some of these.  A directive that cannot be read is left out, with a complaint. -/

namespace PlayerSession.LogFilter

/-- The variable that holds the directives. -/
def variableName : String := "RUST_LOG"

/-- Why a directive is left out. -/
inductive DirectiveFault where
  | shape
  | level
  deriving DecidableEq

def DirectiveFault.message : DirectiveFault → String
  | .shape => "invalid filter directive"
  | .level =>
    "error parsing level filter: expected one of \"off\", \"error\", \"warn\", \"info\", " ++
      "\"debug\", \"trace\", or a number 0-5"

/-- Where the reading of a directive stands. -/
inductive Stage where
  | start
  | targetOrLevel
  | span
  /-- In the fields of a span, which may be empty so far. -/
  | fields (isEmpty : Bool)
  | afterFields
  | afterSpan
  /-- In the level, which begins behind so many bytes. -/
  | level (skipped : Nat)
  deriving DecidableEq

/-- The stage behind a character, if it may stand there.  `offset` counts the bytes up to its end. -/
def Stage.next? (offset : Nat) (c : Char) : Stage → Option Stage
  | .start =>
    if c = '[' then some .span
    else if c ∈ ['-', ':', '_'] ∨ Text.isAlphanumeric c then some .targetOrLevel
    else none
  | .targetOrLevel =>
    if c = '=' then some (.level offset) else if c = '[' then some .span else some .targetOrLevel
  | .span =>
    if c = ']' then some .afterSpan else if c = '\x7b' then some (.fields true) else some .span
  | .fields isEmpty =>
    if c ≠ '\x7d' then some (.fields false) else if isEmpty then none else some .afterFields
  | .afterFields => if c = ']' then some .afterSpan else none
  | .afterSpan => if c = '=' then some (.level offset) else none
  | .level skipped => some (.level skipped)

/-- The stage behind all characters of a text, if each may stand where it does. -/
def stageAfter? (stage : Stage) (offset : Nat) : List Char → Option Stage
  | [] => some stage
  | c :: rest => do
    let next ← stage.next? (offset + c.utf8Size) c
    stageAfter? next (offset + c.utf8Size) rest

/-- The names of levels. -/
def levelNames : List String := ["off", "error", "warn", "info", "debug", "trace"]

/-- Whether a text is a level: a name in capital or small letters, or a number up to five, perhaps with
a plus sign. -/
def isLevel (s : String) : Bool :=
  let digits := match s.toList with
    | '+' :: rest => rest
    | all => all
  s.map Char.toLower ∈ levelNames ||
    (digits ≠ [] && digits.all Char.isDigit && Json.digitsValue digits ≤ 5)

/-- Reads a directive.  White space around it counts for nothing, except that the level is taken from
the directive with the white space in it, and is everything up to the end.  It may be empty. -/
def readDirective (directive : String) : Except DirectiveFault Unit :=
  match stageAfter? .start 0 (Text.trimBlank directive.toList) with
  | some .targetOrLevel | some .afterSpan => .ok ()
  | some (.level skipped) =>
    match Bytes.text? ((Bytes.ofText directive).drop skipped) with
    | some level => if level = "" ∨ isLevel level then .ok () else .error .level
    | none => .error .level
  | _ => .error .shape

/-- The complaint about a directive, if there is one. -/
def complaint? (directive : String) : Option String :=
  match readDirective directive with
  | .ok () => none
  | .error fault =>
    some ("ignoring " ++ Json.backquoted directive ++ ": " ++ fault.message ++ "\n")

/-- The complaints about the directives of an environment, a line each. -/
def complaints (env : Environment) : String :=
  let directives := (Text.split ',' ((env.get? variableName).getD "")).filter (· ≠ "")
  String.join (directives.filterMap complaint?)

end PlayerSession.LogFilter
