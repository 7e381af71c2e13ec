import PlayerSession.Json.Fault
import PlayerSession.Json.Numeral

/-! The tokens of a JSON text.  A text that breaks off or goes wrong inside a token ends its tokens
with a broken one.  What counts as an error depends on whether the value is wanted: a value that is only
passed over may hold a number too large for a double or half of a surrogate pair, and one error has
another reason there. -/

namespace PlayerSession.Json

/-- Why a text stops being JSON: for a value that is read, and for one that is passed over. -/
structure Stop where
  read : Fault
  skip : Fault
  deriving DecidableEq

/-- The same reason in both cases. -/
def Stop.both (f : Fault) : Stop := ⟨f, f⟩

inductive Token where
  | openArray
  | closeArray
  | openObject
  | closeObject
  | comma
  | colon
  | null
  | boolean (b : Bool)
  /-- A number, or none where it is too large for a double. -/
  | number (value : Option Number)
  /-- A string, or none where it holds half of a surrogate pair. -/
  | text (value : Option String)
  | brokenText (stop : Stop)
  /-- Anything else that is no token. -/
  | broken (stop : Stop)
  deriving DecidableEq

/-! ### Strings -/

/-- A part of a string: a character that stands for itself, or a UTF-16 unit given in hexadecimal. -/
inductive Piece where
  | plain (c : Char)
  | unit (n : Nat)
  deriving DecidableEq

/-- A unit that opens a surrogate pair. -/
def isHigh (n : Nat) : Bool := 0xD800 ≤ n && n < 0xDC00

/-- A unit that closes a surrogate pair. -/
def isLow (n : Nat) : Bool := 0xDC00 ≤ n && n < 0xE000

/-- The characters that the pieces stand for, if no half of a surrogate pair stands alone. -/
def joined : List Piece → Option (List Char)
  | [] => some []
  | .plain c :: rest => (joined rest).map (c :: ·)
  | .unit high :: .unit low :: rest =>
    if isHigh high then
      if isLow low then
        (joined rest).map (Char.ofNat (0x10000 + (high - 0xD800) * 0x400 + (low - 0xDC00)) :: ·)
      else none
    else if isLow high then none
    else (joined (.unit low :: rest)).map (Char.ofNat high :: ·)
  | .unit n :: rest =>
    if isHigh n || isLow n then none else (joined rest).map (Char.ofNat n :: ·)

/-- Whether half of a surrogate pair stands alone however the string goes on: a high half at the end
might still find its other half. -/
def beyondMending (pieces : List Piece) : Bool :=
  (joined pieces).isNone && (joined (pieces ++ [.unit 0xDC00])).isNone

def hexDigit? (c : Char) : Option Nat :=
  if '0' ≤ c ∧ c ≤ '9' then some (c.toNat - '0'.toNat)
  else if 'a' ≤ c ∧ c ≤ 'f' then some (c.toNat - 'a'.toNat + 10)
  else if 'A' ≤ c ∧ c ≤ 'F' then some (c.toNat - 'A'.toNat + 10)
  else none

def hexUnit? (a b c d : Char) : Option Nat := do
  let a ← hexDigit? a
  let b ← hexDigit? b
  let c ← hexDigit? c
  let d ← hexDigit? d
  return 0x1000 * a + 0x100 * b + 0x10 * c + d

/-- The character that an escape of two characters stands for. -/
def escaped? (c : Char) : Option Char :=
  match c with
  | '"' => some '"'
  | '\\' => some '\\'
  | '/' => some '/'
  | 'b' => some '\x08'
  | 'f' => some '\x0c'
  | 'n' => some '\n'
  | 'r' => some '\r'
  | 't' => some '\t'
  | _ => none

/-- The number of bytes of some characters in UTF-8. -/
def byteCount (cs : List Char) : Nat := (String.ofList cs).utf8ByteSize

inductive TextScan where
  /-- The string ends, and the characters `rest` follow. -/
  | closed (pieces : List Piece) (rest : List Char)
  | broken (pieces : List Piece) (fault : Fault)

/-- Scans a string from behind its opening quote.  `pieces` are those found so far, the last first. -/
def scanText (pieces : List Piece) : List Char → TextScan
  | [] => .broken pieces.reverse .truncated
  | '"' :: rest => .closed pieces.reverse rest
  | '\\' :: 'u' :: a :: b :: c :: d :: rest =>
    match hexUnit? a b c d with
    | some n => scanText (.unit n :: pieces) rest
    | none => .broken pieces.reverse .malformed
  | '\\' :: 'u' :: rest =>
    .broken pieces.reverse (if byteCount rest < 4 then .truncated else .malformed)
  | ['\\'] => .broken pieces.reverse .truncated
  | '\\' :: c :: rest =>
    match escaped? c with
    | some c => scanText (.plain c :: pieces) rest
    | none => .broken pieces.reverse .malformed
  | c :: rest =>
    if c.toNat < 0x20 then .broken pieces.reverse .malformed
    else scanText (.plain c :: pieces) rest

theorem rest_lt_of_scanText {pieces found : List Piece} {cs rest : List Char}
    (h : scanText pieces cs = .closed found rest) : rest.length < cs.length := by
  fun_induction scanText pieces cs <;> simp_all <;> omega

/-! ### Numbers -/

inductive NumeralScan where
  | complete (n : Numeral) (rest : List Char)
  | broken (stop : Stop)

/-- Why a number stops before `rest`: a number that is passed over may not even end with the text. -/
def numeralStop (rest : List Char) : Stop :=
  if rest = [] then ⟨.truncated, .malformed⟩ else .both .malformed

/-- The digits at the front, and what follows them. -/
def spanDigits (cs : List Char) : List Char × List Char :=
  (cs.takeWhile Char.isDigit, cs.dropWhile Char.isDigit)

theorem length_spanDigits_snd (cs : List Char) : (spanDigits cs).2.length ≤ cs.length :=
  (List.dropWhile_sublist _).length_le

theorem length_spanDigits_of_ne {cs ds rest : List Char} (h : spanDigits cs = (ds, rest))
    (hne : ds ≠ []) : rest.length < cs.length := by
  cases cs with
  | nil => simp_all [spanDigits]
  | cons c cs =>
    cases hc : c.isDigit
    · simp_all [spanDigits]
    · have : rest = (spanDigits (c :: cs)).2 := by rw [h]
      have hle := length_spanDigits_snd cs
      simp only [spanDigits, List.dropWhile_cons, hc, if_true] at this hle
      rw [this, List.length_cons]
      omega

/-- Whether an exponent is negative, and what follows its sign, which may be left out. -/
def exponentSign : List Char → Bool × List Char
  | '+' :: rest => (false, rest)
  | '-' :: rest => (true, rest)
  | rest => (false, rest)

theorem length_exponentSign_snd (cs : List Char) : (exponentSign cs).2.length ≤ cs.length := by
  unfold exponentSign
  split <;> simp

/-- Whether a number is negative, and what follows its sign. -/
def numeralSign : List Char → Bool × List Char
  | '-' :: rest => (true, rest)
  | rest => (false, rest)

theorem length_numeralSign_snd (cs : List Char) : (numeralSign cs).2.length ≤ cs.length := by
  unfold numeralSign
  split <;> simp

/-- Reads an exponent, if there is one, and completes the numeral. -/
def scanExponent (n : Numeral) : List Char → NumeralScan
  | [] => .complete n []
  | c :: rest =>
    if c = 'e' ∨ c = 'E' then
      let signed := exponentSign rest
      match spanDigits signed.2 with
      | ([], rest) => .broken (numeralStop rest)
      | (ds, rest) => .complete { n with exponent := some (signed.1, ds) } rest
    else .complete n (c :: rest)

/-- Reads a fraction, if there is one, and then an exponent. -/
def scanFraction (n : Numeral) : List Char → NumeralScan
  | '.' :: rest =>
    match spanDigits rest with
    | ([], rest) => .broken (numeralStop rest)
    | (ds, rest) => scanExponent { n with fraction := ds } rest
  | rest => scanExponent n rest

/-- Scans a number.  No zero may stand before another digit. -/
def scanNumeral (cs : List Char) : NumeralScan :=
  let signed := numeralSign cs
  match spanDigits signed.2 with
  | ([], rest) => .broken (numeralStop rest)
  | ('0' :: _ :: _, _) => .broken (.both .malformed)
  | (ds, rest) => scanFraction ⟨signed.1, ds, [], none⟩ rest

theorem length_of_scanExponent {n found : Numeral} {cs rest : List Char}
    (h : scanExponent n cs = .complete found rest) : rest.length ≤ cs.length := by
  unfold scanExponent at h
  split at h
  · cases h; exact Nat.le_refl _
  · rename_i c tail
    split at h
    · have hSign := length_exponentSign_snd tail
      have hSpan := length_spanDigits_snd (exponentSign tail).2
      dsimp only at h
      split at h
      · cases h
      · rename_i hEq
        cases h
        rw [hEq] at hSpan
        simp only [List.length_cons] at hSpan ⊢
        omega
    · cases h; exact Nat.le_refl _

theorem length_of_scanFraction {n found : Numeral} {cs rest : List Char}
    (h : scanFraction n cs = .complete found rest) : rest.length ≤ cs.length := by
  unfold scanFraction at h
  split at h
  · rename_i tail
    have hSpan := length_spanDigits_snd tail
    split at h
    · cases h
    · rename_i hEq
      rw [hEq] at hSpan
      have := length_of_scanExponent h
      simp only [List.length_cons] at hSpan ⊢
      omega
  · exact length_of_scanExponent h

theorem length_of_scanNumeral {n : Numeral} {cs rest : List Char}
    (h : scanNumeral cs = .complete n rest) : rest.length < cs.length := by
  unfold scanNumeral at h
  have hSign := length_numeralSign_snd cs
  dsimp only at h
  split at h
  · cases h
  · cases h
  · rename_i hne _ hEq
    have := length_spanDigits_of_ne hEq hne
    have := length_of_scanFraction h
    omega

/-! ### Tokens -/

/-- White space between tokens. -/
def isSpace (c : Char) : Bool := c = ' ' || c = '\t' || c = '\n' || c = '\r'

/-- What follows the word `word` in a text that has to go on with it. -/
def afterWord : List Char → List Char → Except Stop (List Char)
  | [], cs => .ok cs
  | _ :: _, [] => .error (.both .truncated)
  | w :: word, c :: cs => if c = w then afterWord word cs else .error (.both .malformed)

/-- A token and what follows it.  Nothing follows a broken token. -/
abbrev Scanned := Token × List Char

/-- The string token from behind its opening quote. -/
def textToken (cs : List Char) : Scanned :=
  match scanText [] cs with
  | .closed pieces rest => (.text ((joined pieces).map String.ofList), rest)
  | .broken pieces fault =>
    (.brokenText ⟨if beyondMending pieces then .malformed else fault, fault⟩, [])

/-- The number token at the front. -/
def numberToken (cs : List Char) : Scanned :=
  match scanNumeral cs with
  | .complete n rest => (.number n.value?, rest)
  | .broken stop => (.broken stop, [])

/-- The token `token`, which has to go on with `word`. -/
def wordToken (token : Token) (word cs : List Char) : Scanned :=
  match afterWord word cs with
  | .ok rest => (token, rest)
  | .error stop => (.broken stop, [])

/-- The token that begins with the character `c`, which is no white space. -/
def scanToken (c : Char) (rest : List Char) : Scanned :=
  match c with
  | '[' => (.openArray, rest)
  | ']' => (.closeArray, rest)
  | '{' => (.openObject, rest)
  | '}' => (.closeObject, rest)
  | ',' => (.comma, rest)
  | ':' => (.colon, rest)
  | '"' => textToken rest
  | 'n' => wordToken .null ['u', 'l', 'l'] rest
  | 't' => wordToken (.boolean true) ['r', 'u', 'e'] rest
  | 'f' => wordToken (.boolean false) ['a', 'l', 's', 'e'] rest
  | _ =>
    if c = '-' ∨ c.isDigit then numberToken (c :: rest) else (.broken (.both .malformed), [])

theorem length_of_afterWord {word cs rest : List Char} (h : afterWord word cs = .ok rest) :
    rest.length ≤ cs.length := by
  fun_induction afterWord word cs with
  | case1 => cases h; exact Nat.le_refl _
  | case2 => cases h
  | case3 _ _ _ ih => exact Nat.le_succ_of_le (ih h)
  | case4 => cases h

theorem length_wordToken (token : Token) (word cs : List Char) :
    (wordToken token word cs).2.length ≤ cs.length := by
  unfold wordToken
  split
  · exact length_of_afterWord ‹_›
  · simp

theorem length_textToken (cs : List Char) : (textToken cs).2.length ≤ cs.length := by
  unfold textToken
  split
  · exact Nat.le_of_lt (rest_lt_of_scanText ‹_›)
  · simp

theorem length_scanToken (c : Char) (rest : List Char) :
    (scanToken c rest).2.length ≤ rest.length := by
  unfold scanToken
  split
  all_goals try exact Nat.le_refl _
  · exact length_textToken _
  · exact length_wordToken ..
  · exact length_wordToken ..
  · exact length_wordToken ..
  · split
    · unfold numberToken
      split
      · exact Nat.le_of_lt_succ (length_of_scanNumeral ‹_›)
      · simp
    · simp

def tokens : List Char → List Token
  | [] => []
  | c :: rest =>
    if isSpace c then tokens rest
    else
      let scanned := scanToken c rest
      scanned.1 :: tokens scanned.2
termination_by cs => cs.length
decreasing_by
  · simp
  · exact Nat.lt_succ_of_le (length_scanToken c rest)

end PlayerSession.Json
