import PlayerSession.Json.Token
import PlayerSession.Json.Value

/-! Strings as they are written and as they are read.  Every character is written as one piece, and the
scan of what is written finds these pieces again, up to the quote behind them.  A control character is
written as a unit, which is never half of a surrogate pair, so the pieces join to the characters. -/

namespace PlayerSession.Json

/-- The control characters with an escape of their own. -/
def shortEscapes : List Char := ['\x08', '\x0c', '\n', '\r', '\t']

/-- The piece that a character is written as. -/
def pieceOf (c : Char) : Piece :=
  if c.toNat < 0x20 ∧ c ∉ shortEscapes then .unit c.toNat else .plain c

variable {pieces : List Piece} {c : Char} {rest : List Char}

theorem pieceOf_of_printable (hPrintable : ¬ c.toNat < 0x20) : pieceOf c = .plain c :=
  if_neg fun h => hPrintable h.1

theorem scanText_plain (hQuote : c ≠ '"') (hBackslash : c ≠ '\\') (hPrintable : ¬ c.toNat < 0x20) :
    scanText pieces (c :: rest) = scanText (.plain c :: pieces) rest := by
  rw [scanText]
  · exact if_neg hPrintable
  · exact hQuote
  · rintro _ _ _ _ _ rfl
    exact absurd rfl hBackslash
  · rintro _ rfl
    exact absurd rfl hBackslash
  · rintro rfl
    exact absurd rfl hBackslash
  · rintro _ _ rfl
    exact absurd rfl hBackslash

theorem hexUnit?_of_control {n : Nat} (hControl : n < 0x20) :
    hexUnit? '0' '0' (hexDigit (n / 16)) (hexDigit (n % 16)) = some n := by
  have hAll : ∀ m < 0x20, hexUnit? '0' '0' (hexDigit (m / 16)) (hexDigit (m % 16)) = some m := by
    decide
  exact hAll n hControl

theorem scanText_unit {n : Nat} (hControl : n < 0x20) :
    scanText pieces ('\\' :: 'u' :: '0' :: '0' :: hexDigit (n / 16) :: hexDigit (n % 16) :: rest) =
      scanText (.unit n :: pieces) rest := by
  rw [scanText, hexUnit?_of_control hControl]

/-- What a character is written as is scanned as its piece. -/
theorem scanText_escapedChar :
    scanText pieces (escapedChar c ++ rest) = scanText (pieceOf c :: pieces) rest := by
  by_cases hQuote : c = '"'
  · subst hQuote
    rfl
  by_cases hBackslash : c = '\\'
  · subst hBackslash
    rfl
  by_cases hShort : c ∈ shortEscapes
  · have hPiece : pieceOf c = .plain c := if_neg fun h => h.2 hShort
    rw [hPiece]
    simp only [shortEscapes, List.mem_cons, List.not_mem_nil, or_false] at hShort
    rcases hShort with rfl | rfl | rfl | rfl | rfl
    all_goals rfl
  have hNone := hShort
  simp only [shortEscapes, List.mem_cons, List.not_mem_nil, or_false, not_or] at hNone
  rw [escapedChar, if_neg hQuote, if_neg hBackslash, if_neg hNone.1, if_neg hNone.2.1,
    if_neg hNone.2.2.1, if_neg hNone.2.2.2.1, if_neg hNone.2.2.2.2]
  by_cases hControl : c.toNat < 0x20
  · rw [if_pos hControl, pieceOf, if_pos ⟨hControl, hShort⟩]
    exact scanText_unit hControl
  · rw [if_neg hControl, pieceOf_of_printable hControl]
    exact scanText_plain hQuote hBackslash hControl

theorem scanText_flatMap_escapedChar (cs : List Char) :
    scanText pieces (cs.flatMap escapedChar ++ '"' :: rest) =
      .closed (pieces.reverse ++ cs.map pieceOf) rest := by
  induction cs generalizing pieces with
  | nil =>
    rw [List.map_nil, List.append_nil]
    rfl
  | cons c cs ih =>
    rw [List.flatMap_cons, List.append_assoc, scanText_escapedChar, ih, List.reverse_cons,
      List.append_assoc, List.map_cons]
    rfl

/-- A unit that is no half of a surrogate pair stands for itself, whatever comes next. -/
theorem joined_unit_cons {n : Nat} {more : List Piece} (hHigh : isHigh n = false)
    (hLow : isLow n = false) :
    joined (.unit n :: more) = (joined more).map (Char.ofNat n :: ·) := by
  cases more with
  | nil => simp [joined, hHigh, hLow]
  | cons piece more => cases piece <;> simp [joined, hHigh, hLow]

theorem joined_map_pieceOf (cs : List Char) : joined (cs.map pieceOf) = some cs := by
  induction cs with
  | nil => rfl
  | cons c cs ih =>
    rw [List.map_cons, pieceOf]
    split
    · rename_i hUnit
      have hHigh : isHigh c.toNat = false := by
        simp only [isHigh, Bool.and_eq_false_imp, decide_eq_true_eq]
        omega
      have hLow : isLow c.toNat = false := by
        simp only [isLow, Bool.and_eq_false_imp, decide_eq_true_eq]
        omega
      rw [joined_unit_cons hHigh hLow, ih, Char.ofNat_toNat]
      rfl
    · rw [joined, ih]
      rfl

/-- A string is scanned as it was written. -/
theorem textToken_of_written (s : String) (rest : List Char) :
    textToken (s.toList.flatMap escapedChar ++ '"' :: rest) = (.text (some s), rest) := by
  rw [textToken, scanText_flatMap_escapedChar, List.reverse_nil, List.nil_append]
  show (Token.text ((joined (s.toList.map pieceOf)).map String.ofList), rest) = _
  rw [joined_map_pieceOf, Option.map_some, String.ofList_toList]

theorem tokens_textChars (s : String) (rest : List Char) :
    tokens (textChars s ++ rest) = .text (some s) :: tokens rest := by
  have hToken := textToken_of_written s rest
  rw [textChars, List.cons_append, List.append_assoc, List.singleton_append, tokens]
  show (textToken _).1 :: tokens (textToken _).2 = _
  rw [hToken]

end PlayerSession.Json
