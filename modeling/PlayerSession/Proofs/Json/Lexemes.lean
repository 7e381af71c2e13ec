import Mathlib.Data.List.TakeWhile
import PlayerSession.Proofs.Json.RoundTrip

/-! White space, strings and numbers as JSON has them: each with all the ways in which it may be spelled.
A scan takes every spelling for what it stands for, and takes nothing that is not spelled so. -/

namespace PlayerSession.Json

variable {cs ds rest more : List Char}

/-! ### White space -/

/-- White space, or nothing. -/
structure Space where
  chars : List Char
  blank : ∀ c ∈ chars, isSpace c

/-- Every text begins with white space, or nothing, and goes on with something else. -/
theorem exists_space (cs : List Char) :
    ∃ (w : Space) (rest : List Char), cs = w.chars ++ rest ∧ ∀ c ∈ rest.head?, isSpace c = false := by
  refine ⟨⟨cs.takeWhile isSpace, fun _ => List.mem_takeWhile_imp⟩, cs.dropWhile isSpace,
    List.takeWhile_append_dropWhile.symm, fun c hHead => ?_⟩
  have hNot := List.head?_dropWhile_not isSpace cs
  rw [hHead] at hNot
  exact hNot

theorem tokens_space (w : Space) (cs : List Char) : tokens (w.chars ++ cs) = tokens cs := by
  obtain ⟨chars, hBlank⟩ := w
  induction chars with
  | nil => rfl
  | cons c chars ih =>
    rw [List.forall_mem_cons] at hBlank
    rw [List.cons_append, tokens, if_pos hBlank.1]
    exact ih hBlank.2

/-! ### Strings -/

/-- A part of a string as it is spelled: a character, an escape of two characters, or one of six. -/
inductive TextPart where
  | plain (c : Char) (quote : c ≠ '"') (backslash : c ≠ '\\') (printable : ¬ c.toNat < 0x20)
  | escape (mark c : Char) (stands : escaped? mark = some c)
  | unit (a b c d : Char) (n : Nat) (stands : hexUnit? a b c d = some n)

def TextPart.chars : TextPart → List Char
  | .plain c .. => [c]
  | .escape mark .. => ['\\', mark]
  | .unit a b c d .. => ['\\', 'u', a, b, c, d]

def TextPart.piece : TextPart → Piece
  | .plain c .. => .plain c
  | .escape _ c _ => .plain c
  | .unit _ _ _ _ n _ => .unit n

/-- The string that some parts spell, unless half of a surrogate pair stands alone. -/
def spelledText (parts : List TextPart) : Option String :=
  (joined (parts.map TextPart.piece)).map String.ofList

/-- A string as it is spelled, with its quotes. -/
def quotedChars (parts : List TextPart) : List Char :=
  '"' :: (parts.flatMap TextPart.chars ++ ['"'])

variable {pieces found : List Piece}

theorem scanText_part (part : TextPart) :
    scanText pieces (part.chars ++ rest) = scanText (part.piece :: pieces) rest := by
  cases part with
  | plain c hQuote hBackslash hPrintable => exact scanText_plain hQuote hBackslash hPrintable
  | escape mark c hStands =>
    show scanText pieces ('\\' :: mark :: rest) = _
    have hMark : mark ≠ 'u' := by
      rintro rfl
      cases hStands
    rw [scanText, hStands]
    · rfl
    · exact fun _ _ _ _ _ hEq => absurd hEq hMark
    · exact hMark
  | unit a b c d n hStands =>
    show scanText pieces ('\\' :: 'u' :: a :: b :: c :: d :: rest) = _
    rw [scanText, hStands]
    rfl

theorem scanText_parts (parts : List TextPart) :
    scanText pieces (parts.flatMap TextPart.chars ++ '"' :: rest) =
      .closed (pieces.reverse ++ parts.map TextPart.piece) rest := by
  induction parts generalizing pieces with
  | nil =>
    rw [List.map_nil, List.append_nil]
    rfl
  | cons part parts ih =>
    rw [List.flatMap_cons, List.append_assoc, scanText_part, ih, List.reverse_cons, List.append_assoc,
      List.map_cons]
    rfl

theorem exists_parts_cons {tail : List Char} (part : TextPart)
    (h : ∃ parts : List TextPart, tail = parts.flatMap TextPart.chars ++ '"' :: rest ∧
      found = (part.piece :: pieces).reverse ++ parts.map TextPart.piece) :
    ∃ parts : List TextPart, part.chars ++ tail = parts.flatMap TextPart.chars ++ '"' :: rest ∧
      found = pieces.reverse ++ parts.map TextPart.piece := by
  obtain ⟨parts, rfl, rfl⟩ := h
  refine ⟨part :: parts, ?_, ?_⟩
  · rw [List.flatMap_cons, List.append_assoc]
  · rw [List.reverse_cons, List.append_assoc, List.map_cons]
    rfl

/-- A string that the scan takes is spelled in parts. -/
theorem exists_parts (h : scanText pieces cs = .closed found rest) :
    ∃ parts : List TextPart, cs = parts.flatMap TextPart.chars ++ '"' :: rest ∧
      found = pieces.reverse ++ parts.map TextPart.piece := by
  fun_induction scanText pieces cs with
  | case2 =>
    cases h
    exact ⟨[], rfl, (List.append_nil _).symm⟩
  | case3 pieces a b c d tail n hUnit ih => exact exists_parts_cons (.unit a b c d n hUnit) (ih h)
  | case7 pieces mark tail _ _ c hEscape ih => exact exists_parts_cons (.escape mark c hEscape) (ih h)
  | case10 pieces c tail hQuote _ _ hEnd hBackslash hPrintable ih =>
    have hNotBackslash : c ≠ '\\' := by
      intro hEq
      cases tail with
      | nil => exact hEnd hEq rfl
      | cons c' tail => exact hBackslash c' tail hEq rfl
    exact exists_parts_cons (.plain c hQuote hNotBackslash hPrintable) (ih h)
  | case1 | case4 | case5 | case6 | case8 | case9 => cases h

theorem tokens_quotedChars (parts : List TextPart) (rest : List Char) :
    tokens (quotedChars parts ++ rest) = .text (spelledText parts) :: tokens rest := by
  have hToken : textToken (parts.flatMap TextPart.chars ++ '"' :: rest) =
      (.text (spelledText parts), rest) := by
    rw [textToken, scanText_parts]
    rfl
  rw [quotedChars, List.cons_append, List.append_assoc, List.singleton_append, tokens]
  show (textToken _).1 :: tokens (textToken _).2 = _
  rw [hToken]

/-! ### Numbers -/

/-- An exponent as it is spelled. -/
structure ExponentSpelling where
  mark : Char
  sign : List Char
  digits : List Char
  isMark : mark = 'e' ∨ mark = 'E'
  isSign : sign = [] ∨ sign = ['+'] ∨ sign = ['-']
  isDigits : ∀ c ∈ digits, c.isDigit
  ne_nil : digits ≠ []

/-- A number as it is spelled.  Without digits behind the point there is no point. -/
structure NumberSpelling where
  negative : Bool
  whole : List Char
  fraction : List Char
  exponent : Option ExponentSpelling
  isWhole : Whole whole
  isFraction : ∀ c ∈ fraction, c.isDigit

/-- Whether an exponent is negative, and its digits. -/
def ExponentSpelling.value (e : ExponentSpelling) : Bool × List Char := (e.sign = ['-'], e.digits)

def signChars (negative : Bool) : List Char := if negative then ['-'] else []

def fractionChars (ds : List Char) : List Char := if ds = [] then [] else '.' :: ds

def exponentChars : Option ExponentSpelling → List Char
  | none => []
  | some e => e.mark :: (e.sign ++ e.digits)

namespace NumberSpelling

def chars (n : NumberSpelling) : List Char :=
  signChars n.negative ++ (n.whole ++ (fractionChars n.fraction ++ exponentChars n.exponent))

def numeral (n : NumberSpelling) : Numeral :=
  ⟨n.negative, n.whole, n.fraction, n.exponent.map ExponentSpelling.value⟩

end NumberSpelling

variable {n found : Numeral}

theorem head?_exponentChars {c : Char} {e : Option ExponentSpelling}
    (h : c ∈ (exponentChars e).head?) : c.isDigit = false ∧ c ≠ '.' := by
  cases e with
  | none => cases h
  | some e =>
    cases h
    rcases e.isMark with hMark | hMark
    · rw [hMark]
      decide
    · rw [hMark]
      decide

theorem exponentSign_chars (e : ExponentSpelling) : exponentSign (e.sign ++ e.digits) = e.value := by
  obtain ⟨d, ds, hEq⟩ := List.exists_cons_of_ne_nil e.ne_nil
  have hDigit : d.isDigit := e.isDigits d (hEq ▸ List.mem_cons_self)
  rw [ExponentSpelling.value]
  rcases e.isSign with hSign | hSign | hSign
  · rw [hSign, hEq, List.nil_append, exponentSign]
    · rfl
    · rintro _ ⟨⟩
      cases hDigit
    · rintro _ ⟨⟩
      cases hDigit
  · rw [hSign]
    rfl
  · rw [hSign]
    rfl

theorem scanExponent_chars (e : Option ExponentSpelling) (hNone : n.exponent = none) :
    scanExponent n (exponentChars e) =
      .complete { n with exponent := e.map ExponentSpelling.value } [] := by
  cases e with
  | none =>
    rw [Option.map_none, ← hNone]
    rfl
  | some e =>
    obtain ⟨d, ds, hEq⟩ := List.exists_cons_of_ne_nil e.ne_nil
    rw [exponentChars, scanExponent, if_pos e.isMark, exponentSign_chars]
    dsimp only [ExponentSpelling.value]
    rw [spanDigits_of_all e.isDigits, hEq]
    dsimp only [Option.map_some, ExponentSpelling.value]
    rw [hEq]

theorem scanFraction_chars (hDigits : ∀ c ∈ ds, c.isDigit) (e : Option ExponentSpelling)
    (hNone : n.fraction = []) :
    scanFraction n (fractionChars ds ++ exponentChars e) =
      scanExponent { n with fraction := ds } (exponentChars e) := by
  by_cases hEmpty : ds = []
  · have hSame : { n with fraction := ds } = n := by rw [hEmpty, ← hNone]
    rw [hSame, fractionChars, if_pos hEmpty, List.nil_append, scanFraction]
    intro tail hPoint
    have hHead : '.' ∈ (exponentChars e).head? := by
      rw [hPoint]
      rfl
    exact (head?_exponentChars hHead).2 rfl
  · rw [fractionChars, if_neg hEmpty]
    exact scanFraction_point hDigits hEmpty fun _ hHead => (head?_exponentChars hHead).1

theorem numeralSign_chars {negative : Bool} (hWhole : Whole ds) :
    numeralSign (signChars negative ++ (ds ++ more)) = (negative, ds ++ more) := by
  cases negative with
  | true => rfl
  | false =>
    obtain ⟨d, ds', hEq⟩ := List.exists_cons_of_ne_nil hWhole.ne_nil
    have hDigit : d.isDigit := hWhole.digits d (hEq ▸ List.mem_cons_self)
    rw [hEq, signChars, if_neg Bool.false_ne_true, List.nil_append, List.cons_append, numeralSign]
    rintro _ ⟨⟩
    cases hDigit

/-- What stands behind the first digits of a number does not begin with a digit. -/
theorem head?_tailChars {c : Char} {e : Option ExponentSpelling}
    (h : c ∈ (fractionChars ds ++ exponentChars e).head?) : c.isDigit = false := by
  unfold fractionChars at h
  split at h
  · exact (head?_exponentChars h).1
  · cases h
    rfl

theorem scanNumeral_chars (n : NumberSpelling) : scanNumeral n.chars = .complete n.numeral [] := by
  have hSign := @numeralSign_chars n.whole
    (fractionChars n.fraction ++ exponentChars n.exponent) n.negative n.isWhole
  have hLeading : Leading n.chars n.whole (fractionChars n.fraction ++ exponentChars n.exponent) := {
    span := by
      rw [NumberSpelling.chars, hSign, spanDigits_append (spanDigits_of_all n.isWhole.digits)
        fun _ _ => head?_tailChars, List.nil_append]
    ne_nil := n.isWhole.ne_nil
    no_zero := n.isWhole.no_zero }
  rw [scanNumeral_of_leading hLeading, scanFraction_chars n.isFraction n.exponent rfl,
    scanExponent_chars n.exponent rfl, NumberSpelling.chars, hSign]
  rfl

theorem exists_numberChars (n : NumberSpelling) :
    ∃ c cs, n.chars = c :: cs ∧ (c = '-' ∨ c.isDigit) := by
  obtain ⟨d, ds, hEq⟩ := List.exists_cons_of_ne_nil n.isWhole.ne_nil
  rw [NumberSpelling.chars, hEq, signChars]
  split
  · exact ⟨_, _, rfl, .inl rfl⟩
  · exact ⟨_, _, rfl, .inr (n.isWhole.digits d (hEq ▸ List.mem_cons_self))⟩

theorem tokens_numberChars (n : NumberSpelling) (hMore : Delimited more) :
    tokens (n.chars ++ more) = .number n.numeral.value? :: tokens more := by
  obtain ⟨c, cs, hEq, hFirst⟩ := exists_numberChars n
  rw [tokens_append_of_scanNumeral hEq hFirst (scanNumeral_chars n) fun _ => hMore, List.nil_append]

theorem spanDigits_cut (h : spanDigits cs = (ds, rest)) :
    cs = ds ++ rest ∧ ∀ c ∈ ds, c.isDigit := by
  cases h
  exact ⟨List.takeWhile_append_dropWhile.symm, fun _ => List.mem_takeWhile_imp⟩

theorem exponentSign_cut (cs : List Char) :
    ∃ sign, (sign = [] ∨ sign = ['+'] ∨ sign = ['-']) ∧ cs = sign ++ (exponentSign cs).2 ∧
      (exponentSign cs).1 = decide (sign = ['-']) := by
  unfold exponentSign
  split
  · exact ⟨['+'], .inr (.inl rfl), rfl, rfl⟩
  · exact ⟨['-'], .inr (.inr rfl), rfl, rfl⟩
  · exact ⟨[], .inl rfl, rfl, rfl⟩

theorem numeralSign_cut (cs : List Char) :
    cs = signChars (numeralSign cs).1 ++ (numeralSign cs).2 := by
  unfold numeralSign
  split
  · rfl
  · rfl

/-- An exponent that the scan takes is spelled as one. -/
theorem exists_exponent (h : scanExponent n cs = .complete found rest) (hNone : n.exponent = none) :
    ∃ e : Option ExponentSpelling, cs = exponentChars e ++ rest ∧
      found = { n with exponent := e.map ExponentSpelling.value } := by
  have hAbsent : n = { n with exponent := none } := by rw [← hNone]
  cases cs with
  | nil =>
    cases h
    exact ⟨none, rfl, hAbsent⟩
  | cons c cs =>
    unfold scanExponent at h
    dsimp only at h
    split at h
    · rename_i hMark
      obtain ⟨sign, hSign, hCut, hNegative⟩ := exponentSign_cut cs
      rcases hSpan : spanDigits (exponentSign cs).2 with ⟨ds, tail⟩
      rw [hSpan] at h
      obtain ⟨hDigits, hAll⟩ := spanDigits_cut hSpan
      cases ds with
      | nil => cases h
      | cons d ds =>
        cases h
        refine ⟨some ⟨c, sign, d :: ds, hMark, hSign, hAll, List.cons_ne_nil d ds⟩, ?_, ?_⟩
        · rw [hCut, hDigits]
          show _ = c :: ((sign ++ d :: ds) ++ rest)
          rw [List.append_assoc]
        · rw [hNegative]
          rfl
    · cases h
      exact ⟨none, rfl, hAbsent⟩

/-- What the scan takes behind the first digits of a number is spelled as a fraction and an exponent. -/
theorem exists_fraction (h : scanFraction n cs = .complete found rest) (hFraction : n.fraction = [])
    (hExponent : n.exponent = none) :
    ∃ (ds : List Char) (e : Option ExponentSpelling), (∀ c ∈ ds, c.isDigit) ∧
      cs = fractionChars ds ++ (exponentChars e ++ rest) ∧
      found = { n with fraction := ds, exponent := e.map ExponentSpelling.value } := by
  unfold scanFraction at h
  split at h
  · rename_i tail
    rcases hSpan : spanDigits tail with ⟨ds, tail'⟩
    rw [hSpan] at h
    obtain ⟨hDigits, hAll⟩ := spanDigits_cut hSpan
    cases ds with
    | nil => cases h
    | cons d ds =>
      have hScan : scanExponent { n with fraction := d :: ds } tail' = .complete found rest := h
      obtain ⟨e, hRest, hFound⟩ := exists_exponent hScan hExponent
      refine ⟨d :: ds, e, hAll, ?_, hFound⟩
      rw [hDigits, hRest]
      rfl
  · obtain ⟨e, hRest, hFound⟩ := exists_exponent h hExponent
    refine ⟨[], e, nofun, hRest, ?_⟩
    rw [hFound, ← hFraction]

/-- A number that the scan takes is spelled as one. -/
theorem exists_number (h : scanNumeral cs = .complete found rest) :
    ∃ n : NumberSpelling, cs = n.chars ++ rest ∧ n.numeral = found := by
  obtain ⟨ds, tail, hLeading⟩ := exists_leading h
  rw [scanNumeral_of_leading hLeading] at h
  obtain ⟨hDigits, hAll⟩ := spanDigits_cut hLeading.span
  obtain ⟨fraction, e, hFraction, hTail, hFound⟩ := exists_fraction h rfl rfl
  refine ⟨⟨(numeralSign cs).1, ds, fraction, e, ⟨hAll, hLeading.ne_nil, hLeading.no_zero⟩,
    hFraction⟩, ?_, hFound.symm⟩
  rw [NumberSpelling.chars, List.append_assoc, List.append_assoc, List.append_assoc, ← hTail,
    ← hDigits]
  exact numeralSign_cut cs

end PlayerSession.Json
