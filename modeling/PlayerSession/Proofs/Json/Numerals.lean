import PlayerSession.Json.Token
import PlayerSession.Json.Value
import PlayerSession.Proofs.Decimal.Digits

/-! Numbers as they are written and as they are read.  The scan of a number does not depend on what
stands behind it, if that cannot go on with the number, and the digits of an integer of 64 bits are read
back as the integer. -/

namespace PlayerSession.Json

variable {n found : Numeral} {cs ds rest more : List Char}

/-! ### What stands behind a number -/

/-- What does not go on with a number that ends in front of it. -/
def Delimited (more : List Char) : Prop :=
  ∀ c ∈ more.head?, c.isDigit = false ∧ c ≠ '.' ∧ c ≠ 'e' ∧ c ≠ 'E'

theorem delimited_nil : Delimited [] := nofun

theorem spanDigits_of_not_digit (h : ∀ c ∈ more.head?, c.isDigit = false) :
    spanDigits more = ([], more) := by
  cases more with
  | nil => rfl
  | cons c more =>
    have hDigit : c.isDigit = false := h c rfl
    simp [spanDigits, hDigit]

theorem spanDigits_cons_of_digit {c : Char} (h : c.isDigit) :
    spanDigits (c :: cs) = (c :: (spanDigits cs).1, (spanDigits cs).2) := by
  simp [spanDigits, h]

theorem spanDigits_append (h : spanDigits cs = (ds, rest))
    (hEnd : rest = [] → ∀ c ∈ more.head?, c.isDigit = false) :
    spanDigits (cs ++ more) = (ds, rest ++ more) := by
  induction cs generalizing ds with
  | nil =>
    cases h
    exact spanDigits_of_not_digit (hEnd rfl)
  | cons c cs ih =>
    cases hDigit : c.isDigit with
    | true =>
      rw [spanDigits_cons_of_digit hDigit] at h
      cases h
      rw [List.cons_append, spanDigits_cons_of_digit hDigit, ih rfl]
      rfl
    | false =>
      have hNone : ∀ tail, spanDigits (c :: tail) = ([], c :: tail) := fun tail =>
        spanDigits_of_not_digit fun _ h => Option.some.inj h ▸ hDigit
      rw [hNone] at h
      cases h
      exact hNone (cs ++ more)

theorem exponentSign_append (h : cs ≠ []) :
    exponentSign (cs ++ more) = ((exponentSign cs).1, (exponentSign cs).2 ++ more) := by
  cases cs with
  | nil => exact absurd rfl h
  | cons c cs =>
    rw [List.cons_append]
    unfold exponentSign
    split <;> simp_all

theorem numeralSign_append (h : cs ≠ []) :
    numeralSign (cs ++ more) = ((numeralSign cs).1, (numeralSign cs).2 ++ more) := by
  cases cs with
  | nil => exact absurd rfl h
  | cons c cs =>
    rw [List.cons_append]
    unfold numeralSign
    split <;> simp_all

theorem scanExponent_of_delimited (h : Delimited more) : scanExponent n more = .complete n more := by
  cases more with
  | nil => rfl
  | cons c more =>
    obtain ⟨-, -, hLower, hUpper⟩ := h c rfl
    rw [scanExponent, if_neg (not_or.mpr ⟨hLower, hUpper⟩)]

theorem scanFraction_of_delimited (h : Delimited more) : scanFraction n more = .complete n more := by
  unfold scanFraction
  split
  · obtain ⟨-, hPoint, -⟩ := h '.' rfl
    exact absurd rfl hPoint
  · exact scanExponent_of_delimited h

theorem scanExponent_append (h : scanExponent n cs = .complete found rest)
    (hEnd : rest = [] → Delimited more) :
    scanExponent n (cs ++ more) = .complete found (rest ++ more) := by
  cases cs with
  | nil =>
    cases h
    exact scanExponent_of_delimited (hEnd rfl)
  | cons c cs =>
    rw [List.cons_append]
    unfold scanExponent at h ⊢
    dsimp only at h ⊢
    split at h
    · rename_i hMark
      rw [if_pos hMark]
      have hNonempty : cs ≠ [] := by
        rintro rfl
        cases h
      rcases hSpan : spanDigits (exponentSign cs).2 with ⟨ds, tail⟩
      rw [hSpan] at h
      cases ds with
      | nil => cases h
      | cons d ds =>
        cases h
        rw [exponentSign_append hNonempty, spanDigits_append hSpan fun hNil c hc =>
          (hEnd hNil c hc).1]
    · rename_i hMark
      rw [if_neg hMark]
      cases h
      rfl

theorem scanFraction_append (h : scanFraction n cs = .complete found rest)
    (hEnd : rest = [] → Delimited more) :
    scanFraction n (cs ++ more) = .complete found (rest ++ more) := by
  cases cs with
  | nil =>
    cases h
    exact scanFraction_of_delimited (hEnd rfl)
  | cons c cs =>
    by_cases hPoint : c = '.'
    · subst hPoint
      rw [List.cons_append]
      rw [scanFraction] at h ⊢
      rcases hSpan : spanDigits cs with ⟨ds, tail⟩
      rw [hSpan] at h
      cases ds with
      | nil => cases h
      | cons d ds =>
        have hTail : tail = [] → ∀ c ∈ more.head?, c.isDigit = false := by
          rintro rfl
          cases h
          exact fun c hc => (hEnd rfl c hc).1
        rw [spanDigits_append hSpan hTail]
        exact scanExponent_append h hEnd
    · have hSkip : ∀ tail, scanFraction n (c :: tail) = scanExponent n (c :: tail) := by
        intro tail
        rw [scanFraction]
        intro _ hHead
        exact hPoint (List.cons.inj hHead).1
      rw [hSkip] at h
      rw [List.cons_append, hSkip]
      exact scanExponent_append h hEnd

/-- The digits in front of the point: there is one, and no zero stands before another. -/
structure Leading (cs ds rest : List Char) : Prop where
  span : spanDigits (numeralSign cs).2 = (ds, rest)
  ne_nil : ds ≠ []
  no_zero : ∀ d tail, ds ≠ '0' :: d :: tail

theorem scanNumeral_of_leading (h : Leading cs ds rest) :
    scanNumeral cs = scanFraction ⟨(numeralSign cs).1, ds, [], none⟩ rest := by
  unfold scanNumeral
  dsimp only
  rw [h.span]
  split
  · rename_i hEq
    cases hEq
    exact absurd rfl h.ne_nil
  · rename_i hEq
    cases hEq
    exact absurd rfl (h.no_zero _ _)
  · rename_i hEq
    cases hEq
    rfl

theorem exists_leading (h : scanNumeral cs = .complete found more) :
    ∃ ds rest, Leading cs ds rest := by
  unfold scanNumeral at h
  dsimp only at h
  split at h
  · cases h
  · cases h
  · rename_i ds rest hEmpty hZero hSpan
    exact ⟨ds, rest, hSpan, hEmpty, hZero⟩

/-- A number is scanned in the same way with something behind it that does not go on with it. -/
theorem scanNumeral_append (h : scanNumeral cs = .complete found rest)
    (hEnd : rest = [] → Delimited more) :
    scanNumeral (cs ++ more) = .complete found (rest ++ more) := by
  obtain ⟨ds, tail, hLeading⟩ := exists_leading h
  rw [scanNumeral_of_leading hLeading] at h
  have hNonempty : cs ≠ [] := by
    rintro rfl
    exact hLeading.ne_nil (congrArg Prod.fst hLeading.span).symm
  have hTail : tail = [] → ∀ c ∈ more.head?, c.isDigit = false := by
    rintro rfl
    cases h
    exact fun c hc => (hEnd rfl c hc).1
  have hMore : Leading (cs ++ more) ds (tail ++ more) := {
    span := by rw [numeralSign_append hNonempty, spanDigits_append hLeading.span hTail]
    ne_nil := hLeading.ne_nil
    no_zero := hLeading.no_zero }
  rw [scanNumeral_of_leading hMore, numeralSign_append hNonempty]
  exact scanFraction_append h hEnd

/-- What begins like a number is taken for one. -/
theorem tokens_of_first {c : Char} (hFirst : c = '-' ∨ c.isDigit) :
    tokens (c :: cs) = (numberToken (c :: cs)).1 :: tokens (numberToken (c :: cs)).2 := by
  have hSpace : isSpace c = false := by
    rcases hFirst with rfl | hDigit
    · rfl
    · cases hIs : isSpace c with
      | false => rfl
      | true =>
        simp only [isSpace, Bool.or_eq_true, decide_eq_true_eq] at hIs
        rcases hIs with ((rfl | rfl) | rfl) | rfl
        all_goals cases hDigit
  have hToken : scanToken c cs = numberToken (c :: cs) := by
    unfold scanToken
    split
    all_goals try exact absurd hFirst (by decide)
    exact if_pos hFirst
  rw [tokens, hSpace, hToken]
  rfl

theorem tokens_of_scanNumeral {c : Char} (hFirst : c = '-' ∨ c.isDigit)
    (h : scanNumeral (c :: cs) = .complete found rest) :
    tokens (c :: cs) = .number found.value? :: tokens rest := by
  rw [tokens_of_first hFirst, numberToken, h]

theorem tokens_append_of_scanNumeral {c : Char} {tail : List Char} (hEq : cs = c :: tail)
    (hFirst : c = '-' ∨ c.isDigit) (h : scanNumeral cs = .complete found rest)
    (hEnd : rest = [] → Delimited more) :
    tokens (cs ++ more) = .number found.value? :: tokens (rest ++ more) := by
  have hScan := scanNumeral_append h hEnd
  rw [hEq] at hScan ⊢
  exact tokens_of_scanNumeral hFirst hScan

/-! ### Integers -/

theorem le_ofDigitChars (s : Nat) (ds : List Char) : s ≤ Nat.ofDigitChars 10 ds s := by
  induction ds generalizing s with
  | nil => exact Nat.le_refl s
  | cons d ds ih =>
    rw [Nat.ofDigitChars_cons]
    have := ih (10 * s + (d.toNat - '0'.toNat))
    omega

theorem intoWord_of_lt {s : Nat} (h : Nat.ofDigitChars 10 ds s < UInt64.size) :
    intoWord s ds = (Nat.ofDigitChars 10 ds s, []) := by
  induction ds generalizing s with
  | nil => rfl
  | cons d ds ih =>
    rw [Nat.ofDigitChars_cons] at h ⊢
    have hNext : 10 * s + digitValue d < UInt64.size := Nat.lt_of_le_of_lt (le_ofDigitChars _ ds) h
    rw [intoWord, if_pos hNext]
    exact ih h

theorem intoWord_natChars {m : Nat} (h : m < UInt64.size) :
    intoWord 0 (Decimal.natChars m) = (m, []) := by
  have hValue : Nat.ofDigitChars 10 (Decimal.natChars m) 0 = m :=
    Nat.ofDigitChars_toDigits (by decide) (by decide)
  have hWord : Nat.ofDigitChars 10 (Decimal.natChars m) 0 < UInt64.size := by
    rw [hValue]
    exact h
  rw [intoWord_of_lt hWord, hValue]

/-- The integers that a number of a text can stand for. -/
def FitsWord (m : Int) : Prop := -0x8000000000000000 ≤ m ∧ m < 0x10000000000000000

/-- An integer as it is spelled. -/
def Numeral.ofInt (m : Int) : Numeral := ⟨m < 0, Decimal.natChars m.natAbs, [], none⟩

theorem value?_ofInt {m : Int} (h : FitsWord m) : (Numeral.ofInt m).value? = some (.whole m) := by
  obtain ⟨hLow, hHigh⟩ := h
  have hWord : m.natAbs < UInt64.size := by
    rw [UInt64.size]
    omega
  unfold Numeral.value? Numeral.ofInt
  dsimp only
  rw [intoWord_natChars hWord, if_pos ⟨rfl, rfl, rfl⟩]
  by_cases hNegative : m < 0
  · have hNot : ¬ (m.natAbs = 0 ∨ 0x8000000000000000 < m.natAbs) := by omega
    rw [if_neg (by simpa using hNegative), if_neg hNot, Int.ofNat_natAbs_of_nonpos (by omega)]
    simp
  · rw [if_pos (by simpa using hNegative), Int.natAbs_of_nonneg (by omega)]

theorem spanDigits_of_all (h : ∀ c ∈ ds, c.isDigit) : spanDigits ds = (ds, []) := by
  induction ds with
  | nil => rfl
  | cons d ds ih =>
    have hRest := ih fun c hc => h c (List.mem_cons_of_mem d hc)
    rw [spanDigits_cons_of_digit (h d List.mem_cons_self), hRest]

theorem spanDigits_natChars (m : Nat) :
    spanDigits (Decimal.natChars m) = (Decimal.natChars m, []) :=
  spanDigits_of_all fun _ => Decimal.isDigit_of_mem_natChars

theorem numeralSign_natChars (m : Nat) :
    numeralSign (Decimal.natChars m) = (false, Decimal.natChars m) := by
  obtain ⟨d, ds, hEq, hDigit⟩ := Decimal.exists_natChars m
  rw [hEq, numeralSign]
  rintro _ hMinus
  obtain ⟨rfl, -⟩ := List.cons.inj hMinus
  cases hDigit

theorem numeralSign_integerChars (m : Int) :
    numeralSign (integerChars m) = (decide (m < 0), Decimal.natChars m.natAbs) := by
  unfold integerChars
  split
  · rename_i hNegative
    rw [decide_eq_true hNegative]
    rfl
  · rename_i hNegative
    rw [decide_eq_false hNegative, numeralSign_natChars]

theorem scanNumeral_integerChars (m : Int) :
    scanNumeral (integerChars m) = .complete (.ofInt m) [] := by
  have hLeading : Leading (integerChars m) (Decimal.natChars m.natAbs) [] := {
    span := by rw [numeralSign_integerChars, spanDigits_natChars]
    ne_nil := Nat.toDigits_ne_nil
    no_zero := Decimal.natChars_ne_zero_cons _ }
  rw [scanNumeral_of_leading hLeading, numeralSign_integerChars]
  rfl

theorem exists_integerChars (m : Int) :
    ∃ c cs, integerChars m = c :: cs ∧ (c = '-' ∨ c.isDigit) := by
  unfold integerChars
  split
  · exact ⟨'-', _, rfl, .inl rfl⟩
  · obtain ⟨d, ds, hEq, hDigit⟩ := Decimal.exists_natChars m.natAbs
    exact ⟨d, ds, hEq, .inr hDigit⟩

/-- An integer of 64 bits is read as it was written. -/
theorem tokens_integerChars {m : Int} (hFits : FitsWord m) (hMore : Delimited more) :
    tokens (integerChars m ++ more) = .number (some (.whole m)) :: tokens more := by
  obtain ⟨c, cs, hEq, hFirst⟩ := exists_integerChars m
  rw [tokens_append_of_scanNumeral hEq hFirst (scanNumeral_integerChars m) fun _ => hMore,
    value?_ofInt hFits, List.nil_append]

end PlayerSession.Json
