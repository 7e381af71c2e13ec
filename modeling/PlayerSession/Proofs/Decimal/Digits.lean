import PlayerSession.Decimal.Layout

/-! The characters of numbers.  A natural number is written in digits, without a zero in front of
others.  A double is written in digits with a sign, a point and an exponent among them, and begins with
its sign or with a digit. -/

namespace PlayerSession.Decimal

variable {n : Nat} {c : Char}

theorem isDigit_of_mem_natChars (h : c ∈ natChars n) : c.isDigit :=
  Nat.isDigit_of_mem_toDigits (by decide) (by decide) h

theorem exists_natChars (n : Nat) : ∃ d ds, natChars n = d :: ds ∧ d.isDigit := by
  obtain ⟨d, ds, hEq⟩ := List.exists_cons_of_ne_nil (Nat.toDigits_ne_nil : natChars n ≠ [])
  exact ⟨d, ds, hEq, isDigit_of_mem_natChars (hEq ▸ List.mem_cons_self)⟩

theorem head?_natChars (h : 0 < n) : (natChars n).head? ≠ some '0' := by
  induction n using Nat.strongRecOn with
  | ind n ih =>
    rw [natChars, Nat.toDigits_eq_if (by decide)]
    split
    · rename_i hSmall
      have hAll : ∀ m < 10, 0 < m → [m.digitChar].head? ≠ some '0' := by decide
      exact hAll n hSmall h
    · rename_i hLarge
      obtain ⟨d, ds, hEq, -⟩ := exists_natChars (n / 10)
      have hHead := ih (n / 10) (by omega) (by omega)
      rw [hEq] at hHead
      rw [← natChars, hEq]
      exact hHead

/-- No zero stands in front of another digit. -/
theorem natChars_ne_zero_cons (n : Nat) (d : Char) (ds : List Char) : natChars n ≠ '0' :: d :: ds := by
  intro h
  cases n with
  | zero => cases h
  | succ n =>
    have hHead := head?_natChars (Nat.succ_pos n)
    rw [h] at hHead
    exact hHead rfl

/-! ### Doubles -/

/-- The characters that numbers are written in. -/
def isNumeralChar (c : Char) : Bool := c.isDigit || c = '-' || c = '+' || c = '.' || c = 'e'

theorem isNumeralChar_of_digit (h : c.isDigit) : isNumeralChar c := by
  simp [isNumeralChar, h]

theorem all_natChars (n : Nat) : (natChars n).all isNumeralChar :=
  List.all_eq_true.mpr fun _ h => isNumeralChar_of_digit (isDigit_of_mem_natChars h)

theorem all_replicate_zero (n : Nat) : (List.replicate n '0').all isNumeralChar :=
  List.all_eq_true.mpr fun _ h => List.eq_of_mem_replicate h ▸ rfl

section Layouts

variable {ds : List Char} (hDigits : ds.all isNumeralChar) (magnitude : Int)

include hDigits

theorem all_positional : (positional ds magnitude).all isNumeralChar := by
  have hSub : ∀ part : List Char, part.Sublist ds → part.all isNumeralChar := fun part hPart =>
    List.all_eq_true.mpr fun c hc => List.all_eq_true.mp hDigits c (hPart.mem hc)
  unfold positional
  split
  · simp only [List.all_append, all_replicate_zero, hDigits, Bool.and_true]
    rfl
  · have hWhole := hSub (ds.take (magnitude.toNat + 1)) (List.take_sublist _ _)
    have hFraction := hSub (ds.drop (magnitude.toNat + 1)) (List.drop_sublist _ _)
    simp only [List.all_append, hWhole, all_replicate_zero, Bool.true_and]
    split
    · rfl
    · rw [hFraction]
      rfl

theorem all_scientific : (scientific ds magnitude).all isNumeralChar := by
  have hSign : isNumeralChar (if magnitude < 0 then '-' else '+') := by split <;> rfl
  have hExponent : (signedExponent magnitude).all isNumeralChar := by
    rw [signedExponent, List.all_cons, hSign, all_natChars]
    rfl
  unfold scientific
  rw [List.all_append, List.all_append, hExponent, Bool.and_true]
  split
  · rfl
  · rw [hDigits]
    rfl
  · have hPoint : isNumeralChar '.' = true := rfl
    have hMark : isNumeralChar 'e' = true := rfl
    simpa [hPoint, hMark] using hDigits

end Layouts

theorem all_floatChars (x : Float) : (floatChars x).all isNumeralChar := by
  have hChars : ∀ s : Scientific, (s.chars .standard).all isNumeralChar := by
    intro s
    unfold Scientific.chars
    dsimp only
    split
    · exact all_positional (all_natChars _) _
    · exact all_scientific (all_natChars _) _
  unfold floatChars
  dsimp only
  rw [List.all_append]
  have hSign : (if x.toBits.toNat.testBit 63 then ['-'] else []).all isNumeralChar := by split <;> rfl
  rw [hSign, Bool.true_and]
  split
  · rfl
  · exact hChars _

theorem exists_positional (d : Char) (ds : List Char) (hDigit : d.isDigit) (magnitude : Int) :
    ∃ c cs, positional (d :: ds) magnitude = c :: cs ∧ c.isDigit := by
  unfold positional
  split
  · exact ⟨'0', _, rfl, rfl⟩
  · exact ⟨d, _, rfl, hDigit⟩

theorem exists_scientific (d : Char) (ds : List Char) (magnitude : Int) :
    ∃ cs, scientific (d :: ds) magnitude = d :: cs := by
  cases ds with
  | nil => exact ⟨_, rfl⟩
  | cons d' ds => exact ⟨_, rfl⟩

/-- A double begins with its sign or with a digit. -/
theorem exists_floatChars (x : Float) : ∃ c cs, floatChars x = c :: cs ∧ (c = '-' ∨ c.isDigit) := by
  have hChars : ∀ s : Scientific, ∃ c cs, s.chars .standard = c :: cs ∧ c.isDigit := by
    intro s
    obtain ⟨d, ds, hEq, hDigit⟩ := exists_natChars s.digits
    unfold Scientific.chars
    dsimp only
    rw [hEq]
    split
    · exact exists_positional d ds hDigit _
    · obtain ⟨cs, hScientific⟩ := exists_scientific d ds
        (s.exponent + ((d :: ds).length : Int) - 1)
      exact ⟨d, cs, hScientific, hDigit⟩
  unfold floatChars
  dsimp only
  split
  · exact ⟨'-', _, rfl, .inl rfl⟩
  · rw [List.nil_append]
    split
    · exact ⟨'0', _, rfl, .inr rfl⟩
    · obtain ⟨c, cs, hEq, hDigit⟩ := hChars (Binary.ofFloat x).shortest
      exact ⟨c, cs, hEq, .inr hDigit⟩

end PlayerSession.Decimal
