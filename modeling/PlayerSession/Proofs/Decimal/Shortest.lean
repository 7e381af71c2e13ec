import PlayerSession.Decimal.Shortest

/-! The shortest decimal of a double and zero.  No interval of a double other than zero holds zero, so
the shortest decimal has the digit zero alone only where it is read off the grid far below one, or where
there is none.  Its text then has no zero in front of another digit. -/

namespace PlayerSession.Decimal

/-! ### Trailing zeros -/

theorem strip_of_zero {s : Scientific} (h : s.digits = 0) : s.strip = s := by
  rw [Scientific.strip, dif_neg fun hBoth => hBoth.1 h]

theorem digits_strip_ne_zero {s : Scientific} (h : s.digits ≠ 0) : s.strip.digits ≠ 0 := by
  fun_induction Scientific.strip s with
  | case1 s hZeros ih =>
    obtain ⟨hDigits, hLast⟩ := hZeros
    refine ih ?_
    show s.digits / 10 ≠ 0
    omega
  | case2 => exact h

/-! ### Intervals -/

theorem Ratio.num_scaled_pos {n base : Nat} (hNumber : 0 < n) (hBase : 0 < base) (exponent : Int) :
    0 < (Ratio.scaled n base exponent).num := by
  unfold Ratio.scaled
  split
  · exact Nat.mul_pos hNumber (Nat.pow_pos hBase)
  · exact hNumber

theorem Ratio.den_scaled_pos {n base : Nat} (hBase : 0 < base) (exponent : Int) :
    0 < (Ratio.scaled n base exponent).den := by
  unfold Ratio.scaled
  split
  · exact Nat.one_pos
  · exact Nat.pow_pos hBase

theorem low_interval_pos {b : Binary} (h : 0 < b.mantissa) (k : Int) : 0 < (b.interval k).low := by
  have hFactor : 0 < (Ratio.scaled 1 2 (b.exponent - 2)).num * (Ratio.scaled 1 10 k).den :=
    Nat.mul_pos (Ratio.num_scaled_pos Nat.one_pos (by decide) _) (Ratio.den_scaled_pos (by decide) _)
  have hBelow : 0 < 4 * b.mantissa - if b.lowest then 1 else 2 := by
    split <;> omega
  exact Nat.mul_pos hBelow hFactor

theorem not_contains_zero {i : Interval} (h : 0 < i.low) : i.contains 0 = false := by
  unfold Interval.contains
  split
  · simp [Nat.not_le.mpr h]
  · simp

theorem contains_of_nearest? {i : Interval} {n : Nat} (h : i.nearest? = some n) :
    i.contains n = true := by
  unfold Interval.nearest? at h
  dsimp only at h
  split at h
  · rename_i hFloor hNext
    split at h
    · cases h
      exact hFloor
    · cases h
      exact hNext
  · rename_i hFloor _
    cases h
    exact hFloor
  · rename_i _ hNext
    cases h
    exact hNext
  · cases h

theorem magnitude_of_zero {b : Binary} (h : b.mantissa = 0) : b.magnitude = -400 := by
  have hNum : (Ratio.scaled b.mantissa 2 b.exponent).num = 0 := by
    rw [h]
    unfold Ratio.scaled
    split
    · exact Nat.zero_mul _
    · rfl
  unfold Binary.magnitude
  generalize Nat.pow 10 400 = scale
  dsimp only
  rw [hNum, Nat.zero_mul, Nat.zero_div]
  rfl

/-- Where the shortest decimal has the digit zero alone, it is not above one. -/
theorem exponent_shortest_of_zero {b : Binary} (h : b.shortest.digits = 0) :
    b.shortest.exponent ≤ 0 := by
  unfold Binary.shortest at h ⊢
  dsimp only at h ⊢
  cases hGrid : (List.range 17).findSome? fun places : Nat =>
      ((b.interval (b.magnitude - places)).nearest?.map fun digits =>
        (⟨digits, b.magnitude - places⟩ : Scientific)) with
  | none =>
    rw [Option.getD_none]
    exact Int.le_of_eq (congrArg Scientific.exponent (strip_of_zero rfl))
  | some s =>
    rw [hGrid, Option.getD_some] at h
    have hDigits : s.digits = 0 := Classical.byContradiction fun hNe => digits_strip_ne_zero hNe h
    rw [Option.getD_some, strip_of_zero hDigits]
    obtain ⟨places, -, hPlaces⟩ := List.exists_of_findSome?_eq_some hGrid
    obtain ⟨digits, hNearest, rfl⟩ := Option.map_eq_some_iff.mp hPlaces
    have hZero : b.mantissa = 0 := by
      refine Nat.eq_zero_of_not_pos fun hPos => ?_
      have hContains := contains_of_nearest? hNearest
      rw [show digits = 0 from hDigits, not_contains_zero (low_interval_pos hPos _)] at hContains
      cases hContains
    show b.magnitude - places ≤ 0
    rw [magnitude_of_zero hZero]
    omega

end PlayerSession.Decimal
