import PlayerSession.Proofs.Decimal.Shortest
import PlayerSession.Proofs.Json.Numerals
import PlayerSession.Proofs.Json.Reading

/-! Doubles as they are written and as they are read.  A finite double is written as a number and nothing
else: digits without a zero in front of others, a fraction, and perhaps an exponent.  It is written in the
fewest digits that tell it from its neighbours, and read with one multiplication or division that may
round, so its text need not read back as the same double. -/

namespace PlayerSession.Json

variable {n : Numeral} {ds more tail : List Char}

/-- The text of a double reads back as the double. -/
def ReadsBack (x : Float) : Prop := decode Doc.asReal (Value.real x).render = .ok x

/-- The number that the text of a double is read as. -/
def realNumber (x : Float) : Option Number :=
  match scanNumeral (realChars x) with
  | .complete n _ => n.value?
  | .broken _ => none

/-! ### The parts of a number -/

/-- What may stand behind the first digits of a number and brings it to its end. -/
structure Completes (tail : List Char) : Prop where
  head : ∀ c ∈ tail.head?, c.isDigit = false
  scan : ∀ n, ∃ found, scanFraction n tail = .complete found []

/-- Digits that may stand in front of the point. -/
structure Whole (ds : List Char) : Prop where
  digits : ∀ c ∈ ds, c.isDigit
  ne_nil : ds ≠ []
  no_zero : ∀ d rest, ds ≠ '0' :: d :: rest

theorem scanFraction_point (hDigits : ∀ c ∈ ds, c.isDigit) (hNonempty : ds ≠ [])
    (hTail : ∀ c ∈ tail.head?, c.isDigit = false) :
    scanFraction n ('.' :: (ds ++ tail)) = scanExponent { n with fraction := ds } tail := by
  rw [scanFraction, spanDigits_append (spanDigits_of_all hDigits) fun _ => hTail]
  cases ds with
  | nil => exact absurd rfl hNonempty
  | cons d ds => rfl

theorem scanExponent_signedExponent (n : Numeral) (e : Int) :
    ∃ found, scanExponent n ('e' :: Decimal.signedExponent e) = .complete found [] := by
  obtain ⟨d, ds, hEq, -⟩ := Decimal.exists_natChars e.natAbs
  have hSpan := spanDigits_natChars e.natAbs
  rw [hEq] at hSpan
  have hSigned : ∀ sign, (exponentSign (sign :: d :: ds)).2 = d :: ds →
      ∃ found, scanExponent n ('e' :: sign :: d :: ds) = .complete found [] := by
    intro sign hSign
    rw [scanExponent, if_pos (.inl rfl)]
    dsimp only
    rw [hSign, hSpan]
    exact ⟨_, rfl⟩
  unfold Decimal.signedExponent
  rw [hEq]
  split
  · exact hSigned '-' rfl
  · exact hSigned '+' rfl

theorem completes_point (hDigits : ∀ c ∈ ds, c.isDigit) (hNonempty : ds ≠ []) :
    Completes ('.' :: ds) where
  head := by
    rintro _ ⟨⟩
    rfl
  scan n := by
    have hScan : scanFraction n ('.' :: (ds ++ [])) = scanExponent { n with fraction := ds } [] :=
      scanFraction_point hDigits hNonempty nofun
    rw [List.append_nil] at hScan
    exact ⟨_, hScan⟩

theorem completes_exponent (e : Int) : Completes ('e' :: Decimal.signedExponent e) where
  head := by
    rintro _ ⟨⟩
    rfl
  scan n := scanExponent_signedExponent n e

theorem completes_point_exponent (hDigits : ∀ c ∈ ds, c.isDigit) (hNonempty : ds ≠ []) (e : Int) :
    Completes ('.' :: (ds ++ 'e' :: Decimal.signedExponent e)) where
  head := by
    rintro _ ⟨⟩
    rfl
  scan n := by
    rw [scanFraction_point hDigits hNonempty (completes_exponent e).head]
    exact scanExponent_signedExponent _ e

theorem scanNumeral_of_parts {sign : List Char} (hSign : sign = [] ∨ sign = ['-']) (hWhole : Whole ds)
    (hTail : Completes tail) : ∃ found, scanNumeral (sign ++ (ds ++ tail)) = .complete found [] := by
  have hUnsigned : (numeralSign (sign ++ (ds ++ tail))).2 = ds ++ tail := by
    rcases hSign with rfl | rfl
    · obtain ⟨d, ds', hEq⟩ := List.exists_cons_of_ne_nil hWhole.ne_nil
      have hDigit : d.isDigit := hWhole.digits d (hEq ▸ List.mem_cons_self)
      rw [hEq, List.nil_append, List.cons_append, numeralSign]
      rintro _ hMinus
      obtain ⟨rfl, -⟩ := List.cons.inj hMinus
      cases hDigit
    · rfl
  have hLeading : Leading (sign ++ (ds ++ tail)) ds tail := {
    span := by
      rw [hUnsigned, spanDigits_append (spanDigits_of_all hWhole.digits) fun _ => hTail.head,
        List.nil_append]
    ne_nil := hWhole.ne_nil
    no_zero := hWhole.no_zero }
  rw [scanNumeral_of_leading hLeading]
  exact hTail.scan _

/-! ### The text of a double -/

theorem whole_digit {d : Char} (h : d.isDigit) : Whole [d] where
  digits := List.forall_mem_singleton.mpr h
  ne_nil := List.cons_ne_nil d []
  no_zero := nofun

theorem digit_of_mem_replicate {c : Char} {m : Nat} (h : c ∈ List.replicate m '0') : c.isDigit :=
  List.eq_of_mem_replicate h ▸ rfl

/-- The digits in front of the point, where the first stands for a multiple of `10 ^ places`. -/
theorem whole_positional {digits places : Nat} (hZero : digits = 0 → places = 0) :
    Whole ((Decimal.natChars digits).take (places + 1) ++
      List.replicate (places + 1 - (Decimal.natChars digits).length) '0') := by
  obtain ⟨d, ds, hEq, -⟩ := Decimal.exists_natChars digits
  constructor
  · intro c hMem
    rcases List.mem_append.mp hMem with hDigits | hZeros
    · exact Decimal.isDigit_of_mem_natChars (List.mem_of_mem_take hDigits)
    · exact digit_of_mem_replicate hZeros
  · rw [hEq]
    exact List.cons_ne_nil _ _
  · intro d' rest hDigits
    cases digits with
    | zero =>
      rw [hZero rfl] at hDigits
      cases hDigits
    | succ digits =>
      have hHead := Decimal.head?_natChars (Nat.succ_pos digits)
      rw [hEq, List.take_succ_cons, List.cons_append] at hDigits
      rw [hEq, (List.cons.inj hDigits).1] at hHead
      exact hHead rfl

theorem exists_positional_parts {digits : Nat} {magnitude : Int} (hZero : digits = 0 → magnitude ≤ 0) :
    ∃ whole fraction, Decimal.positional (Decimal.natChars digits) magnitude =
        whole ++ '.' :: fraction ∧ Whole whole ∧ (∀ c ∈ fraction, c.isDigit) ∧ fraction ≠ [] := by
  have hDigits : ∀ c ∈ Decimal.natChars digits, c.isDigit := fun _ =>
    Decimal.isDigit_of_mem_natChars
  unfold Decimal.positional
  split
  · refine ⟨['0'], List.replicate (-magnitude - 1).toNat '0' ++ Decimal.natChars digits, rfl,
      whole_digit rfl, ?_, ?_⟩
    · intro c hMem
      rcases List.mem_append.mp hMem with hZeros | hRest
      · exact digit_of_mem_replicate hZeros
      · exact hDigits c hRest
    · exact List.append_ne_nil_of_right_ne_nil _ Nat.toDigits_ne_nil
  · rename_i hLarge
    dsimp only
    have hPlaces : digits = 0 → magnitude.toNat = 0 := by omega
    refine ⟨_, _, List.append_assoc _ ['.'] _, whole_positional hPlaces, ?_, ?_⟩
    · split
      · exact List.forall_mem_singleton.mpr rfl
      · exact fun c hMem => hDigits c (List.mem_of_mem_drop hMem)
    · split
      · exact List.cons_ne_nil _ _
      · assumption

theorem exists_scientific_parts (digits : Nat) (magnitude : Int) :
    ∃ whole tail, Decimal.scientific (Decimal.natChars digits) magnitude = whole ++ tail ∧
      Whole whole ∧ Completes tail := by
  obtain ⟨d, ds, hEq, hDigit⟩ := Decimal.exists_natChars digits
  rw [hEq]
  cases ds with
  | nil => exact ⟨[d], _, rfl, whole_digit hDigit, completes_exponent magnitude⟩
  | cons d' ds =>
    have hRest : ∀ c ∈ d' :: ds, c.isDigit := fun c hMem =>
      Decimal.isDigit_of_mem_natChars (hEq ▸ List.mem_cons_of_mem d hMem)
    refine ⟨[d], _, ?_, whole_digit hDigit,
      completes_point_exponent hRest (List.cons_ne_nil d' ds) magnitude⟩
    simp [Decimal.scientific]

theorem exists_chars_parts {s : Decimal.Scientific} (hZero : s.digits = 0 → s.exponent ≤ 0) :
    ∃ whole tail, s.chars .standard = whole ++ tail ∧ Whole whole ∧ Completes tail := by
  unfold Decimal.Scientific.chars
  dsimp only
  split
  · have hMagnitude : s.digits = 0 →
        s.exponent + ((Decimal.natChars s.digits).length : Int) - 1 ≤ 0 := by
      intro hDigits
      have hExponent := hZero hDigits
      rw [hDigits]
      show s.exponent + 1 - 1 ≤ 0
      omega
    obtain ⟨whole, fraction, hParts, hWhole, hFraction, hNonempty⟩ :=
      exists_positional_parts hMagnitude
    exact ⟨whole, _, hParts, hWhole, completes_point hFraction hNonempty⟩
  · exact exists_scientific_parts _ _

/-- The text of a double is a number and nothing else. -/
theorem scanNumeral_floatChars (x : Float) :
    ∃ n, scanNumeral (Decimal.floatChars x) = .complete n [] := by
  have hParts : ∃ whole tail, (if x == 0 then ['0', '.', '0'] else
      (Decimal.Binary.ofFloat x).shortest.chars .standard) = whole ++ tail ∧
        Whole whole ∧ Completes tail := by
    split
    · exact ⟨['0'], ['.', '0'], rfl, whole_digit rfl,
        completes_point (List.forall_mem_singleton.mpr rfl) (List.cons_ne_nil _ _)⟩
    · exact exists_chars_parts Decimal.exponent_shortest_of_zero
  obtain ⟨whole, tail, hEq, hWhole, hTail⟩ := hParts
  unfold Decimal.floatChars
  dsimp only
  rw [hEq]
  split
  · exact scanNumeral_of_parts (.inr rfl) hWhole hTail
  · exact scanNumeral_of_parts (.inl rfl) hWhole hTail

/-! ### Tokens -/

/-- The token that a double is written as. -/
def realToken (x : Float) : Token := if x.isFinite then .number (realNumber x) else .null

theorem tokens_null (more : List Char) :
    tokens (['n', 'u', 'l', 'l'] ++ more) = .null :: tokens more := by
  rw [List.cons_append, tokens]
  rfl

/-- A double is read as one token, whatever stands behind it. -/
theorem tokens_realChars (x : Float) (hMore : Delimited more) :
    tokens (realChars x ++ more) = realToken x :: tokens more := by
  unfold realToken
  split
  · rename_i hFinite
    have hChars : realChars x = Decimal.floatChars x := if_pos hFinite
    obtain ⟨n, hScan⟩ := scanNumeral_floatChars x
    obtain ⟨c, cs, hEq, hFirst⟩ := Decimal.exists_floatChars x
    rw [realNumber, hChars, tokens_append_of_scanNumeral hEq hFirst hScan fun _ => hMore, hScan,
      List.nil_append]
  · rename_i hInfinite
    have hChars : realChars x = ['n', 'u', 'l', 'l'] := if_neg hInfinite
    rw [hChars, tokens_null]

end PlayerSession.Json
