import PlayerSession.Json.Value
import PlayerSession.Proofs.Decimal.Digits

/-! The characters that values are written in.  Control characters are written as escapes, and numbers in
digits and signs, so there is no control character in the text of a value, and above all no line
end. -/

namespace PlayerSession.Json

/-- A character that is no control character below the blank. -/
def isPrintable (c : Char) : Bool := 0x20 ≤ c.toNat

theorem isPrintable_of_isNumeralChar {c : Char} (h : Decimal.isNumeralChar c) : isPrintable c := by
  simp only [Decimal.isNumeralChar, Bool.or_eq_true, decide_eq_true_eq] at h
  rcases h with (((hDigit | rfl) | rfl) | rfl) | rfl
  · simp only [Char.isDigit, Bool.and_eq_true, decide_eq_true_eq] at hDigit
    have hLow : 48 ≤ c.toNat := hDigit.1
    exact decide_eq_true (by omega)
  all_goals rfl

theorem all_printable_of_numeral {cs : List Char} (h : cs.all Decimal.isNumeralChar) :
    cs.all isPrintable :=
  List.all_eq_true.mpr fun c hc => isPrintable_of_isNumeralChar (List.all_eq_true.mp h c hc)

theorem all_hexDigits {n : Nat} (h : n < 0x20) :
    [hexDigit (n / 16), hexDigit (n % 16)].all isPrintable := by
  have hAll : ∀ m < 0x20, [hexDigit (m / 16), hexDigit (m % 16)].all isPrintable := by decide
  exact hAll n h

theorem all_escapedChar (c : Char) : (escapedChar c).all isPrintable := by
  unfold escapedChar
  iterate 7
    split
    · rfl
  split
  · rename_i hControl
    exact all_hexDigits hControl
  · rename_i hPrintable
    simpa [isPrintable] using hPrintable

theorem all_textChars (s : String) : (textChars s).all isPrintable := by
  rw [textChars, List.all_cons, List.all_append, List.all_flatMap]
  have hChars : (s.toList.all fun c => (escapedChar c).all isPrintable) :=
    List.all_eq_true.mpr fun c _ => all_escapedChar c
  rw [hChars]
  rfl

theorem all_integerChars (n : Int) : (integerChars n).all isPrintable := by
  have hDigits := all_printable_of_numeral (Decimal.all_natChars n.natAbs)
  unfold integerChars
  split
  · rw [List.all_cons, hDigits]
    rfl
  · exact hDigits

theorem all_realChars (x : Float) : (realChars x).all isPrintable := by
  unfold realChars
  split
  · exact all_printable_of_numeral (Decimal.all_floatChars x)
  · rfl

mutual

/-- No control character is written. -/
theorem Value.all_chars (v : Value) : v.chars.all isPrintable := by
  match v with
  | .null => rfl
  | .boolean b => cases b <;> rfl
  | .integer n =>
    rw [Value.chars]
    exact all_integerChars n
  | .real x =>
    rw [Value.chars]
    exact all_realChars x
  | .text s =>
    rw [Value.chars]
    exact all_textChars s
  | .array items =>
    rw [Value.chars, List.all_cons, List.all_append, all_itemsChars items]
    rfl
  | .object members =>
    rw [Value.chars, List.all_cons, List.all_append, all_membersChars members]
    rfl

theorem all_itemsChars (items : List Value) : (itemsChars items).all isPrintable := by
  match items with
  | [] => rfl
  | [v] =>
    rw [itemsChars]
    exact Value.all_chars v
  | v :: v' :: rest =>
    rw [itemsChars, List.all_append, List.all_cons, Value.all_chars v, all_itemsChars (v' :: rest)]
    rfl

theorem all_membersChars (members : List (String × Value)) :
    (membersChars members).all isPrintable := by
  match members with
  | [] => rfl
  | [(name, v)] =>
    rw [membersChars, List.all_append, List.all_cons, all_textChars, Value.all_chars v]
    rfl
  | (name, v) :: m :: rest =>
    rw [membersChars, List.all_append, List.all_cons, List.all_append, List.all_cons, all_textChars,
      Value.all_chars v, all_membersChars (m :: rest)]
    rfl

end

theorem newline_not_mem_render (v : Value) : '\n' ∉ v.render.toList := by
  rw [Value.render, String.toList_ofList]
  intro hMem
  cases List.all_eq_true.mp v.all_chars '\n' hMem

end PlayerSession.Json
