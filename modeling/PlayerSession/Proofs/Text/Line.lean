import Mathlib.Data.List.Basic
import Mathlib.Data.List.TakeWhile
import PlayerSession.Bytes
import PlayerSession.Text.Blank

/-! The text of a line.  Bytes stand for a text exactly when they are its bytes, and a carriage return at
their end is one at the end of the text.  Trimming takes it away, so a line has the same trimmed text
with it and without it. -/

namespace PlayerSession

/-! ### Bytes of texts -/

namespace Bytes

theorem ofText_eq_flatMap (s : String) : ofText s = s.toList.flatMap String.utf8EncodeChar := by
  have hBytes : s.toUTF8 = (s.toList.flatMap String.utf8EncodeChar).toByteArray := by
    rw [String.toUTF8_eq_toByteArray, ← List.utf8Encode, String.utf8Encode_toList]
  rw [ofText, hBytes]
  simp

theorem ofText_append (s t : String) : ofText (s ++ t) = ofText s ++ ofText t := by
  simp only [ofText_eq_flatMap, String.toList_append, List.flatMap_append]

theorem text?_eq_some_iff {bytes : Bytes} {s : String} : bytes.text? = some s ↔ bytes = ofText s := by
  constructor
  · intro h
    unfold text? String.fromUTF8? at h
    split at h
    · rename_i hValid
      cases h
      rfl
    · cases h
  · rintro rfl
    exact text?_ofText s

theorem ofNat_ne_of_ascii {b : UInt8} (hAscii : b.toNat < 0x80) {n : Nat} (hLow : 0x80 ≤ n)
    (hHigh : n < 0x100) : b ≠ UInt8.ofNat n := by
  rintro rfl
  rw [UInt8.toNat_ofNat'] at hAscii
  omega

/-- A byte below 128 is found in no character but the one that has this byte alone. -/
theorem eq_of_mem_utf8EncodeChar {c : Char} {b : UInt8} (hMem : b ∈ String.utf8EncodeChar c)
    (hAscii : b.toNat < 0x80) : c.toNat = b.toNat ∧ String.utf8EncodeChar c = [b] := by
  simp only [String.utf8EncodeChar] at hMem ⊢
  split at hMem
  · rename_i hLow
    rw [List.mem_singleton] at hMem
    rw [if_pos hLow, hMem, UInt8.toNat_ofNat']
    exact ⟨(Nat.mod_eq_of_lt (show c.val.toNat < 0x100 by omega)).symm, rfl⟩
  · -- every byte of a longer character has its highest bit set
    exfalso
    split at hMem
    · simp only [List.mem_cons, List.not_mem_nil, or_false] at hMem
      rcases hMem with h | h
      all_goals exact ofNat_ne_of_ascii hAscii (by omega) (by omega) h
    · split at hMem
      · simp only [List.mem_cons, List.not_mem_nil, or_false] at hMem
        rcases hMem with h | h | h
        all_goals exact ofNat_ne_of_ascii hAscii (by omega) (by omega) h
      · simp only [List.mem_cons, List.not_mem_nil, or_false] at hMem
        rcases hMem with h | h | h | h
        all_goals exact ofNat_ne_of_ascii hAscii (by omega) (by omega) h

/-- The bytes of no character but the carriage return end with its byte. -/
theorem eq_return_of_utf8EncodeChar {c : Char} {front : Bytes}
    (h : String.utf8EncodeChar c = front ++ [13]) : c = '\r' ∧ front = [] := by
  have hMem : (13 : UInt8) ∈ String.utf8EncodeChar c := h ▸ List.mem_append_right _ List.mem_cons_self
  obtain ⟨hValue, hBytes⟩ := eq_of_mem_utf8EncodeChar hMem (by decide)
  rw [h] at hBytes
  exact ⟨Char.toNat_inj.mp hValue, List.append_left_eq_self.mp hBytes⟩

theorem newline_not_mem_ofText {s : String} (h : '\n' ∉ s.toList) : 10 ∉ ofText s := by
  rw [ofText_eq_flatMap, List.mem_flatMap]
  rintro ⟨c, hChar, hByte⟩
  obtain ⟨hValue, -⟩ := eq_of_mem_utf8EncodeChar hByte (by decide)
  obtain rfl : c = '\n' := Char.toNat_inj.mp hValue
  exact h hChar

/-- Bytes with a carriage return behind them stand for the text with a carriage return behind it. -/
theorem text?_concat_return (bytes : Bytes) :
    text? (bytes ++ [13]) = bytes.text?.map (· ++ "\r") := by
  refine Option.ext fun s => ?_
  rw [Option.map_eq_some_iff, text?_eq_some_iff]
  constructor
  · intro h
    rw [ofText_eq_flatMap] at h
    rcases List.eq_nil_or_concat' s.toList with hNil | ⟨front, last, hSplit⟩
    · rw [hNil] at h
      simp at h
    · -- the last byte is one of the last character, which is then the carriage return
      obtain ⟨initial, byte, hLast⟩ :=
        (List.eq_nil_or_concat' (String.utf8EncodeChar last)).resolve_left
          String.utf8EncodeChar_ne_nil
      rw [hSplit, List.flatMap_append, List.flatMap_singleton, hLast, ← List.append_assoc] at h
      obtain ⟨rfl, hByte⟩ := List.append_inj' h rfl
      rw [← List.singleton_inj.mp hByte] at hLast
      obtain ⟨rfl, rfl⟩ := eq_return_of_utf8EncodeChar hLast
      refine ⟨String.ofList front, ?_, ?_⟩
      · rw [text?_eq_some_iff, ofText_eq_flatMap, String.toList_ofList, List.append_nil]
      · rw [← String.ofList_toList (s := s), hSplit, String.ofList_append]
  · rintro ⟨t, ht, rfl⟩
    rw [text?_eq_some_iff.mp ht, ofText_append]
    rfl

end Bytes

/-! ### Trimmed texts -/

namespace Text

theorem trim_of_blank {s : String} (h : Blank s) : trim s = "" := by
  have hDrop : s.toList.dropWhile isBlank = [] := List.dropWhile_eq_nil_iff.mpr h
  rw [trim, trimBlank, hDrop]
  rfl

theorem trim_eq_empty_iff {s : String} : trim s = "" ↔ Blank s := by
  constructor
  · intro h
    rw [trim, String.ofList_eq_empty_iff, trimBlank, List.reverse_eq_nil_iff,
      List.dropWhile_eq_nil_iff] at h
    apply List.dropWhile_eq_nil_iff.mp
    -- what begins behind the leading white space begins with something else
    by_contra hNe
    have hHead := List.head_dropWhile_not isBlank hNe
    rw [h _ (List.mem_reverse.mpr (List.head_mem hNe))] at hHead
    cases hHead
  · exact trim_of_blank

theorem isBlank_eq_false_of_isDigit {c : Char} (h : c.isDigit) : isBlank c = false := by
  simp only [Char.isDigit, ge_iff_le, Bool.and_eq_true, decide_eq_true_eq,
    UInt32.le_iff_toNat_le] at h
  have hLow : 48 ≤ c.toNat := h.1
  have hHigh : c.toNat ≤ 57 := h.2
  simp only [isBlank, Bool.or_eq_false_iff, Bool.and_eq_false_iff, decide_eq_false_iff_not,
    beq_eq_false_iff_ne]
  omega

/-- Trimming takes the white space at both ends away, down to characters that are none. -/
theorem trimBlank_of_padded {left cs right : List Char} (hLeft : ∀ c ∈ left, isBlank c)
    (hRight : ∀ c ∈ right, isBlank c) (hFirst : ∀ c ∈ cs.head?, isBlank c = false)
    (hLast : ∀ c ∈ cs.getLast?, isBlank c = false) : trimBlank (left ++ cs ++ right) = cs := by
  have hReverse : ∀ c ∈ right.reverse, isBlank c := fun c hMem => hRight c (List.mem_reverse.mp hMem)
  rw [trimBlank, List.append_assoc, List.dropWhile_append_of_pos hLeft]
  cases cs with
  | nil =>
    rw [List.nil_append, List.dropWhile_eq_nil_iff.mpr hRight]
    rfl
  | cons first cs =>
    rw [List.cons_append, List.dropWhile_cons_of_neg (by simp [hFirst first rfl]), ← List.cons_append,
      List.reverse_append, List.dropWhile_append_of_pos hReverse]
    cases hEnd : (first :: cs).reverse with
    | nil => simp at hEnd
    | cons last back =>
      have hBlank : isBlank last = false := hLast last (by rw [List.getLast?_eq_head?_reverse, hEnd]; rfl)
      rw [List.dropWhile_cons_of_neg (by simp [hBlank]), ← hEnd, List.reverse_reverse]

theorem trim_of_padded {left s right : String} (hLeft : Blank left) (hRight : Blank right)
    (hFirst : ∀ c ∈ s.toList.head?, isBlank c = false)
    (hLast : ∀ c ∈ s.toList.getLast?, isBlank c = false) : trim (left ++ s ++ right) = s := by
  rw [trim, String.toList_append, String.toList_append, trimBlank_of_padded hLeft hRight hFirst hLast,
    String.ofList_toList]

/-- A text with no white space at either end is trimmed already. -/
theorem trim_of_not_blank {first last : Char} (hFirst : isBlank first = false)
    (hLast : isBlank last = false) (cs : List Char) :
    trim (String.ofList (first :: (cs ++ [last]))) = String.ofList (first :: (cs ++ [last])) := by
  have hNone : ∀ c ∈ ([] : List Char), isBlank c := by simp
  have hTrim : trimBlank ([] ++ first :: (cs ++ [last]) ++ []) = first :: (cs ++ [last]) :=
    trimBlank_of_padded hNone hNone (by simpa using hFirst) (by simpa [List.getLast?_cons] using hLast)
  rw [List.nil_append, List.append_nil] at hTrim
  rw [trim, String.toList_ofList, hTrim]

theorem blank_append_return {s : String} : Blank (s ++ "\r") ↔ Blank s := by
  have hReturn : isBlank '\r' = true := by decide
  simp [Blank, or_imp, forall_and, hReturn]

theorem trim_append_return (s : String) : trim (s ++ "\r") = trim s := by
  have hReturn : isBlank '\r' = true := by decide
  have hList : (s ++ "\r").toList = s.toList ++ ['\r'] := String.toList_append
  rw [trim, trim, hList, trimBlank, trimBlank, List.dropWhile_append]
  split
  · rename_i hNil
    rw [List.isEmpty_iff.mp hNil]
    simp [hReturn]
  · rw [List.reverse_append]
    simp [hReturn]

end Text

end PlayerSession
