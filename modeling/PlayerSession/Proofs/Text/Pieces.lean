import Mathlib.Data.List.Basic
import PlayerSession.Text.Pieces

/-! Cutting a list at a separator, part by part: a separator between two parts keeps their pieces apart,
and a part without one is a single piece. -/

namespace PlayerSession.Text

variable {α : Type} [DecidableEq α] (sep : α)

theorem pieces_append_cons (as bs : List α) :
    pieces sep (as ++ sep :: bs) = pieces sep as ++ pieces sep bs := by
  induction as with
  | nil => simp [pieces]
  | cons a as ih =>
    obtain ⟨first, more, hEq⟩ := List.exists_cons_of_ne_nil (pieces_ne_nil sep as)
    rw [hEq] at ih
    by_cases hSep : a = sep
    · simp [pieces, hSep, ih, hEq]
    · simp [pieces, hSep, ih, hEq]

theorem length_pieces (as : List α) : (pieces sep as).length = as.count sep + 1 := by
  induction as with
  | nil => rfl
  | cons a as ih =>
    obtain ⟨first, more, hEq⟩ := List.exists_cons_of_ne_nil (pieces_ne_nil sep as)
    rw [hEq] at ih
    by_cases hSep : a = sep
    · simp [pieces, hSep, hEq, ih]
    · simpa [pieces, hSep, hEq, List.count_cons] using ih

variable {sep}

theorem pieces_of_not_mem {as : List α} (h : sep ∉ as) : pieces sep as = [as] := by
  induction as with
  | nil => rfl
  | cons a as ih =>
    obtain ⟨hHead, hTail⟩ := not_or.mp (List.mem_cons.not.mp h)
    rw [pieces, if_neg (Ne.symm hHead), ih hTail]

end PlayerSession.Text
