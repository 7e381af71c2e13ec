/-! Cutting a list at every occurrence of a separator.  No piece holds the separator, and the pieces
with separators between them are the list again. -/

namespace PlayerSession.Text

/-- The pieces between the occurrences of `sep`, one more than there are occurrences. -/
def pieces {α : Type} [DecidableEq α] (sep : α) : List α → List (List α)
  | [] => [[]]
  | a :: rest =>
    if a = sep then [] :: pieces sep rest
    else
      match pieces sep rest with
      | [] => [[a]]
      | first :: more => (a :: first) :: more

theorem pieces_ne_nil {α : Type} [DecidableEq α] (sep : α) (as : List α) : pieces sep as ≠ [] := by
  cases as with
  | nil => simp [pieces]
  | cons a rest =>
    simp only [pieces]
    split
    · simp
    · split <;> simp

theorem not_mem_of_mem_pieces {α : Type} [DecidableEq α] {sep : α} {as piece : List α}
    (h : piece ∈ pieces sep as) : sep ∉ piece := by
  induction as generalizing piece with
  | nil => simp_all [pieces]
  | cons a rest ih =>
    simp only [pieces] at h
    split at h
    · rcases List.mem_cons.mp h with rfl | h
      · simp
      · exact ih h
    · rename_i hne
      split at h
      · exact absurd ‹pieces sep rest = []› (pieces_ne_nil sep rest)
      · rename_i first more hEq
        rcases List.mem_cons.mp h with rfl | h
        · have : sep ∉ first := ih (by rw [hEq]; exact List.mem_cons_self)
          simp only [List.mem_cons, not_or]
          exact ⟨fun he => hne he.symm, this⟩
        · exact ih (by rw [hEq]; exact List.mem_cons_of_mem _ h)

/-- The pieces hold everything but the separators. -/
theorem intercalate_pieces {α : Type} [DecidableEq α] (sep : α) (as : List α) :
    [sep].intercalate (pieces sep as) = as := by
  induction as with
  | nil => simp [pieces]
  | cons a rest ih =>
    obtain ⟨first, more, hEq⟩ := List.exists_cons_of_ne_nil (pieces_ne_nil sep rest)
    rw [hEq] at ih
    simp only [pieces, hEq]
    split
    · rename_i hSep
      rw [List.intercalate_cons_cons, ih, hSep]
      rfl
    · cases more with
      | nil => simpa using ih
      | cons second more =>
        rw [List.intercalate_cons_cons] at ih ⊢
        rw [List.cons_append, List.cons_append, ih]

/-- The pieces of a text between the occurrences of a character. -/
def split (sep : Char) (s : String) : List String := (pieces sep s.toList).map String.ofList

end PlayerSession.Text
