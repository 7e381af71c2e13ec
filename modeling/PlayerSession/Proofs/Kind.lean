import PlayerSession.Kind

/-! Tables and their entries.  Entries that come in ascending order are each put at the end, so a table is
rebuilt from its own entries.  No kind has two entries, so a table holds for a kind what its entry
says, and a new entry takes the place of the old one for its kind and of no other. -/

namespace PlayerSession.KindMap

variable {α : Type}

theorem insertEntry_of_last {k : Kind} {v : α} {entries : List (Kind × α)}
    (h : ∀ e ∈ entries, e.1 < k) : insertEntry k v entries = entries ++ [(k, v)] := by
  induction entries with
  | nil => rfl
  | cons head rest ih =>
    obtain ⟨k', v'⟩ := head
    obtain ⟨hHead, hRest⟩ := List.forall_mem_cons.mp h
    have hBelow : ¬ k < k' := String.lt_asymm hHead
    have hNe : k ≠ k' := by
      rintro rfl
      exact String.lt_irrefl _ hHead
    rw [insertEntry, if_neg hBelow, if_neg hNe, ih hRest, List.cons_append]

theorem entries_foldl_insert {m : KindMap α} {entries : List (Kind × α)}
    (h : (m.entries ++ entries).Pairwise fun a b => a.1 < b.1) :
    (entries.foldl (fun m e => m.insert e.1 e.2) m).entries = m.entries ++ entries := by
  induction entries generalizing m with
  | nil => exact (List.append_nil _).symm
  | cons e rest ih =>
    have hLast : ∀ e' ∈ m.entries, e'.1 < e.1 := fun e' hMem =>
      (List.pairwise_append.mp h).2.2 e' hMem e List.mem_cons_self
    have hInsert : (m.insert e.1 e.2).entries = m.entries ++ [e] := insertEntry_of_last hLast
    rw [List.foldl_cons, ih, hInsert, List.append_assoc, List.singleton_append]
    rw [hInsert, List.append_assoc, List.singleton_append]
    exact h

theorem ofList_entries (m : KindMap α) : ofList m.entries = m := by
  refine ext ?_
  rw [ofList, entries_foldl_insert]
  · rfl
  · exact m.ascending

theorem pairwise_keys (m : KindMap α) : m.keys.Pairwise (· < ·) :=
  List.pairwise_map.mpr m.ascending

theorem get?_eq_some_iff {m : KindMap α} {k : Kind} {v : α} :
    m.get? k = some v ↔ (k, v) ∈ m.entries := by
  obtain ⟨entries, hAscending⟩ := m
  show entries.lookup k = some v ↔ (k, v) ∈ entries
  induction entries with
  | nil => simp
  | cons head rest ih =>
    obtain ⟨k', v'⟩ := head
    obtain ⟨hHead, hRest⟩ := List.pairwise_cons.mp hAscending
    by_cases hKind : k = k'
    · subst hKind
      have hAbsent : (k, v) ∉ rest := fun hMem => String.lt_irrefl k (hHead _ hMem)
      simp [hAbsent, eq_comm]
    · have hBeq : (k == k') = false := beq_false_of_ne hKind
      simp [List.lookup_cons, hBeq, hKind, ih hRest]

theorem mem_iff_exists_get? {m : KindMap α} {k : Kind} : k ∈ m ↔ ∃ v, m.get? k = some v := by
  simp [mem_def, keys, get?_eq_some_iff]

/-! ### Entries of a table that was put together -/

variable {m : KindMap α} {entries : List (Kind × α)} {e : Kind × α} {k k' : Kind} {v : α}

theorem nodup_keys (m : KindMap α) : m.keys.Nodup := by
  apply m.pairwise_keys.imp
  rintro k _ hLess rfl
  exact String.lt_irrefl k hLess

theorem mem_entries_insert_iff :
    e ∈ (m.insert k v).entries ↔ e = (k, v) ∨ e.1 ≠ k ∧ e ∈ m.entries := by
  obtain ⟨k', v'⟩ := e
  obtain ⟨entries, hAscending⟩ := m
  show (k', v') ∈ insertEntry k v entries ↔ (k', v') = (k, v) ∨ k' ≠ k ∧ (k', v') ∈ entries
  induction entries with
  | nil => simp [insertEntry]
  | cons head rest ih =>
    obtain ⟨k₀, v₀⟩ := head
    obtain ⟨hHead, hRest⟩ := List.pairwise_cons.mp hAscending
    have hLater : ∀ {k₁ v₁}, (k₁, v₁) ∈ rest → k₁ ≠ k₀ := by
      intro k₁ v₁ hMem hSame
      exact String.lt_irrefl k₀ (hSame ▸ hHead (k₁, v₁) hMem)
    simp only [insertEntry]
    split
    · rename_i hLow
      have hAbove : (k', v') ∈ (k₀, v₀) :: rest → k' ≠ k := by
        rintro hMem rfl
        rcases List.mem_cons.mp hMem with hEq | hMem
        · cases hEq
          exact String.lt_irrefl _ hLow
        · exact String.lt_asymm hLow (hHead _ hMem)
      rw [List.mem_cons]
      exact or_congr_right ⟨fun hMem => ⟨hAbove hMem, hMem⟩, And.right⟩
    · split
      · rename_i hEq
        subst hEq
        simp only [List.mem_cons]
        constructor
        · rintro (h | h)
          · exact .inl h
          · exact .inr ⟨hLater h, .inr h⟩
        · rintro (h | ⟨hNe, h | h⟩)
          · exact .inl h
          · cases h
            exact absurd rfl hNe
          · exact .inr h
      · rename_i hNe
        rw [List.mem_cons, ih hRest, List.mem_cons]
        constructor
        · rintro (h | h | ⟨hOther, h⟩)
          · cases h
            exact .inr ⟨Ne.symm hNe, .inl rfl⟩
          · exact .inl h
          · exact .inr ⟨hOther, .inr h⟩
        · rintro (h | ⟨hOther, h | h⟩)
          · exact .inr (.inl h)
          · exact .inl h
          · exact .inr (.inr ⟨hOther, h⟩)

theorem mem_entries_foldl_insert_iff (h : (entries.map (·.1)).Nodup) :
    e ∈ (entries.foldl (fun m e => m.insert e.1 e.2) m).entries ↔
      e ∈ entries ∨ e.1 ∉ entries.map (·.1) ∧ e ∈ m.entries := by
  induction entries generalizing m with
  | nil => simp
  | cons head rest ih =>
    obtain ⟨hHead, hRest⟩ := List.nodup_cons.mp h
    rw [List.foldl_cons, ih hRest, mem_entries_insert_iff, List.mem_cons, List.map_cons,
      List.mem_cons, not_or]
    constructor
    · rintro (h | ⟨hNot, h | ⟨hNe, h⟩⟩)
      · exact .inl (.inr h)
      · exact .inl (.inl h)
      · exact .inr ⟨⟨hNe, hNot⟩, h⟩
    · rintro ((rfl | h) | ⟨⟨hNe, hNot⟩, h⟩)
      · exact .inr ⟨hHead, .inl rfl⟩
      · exact .inl h
      · exact .inr ⟨hNot, .inr ⟨hNe, h⟩⟩

/-- A table of entries for different kinds has these entries. -/
theorem mem_entries_ofList_iff (h : (entries.map (·.1)).Nodup) :
    e ∈ (ofList entries).entries ↔ e ∈ entries := by
  rw [ofList, mem_entries_foldl_insert_iff h]
  simp [empty]

theorem get?_insert_self (m : KindMap α) (k : Kind) (v : α) : (m.insert k v).get? k = some v :=
  get?_eq_some_iff.mpr (mem_entries_insert_iff.mpr (.inl rfl))

/-- A new entry for one kind leaves what the table holds for another. -/
theorem get?_insert_of_ne (hNe : k' ≠ k) : (m.insert k v).get? k' = m.get? k' := by
  ext w
  rw [get?_eq_some_iff, get?_eq_some_iff, mem_entries_insert_iff]
  constructor
  · rintro (h | ⟨-, h⟩)
    · exact absurd (Prod.mk.inj h).1 hNe
    · exact h
  · exact fun h => .inr ⟨hNe, h⟩

end PlayerSession.KindMap
