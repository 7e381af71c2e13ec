/-! The kinds of player events, and tables and sets of kinds.  Kinds are open strings, compared code
point by code point.  A table keeps its entries in ascending order with no kind twice, so two tables
with the same entries are equal. -/

namespace PlayerSession

/-- The name of a sort of event, such as `playing`. -/
abbrev Kind := String

/-- A table from kinds to values, its entries in ascending order. -/
structure KindMap (α : Type) where
  entries : List (Kind × α)
  ascending : entries.Pairwise fun a b => a.1 < b.1
  deriving DecidableEq

namespace KindMap

variable {α : Type}

theorem ext {m m' : KindMap α} (h : m.entries = m'.entries) : m = m' := by
  cases m; cases m'; subst h; rfl

def empty : KindMap α := ⟨[], .nil⟩

/-- Puts `v` at `k`'s place in ascending entries, over the old value if there is one. -/
def insertEntry (k : Kind) (v : α) : List (Kind × α) → List (Kind × α)
  | [] => [(k, v)]
  | (k', v') :: rest =>
    if k < k' then (k, v) :: (k', v') :: rest
    else if k = k' then (k, v) :: rest
    else (k', v') :: insertEntry k v rest

theorem mem_insertEntry {k : Kind} {v : α} {entries : List (Kind × α)} {e : Kind × α}
    (h : e ∈ insertEntry k v entries) : e = (k, v) ∨ e ∈ entries := by
  induction entries with
  | nil => simpa [insertEntry] using h
  | cons head rest ih =>
    obtain ⟨k', v'⟩ := head
    simp only [insertEntry] at h
    split at h
    · simpa using h
    · split at h
      · rcases List.mem_cons.mp h with rfl | h
        · exact .inl rfl
        · exact .inr (List.mem_cons_of_mem _ h)
      · rcases List.mem_cons.mp h with rfl | h
        · exact .inr List.mem_cons_self
        · exact (ih h).imp id (List.mem_cons_of_mem _)

theorem ascending_insertEntry {k : Kind} {v : α} {entries : List (Kind × α)}
    (h : entries.Pairwise fun a b => a.1 < b.1) :
    (insertEntry k v entries).Pairwise fun a b => a.1 < b.1 := by
  induction entries with
  | nil => simp [insertEntry]
  | cons head rest ih =>
    obtain ⟨k', v'⟩ := head
    obtain ⟨hHead, hRest⟩ := List.pairwise_cons.mp h
    simp only [insertEntry]
    split
    · rename_i hLow
      refine List.pairwise_cons.mpr ⟨fun e he => ?_, h⟩
      rcases List.mem_cons.mp he with rfl | he
      · exact hLow
      · exact String.lt_trans hLow (hHead e he)
    · split
      · rename_i heq
        subst heq
        exact List.pairwise_cons.mpr ⟨hHead, hRest⟩
      · rename_i hLow hNe
        refine List.pairwise_cons.mpr ⟨fun e he => ?_, ih hRest⟩
        rcases mem_insertEntry he with rfl | he
        · rcases Std.lt_trichotomy k k' with h1 | h1 | h1
          · exact absurd h1 hLow
          · exact absurd h1 hNe
          · exact h1
        · exact hHead e he

/-- The table with `v` for `k`, and otherwise as before. -/
def insert (k : Kind) (v : α) (m : KindMap α) : KindMap α :=
  ⟨insertEntry k v m.entries, ascending_insertEntry m.ascending⟩

/-- The table of a list of entries, a later entry for the same kind over an earlier one. -/
def ofList (entries : List (Kind × α)) : KindMap α :=
  entries.foldl (fun m e => m.insert e.1 e.2) empty

/-- What the table holds for `k`. -/
def get? (m : KindMap α) (k : Kind) : Option α := m.entries.lookup k

/-- The kinds that have an entry, in ascending order. -/
def keys (m : KindMap α) : List Kind := m.entries.map (·.1)

instance : Membership Kind (KindMap α) := ⟨fun m k => k ∈ m.keys⟩

theorem mem_def {m : KindMap α} {k : Kind} : k ∈ m ↔ k ∈ m.keys := Iff.rfl

instance (k : Kind) (m : KindMap α) : Decidable (k ∈ m) :=
  inferInstanceAs (Decidable (k ∈ m.keys))

theorem mem_insert {m : KindMap α} {k k' : Kind} {v : α} :
    k' ∈ m.insert k v ↔ k' = k ∨ k' ∈ m := by
  obtain ⟨entries, h⟩ := m
  simp only [mem_def, keys, insert]
  clear h
  induction entries with
  | nil => simp [insertEntry]
  | cons head rest ih =>
    obtain ⟨k0, v0⟩ := head
    simp only [insertEntry]
    split
    · simp
    · split
      · rename_i heq
        subst heq
        simp
      · simp only [List.map_cons, List.mem_cons, ih]
        exact or_left_comm

@[simp] theorem not_mem_empty {k : Kind} : k ∉ (empty : KindMap α) := by
  simp [mem_def, keys, empty]

theorem mem_foldl_insert {entries : List (Kind × α)} {m : KindMap α} {k : Kind} :
    k ∈ entries.foldl (fun m e => m.insert e.1 e.2) m ↔ k ∈ entries.map (·.1) ∨ k ∈ m := by
  induction entries generalizing m with
  | nil => simp
  | cons head rest ih =>
    simp only [List.foldl_cons, ih, mem_insert, List.map_cons, List.mem_cons]
    constructor
    · rintro (h | h | h)
      · exact .inl (.inr h)
      · exact .inl (.inl h)
      · exact .inr h
    · rintro ((h | h) | h)
      · exact .inr (.inl h)
      · exact .inl h
      · exact .inr (.inr h)

@[simp] theorem mem_ofList {entries : List (Kind × α)} {k : Kind} :
    k ∈ ofList entries ↔ k ∈ entries.map (·.1) := by
  simp [ofList, mem_foldl_insert]

end KindMap

/-- A set of kinds: a table that says nothing more about its kinds. -/
abbrev KindSet := KindMap Unit

namespace KindSet

def ofList (kinds : List Kind) : KindSet := KindMap.ofList (kinds.map (·, ()))

theorem mem_ofList {kinds : List Kind} {k : Kind} : k ∈ ofList kinds ↔ k ∈ kinds := by
  simp [ofList]

end KindSet

end PlayerSession
