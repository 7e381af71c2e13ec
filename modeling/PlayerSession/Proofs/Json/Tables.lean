import PlayerSession.Grammar.Json
import PlayerSession.Proofs.Json.Reading
import PlayerSession.Proofs.Json.RoundTrip
import PlayerSession.Proofs.Kind

/-! Sets and tables of kinds as they are written and as they are read.  A set is written as the array of
its kinds and a table as an object with one member for each of its entries, both in ascending order, and
reading puts every one of them at the end of what has been read before. -/

namespace PlayerSession.Json

/-! ### Sets -/

theorem legible_kindSet (set : KindSet) : set.toValue.Legible := by
  show ItemsLegible (set.keys.map .text)
  rw [itemsLegible_iff]
  intro v hMem
  obtain ⟨kind, -, rfl⟩ := List.mem_map.mp hMem
  trivial

theorem fold_texts (kinds : List Kind) (set : KindSet) :
    (itemsDoc (kinds.map .text)).fold (fun set d => do return set.insert (← d.asText) ()) set =
      .ok (kinds.foldl (fun set kind => set.insert kind ()) set) := by
  have hRead : ∀ set : KindSet, ∀ kind ∈ kinds,
      (do return set.insert (← (Value.text kind).doc.asText) ()) = Except.ok (set.insert kind ()) :=
    fun _ _ _ => rfl
  exact fold_itemsDoc hRead set

theorem asKindSet_kindSet (set : KindSet) : set.toValue.doc.asKindSet = .ok set := by
  show (itemsDoc (set.keys.map .text)).fold _ _ = _
  rw [fold_texts, KindMap.keys, List.foldl_map]
  exact congrArg Except.ok set.ofList_entries

/-! ### Tables -/

section Tables

variable {α : Type} {toValue : α → Value} {read : Doc → Reading α}

theorem legible_table (hLegible : ∀ a, (toValue a).Legible) (table : KindMap α) :
    (Value.object (table.entries.map fun e => (e.1, toValue e.2))).Legible := by
  show MembersLegible (table.entries.map fun e => (e.1, toValue e.2))
  rw [membersLegible_iff]
  intro m hMem
  obtain ⟨e, -, rfl⟩ := List.mem_map.mp hMem
  exact hLegible e.2

theorem fold_entries (hRead : ∀ a, read (toValue a).doc = .ok a) (entries : List (Kind × α))
    (table : KindMap α) :
    (membersDoc (entries.map fun e => (e.1, toValue e.2))).fold
        (fun table name value => do return table.insert name (← read value)) table =
      .ok (entries.foldl (fun table e => table.insert e.1 e.2) table) := by
  induction entries generalizing table with
  | nil => rfl
  | cons e rest ih =>
    rw [List.map_cons, membersDoc, Members.fold, hRead]
    exact ih (table.insert e.1 e.2)

/-- A table that was written is read, if the values in it are. -/
theorem asKindMap_table (hRead : ∀ a, read (toValue a).doc = .ok a) (table : KindMap α) :
    (Value.object (table.entries.map fun e => (e.1, toValue e.2))).doc.asKindMap read =
      .ok table := by
  show (membersDoc _).fold _ _ = _
  rw [fold_entries hRead]
  exact congrArg Except.ok table.ofList_entries

end Tables

end PlayerSession.Json
