import Mathlib.Data.List.Nodup
import PlayerSession.Proofs.Grammar.Defects

/-! Descriptions with other names for their kinds.  A table under new names has its entries in the order
of the new names, and where no two kinds get one name, it holds under each new name what it held under
the old one.  A description is then closed exactly when it is closed under the new names, so the order of
names, and which names they are, does not matter for whether it gives a grammar. -/

namespace PlayerSession

/-! ### Tables -/

namespace KindMap

variable {α β : Type} {m : KindMap α} {k : Kind}

/-- The table with other names for its kinds, and `f` of what it held for them. -/
def rename (ρ : Kind → Kind) (f : α → β) (m : KindMap α) : KindMap β :=
  ofList (m.entries.map fun e => (ρ e.1, f e.2))

variable {ρ : Kind → Kind} {f : α → β}

theorem mem_rename_iff : k ∈ m.rename ρ f ↔ ∃ k₀ ∈ m, ρ k₀ = k := by
  rw [rename, mem_ofList, List.map_map]
  show k ∈ m.entries.map (ρ ∘ Prod.fst) ↔ _
  rw [← List.map_map, List.mem_map]
  rfl

theorem mem_rename_iff_mem (hρ : ρ.Injective) : ρ k ∈ m.rename ρ f ↔ k ∈ m := by
  rw [mem_rename_iff]
  constructor
  · rintro ⟨k₀, hMem, hSame⟩
    rwa [← hρ hSame]
  · intro hMem
    exact ⟨k, hMem, rfl⟩

theorem get?_rename (hρ : ρ.Injective) (m : KindMap α) (k : Kind) :
    (m.rename ρ f).get? (ρ k) = (m.get? k).map f := by
  have hNodup : ((m.entries.map fun e => (ρ e.1, f e.2)).map (·.1)).Nodup := by
    rw [List.map_map]
    show (m.entries.map (ρ ∘ Prod.fst)).Nodup
    rw [← List.map_map]
    exact m.nodup_keys.map hρ
  ext w
  rw [get?_eq_some_iff, rename, mem_entries_ofList_iff hNodup, List.mem_map, Option.map_eq_some_iff]
  simp only [get?_eq_some_iff]
  constructor
  · rintro ⟨⟨k₀, v⟩, hMem, hSame⟩
    obtain ⟨hKind, hValue⟩ := Prod.mk.inj hSame
    exact ⟨v, hρ hKind ▸ hMem, hValue⟩
  · rintro ⟨v, hMem, rfl⟩
    exact ⟨(k, v), hMem, rfl⟩

@[simp] theorem rename_id (m : KindMap α) : m.rename id id = m := by
  rw [rename]
  simp only [id]
  rw [List.map_id'', ofList_entries]
  exact fun _ => rfl

end KindMap

/-! ### Descriptions -/

def Pairing.rename (ρ : Kind → Kind) (p : Pairing) : Pairing := ⟨ρ p.play, ρ p.pause⟩

/-- The description with other names for its kinds. -/
def Spec.rename (ρ : Kind → Kind) (s : Spec) : Spec where
  initial := ρ s.initial
  transitions := s.transitions.rename ρ (.rename ρ id)
  onceOnly := s.onceOnly.rename ρ id
  skipped := s.skipped.rename ρ id
  wildcards := s.wildcards.rename ρ id
  pairing := s.pairing.map (.rename ρ)

namespace Spec

variable {ρ : Kind → Kind} {s : Spec} {owner kind : Kind} {ruleSet : RuleSet}

theorem declares_rename_iff (hρ : ρ.Injective) : (s.rename ρ).Declares (ρ kind) ↔ s.Declares kind :=
  KindMap.mem_rename_iff_mem hρ

theorem entryForbids_rename_iff (hρ : ρ.Injective) :
    (s.rename ρ).EntryForbids (ρ owner) (ρ kind) ↔ s.EntryForbids owner kind := by
  simp only [EntryForbids, rename, KindMap.get?_rename hρ, Option.map_eq_some_iff]
  constructor
  · rintro ⟨_, ⟨forbidden, hGet, rfl⟩, hMem⟩
    exact ⟨forbidden, hGet, (KindMap.mem_rename_iff_mem hρ).mp hMem⟩
  · rintro ⟨forbidden, hGet, hMem⟩
    exact ⟨_, ⟨forbidden, hGet, rfl⟩, (KindMap.mem_rename_iff_mem hρ).mpr hMem⟩

/-- An entry under a new name forbids nothing but what it forbade, under the new names. -/
theorem exists_of_entryForbids_rename (hρ : ρ.Injective)
    (h : (s.rename ρ).EntryForbids owner kind) :
    ∃ owner₀ kind₀, owner = ρ owner₀ ∧ kind = ρ kind₀ ∧ s.EntryForbids owner₀ kind₀ := by
  obtain ⟨forbidden, hGet, hKind⟩ := h
  obtain ⟨owner₀, -, rfl⟩ :=
    KindMap.mem_rename_iff.mp (KindMap.mem_iff_exists_get?.mpr ⟨forbidden, hGet⟩)
  have hRow := hGet
  rw [rename, KindMap.get?_rename hρ, Option.map_eq_some_iff] at hRow
  obtain ⟨forbidden₀, -, rfl⟩ := hRow
  obtain ⟨kind₀, -, rfl⟩ := KindMap.mem_rename_iff.mp hKind
  exact ⟨owner₀, kind₀, rfl, rfl, (entryForbids_rename_iff hρ).mp ⟨_, hGet, hKind⟩⟩

theorem refers_rename_iff :
    (s.rename ρ).Refers ruleSet kind ↔ ∃ kind₀, s.Refers ruleSet kind₀ ∧ ρ kind₀ = kind := by
  cases ruleSet with
  | onceOnly => exact KindMap.mem_rename_iff
  | skipped => exact KindMap.mem_rename_iff
  | pairing =>
    simp only [Refers, rename, Option.map_eq_some_iff]
    constructor
    · rintro ⟨_, ⟨p, hp, rfl⟩, rfl | rfl⟩
      · exact ⟨p.play, ⟨p, hp, .inl rfl⟩, rfl⟩
      · exact ⟨p.pause, ⟨p, hp, .inr rfl⟩, rfl⟩
    · rintro ⟨kind₀, ⟨p, hp, rfl | rfl⟩, rfl⟩
      · exact ⟨_, ⟨p, hp, rfl⟩, .inl rfl⟩
      · exact ⟨_, ⟨p, hp, rfl⟩, .inr rfl⟩

/-- New names leave a description closed, and close none that was not. -/
theorem closed_rename_iff (hρ : ρ.Injective) : (s.rename ρ).Closed ↔ s.Closed := by
  constructor
  · rintro ⟨hInitial, hOpens, hForbidden, hReferences⟩
    refine ⟨(declares_rename_iff hρ).mp hInitial, ?_, ?_, ?_⟩
    · exact fun hWild => hOpens ((KindMap.mem_rename_iff_mem hρ).mpr hWild)
    · intro owner kind hEntry
      exact (declares_rename_iff hρ).mp (hForbidden _ _ ((entryForbids_rename_iff hρ).mpr hEntry))
    · intro ruleSet kind hRefers
      exact (declares_rename_iff hρ).mp
        (hReferences ruleSet _ (refers_rename_iff.mpr ⟨kind, hRefers, rfl⟩))
  · rintro ⟨hInitial, hOpens, hForbidden, hReferences⟩
    refine ⟨(declares_rename_iff hρ).mpr hInitial, ?_, ?_, ?_⟩
    · exact fun hWild => hOpens ((KindMap.mem_rename_iff_mem hρ).mp hWild)
    · intro owner kind hEntry
      obtain ⟨owner₀, kind₀, rfl, rfl, hEntry₀⟩ := exists_of_entryForbids_rename hρ hEntry
      exact (declares_rename_iff hρ).mpr (hForbidden owner₀ kind₀ hEntry₀)
    · intro ruleSet kind hRefers
      obtain ⟨kind₀, hRefers₀, rfl⟩ := refers_rename_iff.mp hRefers
      exact (declares_rename_iff hρ).mpr (hReferences ruleSet kind₀ hRefers₀)

end Spec

end PlayerSession
