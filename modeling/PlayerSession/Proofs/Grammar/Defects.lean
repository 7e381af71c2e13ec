import Mathlib.Data.List.Basic
import PlayerSession.Grammar.Reference
import PlayerSession.Proofs.Kind

/-! What can be wrong with a description of a grammar.  `Has` says of each defect when a description
has it, whatever else is wrong, and `Precedes` in which order defects are looked for.  A description
with no defect is `Closed`: it opens with a kind that can be seen, and every kind that it refers to
has an entry.  Building a grammar succeeds on closed descriptions and otherwise reports the first
defect. -/

namespace PlayerSession

/-- The place of a rule set in the order in which they are checked. -/
def RuleSet.rank : RuleSet → Nat
  | .onceOnly => 0
  | .skipped => 1
  | .pairing => 2

/-- The place of a sort of defect in the order in which defects are looked for. -/
@[simp] def Defect.rank : Defect → Nat
  | .missingInitial _ => 0
  | .wildcardInitial _ => 1
  | .undeclaredKind .. => 2
  | .undeclaredReference ruleSet _ => 3 + ruleSet.rank

namespace Spec

variable {s : Spec} {d d' : Defect} {owner kind : Kind} {ruleSet : RuleSet}

/-- The entry of `owner` forbids `kind`. -/
def EntryForbids (s : Spec) (owner kind : Kind) : Prop :=
  ∃ forbidden, s.transitions.get? owner = some forbidden ∧ kind ∈ forbidden

def Refers (s : Spec) : RuleSet → Kind → Prop
  | .onceOnly, kind => kind ∈ s.onceOnly
  | .skipped, kind => kind ∈ s.skipped
  | .pairing, kind => ∃ p, s.pairing = some p ∧ (kind = p.play ∨ kind = p.pause)

structure Closed (s : Spec) : Prop where
  initial : s.Declares s.initial
  opens : s.initial ∉ s.wildcards
  forbidden : ∀ owner kind, s.EntryForbids owner kind → s.Declares kind
  references : ∀ ruleSet kind, s.Refers ruleSet kind → s.Declares kind

/-- The description has the defect, whatever else is wrong with it. -/
inductive Has (s : Spec) : Defect → Prop
  | missingInitial : ¬ s.Declares s.initial → Has s (.missingInitial s.initial)
  | wildcardInitial : s.initial ∈ s.wildcards → Has s (.wildcardInitial s.initial)
  | undeclaredKind {owner kind : Kind} : s.EntryForbids owner kind → ¬ s.Declares kind →
      Has s (.undeclaredKind owner kind)
  | undeclaredReference {ruleSet : RuleSet} {kind : Kind} : s.Refers ruleSet kind →
      ¬ s.Declares kind → Has s (.undeclaredReference ruleSet kind)

/-- The order in which defects are looked for: by their sort, then by the owner of the entry, then
by the kind, but `play` before `pause`. -/
inductive Precedes (s : Spec) : Defect → Defect → Prop
  | rank {d d' : Defect} : d.rank < d'.rank → Precedes s d d'
  | owner {owner owner' kind kind' : Kind} : owner < owner' →
      Precedes s (.undeclaredKind owner kind) (.undeclaredKind owner' kind')
  | forbidden {owner kind kind' : Kind} : kind < kind' →
      Precedes s (.undeclaredKind owner kind) (.undeclaredKind owner kind')
  | reference {ruleSet : RuleSet} {kind kind' : Kind} : ruleSet ≠ .pairing → kind < kind' →
      Precedes s (.undeclaredReference ruleSet kind) (.undeclaredReference ruleSet kind')
  | pairing {p : Pairing} {kind kind' : Kind} : s.pairing = some p → kind = p.play →
      kind' = p.pause → kind ≠ kind' →
      Precedes s (.undeclaredReference .pairing kind) (.undeclaredReference .pairing kind')

/-- The description has the defect, and it precedes every other defect that the description has. -/
structure HasFirst (s : Spec) (d : Defect) : Prop where
  has : s.Has d
  precedes : ∀ d', s.Has d' → d' ≠ d → s.Precedes d d'

theorem closed_iff : s.Closed ↔ ∀ d, ¬ s.Has d := by
  constructor
  · intro hClosed d h
    cases h with
    | missingInitial hNot => exact hNot hClosed.initial
    | wildcardInitial hWild => exact hClosed.opens hWild
    | undeclaredKind hForbids hNot => exact hNot (hClosed.forbidden _ _ hForbids)
    | undeclaredReference hRefers hNot => exact hNot (hClosed.references _ _ hRefers)
  · intro h
    refine ⟨?_, ?_, ?_, ?_⟩
    · by_contra hNot
      exact h _ (.missingInitial hNot)
    · intro hWild
      exact h _ (.wildcardInitial hWild)
    · intro owner kind hForbids
      by_contra hNot
      exact h _ (.undeclaredKind hForbids hNot)
    · intro ruleSet kind hRefers
      by_contra hNot
      exact h _ (.undeclaredReference hRefers hNot)

theorem Precedes.asymm (h : s.Precedes d d') : ¬ s.Precedes d' d := by
  intro h'
  cases h with
  | rank hRank =>
    cases h' with
    | rank hRank' => omega
    | owner | forbidden | reference | pairing => simp at hRank
  | owner hOwner =>
    cases h' with
    | rank hRank' => simp at hRank'
    | owner hOwner' => exact String.lt_asymm hOwner hOwner'
    | forbidden => exact String.lt_irrefl _ hOwner
  | forbidden hKind =>
    cases h' with
    | rank hRank' => simp at hRank'
    | owner hOwner' => exact String.lt_irrefl _ hOwner'
    | forbidden hKind' => exact String.lt_asymm hKind hKind'
  | reference hSet hKind =>
    cases h' with
    | rank hRank' => simp at hRank'
    | reference _ hKind' => exact String.lt_asymm hKind hKind'
    | pairing => exact hSet rfl
  | pairing hPairing hPlay hPause hNe =>
    cases h' with
    | rank hRank' => simp at hRank'
    | reference hSet => exact hSet rfl
    | pairing hPairing' hPlay' =>
      cases hPairing.symm.trans hPairing'
      exact hNe (hPlay.trans hPlay'.symm)

theorem HasFirst.unique (h : s.HasFirst d) (h' : s.HasFirst d') : d = d' := by
  by_contra hNe
  exact (h.precedes d' h'.has (Ne.symm hNe)).asymm (h'.precedes d h.has hNe)

/-! ### Defects in order -/

def undeclaredKinds (s : Spec) : List Defect :=
  s.transitions.entries.flatMap fun (owner, forbidden) =>
    (forbidden.keys.filter fun kind => ¬ s.Declares kind).map (.undeclaredKind owner)

def undeclaredReferences (s : Spec) : List Defect :=
  (s.references.filter fun r => ¬ s.Declares r.2).map fun r => .undeclaredReference r.1 r.2

/-- All defects of a description, in the order in which they are looked for. -/
def defects (s : Spec) : List Defect :=
  (if s.Declares s.initial then [] else [.missingInitial s.initial]) ++
    ((if s.initial ∈ s.wildcards then [.wildcardInitial s.initial] else []) ++
      (s.undeclaredKinds ++ s.undeclaredReferences))

theorem undeclaredKind?_eq_head? (s : Spec) : s.undeclaredKind? = s.undeclaredKinds.head? := by
  simp [undeclaredKind?, undeclaredKinds, List.head?_flatMap, List.head?_map, List.head?_filter]

theorem undeclaredReference?_eq_head? (s : Spec) :
    s.undeclaredReference? = s.undeclaredReferences.head? := by
  simp [undeclaredReference?, undeclaredReferences, List.head?_map, List.head?_filter]

theorem defect?_eq_head? (s : Spec) : s.defect? = s.defects.head? := by
  rw [defect?, defects, undeclaredKind?_eq_head?, undeclaredReference?_eq_head?]
  by_cases hInitial : s.Declares s.initial
  · by_cases hWild : s.initial ∈ s.wildcards
    · simp [hInitial, hWild]
    · simp [hInitial, hWild, List.head?_append]
  · simp [hInitial]

theorem mem_undeclaredKinds_iff :
    d ∈ s.undeclaredKinds ↔ ∃ owner kind, s.EntryForbids owner kind ∧ ¬ s.Declares kind ∧
      d = .undeclaredKind owner kind := by
  simp only [undeclaredKinds, EntryForbids, KindMap.get?_eq_some_iff, List.mem_flatMap,
    List.mem_map, List.mem_filter, decide_eq_true_eq, Prod.exists]
  constructor
  · rintro ⟨owner, forbidden, hEntry, kind, ⟨hKind, hNot⟩, rfl⟩
    exact ⟨owner, kind, ⟨forbidden, hEntry, hKind⟩, hNot, rfl⟩
  · rintro ⟨owner, kind, ⟨forbidden, hEntry, hKind⟩, hNot, rfl⟩
    exact ⟨owner, forbidden, hEntry, kind, ⟨hKind, hNot⟩, rfl⟩

theorem mem_references_iff : (ruleSet, kind) ∈ s.references ↔ s.Refers ruleSet kind := by
  simp only [references, List.mem_append, List.mem_map, List.mem_flatMap, Option.mem_toList]
  cases ruleSet with
  | onceOnly => simp [Refers, KindMap.mem_def]
  | skipped => simp [Refers, KindMap.mem_def]
  | pairing => simp [Refers]

theorem mem_undeclaredReferences_iff :
    d ∈ s.undeclaredReferences ↔ ∃ ruleSet kind, s.Refers ruleSet kind ∧ ¬ s.Declares kind ∧
      d = .undeclaredReference ruleSet kind := by
  simp only [undeclaredReferences, List.mem_map, List.mem_filter, decide_eq_true_eq, Prod.exists,
    mem_references_iff]
  constructor
  · rintro ⟨ruleSet, kind, ⟨hRefers, hNot⟩, rfl⟩
    exact ⟨ruleSet, kind, hRefers, hNot, rfl⟩
  · rintro ⟨ruleSet, kind, hRefers, hNot, rfl⟩
    exact ⟨ruleSet, kind, ⟨hRefers, hNot⟩, rfl⟩

theorem mem_defects_iff : d ∈ s.defects ↔ s.Has d := by
  rw [defects, List.mem_append, List.mem_append, List.mem_append, mem_undeclaredKinds_iff,
    mem_undeclaredReferences_iff]
  constructor
  · rintro (h | h | ⟨owner, kind, hForbids, hNot, rfl⟩ | ⟨ruleSet, kind, hRefers, hNot, rfl⟩)
    · split at h
      · cases h
      · rw [List.mem_singleton.mp h]
        exact .missingInitial ‹_›
    · split at h
      · rw [List.mem_singleton.mp h]
        exact .wildcardInitial ‹_›
      · cases h
    · exact .undeclaredKind hForbids hNot
    · exact .undeclaredReference hRefers hNot
  · intro h
    cases h with
    | missingInitial hNot => simp [hNot]
    | wildcardInitial hWild => simp [hWild]
    | undeclaredKind hForbids hNot => exact .inr (.inr (.inl ⟨_, _, hForbids, hNot, rfl⟩))
    | undeclaredReference hRefers hNot => exact .inr (.inr (.inr ⟨_, _, hRefers, hNot, rfl⟩))

/-- Defects stand in their order, where one may be listed twice. -/
def InOrder (s : Spec) (all : List Defect) : Prop :=
  all.Pairwise fun d d' => d' ≠ d → s.Precedes d d'

theorem InOrder.append {all all' : List Defect} (h : s.InOrder all) (h' : s.InOrder all')
    (hRank : ∀ d ∈ all, ∀ d' ∈ all', d.rank < d'.rank) : s.InOrder (all ++ all') :=
  List.pairwise_append.mpr ⟨h, h', fun d hd d' hd' _ => .rank (hRank d hd d' hd')⟩

theorem inOrder_undeclaredKinds (s : Spec) : s.InOrder s.undeclaredKinds := by
  rw [InOrder, undeclaredKinds, List.pairwise_flatMap]
  constructor
  · rintro ⟨owner, forbidden⟩ -
    rw [List.pairwise_map]
    apply (forbidden.pairwise_keys.filter _).imp
    intro kind kind' hKind _
    exact .forbidden hKind
  · apply s.transitions.ascending.imp
    rintro ⟨owner, forbidden⟩ ⟨owner', forbidden'⟩ hOwner d hd d' hd' -
    obtain ⟨kind, -, rfl⟩ := List.mem_map.mp hd
    obtain ⟨kind', -, rfl⟩ := List.mem_map.mp hd'
    exact .owner hOwner

theorem inOrder_keys (hSet : ruleSet ≠ .pairing) (kinds : KindSet) :
    s.InOrder ((kinds.keys.map (ruleSet, ·)).map fun r => .undeclaredReference r.1 r.2) := by
  rw [InOrder, List.pairwise_map, List.pairwise_map]
  apply kinds.pairwise_keys.imp
  intro kind kind' hKind _
  exact .reference hSet hKind

theorem inOrder_pairing (s : Spec) :
    s.InOrder ((s.pairing.toList.flatMap fun p =>
      [(RuleSet.pairing, p.play), (RuleSet.pairing, p.pause)]).map fun r =>
        .undeclaredReference r.1 r.2) := by
  cases hPairing : s.pairing with
  | none => exact .nil
  | some p =>
    have hPair : p.pause ≠ p.play → s.Precedes (.undeclaredReference .pairing p.play)
        (.undeclaredReference .pairing p.pause) := fun hNe =>
      .pairing hPairing rfl rfl (Ne.symm hNe)
    simpa [InOrder] using hPair

theorem inOrder_references (s : Spec) :
    s.InOrder (s.references.map fun r => .undeclaredReference r.1 r.2) := by
  have hKeys : ∀ (ruleSet : RuleSet) (kinds : KindSet),
      ∀ d ∈ (kinds.keys.map (ruleSet, ·)).map fun r => Defect.undeclaredReference r.1 r.2,
        d.rank = 3 + ruleSet.rank := by
    simp
  have hPairing : ∀ d ∈ (s.pairing.toList.flatMap fun p =>
      [(RuleSet.pairing, p.play), (RuleSet.pairing, p.pause)]).map fun r =>
        Defect.undeclaredReference r.1 r.2, d.rank = 5 := by
    cases s.pairing <;> simp [RuleSet.rank]
  rw [references, List.map_append, List.map_append]
  apply InOrder.append
  · apply (inOrder_keys (by decide) s.onceOnly).append (inOrder_keys (by decide) s.skipped)
    intro d hd d' hd'
    rw [hKeys _ _ d hd, hKeys _ _ d' hd']
    decide
  · exact s.inOrder_pairing
  · intro d hd d' hd'
    rw [hPairing d' hd']
    rcases List.mem_append.mp hd with hd | hd
    · rw [hKeys _ _ d hd]
      decide
    · rw [hKeys _ _ d hd]
      decide

theorem inOrder_undeclaredReferences (s : Spec) : s.InOrder s.undeclaredReferences :=
  s.inOrder_references.sublist (List.filter_sublist.map _)

theorem inOrder_defects (s : Spec) : s.InOrder s.defects := by
  have hKinds : ∀ d ∈ s.undeclaredKinds, d.rank = 2 := by
    intro d hd
    obtain ⟨owner, kind, -, -, rfl⟩ := mem_undeclaredKinds_iff.mp hd
    rfl
  have hReferences : ∀ d ∈ s.undeclaredReferences, 2 < d.rank := by
    intro d hd
    obtain ⟨ruleSet, kind, -, -, rfl⟩ := mem_undeclaredReferences_iff.mp hd
    simp only [Defect.rank]
    omega
  have hLate : ∀ d ∈ s.undeclaredKinds ++ s.undeclaredReferences, 2 ≤ d.rank := by
    intro d hd
    rcases List.mem_append.mp hd with hd | hd
    · exact Nat.le_of_eq (hKinds d hd).symm
    · exact Nat.le_of_lt (hReferences d hd)
  have hRest : s.InOrder (s.undeclaredKinds ++ s.undeclaredReferences) := by
    apply s.inOrder_undeclaredKinds.append s.inOrder_undeclaredReferences
    intro d hd d' hd'
    rw [hKinds d hd]
    exact hReferences d' hd'
  have hInitial : ∀ d ∈ if s.Declares s.initial then [] else [Defect.missingInitial s.initial],
      d.rank = 0 := by
    split <;> simp
  have hWild : ∀ d ∈ if s.initial ∈ s.wildcards then [Defect.wildcardInitial s.initial] else [],
      d.rank = 1 := by
    split <;> simp
  rw [defects]
  apply InOrder.append
  · split
    · exact .nil
    · exact List.pairwise_singleton _ _
  · apply InOrder.append _ hRest
    · intro d hd d' hd'
      rw [hWild d hd]
      exact hLate d' hd'
    · split
      · exact List.pairwise_singleton _ _
      · exact .nil
  · intro d hd d' hd'
    rw [hInitial d hd]
    rcases List.mem_append.mp hd' with hd' | hd'
    · rw [hWild d' hd']
      decide
    · exact Nat.lt_of_lt_of_le (by decide) (hLate d' hd')

theorem head?_defects_eq_some_iff : s.defects.head? = some d ↔ s.HasFirst d := by
  have hFirst : ∀ d, s.defects.head? = some d → s.HasFirst d := by
    intro d hHead
    obtain ⟨rest, hDefects⟩ := List.head?_eq_some_iff.mp hHead
    have hOrder := s.inOrder_defects
    rw [hDefects] at hOrder
    refine ⟨mem_defects_iff.mp (by simp [hDefects]), fun d' hHas hNe => ?_⟩
    have hMem := mem_defects_iff.mpr hHas
    rw [hDefects] at hMem
    exact (List.pairwise_cons.mp hOrder).1 d' ((List.mem_cons.mp hMem).resolve_left hNe) hNe
  refine ⟨hFirst d, fun h => ?_⟩
  cases hHead : s.defects.head? with
  | none =>
    have hMem := mem_defects_iff.mpr h.has
    rw [List.head?_eq_none_iff.mp hHead] at hMem
    cases hMem
  | some d' => rw [(hFirst d' hHead).unique h]

end Spec

namespace Grammar

variable {s : Spec} {d : Defect}

theorem ofSpec_eq_error_iff : ofSpec s = .error d ↔ s.HasFirst d := by
  rw [← Spec.head?_defects_eq_some_iff, ← Spec.defect?_eq_head?]
  unfold ofSpec
  split
  · rename_i hNone
    simp [hNone]
  · rename_i d' hSome
    simp [hSome]

theorem exists_ofSpec_iff : (∃ g, ofSpec s = .ok g) ↔ s.Closed := by
  rw [Spec.closed_iff]
  constructor
  · rintro ⟨g, hOk⟩ d hHas
    have hNone := g.consistent
    rw [toSpec_of_ofSpec hOk, Spec.defect?_eq_head?, List.head?_eq_none_iff] at hNone
    have hMem := Spec.mem_defects_iff.mpr hHas
    rw [hNone] at hMem
    cases hMem
  · intro hNo
    cases hOf : ofSpec s with
    | ok g => exact ⟨g, rfl⟩
    | error d => exact absurd (ofSpec_eq_error_iff.mp hOf).has (hNo d)

/-- A description gives a grammar exactly when it is closed.  The grammar keeps the description,
which gives the same grammar again.  Any other description is refused with its first defect. -/
theorem ofSpec_settled (s : Spec) :
    ((∃ g, ofSpec s = .ok g) ↔ s.Closed) ∧
      (∀ g, ofSpec s = .ok g → g.toSpec = s ∧ ofSpec g.toSpec = .ok g) ∧
      ∀ d, ofSpec s = .error d ↔ s.HasFirst d :=
  ⟨exists_ofSpec_iff, fun g hOk => ⟨toSpec_of_ofSpec hOk, ofSpec_toSpec g⟩,
    fun _ => ofSpec_eq_error_iff⟩

/-- A description with undeclared kinds in two entries and in its rule sets is refused for the least
kind of the least entry. -/
theorem ofSpec_reference_and_unfinished :
    (Spec.reference.Closed ∧ reference.toSpec = .reference) ∧
      Spec.HasFirst
        { initial := "init"
          transitions := .ofList [("stopped", .ofList ["absent"]),
            ("loading", .ofList ["seeked", "init", "paused"]), ("init", .ofList ["loading"])]
          onceOnly := .ofList ["error"]
          pairing := some ⟨"playing", "paused"⟩ }
        (.undeclaredKind "loading" "paused") := by
  have hReference : ofSpec .reference = .ok reference := ofSpec_toSpec reference
  refine ⟨⟨(ofSpec_settled _).1.mp ⟨_, hReference⟩, ((ofSpec_settled _).2.1 _ hReference).1⟩, ?_⟩
  apply ((ofSpec_settled _).2.2 _).mp
  decide +kernel

end Grammar

end PlayerSession
