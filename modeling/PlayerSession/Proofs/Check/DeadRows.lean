import PlayerSession.Grammar.Reference
import PlayerSession.Proofs.Check.Likeness

/-! Entries of a grammar that no check looks at.  What may come after a wildcard is never asked, and what
may come after a skipped kind only of the initial kind, since a check visits a skipped kind nowhere but
at the end.  Nor is it asked whether a wildcard may come.  Grammars that differ in nothing else give
every sequence the same outcome, and what the reference grammar says of the kinds after `heartbeat`,
`metadata` and `warning` is without effect. -/

namespace PlayerSession

namespace Grammar

variable {g g' : Grammar} {kind next : Kind} {kinds : List Kind}

/-- A kind whose entry a check may look at. -/
structure Leads (g : Grammar) (kind : Kind) : Prop where
  meaningful : kind ∉ g.wildcards
  heeded : kind ∈ g.skipped → kind = g.initial

/-- The grammars differ at most in the entries of wildcards, in the entries of skipped kinds other than
the initial kind, and in which wildcards an entry forbids. -/
structure SameButDead (g g' : Grammar) : Prop where
  initial : g'.initial = g.initial
  declares : ∀ kind, g'.Declares kind ↔ g.Declares kind
  onceOnly : g'.onceOnly = g.onceOnly
  skipped : g'.skipped = g.skipped
  wildcards : g'.wildcards = g.wildcards
  pairing : g'.pairing = g.pairing
  rows : ∀ kind, g.Leads kind → ∀ next ∉ g.wildcards, g'.Forbids kind next ↔ g.Forbids kind next

theorem SameButDead.matches (h : g.SameButDead g') : Matches id g g' where
  injective := Function.injective_id
  initial := h.initial
  onceOnly := by rw [h.onceOnly, KindMap.rename_id]
  skipped := by rw [h.skipped, KindMap.rename_id]
  wildcards := by rw [h.wildcards, KindMap.rename_id]
  pairing := h.pairing.trans (Matches.refl g).pairing
  declares := h.declares
  forbids current next hAsks :=
    h.rows current ⟨hAsks.current_meaningful, hAsks.heeded⟩ next hAsks.next_meaningful

theorem SameButDead.check_eq (h : g.SameButDead g') (kinds : List Kind) :
    g'.check kinds = g.check kinds := by
  -- both are the outcome of `g` under the same names
  have hOther := h.matches.check_map kinds
  have hSelf := (Matches.refl g).check_map kinds
  rw [List.map_id] at hOther hSelf
  rw [hOther, ← hSelf]

/-! ### The reference grammar -/

/-- The description of the reference grammar with other entries for `heartbeat`, `metadata` and
`warning`. -/
def referenceWith (heartbeat metadata warning : KindSet) : Spec :=
  { Spec.reference with
    transitions := ((Spec.reference.transitions.insert "heartbeat" heartbeat).insert "metadata"
      metadata).insert "warning" warning }

theorem referenceWith_declares_iff {heartbeat metadata warning : KindSet} :
    kind ∈ (referenceWith heartbeat metadata warning).transitions ↔ reference.Declares kind := by
  have hDeclared : ∀ k ∈ ["heartbeat", "metadata", "warning"], reference.Declares k := by
    decide +kernel
  rw [referenceWith, KindMap.mem_insert, KindMap.mem_insert, KindMap.mem_insert]
  constructor
  · rintro (rfl | rfl | rfl | h)
    · exact hDeclared _ (by simp)
    · exact hDeclared _ (by simp)
    · exact hDeclared _ (by simp)
    · exact h
  · exact fun h => .inr (.inr (.inr h))

theorem Leads.not_mem_replaced (h : reference.Leads kind) :
    kind ∉ ["heartbeat", "metadata", "warning"] := by
  have hDead : ∀ k ∈ ["heartbeat", "metadata", "warning"],
      k ∈ reference.wildcards ∨ k ∈ reference.skipped ∧ k ≠ reference.initial := by decide +kernel
  intro hMem
  rcases hDead kind hMem with hWild | ⟨hSkip, hNe⟩
  · exact h.meaningful hWild
  · exact hNe (h.heeded hSkip)

theorem sameButDead_referenceWith {heartbeat metadata warning : KindSet}
    (hSpec : g.toSpec = referenceWith heartbeat metadata warning) : reference.SameButDead g := by
  obtain ⟨s, hConsistent⟩ := g
  obtain rfl : s = referenceWith heartbeat metadata warning := hSpec
  refine ⟨rfl, fun kind => referenceWith_declares_iff, rfl, rfl, rfl, rfl, fun kind hLeads next _ => ?_⟩
  have hKept := hLeads.not_mem_replaced
  simp only [List.mem_cons, List.not_mem_nil, or_false, not_or] at hKept
  obtain ⟨hHeartbeat, hMetadata, hWarning⟩ := hKept
  have hRow : (referenceWith heartbeat metadata warning).transitions.get? kind =
      reference.transitions.get? kind := by
    rw [referenceWith, KindMap.get?_insert_of_ne hWarning, KindMap.get?_insert_of_ne hMetadata,
      KindMap.get?_insert_of_ne hHeartbeat]
    rfl
  rw [Forbids, Forbids, hRow]

/-- Grammars that differ in dead entries only give every sequence the same outcome.  So the entries of
`heartbeat`, `metadata` and `warning` in the reference grammar may be replaced by any others. -/
theorem check_eq_of_sameButDead :
    (∀ g g' : Grammar, g.SameButDead g' → ∀ kinds, g'.check kinds = g.check kinds) ∧
      ∀ (heartbeat metadata warning : KindSet) (g : Grammar),
        g.toSpec = referenceWith heartbeat metadata warning →
          ∀ kinds, g.check kinds = reference.check kinds :=
  ⟨fun _ _ h => h.check_eq, fun _ _ _ _ hSpec => (sameButDead_referenceWith hSpec).check_eq⟩

/-- The reference grammar where nothing is forbidden after `metadata` and `warning`, and much after
`heartbeat`. -/
def rewarned : Grammar where
  toSpec := referenceWith (.ofList ["heartbeat", "playing", "stopped"]) .empty .empty
  consistent := by decide +kernel

/-- Neither what `heartbeat` forbids here matters, nor that `warning` no longer forbids `loading`. -/
theorem check_rewarned :
    reference.SameButDead rewarned ∧ (∀ kinds, rewarned.check kinds = reference.check kinds) ∧
      rewarned.check ["init", "heartbeat", "playing", "warning", "loading"] =
        .error ⟨4, .forbiddenTransition "playing" "loading"⟩ := by
  have hSame : reference.SameButDead rewarned := sameButDead_referenceWith rfl
  have hCheck : reference.check ["init", "heartbeat", "playing", "warning", "loading"] =
      .error ⟨4, .forbiddenTransition "playing" "loading"⟩ := by decide +kernel
  refine ⟨hSame, check_eq_of_sameButDead.2 _ _ _ rewarned rfl, ?_⟩
  rw [check_eq_of_sameButDead.1 _ _ hSame, hCheck]

end Grammar

end PlayerSession
