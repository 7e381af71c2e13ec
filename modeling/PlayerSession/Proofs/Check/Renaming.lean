import PlayerSession.Proofs.Check.Likeness

/-! Grammars and sequences under other names.  No name of a kind means anything to a check, and neither
does the order of names: as long as different kinds keep different names, a description under new names
gives a grammar exactly when it does under the old ones, and the renamed sequence has the renamed
outcome. -/

namespace PlayerSession

namespace Grammar

variable {ρ : Kind → Kind} {s : Spec} {g g' : Grammar}

theorem matches_of_rename (hρ : ρ.Injective) (hSpec : g'.toSpec = g.toSpec.rename ρ) :
    Matches ρ g g' := by
  obtain ⟨s', hConsistent⟩ := g'
  obtain rfl : s' = g.toSpec.rename ρ := hSpec
  exact {
    injective := hρ
    initial := rfl
    onceOnly := rfl
    skipped := rfl
    wildcards := rfl
    pairing := rfl
    declares := fun _ => Spec.declares_rename_iff hρ
    forbids := fun _ _ _ => Spec.entryForbids_rename_iff hρ }

/-- Under other names for the kinds, a description gives a grammar exactly when it did before, and every
sequence then has the outcome that it had before, under the other names. -/
theorem check_rename (hρ : ρ.Injective) (s : Spec) :
    ((∃ g', ofSpec (s.rename ρ) = .ok g') ↔ ∃ g, ofSpec s = .ok g) ∧
      ∀ g g', ofSpec s = .ok g → ofSpec (s.rename ρ) = .ok g' → ∀ kinds,
        g'.check (kinds.map ρ) = (g.check kinds).mapError (·.rename ρ) := by
  refine ⟨?_, fun g g' hg hg' kinds => ?_⟩
  · rw [exists_ofSpec_iff, exists_ofSpec_iff]
    exact Spec.closed_rename_iff hρ
  · have hSpec : g'.toSpec = g.toSpec.rename ρ := by
      rw [toSpec_of_ofSpec hg', toSpec_of_ofSpec hg]
    exact (matches_of_rename hρ hSpec).check_map kinds

/-- The name spelled backwards. -/
def backwards (kind : Kind) : Kind := String.ofList kind.toList.reverse

theorem backwards_injective : Function.Injective backwards := by
  intro kind kind' h
  have hList := congrArg String.toList h
  rw [backwards, backwards, String.toList_ofList, String.toList_ofList] at hList
  exact String.toList_inj.mp (List.reverse_injective hList)

/-- A grammar with two wildcards, whose order is another when they are spelled backwards. -/
def twoWildcards : Grammar where
  toSpec := {
    initial := "init"
    transitions := .ofList [("init", .ofList ["end"]), ("play", .empty), ("end", .empty)]
    onceOnly := .ofList ["end"]
    wildcards := .ofList ["az", "by"]
    pairing := some ⟨"play", "end"⟩ }
  consistent := by decide +kernel

theorem check_backwards :
    ∃ g, ofSpec (twoWildcards.rename backwards) = .ok g ∧
      g.check ["za", "yalp", "tini"] = .error ⟨1, .initialNotFirst "tini" ["yb", "za"]⟩ ∧
      g.check ["tini", "yb", "dne"] = .error ⟨2, .unpairedPlayPause "dne" "yalp"⟩ ∧
      g.check ["tini", "yalp", "yb", "dne", "yalp"] = .ok () := by
  obtain ⟨hBuilt, hCheck⟩ := check_rename backwards_injective twoWildcards.toSpec
  have hGrammar : ofSpec twoWildcards.toSpec = .ok twoWildcards := ofSpec_toSpec twoWildcards
  obtain ⟨g, hg⟩ := hBuilt.mpr ⟨_, hGrammar⟩
  have hOutcome := hCheck _ g hGrammar hg
  refine ⟨g, hg, ?_, ?_, ?_⟩
  · rw [show ["za", "yalp", "tini"] = ["az", "play", "init"].map backwards by decide, hOutcome]
    decide +kernel
  · rw [show ["tini", "yb", "dne"] = ["init", "by", "end"].map backwards by decide, hOutcome]
    decide +kernel
  · rw [show ["tini", "yalp", "yb", "dne", "yalp"] =
      ["init", "play", "by", "end", "play"].map backwards by decide, hOutcome]
    decide +kernel

end Grammar

end PlayerSession
