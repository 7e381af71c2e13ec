import PlayerSession.Grammar.Reference
import PlayerSession.Proofs.Check.Shape

/-! How often a once-only kind occurs in a sequence that is accepted.  The scan counts the events that it
visits, and the opening event is not one of them.  After the opening event a once-only kind therefore
occurs at most once, but the initial kind may come back: it occurs once in every accepted sequence
exactly when no trail of the grammar returns to it. -/

namespace PlayerSession

namespace Grammar

variable {g : Grammar} {k : Kind} {kinds rest : List Kind} {first : Kind}

/-- Some trail of kinds that are neither skipped nor wildcards obeys the rules up to another visit of
the initial kind. -/
def Returns (g : Grammar) : Prop :=
  ∃ trail, (∀ k ∈ trail, k ∉ g.skipped ∧ k ∉ g.wildcards) ∧ g.Obeys (trail ++ [g.initial])

theorem count_filter_wildcards (hWild : k ∉ g.wildcards) (kinds : List Kind) :
    (kinds.filter (· ∉ g.wildcards)).count k = kinds.count k :=
  List.count_filter (p := fun k => decide (k ∉ g.wildcards)) (decide_eq_true hWild)

/-- After the opening event a once-only kind that is not skipped occurs at most once. -/
theorem count_rest_le_one (hOnce : k ∈ g.onceOnly) (hSkip : k ∉ g.skipped)
    (hCheck : g.check kinds = .ok ()) (hKinds : kinds.filter (· ∉ g.wildcards) = first :: rest) :
    rest.count k ≤ 1 := by
  obtain ⟨-, hObeys⟩ := check_eq_ok_iff_trail.mp hCheck first rest hKinds
  rw [← count_trail hSkip]
  exact (obeys_iff_shaped.mp hObeys).once k hOnce

theorem check_returning {trail : List Kind}
    (hTrail : ∀ k ∈ trail, k ∉ g.skipped ∧ k ∉ g.wildcards)
    (hObeys : g.Obeys (trail ++ [g.initial])) :
    g.check (g.initial :: (trail ++ [g.initial])) = .ok () := by
  refine check_eq_ok_iff_trail.mpr fun first rest hKinds => ?_
  have hWild : (g.initial :: (trail ++ [g.initial])).filter (· ∉ g.wildcards) =
      g.initial :: (trail ++ [g.initial]) := by
    refine List.filter_eq_self.mpr fun k hk => decide_eq_true ?_
    rcases List.mem_cons.mp hk with rfl | hk
    · exact g.initial_not_mem_wildcards
    · rcases List.mem_append.mp hk with hk | hk
      · exact (hTrail k hk).2
      · cases List.mem_singleton.mp hk
        exact g.initial_not_mem_wildcards
  have hKept : trail.filter (· ∉ g.skipped) = trail :=
    List.filter_eq_self.mpr fun k hk => decide_eq_true (hTrail k hk).1
  cases hWild.symm.trans hKinds
  refine ⟨rfl, ?_⟩
  rw [trail_concat, hKept]
  exact hObeys

/-- An accepted sequence in which the initial kind comes again has a trail back to it. -/
theorem returns_of_mem_rest (hSkip : g.initial ∉ g.skipped) (hCheck : g.check kinds = .ok ())
    (hKinds : kinds.filter (· ∉ g.wildcards) = first :: rest) (hIn : g.initial ∈ rest) :
    g.Returns := by
  obtain ⟨-, hObeys⟩ := check_eq_ok_iff_trail.mp hCheck first rest hKinds
  have hMem : g.initial ∈ g.trail rest := by
    rw [← List.count_pos_iff, count_trail hSkip]
    exact List.count_pos_iff.mpr hIn
  obtain ⟨before, after, hSplit⟩ := List.append_of_mem hMem
  rw [hSplit] at hObeys
  refine ⟨before, fun k hk => ?_, ?_⟩
  · obtain ⟨hRest, hSkip⟩ := mem_of_trail_eq_append hSplit hk
    have hFilter : k ∈ kinds.filter (· ∉ g.wildcards) := hKinds ▸ List.mem_cons_of_mem _ hRest
    exact ⟨hSkip, of_decide_eq_true (List.mem_filter.mp hFilter).2⟩
  · have hAll : g.Obeys ((before ++ [g.initial]) ++ after) := by simpa using hObeys
    exact hAll.left

/-- In the accepted sequences of a grammar, a once-only kind that is neither skipped nor a wildcard
occurs at most once after the opening event; it occurs at most once in all, unless it is the initial
kind and the grammar returns to it. -/
theorem count_onceOnly_of_check (hOnce : k ∈ g.onceOnly) (hSkip : k ∉ g.skipped)
    (hWild : k ∉ g.wildcards) :
    (∀ kinds first rest, g.check kinds = .ok () → kinds.filter (· ∉ g.wildcards) = first :: rest →
      rest.count k ≤ 1) ∧
    ((∀ kinds, g.check kinds = .ok () → kinds.count k ≤ 1) ↔ ¬ (k = g.initial ∧ g.Returns)) := by
  refine ⟨fun kinds first rest hCheck hKinds => count_rest_le_one hOnce hSkip hCheck hKinds, ?_, ?_⟩
  · rintro hAll ⟨rfl, trail, hTrail, hObeys⟩
    have hCount := hAll _ (check_returning hTrail hObeys)
    rw [List.count_cons_self, List.count_append, List.count_singleton_self] at hCount
    omega
  · intro hNot kinds hCheck
    cases hKinds : kinds.filter (· ∉ g.wildcards) with
    | nil =>
      rw [← count_filter_wildcards hWild, hKinds]
      exact Nat.zero_le 1
    | cons first rest =>
      have hRest := count_rest_le_one hOnce hSkip hCheck hKinds
      obtain ⟨hFirst, -⟩ := check_eq_ok_iff_trail.mp hCheck first rest hKinds
      rw [← count_filter_wildcards hWild, hKinds]
      by_cases hk : first = k
      · subst hk
        have hNone : first ∉ rest := fun hIn =>
          hNot ⟨hFirst, returns_of_mem_rest (hFirst ▸ hSkip) hCheck hKinds (hFirst ▸ hIn)⟩
        rw [List.count_cons_self, List.count_eq_zero_of_not_mem hNone]
      · rwa [List.count_cons_of_ne hk]

theorem reference_loading_once :
    "loading" ∈ reference.onceOnly ∧ "loading" ∉ reference.skipped ∧ "loading" ∉ reference.wildcards ∧
      ∀ kinds, reference.check kinds = .ok () → kinds.count "loading" ≤ 1 := by
  have hOnce : "loading" ∈ reference.onceOnly := by decide +kernel
  have hSkip : "loading" ∉ reference.skipped := by decide +kernel
  have hWild : "loading" ∉ reference.wildcards := by decide +kernel
  have hOther : "loading" ≠ reference.initial := by decide
  exact ⟨hOnce, hSkip, hWild,
    (count_onceOnly_of_check hOnce hSkip hWild).2.mpr fun h => hOther h.1⟩

/-- A grammar with a single kind, once-only and allowed after itself. -/
def repeating : Grammar where
  initial := "init"
  transitions := .ofList [("init", .empty)]
  onceOnly := .ofList ["init"]
  consistent := by decide +kernel

theorem repeating_accepts_twice :
    "init" ∈ repeating.onceOnly ∧ "init" ∉ repeating.skipped ∧ "init" ∉ repeating.wildcards ∧
      repeating.check ["init", "init"] = .ok () ∧ ["init", "init"].count "init" = 2 := by
  decide +kernel

end Grammar

end PlayerSession
