import PlayerSession.Grammar.Reference
import PlayerSession.Proofs.Check.Shape

/-! The alternation of play and pause in whole sequences.  The scan follows the alternation from the
event after the opening one.  After the opening event the kinds of the pairing therefore alternate in
every sequence that is accepted, and a report of an unpaired kind is right about the events before it.
Both hold of the whole sequence exactly when the initial kind is not of the pairing. -/

namespace PlayerSession

namespace Pairing

variable {p : Pairing} {q : Kind → Bool}

theorem filter_has_filter (hq : ∀ k, p.Has k → q k = true) (kinds : List Kind) :
    (kinds.filter q).filter (p.Has ·) = kinds.filter (p.Has ·) := by
  rw [List.filter_filter]
  refine List.filter_congr fun k _ => ?_
  by_cases hk : p.Has k
  · simp [hk, hq k hk]
  · simp [hk]

/-- The kinds of the pairing alternate in a list when they do in a part that has them all. -/
theorem alternates_filter (hq : ∀ k, p.Has k → q k = true) (kinds : List Kind) :
    p.Alternates (kinds.filter q) ↔ p.Alternates kinds := by
  rw [Alternates, filter_has_filter hq]
  rfl

theorem latest?_filter (hq : ∀ k, p.Has k → q k = true) (kinds : List Kind) :
    p.latest? (kinds.filter q) = p.latest? kinds := by
  rw [latest?, filter_has_filter hq]
  rfl

end Pairing

namespace Grammar

variable {g : Grammar} {p : Pairing} {kinds rest : List Kind} {first : Kind}

/-- The alternation of a whole sequence, and the truth of a report of an unpaired kind: no kind of the
pairing comes between the event reported and an event of the kind that was expected before it. -/
def AlternatesTruly (g : Grammar) (p : Pairing) (kinds : List Kind) : Prop :=
  (g.check kinds = .ok () → p.Alternates kinds) ∧
    ∀ index kind expected, g.check kinds = .error ⟨index, .unpairedPlayPause kind expected⟩ →
      p.latest? (kinds.take index) ≠ some expected

/-- After the opening event the kinds of the pairing alternate. -/
theorem alternates_rest (hp : g.pairing = some p) (hSkip : ∀ k, p.Has k → k ∉ g.skipped)
    (hCheck : g.check kinds = .ok ()) (hKinds : kinds.filter (· ∉ g.wildcards) = first :: rest) :
    p.Alternates rest := by
  obtain ⟨-, hObeys⟩ := check_eq_ok_iff_trail.mp hCheck first rest hKinds
  have hTrail := ((obeys_iff_shaped.mp hObeys).paired p hp).alternates
  rwa [Pairing.Alternates, filter_trail fun k hk => hSkip k (of_decide_eq_true hk)] at hTrail

/-- An unpaired kind is reported where the latest kind of the pairing after the opening event is not the
one expected. -/
theorem latest?_ne_of_unpaired (hp : g.pairing = some p) (hNe : p.play ≠ p.pause)
    (hSkip : ∀ k, p.Has k → k ∉ g.skipped) {index : Nat} {kind expected : Kind}
    (hCheck : g.check kinds = .error ⟨index, .unpairedPlayPause kind expected⟩) :
    ∃ before, (kinds.take index).filter (· ∉ g.wildcards) = g.initial :: before ∧
      p.latest? before ≠ some expected := by
  obtain ⟨first, rest, hEvents, hOutcome⟩ := check_eq_error_iff.mp hCheck
  rcases hOutcome with ⟨-, hEq⟩ | ⟨hFirst, visits, e, after, hVisited, rfl, -, hBreaks, -⟩
  · cases hEq
  obtain ⟨pre, post, rfl, -, rfl⟩ := exists_visited_eq_append_iff.mp ⟨after, hVisited⟩
  rw [← List.cons_append] at hEvents
  obtain ⟨left, right, rfl, hIndex, hLeft⟩ := meaningful_eq_append_cons hEvents
  refine ⟨pre.map (·.kind), ?_, ?_⟩
  · rw [hIndex, List.take_left', ← map_kind_meaningful, ← hLeft, List.map_cons, hFirst]
    rfl
  · have hTrail : p.latest? ([] ++ (pre.filter g.heeds).map (·.kind)) = p.latest? (pre.map (·.kind)) := by
      rw [List.nil_append, map_kind_filter_heeds]
      exact Pairing.latest?_filter (fun k hk => decide_eq_true (hSkip k hk)) _
    cases hBreaks with
    | pause hp' hNext hLatest =>
      cases hp.symm.trans hp'
      rwa [hTrail] at hLatest
    | play hp' hNext hNe' hLatest =>
      cases hp.symm.trans hp'
      rw [hTrail] at hLatest
      rw [hLatest]
      exact fun hEq => hNe (Option.some_inj.mp hEq)

theorem alternatesTruly_of_unpaired (hp : g.pairing = some p) (hNe : p.play ≠ p.pause)
    (hSkip : ∀ k, p.Has k → k ∉ g.skipped) (hWild : ∀ k, p.Has k → k ∉ g.wildcards)
    (hInitial : ¬ p.Has g.initial) (kinds : List Kind) : g.AlternatesTruly p kinds := by
  have hKeeps : ∀ k, p.Has k → decide (k ∉ g.wildcards) = true := fun k hk =>
    decide_eq_true (hWild k hk)
  constructor
  · intro hCheck
    rw [← Pairing.alternates_filter hKeeps]
    cases hKinds : kinds.filter (· ∉ g.wildcards) with
    | nil => exact p.alternates_nil
    | cons first rest =>
      obtain ⟨rfl, -⟩ := check_eq_ok_iff_trail.mp hCheck first rest hKinds
      rw [Pairing.alternates_cons_of_not hInitial]
      exact alternates_rest hp hSkip hCheck hKinds
  · intro index kind expected hCheck
    obtain ⟨before, hBefore, hLatest⟩ := latest?_ne_of_unpaired hp hNe hSkip hCheck
    rwa [← Pairing.latest?_filter hKeeps, hBefore, Pairing.latest?_cons_of_not hInitial]

theorem check_initial (g : Grammar) : g.check [g.initial] = .ok () := by
  refine check_eq_ok_iff_trail.mpr fun first rest hKinds => ?_
  have hKept : [g.initial].filter (· ∉ g.wildcards) = [g.initial] := by
    simp [g.initial_not_mem_wildcards]
  cases hKept.symm.trans hKinds
  exact ⟨rfl, g.obeys_nil⟩

theorem check_play_pause (hp : g.pairing = some p) (hWild : ∀ k, p.Has k → k ∉ g.wildcards)
    (hInitial : g.initial = p.play) :
    g.check [p.play, p.pause] = .error ⟨1, .unpairedPlayPause p.pause p.play⟩ := by
  have hEvents : g.meaningful (Located.ofKinds [p.play, p.pause]) = [⟨0, p.play⟩, ⟨1, p.pause⟩] := by
    simp [meaningful, Located.ofKinds, hWild]
  have hKnown : g.Declares p.pause :=
    declares_of_mem_references (r := (.pairing, p.pause)) (by simp [Spec.references, hp])
  have hNone : p.latest? [] ≠ some p.play := by simp
  refine check_eq_error_iff.mpr ⟨_, _, hEvents, .inr ⟨hInitial.symm, ?_⟩⟩
  refine ⟨[], ⟨1, p.pause⟩, [], rfl, rfl, g.obeys_nil, .pause hp rfl hNone, fun b hb => ?_⟩
  cases hb with
  | duplicate _ hIn => cases hIn
  | unknown hNot => exact absurd hKnown hNot
  | pause => simp
  | play => simp
  | forbidden => simp

/-- The kinds of the pairing alternate in every accepted sequence, and every report of an unpaired kind
is true of the events before it, exactly when the initial kind is not of the pairing. -/
theorem alternatesTruly_iff_initial_unpaired (hp : g.pairing = some p) (hNe : p.play ≠ p.pause)
    (hSkip : ∀ k, p.Has k → k ∉ g.skipped) (hWild : ∀ k, p.Has k → k ∉ g.wildcards) :
    (∀ kinds, g.AlternatesTruly p kinds) ↔ ¬ p.Has g.initial := by
  constructor
  · intro hAll hInitial
    rcases hInitial with hPlay | hPause
    · refine (hAll [p.play, p.pause]).2 1 p.pause p.play (check_play_pause hp hWild hPlay) ?_
      simp [Pairing.latest?]
    · have hAlternates := (hAll [g.initial]).1 g.check_initial
      have hHead : p.pause = p.play := hAlternates.1 p.pause (by simp [hPause])
      exact hNe hHead.symm
  · intro hInitial
    exact alternatesTruly_of_unpaired hp hNe hSkip hWild hInitial

theorem reference_alternatesTruly :
    reference.pairing = some ⟨"playing", "paused"⟩ ∧
      ∀ kinds, reference.AlternatesTruly ⟨"playing", "paused"⟩ kinds := by
  have hPairing : reference.pairing = some ⟨"playing", "paused"⟩ := rfl
  have hSkip : ∀ k, Pairing.Has ⟨"playing", "paused"⟩ k → k ∉ reference.skipped := by
    rintro k (rfl | rfl) <;> decide +kernel
  have hWild : ∀ k, Pairing.Has ⟨"playing", "paused"⟩ k → k ∉ reference.wildcards := by
    rintro k (rfl | rfl) <;> decide +kernel
  have hInitial : ¬ Pairing.Has ⟨"playing", "paused"⟩ reference.initial := by decide
  exact ⟨hPairing,
    (alternatesTruly_iff_initial_unpaired hPairing (by decide) hSkip hWild).mpr hInitial⟩

/-- A grammar whose sessions open while the player is playing. -/
def autoplay : Grammar where
  initial := "playing"
  transitions := .ofList [("playing", .empty), ("paused", .empty)]
  pairing := some ⟨"playing", "paused"⟩
  consistent := by decide +kernel

theorem autoplay_misses_opening :
    autoplay.check ["playing", "playing"] = .ok () ∧
      autoplay.check ["playing", "paused"] = .error ⟨1, .unpairedPlayPause "paused" "playing"⟩ ∧
      Pairing.latest? ⟨"playing", "paused"⟩ (["playing", "paused"].take 1) = some "playing" := by
  decide +kernel

end Grammar

end PlayerSession
