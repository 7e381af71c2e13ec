import PlayerSession.Proofs.Check.Noise
import PlayerSession.Proofs.Kind

/-! Grammars that ask less.  `g'` relaxes `g` when it opens, skips and leaves out the same kinds,
keeps every entry of `g` with fewer kinds forbidden, and has fewer once-only kinds and no other
pairing.  The entries that `g'` adds may forbid anything: as long as `g` has no violation, every kind
visited is declared by `g`, so no entry of `g'` is asked that `g` lacks.  A visit that breaks no rule
of `g` then breaks none of `g'`, and a check by `g'` stops no earlier than one by `g`. -/

namespace PlayerSession

namespace Grammar

variable {g g' : Grammar} {kind current next : Kind} {trail kinds : List Kind}
  {events : List Located} {v : Violation}

/-- `g'` asks nothing that `g` does not ask. -/
structure Relaxes (g' g : Grammar) : Prop where
  initial : g'.initial = g.initial
  skipped : g'.skipped = g.skipped
  wildcards : g'.wildcards = g.wildcards
  rows : ∀ kind forbidden, g.transitions.get? kind = some forbidden →
    ∃ forbidden', g'.transitions.get? kind = some forbidden' ∧ ∀ k ∈ forbidden', k ∈ forbidden
  onceOnly : ∀ kind ∈ g'.onceOnly, kind ∈ g.onceOnly
  pairing : g'.pairing = g.pairing ∨ g'.pairing = none

theorem relaxes_iff :
    g'.Relaxes g ↔
      g'.initial = g.initial ∧ g'.skipped = g.skipped ∧ g'.wildcards = g.wildcards ∧
        (∀ e ∈ g.transitions.entries,
          ∃ forbidden ∈ g'.transitions.get? e.1, ∀ k ∈ forbidden.keys, k ∈ e.2) ∧
        (∀ kind ∈ g'.onceOnly.keys, kind ∈ g.onceOnly) ∧
        (g'.pairing = g.pairing ∨ g'.pairing = none) := by
  constructor
  · rintro ⟨hInitial, hSkipped, hWild, hRows, hOnce, hPairing⟩
    refine ⟨hInitial, hSkipped, hWild, ?_, hOnce, hPairing⟩
    rintro ⟨kind, forbidden⟩ hEntry
    exact hRows kind forbidden (KindMap.get?_eq_some_iff.mpr hEntry)
  · rintro ⟨hInitial, hSkipped, hWild, hRows, hOnce, hPairing⟩
    refine ⟨hInitial, hSkipped, hWild, ?_, hOnce, hPairing⟩
    intro kind forbidden hGet
    exact hRows (kind, forbidden) (KindMap.get?_eq_some_iff.mp hGet)

instance (g' g : Grammar) : Decidable (g'.Relaxes g) := decidable_of_iff' _ relaxes_iff

/-! ### Kinds that are declared -/

theorem Obeys.declares (h : g.Obeys trail) (hKind : kind ∈ trail) : g.Declares kind := by
  obtain ⟨before, after, rfl⟩ := List.append_of_mem hKind
  exact (clean_iff.mp (h before kind after rfl)).2.1

theorem Obeys.declares_lastVisited (h : g.Obeys trail) : g.Declares (g.lastVisited trail) := by
  rcases List.mem_cons.mp (g.lastVisited_mem trail) with hInitial | hTrail
  · rw [hInitial]
    exact g.declares_initial
  · exact h.declares hTrail

/-! ### Visits -/

namespace Relaxes

theorem declares (h : g'.Relaxes g) (hKind : g.Declares kind) : g'.Declares kind := by
  obtain ⟨forbidden, hGet⟩ := KindMap.mem_iff_exists_get?.mp hKind
  obtain ⟨forbidden', hGet', -⟩ := h.rows kind forbidden hGet
  exact KindMap.mem_iff_exists_get?.mpr ⟨forbidden', hGet'⟩

theorem forbids (h : g'.Relaxes g) (hCurrent : g.Declares current)
    (hForbids : g'.Forbids current next) : g.Forbids current next := by
  obtain ⟨forbidden, hGet⟩ := KindMap.mem_iff_exists_get?.mp hCurrent
  obtain ⟨forbidden', hGet', hFewer⟩ := h.rows current forbidden hGet
  obtain ⟨kinds, hKinds, hNext⟩ := hForbids
  cases hGet'.symm.trans hKinds
  exact ⟨forbidden, hGet, hFewer next hNext⟩

theorem pairing_eq_some {p : Pairing} (h : g'.Relaxes g) (hp : g'.pairing = some p) :
    g.pairing = some p := by
  rcases h.pairing with hSame | hNone
  · exact hSame.symm.trans hp
  · cases hNone.symm.trans hp

theorem lastVisited_eq (h : g'.Relaxes g) (trail : List Kind) :
    g'.lastVisited trail = g.lastVisited trail := by
  rw [lastVisited, lastVisited, h.initial]

/-- What breaks no rule of the stricter grammar breaks none of the relaxed one. -/
theorem clean (h : g'.Relaxes g) (hTrail : g.Obeys trail)
    (hClean : ∀ b, ¬ g.Breaks trail next b) : ∀ b, ¬ g'.Breaks trail next b := by
  obtain ⟨hNew, hKnown, hPaired, hAllowed⟩ := clean_iff.mp hClean
  intro b hb
  cases hb with
  | duplicate hOnce hIn => exact hNew ⟨h.onceOnly next hOnce, hIn⟩
  | unknown hNot => exact hNot (h.declares hKnown)
  | pause hp hNext hLatest => exact hLatest ((hPaired _ (h.pairing_eq_some hp)).1 hNext)
  | play hp hNext hNe hLatest => exact (hPaired _ (h.pairing_eq_some hp)).2 hNext hNe hLatest
  | forbidden hNot =>
    rw [h.lastVisited_eq] at hNot
    exact hAllowed (h.forbids hTrail.declares_lastVisited hNot)

theorem obeys (h : g'.Relaxes g) (hTrail : g.Obeys trail) : g'.Obeys trail := by
  rintro before next after rfl
  exact h.clean hTrail.left (hTrail before next after rfl)

/-! ### Routes -/

theorem judge_eq_ok (h : g'.Relaxes g) (hJudge : g.judge events = .ok ()) :
    g'.judge events = .ok () := by
  cases events with
  | nil => rfl
  | cons first rest =>
    obtain ⟨hFirst, hObeys⟩ := judge_cons_eq_ok_iff.mp hJudge
    exact judge_cons_eq_ok_iff.mpr ⟨hFirst.trans h.initial.symm, h.obeys hObeys⟩

theorem visited_eq (h : g'.Relaxes g) (events : List Located) :
    g'.visited events = g.visited events := by
  rcases List.eq_nil_or_concat' events with rfl | ⟨events, last, rfl⟩
  · rfl
  · have hHeeds : g'.heeds = g.heeds := by
      funext e
      rw [heeds, heeds, h.skipped]
    rw [visited_concat, visited_concat, hHeeds]

theorem route_eq (h : g'.Relaxes g) (kinds : List Kind) :
    g'.route (g'.meaningful (Located.ofKinds kinds)) =
      g.route (g.meaningful (Located.ofKinds kinds)) := by
  have hMeaningful : g'.meaningful (Located.ofKinds kinds) =
      g.meaningful (Located.ofKinds kinds) := by
    rw [meaningful, meaningful, h.wildcards]
  rw [hMeaningful]
  cases g.meaningful (Located.ofKinds kinds) with
  | nil => rfl
  | cons first rest => rw [route, route, h.visited_eq]

theorem exists_earlier (h : g'.Relaxes g) (hCheck : g'.check kinds = .error v) :
    ∃ v₀, g.check kinds = .error v₀ ∧ v₀.index ≤ v.index := by
  rw [check_eq_judge, h.route_eq] at hCheck
  obtain ⟨before, e, after, hRoute, hIndex, hStop⟩ := exists_stop_of_judge hCheck
  have hPairwise : (before ++ [e]).Pairwise Located.Before := by
    have hAll := (g.pairwise_meaningful kinds).sublist (g.route_sublist _)
    rw [hRoute, List.append_cons] at hAll
    exact (List.pairwise_append.mp hAll).1
  -- the events up to the stop of `g'` are not all right for `g` either
  cases hJudge : g.judge (before ++ [e]) with
  | ok =>
    rw [h.judge_eq_ok hJudge] at hStop
    cases hStop
  | error v₀ =>
    refine ⟨v₀, ?_, ?_⟩
    · rw [check_eq_judge, hRoute, List.append_cons]
      exact judge_append_of_error hJudge
    · obtain ⟨front, d, back, hSplit, hIndex₀, -⟩ := exists_stop_of_judge hJudge
      rw [hIndex, hIndex₀]
      apply index_le_of_pairwise_concat hPairwise
      rw [hSplit]
      exact List.mem_append_right front List.mem_cons_self

end Relaxes

/-- What a relaxed grammar refuses, the stricter one refuses at the same place or before it.  What
the stricter one accepts, the relaxed one accepts. -/
theorem check_relaxed (h : g'.Relaxes g) (kinds : List Kind) :
    (∀ v', g'.check kinds = .error v' →
      ∃ v, g.check kinds = .error v ∧ v.index ≤ v'.index) ∧
    (g.check kinds = .ok () → g'.check kinds = .ok ()) := by
  refine ⟨fun v' hCheck => h.exists_earlier hCheck, fun hCheck => ?_⟩
  cases hRelaxed : g'.check kinds with
  | ok => rfl
  | error v' =>
    obtain ⟨v, hError, -⟩ := h.exists_earlier hRelaxed
    cases hCheck.symm.trans hError

/-- The reference grammar without its alternation, with two once-only kinds, with little forbidden
after `stopped`, and with a kind of its own. -/
def lenient : Grammar where
  toSpec := { Spec.reference with
    transitions := (Spec.reference.transitions.insert "stopped" (.ofList ["init", "error"])).insert
      "chapter" (.ofList ["init", "playing"])
    onceOnly := .ofList ["init", "loaded"]
    pairing := none }
  consistent := by decide +kernel

/-- Here the relaxed grammar stops where its own kind forbids the next one, and the reference
grammar stops before that, where a second `playing` follows the first. -/
theorem check_lenient :
    lenient.Relaxes reference ∧
      lenient.check ["init", "playing", "warning", "playing", "chapter", "playing"] =
        .error ⟨5, .forbiddenTransition "chapter" "playing"⟩ ∧
      (∃ v, reference.check ["init", "playing", "warning", "playing", "chapter", "playing"] =
        .error v ∧ v.index ≤ 5) ∧
      lenient.check ["init", "playing", "paused", "stopped"] = .ok () := by
  have hRelaxes : lenient.Relaxes reference := by decide +kernel
  have hCheck : lenient.check ["init", "playing", "warning", "playing", "chapter", "playing"] =
      .error ⟨5, .forbiddenTransition "chapter" "playing"⟩ := by decide +kernel
  have hAccepted : reference.check ["init", "playing", "paused", "stopped"] = .ok () := by
    decide +kernel
  exact ⟨hRelaxes, hCheck, (check_relaxed hRelaxes _).1 _ hCheck,
    (check_relaxed hRelaxes _).2 hAccepted⟩

end Grammar

end PlayerSession
