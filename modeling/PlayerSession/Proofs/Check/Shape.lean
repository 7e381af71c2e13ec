import Mathlib.Data.List.Chain
import Mathlib.Data.List.Induction
import PlayerSession.Proofs.Check.Visited

/-! The shape of a trail that obeys the rules, rule by rule: no once-only kind comes twice, every kind
is declared, the kinds of the pairing alternate, and no kind is forbidden by the one before it. -/

namespace PlayerSession

namespace Pairing

variable {p : Pairing} {kinds : List Kind} {k : Kind}

/-- The kinds of the pairing alternate: the first is `play`, and no two in a row are the same. -/
def Alternates (p : Pairing) (kinds : List Kind) : Prop :=
  (∀ k ∈ (kinds.filter (p.Has ·)).head?, k = p.play) ∧ (kinds.filter (p.Has ·)).IsChain (· ≠ ·)

theorem alternates_nil (p : Pairing) : p.Alternates [] := ⟨by simp, by simp⟩

theorem filter_has_cons_of_not (hk : ¬ p.Has k) :
    (k :: kinds).filter (p.Has ·) = kinds.filter (p.Has ·) :=
  List.filter_cons_of_neg (by simpa using hk)

theorem alternates_cons_of_not (hk : ¬ p.Has k) :
    p.Alternates (k :: kinds) ↔ p.Alternates kinds := by
  rw [Alternates, filter_has_cons_of_not hk]
  rfl

theorem latest?_cons_of_not (hk : ¬ p.Has k) : p.latest? (k :: kinds) = p.latest? kinds := by
  rw [latest?, filter_has_cons_of_not hk]
  rfl

theorem alternates_concat_of_not (hk : ¬ p.Has k) :
    p.Alternates (kinds ++ [k]) ↔ p.Alternates kinds := by
  rw [Alternates, List.filter_append, List.filter_cons_of_neg (by simpa using hk), List.filter_nil,
    List.append_nil]
  rfl

theorem alternates_concat (hk : p.Has k) :
    p.Alternates (kinds ++ [k]) ↔
      p.Alternates kinds ∧ (p.latest? kinds = none → k = p.play) ∧ p.latest? kinds ≠ some k := by
  rw [Alternates, Alternates, latest?, List.filter_append,
    List.filter_cons_of_pos (by simpa using hk), List.filter_nil]
  generalize kinds.filter (p.Has ·) = paired
  rcases List.eq_nil_or_concat' paired with rfl | ⟨paired, last, rfl⟩
  · simp
  · rw [List.isChain_append]
    simp only [List.getLast?_concat, List.head?_append, Option.mem_def, List.head?_cons]
    simp [and_assoc]

/-- The alternation rule on a list as a whole.  Where `play` and `pause` are one kind, the list may not
have it. -/
structure Kept (p : Pairing) (kinds : List Kind) : Prop where
  alternates : p.Alternates kinds
  distinct : p.play = p.pause → p.latest? kinds = none

theorem kept_nil (p : Pairing) : p.Kept [] := ⟨p.alternates_nil, fun _ => rfl⟩

theorem kept_concat_of_not (hk : ¬ p.Has k) : p.Kept (kinds ++ [k]) ↔ p.Kept kinds := by
  have hAlternates : p.Alternates (kinds ++ [k]) ↔ p.Alternates kinds := alternates_concat_of_not hk
  have hLatest : p.latest? (kinds ++ [k]) = p.latest? kinds := by rw [latest?_concat, if_neg hk]
  constructor
  · rintro ⟨h1, h2⟩
    exact ⟨hAlternates.mp h1, fun hEq => hLatest ▸ h2 hEq⟩
  · rintro ⟨h1, h2⟩
    exact ⟨hAlternates.mpr h1, fun hEq => hLatest ▸ h2 hEq⟩

theorem kept_concat (hk : p.Has k) :
    p.Kept (kinds ++ [k]) ↔ p.Kept kinds ∧ p.play ≠ p.pause ∧
      (p.latest? kinds = none → k = p.play) ∧ p.latest? kinds ≠ some k := by
  constructor
  · rintro ⟨h1, h2⟩
    have hNe : p.play ≠ p.pause := fun hEq => by
      have hNone := h2 hEq
      rw [latest?_concat, if_pos hk] at hNone
      cases hNone
    obtain ⟨hBefore, hHere⟩ := (alternates_concat hk).mp h1
    exact ⟨⟨hBefore, fun hEq => absurd hEq hNe⟩, hNe, hHere⟩
  · rintro ⟨h, hNe, hHere⟩
    exact ⟨(alternates_concat hk).mpr ⟨h.alternates, hHere⟩, fun hEq => absurd hEq hNe⟩

/-- One more kind keeps the alternation when `pause` comes after `play`, and `play` not after `play`. -/
theorem kept_concat_iff :
    p.Kept (kinds ++ [k]) ↔ p.Kept kinds ∧ (k = p.pause → p.latest? kinds = some p.play) ∧
      (k = p.play → k ≠ p.pause → p.latest? kinds ≠ some p.play) := by
  by_cases hk : p.Has k
  · rw [kept_concat hk]
    refine and_congr_right fun h => ?_
    constructor
    · rintro ⟨hNe, hFirst, hLast⟩
      refine ⟨?_, fun hPlay _ => hPlay ▸ hLast⟩
      rintro rfl
      cases hOpt : p.latest? kinds with
      | none => exact absurd (hFirst hOpt).symm hNe
      | some k =>
        rcases has_of_latest? hOpt with rfl | rfl
        · rfl
        · exact absurd hOpt hLast
    · rintro ⟨hPause, hPlay⟩
      have hNe : p.play ≠ p.pause := fun hEq => by
        have hSome := hPause (hk.elim (·.trans hEq) id)
        rw [h.distinct hEq] at hSome
        cases hSome
      rcases hk with rfl | rfl
      · exact ⟨hNe, fun _ => rfl, hPlay rfl hNe⟩
      · rw [hPause rfl]
        exact ⟨hNe, nofun, fun hEq => hNe (Option.some_inj.mp hEq)⟩
  · rw [kept_concat_of_not hk]
    exact (and_iff_left ⟨fun h => absurd (.inr h) hk, fun h => absurd (.inl h) hk⟩).symm

end Pairing

namespace Grammar

variable {g : Grammar} {trail : List Kind} {next : Kind}

/-- The rules on a trail as a whole. -/
structure Shaped (g : Grammar) (trail : List Kind) : Prop where
  once : ∀ k ∈ g.onceOnly, trail.count k ≤ 1
  declared : ∀ k ∈ trail, g.Declares k
  paired : ∀ p, g.pairing = some p → p.Kept trail
  allowed : (g.initial :: trail).IsChain fun current next => ¬ g.Forbids current next

theorem shaped_nil (g : Grammar) : g.Shaped [] where
  once := by simp
  declared := by simp
  paired p _ := p.kept_nil
  allowed := by simp

theorem once_concat :
    (∀ k ∈ g.onceOnly, (trail ++ [next]).count k ≤ 1) ↔
      (∀ k ∈ g.onceOnly, trail.count k ≤ 1) ∧ ¬ (next ∈ g.onceOnly ∧ next ∈ trail) := by
  simp only [List.count_append, List.count_singleton, beq_iff_eq]
  constructor
  · intro h
    constructor
    · intro k hk
      have hCount := h k hk
      omega
    · rintro ⟨hOnce, hIn⟩
      have hCount := h next hOnce
      have hPos := List.count_pos_iff.mpr hIn
      rw [if_pos rfl] at hCount
      omega
  · rintro ⟨h, hNew⟩ k hk
    by_cases hEq : next = k
    · subst hEq
      rw [if_pos rfl, List.count_eq_zero_of_not_mem fun hIn => hNew ⟨hk, hIn⟩]
    · rw [if_neg hEq]
      exact h k hk

theorem allowed_concat {R : Kind → Kind → Prop} :
    (g.initial :: (trail ++ [next])).IsChain R ↔
      (g.initial :: trail).IsChain R ∧ R (g.lastVisited trail) next := by
  rw [← List.cons_append, List.isChain_append]
  simp [lastVisited, List.getLast?_cons]

theorem shaped_concat :
    g.Shaped (trail ++ [next]) ↔ g.Shaped trail ∧ ∀ b, ¬ g.Breaks trail next b := by
  rw [clean_iff]
  constructor
  · intro h
    have hOnce := once_concat.mp h.once
    have hAllowed := allowed_concat.mp h.allowed
    have hPaired := fun p hp => Pairing.kept_concat_iff.mp (h.paired p hp)
    have hBefore : g.Shaped trail := ⟨hOnce.1, fun k hk => h.declared k (List.mem_append_left _ hk),
      fun p hp => (hPaired p hp).1, hAllowed.1⟩
    have hKnown : g.Declares next := h.declared next (by simp)
    exact ⟨hBefore, hOnce.2, hKnown, fun p hp => (hPaired p hp).2, hAllowed.2⟩
  · rintro ⟨h, hNew, hKnown, hPaired, hAllowed⟩
    have hDeclared : ∀ k ∈ trail ++ [next], g.Declares k := by
      intro k hk
      rcases List.mem_append.mp hk with hk | hk
      · exact h.declared k hk
      · cases List.mem_singleton.mp hk
        exact hKnown
    exact ⟨once_concat.mpr ⟨h.once, hNew⟩, hDeclared,
      fun p hp => Pairing.kept_concat_iff.mpr ⟨h.paired p hp, hPaired p hp⟩,
      allowed_concat.mpr ⟨h.allowed, hAllowed⟩⟩

/-- A trail obeys the rules visit by visit exactly when it has the shape that they demand. -/
theorem obeys_iff_shaped : g.Obeys trail ↔ g.Shaped trail := by
  induction trail using List.reverseRecOn with
  | nil => exact ⟨fun _ => g.shaped_nil, fun _ => g.obeys_nil⟩
  | append_singleton trail next ih => rw [obeys_concat, shaped_concat, ih]

end Grammar

end PlayerSession
